import SolanaIdls.Common

/-!
# Sanctum router instructions

`sanctum::instructions::unpack` of `src/sanctum/instructions.rs`: a tag byte, then for five of
the nine instructions an amount, a little-endian `u64` read by the helper `read_u64`. Unlike the
crate's other hand-written decoders, the arms do not check the length themselves: `read_u64`
does, on the payload it is given, so that a short amount is reported with the length of the
payload, one less than the input's. Each amount arm is the prefix reader of a `u64` reporting
that length (`unpack_amount_arm`), and every input whose amount is short is reported one byte
short of its length (`unpack_short_amount_reports_payload_length`).

As a whole, the decoder accepts exactly the layout of an instruction, its tag and its amount if
it has one, followed by any bytes (`sanctum_unpack_eq_ok_iff`).
-/

namespace SolanaIdls.sanctum.instructions

open Borsh Borsh.Codec

/-! ## Tags and instructions -/

def STAKE_WRAPPED_SOL : UInt8 := 0
def SWAP_VIA_STAKE : UInt8 := 1
def CREATE_FEE_TOKEN_ACCOUNT : UInt8 := 2
def CLOSE_FEE_TOKEN_ACCOUNT : UInt8 := 3
def WITHDRAW_FEES : UInt8 := 4
def DEPOSIT_STAKE : UInt8 := 5
def PREFUND_WITHDRAW_STAKE : UInt8 := 6
def PREFUND_SWAP_VIA_STAKE : UInt8 := 7
def WITHDRAW_WRAPPED_SOL : UInt8 := 8

/-- `SanctumInstruction`. -/
inductive SanctumInstruction where
  | StakeWrappedSol (amount : UInt64)
  | SwapViaStake (amount : UInt64)
  | CreateFeeTokenAccount
  | CloseFeeTokenAccount
  | WithdrawFees
  | DepositStake
  | PrefundWithdrawStake (amount : UInt64)
  | PrefundSwapViaStake (amount : UInt64)
  | WithdrawWrappedSol (amount : UInt64)
  | Unknown
  deriving DecidableEq

/-! ## The decoder -/

/-- `read_u64`: the first 8 bytes of the slice it is given, after checking their number. -/
def read_u64 (data : List UInt8) : Outcome ParseError UInt64 := do
  if data.length < 8 then
    .err (.TooShort data.length)
  else
    let bytes ← Outcome.expect (Slice.try_into (← Slice.range_to data 8) 8)
    return u64_from_le_bytes bytes

/-- The `match disc` of `try_from`, on the payload after the tag. -/
def dispatch (disc : UInt8) (payload : List UInt8) : Outcome ParseError SanctumInstruction := do
  if disc = STAKE_WRAPPED_SOL then
    return .StakeWrappedSol (← read_u64 payload)
  else if disc = SWAP_VIA_STAKE then
    return .SwapViaStake (← read_u64 payload)
  else if disc = CREATE_FEE_TOKEN_ACCOUNT then
    return .CreateFeeTokenAccount
  else if disc = CLOSE_FEE_TOKEN_ACCOUNT then
    return .CloseFeeTokenAccount
  else if disc = WITHDRAW_FEES then
    return .WithdrawFees
  else if disc = DEPOSIT_STAKE then
    return .DepositStake
  else if disc = PREFUND_WITHDRAW_STAKE then
    return .PrefundWithdrawStake (← read_u64 payload)
  else if disc = PREFUND_SWAP_VIA_STAKE then
    return .PrefundSwapViaStake (← read_u64 payload)
  else if disc = WITHDRAW_WRAPPED_SOL then
    return .WithdrawWrappedSol (← read_u64 payload)
  else
    .err (.Unknown ⟨[disc, 0, 0, 0, 0, 0, 0, 0], rfl⟩)

/-- `SanctumInstruction::try_from`. -/
def try_from (data : List UInt8) : Outcome ParseError SanctumInstruction := do
  if data.isEmpty then
    .err (.TooShort data.length)
  else
    let disc ← Slice.index data 0
    let payload ← Slice.range_from data 1
    dispatch disc payload

/-- `unpack`, which forwards to `try_from`. -/
def unpack (data : List UInt8) : Outcome ParseError SanctumInstruction :=
  try_from data

/-- A non-empty input is dispatched on its first byte. -/
theorem try_from_cons (tag : UInt8) (payload : List UInt8) :
    try_from (tag :: payload) = dispatch tag payload := by
  have hrest : (Slice.range_from (tag :: payload) 1 : Outcome ParseError (List UInt8)) =
      .ok payload :=
    Slice.range_from_append (s := [tag]) rfl payload
  simp only [try_from, List.isEmpty_cons, Bool.false_eq_true, if_false, Slice.index_cons_zero,
    Outcome.ok_bind, hrest]

theorem read_u64_of_lt {data : List UInt8} (h : data.length < 8) :
    read_u64 data = .err (.TooShort data.length) := by
  simp [read_u64, h]

/-- `read_u64` reads back the eight bytes Borsh writes for a `u64`, whatever follows them. -/
theorem read_u64_write (v : UInt64) (t : List UInt8) : read_u64 (u64.write v ++ t) = .ok v := by
  have hv : (u64.write v).length = 8 := fixedWidth_u64.length_write v
  have hlen : ¬(u64.write v ++ t).length < 8 := by
    simp [hv]
  have hcut : (Slice.range_to (u64.write v ++ t) 8 : Outcome ParseError (List UInt8)) =
      .ok (u64.write v) := by
    rw [Slice.range_to_of_le (by simp [hv]), List.take_left' hv]
  rw [read_u64, if_neg hlen, hcut, Outcome.ok_bind, Slice.expect_try_into_of_length hv]
  exact congrArg Outcome.ok (u64_from_le_bytes_write v hv)

/-! ## The amount arms -/

/-- The arms that read an amount, with the variant each builds. -/
def amount_arms : List (UInt8 × (UInt64 → SanctumInstruction)) :=
  [(STAKE_WRAPPED_SOL, .StakeWrappedSol), (SWAP_VIA_STAKE, .SwapViaStake),
   (PREFUND_WITHDRAW_STAKE, .PrefundWithdrawStake), (PREFUND_SWAP_VIA_STAKE, .PrefundSwapViaStake),
   (WITHDRAW_WRAPPED_SOL, .WithdrawWrappedSol)]

/-- Behind the tag of an amount arm, the decoder is `read_u64` on the payload. -/
theorem dispatch_of_amount_arm {tag : UInt8} {V : UInt64 → SanctumInstruction}
    (hmem : (tag, V) ∈ amount_arms) (payload : List UInt8) :
    dispatch tag payload = (do return V (← read_u64 payload)) := by
  simp only [amount_arms, List.mem_cons, Prod.mk.injEq, List.not_mem_nil, or_false] at hmem
  rcases hmem with ⟨rfl, rfl⟩ | ⟨rfl, rfl⟩ | ⟨rfl, rfl⟩ | ⟨rfl, rfl⟩ | ⟨rfl, rfl⟩ <;>
    simp [dispatch, STAKE_WRAPPED_SOL, SWAP_VIA_STAKE, CREATE_FEE_TOKEN_ACCOUNT,
      CLOSE_FEE_TOKEN_ACCOUNT, WITHDRAW_FEES, DEPOSIT_STAKE, PREFUND_WITHDRAW_STAKE,
      PREFUND_SWAP_VIA_STAKE, WITHDRAW_WRAPPED_SOL]

theorem unpack_amount_arm_of_lt {tag : UInt8} {V : UInt64 → SanctumInstruction}
    (hmem : (tag, V) ∈ amount_arms) {payload : List UInt8} (h : payload.length < 8) :
    unpack (tag :: payload) = .err (.TooShort payload.length) := by
  rw [unpack, try_from_cons, dispatch_of_amount_arm hmem, read_u64_of_lt h]
  rfl

theorem unpack_amount_arm_write {tag : UInt8} {V : UInt64 → SanctumInstruction}
    (hmem : (tag, V) ∈ amount_arms) (v : UInt64) (t : List UInt8) :
    unpack (tag :: (u64.write v ++ t)) = .ok (V v) := by
  rw [unpack, try_from_cons, dispatch_of_amount_arm hmem, read_u64_write]
  rfl

/-- An amount arm is the prefix reader of a `u64`, reporting a short payload with its own
length. -/
theorem unpack_amount_arm {tag : UInt8} {V : UInt64 → SanctumInstruction}
    (hmem : (tag, V) ∈ amount_arms) (payload : List UInt8) :
    unpack (tag :: payload) = prefix_arm u64 8 V payload.length payload :=
  eq_prefix_arm fixedWidth_u64 onto_u64 (fun _ h => unpack_amount_arm_of_lt hmem h)
    (unpack_amount_arm_write hmem) payload

/-- An input whose amount is short is reported with the payload's length, one less than its
own. -/
theorem unpack_short_amount_reports_payload_length {tag : UInt8} {V : UInt64 → SanctumInstruction}
    (hmem : (tag, V) ∈ amount_arms) {payload : List UInt8} (h : payload.length < 8) :
    unpack (tag :: payload) = .err (.TooShort payload.length) ∧
      unpack (tag :: payload) ≠ .err (.TooShort (tag :: payload).length) := by
  have hshort : unpack (tag :: payload) = .err (.TooShort payload.length) := by
    rw [unpack_amount_arm hmem, prefix_arm, if_pos h]
  refine ⟨hshort, ?_⟩
  -- the two lengths differ by the tag byte
  rw [hshort, List.length_cons]
  simp

theorem unpack_short_amount_reports_payload_length_on_tag_only :
    (STAKE_WRAPPED_SOL, SanctumInstruction.StakeWrappedSol) ∈ amount_arms ∧
      ([] : List UInt8).length < 8 ∧
      unpack [STAKE_WRAPPED_SOL] = .err (.TooShort 0) ∧
      unpack [STAKE_WRAPPED_SOL] ≠ .err (.TooShort 1) := by
  have hmem : (STAKE_WRAPPED_SOL, SanctumInstruction.StakeWrappedSol) ∈ amount_arms := by
    simp [amount_arms]
  exact ⟨hmem, by decide, unpack_short_amount_reports_payload_length hmem (by decide)⟩

/-- An instruction without an amount is read whatever follows its tag. -/
theorem unpack_bare {tag : UInt8} {i : SanctumInstruction}
    (hmem : (tag, i) ∈ [(CREATE_FEE_TOKEN_ACCOUNT, SanctumInstruction.CreateFeeTokenAccount),
      (CLOSE_FEE_TOKEN_ACCOUNT, .CloseFeeTokenAccount), (WITHDRAW_FEES, .WithdrawFees),
      (DEPOSIT_STAKE, .DepositStake)]) (payload : List UInt8) :
    unpack (tag :: payload) = .ok i := by
  simp only [List.mem_cons, Prod.mk.injEq, List.not_mem_nil, or_false] at hmem
  rw [unpack, try_from_cons]
  rcases hmem with ⟨rfl, rfl⟩ | ⟨rfl, rfl⟩ | ⟨rfl, rfl⟩ | ⟨rfl, rfl⟩ <;>
    simp [dispatch, STAKE_WRAPPED_SOL, SWAP_VIA_STAKE, CREATE_FEE_TOKEN_ACCOUNT,
      CLOSE_FEE_TOKEN_ACCOUNT, WITHDRAW_FEES, DEPOSIT_STAKE]

/-! ## The decoder as a whole -/

/-- What the program is sent for an instruction: its tag, then its amount when it has one.
`Unknown` is no instruction of the program and has no encoding. -/
def SanctumInstruction.write : SanctumInstruction → List UInt8
  | .StakeWrappedSol amount => STAKE_WRAPPED_SOL :: u64.write amount
  | .SwapViaStake amount => SWAP_VIA_STAKE :: u64.write amount
  | .CreateFeeTokenAccount => [CREATE_FEE_TOKEN_ACCOUNT]
  | .CloseFeeTokenAccount => [CLOSE_FEE_TOKEN_ACCOUNT]
  | .WithdrawFees => [WITHDRAW_FEES]
  | .DepositStake => [DEPOSIT_STAKE]
  | .PrefundWithdrawStake amount => PREFUND_WITHDRAW_STAKE :: u64.write amount
  | .PrefundSwapViaStake amount => PREFUND_SWAP_VIA_STAKE :: u64.write amount
  | .WithdrawWrappedSol amount => WITHDRAW_WRAPPED_SOL :: u64.write amount
  | .Unknown => []

/-- Every instruction is read back from its layout, whatever follows it. -/
theorem unpack_write_append (i : SanctumInstruction) (h : i ≠ .Unknown) (t : List UInt8) :
    unpack (i.write ++ t) = .ok i := by
  cases i
  case StakeWrappedSol v | SwapViaStake v | PrefundWithdrawStake v | PrefundSwapViaStake v |
      WithdrawWrappedSol v =>
    exact unpack_amount_arm_write (by simp [amount_arms]) v t
  case CreateFeeTokenAccount | CloseFeeTokenAccount | WithdrawFees | DepositStake =>
    exact unpack_bare (by simp) t
  case Unknown => exact absurd rfl h

/-- A byte that is no tag is rejected as the first byte of an 8-byte discriminator, whatever
follows it. -/
theorem unpack_of_not_tag {tag : UInt8}
    (h : tag ∉ [STAKE_WRAPPED_SOL, SWAP_VIA_STAKE, CREATE_FEE_TOKEN_ACCOUNT,
      CLOSE_FEE_TOKEN_ACCOUNT, WITHDRAW_FEES, DEPOSIT_STAKE, PREFUND_WITHDRAW_STAKE,
      PREFUND_SWAP_VIA_STAKE, WITHDRAW_WRAPPED_SOL])
    (payload : List UInt8) :
    unpack (tag :: payload) = .err (.Unknown ⟨[tag, 0, 0, 0, 0, 0, 0, 0], rfl⟩) := by
  simp only [List.mem_cons, List.not_mem_nil, or_false, not_or] at h
  obtain ⟨h0, h1, h2, h3, h4, h5, h6, h7, h8⟩ := h
  rw [unpack, try_from_cons, dispatch, if_neg h0, if_neg h1, if_neg h2, if_neg h3, if_neg h4,
    if_neg h5, if_neg h6, if_neg h7, if_neg h8]

/-- What an amount arm accepts is the layout of the instruction it returns, followed by the rest
of the payload. -/
theorem eq_write_of_amount_arm {tag : UInt8} {V : UInt64 → SanctumInstruction}
    (hmem : (tag, V) ∈ amount_arms) {payload : List UInt8} {i : SanctumInstruction}
    (h : unpack (tag :: payload) = .ok i) : i ≠ .Unknown ∧ ∃ t, tag :: payload = i.write ++ t := by
  rw [unpack_amount_arm hmem] at h
  obtain ⟨v, t, rfl, rfl⟩ := (prefix_arm_eq_ok_iff fixedWidth_u64 onto_u64).mp h
  simp only [amount_arms, List.mem_cons, Prod.mk.injEq, List.not_mem_nil, or_false] at hmem
  -- each amount variant is written as its tag and its amount
  rcases hmem with ⟨rfl, rfl⟩ | ⟨rfl, rfl⟩ | ⟨rfl, rfl⟩ | ⟨rfl, rfl⟩ | ⟨rfl, rfl⟩ <;>
    exact ⟨nofun, t, rfl⟩

/-- What an arm without an amount accepts is its tag, followed by anything. -/
theorem eq_write_of_bare {tag : UInt8} {j : SanctumInstruction}
    (hmem : (tag, j) ∈ [(CREATE_FEE_TOKEN_ACCOUNT, SanctumInstruction.CreateFeeTokenAccount),
      (CLOSE_FEE_TOKEN_ACCOUNT, .CloseFeeTokenAccount), (WITHDRAW_FEES, .WithdrawFees),
      (DEPOSIT_STAKE, .DepositStake)]) {payload : List UInt8} {i : SanctumInstruction}
    (h : unpack (tag :: payload) = .ok i) : i ≠ .Unknown ∧ ∃ t, tag :: payload = i.write ++ t := by
  rw [unpack_bare hmem] at h
  cases h
  simp only [List.mem_cons, Prod.mk.injEq, List.not_mem_nil, or_false] at hmem
  rcases hmem with ⟨rfl, rfl⟩ | ⟨rfl, rfl⟩ | ⟨rfl, rfl⟩ | ⟨rfl, rfl⟩ <;>
    exact ⟨nofun, payload, rfl⟩

/-- The decoder accepts exactly the layout of an instruction followed by any bytes. -/
theorem sanctum_unpack_eq_ok_iff (data : List UInt8) (i : SanctumInstruction) :
    unpack data = .ok i ↔ i ≠ .Unknown ∧ ∃ t, data = i.write ++ t := by
  constructor
  · intro h
    cases data with
    | nil => cases h
    | cons tag payload =>
      -- one case for each arm of the source's `match disc`, in its order
      by_cases h0 : tag = STAKE_WRAPPED_SOL
      · subst h0
        exact eq_write_of_amount_arm (V := .StakeWrappedSol) (by simp [amount_arms]) h
      by_cases h1 : tag = SWAP_VIA_STAKE
      · subst h1
        exact eq_write_of_amount_arm (V := .SwapViaStake) (by simp [amount_arms]) h
      by_cases h2 : tag = CREATE_FEE_TOKEN_ACCOUNT
      · subst h2
        exact eq_write_of_bare (j := .CreateFeeTokenAccount) (by simp) h
      by_cases h3 : tag = CLOSE_FEE_TOKEN_ACCOUNT
      · subst h3
        exact eq_write_of_bare (j := .CloseFeeTokenAccount) (by simp) h
      by_cases h4 : tag = WITHDRAW_FEES
      · subst h4
        exact eq_write_of_bare (j := .WithdrawFees) (by simp) h
      by_cases h5 : tag = DEPOSIT_STAKE
      · subst h5
        exact eq_write_of_bare (j := .DepositStake) (by simp) h
      by_cases h6 : tag = PREFUND_WITHDRAW_STAKE
      · subst h6
        exact eq_write_of_amount_arm (V := .PrefundWithdrawStake) (by simp [amount_arms]) h
      by_cases h7 : tag = PREFUND_SWAP_VIA_STAKE
      · subst h7
        exact eq_write_of_amount_arm (V := .PrefundSwapViaStake) (by simp [amount_arms]) h
      by_cases h8 : tag = WITHDRAW_WRAPPED_SOL
      · subst h8
        exact eq_write_of_amount_arm (V := .WithdrawWrappedSol) (by simp [amount_arms]) h
      -- any other tag is an error
      have hnot : tag ∉ [STAKE_WRAPPED_SOL, SWAP_VIA_STAKE, CREATE_FEE_TOKEN_ACCOUNT,
          CLOSE_FEE_TOKEN_ACCOUNT, WITHDRAW_FEES, DEPOSIT_STAKE, PREFUND_WITHDRAW_STAKE,
          PREFUND_SWAP_VIA_STAKE, WITHDRAW_WRAPPED_SOL] := by
        simp only [List.mem_cons, List.not_mem_nil, or_false, not_or]
        exact ⟨h0, h1, h2, h3, h4, h5, h6, h7, h8⟩
      rw [unpack_of_not_tag hnot] at h
      cases h
  · rintro ⟨hi, t, rfl⟩
    exact unpack_write_append i hi t

end SolanaIdls.sanctum.instructions
