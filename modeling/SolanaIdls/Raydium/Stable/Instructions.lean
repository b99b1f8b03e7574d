import SolanaIdls.Common

/-!
# Raydium stable AMM instructions

`raydium::stable::instructions::unpack` of `src/raydium/stable/instructions.rs`, a hand-written
decoder: a tag byte, then the fields its arm slices out of the payload by hand, after a guard of
its own width. Each arm is the Borsh reader of its payload struct on a prefix of the payload,
with short payloads reported by the length of the whole input (`prefix_arm`): the arm of each
tag reads every encoding back whatever follows it and reports every shorter payload with the
input's length, and a struct of integers has no invalid input, so `eq_prefix_arm` applies
(`unpack_initialize` and the five after it).

From the six arms, `raydium_stable_unpack_eq_ok_iff` says what the decoder accepts as a whole:
the layout of an instruction, its tag and its fields, followed by any bytes, which it ignores.
-/

namespace SolanaIdls.raydium.stable.instructions

open Borsh Borsh.Codec

/-! ## Tags and payloads -/

def INITIALIZE : UInt8 := 0
def DEPOSIT : UInt8 := 3
def WITHDRAW : UInt8 := 4
def SWAP_BASE_IN : UInt8 := 9
def PRE_INITIALIZE : UInt8 := 10
def SWAP_BASE_OUT : UInt8 := 11

/-- `InitializeInstruction`. -/
structure InitializeInstruction where
  nonce : UInt8
  open_time : UInt64
  deriving DecidableEq

/-- `PreInitializeInstruction`. -/
structure PreInitializeInstruction where
  nonce : UInt8
  deriving DecidableEq

/-- `DepositInstruction`. -/
structure DepositInstruction where
  max_coin_amount : UInt64
  max_pc_amount : UInt64
  base_side : UInt64
  deriving DecidableEq

/-- `WithdrawInstruction`. -/
structure WithdrawInstruction where
  amount : UInt64
  deriving DecidableEq

/-- `SwapBaseInInstruction`. -/
structure SwapBaseInInstruction where
  amount_in : UInt64
  minimum_amount_out : UInt64
  deriving DecidableEq

/-- `SwapBaseOutInstruction`. -/
structure SwapBaseOutInstruction where
  max_amount_in : UInt64
  amount_out : UInt64
  deriving DecidableEq

/-- `RaydiumStableInstruction`. -/
inductive RaydiumStableInstruction where
  | Initialize (i : InitializeInstruction)
  | Deposit (i : DepositInstruction)
  | Withdraw (i : WithdrawInstruction)
  | SwapBaseIn (i : SwapBaseInInstruction)
  | PreInitialize (i : PreInitializeInstruction)
  | SwapBaseOut (i : SwapBaseOutInstruction)
  | Unknown
  deriving DecidableEq

/-! ## The payloads' derived Borsh codecs, which the decoder does not call -/

def InitializeInstruction.borsh : Codec InitializeInstruction :=
  (u8.prod u64).map (fun (a, b) => ⟨a, b⟩) (fun x => (x.nonce, x.open_time)) fun _ => rfl

def PreInitializeInstruction.borsh : Codec PreInitializeInstruction :=
  u8.map (fun a => ⟨a⟩) (fun x => x.nonce) fun _ => rfl

def DepositInstruction.borsh : Codec DepositInstruction :=
  (u64.prod <| u64.prod u64).map (fun (a, b, c) => ⟨a, b, c⟩)
    (fun x => (x.max_coin_amount, x.max_pc_amount, x.base_side)) fun _ => rfl

def WithdrawInstruction.borsh : Codec WithdrawInstruction :=
  u64.map (fun a => ⟨a⟩) (fun x => x.amount) fun _ => rfl

def SwapBaseInInstruction.borsh : Codec SwapBaseInInstruction :=
  (u64.prod u64).map (fun (a, b) => ⟨a, b⟩) (fun x => (x.amount_in, x.minimum_amount_out))
    fun _ => rfl

def SwapBaseOutInstruction.borsh : Codec SwapBaseOutInstruction :=
  (u64.prod u64).map (fun (a, b) => ⟨a, b⟩) (fun x => (x.max_amount_in, x.amount_out))
    fun _ => rfl

theorem InitializeInstruction.fixedWidth_borsh : InitializeInstruction.borsh.FixedWidth 9 :=
  (fixedWidth_u8.prod fixedWidth_u64).map _ _ _

theorem PreInitializeInstruction.fixedWidth_borsh : PreInitializeInstruction.borsh.FixedWidth 1 :=
  fixedWidth_u8.map _ _ _

theorem DepositInstruction.fixedWidth_borsh : DepositInstruction.borsh.FixedWidth 24 :=
  (fixedWidth_u64.prod <| fixedWidth_u64.prod fixedWidth_u64).map _ _ _

theorem WithdrawInstruction.fixedWidth_borsh : WithdrawInstruction.borsh.FixedWidth 8 :=
  fixedWidth_u64.map _ _ _

theorem SwapBaseInInstruction.fixedWidth_borsh : SwapBaseInInstruction.borsh.FixedWidth 16 :=
  (fixedWidth_u64.prod fixedWidth_u64).map _ _ _

theorem SwapBaseOutInstruction.fixedWidth_borsh : SwapBaseOutInstruction.borsh.FixedWidth 16 :=
  (fixedWidth_u64.prod fixedWidth_u64).map _ _ _

theorem InitializeInstruction.onto_borsh : InitializeInstruction.borsh.Onto 9 :=
  (onto_u8.prod fixedWidth_u8 onto_u64).map _ _ _ fun _ => rfl

theorem PreInitializeInstruction.onto_borsh : PreInitializeInstruction.borsh.Onto 1 :=
  onto_u8.map _ _ _ fun _ => rfl

theorem DepositInstruction.onto_borsh : DepositInstruction.borsh.Onto 24 :=
  (onto_u64.prod fixedWidth_u64 <| onto_u64.prod fixedWidth_u64 onto_u64).map _ _ _ fun _ => rfl

theorem WithdrawInstruction.onto_borsh : WithdrawInstruction.borsh.Onto 8 :=
  onto_u64.map _ _ _ fun _ => rfl

theorem SwapBaseInInstruction.onto_borsh : SwapBaseInInstruction.borsh.Onto 16 :=
  (onto_u64.prod fixedWidth_u64 onto_u64).map _ _ _ fun _ => rfl

theorem SwapBaseOutInstruction.onto_borsh : SwapBaseOutInstruction.borsh.Onto 16 :=
  (onto_u64.prod fixedWidth_u64 onto_u64).map _ _ _ fun _ => rfl

/-! ## The decoder -/

/-- `u64::from_le_bytes(payload[a..b].try_into().unwrap())`. -/
def read_u64 (payload : List UInt8) (a b : ℕ) : Outcome ParseError UInt64 := do
  let bytes ← Outcome.expect (Slice.try_into (← Slice.range payload a b) 8)
  return u64_from_le_bytes bytes

/-- The `match tag` of `try_from`; `payload` is what follows the tag in `data`. -/
def dispatch (tag : UInt8) (data payload : List UInt8) :
    Outcome ParseError RaydiumStableInstruction := do
  if tag = INITIALIZE then
    if payload.length < 9 then
      .err (.TooShort data.length)
    else
      let nonce ← Slice.index payload 0
      let open_time ← read_u64 payload 1 9
      return .Initialize ⟨nonce, open_time⟩
  else if tag = DEPOSIT then
    if payload.length < 24 then
      .err (.TooShort data.length)
    else
      let max_coin_amount ← read_u64 payload 0 8
      let max_pc_amount ← read_u64 payload 8 16
      let base_side ← read_u64 payload 16 24
      return .Deposit ⟨max_coin_amount, max_pc_amount, base_side⟩
  else if tag = WITHDRAW then
    if payload.length < 8 then
      .err (.TooShort data.length)
    else
      let amount ← read_u64 payload 0 8
      return .Withdraw ⟨amount⟩
  else if tag = SWAP_BASE_IN then
    if payload.length < 16 then
      .err (.TooShort data.length)
    else
      let amount_in ← read_u64 payload 0 8
      let minimum_amount_out ← read_u64 payload 8 16
      return .SwapBaseIn ⟨amount_in, minimum_amount_out⟩
  else if tag = PRE_INITIALIZE then
    if payload.isEmpty then
      .err (.TooShort data.length)
    else
      let nonce ← Slice.index payload 0
      return .PreInitialize ⟨nonce⟩
  else if tag = SWAP_BASE_OUT then
    if payload.length < 16 then
      .err (.TooShort data.length)
    else
      let max_amount_in ← read_u64 payload 0 8
      let amount_out ← read_u64 payload 8 16
      return .SwapBaseOut ⟨max_amount_in, amount_out⟩
  else
    .err (.RaydiumUnknown tag)

/-- `RaydiumStableInstruction::try_from`. -/
def try_from (data : List UInt8) : Outcome ParseError RaydiumStableInstruction := do
  if data.isEmpty then
    .err (.TooShort data.length)
  else
    let (tag, payload) ← Outcome.expect (Slice.split_first data)
    dispatch tag data payload

/-- `unpack`, which forwards to `try_from`. -/
def unpack (data : List UInt8) : Outcome ParseError RaydiumStableInstruction :=
  try_from data

/-- A non-empty input is dispatched on its first byte. -/
theorem try_from_cons (tag : UInt8) (payload : List UInt8) :
    try_from (tag :: payload) = dispatch tag (tag :: payload) payload := by
  simp only [try_from, List.isEmpty_cons, Bool.false_eq_true, if_false, Slice.split_first,
    Outcome.expect_some, Outcome.ok_bind]

/-- The eight bytes Borsh writes for a `u64`, sliced out by hand, give it back. -/
theorem read_u64_append {s : List UInt8} {a b : ℕ} (hs : s.length = a) (hb : a + 8 = b)
    (v : UInt64) (t : List UInt8) : read_u64 (s ++ (u64.write v ++ t)) a b = .ok v := by
  have hv : (u64.write v).length = 8 := fixedWidth_u64.length_write v
  rw [read_u64, Slice.range_append hs (by rw [hv, hb]) t, Outcome.ok_bind,
    Slice.expect_try_into_of_length hv]
  exact congrArg Outcome.ok (u64_from_le_bytes_write v hv)

theorem read_u64_first (v : UInt64) (t : List UInt8) : read_u64 (u64.write v ++ t) 0 8 = .ok v :=
  read_u64_append (s := []) rfl rfl v t

theorem read_u64_second (u v : UInt64) (t : List UInt8) :
    read_u64 (u64.write u ++ (u64.write v ++ t)) 8 16 = .ok v :=
  read_u64_append (fixedWidth_u64.length_write u) rfl v t

theorem read_u64_third (u v w : UInt64) (t : List UInt8) :
    read_u64 (u64.write u ++ (u64.write v ++ (u64.write w ++ t))) 16 24 = .ok w := by
  rw [← List.append_assoc]
  exact read_u64_append (by simp [fixedWidth_u64.length_write]) rfl w t

/-! ## Each arm is the prefix reader of its struct -/

theorem unpack_initialize_of_lt {payload : List UInt8} (h : payload.length < 9) :
    unpack (INITIALIZE :: payload) = .err (.TooShort (INITIALIZE :: payload).length) := by
  simp [unpack, try_from_cons, dispatch, h]

theorem unpack_initialize_write (x : InitializeInstruction) (t : List UInt8) :
    unpack (INITIALIZE :: (InitializeInstruction.borsh.write x ++ t)) = .ok (.Initialize x) := by
  obtain ⟨nonce, open_time⟩ := x
  have hp : InitializeInstruction.borsh.write ⟨nonce, open_time⟩ ++ t =
      nonce :: (u64.write open_time ++ t) := by
    simp [InitializeInstruction.borsh]
  have hlen : ¬(nonce :: (u64.write open_time ++ t)).length < 9 := by
    simp [fixedWidth_u64.length_write]
  have hr : read_u64 (nonce :: (u64.write open_time ++ t)) 1 9 = .ok open_time :=
    read_u64_append (s := [nonce]) rfl rfl open_time t
  simp only [unpack, try_from_cons, hp, dispatch, if_true, hlen, if_false, Slice.index_cons_zero,
    Outcome.ok_bind, hr]
  rfl

theorem unpack_initialize (payload : List UInt8) :
    unpack (INITIALIZE :: payload) =
      prefix_arm InitializeInstruction.borsh 9 .Initialize (INITIALIZE :: payload).length payload :=
  eq_prefix_arm InitializeInstruction.fixedWidth_borsh InitializeInstruction.onto_borsh
    (fun _ h => unpack_initialize_of_lt h) unpack_initialize_write payload

theorem unpack_deposit_of_lt {payload : List UInt8} (h : payload.length < 24) :
    unpack (DEPOSIT :: payload) = .err (.TooShort (DEPOSIT :: payload).length) := by
  simp [unpack, try_from_cons, dispatch, h, DEPOSIT, INITIALIZE]

theorem unpack_deposit_write (x : DepositInstruction) (t : List UInt8) :
    unpack (DEPOSIT :: (DepositInstruction.borsh.write x ++ t)) = .ok (.Deposit x) := by
  obtain ⟨max_coin_amount, max_pc_amount, base_side⟩ := x
  have hp : DepositInstruction.borsh.write ⟨max_coin_amount, max_pc_amount, base_side⟩ ++ t =
      u64.write max_coin_amount ++ (u64.write max_pc_amount ++ (u64.write base_side ++ t)) := by
    simp [DepositInstruction.borsh]
  have hlen : ¬(u64.write max_coin_amount ++ (u64.write max_pc_amount ++
      (u64.write base_side ++ t))).length < 24 := by
    simp [fixedWidth_u64.length_write]
    omega
  simp only [unpack, try_from_cons, hp, dispatch, DEPOSIT, INITIALIZE, hlen, if_true, if_false,
    read_u64_first, read_u64_second, read_u64_third, Outcome.ok_bind]
  rfl

theorem unpack_deposit (payload : List UInt8) :
    unpack (DEPOSIT :: payload) =
      prefix_arm DepositInstruction.borsh 24 .Deposit (DEPOSIT :: payload).length payload :=
  eq_prefix_arm DepositInstruction.fixedWidth_borsh DepositInstruction.onto_borsh
    (fun _ h => unpack_deposit_of_lt h) unpack_deposit_write payload

theorem unpack_withdraw_of_lt {payload : List UInt8} (h : payload.length < 8) :
    unpack (WITHDRAW :: payload) = .err (.TooShort (WITHDRAW :: payload).length) := by
  simp [unpack, try_from_cons, dispatch, h, WITHDRAW, DEPOSIT, INITIALIZE]

theorem unpack_withdraw_write (x : WithdrawInstruction) (t : List UInt8) :
    unpack (WITHDRAW :: (WithdrawInstruction.borsh.write x ++ t)) = .ok (.Withdraw x) := by
  obtain ⟨amount⟩ := x
  have hp : WithdrawInstruction.borsh.write ⟨amount⟩ ++ t = u64.write amount ++ t := rfl
  have hlen : ¬(u64.write amount ++ t).length < 8 := by simp [fixedWidth_u64.length_write]
  simp only [unpack, try_from_cons, hp, dispatch, WITHDRAW, DEPOSIT, INITIALIZE, hlen, if_true,
    if_false, read_u64_first, Outcome.ok_bind]
  rfl

theorem unpack_withdraw (payload : List UInt8) :
    unpack (WITHDRAW :: payload) =
      prefix_arm WithdrawInstruction.borsh 8 .Withdraw (WITHDRAW :: payload).length payload :=
  eq_prefix_arm WithdrawInstruction.fixedWidth_borsh WithdrawInstruction.onto_borsh
    (fun _ h => unpack_withdraw_of_lt h) unpack_withdraw_write payload

theorem unpack_swap_base_in_of_lt {payload : List UInt8} (h : payload.length < 16) :
    unpack (SWAP_BASE_IN :: payload) = .err (.TooShort (SWAP_BASE_IN :: payload).length) := by
  simp [unpack, try_from_cons, dispatch, h, SWAP_BASE_IN, WITHDRAW, DEPOSIT, INITIALIZE]

theorem unpack_swap_base_in_write (x : SwapBaseInInstruction) (t : List UInt8) :
    unpack (SWAP_BASE_IN :: (SwapBaseInInstruction.borsh.write x ++ t)) = .ok (.SwapBaseIn x) := by
  obtain ⟨amount_in, minimum_amount_out⟩ := x
  have hp : SwapBaseInInstruction.borsh.write ⟨amount_in, minimum_amount_out⟩ ++ t =
      u64.write amount_in ++ (u64.write minimum_amount_out ++ t) := by
    simp [SwapBaseInInstruction.borsh]
  have hlen : ¬(u64.write amount_in ++ (u64.write minimum_amount_out ++ t)).length < 16 := by
    simp [fixedWidth_u64.length_write]
    omega
  simp only [unpack, try_from_cons, hp, dispatch, SWAP_BASE_IN, WITHDRAW, DEPOSIT, INITIALIZE,
    hlen, if_true, if_false, read_u64_first, read_u64_second, Outcome.ok_bind]
  rfl

theorem unpack_swap_base_in (payload : List UInt8) :
    unpack (SWAP_BASE_IN :: payload) =
      prefix_arm SwapBaseInInstruction.borsh 16 .SwapBaseIn (SWAP_BASE_IN :: payload).length
        payload :=
  eq_prefix_arm SwapBaseInInstruction.fixedWidth_borsh SwapBaseInInstruction.onto_borsh
    (fun _ h => unpack_swap_base_in_of_lt h) unpack_swap_base_in_write payload

theorem unpack_pre_initialize_of_lt {payload : List UInt8} (h : payload.length < 1) :
    unpack (PRE_INITIALIZE :: payload) = .err (.TooShort (PRE_INITIALIZE :: payload).length) := by
  obtain rfl : payload = [] := List.eq_nil_of_length_eq_zero (by omega)
  rfl

theorem unpack_pre_initialize_write (x : PreInitializeInstruction) (t : List UInt8) :
    unpack (PRE_INITIALIZE :: (PreInitializeInstruction.borsh.write x ++ t)) =
      .ok (.PreInitialize x) := by
  obtain ⟨nonce⟩ := x
  have hp : PreInitializeInstruction.borsh.write ⟨nonce⟩ ++ t = nonce :: t := by
    simp [PreInitializeInstruction.borsh]
  simp only [unpack, try_from_cons, hp, dispatch, PRE_INITIALIZE, SWAP_BASE_IN, WITHDRAW, DEPOSIT,
    INITIALIZE, List.isEmpty_cons, Bool.false_eq_true, if_true, if_false, Slice.index_cons_zero,
    Outcome.ok_bind]
  rfl

theorem unpack_pre_initialize (payload : List UInt8) :
    unpack (PRE_INITIALIZE :: payload) =
      prefix_arm PreInitializeInstruction.borsh 1 .PreInitialize
        (PRE_INITIALIZE :: payload).length payload :=
  eq_prefix_arm PreInitializeInstruction.fixedWidth_borsh PreInitializeInstruction.onto_borsh
    (fun _ h => unpack_pre_initialize_of_lt h) unpack_pre_initialize_write payload

theorem unpack_swap_base_out_of_lt {payload : List UInt8} (h : payload.length < 16) :
    unpack (SWAP_BASE_OUT :: payload) = .err (.TooShort (SWAP_BASE_OUT :: payload).length) := by
  simp [unpack, try_from_cons, dispatch, h, SWAP_BASE_OUT, PRE_INITIALIZE, SWAP_BASE_IN, WITHDRAW,
    DEPOSIT, INITIALIZE]

theorem unpack_swap_base_out_write (x : SwapBaseOutInstruction) (t : List UInt8) :
    unpack (SWAP_BASE_OUT :: (SwapBaseOutInstruction.borsh.write x ++ t)) =
      .ok (.SwapBaseOut x) := by
  obtain ⟨max_amount_in, amount_out⟩ := x
  have hp : SwapBaseOutInstruction.borsh.write ⟨max_amount_in, amount_out⟩ ++ t =
      u64.write max_amount_in ++ (u64.write amount_out ++ t) := by
    simp [SwapBaseOutInstruction.borsh]
  have hlen : ¬(u64.write max_amount_in ++ (u64.write amount_out ++ t)).length < 16 := by
    simp [fixedWidth_u64.length_write]
    omega
  simp only [unpack, try_from_cons, hp, dispatch, SWAP_BASE_OUT, PRE_INITIALIZE, SWAP_BASE_IN,
    WITHDRAW, DEPOSIT, INITIALIZE, hlen, if_true, if_false, read_u64_first, read_u64_second,
    Outcome.ok_bind]
  rfl

theorem unpack_swap_base_out (payload : List UInt8) :
    unpack (SWAP_BASE_OUT :: payload) =
      prefix_arm SwapBaseOutInstruction.borsh 16 .SwapBaseOut (SWAP_BASE_OUT :: payload).length
        payload :=
  eq_prefix_arm SwapBaseOutInstruction.fixedWidth_borsh SwapBaseOutInstruction.onto_borsh
    (fun _ h => unpack_swap_base_out_of_lt h) unpack_swap_base_out_write payload

/-! ## The decoder as a whole -/

/-- What the program is sent for an instruction: its tag, then its fields in Borsh's layout.
`Unknown` is no instruction of the program and has no encoding. -/
def RaydiumStableInstruction.write : RaydiumStableInstruction → List UInt8
  | .Initialize i => INITIALIZE :: InitializeInstruction.borsh.write i
  | .Deposit i => DEPOSIT :: DepositInstruction.borsh.write i
  | .Withdraw i => WITHDRAW :: WithdrawInstruction.borsh.write i
  | .SwapBaseIn i => SWAP_BASE_IN :: SwapBaseInInstruction.borsh.write i
  | .PreInitialize i => PRE_INITIALIZE :: PreInitializeInstruction.borsh.write i
  | .SwapBaseOut i => SWAP_BASE_OUT :: SwapBaseOutInstruction.borsh.write i
  | .Unknown => []

/-- Every instruction is read back from its layout, whatever follows it. -/
theorem unpack_write_append (i : RaydiumStableInstruction) (h : i ≠ .Unknown) (t : List UInt8) :
    unpack (i.write ++ t) = .ok i := by
  cases i
  case Initialize x => exact unpack_initialize_write x t
  case Deposit x => exact unpack_deposit_write x t
  case Withdraw x => exact unpack_withdraw_write x t
  case SwapBaseIn x => exact unpack_swap_base_in_write x t
  case PreInitialize x => exact unpack_pre_initialize_write x t
  case SwapBaseOut x => exact unpack_swap_base_out_write x t
  case Unknown => exact absurd rfl h

/-- A byte that is no tag is rejected as itself, whatever follows it. -/
theorem unpack_of_not_tag {tag : UInt8}
    (h : tag ∉ [INITIALIZE, DEPOSIT, WITHDRAW, SWAP_BASE_IN, PRE_INITIALIZE, SWAP_BASE_OUT])
    (payload : List UInt8) : unpack (tag :: payload) = .err (.RaydiumUnknown tag) := by
  simp only [List.mem_cons, List.not_mem_nil, or_false, not_or] at h
  obtain ⟨h0, h3, h4, h9, h10, h11⟩ := h
  rw [unpack, try_from_cons, dispatch, if_neg h0, if_neg h3, if_neg h4, if_neg h9, if_neg h10,
    if_neg h11]

/-- What an arm's prefix reader accepts is the layout of the instruction it returns, followed by
the rest of the payload. -/
theorem eq_write_of_prefix_arm {α : Type} {c : Codec α} {w : ℕ} (hw : c.FixedWidth w)
    (ho : c.Onto w) {tag : UInt8} {V : α → RaydiumStableInstruction}
    (hV : ∀ x, (V x).write = tag :: c.write x) (hne : ∀ x, V x ≠ .Unknown) {reported : ℕ}
    {payload : List UInt8} {i : RaydiumStableInstruction}
    (h : prefix_arm c w V reported payload = .ok i) :
    i ≠ .Unknown ∧ ∃ t, tag :: payload = i.write ++ t := by
  obtain ⟨x, t, rfl, rfl⟩ := (prefix_arm_eq_ok_iff hw ho).mp h
  refine ⟨hne x, t, ?_⟩
  rw [hV, List.cons_append]

/-- The decoder accepts exactly the layout of an instruction followed by any bytes: it reads
every field it returns and no byte after them. -/
theorem raydium_stable_unpack_eq_ok_iff (data : List UInt8) (i : RaydiumStableInstruction) :
    unpack data = .ok i ↔ i ≠ .Unknown ∧ ∃ t, data = i.write ++ t := by
  constructor
  · intro h
    cases data with
    | nil => cases h
    | cons tag payload =>
      -- one case for each arm of the source's `match tag`, in its order
      by_cases h0 : tag = INITIALIZE
      · subst h0
        rw [ unpack_initialize] at h
        exact eq_write_of_prefix_arm InitializeInstruction.fixedWidth_borsh
          InitializeInstruction.onto_borsh (V := .Initialize) (fun _ => rfl) (fun _ => nofun) h
      by_cases h3 : tag = DEPOSIT
      · subst h3
        rw [unpack_deposit] at h
        exact eq_write_of_prefix_arm DepositInstruction.fixedWidth_borsh
          DepositInstruction.onto_borsh (V := .Deposit) (fun _ => rfl) (fun _ => nofun) h
      by_cases h4 : tag = WITHDRAW
      · subst h4
        rw [unpack_withdraw] at h
        exact eq_write_of_prefix_arm WithdrawInstruction.fixedWidth_borsh
          WithdrawInstruction.onto_borsh (V := .Withdraw) (fun _ => rfl) (fun _ => nofun) h
      by_cases h9 : tag = SWAP_BASE_IN
      · subst h9
        rw [unpack_swap_base_in] at h
        exact eq_write_of_prefix_arm SwapBaseInInstruction.fixedWidth_borsh
          SwapBaseInInstruction.onto_borsh (V := .SwapBaseIn) (fun _ => rfl) (fun _ => nofun) h
      by_cases h10 : tag = PRE_INITIALIZE
      · subst h10
        rw [ unpack_pre_initialize] at h
        exact eq_write_of_prefix_arm PreInitializeInstruction.fixedWidth_borsh
          PreInitializeInstruction.onto_borsh (V := .PreInitialize) (fun _ => rfl) (fun _ => nofun) h
      by_cases h11 : tag = SWAP_BASE_OUT
      · subst h11
        rw [unpack_swap_base_out] at h
        exact eq_write_of_prefix_arm SwapBaseOutInstruction.fixedWidth_borsh
          SwapBaseOutInstruction.onto_borsh (V := .SwapBaseOut) (fun _ => rfl) (fun _ => nofun) h
      -- any other tag is an error
      have hnot : tag ∉ [INITIALIZE, DEPOSIT, WITHDRAW, SWAP_BASE_IN, PRE_INITIALIZE,
          SWAP_BASE_OUT] := by
        simp only [List.mem_cons, List.not_mem_nil, or_false, not_or]
        exact ⟨h0, h3, h4, h9, h10, h11⟩
      rw [unpack_of_not_tag hnot] at h
      cases h
  · rintro ⟨hi, t, rfl⟩
    exact unpack_write_append i hi t

end SolanaIdls.raydium.stable.instructions
