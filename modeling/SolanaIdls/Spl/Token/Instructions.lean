import SolanaIdls.Common

/-!
# SPL Token instructions

`spl::token::instructions::unpack` of `src/spl/token/instructions.rs`, a hand-written decoder: a
tag byte, then the fields that the tag's arm reads from the bytes after it, each arm checking
first that enough bytes are there. The arms that read an amount, an amount and decimals, a
multisig threshold, or a mint's decimals are four shapes, each written out several times in the
source and one parameterised definition here (`amount_arm`, `checked_arm`, `multisig_arm`,
`mint_arm`).

The SPL Token program's own layout is `SplTokenInstruction.pack`: the tag, then the fields, with
the optional freeze authority of a mint as a `COption<Pubkey>`, a tag byte 0 or 1 and then the
key. The program reads a prefix of the instruction data and ignores what follows, so it accepts
exactly the byte strings `i.pack ++ t`. The decoder does not read the `COption` tag: it takes a
freeze authority to be present when more than 34 bytes follow the instruction tag. On every
layout with no trailing bytes this agrees with the program, but a mint without a freeze authority
followed by any byte is reported with one (`unpack_pack_append_mint`).
`unpack_pack_append_eq_ok_iff` says exactly where the decoder and the program agree.
-/

namespace SolanaIdls.spl.token.instructions

open Borsh

/-! ## Discriminators and instructions -/

def INITIALIZE_MINT : UInt8 := 0
def INITIALIZE_ACCOUNT : UInt8 := 1
def INITIALIZE_MULTISIG : UInt8 := 2
def TRANSFER : UInt8 := 3
def APPROVE : UInt8 := 4
def REVOKE : UInt8 := 5
def SET_AUTHORITY : UInt8 := 6
def MINT_TO : UInt8 := 7
def BURN : UInt8 := 8
def CLOSE_ACCOUNT : UInt8 := 9
def FREEZE_ACCOUNT : UInt8 := 10
def THAW_ACCOUNT : UInt8 := 11
def TRANSFER_CHECKED : UInt8 := 12
def APPROVE_CHECKED : UInt8 := 13
def MINT_TO_CHECKED : UInt8 := 14
def BURN_CHECKED : UInt8 := 15
def INITIALIZE_ACCOUNT2 : UInt8 := 16
def SYNC_NATIVE : UInt8 := 17
def INITIALIZE_ACCOUNT3 : UInt8 := 18
def INITIALIZE_MULTISIG2 : UInt8 := 19
def INITIALIZE_MINT2 : UInt8 := 20

/-- `TokenInstruction`. -/
inductive TokenInstruction where
  | InitializeMint (decimals : UInt8) (freeze_authority : Bool)
  | InitializeAccount
  | InitializeMultisig (m : UInt8)
  | Transfer (amount : UInt64)
  | Approve (amount : UInt64)
  | Revoke
  | SetAuthority
  | MintTo (amount : UInt64)
  | Burn (amount : UInt64)
  | CloseAccount
  | FreezeAccount
  | ThawAccount
  | TransferChecked (amount : UInt64) (decimals : UInt8)
  | ApproveChecked (amount : UInt64) (decimals : UInt8)
  | MintToChecked (amount : UInt64) (decimals : UInt8)
  | BurnChecked (amount : UInt64) (decimals : UInt8)
  | InitializeAccount2
  | SyncNative
  | InitializeAccount3
  | InitializeMultisig2 (m : UInt8)
  | InitializeMint2 (decimals : UInt8) (freeze_authority : Bool)
  deriving DecidableEq

/-! ## The arms -/

/-- `u64::from_le_bytes(rest[..8].try_into().unwrap())`. -/
def read_u64 (rest : List UInt8) : Outcome ParseError UInt64 := do
  let bytes ← Outcome.expect (Slice.try_into (← Slice.range_to rest 8) 8)
  return u64_from_le_bytes bytes

/-- The arms of `InitializeMint` and `InitializeMint2`: at least 2 bytes, the decimals first, and
a freeze authority when more than 34 bytes follow the tag. -/
def mint_arm (data rest : List UInt8) (mk : UInt8 → Bool → TokenInstruction) :
    Outcome ParseError TokenInstruction := do
  if rest.length < 2 then
    .err (.TooShort data.length)
  else
    let decimals ← Slice.index rest 0
    return mk decimals (decide (rest.length > 34))

/-- The arms of `InitializeMultisig` and `InitializeMultisig2`: the threshold `m`, one byte. -/
def multisig_arm (data rest : List UInt8) (mk : UInt8 → TokenInstruction) :
    Outcome ParseError TokenInstruction := do
  if rest = [] then
    .err (.TooShort data.length)
  else
    return mk (← Slice.index rest 0)

/-- The arms of `Transfer`, `Approve`, `MintTo` and `Burn`: an amount, eight bytes. -/
def amount_arm (data rest : List UInt8) (mk : UInt64 → TokenInstruction) :
    Outcome ParseError TokenInstruction := do
  if rest.length < 8 then
    .err (.TooShort data.length)
  else
    return mk (← read_u64 rest)

/-- The arms of the four `Checked` instructions: an amount, eight bytes, then the decimals. -/
def checked_arm (data rest : List UInt8) (mk : UInt64 → UInt8 → TokenInstruction) :
    Outcome ParseError TokenInstruction := do
  if rest.length < 9 then
    .err (.TooShort data.length)
  else
    let amount ← read_u64 rest
    let decimals ← Slice.index rest 8
    return mk amount decimals

/-- The `match data[0]` of `try_from`; `rest` is `&data[1..]`. -/
def dispatch (tag : UInt8) (data rest : List UInt8) : Outcome ParseError TokenInstruction :=
  if tag = INITIALIZE_MINT then mint_arm data rest .InitializeMint
  else if tag = INITIALIZE_ACCOUNT then .ok .InitializeAccount
  else if tag = INITIALIZE_MULTISIG then multisig_arm data rest .InitializeMultisig
  else if tag = TRANSFER then amount_arm data rest .Transfer
  else if tag = APPROVE then amount_arm data rest .Approve
  else if tag = REVOKE then .ok .Revoke
  else if tag = SET_AUTHORITY then .ok .SetAuthority
  else if tag = MINT_TO then amount_arm data rest .MintTo
  else if tag = BURN then amount_arm data rest .Burn
  else if tag = CLOSE_ACCOUNT then .ok .CloseAccount
  else if tag = FREEZE_ACCOUNT then .ok .FreezeAccount
  else if tag = THAW_ACCOUNT then .ok .ThawAccount
  else if tag = TRANSFER_CHECKED then checked_arm data rest .TransferChecked
  else if tag = APPROVE_CHECKED then checked_arm data rest .ApproveChecked
  else if tag = MINT_TO_CHECKED then checked_arm data rest .MintToChecked
  else if tag = BURN_CHECKED then checked_arm data rest .BurnChecked
  else if tag = INITIALIZE_ACCOUNT2 then .ok .InitializeAccount2
  else if tag = SYNC_NATIVE then .ok .SyncNative
  else if tag = INITIALIZE_ACCOUNT3 then .ok .InitializeAccount3
  else if tag = INITIALIZE_MULTISIG2 then multisig_arm data rest .InitializeMultisig2
  else if tag = INITIALIZE_MINT2 then mint_arm data rest .InitializeMint2
  else .err (.SplUnknown tag)

/-- `TokenInstruction::try_from`. -/
def try_from (data : List UInt8) : Outcome ParseError TokenInstruction := do
  if data = [] then
    .err (.TooShort data.length)
  else
    let rest ← Slice.range_from data 1
    let tag ← Slice.index data 0
    dispatch tag data rest

/-- `unpack`, which forwards to `try_from`. -/
def unpack (data : List UInt8) : Outcome ParseError TokenInstruction :=
  try_from data

/-- A non-empty input is dispatched on its first byte. -/
theorem try_from_cons (tag : UInt8) (rest : List UInt8) :
    try_from (tag :: rest) = dispatch tag (tag :: rest) rest := by
  have hrest : (Slice.range_from (tag :: rest) 1 : Outcome ParseError (List UInt8)) = .ok rest :=
    Slice.range_from_append (s := [tag]) rfl rest
  simp only [try_from, reduceCtorEq, if_false, hrest, Outcome.ok_bind, Slice.index_cons_zero]

/-! ### What each shape of arm reads -/

theorem read_u64_append (bytes : List.Vector UInt8 8) (t : List UInt8) :
    read_u64 (bytes.toList ++ t) = .ok (u64_from_le_bytes bytes) := by
  have hl : bytes.toList.length = 8 := bytes.toList_length
  have hcut : (Slice.range_to (bytes.toList ++ t) 8 : Outcome ParseError (List UInt8)) =
      .ok bytes.toList := by
    rw [Slice.range_to_of_le (by simp [hl]), List.take_left' hl]
  rw [read_u64, hcut, Outcome.ok_bind, Slice.try_into_toList, Outcome.expect_some, Outcome.ok_bind]
  rfl

theorem amount_arm_append (data : List UInt8) (bytes : List.Vector UInt8 8) (t : List UInt8)
    (mk : UInt64 → TokenInstruction) :
    amount_arm data (bytes.toList ++ t) mk = .ok (mk (u64_from_le_bytes bytes)) := by
  have hlen : ¬(bytes.toList ++ t).length < 8 := by simp [bytes.toList_length]
  rw [amount_arm, if_neg hlen, read_u64_append]
  rfl

theorem checked_arm_append (data : List UInt8) (bytes : List.Vector UInt8 8) (decimals : UInt8)
    (t : List UInt8) (mk : UInt64 → UInt8 → TokenInstruction) :
    checked_arm data (bytes.toList ++ decimals :: t) mk =
      .ok (mk (u64_from_le_bytes bytes) decimals) := by
  have hl : bytes.toList.length = 8 := bytes.toList_length
  have hlen : ¬(bytes.toList ++ decimals :: t).length < 9 := by
    simp [hl]
    omega
  -- The decimals sit at index 8, just after the amount.
  have hdec : (Slice.index (bytes.toList ++ decimals :: t) 8 : Outcome ParseError UInt8) =
      .ok decimals := by
    rw [Slice.index_of_lt (by simp [hl]), List.getElem_append_right (by omega)]
    simp [hl]
  rw [checked_arm, if_neg hlen, read_u64_append, Outcome.ok_bind, hdec]
  rfl

theorem multisig_arm_cons (data : List UInt8) (m : UInt8) (t : List UInt8)
    (mk : UInt8 → TokenInstruction) : multisig_arm data (m :: t) mk = .ok (mk m) := by
  simp [multisig_arm]

/-! ## The program's own layout -/

/-- The instructions of the SPL Token program that the decoder covers, with every field that the
program's `TokenInstruction::unpack` reads for them. -/
inductive SplTokenInstruction where
  | InitializeMint (decimals : UInt8) (mint_authority : Pubkey) (freeze_authority : Option Pubkey)
  | InitializeAccount
  | InitializeMultisig (m : UInt8)
  | Transfer (amount : UInt64)
  | Approve (amount : UInt64)
  | Revoke
  | SetAuthority
  | MintTo (amount : UInt64)
  | Burn (amount : UInt64)
  | CloseAccount
  | FreezeAccount
  | ThawAccount
  | TransferChecked (amount : UInt64) (decimals : UInt8)
  | ApproveChecked (amount : UInt64) (decimals : UInt8)
  | MintToChecked (amount : UInt64) (decimals : UInt8)
  | BurnChecked (amount : UInt64) (decimals : UInt8)
  | InitializeAccount2
  | SyncNative
  | InitializeAccount3
  | InitializeMultisig2 (m : UInt8)
  | InitializeMint2 (decimals : UInt8) (mint_authority : Pubkey) (freeze_authority : Option Pubkey)
  deriving DecidableEq

/-- A `COption<Pubkey>`: tag 0, or tag 1 and the key. -/
def packCOption : Option Pubkey → List UInt8
  | none => [0]
  | some k => 1 :: k.toList

/-- The program's layout of an instruction: the tag, then the fields, amounts as their
`to_le_bytes`. The program accepts an instruction as `i` when its data is `i.pack`
followed by any bytes, which it does not read. -/
def SplTokenInstruction.pack : SplTokenInstruction → List UInt8
  | .InitializeMint d a f => INITIALIZE_MINT :: d :: (a.toList ++ packCOption f)
  | .InitializeAccount => [INITIALIZE_ACCOUNT]
  | .InitializeMultisig m => [INITIALIZE_MULTISIG, m]
  | .Transfer v => TRANSFER :: (u64_to_le_bytes v).toList
  | .Approve v => APPROVE :: (u64_to_le_bytes v).toList
  | .Revoke => [REVOKE]
  | .SetAuthority => [SET_AUTHORITY]
  | .MintTo v => MINT_TO :: (u64_to_le_bytes v).toList
  | .Burn v => BURN :: (u64_to_le_bytes v).toList
  | .CloseAccount => [CLOSE_ACCOUNT]
  | .FreezeAccount => [FREEZE_ACCOUNT]
  | .ThawAccount => [THAW_ACCOUNT]
  | .TransferChecked v d => TRANSFER_CHECKED :: ((u64_to_le_bytes v).toList ++ [d])
  | .ApproveChecked v d => APPROVE_CHECKED :: ((u64_to_le_bytes v).toList ++ [d])
  | .MintToChecked v d => MINT_TO_CHECKED :: ((u64_to_le_bytes v).toList ++ [d])
  | .BurnChecked v d => BURN_CHECKED :: ((u64_to_le_bytes v).toList ++ [d])
  | .InitializeAccount2 => [INITIALIZE_ACCOUNT2]
  | .SyncNative => [SYNC_NATIVE]
  | .InitializeAccount3 => [INITIALIZE_ACCOUNT3]
  | .InitializeMultisig2 m => [INITIALIZE_MULTISIG2, m]
  | .InitializeMint2 d a f => INITIALIZE_MINT2 :: d :: (a.toList ++ packCOption f)

/-- What the decoder should report for an instruction: its amounts, decimals and threshold, and
whether a mint has a freeze authority. -/
def SplTokenInstruction.abs : SplTokenInstruction → TokenInstruction
  | .InitializeMint d _ f => .InitializeMint d f.isSome
  | .InitializeAccount => .InitializeAccount
  | .InitializeMultisig m => .InitializeMultisig m
  | .Transfer v => .Transfer v
  | .Approve v => .Approve v
  | .Revoke => .Revoke
  | .SetAuthority => .SetAuthority
  | .MintTo v => .MintTo v
  | .Burn v => .Burn v
  | .CloseAccount => .CloseAccount
  | .FreezeAccount => .FreezeAccount
  | .ThawAccount => .ThawAccount
  | .TransferChecked v d => .TransferChecked v d
  | .ApproveChecked v d => .ApproveChecked v d
  | .MintToChecked v d => .MintToChecked v d
  | .BurnChecked v d => .BurnChecked v d
  | .InitializeAccount2 => .InitializeAccount2
  | .SyncNative => .SyncNative
  | .InitializeAccount3 => .InitializeAccount3
  | .InitializeMultisig2 m => .InitializeMultisig2 m
  | .InitializeMint2 d _ f => .InitializeMint2 d f.isSome

/-- The mints that declare no freeze authority, the one place where the decoder's length test
can disagree with the `COption` tag. -/
def SplTokenInstruction.lacksFreezeAuthority : SplTokenInstruction → Bool
  | .InitializeMint _ _ none | .InitializeMint2 _ _ none => true
  | _ => false

/-! ### The mints -/

/-- After the decimals, a mint's layout and trailing bytes are more than 34 bytes exactly when it
has a freeze authority or bytes follow it. -/
theorem mint_arm_pack (data : List UInt8) (d : UInt8) (a : Pubkey) (f : Option Pubkey)
    (t : List UInt8) (mk : UInt8 → Bool → TokenInstruction) :
    mint_arm data (d :: (a.toList ++ packCOption f ++ t)) mk =
      .ok (mk d (decide (f.isSome ∨ t ≠ []))) := by
  have ha : a.toList.length = 32 := a.toList_length
  have hlen : ¬(d :: (a.toList ++ packCOption f ++ t)).length < 2 := by
    simp only [List.length_cons, List.length_append, ha]
    omega
  -- The layout after the decimals is the key, then 1 or 33 bytes of `COption`, then `t`.
  have hfreeze : (d :: (a.toList ++ packCOption f ++ t)).length > 34 ↔ f.isSome ∨ t ≠ [] := by
    cases f with
    | none =>
      have hl : (d :: (a.toList ++ packCOption none ++ t)).length = 34 + t.length := by
        simp [packCOption, ha]
        omega
      rw [hl, gt_iff_lt, Nat.lt_add_right_iff_pos, List.length_pos_iff, Option.isSome_none]
      simp
    | some k =>
      have hl : (d :: (a.toList ++ packCOption (some k) ++ t)).length = 66 + t.length := by
        simp [packCOption, ha]
        omega
      rw [hl, Option.isSome_some]
      simp only [true_or, iff_true]
      omega
  rw [mint_arm, if_neg hlen, Slice.index_cons_zero, Outcome.ok_bind, decide_eq_decide.mpr hfreeze]
  rfl

/-- A mint is reported with a freeze authority when it has one or any byte follows its layout. -/
theorem unpack_pack_append_mint (d : UInt8) (a : Pubkey) (f : Option Pubkey) (t : List UInt8) :
    unpack ((SplTokenInstruction.InitializeMint d a f).pack ++ t) =
        .ok (.InitializeMint d (decide (f.isSome ∨ t ≠ []))) ∧
      unpack ((SplTokenInstruction.InitializeMint2 d a f).pack ++ t) =
        .ok (.InitializeMint2 d (decide (f.isSome ∨ t ≠ []))) := by
  -- `INITIALIZE_MINT2` is the last arm: every test before it fails.
  have hmint2 : ∀ data rest, dispatch INITIALIZE_MINT2 data rest =
      mint_arm data rest .InitializeMint2 := by
    intro data rest
    simp [dispatch, INITIALIZE_MINT2, INITIALIZE_MINT, INITIALIZE_ACCOUNT, INITIALIZE_MULTISIG,
      TRANSFER, APPROVE, REVOKE, SET_AUTHORITY, MINT_TO, BURN, CLOSE_ACCOUNT, FREEZE_ACCOUNT,
      THAW_ACCOUNT, TRANSFER_CHECKED, APPROVE_CHECKED, MINT_TO_CHECKED, BURN_CHECKED,
      INITIALIZE_ACCOUNT2, SYNC_NATIVE, INITIALIZE_ACCOUNT3, INITIALIZE_MULTISIG2]
  constructor
  · rw [SplTokenInstruction.pack, List.cons_append, unpack, try_from_cons, List.cons_append]
    simp only [dispatch, if_true]
    rw [mint_arm_pack]
  · rw [SplTokenInstruction.pack, List.cons_append, unpack, try_from_cons, List.cons_append,
      hmint2, mint_arm_pack]

/-! ### Every other instruction -/

/-- Every instruction other than a mint is read back from its layout, whatever bytes follow. -/
theorem unpack_pack_append_of_not_mint (i : SplTokenInstruction)
    (hi : (∀ d a f, i ≠ .InitializeMint d a f) ∧ ∀ d a f, i ≠ .InitializeMint2 d a f)
    (t : List UInt8) : unpack (i.pack ++ t) = .ok i.abs := by
  rw [unpack]
  cases i with
  | InitializeMint d a f => exact absurd rfl (hi.1 d a f)
  | InitializeMint2 d a f => exact absurd rfl (hi.2 d a f)
  | _ =>
    simp [SplTokenInstruction.pack, try_from_cons, dispatch, INITIALIZE_MINT,
      INITIALIZE_ACCOUNT, INITIALIZE_MULTISIG, TRANSFER, APPROVE, REVOKE, SET_AUTHORITY, MINT_TO,
      BURN, CLOSE_ACCOUNT, FREEZE_ACCOUNT, THAW_ACCOUNT, TRANSFER_CHECKED, APPROVE_CHECKED,
      MINT_TO_CHECKED, BURN_CHECKED, INITIALIZE_ACCOUNT2, SYNC_NATIVE, INITIALIZE_ACCOUNT3,
      INITIALIZE_MULTISIG2, amount_arm_append, checked_arm_append, multisig_arm_cons,
      SplTokenInstruction.abs]

/-! ### Where the decoder and the program agree -/

/-- On every instruction data that the program accepts, `i.pack` followed by `t`, the decoder
returns `i`'s abstraction exactly when no byte follows the layout or `i` is not a mint without a
freeze authority; otherwise it reports a freeze authority that the mint does not have. -/
theorem unpack_pack_append_eq_ok_iff (i : SplTokenInstruction) (t : List UInt8) :
    unpack (i.pack ++ t) = .ok i.abs ↔ t = [] ∨ i.lacksFreezeAuthority = false := by
  cases i with
  | InitializeMint d a f =>
    rw [(unpack_pack_append_mint d a f t).1, SplTokenInstruction.abs]
    -- The decoder's flag is `f.isSome ∨ t ≠ []`; it is `f.isSome` when `f` is some or `t` empty.
    cases f <;> simp [SplTokenInstruction.lacksFreezeAuthority]
  | InitializeMint2 d a f =>
    rw [(unpack_pack_append_mint d a f t).2, SplTokenInstruction.abs]
    cases f <;> simp [SplTokenInstruction.lacksFreezeAuthority]
  | _ =>
    exact iff_of_true
      (unpack_pack_append_of_not_mint _ ⟨by simp, by simp⟩ t) (.inr rfl)

end SolanaIdls.spl.token.instructions
