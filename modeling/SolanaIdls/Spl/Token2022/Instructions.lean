import SolanaIdls.Spl.Arms

/-!
# SPL Token-2022 instructions

`spl::token_2022::instructions::unpack` of `src/spl/token_2022/instructions.rs`: the Token
decoder's `try_from` over the 43 tags of Token-2022. The arms of `Transfer`, `Approve`, `MintTo`
and `Burn` read an amount and those of the four `Checked` instructions an amount and decimals, as
in Token; every other arm, the mint and multisig initialisations among them, returns its variant
without reading anything after the tag.

The decoder returns an instruction exactly on the inputs that start with its layout
`Token2022Instruction.write`, reports a short input or an unknown tag otherwise, and never panics
(`token_2022_unpack_spec`). Against Token's decoder, it reads every instruction that Token reads,
without the fields of the mint and multisig instructions, and on every other tag it returns what
Token returns, errors included (`unpack_of_token_unpack`).
-/

namespace SolanaIdls.spl.token_2022.instructions

open Borsh Borsh.Codec

/-! ## Discriminators and instructions -/

def INITIALIZE_MINT : UInt8 := 0
def INITIALIZE_ACCOUNT : UInt8 := 1
def INITIALIZE_MULTISIG : UInt8 := 2
def TRANSFER : UInt8 := 3
def APPROVE : UInt8 := 4
def REVOKE : UInt8 := 5
def SET_AUTHORITY : UInt8 := 6
def MINT_TO : UInt8 := 7
def BURN : UInt8 := 8
def CLOSE_ACCOUNT : UInt8 := 9
def FREEZE_ACCOUNT : UInt8 := 10
def THAW_ACCOUNT : UInt8 := 11
def TRANSFER_CHECKED : UInt8 := 12
def APPROVE_CHECKED : UInt8 := 13
def MINT_TO_CHECKED : UInt8 := 14
def BURN_CHECKED : UInt8 := 15
def INITIALIZE_ACCOUNT2 : UInt8 := 16
def SYNC_NATIVE : UInt8 := 17
def INITIALIZE_ACCOUNT3 : UInt8 := 18
def INITIALIZE_MULTISIG2 : UInt8 := 19
def INITIALIZE_MINT2 : UInt8 := 20
def GET_ACCOUNT_DATA_SIZE : UInt8 := 21
def INITIALIZE_IMMUTABLE_OWNER : UInt8 := 22
def AMOUNT_TO_UI_AMOUNT : UInt8 := 23
def UI_AMOUNT_TO_AMOUNT : UInt8 := 24
def INITIALIZE_MINT_CLOSE_AUTHORITY : UInt8 := 25
def TRANSFER_FEE_EXTENSION : UInt8 := 26
def CONFIDENTIAL_TRANSFER_EXTENSION : UInt8 := 27
def DEFAULT_ACCOUNT_STATE_EXTENSION : UInt8 := 28
def REALLOCATE : UInt8 := 29
def MEMO_TRANSFER_EXTENSION : UInt8 := 30
def CREATE_NATIVE_MINT : UInt8 := 31
def INITIALIZE_NON_TRANSFERABLE_MINT : UInt8 := 32
def INTEREST_BEARING_MINT_EXTENSION : UInt8 := 33
def CPI_GUARD_EXTENSION : UInt8 := 34
def INITIALIZE_PERMANENT_DELEGATE : UInt8 := 35
def TRANSFER_HOOK_EXTENSION : UInt8 := 36
def CONFIDENTIAL_TRANSFER_FEE_EXTENSION : UInt8 := 37
def WITHDRAWAL_EXCESS_LAMPORTS : UInt8 := 38
def METADATA_POINTER_EXTENSION : UInt8 := 39
def GROUP_POINTER_EXTENSION : UInt8 := 40
def GROUP_MEMBER_POINTER_EXTENSION : UInt8 := 41
def TOKEN_METADATA_EXTENSION : UInt8 := 42

/-- `Token2022Instruction`. -/
inductive Token2022Instruction where
  | InitializeMint
  | InitializeAccount
  | InitializeMultisig
  | Transfer (amount : UInt64)
  | Approve (amount : UInt64)
  | Revoke
  | SetAuthority
  | MintTo (amount : UInt64)
  | Burn (amount : UInt64)
  | CloseAccount
  | FreezeAccount
  | ThawAccount
  | TransferChecked (amount : UInt64) (decimals : UInt8)
  | ApproveChecked (amount : UInt64) (decimals : UInt8)
  | MintToChecked (amount : UInt64) (decimals : UInt8)
  | BurnChecked (amount : UInt64) (decimals : UInt8)
  | InitializeAccount2
  | SyncNative
  | InitializeAccount3
  | InitializeMultisig2
  | InitializeMint2
  | GetAccountDataSize
  | InitializeImmutableOwner
  | AmountToUiAmount
  | UiAmountToAmount
  | InitializeMintCloseAuthority
  | TransferFeeExtension
  | ConfidentialTransferExtension
  | DefaultAccountStateExtension
  | Reallocate
  | MemoTransferExtension
  | CreateNativeMint
  | InitializeNonTransferableMint
  | InterestBearingMintExtension
  | CpiGuardExtension
  | InitializePermanentDelegate
  | TransferHookExtension
  | ConfidentialTransferFeeExtension
  | WithdrawalExcessLamports
  | MetadataPointerExtension
  | GroupPointerExtension
  | GroupMemberPointerExtension
  | TokenMetadataExtension
  deriving DecidableEq

/-- The bytes that `unpack` reads for each instruction: its tag, then the fields of its arm, an
amount as eight little-endian bytes and the decimals as one. -/
def Token2022Instruction.write : Token2022Instruction → List UInt8
  | .InitializeMint => [INITIALIZE_MINT]
  | .InitializeAccount => [INITIALIZE_ACCOUNT]
  | .InitializeMultisig => [INITIALIZE_MULTISIG]
  | .Transfer amount => TRANSFER :: u64.write amount
  | .Approve amount => APPROVE :: u64.write amount
  | .Revoke => [REVOKE]
  | .SetAuthority => [SET_AUTHORITY]
  | .MintTo amount => MINT_TO :: u64.write amount
  | .Burn amount => BURN :: u64.write amount
  | .CloseAccount => [CLOSE_ACCOUNT]
  | .FreezeAccount => [FREEZE_ACCOUNT]
  | .ThawAccount => [THAW_ACCOUNT]
  | .TransferChecked amount decimals => TRANSFER_CHECKED :: (u64.write amount ++ u8.write decimals)
  | .ApproveChecked amount decimals => APPROVE_CHECKED :: (u64.write amount ++ u8.write decimals)
  | .MintToChecked amount decimals => MINT_TO_CHECKED :: (u64.write amount ++ u8.write decimals)
  | .BurnChecked amount decimals => BURN_CHECKED :: (u64.write amount ++ u8.write decimals)
  | .InitializeAccount2 => [INITIALIZE_ACCOUNT2]
  | .SyncNative => [SYNC_NATIVE]
  | .InitializeAccount3 => [INITIALIZE_ACCOUNT3]
  | .InitializeMultisig2 => [INITIALIZE_MULTISIG2]
  | .InitializeMint2 => [INITIALIZE_MINT2]
  | .GetAccountDataSize => [GET_ACCOUNT_DATA_SIZE]
  | .InitializeImmutableOwner => [INITIALIZE_IMMUTABLE_OWNER]
  | .AmountToUiAmount => [AMOUNT_TO_UI_AMOUNT]
  | .UiAmountToAmount => [UI_AMOUNT_TO_AMOUNT]
  | .InitializeMintCloseAuthority => [INITIALIZE_MINT_CLOSE_AUTHORITY]
  | .TransferFeeExtension => [TRANSFER_FEE_EXTENSION]
  | .ConfidentialTransferExtension => [CONFIDENTIAL_TRANSFER_EXTENSION]
  | .DefaultAccountStateExtension => [DEFAULT_ACCOUNT_STATE_EXTENSION]
  | .Reallocate => [REALLOCATE]
  | .MemoTransferExtension => [MEMO_TRANSFER_EXTENSION]
  | .CreateNativeMint => [CREATE_NATIVE_MINT]
  | .InitializeNonTransferableMint => [INITIALIZE_NON_TRANSFERABLE_MINT]
  | .InterestBearingMintExtension => [INTEREST_BEARING_MINT_EXTENSION]
  | .CpiGuardExtension => [CPI_GUARD_EXTENSION]
  | .InitializePermanentDelegate => [INITIALIZE_PERMANENT_DELEGATE]
  | .TransferHookExtension => [TRANSFER_HOOK_EXTENSION]
  | .ConfidentialTransferFeeExtension => [CONFIDENTIAL_TRANSFER_FEE_EXTENSION]
  | .WithdrawalExcessLamports => [WITHDRAWAL_EXCESS_LAMPORTS]
  | .MetadataPointerExtension => [METADATA_POINTER_EXTENSION]
  | .GroupPointerExtension => [GROUP_POINTER_EXTENSION]
  | .GroupMemberPointerExtension => [GROUP_MEMBER_POINTER_EXTENSION]
  | .TokenMetadataExtension => [TOKEN_METADATA_EXTENSION]

/-! ## The decoder -/

/-- The rows of the `match data[0]` of `try_from`, in the source's order: the arm of each tag,
run on `data` and `rest = &data[1..]`. -/
def arms :
    List (UInt8 × (List UInt8 → List UInt8 → Outcome ParseError Token2022Instruction)) :=
  [(INITIALIZE_MINT, fun _ _ => .ok .InitializeMint),
   (INITIALIZE_ACCOUNT, fun _ _ => .ok .InitializeAccount),
   (INITIALIZE_MULTISIG, fun _ _ => .ok .InitializeMultisig),
   (TRANSFER, fun data rest => amount_arm data rest .Transfer),
   (APPROVE, fun data rest => amount_arm data rest .Approve),
   (REVOKE, fun _ _ => .ok .Revoke),
   (SET_AUTHORITY, fun _ _ => .ok .SetAuthority),
   (MINT_TO, fun data rest => amount_arm data rest .MintTo),
   (BURN, fun data rest => amount_arm data rest .Burn),
   (CLOSE_ACCOUNT, fun _ _ => .ok .CloseAccount),
   (FREEZE_ACCOUNT, fun _ _ => .ok .FreezeAccount),
   (THAW_ACCOUNT, fun _ _ => .ok .ThawAccount),
   (TRANSFER_CHECKED, fun data rest => checked_arm data rest .TransferChecked),
   (APPROVE_CHECKED, fun data rest => checked_arm data rest .ApproveChecked),
   (MINT_TO_CHECKED, fun data rest => checked_arm data rest .MintToChecked),
   (BURN_CHECKED, fun data rest => checked_arm data rest .BurnChecked),
   (INITIALIZE_ACCOUNT2, fun _ _ => .ok .InitializeAccount2),
   (SYNC_NATIVE, fun _ _ => .ok .SyncNative),
   (INITIALIZE_ACCOUNT3, fun _ _ => .ok .InitializeAccount3),
   (INITIALIZE_MULTISIG2, fun _ _ => .ok .InitializeMultisig2),
   (INITIALIZE_MINT2, fun _ _ => .ok .InitializeMint2),
   (GET_ACCOUNT_DATA_SIZE, fun _ _ => .ok .GetAccountDataSize),
   (INITIALIZE_IMMUTABLE_OWNER, fun _ _ => .ok .InitializeImmutableOwner),
   (AMOUNT_TO_UI_AMOUNT, fun _ _ => .ok .AmountToUiAmount),
   (UI_AMOUNT_TO_AMOUNT, fun _ _ => .ok .UiAmountToAmount),
   (INITIALIZE_MINT_CLOSE_AUTHORITY, fun _ _ => .ok .InitializeMintCloseAuthority),
   (TRANSFER_FEE_EXTENSION, fun _ _ => .ok .TransferFeeExtension),
   (CONFIDENTIAL_TRANSFER_EXTENSION, fun _ _ => .ok .ConfidentialTransferExtension),
   (DEFAULT_ACCOUNT_STATE_EXTENSION, fun _ _ => .ok .DefaultAccountStateExtension),
   (REALLOCATE, fun _ _ => .ok .Reallocate),
   (MEMO_TRANSFER_EXTENSION, fun _ _ => .ok .MemoTransferExtension),
   (CREATE_NATIVE_MINT, fun _ _ => .ok .CreateNativeMint),
   (INITIALIZE_NON_TRANSFERABLE_MINT, fun _ _ => .ok .InitializeNonTransferableMint),
   (INTEREST_BEARING_MINT_EXTENSION, fun _ _ => .ok .InterestBearingMintExtension),
   (CPI_GUARD_EXTENSION, fun _ _ => .ok .CpiGuardExtension),
   (INITIALIZE_PERMANENT_DELEGATE, fun _ _ => .ok .InitializePermanentDelegate),
   (TRANSFER_HOOK_EXTENSION, fun _ _ => .ok .TransferHookExtension),
   (CONFIDENTIAL_TRANSFER_FEE_EXTENSION, fun _ _ => .ok .ConfidentialTransferFeeExtension),
   (WITHDRAWAL_EXCESS_LAMPORTS, fun _ _ => .ok .WithdrawalExcessLamports),
   (METADATA_POINTER_EXTENSION, fun _ _ => .ok .MetadataPointerExtension),
   (GROUP_POINTER_EXTENSION, fun _ _ => .ok .GroupPointerExtension),
   (GROUP_MEMBER_POINTER_EXTENSION, fun _ _ => .ok .GroupMemberPointerExtension),
   (TOKEN_METADATA_EXTENSION, fun _ _ => .ok .TokenMetadataExtension)]

/-- The `match data[0]` of `try_from`; `rest` is `&data[1..]`. -/
def dispatch (tag : UInt8) (data rest : List UInt8) : Outcome ParseError Token2022Instruction :=
  matchConst arms (fun other _ _ => .err (.SplUnknown other)) tag data rest

/-- `Token2022Instruction::try_from`. -/
def try_from (data : List UInt8) : Outcome ParseError Token2022Instruction :=
  try_from_tag dispatch data

/-- `unpack`, which forwards to `try_from`. -/
def unpack (data : List UInt8) : Outcome ParseError Token2022Instruction :=
  try_from data

/-! ## The table -/

/-- The discriminators are the bytes 0 to 42, in order. -/
theorem arms_keys : arms.map Prod.fst = (List.range 43).map UInt8.ofNat := rfl

theorem arms_nodup : (arms.map Prod.fst).Nodup := by
  rw [arms_keys]
  exact nodup_range_ofNat (by decide)

/-- Every row keeps the promise of an SPL arm. -/
theorem arms_spec (k : UInt8)
    (arm : List UInt8 → List UInt8 → Outcome ParseError Token2022Instruction)
    (hmem : (k, arm) ∈ arms) : TooShortSpec Token2022Instruction.write k arm := by
  simp only [arms, List.mem_cons, Prod.mk.injEq, List.not_mem_nil] at hmem
  -- one goal per row; the list's end is `False`
  repeat' rcases hmem with ⟨rfl, rfl⟩ | hmem
  -- a row with no fields returns its variant, whose layout is the tag alone; the others are the
  -- amount and `Checked` shapes
  all_goals first
    | exact ArmSpec.const rfl
    | exact armSpec_amount fun _ => rfl
    | exact armSpec_checked fun _ _ => rfl

/-- On the tag of a row, the decoder runs that row's arm. -/
theorem unpack_cons_of_mem {tag : UInt8}
    {arm : List UInt8 → List UInt8 → Outcome ParseError Token2022Instruction}
    (hmem : (tag, arm) ∈ arms) (rest : List UInt8) :
    unpack (tag :: rest) = arm (tag :: rest) rest :=
  try_from_tag_of_mem arms_nodup _ hmem rest

/-- A tag above 42 is no instruction. -/
theorem unpack_unknown {tag : UInt8} (h : 43 ≤ tag.toNat) (rest : List UInt8) :
    unpack (tag :: rest) = .err (.SplUnknown tag) := by
  have hnot : tag ∉ arms.map Prod.fst := by
    rw [arms_keys, mem_range_ofNat_iff]
    omega
  rw [unpack, try_from, try_from_tag_cons, dispatch, matchConst_of_not_mem _ hnot]

/-! ## What the decoder reads -/

/-- Every instruction is read back from its layout, whatever follows it. -/
theorem unpack_write_append (i : Token2022Instruction) (t : List UInt8) :
    unpack (i.write ++ t) = .ok i := by
  cases i
  case Transfer amount | Approve amount | MintTo amount | Burn amount =>
    exact try_from_tag_amount arms_nodup _ (by simp only [arms, List.mem_cons, true_or, or_true])
      amount t
  case TransferChecked amount decimals | ApproveChecked amount decimals |
    MintToChecked amount decimals | BurnChecked amount decimals =>
    exact try_from_tag_checked arms_nodup _ (by simp only [arms, List.mem_cons, true_or, or_true])
      amount decimals t
  -- The rest have no fields: their layout is the tag alone.
  all_goals
    exact try_from_tag_bare arms_nodup _ (by simp only [arms, List.mem_cons, true_or, or_true]) t

/-- The decoder returns an instruction exactly on the inputs that start with its layout; it fails
only with `TooShort` of the input's length or with `SplUnknown` of a first byte above 42, and it
never panics. -/
theorem token_2022_unpack_spec (data : List UInt8) :
    (∀ i, unpack data = .ok i ↔ ∃ t, data = i.write ++ t) ∧
      (∀ e, unpack data = .err e → e = .TooShort data.length ∨
        ∃ tag rest, data = tag :: rest ∧ 43 ≤ tag.toNat ∧ e = .SplUnknown tag) ∧
      unpack data ≠ .panic :=
  try_from_tag_exact (by decide) arms_keys arms_spec unpack_write_append data

/-! ## Against Token's decoder -/

section Token

open token.instructions (TokenInstruction mint_arm multisig_arm)

/-- A Token instruction as Token-2022's decoder reads it: the same instruction, without the
fields of the mint and multisig initialisations, which Token-2022's arms do not read. -/
def of_token : TokenInstruction → Token2022Instruction
  | .InitializeMint _ _ => .InitializeMint
  | .InitializeAccount => .InitializeAccount
  | .InitializeMultisig _ => .InitializeMultisig
  | .Transfer amount => .Transfer amount
  | .Approve amount => .Approve amount
  | .Revoke => .Revoke
  | .SetAuthority => .SetAuthority
  | .MintTo amount => .MintTo amount
  | .Burn amount => .Burn amount
  | .CloseAccount => .CloseAccount
  | .FreezeAccount => .FreezeAccount
  | .ThawAccount => .ThawAccount
  | .TransferChecked amount decimals => .TransferChecked amount decimals
  | .ApproveChecked amount decimals => .ApproveChecked amount decimals
  | .MintToChecked amount decimals => .MintToChecked amount decimals
  | .BurnChecked amount decimals => .BurnChecked amount decimals
  | .InitializeAccount2 => .InitializeAccount2
  | .SyncNative => .SyncNative
  | .InitializeAccount3 => .InitializeAccount3
  | .InitializeMultisig2 _ => .InitializeMultisig2
  | .InitializeMint2 _ _ => .InitializeMint2

/-- The tags of the mint and multisig initialisations, whose fields Token reads and Token-2022
does not. -/
def initialize_tags : List UInt8 :=
  [INITIALIZE_MINT, INITIALIZE_MULTISIG, INITIALIZE_MULTISIG2, INITIALIZE_MINT2]

/-- What Token's mint arm returns is a mint. -/
theorem mint_arm_eq_ok {data rest : List UInt8} {mk : UInt8 → Bool → TokenInstruction}
    {j : TokenInstruction} (h : mint_arm data rest mk = .ok j) : ∃ d f, j = mk d f := by
  unfold mint_arm at h
  split_ifs at h
  obtain ⟨d, -, hd⟩ := Outcome.bind_eq_ok.mp h
  cases hd
  exact ⟨d, _, rfl⟩

/-- What Token's multisig arm returns is a multisig. -/
theorem multisig_arm_eq_ok {data rest : List UInt8} {mk : UInt8 → TokenInstruction}
    {j : TokenInstruction} (h : multisig_arm data rest mk = .ok j) : ∃ m, j = mk m := by
  unfold multisig_arm at h
  split_ifs at h
  obtain ⟨m, -, hm⟩ := Outcome.bind_eq_ok.mp h
  cases hm
  exact ⟨m, rfl⟩

theorem ne_of_toNat_le {tag k : UInt8} (h : 21 ≤ tag.toNat) (hk : k.toNat < 21) : tag ≠ k := by
  rintro rfl
  omega

/-- Token's decoder has no tag above 20. -/
theorem token_unpack_unknown {tag : UInt8} (h : 21 ≤ tag.toNat) (rest : List UInt8) :
    token.instructions.unpack (tag :: rest) = .err (.SplUnknown tag) := by
  rw [token.instructions.unpack, token.instructions.try_from_cons, token.instructions.dispatch]
  -- every test of the chain fails, each of its tags being below 21
  simp (disch := exact ne_of_toNat_le h (by decide)) only [if_neg]

theorem lt_of_mem_initialize_tags {k : UInt8} (hk : k ∈ initialize_tags) : k.toNat < 21 := by
  simp only [initialize_tags, List.mem_cons, List.not_mem_nil, or_false] at hk
  rcases hk with rfl | rfl | rfl | rfl <;> decide

/-- Every tag below 43 has a row. -/
theorem exists_row {tag : UInt8} (h : tag.toNat < 43) :
    ∃ arm, (tag, arm) ∈ arms := by
  have hk : tag ∈ arms.map Prod.fst := by
    rw [arms_keys, mem_range_ofNat_iff]
    exact h
  obtain ⟨⟨k, arm⟩, hmem, rfl⟩ := List.mem_map.mp hk
  exact ⟨arm, hmem⟩

/-! The three lemmas below go through the table row by row. On a row, `k` and the arm are
constants, and Token's `match` on `k` reduces to the arm of `k` by deciding the tests of its
`if` chain. -/

/-- On a tag that both decoders have, other than the mint and multisig initialisations,
Token-2022's arm is Token's with the result carried over by `of_token`, errors included. -/
theorem arms_eq_map_token (k : UInt8)
    (arm : List UInt8 → List UInt8 → Outcome ParseError Token2022Instruction)
    (hmem : (k, arm) ∈ arms) (hk : k.toNat < 21) (hinit : k ∉ initialize_tags)
    (data rest : List UInt8) :
    arm data rest = of_token <$> token.instructions.dispatch k data rest := by
  simp only [arms, List.mem_cons, Prod.mk.injEq, List.not_mem_nil] at hmem
  repeat' rcases hmem with ⟨rfl, rfl⟩ | hmem
  all_goals first
    | exact absurd hk (by decide)
    | exact absurd (by decide) hinit
    | (simp +decide only [token.instructions.dispatch, ↓reduceIte, token_amount_arm,
        token_checked_arm, map_amount_arm, map_checked_arm, Outcome.map_ok]) <;> rfl

/-- On the mint and multisig initialisations, Token-2022 returns what Token returns, without
the fields. -/
theorem arms_of_initialize (k : UInt8)
    (arm : List UInt8 → List UInt8 → Outcome ParseError Token2022Instruction)
    (hmem : (k, arm) ∈ arms) (hinit : k ∈ initialize_tags) (data rest : List UInt8)
    (j : TokenInstruction) (h : token.instructions.dispatch k data rest = .ok j) :
    arm data rest = .ok (of_token j) := by
  simp only [arms, List.mem_cons, Prod.mk.injEq, List.not_mem_nil] at hmem
  repeat' rcases hmem with ⟨rfl, rfl⟩ | hmem
  all_goals try exact absurd hinit (by decide)
  all_goals simp +decide only [token.instructions.dispatch, ↓reduceIte] at h
  · obtain ⟨d, f, rfl⟩ := mint_arm_eq_ok h
    rfl
  · obtain ⟨m, rfl⟩ := multisig_arm_eq_ok h
    rfl
  · obtain ⟨m, rfl⟩ := multisig_arm_eq_ok h
    rfl
  · obtain ⟨d, f, rfl⟩ := mint_arm_eq_ok h
    rfl

/-- On the mint and multisig initialisations and on the tags that only Token-2022 has, the arm
returns its variant without reading anything, and the variant's layout is the tag. -/
theorem arms_bare (k : UInt8)
    (arm : List UInt8 → List UInt8 → Outcome ParseError Token2022Instruction)
    (hmem : (k, arm) ∈ arms) (hk : k ∈ initialize_tags ∨ 21 ≤ k.toNat) :
    ∃ i, arm = (fun _ _ => .ok i) ∧ i.write = [k] := by
  simp only [arms, List.mem_cons, Prod.mk.injEq, List.not_mem_nil] at hmem
  repeat' rcases hmem with ⟨rfl, rfl⟩ | hmem
  all_goals first
    | exact ⟨_, rfl, rfl⟩
    | exact absurd hk (by decide)

/-- What Token reads, Token-2022 reads too, without the fields it does not read. -/
theorem unpack_of_token_ok {tag : UInt8} {rest : List UInt8} {j : TokenInstruction}
    (h : token.instructions.unpack (tag :: rest) = .ok j) :
    unpack (tag :: rest) = .ok (of_token j) := by
  by_cases h21 : tag.toNat < 21
  · obtain ⟨arm, hmem⟩ := exists_row (show tag.toNat < 43 by omega)
    rw [token.instructions.unpack, token.instructions.try_from_cons] at h
    rw [unpack_cons_of_mem hmem]
    by_cases hinit : tag ∈ initialize_tags
    · exact arms_of_initialize tag arm hmem hinit _ _ j h
    · rw [arms_eq_map_token tag arm hmem h21 hinit, h]
      rfl
  · -- Token has no such tag
    rw [token_unpack_unknown (by omega)] at h
    cases h

/-- Off the mint and multisig initialisations and the tags that only Token-2022 has, the two
decoders agree, errors included. -/
theorem unpack_eq_map_token {tag : UInt8} (hinit : tag ∉ initialize_tags)
    (hk : tag.toNat < 21 ∨ 43 ≤ tag.toNat) (rest : List UInt8) :
    unpack (tag :: rest) = of_token <$> token.instructions.unpack (tag :: rest) := by
  rcases hk with hk | hk
  · obtain ⟨arm, hmem⟩ := exists_row (show tag.toNat < 43 by omega)
    rw [unpack_cons_of_mem hmem, token.instructions.unpack, token.instructions.try_from_cons]
    exact arms_eq_map_token tag arm hmem hk hinit _ _
  · rw [unpack_unknown hk, token_unpack_unknown (by omega)]
    rfl

/-- On the mint and multisig initialisations and on the tags that only Token-2022 has, the
decoder returns the tag's variant whatever follows it. -/
theorem unpack_of_bare_tag {tag : UInt8}
    (h : tag ∈ initialize_tags ∨ 21 ≤ tag.toNat ∧ tag.toNat < 43) (rest : List UInt8) :
    ∃ i, unpack (tag :: rest) = .ok i ∧ i.write = [tag] := by
  have h43 : tag.toNat < 43 := by
    rcases h with h | h
    · have := lt_of_mem_initialize_tags h
      omega
    · exact h.2
  obtain ⟨arm, hmem⟩ := exists_row h43
  obtain ⟨i, rfl, hi⟩ := arms_bare tag arm hmem (h.imp id And.left)
  exact ⟨i, unpack_cons_of_mem hmem rest, hi⟩

/-- Token-2022's decoder refines Token's: it reads every instruction that Token reads, without
the fields of the mint and multisig initialisations; on every other input whose tag is not one of
those four or one that only Token-2022 has, it returns what Token returns, errors included; and
on those tags it returns the tag's variant whatever follows it. -/
theorem unpack_refines_token_unpack (data : List UInt8) :
    (∀ j, token.instructions.unpack data = .ok j → unpack data = .ok (of_token j)) ∧
      ((∀ tag, data.head? = some tag →
          tag ∉ initialize_tags ∧ (tag.toNat < 21 ∨ 43 ≤ tag.toNat)) →
        unpack data = of_token <$> token.instructions.unpack data) ∧
      (∀ tag, data.head? = some tag →
        tag ∈ initialize_tags ∨ 21 ≤ tag.toNat ∧ tag.toNat < 43 →
        ∃ i, unpack data = .ok i ∧ i.write = [tag]) := by
  cases data with
  | nil =>
    -- both reject the empty input with `TooShort(0)`
    refine ⟨fun j h => ?_, fun _ => rfl, fun tag h => ?_⟩
    · cases h
    · cases h
  | cons tag rest =>
    refine ⟨fun j h => unpack_of_token_ok h, fun h => ?_, fun tag' htag hb => ?_⟩
    · obtain ⟨hinit, hk⟩ := h tag rfl
      exact unpack_eq_map_token hinit hk rest
    · obtain rfl : tag = tag' := Option.some.inj htag
      exact unpack_of_bare_tag hb rest

end Token

end SolanaIdls.spl.token_2022.instructions
