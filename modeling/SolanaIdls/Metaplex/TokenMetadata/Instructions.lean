import SolanaIdls.Rust.Match
import SolanaIdls.Metaplex.TokenMetadata.Args

/-!
# Token Metadata instructions

`metaplex::token_metadata::unpack` of `src/metaplex/token_metadata/instructions.rs`. The program
numbers its instructions by one byte, 0 to 55. The decoder's `match` on that byte has three shapes
of arm: an instruction without arguments, which ignores the rest of the input; one whose Borsh
arguments must take up the rest exactly; and the version-1 `Create` and `Update`, which read a
sub-discriminator byte first and accept only 0. The `match` is the table `arms` (`matchConst`), so
that each shape is proved once (`unpack_arm`, `unpack_bare`, `unpack_v1`) and an instruction is
read back by the row of its discriminator.

`TokenMetadataInstruction.write` is the program's layout of an instruction: its discriminator, the
sub-discriminator 0 for `Create` and `Update`, and the Borsh encoding of its arguments.
`unpack_write_every_instruction` says that every instruction is read back from it, that an
instruction without arguments is read back whatever follows its byte, and that `Create` and
`Update` reject every other sub-discriminator.
-/

namespace SolanaIdls.metaplex.token_metadata.instructions

open Borsh Borsh.Codec

/-! ## Discriminators and instructions -/

def CREATE_METADATA_ACCOUNT : UInt8 := 0
def UPDATE_METADATA_ACCOUNT : UInt8 := 1
def DEPRECATED_CREATE_MASTER_EDITION : UInt8 := 2
def DEPRECATED_MINT_NEW_EDITION_FROM_MASTER_EDITION_VIA_PRINTING_TOKEN : UInt8 := 3
def UPDATE_PRIMARY_SALE_HAPPENED_VIA_TOKEN : UInt8 := 4
def DEPRECATED_SET_RESERVATION_LIST : UInt8 := 5
def DEPRECATED_CREATE_RESERVATION_LIST : UInt8 := 6
def SIGN_METADATA : UInt8 := 7
def DEPRECATED_MINT_PRINTING_TOKENS_VIA_TOKEN : UInt8 := 8
def DEPRECATED_MINT_PRINTING_TOKENS : UInt8 := 9
def CREATE_MASTER_EDITION : UInt8 := 10
def MINT_NEW_EDITION_FROM_MASTER_EDITION_VIA_TOKEN : UInt8 := 11
def CONVERT_MASTER_EDITION_V1_TO_V2 : UInt8 := 12
def MINT_NEW_EDITION_FROM_MASTER_EDITION_VIA_VAULT_PROXY : UInt8 := 13
def PUFF_METADATA : UInt8 := 14
def UPDATE_METADATA_ACCOUNT_V2 : UInt8 := 15
def CREATE_METADATA_ACCOUNT_V2 : UInt8 := 16
def CREATE_MASTER_EDITION_V3 : UInt8 := 17
def VERIFY_COLLECTION : UInt8 := 18
def UTILIZE : UInt8 := 19
def APPROVE_USE_AUTHORITY : UInt8 := 20
def REVOKE_USE_AUTHORITY : UInt8 := 21
def UNVERIFY_COLLECTION : UInt8 := 22
def APPROVE_COLLECTION_AUTHORITY : UInt8 := 23
def REVOKE_COLLECTION_AUTHORITY : UInt8 := 24
def SET_AND_VERIFY_COLLECTION : UInt8 := 25
def FREEZE_DELEGATED_ACCOUNT : UInt8 := 26
def THAW_DELEGATED_ACCOUNT : UInt8 := 27
def REMOVE_CREATOR_VERIFICATION : UInt8 := 28
def BURN_NFT : UInt8 := 29
def VERIFY_SIZED_COLLECTION_ITEM : UInt8 := 30
def UNVERIFY_SIZED_COLLECTION_ITEM : UInt8 := 31
def SET_AND_VERIFY_SIZED_COLLECTION_ITEM : UInt8 := 32
def CREATE_METADATA_ACCOUNT_V3 : UInt8 := 33
def SET_COLLECTION_SIZE : UInt8 := 34
def SET_TOKEN_STANDARD : UInt8 := 35
def BUBBLEGUM_SET_COLLECTION_SIZE : UInt8 := 36
def BURN_EDITION_NFT : UInt8 := 37
def CREATE_ESCROW_ACCOUNT : UInt8 := 38
def CLOSE_ESCROW_ACCOUNT : UInt8 := 39
def TRANSFER_OUT_OF_ESCROW : UInt8 := 40
def BURN : UInt8 := 41
def CREATE : UInt8 := 42
def MINT : UInt8 := 43
def DELEGATE : UInt8 := 44
def REVOKE : UInt8 := 45
def LOCK : UInt8 := 46
def UNLOCK : UInt8 := 47
def MIGRATE : UInt8 := 48
def TRANSFER : UInt8 := 49
def UPDATE : UInt8 := 50
def USE : UInt8 := 51
def VERIFY : UInt8 := 52
def UNVERIFY : UInt8 := 53
def COLLECT : UInt8 := 54
def PRINT : UInt8 := 55

/-- `TokenMetadataInstruction`. -/
inductive TokenMetadataInstruction where
  | CreateMetadataAccount (args : CreateMetadataAccountArgs)
  | UpdateMetadataAccount (args : UpdateMetadataAccountArgs)
  | DeprecatedCreateMasterEdition
  | DeprecatedMintNewEditionFromMasterEditionViaPrintingToken
  | UpdatePrimarySaleHappenedViaToken
  | DeprecatedSetReservationList
  | DeprecatedCreateReservationList
  | SignMetadata
  | DeprecatedMintPrintingTokensViaToken
  | DeprecatedMintPrintingTokens
  | CreateMasterEdition (args : CreateMasterEditionArgs)
  | MintNewEditionFromMasterEditionViaToken (args : MintNewEditionFromMasterEditionViaTokenArgs)
  | ConvertMasterEditionV1ToV2
  | MintNewEditionFromMasterEditionViaVaultProxy
  | PuffMetadata
  | UpdateMetadataAccountV2 (args : UpdateMetadataAccountV2Args)
  | CreateMetadataAccountV2 (args : CreateMetadataAccountV2Args)
  | CreateMasterEditionV3 (args : CreateMasterEditionV3Args)
  | VerifyCollection
  | Utilize
  | ApproveUseAuthority
  | RevokeUseAuthority
  | UnverifyCollection
  | ApproveCollectionAuthority
  | RevokeCollectionAuthority
  | SetAndVerifyCollection
  | FreezeDelegatedAccount
  | ThawDelegatedAccount
  | RemoveCreatorVerification
  | BurnNft
  | VerifySizedCollectionItem
  | UnverifySizedCollectionItem
  | SetAndVerifySizedCollectionItem
  | CreateMetadataAccountV3 (args : CreateMetadataAccountV3Args)
  | SetCollectionSize (args : SetCollectionSizeArgs)
  | SetTokenStandard
  | BubblegumSetCollectionSize
  | BurnEditionNft
  | CreateEscrowAccount
  | CloseEscrowAccount
  | TransferOutOfEscrow
  | Burn (args : BurnArgs)
  | Create (args : CreateV1InstructionArgs)
  | Mint (args : MintArgs)
  | Delegate (args : DelegateArgs)
  | Revoke
  | Lock
  | Unlock
  | Migrate
  | Transfer (args : TransferArgs)
  | Update (args : UpdateV1InstructionArgs)
  | Use
  | Verify
  | Unverify
  | Collect
  | Print
  | Unknown
  deriving DecidableEq


/-! ## The decoder -/

/-- The arm of `CREATE` and of `UPDATE`: the sub-discriminator, which must be 0, then the
arguments of the version-1 instruction. -/
def v1_arm {α : Type} (c : Codec α) (V : α → TokenMetadataInstruction) (payload : List UInt8) :
    Outcome ParseError TokenMetadataInstruction := do
  let (subdiscriminator, args_payload) ←
    Outcome.okOr (.InvalidLength 1 payload.length) (Slice.split_first payload)
  if subdiscriminator ≠ 0 then
    .err (.TokenMetadataSubdiscriminatorUnknown subdiscriminator)
  else
    return V (← decode (c.try_from_slice args_payload))

/-- The arms of the `match discriminator` of `try_from`, in the source's order. -/
def arms : List (UInt8 × (List UInt8 → Outcome ParseError TokenMetadataInstruction)) :=
  [(CREATE_METADATA_ACCOUNT, decode_arm CreateMetadataAccountArgs.borsh .CreateMetadataAccount),
   (UPDATE_METADATA_ACCOUNT, decode_arm UpdateMetadataAccountArgs.borsh .UpdateMetadataAccount),
   (DEPRECATED_CREATE_MASTER_EDITION, fun _ => .ok .DeprecatedCreateMasterEdition),
   (DEPRECATED_MINT_NEW_EDITION_FROM_MASTER_EDITION_VIA_PRINTING_TOKEN,
     fun _ => .ok .DeprecatedMintNewEditionFromMasterEditionViaPrintingToken),
   (UPDATE_PRIMARY_SALE_HAPPENED_VIA_TOKEN, fun _ => .ok .UpdatePrimarySaleHappenedViaToken),
   (DEPRECATED_SET_RESERVATION_LIST, fun _ => .ok .DeprecatedSetReservationList),
   (DEPRECATED_CREATE_RESERVATION_LIST, fun _ => .ok .DeprecatedCreateReservationList),
   (SIGN_METADATA, fun _ => .ok .SignMetadata),
   (DEPRECATED_MINT_PRINTING_TOKENS_VIA_TOKEN, fun _ => .ok .DeprecatedMintPrintingTokensViaToken),
   (DEPRECATED_MINT_PRINTING_TOKENS, fun _ => .ok .DeprecatedMintPrintingTokens),
   (CREATE_MASTER_EDITION, decode_arm CreateMasterEditionArgs.borsh .CreateMasterEdition),
   (MINT_NEW_EDITION_FROM_MASTER_EDITION_VIA_TOKEN,
     decode_arm MintNewEditionFromMasterEditionViaTokenArgs.borsh
       .MintNewEditionFromMasterEditionViaToken),
   (CONVERT_MASTER_EDITION_V1_TO_V2, fun _ => .ok .ConvertMasterEditionV1ToV2),
   (MINT_NEW_EDITION_FROM_MASTER_EDITION_VIA_VAULT_PROXY,
     fun _ => .ok .MintNewEditionFromMasterEditionViaVaultProxy),
   (PUFF_METADATA, fun _ => .ok .PuffMetadata),
   (UPDATE_METADATA_ACCOUNT_V2,
     decode_arm UpdateMetadataAccountV2Args.borsh .UpdateMetadataAccountV2),
   (CREATE_METADATA_ACCOUNT_V2,
     decode_arm CreateMetadataAccountV2Args.borsh .CreateMetadataAccountV2),
   (CREATE_MASTER_EDITION_V3, decode_arm CreateMasterEditionV3Args.borsh .CreateMasterEditionV3),
   (VERIFY_COLLECTION, fun _ => .ok .VerifyCollection),
   (UTILIZE, fun _ => .ok .Utilize),
   (APPROVE_USE_AUTHORITY, fun _ => .ok .ApproveUseAuthority),
   (REVOKE_USE_AUTHORITY, fun _ => .ok .RevokeUseAuthority),
   (UNVERIFY_COLLECTION, fun _ => .ok .UnverifyCollection),
   (APPROVE_COLLECTION_AUTHORITY, fun _ => .ok .ApproveCollectionAuthority),
   (REVOKE_COLLECTION_AUTHORITY, fun _ => .ok .RevokeCollectionAuthority),
   (SET_AND_VERIFY_COLLECTION, fun _ => .ok .SetAndVerifyCollection),
   (FREEZE_DELEGATED_ACCOUNT, fun _ => .ok .FreezeDelegatedAccount),
   (THAW_DELEGATED_ACCOUNT, fun _ => .ok .ThawDelegatedAccount),
   (REMOVE_CREATOR_VERIFICATION, fun _ => .ok .RemoveCreatorVerification),
   (BURN_NFT, fun _ => .ok .BurnNft),
   (VERIFY_SIZED_COLLECTION_ITEM, fun _ => .ok .VerifySizedCollectionItem),
   (UNVERIFY_SIZED_COLLECTION_ITEM, fun _ => .ok .UnverifySizedCollectionItem),
   (SET_AND_VERIFY_SIZED_COLLECTION_ITEM, fun _ => .ok .SetAndVerifySizedCollectionItem),
   (CREATE_METADATA_ACCOUNT_V3,
     decode_arm CreateMetadataAccountV3Args.borsh .CreateMetadataAccountV3),
   (SET_COLLECTION_SIZE, decode_arm SetCollectionSizeArgs.borsh .SetCollectionSize),
   (SET_TOKEN_STANDARD, fun _ => .ok .SetTokenStandard),
   (BUBBLEGUM_SET_COLLECTION_SIZE, fun _ => .ok .BubblegumSetCollectionSize),
   (BURN_EDITION_NFT, fun _ => .ok .BurnEditionNft),
   (CREATE_ESCROW_ACCOUNT, fun _ => .ok .CreateEscrowAccount),
   (CLOSE_ESCROW_ACCOUNT, fun _ => .ok .CloseEscrowAccount),
   (TRANSFER_OUT_OF_ESCROW, fun _ => .ok .TransferOutOfEscrow),
   (BURN, decode_arm BurnArgs.borsh .Burn),
   (CREATE, v1_arm CreateV1InstructionArgs.borsh .Create),
   (MINT, decode_arm MintArgs.borsh .Mint),
   (DELEGATE, decode_arm DelegateArgs.borsh .Delegate),
   (REVOKE, fun _ => .ok .Revoke),
   (LOCK, fun _ => .ok .Lock),
   (UNLOCK, fun _ => .ok .Unlock),
   (MIGRATE, fun _ => .ok .Migrate),
   (TRANSFER, decode_arm TransferArgs.borsh .Transfer),
   (UPDATE, v1_arm UpdateV1InstructionArgs.borsh .Update),
   (USE, fun _ => .ok .Use),
   (VERIFY, fun _ => .ok .Verify),
   (UNVERIFY, fun _ => .ok .Unverify),
   (COLLECT, fun _ => .ok .Collect),
   (PRINT, fun _ => .ok .Print)]

/-- The `match discriminator` of `try_from`: the arm of the discriminator, or
`TokenMetadataUnknown`. -/
def decode_payload (discriminator : UInt8) (payload : List UInt8) :
    Outcome ParseError TokenMetadataInstruction :=
  matchConst arms (fun other _ => .err (.TokenMetadataUnknown other)) discriminator payload

/-- `TokenMetadataInstruction::try_from`. -/
def try_from (data : List UInt8) : Outcome ParseError TokenMetadataInstruction := do
  if data.isEmpty then
    .err (.TooShort data.length)
  else
    let discriminator ← Slice.index data 0
    let payload ← Slice.range_from data 1
    decode_payload discriminator payload

/-- `unpack`, which forwards to `try_from`. -/
def unpack (data : List UInt8) : Outcome ParseError TokenMetadataInstruction :=
  try_from data

/-! ## The header and the three shapes of arm -/

/-- A non-empty input is dispatched on its first byte, with the rest as the payload. -/
theorem try_from_cons (discriminator : UInt8) (payload : List UInt8) :
    try_from (discriminator :: payload) = decode_payload discriminator payload := by
  have hrest : (Slice.range_from (discriminator :: payload) 1 : Outcome ParseError (List UInt8)) =
      .ok payload :=
    Slice.range_from_append (s := [discriminator]) rfl payload
  simp only [try_from, List.isEmpty_cons, Bool.false_eq_true, if_false, Slice.index_cons_zero,
    Outcome.ok_bind, hrest]

/-- The discriminators are the bytes 0 to 55, in order. -/
theorem arms_keys : arms.map Prod.fst = (List.range 56).map UInt8.ofNat := rfl

/-- The 56 discriminators are distinct. -/
theorem arms_nodup : (arms.map Prod.fst).Nodup := by
  rw [arms_keys]
  refine List.Nodup.map_on ?_ List.nodup_range
  intro m hm n hn h
  -- Below 256, `UInt8.ofNat` keeps its argument.
  have hm' : m < 56 := List.mem_range.mp hm
  have hn' : n < 56 := List.mem_range.mp hn
  have hmn : m % 2 ^ 8 = n % 2 ^ 8 := by
    rw [← UInt8.toNat_ofNat', ← UInt8.toNat_ofNat', h]
  omega

/-- On the discriminator of a row, the decoder runs that row's arm on the rest. -/
theorem unpack_cons_of_mem {discriminator : UInt8}
    {arm : List UInt8 → Outcome ParseError TokenMetadataInstruction}
    (hmem : (discriminator, arm) ∈ arms) (payload : List UInt8) :
    unpack (discriminator :: payload) = arm payload := by
  rw [unpack, try_from_cons, decode_payload, matchConst_of_mem arms_nodup _ hmem]

/-- An arm with arguments reads back what their codec wrote. -/
theorem unpack_arm {α : Type} {discriminator : UInt8} {c : Codec α}
    {V : α → TokenMetadataInstruction} (hmem : (discriminator, decode_arm c V) ∈ arms) {x : α}
    (hx : c.fits x = true) : unpack (discriminator :: c.write x) = .ok (V x) := by
  rw [unpack_cons_of_mem hmem]
  exact decode_arm_write c V hx

/-- An arm without arguments ignores whatever follows the discriminator. -/
theorem unpack_bare {discriminator : UInt8} {i : TokenMetadataInstruction}
    (hmem : (discriminator, fun _ => .ok i) ∈ arms) (t : List UInt8) :
    unpack (discriminator :: t) = .ok i :=
  unpack_cons_of_mem hmem t

/-- The version-1 arm rejects every sub-discriminator but 0, whatever follows it. -/
theorem v1_arm_of_ne {α : Type} (c : Codec α) (V : α → TokenMetadataInstruction)
    {subdiscriminator : UInt8} (hs : subdiscriminator ≠ 0) (t : List UInt8) :
    v1_arm c V (subdiscriminator :: t) =
      .err (.TokenMetadataSubdiscriminatorUnknown subdiscriminator) := by
  simp only [v1_arm, Slice.split_first_cons, Outcome.okOr_some, Outcome.ok_bind, if_pos hs]

/-- Behind the sub-discriminator 0, the version-1 arm reads back what the codec wrote. -/
theorem v1_arm_write {α : Type} (c : Codec α) (V : α → TokenMetadataInstruction) {x : α}
    (hx : c.fits x = true) : v1_arm c V (0 :: c.write x) = .ok (V x) := by
  simp only [v1_arm, Slice.split_first_cons, Outcome.okOr_some, Outcome.ok_bind, ne_eq,
    not_true_eq_false, if_false]
  exact decode_arm_write c V hx

/-- A version-1 arm behind its discriminator reads back what the codec wrote. -/
theorem unpack_v1 {α : Type} {discriminator : UInt8} {c : Codec α}
    {V : α → TokenMetadataInstruction} (hmem : (discriminator, v1_arm c V) ∈ arms) {x : α}
    (hx : c.fits x = true) : unpack (discriminator :: 0 :: c.write x) = .ok (V x) := by
  rw [unpack_cons_of_mem hmem, v1_arm_write c V hx]

/-- `CREATE` runs the version-1 arm of `CreateV1InstructionArgs`. -/
theorem unpack_create (payload : List UInt8) :
    unpack (CREATE :: payload) = v1_arm CreateV1InstructionArgs.borsh .Create payload :=
  unpack_cons_of_mem (by simp only [arms, List.mem_cons, true_or, or_true]) payload

/-- `UPDATE` runs the version-1 arm of `UpdateV1InstructionArgs`. -/
theorem unpack_update (payload : List UInt8) :
    unpack (UPDATE :: payload) = v1_arm UpdateV1InstructionArgs.borsh .Update payload :=
  unpack_cons_of_mem (by simp only [arms, List.mem_cons, true_or, or_true]) payload

/-! ## The program's layout -/

/-- The program's layout of an instruction: its discriminator, the sub-discriminator 0 for the
version-1 `Create` and `Update`, then the Borsh encoding of its arguments. `Unknown` is no
instruction of the program and has no layout. -/
def TokenMetadataInstruction.write : TokenMetadataInstruction → List UInt8
  | .CreateMetadataAccount a => CREATE_METADATA_ACCOUNT :: CreateMetadataAccountArgs.borsh.write a
  | .UpdateMetadataAccount a => UPDATE_METADATA_ACCOUNT :: UpdateMetadataAccountArgs.borsh.write a
  | .DeprecatedCreateMasterEdition => [DEPRECATED_CREATE_MASTER_EDITION]
  | .DeprecatedMintNewEditionFromMasterEditionViaPrintingToken =>
    [DEPRECATED_MINT_NEW_EDITION_FROM_MASTER_EDITION_VIA_PRINTING_TOKEN]
  | .UpdatePrimarySaleHappenedViaToken => [UPDATE_PRIMARY_SALE_HAPPENED_VIA_TOKEN]
  | .DeprecatedSetReservationList => [DEPRECATED_SET_RESERVATION_LIST]
  | .DeprecatedCreateReservationList => [DEPRECATED_CREATE_RESERVATION_LIST]
  | .SignMetadata => [SIGN_METADATA]
  | .DeprecatedMintPrintingTokensViaToken => [DEPRECATED_MINT_PRINTING_TOKENS_VIA_TOKEN]
  | .DeprecatedMintPrintingTokens => [DEPRECATED_MINT_PRINTING_TOKENS]
  | .CreateMasterEdition a => CREATE_MASTER_EDITION :: CreateMasterEditionArgs.borsh.write a
  | .MintNewEditionFromMasterEditionViaToken a =>
    MINT_NEW_EDITION_FROM_MASTER_EDITION_VIA_TOKEN ::
      MintNewEditionFromMasterEditionViaTokenArgs.borsh.write a
  | .ConvertMasterEditionV1ToV2 => [CONVERT_MASTER_EDITION_V1_TO_V2]
  | .MintNewEditionFromMasterEditionViaVaultProxy =>
    [MINT_NEW_EDITION_FROM_MASTER_EDITION_VIA_VAULT_PROXY]
  | .PuffMetadata => [PUFF_METADATA]
  | .UpdateMetadataAccountV2 a =>
    UPDATE_METADATA_ACCOUNT_V2 :: UpdateMetadataAccountV2Args.borsh.write a
  | .CreateMetadataAccountV2 a =>
    CREATE_METADATA_ACCOUNT_V2 :: CreateMetadataAccountV2Args.borsh.write a
  | .CreateMasterEditionV3 a => CREATE_MASTER_EDITION_V3 :: CreateMasterEditionV3Args.borsh.write a
  | .VerifyCollection => [VERIFY_COLLECTION]
  | .Utilize => [UTILIZE]
  | .ApproveUseAuthority => [APPROVE_USE_AUTHORITY]
  | .RevokeUseAuthority => [REVOKE_USE_AUTHORITY]
  | .UnverifyCollection => [UNVERIFY_COLLECTION]
  | .ApproveCollectionAuthority => [APPROVE_COLLECTION_AUTHORITY]
  | .RevokeCollectionAuthority => [REVOKE_COLLECTION_AUTHORITY]
  | .SetAndVerifyCollection => [SET_AND_VERIFY_COLLECTION]
  | .FreezeDelegatedAccount => [FREEZE_DELEGATED_ACCOUNT]
  | .ThawDelegatedAccount => [THAW_DELEGATED_ACCOUNT]
  | .RemoveCreatorVerification => [REMOVE_CREATOR_VERIFICATION]
  | .BurnNft => [BURN_NFT]
  | .VerifySizedCollectionItem => [VERIFY_SIZED_COLLECTION_ITEM]
  | .UnverifySizedCollectionItem => [UNVERIFY_SIZED_COLLECTION_ITEM]
  | .SetAndVerifySizedCollectionItem => [SET_AND_VERIFY_SIZED_COLLECTION_ITEM]
  | .CreateMetadataAccountV3 a =>
    CREATE_METADATA_ACCOUNT_V3 :: CreateMetadataAccountV3Args.borsh.write a
  | .SetCollectionSize a => SET_COLLECTION_SIZE :: SetCollectionSizeArgs.borsh.write a
  | .SetTokenStandard => [SET_TOKEN_STANDARD]
  | .BubblegumSetCollectionSize => [BUBBLEGUM_SET_COLLECTION_SIZE]
  | .BurnEditionNft => [BURN_EDITION_NFT]
  | .CreateEscrowAccount => [CREATE_ESCROW_ACCOUNT]
  | .CloseEscrowAccount => [CLOSE_ESCROW_ACCOUNT]
  | .TransferOutOfEscrow => [TRANSFER_OUT_OF_ESCROW]
  | .Burn a => BURN :: BurnArgs.borsh.write a
  | .Create a => CREATE :: 0 :: CreateV1InstructionArgs.borsh.write a
  | .Mint a => MINT :: MintArgs.borsh.write a
  | .Delegate a => DELEGATE :: DelegateArgs.borsh.write a
  | .Revoke => [REVOKE]
  | .Lock => [LOCK]
  | .Unlock => [UNLOCK]
  | .Migrate => [MIGRATE]
  | .Transfer a => TRANSFER :: TransferArgs.borsh.write a
  | .Update a => UPDATE :: 0 :: UpdateV1InstructionArgs.borsh.write a
  | .Use => [USE]
  | .Verify => [VERIFY]
  | .Unverify => [UNVERIFY]
  | .Collect => [COLLECT]
  | .Print => [PRINT]
  | .Unknown => []

/-- Whether an instruction can be written: its arguments' strings, vectors and maps fit their
`u32` counts, and `Unknown` is no instruction. -/
def TokenMetadataInstruction.fits : TokenMetadataInstruction → Bool
  | .CreateMetadataAccount a => CreateMetadataAccountArgs.borsh.fits a
  | .UpdateMetadataAccount a => UpdateMetadataAccountArgs.borsh.fits a
  | .CreateMasterEdition a => CreateMasterEditionArgs.borsh.fits a
  | .MintNewEditionFromMasterEditionViaToken a =>
    MintNewEditionFromMasterEditionViaTokenArgs.borsh.fits a
  | .UpdateMetadataAccountV2 a => UpdateMetadataAccountV2Args.borsh.fits a
  | .CreateMetadataAccountV2 a => CreateMetadataAccountV2Args.borsh.fits a
  | .CreateMasterEditionV3 a => CreateMasterEditionV3Args.borsh.fits a
  | .CreateMetadataAccountV3 a => CreateMetadataAccountV3Args.borsh.fits a
  | .SetCollectionSize a => SetCollectionSizeArgs.borsh.fits a
  | .Burn a => BurnArgs.borsh.fits a
  | .Create a => CreateV1InstructionArgs.borsh.fits a
  | .Mint a => MintArgs.borsh.fits a
  | .Delegate a => DelegateArgs.borsh.fits a
  | .Transfer a => TransferArgs.borsh.fits a
  | .Update a => UpdateV1InstructionArgs.borsh.fits a
  | .Unknown => false
  | _ => true

/-- The instructions without arguments. -/
def TokenMetadataInstruction.argless : TokenMetadataInstruction → Bool
  | .CreateMetadataAccount _
  | .UpdateMetadataAccount _
  | .CreateMasterEdition _
  | .MintNewEditionFromMasterEditionViaToken _
  | .UpdateMetadataAccountV2 _
  | .CreateMetadataAccountV2 _
  | .CreateMasterEditionV3 _
  | .CreateMetadataAccountV3 _
  | .SetCollectionSize _
  | .Burn _
  | .Create _
  | .Mint _
  | .Delegate _
  | .Transfer _
  | .Update _
  | .Unknown => false
  | _ => true

/-! ## Every instruction, read back -/

/-- Every instruction is read back from the program's layout. -/
theorem unpack_write (i : TokenMetadataInstruction) (h : i.fits = true) :
    unpack i.write = .ok i := by
  cases i
  case Unknown => simp [TokenMetadataInstruction.fits] at h
  case Create a | Update a =>
    exact unpack_v1 (by simp only [arms, List.mem_cons, true_or, or_true]) h
  case CreateMetadataAccount a | UpdateMetadataAccount a | CreateMasterEdition a |
    MintNewEditionFromMasterEditionViaToken a | UpdateMetadataAccountV2 a |
    CreateMetadataAccountV2 a | CreateMasterEditionV3 a | CreateMetadataAccountV3 a |
    SetCollectionSize a | Burn a | Mint a | Delegate a | Transfer a =>
    exact unpack_arm (by simp only [arms, List.mem_cons, true_or, or_true]) h
  -- The rest have no arguments: their layout is the discriminator alone.
  all_goals exact unpack_bare (by simp only [arms, List.mem_cons, true_or, or_true]) []

/-- An instruction without arguments is read back whatever bytes follow its discriminator. -/
theorem unpack_write_append_of_argless (i : TokenMetadataInstruction) (h : i.argless = true)
    (t : List UInt8) : unpack (i.write ++ t) = .ok i := by
  cases i
  case CreateMetadataAccount a | UpdateMetadataAccount a | CreateMasterEdition a |
    MintNewEditionFromMasterEditionViaToken a | UpdateMetadataAccountV2 a |
    CreateMetadataAccountV2 a | CreateMasterEditionV3 a | CreateMetadataAccountV3 a |
    SetCollectionSize a | Burn a | Mint a | Delegate a | Transfer a | Create a | Update a |
    Unknown =>
    simp [TokenMetadataInstruction.argless] at h
  all_goals exact unpack_bare (by simp only [arms, List.mem_cons, true_or, or_true]) t

/-- `Create` and `Update` reject every sub-discriminator but 0, whatever follows it. -/
theorem unpack_v1_of_ne {s : UInt8} (hs : s ≠ 0) (t : List UInt8) :
    unpack (CREATE :: s :: t) = .err (.TokenMetadataSubdiscriminatorUnknown s) ∧
      unpack (UPDATE :: s :: t) = .err (.TokenMetadataSubdiscriminatorUnknown s) := by
  rw [unpack_create, unpack_update]
  exact ⟨v1_arm_of_ne _ _ hs t, v1_arm_of_ne _ _ hs t⟩

/-- The program's layout of every instruction is read back; an instruction without arguments is
read back whatever follows it; and `Create` and `Update` reject every sub-discriminator but 0,
whatever follows it. -/
theorem unpack_write_every_instruction :
    (∀ i : TokenMetadataInstruction, i.fits = true → unpack i.write = .ok i) ∧
    (∀ i : TokenMetadataInstruction, i.argless = true →
      ∀ t, unpack (i.write ++ t) = .ok i) ∧
    (∀ s : UInt8, s ≠ 0 → ∀ t,
      unpack (CREATE :: s :: t) = .err (.TokenMetadataSubdiscriminatorUnknown s) ∧
        unpack (UPDATE :: s :: t) = .err (.TokenMetadataSubdiscriminatorUnknown s)) :=
  ⟨unpack_write, unpack_write_append_of_argless, fun _ hs t => unpack_v1_of_ne hs t⟩

theorem unpack_write_every_instruction_on_sign_metadata :
    unpack TokenMetadataInstruction.SignMetadata.write = .ok .SignMetadata ∧
    unpack (TokenMetadataInstruction.SignMetadata.write ++ [1, 2]) = .ok .SignMetadata ∧
    unpack [CREATE, 1] = .err (.TokenMetadataSubdiscriminatorUnknown 1) :=
  ⟨unpack_write_every_instruction.1 _ rfl, unpack_write_every_instruction.2.1 _ rfl _,
    (unpack_write_every_instruction.2.2 1 (by decide) []).1⟩

end SolanaIdls.metaplex.token_metadata.instructions
