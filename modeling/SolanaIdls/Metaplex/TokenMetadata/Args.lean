import SolanaIdls.Common
import SolanaIdls.Borsh.SortedMap

/-!
# Arguments of the Token Metadata instructions

The argument types of `src/metaplex/token_metadata/instructions.rs` and their derived Borsh
codecs. They nest the compound forms of Borsh several levels deep: optional vectors of creators,
strings, fieldless and field-carrying enums, and in `AuthorizationData` a `HashMap<String,
PayloadType>` whose values are themselves vectors of vectors. Every codec here is assembled from
the combinators of `Borsh.Codec`, `Borsh.Compound` and `Borsh.SortedMap`, so that each carries its
round-trip law from its construction; what is proved per type is only the case split of an enum
over its variants.

The four three-way toggles of `UpdateV1InstructionArgs` share one shape, `None`, `Clear` or
`Set(value)`; they are one type `Toggle` over the value's type, each toggle of the source being
`Toggle` at its own value.
-/

namespace SolanaIdls.metaplex.token_metadata.instructions

open Borsh Borsh.Codec

/-! ## Metadata -/

/-- `Creator`. -/
structure Creator where
  address : Pubkey
  verified : Bool
  share : UInt8
  deriving DecidableEq

/-- `Collection`. -/
structure Collection where
  verified : Bool
  key : Pubkey
  deriving DecidableEq

/-- `Uses`. -/
structure Uses where
  use_method : UInt8
  remaining : UInt64
  total : UInt64
  deriving DecidableEq

/-- `CollectionDetails`. -/
structure CollectionDetails where
  discriminator : UInt8
  size : UInt64
  deriving DecidableEq

/-- `Data`. -/
structure Data where
  name : String
  symbol : String
  uri : String
  seller_fee_basis_points : UInt16
  creators : Option (List Creator)
  deriving DecidableEq

/-- `DataV2`. -/
structure DataV2 where
  name : String
  symbol : String
  uri : String
  seller_fee_basis_points : UInt16
  creators : Option (List Creator)
  collection : Option Collection
  uses : Option Uses
  deriving DecidableEq

def Creator.borsh : Codec Creator :=
  (pubkey.prod <| bool.prod u8).map (fun (a, b, c) => ⟨a, b, c⟩)
    (fun x => (x.address, x.verified, x.share)) fun _ => rfl

def Collection.borsh : Codec Collection :=
  (bool.prod pubkey).map (fun (a, b) => ⟨a, b⟩) (fun x => (x.verified, x.key)) fun _ => rfl

def Uses.borsh : Codec Uses :=
  (u8.prod <| u64.prod u64).map (fun (a, b, c) => ⟨a, b, c⟩)
    (fun x => (x.use_method, x.remaining, x.total)) fun _ => rfl

def CollectionDetails.borsh : Codec CollectionDetails :=
  (u8.prod u64).map (fun (a, b) => ⟨a, b⟩) (fun x => (x.discriminator, x.size)) fun _ => rfl

def Data.borsh : Codec Data :=
  (string.prod <| string.prod <| string.prod <| u16.prod Creator.borsh.vec.option).map
    (fun (a, b, c, d, e) => ⟨a, b, c, d, e⟩)
    (fun x => (x.name, x.symbol, x.uri, x.seller_fee_basis_points, x.creators)) fun _ => rfl

def DataV2.borsh : Codec DataV2 :=
  (string.prod <| string.prod <| string.prod <| u16.prod <| Creator.borsh.vec.option.prod <|
    Collection.borsh.option.prod Uses.borsh.option).map
    (fun (a, b, c, d, e, f, g) => ⟨a, b, c, d, e, f, g⟩)
    (fun x => (x.name, x.symbol, x.uri, x.seller_fee_basis_points, x.creators, x.collection,
      x.uses))
    fun _ => rfl

/-! ## Arguments of the legacy instructions -/

/-- `CreateMetadataAccountArgs`. -/
structure CreateMetadataAccountArgs where
  data : Data
  is_mutable : Bool
  deriving DecidableEq

/-- `UpdateMetadataAccountArgs`. -/
structure UpdateMetadataAccountArgs where
  data : Option Data
  update_authority : Option Pubkey
  primary_sale_happened : Option Bool
  deriving DecidableEq

/-- `CreateMetadataAccountV2Args`. -/
structure CreateMetadataAccountV2Args where
  data : DataV2
  is_mutable : Bool
  deriving DecidableEq

/-- `CreateMetadataAccountV3Args`. -/
structure CreateMetadataAccountV3Args where
  data : DataV2
  is_mutable : Bool
  collection_details : Option CollectionDetails
  deriving DecidableEq

/-- `CreateMasterEditionArgs`. -/
structure CreateMasterEditionArgs where
  max_supply : Option UInt64
  deriving DecidableEq

/-- `CreateMasterEditionV3Args`. -/
structure CreateMasterEditionV3Args where
  max_supply : Option UInt64
  deriving DecidableEq

/-- `MintNewEditionFromMasterEditionViaTokenArgs`. -/
structure MintNewEditionFromMasterEditionViaTokenArgs where
  edition : UInt64
  deriving DecidableEq

/-- `SetCollectionSizeArgs`. -/
structure SetCollectionSizeArgs where
  size : UInt64
  deriving DecidableEq

/-- `UpdateMetadataAccountV2Args`. -/
structure UpdateMetadataAccountV2Args where
  data : Option DataV2
  update_authority : Option Pubkey
  primary_sale_happened : Option Bool
  is_mutable : Option Bool
  deriving DecidableEq

def CreateMetadataAccountArgs.borsh : Codec CreateMetadataAccountArgs :=
  (Data.borsh.prod bool).map (fun (a, b) => ⟨a, b⟩) (fun x => (x.data, x.is_mutable)) fun _ => rfl

def UpdateMetadataAccountArgs.borsh : Codec UpdateMetadataAccountArgs :=
  (Data.borsh.option.prod <| pubkey.option.prod bool.option).map (fun (a, b, c) => ⟨a, b, c⟩)
    (fun x => (x.data, x.update_authority, x.primary_sale_happened)) fun _ => rfl

def CreateMetadataAccountV2Args.borsh : Codec CreateMetadataAccountV2Args :=
  (DataV2.borsh.prod bool).map (fun (a, b) => ⟨a, b⟩) (fun x => (x.data, x.is_mutable))
    fun _ => rfl

def CreateMetadataAccountV3Args.borsh : Codec CreateMetadataAccountV3Args :=
  (DataV2.borsh.prod <| bool.prod CollectionDetails.borsh.option).map (fun (a, b, c) => ⟨a, b, c⟩)
    (fun x => (x.data, x.is_mutable, x.collection_details)) fun _ => rfl

def CreateMasterEditionArgs.borsh : Codec CreateMasterEditionArgs :=
  u64.option.map (fun a => ⟨a⟩) (fun x => x.max_supply) fun _ => rfl

def CreateMasterEditionV3Args.borsh : Codec CreateMasterEditionV3Args :=
  u64.option.map (fun a => ⟨a⟩) (fun x => x.max_supply) fun _ => rfl

def MintNewEditionFromMasterEditionViaTokenArgs.borsh :
    Codec MintNewEditionFromMasterEditionViaTokenArgs :=
  u64.map (fun a => ⟨a⟩) (fun x => x.edition) fun _ => rfl

def SetCollectionSizeArgs.borsh : Codec SetCollectionSizeArgs :=
  u64.map (fun a => ⟨a⟩) (fun x => x.size) fun _ => rfl

def UpdateMetadataAccountV2Args.borsh : Codec UpdateMetadataAccountV2Args :=
  (DataV2.borsh.option.prod <| pubkey.option.prod <| bool.option.prod bool.option).map
    (fun (a, b, c, d) => ⟨a, b, c, d⟩)
    (fun x => (x.data, x.update_authority, x.primary_sale_happened, x.is_mutable)) fun _ => rfl

/-! ## Enums of the version-1 instructions -/

/-- `TokenStandard`. -/
inductive TokenStandard where
  | NonFungible
  | FungibleAsset
  | Fungible
  | NonFungibleEdition
  | ProgrammableNonFungible
  | ProgrammableNonFungibleEdition
  deriving DecidableEq

/-- `PrintSupply`. -/
inductive PrintSupply where
  | Zero
  | Limited (supply : UInt64)
  | Unlimited
  deriving DecidableEq

/-- The shape of `CollectionToggle`, `CollectionDetailsToggle`, `UsesToggle` and
`RuleSetToggle`: leave the field, clear it, or set it to a value. -/
inductive Toggle (α : Type) where
  | None
  | Clear
  | Set (value : α)
  deriving DecidableEq

/-- `CollectionToggle`. -/
abbrev CollectionToggle := Toggle Collection

/-- `CollectionDetailsToggle`. -/
abbrev CollectionDetailsToggle := Toggle CollectionDetails

/-- `UsesToggle`. -/
abbrev UsesToggle := Toggle Uses

/-- `RuleSetToggle`. -/
abbrev RuleSetToggle := Toggle Pubkey

def TokenStandard.borsh : Codec TokenStandard :=
  unitEnum
    (fun
      | .NonFungible => 0 | .FungibleAsset => 1 | .Fungible => 2 | .NonFungibleEdition => 3
      | .ProgrammableNonFungible => 4 | .ProgrammableNonFungibleEdition => 5)
    (fun t =>
      if t = 0 then some .NonFungible else if t = 1 then some .FungibleAsset
      else if t = 2 then some .Fungible else if t = 3 then some .NonFungibleEdition
      else if t = 4 then some .ProgrammableNonFungible
      else if t = 5 then some .ProgrammableNonFungibleEdition else none)
    (by intro x; cases x <;> rfl)

/-- `PrintSupply`: index 0, 1 with the supply, or 2. -/
def PrintSupply.borsh : Codec PrintSupply :=
  enum (fun | .Zero => 0 | .Limited _ => 1 | .Unlimited => 2)
    (fun | .Limited n => u64.write n | _ => [])
    (fun _ => true)
    (fun t =>
      if t = 0 then some fun rest => .ok (.Zero, rest)
      else if t = 1 then some (u64.readAs .Limited)
      else if t = 2 then some fun rest => .ok (.Unlimited, rest)
      else none)
    (by
      rintro (_ | n | _) -
      · exact ⟨_, rfl, fun _ => rfl⟩
      · exact ⟨_, rfl, u64.readAs_write _ rfl⟩
      · exact ⟨_, rfl, fun _ => rfl⟩)

/-- A toggle: index 0 or 1, or 2 with the value. -/
def Toggle.borsh {α : Type} (c : Codec α) : Codec (Toggle α) :=
  enum (fun | .None => 0 | .Clear => 1 | .Set _ => 2)
    (fun | .Set a => c.write a | _ => [])
    (fun | .Set a => c.fits a | _ => true)
    (fun t =>
      if t = 0 then some fun rest => .ok (.None, rest)
      else if t = 1 then some fun rest => .ok (.Clear, rest)
      else if t = 2 then some (c.readAs .Set)
      else none)
    (by
      rintro (_ | _ | a) h
      · exact ⟨_, rfl, fun _ => rfl⟩
      · exact ⟨_, rfl, fun _ => rfl⟩
      · exact ⟨_, rfl, c.readAs_write _ h⟩)

def CollectionToggle.borsh : Codec CollectionToggle := Toggle.borsh Collection.borsh

def CollectionDetailsToggle.borsh : Codec CollectionDetailsToggle :=
  Toggle.borsh CollectionDetails.borsh

def UsesToggle.borsh : Codec UsesToggle := Toggle.borsh Uses.borsh

def RuleSetToggle.borsh : Codec RuleSetToggle := Toggle.borsh pubkey

/-! ## Authorization data -/

/-- `SeedsVec`. -/
structure SeedsVec where
  seeds : List (List UInt8)
  deriving DecidableEq

/-- `ProofInfo`. -/
structure ProofInfo where
  proof : List (List.Vector UInt8 32)
  deriving DecidableEq

/-- `PayloadType`. -/
inductive PayloadType where
  | Pubkey (key : Pubkey)
  | Seeds (seeds : SeedsVec)
  | MerkleProof (proof : ProofInfo)
  | Number (n : UInt64)
  deriving DecidableEq

/-- `Payload`: a `HashMap<String, PayloadType>`, as its entries sorted by key. -/
structure Payload where
  map : SortedMap String PayloadType
  deriving DecidableEq

/-- `AuthorizationData`. -/
structure AuthorizationData where
  payload : Payload
  deriving DecidableEq

def SeedsVec.borsh : Codec SeedsVec :=
  u8.vec.vec.map (fun a => ⟨a⟩) (fun x => x.seeds) fun _ => rfl

def ProofInfo.borsh : Codec ProofInfo :=
  (u8.array 32).vec.map (fun a => ⟨a⟩) (fun x => x.proof) fun _ => rfl

/-- `PayloadType`: index 0 to 3, then the variant's value. -/
def PayloadType.borsh : Codec PayloadType :=
  enum (fun | .Pubkey _ => 0 | .Seeds _ => 1 | .MerkleProof _ => 2 | .Number _ => 3)
    (fun
      | .Pubkey k => pubkey.write k
      | .Seeds s => SeedsVec.borsh.write s
      | .MerkleProof p => ProofInfo.borsh.write p
      | .Number n => u64.write n)
    (fun
      | .Pubkey k => pubkey.fits k
      | .Seeds s => SeedsVec.borsh.fits s
      | .MerkleProof p => ProofInfo.borsh.fits p
      | .Number n => u64.fits n)
    (fun t =>
      if t = 0 then some (pubkey.readAs .Pubkey)
      else if t = 1 then some (SeedsVec.borsh.readAs .Seeds)
      else if t = 2 then some (ProofInfo.borsh.readAs .MerkleProof)
      else if t = 3 then some (u64.readAs .Number)
      else none)
    (by
      rintro (k | s | p | n) h
      · exact ⟨_, rfl, pubkey.readAs_write _ h⟩
      · exact ⟨_, rfl, SeedsVec.borsh.readAs_write _ h⟩
      · exact ⟨_, rfl, ProofInfo.borsh.readAs_write _ h⟩
      · exact ⟨_, rfl, u64.readAs_write _ h⟩)

def Payload.borsh : Codec Payload :=
  (hashMap string PayloadType.borsh).map (fun a => ⟨a⟩) (fun x => x.map) fun _ => rfl

def AuthorizationData.borsh : Codec AuthorizationData :=
  Payload.borsh.map (fun a => ⟨a⟩) (fun x => x.payload) fun _ => rfl

/-! ## Arguments of the version-1 instructions -/

/-- `CreateV1InstructionArgs`. -/
structure CreateV1InstructionArgs where
  name : String
  symbol : String
  uri : String
  seller_fee_basis_points : UInt16
  creators : Option (List Creator)
  primary_sale_happened : Bool
  is_mutable : Bool
  token_standard : TokenStandard
  collection : Option Collection
  uses : Option Uses
  collection_details : Option CollectionDetails
  rule_set : Option Pubkey
  decimals : Option UInt8
  print_supply : Option PrintSupply
  deriving DecidableEq

/-- `UpdateV1InstructionArgs`. -/
structure UpdateV1InstructionArgs where
  new_update_authority : Option Pubkey
  data : Option Data
  primary_sale_happened : Option Bool
  is_mutable : Option Bool
  collection : CollectionToggle
  collection_details : CollectionDetailsToggle
  uses : UsesToggle
  rule_set : RuleSetToggle
  authorization_data : Option AuthorizationData
  deriving DecidableEq

/-- `BurnArgs`. -/
inductive BurnArgs where
  | V1 (amount : UInt64)
  deriving DecidableEq

/-- `MintArgs`. -/
inductive MintArgs where
  | V1 (amount : UInt64) (authorization_data : Option AuthorizationData)
  deriving DecidableEq

/-- `TransferArgs`. -/
inductive TransferArgs where
  | V1 (amount : UInt64) (authorization_data : Option AuthorizationData)
  deriving DecidableEq

/-- `DelegateArgs`. -/
inductive DelegateArgs where
  | CollectionV1 (authorization_data : Option AuthorizationData)
  | SaleV1 (amount : UInt64) (authorization_data : Option AuthorizationData)
  | TransferV1 (amount : UInt64) (authorization_data : Option AuthorizationData)
  | DataV1 (authorization_data : Option AuthorizationData)
  | UtilityV1 (amount : UInt64) (authorization_data : Option AuthorizationData)
  | StakingV1 (amount : UInt64) (authorization_data : Option AuthorizationData)
  | StandardV1 (amount : UInt64)
  | LockedTransferV1 (amount : UInt64) (locked_address : Pubkey)
      (authorization_data : Option AuthorizationData)
  | ProgrammableConfigV1 (authorization_data : Option AuthorizationData)
  | AuthorityItemV1 (authorization_data : Option AuthorizationData)
  | DataItemV1 (authorization_data : Option AuthorizationData)
  | CollectionItemV1 (authorization_data : Option AuthorizationData)
  | ProgrammableConfigItemV1 (authorization_data : Option AuthorizationData)
  | PrintDelegateV1 (authorization_data : Option AuthorizationData)
  deriving DecidableEq

def CreateV1InstructionArgs.borsh : Codec CreateV1InstructionArgs :=
  (string.prod <| string.prod <| string.prod <| u16.prod <| Creator.borsh.vec.option.prod <|
    bool.prod <| bool.prod <| TokenStandard.borsh.prod <| Collection.borsh.option.prod <|
    Uses.borsh.option.prod <| CollectionDetails.borsh.option.prod <| pubkey.option.prod <|
    u8.option.prod PrintSupply.borsh.option).map
    (fun (a, b, c, d, e, f, g, h, i, j, k, l, m, n) => ⟨a, b, c, d, e, f, g, h, i, j, k, l, m, n⟩)
    (fun x => (x.name, x.symbol, x.uri, x.seller_fee_basis_points, x.creators,
      x.primary_sale_happened, x.is_mutable, x.token_standard, x.collection, x.uses,
      x.collection_details, x.rule_set, x.decimals, x.print_supply))
    fun _ => rfl

def UpdateV1InstructionArgs.borsh : Codec UpdateV1InstructionArgs :=
  (pubkey.option.prod <| Data.borsh.option.prod <| bool.option.prod <| bool.option.prod <|
    CollectionToggle.borsh.prod <| CollectionDetailsToggle.borsh.prod <| UsesToggle.borsh.prod <|
    RuleSetToggle.borsh.prod AuthorizationData.borsh.option).map
    (fun (a, b, c, d, e, f, g, h, i) => ⟨a, b, c, d, e, f, g, h, i⟩)
    (fun x => (x.new_update_authority, x.data, x.primary_sale_happened, x.is_mutable,
      x.collection, x.collection_details, x.uses, x.rule_set, x.authorization_data))
    fun _ => rfl

/-- The fields `amount, authorization_data` that several variants carry. -/
def amountAuthorization : Codec (UInt64 × Option AuthorizationData) :=
  u64.prod AuthorizationData.borsh.option

/-- `BurnArgs`: index 0, then the amount. -/
def BurnArgs.borsh : Codec BurnArgs :=
  enum (fun _ => 0) (fun | .V1 n => u64.write n) (fun _ => true)
    (fun t => if t = 0 then some (u64.readAs .V1) else none)
    (by
      rintro (n) -
      exact ⟨_, rfl, u64.readAs_write _ rfl⟩)

/-- `MintArgs`: index 0, then the amount and the authorization data. -/
def MintArgs.borsh : Codec MintArgs :=
  enum (fun _ => 0) (fun | .V1 n a => amountAuthorization.write (n, a))
    (fun | .V1 n a => amountAuthorization.fits (n, a))
    (fun t => if t = 0 then some (amountAuthorization.readAs fun (n, a) => .V1 n a) else none)
    (by
      rintro ⟨n, a⟩ h
      exact ⟨_, rfl, amountAuthorization.readAs_write _ h⟩)

/-- `TransferArgs`: index 0, then the amount and the authorization data. -/
def TransferArgs.borsh : Codec TransferArgs :=
  enum (fun _ => 0) (fun | .V1 n a => amountAuthorization.write (n, a))
    (fun | .V1 n a => amountAuthorization.fits (n, a))
    (fun t => if t = 0 then some (amountAuthorization.readAs fun (n, a) => .V1 n a) else none)
    (by
      rintro ⟨n, a⟩ h
      exact ⟨_, rfl, amountAuthorization.readAs_write _ h⟩)

/-- The fields of `LockedTransferV1`. -/
def lockedTransfer : Codec (UInt64 × Pubkey × Option AuthorizationData) :=
  u64.prod <| pubkey.prod AuthorizationData.borsh.option

/-- `DelegateArgs`: the index of the variant, 0 to 13, then its fields. -/
def DelegateArgs.borsh : Codec DelegateArgs :=
  enum
    (fun
      | .CollectionV1 _ => 0 | .SaleV1 _ _ => 1 | .TransferV1 _ _ => 2 | .DataV1 _ => 3
      | .UtilityV1 _ _ => 4 | .StakingV1 _ _ => 5 | .StandardV1 _ => 6
      | .LockedTransferV1 _ _ _ => 7 | .ProgrammableConfigV1 _ => 8 | .AuthorityItemV1 _ => 9
      | .DataItemV1 _ => 10 | .CollectionItemV1 _ => 11 | .ProgrammableConfigItemV1 _ => 12
      | .PrintDelegateV1 _ => 13)
    (fun
      | .CollectionV1 a | .DataV1 a | .ProgrammableConfigV1 a | .AuthorityItemV1 a
      | .DataItemV1 a | .CollectionItemV1 a | .ProgrammableConfigItemV1 a
      | .PrintDelegateV1 a => AuthorizationData.borsh.option.write a
      | .SaleV1 n a | .TransferV1 n a | .UtilityV1 n a | .StakingV1 n a =>
        amountAuthorization.write (n, a)
      | .StandardV1 n => u64.write n
      | .LockedTransferV1 n k a => lockedTransfer.write (n, k, a))
    (fun
      | .CollectionV1 a | .DataV1 a | .ProgrammableConfigV1 a | .AuthorityItemV1 a
      | .DataItemV1 a | .CollectionItemV1 a | .ProgrammableConfigItemV1 a
      | .PrintDelegateV1 a => AuthorizationData.borsh.option.fits a
      | .SaleV1 n a | .TransferV1 n a | .UtilityV1 n a | .StakingV1 n a =>
        amountAuthorization.fits (n, a)
      | .StandardV1 _ => true
      | .LockedTransferV1 n k a => lockedTransfer.fits (n, k, a))
    (fun t =>
      if t = 0 then some (AuthorizationData.borsh.option.readAs .CollectionV1)
      else if t = 1 then some (amountAuthorization.readAs fun (n, a) => .SaleV1 n a)
      else if t = 2 then some (amountAuthorization.readAs fun (n, a) => .TransferV1 n a)
      else if t = 3 then some (AuthorizationData.borsh.option.readAs .DataV1)
      else if t = 4 then some (amountAuthorization.readAs fun (n, a) => .UtilityV1 n a)
      else if t = 5 then some (amountAuthorization.readAs fun (n, a) => .StakingV1 n a)
      else if t = 6 then some (u64.readAs .StandardV1)
      else if t = 7 then some (lockedTransfer.readAs fun (n, k, a) => .LockedTransferV1 n k a)
      else if t = 8 then some (AuthorizationData.borsh.option.readAs .ProgrammableConfigV1)
      else if t = 9 then some (AuthorizationData.borsh.option.readAs .AuthorityItemV1)
      else if t = 10 then some (AuthorizationData.borsh.option.readAs .DataItemV1)
      else if t = 11 then some (AuthorizationData.borsh.option.readAs .CollectionItemV1)
      else if t = 12 then some (AuthorizationData.borsh.option.readAs .ProgrammableConfigItemV1)
      else if t = 13 then some (AuthorizationData.borsh.option.readAs .PrintDelegateV1)
      else none)
    (by
      -- Each variant is read back by the reader of its index, from the fields its body wrote.
      intro x h
      cases x
      case StandardV1 n => exact ⟨_, rfl, u64.readAs_write _ rfl⟩
      all_goals exact ⟨_, rfl, Codec.readAs_write _ _ h⟩)

end SolanaIdls.metaplex.token_metadata.instructions
