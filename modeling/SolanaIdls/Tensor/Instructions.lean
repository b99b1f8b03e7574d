import SolanaIdls.Common
import SolanaIdls.Rust.Match

/-!
# Tensor instructions

`tensor::instructions::unpack` of `src/tensor/instructions.rs`. An instruction is Anchor's 8-byte
discriminator and the Borsh payload of its arguments, decoded exactly; the 36 arms of the
decoder's `match` are the table `arms` (`matchConst`), so that reading back what the program
writes is one argument for every arm (`unpack_write`).

The bid's `Target` and `Field` are the crate's only hand-written Borsh codecs: one byte, the
variant's discriminant, and a reader that raises `InvalidData` on any other byte. Both are
canonical (`Target.canonical_borsh`, `Field.canonical_borsh`): they accept exactly the bytes their
writers produce. So a bid is read back whatever its options hold (`unpack_bid_write`), and any
other byte where the bid's `Target` or `Field` stands makes the whole decode fail
(`unpack_bid_of_bad_target`, `unpack_bid_of_bad_field`).
-/

namespace SolanaIdls.tensor.instructions

open Borsh Borsh.Codec

/-! ## Discriminators -/

def BUY : List.Vector UInt8 8 := ⟨[102, 6, 61, 18, 1, 218, 235, 234], rfl⟩
def BUY_SPL : List.Vector UInt8 8 := ⟨[65, 136, 254, 255, 59, 130, 234, 174], rfl⟩
def LIST : List.Vector UInt8 8 := ⟨[54, 174, 193, 67, 17, 41, 132, 38], rfl⟩
def DELIST : List.Vector UInt8 8 := ⟨[55, 136, 205, 107, 107, 173, 4, 31], rfl⟩
def EDIT : List.Vector UInt8 8 := ⟨[15, 183, 33, 86, 87, 28, 151, 145], rfl⟩
def BID : List.Vector UInt8 8 := ⟨[199, 56, 85, 38, 146, 243, 37, 158], rfl⟩
def CANCEL_BID : List.Vector UInt8 8 := ⟨[40, 243, 190, 217, 208, 253, 86, 206], rfl⟩
def CLOSE_EXPIRED_BID : List.Vector UInt8 8 := ⟨[83, 20, 105, 67, 248, 68, 104, 190], rfl⟩
def CLOSE_EXPIRED_LISTING : List.Vector UInt8 8 := ⟨[150, 70, 13, 135, 9, 204, 75, 4], rfl⟩
def TAKE_BID_META_HASH : List.Vector UInt8 8 := ⟨[85, 227, 202, 70, 45, 215, 10, 193], rfl⟩
def TAKE_BID_FULL_META : List.Vector UInt8 8 := ⟨[242, 194, 203, 225, 234, 53, 10, 96], rfl⟩
def TCOMP_NOOP : List.Vector UInt8 8 := ⟨[106, 162, 10, 226, 132, 68, 223, 21], rfl⟩
def BUY_LEGACY : List.Vector UInt8 8 := ⟨[68, 127, 43, 8, 212, 31, 249, 114], rfl⟩
def BUY_LEGACY_SPL : List.Vector UInt8 8 := ⟨[134, 94, 125, 229, 24, 157, 194, 199], rfl⟩
def CLOSE_EXPIRED_LISTING_LEGACY : List.Vector UInt8 8 := ⟨[56, 16, 96, 188, 55, 68, 250, 58], rfl⟩
def DELIST_LEGACY : List.Vector UInt8 8 := ⟨[88, 35, 231, 184, 110, 218, 149, 23], rfl⟩
def LIST_LEGACY : List.Vector UInt8 8 := ⟨[6, 110, 255, 18, 16, 36, 8, 30], rfl⟩
def TAKE_BID_LEGACY : List.Vector UInt8 8 := ⟨[188, 35, 116, 108, 0, 233, 237, 201], rfl⟩
def BUY_T22 : List.Vector UInt8 8 := ⟨[81, 98, 227, 171, 201, 105, 180, 216], rfl⟩
def BUY_T22_SPL : List.Vector UInt8 8 := ⟨[102, 21, 163, 39, 94, 39, 122, 94], rfl⟩
def CLOSE_EXPIRED_LISTING_T22 : List.Vector UInt8 8 := ⟨[69, 2, 190, 122, 144, 119, 122, 220], rfl⟩
def DELIST_T22 : List.Vector UInt8 8 := ⟨[216, 72, 73, 18, 204, 82, 123, 26], rfl⟩
def LIST_T22 : List.Vector UInt8 8 := ⟨[9, 117, 93, 230, 221, 4, 199, 212], rfl⟩
def TAKE_BID_T22 : List.Vector UInt8 8 := ⟨[18, 250, 113, 242, 31, 244, 19, 150], rfl⟩
def BUY_WNS : List.Vector UInt8 8 := ⟨[168, 43, 179, 217, 44, 59, 35, 244], rfl⟩
def BUY_WNS_SPL : List.Vector UInt8 8 := ⟨[113, 137, 57, 23, 186, 196, 217, 210], rfl⟩
def CLOSE_EXPIRED_LISTING_WNS : List.Vector UInt8 8 := ⟨[222, 31, 183, 134, 230, 207, 7, 132], rfl⟩
def DELIST_WNS : List.Vector UInt8 8 := ⟨[172, 171, 57, 16, 74, 158, 32, 57], rfl⟩
def LIST_WNS : List.Vector UInt8 8 := ⟨[23, 202, 102, 138, 255, 190, 39, 196], rfl⟩
def TAKE_BID_WNS : List.Vector UInt8 8 := ⟨[88, 5, 122, 88, 250, 139, 35, 216], rfl⟩
def BUY_CORE : List.Vector UInt8 8 := ⟨[169, 227, 87, 255, 76, 86, 255, 25], rfl⟩
def BUY_CORE_SPL : List.Vector UInt8 8 := ⟨[234, 28, 37, 122, 114, 239, 233, 208], rfl⟩
def CLOSE_EXPIRED_LISTING_CORE : List.Vector UInt8 8 := ⟨[89, 171, 78, 80, 74, 188, 63, 58], rfl⟩
def DELIST_CORE : List.Vector UInt8 8 := ⟨[56, 24, 231, 2, 227, 19, 14, 68], rfl⟩
def LIST_CORE : List.Vector UInt8 8 := ⟨[173, 76, 167, 125, 118, 71, 1, 153], rfl⟩
def TAKE_BID_CORE : List.Vector UInt8 8 := ⟨[250, 41, 248, 20, 61, 161, 27, 141], rfl⟩

/-! ## The hand-written codecs -/

/-- `Target`, what a bid is for. -/
inductive Target where
  | AssetId
  | Whitelist
  deriving DecidableEq

/-- `Field`, the field a bid filters on. -/
inductive Field where
  | Name
  deriving DecidableEq

/-- `*self as u8`. -/
def Target.toU8 : Target → UInt8
  | .AssetId => 0
  | .Whitelist => 1

/-- `Target`'s `BorshSerialize` and `BorshDeserialize`: the discriminant byte, and 0 or 1 read
back; an empty input fails in `read_exact`, and any other byte is `InvalidData`. -/
def Target.borsh : Codec Target where
  write t := [t.toU8]
  fits _ := true
  read
    | [] => .error .unexpectedEof
    | v :: rest =>
      if v = 0 then .ok (.AssetId, rest)
      else if v = 1 then .ok (.Whitelist, rest)
      else .error (.invalidData s!"invalid Target: {v}")
  read_write t _ rest := by
    cases t <;> rfl

/-- `Field`'s `BorshSerialize` and `BorshDeserialize`: the byte 0, and only 0 read back. -/
def Field.borsh : Codec Field where
  write _ := [0]
  fits _ := true
  read
    | [] => .error .unexpectedEof
    | v :: rest =>
      if v = 0 then .ok (.Name, rest)
      else .error (.invalidData s!"invalid Field: {v}")
  read_write f _ rest := by
    cases f
    rfl

/-- A `Target` is read only from its own byte. -/
theorem Target.canonical_borsh : Target.borsh.Canonical := by
  constructor
  intro bs t rest h
  match bs, h with
  | v :: bs, h =>
    simp only [Target.borsh] at h
    split_ifs at h with h0 h1
    · cases h
      rw [h0]
      rfl
    · cases h
      rw [h1]
      rfl

/-- A `Field` is read only from its own byte. -/
theorem Field.canonical_borsh : Field.borsh.Canonical := by
  constructor
  intro bs f rest h
  match bs, h with
  | v :: bs, h =>
    simp only [Field.borsh] at h
    split_ifs at h with h0
    cases h
    rw [h0]
    rfl

theorem Target.read_of_ne {v : UInt8} (h0 : v ≠ 0) (h1 : v ≠ 1) (rest : List UInt8) :
    Target.borsh.read (v :: rest) = .error (.invalidData s!"invalid Target: {v}") := by
  simp [Target.borsh, h0, h1]

theorem Field.read_of_ne {v : UInt8} (h0 : v ≠ 0) (rest : List UInt8) :
    Field.borsh.read (v :: rest) = .error (.invalidData s!"invalid Field: {v}") := by
  simp [Field.borsh, h0]

/-- `Target`'s reader accepts exactly the bytes its writer produces. -/
theorem Target.read_eq_ok_iff (bs : List UInt8) (t : Target) (rest : List UInt8) :
    Target.borsh.read bs = .ok (t, rest) ↔ bs = Target.borsh.write t ++ rest :=
  Target.canonical_borsh.read_eq_ok_iff rfl bs rest

/-- `Field`'s reader accepts exactly the bytes its writer produces. -/
theorem Field.read_eq_ok_iff (bs : List UInt8) (f : Field) (rest : List UInt8) :
    Field.borsh.read bs = .ok (f, rest) ↔ bs = Field.borsh.write f ++ rest :=
  Field.canonical_borsh.read_eq_ok_iff rfl bs rest

/-- A `Target` is read from a 0 or a 1, and from no other byte. -/
theorem Target.read_cons_ok_iff (v : UInt8) (rest : List UInt8) :
    (∃ t rest', Target.borsh.read (v :: rest) = .ok (t, rest')) ↔ v = 0 ∨ v = 1 := by
  constructor
  · rintro ⟨t, rest', h⟩
    have hbytes := Target.canonical_borsh.eq_write h
    -- the byte is the discriminant of the `Target` read
    cases t
    · exact .inl (List.cons.inj hbytes).1
    · exact .inr (List.cons.inj hbytes).1
  · rintro (rfl | rfl)
    · exact ⟨.AssetId, rest, rfl⟩
    · exact ⟨.Whitelist, rest, rfl⟩

/-- A `Field` is read from a 0, and from no other byte. -/
theorem Field.read_cons_ok_iff (v : UInt8) (rest : List UInt8) :
    (∃ f rest', Field.borsh.read (v :: rest) = .ok (f, rest')) ↔ v = 0 := by
  constructor
  · rintro ⟨f, rest', h⟩
    exact (List.cons.inj (Field.canonical_borsh.eq_write h)).1
  · rintro rfl
    exact ⟨.Name, rest, rfl⟩

/-- A written `Target`, a pubkey and a present `Field` whose byte is not 0: the read fails on
the `Field`. Bids and both events hold their `Field` so. -/
theorem Field.read_after_target_of_ne {β : Type} (c : Codec β) (target : Target)
    (target_id : Pubkey) {v : UInt8} (h0 : v ≠ 0) (rest : List UInt8) :
    (Target.borsh.prod <| pubkey.prod <| Field.borsh.option.prod c).read
        (Target.borsh.write target ++ (pubkey.write target_id ++ 1 :: v :: rest)) =
      .error (.invalidData s!"invalid Field: {v}") :=
  prod_read_of_error_snd rfl <| prod_read_of_error_snd (fixedWidth_pubkey.fits target_id) <|
    prod_read_of_error_fst (option_read_some_of_error (Field.read_of_ne h0 rest))

/-! ## Payloads -/

/-- `ListInstruction`. -/
structure ListInstruction where
  amount : UInt64
  expire_in_sec : Option UInt64
  currency : Option Pubkey
  private_taker : Option Pubkey
  maker_broker : Option Pubkey
  deriving DecidableEq

/-- `EditInstruction`, with the fields of a listing. -/
structure EditInstruction where
  amount : UInt64
  expire_in_sec : Option UInt64
  currency : Option Pubkey
  private_taker : Option Pubkey
  maker_broker : Option Pubkey
  deriving DecidableEq

/-- `BuyInstruction`. -/
structure BuyInstruction where
  max_amount : UInt64
  deriving DecidableEq

/-- `BidInstruction`. -/
structure BidInstruction where
  bid_id : Pubkey
  target : Target
  target_id : Pubkey
  field : Option Field
  field_id : Option Pubkey
  amount : UInt64
  quantity : UInt32
  expire_in_sec : Option UInt64
  currency : Option Pubkey
  private_taker : Option Pubkey
  maker_broker : Option Pubkey
  deriving DecidableEq

/-- `TakeBidMetaHashInstruction`. -/
structure TakeBidMetaHashInstruction where
  min_amount : UInt64
  deriving DecidableEq

/-- `Creator`. -/
structure Creator where
  address : Pubkey
  verified : Bool
  share : UInt8
  deriving DecidableEq

/-- `TakeBidFullMetaInstruction`. -/
structure TakeBidFullMetaInstruction where
  min_amount : UInt64
  creators : List Creator
  deriving DecidableEq

/-- `TensorInstruction`. -/
inductive TensorInstruction where
  -- protected, so that `List` stays the type inside the namespace of `TensorInstruction`
  | protected List (i : ListInstruction)
  | Delist
  | Edit (i : EditInstruction)
  | Buy (i : BuyInstruction)
  | BuySpl (i : BuyInstruction)
  | CloseExpiredListing
  | Bid (i : BidInstruction)
  | CancelBid
  | CloseExpiredBid
  | TakeBidMetaHash (i : TakeBidMetaHashInstruction)
  | TakeBidFullMeta (i : TakeBidFullMetaInstruction)
  | ListLegacy (i : ListInstruction)
  | DelistLegacy
  | BuyLegacy (i : BuyInstruction)
  | BuyLegacySpl (i : BuyInstruction)
  | CloseExpiredListingLegacy
  | TakeBidLegacy (i : TakeBidMetaHashInstruction)
  | ListT22 (i : ListInstruction)
  | DelistT22
  | BuyT22 (i : BuyInstruction)
  | BuyT22Spl (i : BuyInstruction)
  | CloseExpiredListingT22
  | TakeBidT22 (i : TakeBidMetaHashInstruction)
  | ListWns (i : ListInstruction)
  | DelistWns
  | BuyWns (i : BuyInstruction)
  | BuyWnsSpl (i : BuyInstruction)
  | CloseExpiredListingWns
  | TakeBidWns (i : TakeBidMetaHashInstruction)
  | ListCore (i : ListInstruction)
  | DelistCore
  | BuyCore (i : BuyInstruction)
  | BuyCoreSpl (i : BuyInstruction)
  | CloseExpiredListingCore
  | TakeBidCore (i : TakeBidMetaHashInstruction)
  | TcompNoop
  | Unknown
  deriving DecidableEq

/-! ## Derived Borsh codecs of the payloads -/

def ListInstruction.borsh : Codec ListInstruction :=
  (u64.prod <| u64.option.prod <| pubkey.option.prod <| pubkey.option.prod pubkey.option).map
    (fun (a, b, c, d, e) => ⟨a, b, c, d, e⟩)
    (fun x => (x.amount, x.expire_in_sec, x.currency, x.private_taker, x.maker_broker))
    fun _ => rfl

def EditInstruction.borsh : Codec EditInstruction :=
  (u64.prod <| u64.option.prod <| pubkey.option.prod <| pubkey.option.prod pubkey.option).map
    (fun (a, b, c, d, e) => ⟨a, b, c, d, e⟩)
    (fun x => (x.amount, x.expire_in_sec, x.currency, x.private_taker, x.maker_broker))
    fun _ => rfl

def BuyInstruction.borsh : Codec BuyInstruction :=
  u64.map (fun a => ⟨a⟩) (fun x => x.max_amount) fun _ => rfl

def BidInstruction.borsh : Codec BidInstruction :=
  (pubkey.prod <| Target.borsh.prod <| pubkey.prod <| Field.borsh.option.prod <|
    pubkey.option.prod <| u64.prod <| u32.prod <| u64.option.prod <| pubkey.option.prod <|
    pubkey.option.prod pubkey.option).map
    (fun (a, b, c, d, e, f, g, h, i, j, k) => ⟨a, b, c, d, e, f, g, h, i, j, k⟩)
    (fun x => (x.bid_id, x.target, x.target_id, x.field, x.field_id, x.amount, x.quantity,
      x.expire_in_sec, x.currency, x.private_taker, x.maker_broker))
    fun _ => rfl

def TakeBidMetaHashInstruction.borsh : Codec TakeBidMetaHashInstruction :=
  u64.map (fun a => ⟨a⟩) (fun x => x.min_amount) fun _ => rfl

def Creator.borsh : Codec Creator :=
  (pubkey.prod <| bool.prod u8).map (fun (a, b, c) => ⟨a, b, c⟩)
    (fun x => (x.address, x.verified, x.share)) fun _ => rfl

def TakeBidFullMetaInstruction.borsh : Codec TakeBidFullMetaInstruction :=
  (u64.prod Creator.borsh.vec).map (fun (a, b) => ⟨a, b⟩) (fun x => (x.min_amount, x.creators))
    fun _ => rfl

/-- No field of a bid has a length prefix, so every bid can be written. -/
theorem BidInstruction.fits_borsh (b : BidInstruction) : BidInstruction.borsh.fits b = true := by
  simp only [BidInstruction.borsh, map_fits, prod_fits, fixedWidth_pubkey.fits,
    fixedWidth_u64.fits, fixedWidth_u32.fits, option_fits fixedWidth_pubkey.fits,
    option_fits fixedWidth_u64.fits, option_fits (c := Field.borsh) fun _ => rfl, Target.borsh,
    Bool.true_and]

/-! ## The decoder -/

/-- The arms of the `match discriminator` of `try_from`, in the source's order. -/
def arms : List (List.Vector UInt8 8 × (List UInt8 → Outcome ParseError TensorInstruction)) :=
  [(LIST, decode_arm ListInstruction.borsh .List),
   (DELIST, fun _ => .ok .Delist),
   (EDIT, decode_arm EditInstruction.borsh .Edit),
   (BUY, decode_arm BuyInstruction.borsh .Buy),
   (BUY_SPL, decode_arm BuyInstruction.borsh .BuySpl),
   (CLOSE_EXPIRED_LISTING, fun _ => .ok .CloseExpiredListing),
   (BID, decode_arm BidInstruction.borsh .Bid),
   (CANCEL_BID, fun _ => .ok .CancelBid),
   (CLOSE_EXPIRED_BID, fun _ => .ok .CloseExpiredBid),
   (TAKE_BID_META_HASH, decode_arm TakeBidMetaHashInstruction.borsh .TakeBidMetaHash),
   (TAKE_BID_FULL_META, decode_arm TakeBidFullMetaInstruction.borsh .TakeBidFullMeta),
   (LIST_LEGACY, decode_arm ListInstruction.borsh .ListLegacy),
   (DELIST_LEGACY, fun _ => .ok .DelistLegacy),
   (BUY_LEGACY, decode_arm BuyInstruction.borsh .BuyLegacy),
   (BUY_LEGACY_SPL, decode_arm BuyInstruction.borsh .BuyLegacySpl),
   (CLOSE_EXPIRED_LISTING_LEGACY, fun _ => .ok .CloseExpiredListingLegacy),
   (TAKE_BID_LEGACY, decode_arm TakeBidMetaHashInstruction.borsh .TakeBidLegacy),
   (LIST_T22, decode_arm ListInstruction.borsh .ListT22),
   (DELIST_T22, fun _ => .ok .DelistT22),
   (BUY_T22, decode_arm BuyInstruction.borsh .BuyT22),
   (BUY_T22_SPL, decode_arm BuyInstruction.borsh .BuyT22Spl),
   (CLOSE_EXPIRED_LISTING_T22, fun _ => .ok .CloseExpiredListingT22),
   (TAKE_BID_T22, decode_arm TakeBidMetaHashInstruction.borsh .TakeBidT22),
   (LIST_WNS, decode_arm ListInstruction.borsh .ListWns),
   (DELIST_WNS, fun _ => .ok .DelistWns),
   (BUY_WNS, decode_arm BuyInstruction.borsh .BuyWns),
   (BUY_WNS_SPL, decode_arm BuyInstruction.borsh .BuyWnsSpl),
   (CLOSE_EXPIRED_LISTING_WNS, fun _ => .ok .CloseExpiredListingWns),
   (TAKE_BID_WNS, decode_arm TakeBidMetaHashInstruction.borsh .TakeBidWns),
   (LIST_CORE, decode_arm ListInstruction.borsh .ListCore),
   (DELIST_CORE, fun _ => .ok .DelistCore),
   (BUY_CORE, decode_arm BuyInstruction.borsh .BuyCore),
   (BUY_CORE_SPL, decode_arm BuyInstruction.borsh .BuyCoreSpl),
   (CLOSE_EXPIRED_LISTING_CORE, fun _ => .ok .CloseExpiredListingCore),
   (TAKE_BID_CORE, decode_arm TakeBidMetaHashInstruction.borsh .TakeBidCore),
   (TCOMP_NOOP, fun _ => .ok .TcompNoop)]

/-- The `match discriminator` of `try_from`: the arm of the discriminator, or `Unknown`. -/
def decode_payload (discriminator : List.Vector UInt8 8) (payload : List UInt8) :
    Outcome ParseError TensorInstruction :=
  matchConst arms (fun other _ => .err (.Unknown other)) discriminator payload

/-- `TensorInstruction::try_from`. -/
def try_from (data : List UInt8) : Outcome ParseError TensorInstruction := do
  if data.length < 8 then
    .err (.TooShort data.length)
  else
    let (disc, payload) ← Slice.split_at data 8
    let discriminator ← Outcome.expect (Slice.try_into disc 8)
    decode_payload discriminator payload

/-- `unpack`, which forwards to `try_from`. -/
def unpack (data : List UInt8) : Outcome ParseError TensorInstruction :=
  try_from data

/-- From 8 bytes on, the decoder dispatches on the first 8 with the rest as payload. -/
theorem try_from_split (disc : List.Vector UInt8 8) (payload : List UInt8) :
    try_from (disc.toList ++ payload) = decode_payload disc payload := by
  have hd : disc.toList.length = 8 := disc.toList_length
  have hlen : ¬(disc.toList ++ payload).length < 8 := by
    simp only [List.length_append, hd]
    omega
  simp only [try_from, if_neg hlen, Slice.split_at_append_of_length hd, Outcome.ok_bind,
    Slice.try_into_toList, Outcome.expect_some]

/-! ## The arms -/

/-- The thirty-six discriminators are distinct. -/
theorem arms_nodup : (arms.map Prod.fst).Nodup := by
  decide

/-- Behind a discriminator of the table, the decoder is that discriminator's arm. -/
theorem unpack_of_mem {d : List.Vector UInt8 8}
    {arm : List UInt8 → Outcome ParseError TensorInstruction} (hmem : (d, arm) ∈ arms)
    (payload : List UInt8) : unpack (d.toList ++ payload) = arm payload := by
  rw [unpack, try_from_split, decode_payload, matchConst_of_mem arms_nodup _ hmem]

/-- An arm with arguments reads back what their codec wrote. -/
theorem unpack_arm {α : Type} {d : List.Vector UInt8 8} {c : Codec α}
    {V : α → TensorInstruction} (hmem : (d, decode_arm c V) ∈ arms) {x : α}
    (hx : c.fits x = true) : unpack (d.toList ++ c.write x) = .ok (V x) := by
  rw [unpack_of_mem hmem]
  exact decode_arm_write c V hx

/-- An arm without arguments ignores whatever follows the discriminator. -/
theorem unpack_bare {d : List.Vector UInt8 8} {i : TensorInstruction}
    (hmem : (d, fun _ => .ok i) ∈ arms) (payload : List UInt8) :
    unpack (d.toList ++ payload) = .ok i :=
  unpack_of_mem hmem payload

/-! ## What the program writes, read back -/

/-- What the program is sent for an instruction: its discriminator, then the Borsh encoding of
its arguments. `Unknown` is no instruction of the program and has no encoding. -/
def TensorInstruction.write : TensorInstruction → List UInt8
  | .List i => LIST.toList ++ ListInstruction.borsh.write i
  | .Delist => DELIST.toList
  | .Edit i => EDIT.toList ++ EditInstruction.borsh.write i
  | .Buy i => BUY.toList ++ BuyInstruction.borsh.write i
  | .BuySpl i => BUY_SPL.toList ++ BuyInstruction.borsh.write i
  | .CloseExpiredListing => CLOSE_EXPIRED_LISTING.toList
  | .Bid i => BID.toList ++ BidInstruction.borsh.write i
  | .CancelBid => CANCEL_BID.toList
  | .CloseExpiredBid => CLOSE_EXPIRED_BID.toList
  | .TakeBidMetaHash i => TAKE_BID_META_HASH.toList ++ TakeBidMetaHashInstruction.borsh.write i
  | .TakeBidFullMeta i => TAKE_BID_FULL_META.toList ++ TakeBidFullMetaInstruction.borsh.write i
  | .ListLegacy i => LIST_LEGACY.toList ++ ListInstruction.borsh.write i
  | .DelistLegacy => DELIST_LEGACY.toList
  | .BuyLegacy i => BUY_LEGACY.toList ++ BuyInstruction.borsh.write i
  | .BuyLegacySpl i => BUY_LEGACY_SPL.toList ++ BuyInstruction.borsh.write i
  | .CloseExpiredListingLegacy => CLOSE_EXPIRED_LISTING_LEGACY.toList
  | .TakeBidLegacy i => TAKE_BID_LEGACY.toList ++ TakeBidMetaHashInstruction.borsh.write i
  | .ListT22 i => LIST_T22.toList ++ ListInstruction.borsh.write i
  | .DelistT22 => DELIST_T22.toList
  | .BuyT22 i => BUY_T22.toList ++ BuyInstruction.borsh.write i
  | .BuyT22Spl i => BUY_T22_SPL.toList ++ BuyInstruction.borsh.write i
  | .CloseExpiredListingT22 => CLOSE_EXPIRED_LISTING_T22.toList
  | .TakeBidT22 i => TAKE_BID_T22.toList ++ TakeBidMetaHashInstruction.borsh.write i
  | .ListWns i => LIST_WNS.toList ++ ListInstruction.borsh.write i
  | .DelistWns => DELIST_WNS.toList
  | .BuyWns i => BUY_WNS.toList ++ BuyInstruction.borsh.write i
  | .BuyWnsSpl i => BUY_WNS_SPL.toList ++ BuyInstruction.borsh.write i
  | .CloseExpiredListingWns => CLOSE_EXPIRED_LISTING_WNS.toList
  | .TakeBidWns i => TAKE_BID_WNS.toList ++ TakeBidMetaHashInstruction.borsh.write i
  | .ListCore i => LIST_CORE.toList ++ ListInstruction.borsh.write i
  | .DelistCore => DELIST_CORE.toList
  | .BuyCore i => BUY_CORE.toList ++ BuyInstruction.borsh.write i
  | .BuyCoreSpl i => BUY_CORE_SPL.toList ++ BuyInstruction.borsh.write i
  | .CloseExpiredListingCore => CLOSE_EXPIRED_LISTING_CORE.toList
  | .TakeBidCore i => TAKE_BID_CORE.toList ++ TakeBidMetaHashInstruction.borsh.write i
  | .TcompNoop => TCOMP_NOOP.toList
  | .Unknown => []

/-- Whether an instruction can be written: its codec accepts its arguments, and `Unknown` is no
instruction. -/
def TensorInstruction.fits : TensorInstruction → Bool
  | .List i => ListInstruction.borsh.fits i
  | .Delist => true
  | .Edit i => EditInstruction.borsh.fits i
  | .Buy i => BuyInstruction.borsh.fits i
  | .BuySpl i => BuyInstruction.borsh.fits i
  | .CloseExpiredListing => true
  | .Bid i => BidInstruction.borsh.fits i
  | .CancelBid => true
  | .CloseExpiredBid => true
  | .TakeBidMetaHash i => TakeBidMetaHashInstruction.borsh.fits i
  | .TakeBidFullMeta i => TakeBidFullMetaInstruction.borsh.fits i
  | .ListLegacy i => ListInstruction.borsh.fits i
  | .DelistLegacy => true
  | .BuyLegacy i => BuyInstruction.borsh.fits i
  | .BuyLegacySpl i => BuyInstruction.borsh.fits i
  | .CloseExpiredListingLegacy => true
  | .TakeBidLegacy i => TakeBidMetaHashInstruction.borsh.fits i
  | .ListT22 i => ListInstruction.borsh.fits i
  | .DelistT22 => true
  | .BuyT22 i => BuyInstruction.borsh.fits i
  | .BuyT22Spl i => BuyInstruction.borsh.fits i
  | .CloseExpiredListingT22 => true
  | .TakeBidT22 i => TakeBidMetaHashInstruction.borsh.fits i
  | .ListWns i => ListInstruction.borsh.fits i
  | .DelistWns => true
  | .BuyWns i => BuyInstruction.borsh.fits i
  | .BuyWnsSpl i => BuyInstruction.borsh.fits i
  | .CloseExpiredListingWns => true
  | .TakeBidWns i => TakeBidMetaHashInstruction.borsh.fits i
  | .ListCore i => ListInstruction.borsh.fits i
  | .DelistCore => true
  | .BuyCore i => BuyInstruction.borsh.fits i
  | .BuyCoreSpl i => BuyInstruction.borsh.fits i
  | .CloseExpiredListingCore => true
  | .TakeBidCore i => TakeBidMetaHashInstruction.borsh.fits i
  | .TcompNoop => true
  | .Unknown => false

/-- Every instruction the program can be sent is read back from its discriminator and its
arguments. -/
theorem unpack_write (i : TensorInstruction) (h : i.fits = true) : unpack i.write = .ok i := by
  -- Every instruction but `Unknown` is one row of `arms`, with the arm of its codec or none.
  cases i
  case Unknown => simp [TensorInstruction.fits] at h
  case Delist | CloseExpiredListing | CancelBid | CloseExpiredBid | DelistLegacy
      | CloseExpiredListingLegacy | DelistT22 | CloseExpiredListingT22 | DelistWns
      | CloseExpiredListingWns | DelistCore | CloseExpiredListingCore | TcompNoop =>
    rw [← List.append_nil (TensorInstruction.write _)]
    exact unpack_bare (by simp only [arms, List.mem_cons, true_or, or_true]) []
  all_goals exact unpack_arm (by simp only [arms, List.mem_cons, true_or, or_true]) h

/-! ## Bids -/

/-- Every bid is read back, whatever its `Target`, its options and their values. -/
theorem unpack_bid_write (b : BidInstruction) :
    unpack (BID.toList ++ BidInstruction.borsh.write b) = .ok (.Bid b) :=
  unpack_write (.Bid b) (BidInstruction.fits_borsh b)

/-- Behind `BID`, the payload is decoded exactly as a bid. -/
theorem unpack_bid (payload : List UInt8) :
    unpack (BID.toList ++ payload) = decode_arm BidInstruction.borsh .Bid payload :=
  unpack_of_mem (by simp only [arms, List.mem_cons, true_or, or_true]) payload

/-- A payload that the bid's reader rejects fails the whole decode with its error. -/
theorem unpack_bid_of_read_error {payload : List UInt8} {e : BorshError}
    (h : BidInstruction.borsh.read payload = .error e) :
    unpack (BID.toList ++ payload) = .err (.Decode e) := by
  rw [unpack_bid]
  exact decode_arm_error _ _ (try_from_slice_of_read_error h)

/-- A byte other than 0 and 1 where a bid's `Target` stands fails the whole decode. -/
theorem unpack_bid_of_bad_target (bid_id : Pubkey) {v : UInt8} (h0 : v ≠ 0) (h1 : v ≠ 1)
    (rest : List UInt8) :
    unpack (BID.toList ++ (pubkey.write bid_id ++ v :: rest)) =
      .err (.Decode (.invalidData s!"invalid Target: {v}")) := by
  have hread : BidInstruction.borsh.read (pubkey.write bid_id ++ v :: rest) =
      .error (.invalidData s!"invalid Target: {v}") :=
    map_read_of_error <| prod_read_of_error_snd (fixedWidth_pubkey.fits bid_id) <|
      prod_read_of_error_fst (Target.read_of_ne h0 h1 rest)
  exact unpack_bid_of_read_error hread

/-- A byte other than 0 where a present `Field` of a bid stands fails the whole decode. -/
theorem unpack_bid_of_bad_field (bid_id : Pubkey) (target : Target) (target_id : Pubkey)
    {v : UInt8} (h0 : v ≠ 0) (rest : List UInt8) :
    unpack (BID.toList ++ (pubkey.write bid_id ++ (Target.borsh.write target ++
        (pubkey.write target_id ++ 1 :: v :: rest)))) =
      .err (.Decode (.invalidData s!"invalid Field: {v}")) := by
  have hread : BidInstruction.borsh.read (pubkey.write bid_id ++ (Target.borsh.write target ++
      (pubkey.write target_id ++ 1 :: v :: rest))) =
      .error (.invalidData s!"invalid Field: {v}") :=
    map_read_of_error <| prod_read_of_error_snd (fixedWidth_pubkey.fits bid_id) <|
      Field.read_after_target_of_ne _ target target_id h0 rest
  exact unpack_bid_of_read_error hread

end SolanaIdls.tensor.instructions
