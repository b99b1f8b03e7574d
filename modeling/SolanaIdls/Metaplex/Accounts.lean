import SolanaIdls.Pumpswap.Accounts

/-!
# Metaplex accounts

`metaplex::bubblegum::accounts::unpack` of `src/metaplex/bubblegum/accounts.rs`, and the two
reservation lists of `src/metaplex/token_metadata/accounts.rs` that the crate declares itself.

The Bubblegum decoder reads an account as PumpSwap's does: its 8-byte discriminator, then
`try_from_slice` of the rest, so that its data is read back exactly (`unpack_write`) and never
with a byte after it (`unpack_write_append`); its codecs are canonical, so that it reads nothing
but those layouts (`bubblegum_unpack_eq_ok_iff`). The reservation lists are read by `from_bytes`,
Borsh's `deserialize` on a prefix, which reads a list back whatever follows it
(`ReservationListV1.from_bytes_write_append`).

`account_decoders_reject_trailing_bytes` puts the three side by side.
-/

namespace SolanaIdls.metaplex.bubblegum.accounts

open Borsh Borsh.Codec

/-! ## Discriminators and accounts -/

def TREE_CONFIG_ACCOUNT : List.Vector UInt8 8 := ⟨[122, 245, 175, 248, 171, 34, 0, 207], rfl⟩
def VOUCHER_ACCOUNT : List.Vector UInt8 8 := ⟨[191, 204, 149, 234, 213, 165, 13, 65], rfl⟩

/-- `TreeConfig`. -/
structure TreeConfig where
  tree_creator : Pubkey
  tree_delegate : Pubkey
  total_mint_capacity : UInt64
  num_minted : UInt64
  is_public : Bool
  is_decompressible : UInt8
  deriving DecidableEq

/-- `Voucher`. -/
structure Voucher where
  leaf_schema : Pubkey
  index : UInt32
  merkle_tree : Pubkey
  deriving DecidableEq

/-- `BubblegumAccount`. -/
inductive BubblegumAccount where
  | TreeConfig (a : TreeConfig)
  | Voucher (a : Voucher)
  deriving DecidableEq

def TreeConfig.borsh : Codec TreeConfig :=
  (pubkey.prod <| pubkey.prod <| u64.prod <| u64.prod <| bool.prod u8).map
    (fun (a, b, c, d, e, f) => ⟨a, b, c, d, e, f⟩)
    (fun x => (x.tree_creator, x.tree_delegate, x.total_mint_capacity, x.num_minted, x.is_public,
      x.is_decompressible))
    fun _ => rfl

def Voucher.borsh : Codec Voucher :=
  (pubkey.prod <| u32.prod pubkey).map (fun (a, b, c) => ⟨a, b, c⟩)
    (fun x => (x.leaf_schema, x.index, x.merkle_tree)) fun _ => rfl

theorem TreeConfig.fixedWidth_borsh : TreeConfig.borsh.FixedWidth 82 :=
  (fixedWidth_pubkey.prod <| fixedWidth_pubkey.prod <| fixedWidth_u64.prod <|
    fixedWidth_u64.prod <| fixedWidth_bool.prod fixedWidth_u8).map _ _ _

theorem Voucher.fixedWidth_borsh : Voucher.borsh.FixedWidth 68 :=
  (fixedWidth_pubkey.prod <| fixedWidth_u32.prod fixedWidth_pubkey).map _ _ _

/-! ## The decoder -/

/-- The `match discriminator` of `unpack`. -/
def decode_payload (discriminator : List.Vector UInt8 8) (rest : List UInt8) :
    Outcome ParseError BubblegumAccount := do
  if discriminator = TREE_CONFIG_ACCOUNT then
    return .TreeConfig (← decode (TreeConfig.borsh.try_from_slice rest))
  else if discriminator = VOUCHER_ACCOUNT then
    return .Voucher (← decode (Voucher.borsh.try_from_slice rest))
  else
    .err (.AnchorUnknown discriminator)

/-- `unpack`. -/
def unpack (data : List UInt8) : Outcome ParseError BubblegumAccount := do
  if data.length < 8 then
    .err (.TooShort data.length)
  else
    let (disc, rest) ← Slice.split_at data 8
    let discriminator ← Outcome.expect (Slice.try_into disc 8)
    decode_payload discriminator rest

/-- Below 8 bytes the decoder rejects the data with its length. -/
theorem unpack_of_lt {data : List UInt8} (h : data.length < 8) :
    unpack data = .err (.TooShort data.length) := by
  simp [unpack, h]

/-- From 8 bytes on, the decoder dispatches on the first 8 with the rest as the account. -/
theorem unpack_split (disc : List.Vector UInt8 8) (rest : List UInt8) :
    unpack (disc.toList ++ rest) = decode_payload disc rest := by
  have hd : disc.toList.length = 8 := disc.toList_length
  have hlen : ¬(disc.toList ++ rest).length < 8 := by
    simp only [List.length_append, hd]
    omega
  simp only [unpack, if_neg hlen, Slice.split_at_append_of_length hd, Outcome.ok_bind,
    Slice.try_into_toList, Outcome.expect_some]

theorem discriminators_ne : VOUCHER_ACCOUNT ≠ TREE_CONFIG_ACCOUNT := by
  decide

/-- The tree configuration's arm, on the rest of the data. -/
theorem decode_payload_tree_config (rest : List UInt8) :
    decode_payload TREE_CONFIG_ACCOUNT rest =
      (do return .TreeConfig (← decode (TreeConfig.borsh.try_from_slice rest))) := by
  simp only [decode_payload, if_true]

/-- The voucher's arm, on the rest of the data. -/
theorem decode_payload_voucher (rest : List UInt8) :
    decode_payload VOUCHER_ACCOUNT rest =
      (do return .Voucher (← decode (Voucher.borsh.try_from_slice rest))) := by
  simp only [decode_payload, discriminators_ne, if_false, if_true]

/-! ## Account data read back -/

/-- An account's data as the program writes it: its discriminator, then its Borsh encoding. -/
def BubblegumAccount.write : BubblegumAccount → List UInt8
  | .TreeConfig a => TREE_CONFIG_ACCOUNT.toList ++ TreeConfig.borsh.write a
  | .Voucher a => VOUCHER_ACCOUNT.toList ++ Voucher.borsh.write a

/-- Every account is read back from its exact data. -/
theorem unpack_write (a : BubblegumAccount) : unpack a.write = .ok a := by
  cases a with
  | TreeConfig a =>
    rw [BubblegumAccount.write, unpack_split, decode_payload_tree_config]
    exact decode_arm_write _ _ (TreeConfig.fixedWidth_borsh.fits a)
  | Voucher a =>
    rw [BubblegumAccount.write, unpack_split, decode_payload_voucher]
    exact decode_arm_write _ _ (Voucher.fixedWidth_borsh.fits a)

/-- No account is read back from its data followed by any byte. -/
theorem unpack_write_append (a : BubblegumAccount) {t : List UInt8} (ht : t ≠ []) :
    unpack (a.write ++ t) = .err (.Decode .notAllBytesRead) := by
  cases a with
  | TreeConfig a =>
    rw [BubblegumAccount.write, List.append_assoc, unpack_split, decode_payload_tree_config]
    exact decode_arm_error _ _ (TreeConfig.borsh.try_from_slice_write_append
      (TreeConfig.fixedWidth_borsh.fits a) ht)
  | Voucher a =>
    rw [BubblegumAccount.write, List.append_assoc, unpack_split, decode_payload_voucher]
    exact decode_arm_error _ _ (Voucher.borsh.try_from_slice_write_append
      (Voucher.fixedWidth_borsh.fits a) ht)

/-! ## The decoder is the inverse of the layout -/

theorem TreeConfig.canonical_borsh : TreeConfig.borsh.Canonical :=
  (canonical_pubkey.prod <| canonical_pubkey.prod <| canonical_u64.prod <| canonical_u64.prod <|
    canonical_bool.prod canonical_u8).map _ _ _ fun _ => rfl

theorem Voucher.canonical_borsh : Voucher.borsh.Canonical :=
  (canonical_pubkey.prod <| canonical_u32.prod canonical_pubkey).map _ _ _ fun _ => rfl

/-- The decoder accepts exactly the data of an account: its discriminator and its encoding, and
nothing after them. -/
theorem bubblegum_unpack_eq_ok_iff (data : List UInt8) (a : BubblegumAccount) :
    unpack data = .ok a ↔ data = a.write := by
  constructor
  · intro h
    -- below 8 bytes the decoder fails, so the data starts with a discriminator
    have hlen : 8 ≤ data.length := by
      by_contra hlt
      rw [unpack_of_lt (by omega)] at h
      cases h
    obtain ⟨d, rest, rfl⟩ := Slice.exists_vector_append hlen
    rw [unpack_split] at h
    -- the two arms of the source's `match`, then its fallback, which is an error
    by_cases ht : d = TREE_CONFIG_ACCOUNT
    · subst ht
      rw [decode_payload_tree_config] at h
      obtain ⟨x, -, rfl, rfl⟩ := (decode_arm_eq_ok_iff TreeConfig.canonical_borsh
        TreeConfig.fixedWidth_borsh.readsFit).mp h
      rfl
    by_cases hv : d = VOUCHER_ACCOUNT
    · subst hv
      rw [decode_payload_voucher] at h
      obtain ⟨x, -, rfl, rfl⟩ := (decode_arm_eq_ok_iff Voucher.canonical_borsh
        Voucher.fixedWidth_borsh.readsFit).mp h
      rfl
    rw [decode_payload, if_neg ht, if_neg hv] at h
    cases h
  · rintro rfl
    exact unpack_write a

end SolanaIdls.metaplex.bubblegum.accounts

namespace SolanaIdls.metaplex.token_metadata.accounts

open Borsh Borsh.Codec

/-! ## Reservation lists -/

/-- `Reservation`. -/
structure Reservation where
  address : Pubkey
  spots_remaining : UInt64
  total_spots : UInt64
  deriving DecidableEq

/-- `ReservationV1`. -/
structure ReservationV1 where
  address : Pubkey
  spots_remaining : UInt8
  total_spots : UInt8
  deriving DecidableEq

/-- `ReservationListV1`. -/
structure ReservationListV1 where
  key : UInt8
  master_edition : Pubkey
  supply_snapshot : Option UInt64
  reservations : List ReservationV1
  deriving DecidableEq

/-- `ReservationListV2`. -/
structure ReservationListV2 where
  key : UInt8
  master_edition : Pubkey
  supply_snapshot : Option UInt64
  reservations : List Reservation
  total_reservation_spots : UInt64
  current_reservation_spots : UInt64
  deriving DecidableEq

def Reservation.borsh : Codec Reservation :=
  (pubkey.prod <| u64.prod u64).map (fun (a, b, c) => ⟨a, b, c⟩)
    (fun x => (x.address, x.spots_remaining, x.total_spots)) fun _ => rfl

def ReservationV1.borsh : Codec ReservationV1 :=
  (pubkey.prod <| u8.prod u8).map (fun (a, b, c) => ⟨a, b, c⟩)
    (fun x => (x.address, x.spots_remaining, x.total_spots)) fun _ => rfl

def ReservationListV1.borsh : Codec ReservationListV1 :=
  (u8.prod <| pubkey.prod <| u64.option.prod ReservationV1.borsh.vec).map
    (fun (a, b, c, d) => ⟨a, b, c, d⟩)
    (fun x => (x.key, x.master_edition, x.supply_snapshot, x.reservations)) fun _ => rfl

def ReservationListV2.borsh : Codec ReservationListV2 :=
  (u8.prod <| pubkey.prod <| u64.option.prod <| Reservation.borsh.vec.prod <| u64.prod u64).map
    (fun (a, b, c, d, e, f) => ⟨a, b, c, d, e, f⟩)
    (fun x => (x.key, x.master_edition, x.supply_snapshot, x.reservations,
      x.total_reservation_spots, x.current_reservation_spots))
    fun _ => rfl

/-- `ReservationListV1::from_bytes`: `deserialize` on a prefix of the data. -/
def ReservationListV1.from_bytes (data : List UInt8) : Except BorshError ReservationListV1 :=
  ReservationListV1.borsh.deserialize data

/-- `ReservationListV2::from_bytes`: `deserialize` on a prefix of the data. -/
def ReservationListV2.from_bytes (data : List UInt8) : Except BorshError ReservationListV2 :=
  ReservationListV2.borsh.deserialize data

/-- A reservation list is read back whatever follows it. -/
theorem ReservationListV1.from_bytes_write_append (r : ReservationListV1)
    (h : ReservationListV1.borsh.fits r = true) (t : List UInt8) :
    ReservationListV1.from_bytes (ReservationListV1.borsh.write r ++ t) = .ok r :=
  ReservationListV1.borsh.deserialize_write_append h t

/-- A reservation list is read back whatever follows it. -/
theorem ReservationListV2.from_bytes_write_append (r : ReservationListV2)
    (h : ReservationListV2.borsh.fits r = true) (t : List UInt8) :
    ReservationListV2.from_bytes (ReservationListV2.borsh.write r ++ t) = .ok r :=
  ReservationListV2.borsh.deserialize_write_append h t

end SolanaIdls.metaplex.token_metadata.accounts

namespace SolanaIdls

open pumpswap.accounts metaplex.bubblegum.accounts metaplex.token_metadata.accounts

/-- The PumpSwap and Bubblegum decoders read an account only from its exact encoding: any byte
after it, padding of a larger allocation or a field added by a later version, makes them fail
with `NotAllBytesRead`. The reservation lists' `from_bytes` read the same prefix and ignore
what follows. -/
theorem account_decoders_reject_trailing_bytes :
    (∀ a : PumpSwapAccount, a.fits = true → ∀ t : List UInt8, t ≠ [] →
      unpack_account (a.write ++ t) = .err (.Decode .notAllBytesRead)) ∧
    (∀ (a : BubblegumAccount) (t : List UInt8), t ≠ [] →
      metaplex.bubblegum.accounts.unpack (a.write ++ t) = .err (.Decode .notAllBytesRead)) ∧
    (∀ r : ReservationListV1, ReservationListV1.borsh.fits r = true → ∀ t : List UInt8,
      ReservationListV1.from_bytes (ReservationListV1.borsh.write r ++ t) = .ok r) ∧
    (∀ r : ReservationListV2, ReservationListV2.borsh.fits r = true → ∀ t : List UInt8,
      ReservationListV2.from_bytes (ReservationListV2.borsh.write r ++ t) = .ok r) :=
  ⟨fun a h _ ht => unpack_account_write_append a h ht,
    fun a _ ht => metaplex.bubblegum.accounts.unpack_write_append a ht,
    ReservationListV1.from_bytes_write_append, ReservationListV2.from_bytes_write_append⟩

/-- The key of 32 zero bytes. -/
def zero_key : Pubkey := List.Vector.replicate 32 0

/-- A pool whose fields are all zero. -/
def zero_pool : pumpswap.accounts.Pool :=
  ⟨0, 0, zero_key, zero_key, zero_key, zero_key, zero_key, zero_key, 0, zero_key, false⟩

theorem account_decoders_reject_trailing_bytes_on_padded_pool :
    (PumpSwapAccount.Pool zero_pool).fits = true ∧ [(0 : UInt8)] ≠ [] ∧
      unpack_account ((PumpSwapAccount.Pool zero_pool).write ++ [0]) =
        .err (.Decode .notAllBytesRead) :=
  ⟨Pool.fixedWidth_borsh.fits zero_pool, List.cons_ne_nil 0 [],
    account_decoders_reject_trailing_bytes.1 (.Pool zero_pool) (Pool.fixedWidth_borsh.fits zero_pool)
      [0] (List.cons_ne_nil 0 [])⟩

end SolanaIdls
