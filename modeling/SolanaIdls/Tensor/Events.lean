import SolanaIdls.Tensor.Instructions

/-!
# Tensor events

`tensor::events::unpack` of `src/tensor/events.rs`. The program emits its events as the data of
its `tcomp_noop` instruction: 8 bytes of discriminator, which the decoder skips without reading
them, then the Borsh encoding of a two-variant enum, a tag byte (0 for `Maker`, 1 for `Taker`)
before the event's fields. Any other tag is `Unknown`, with no error.

Both events hold the bid's `Target` and an optional `Field`, whose hand-written codecs are those
of `tensor.instructions`. `unpack_maker_write` and `unpack_taker_write` read every event back
behind every 8-byte prefix, and the theorems after them show the `Target` and `Field` bytes
checked inside an event as they are inside a bid.
-/

namespace SolanaIdls.tensor.events

open Borsh Borsh.Codec tensor.instructions

/-! ## Events -/

/-- `MakeEvent`, emitted when a listing or a bid is made or edited. -/
structure MakeEvent where
  maker : Pubkey
  bid_id : Option Pubkey
  target : Target
  target_id : Pubkey
  field : Option Field
  field_id : Option Pubkey
  amount : UInt64
  quantity : UInt32
  currency : Option Pubkey
  expiry : Int64
  private_taker : Option Pubkey
  asset_id : Option Pubkey
  deriving DecidableEq

/-- `TakeEvent`, emitted when a listing is bought or a bid is taken. -/
structure TakeEvent where
  taker : Pubkey
  bid_id : Option Pubkey
  target : Target
  target_id : Pubkey
  field : Option Field
  field_id : Option Pubkey
  amount : UInt64
  quantity : UInt32
  tcomp_fee : UInt64
  taker_broker_fee : UInt64
  maker_broker_fee : UInt64
  creator_fee : UInt64
  currency : Option Pubkey
  asset_id : Option Pubkey
  deriving DecidableEq

/-- `TensorEvent`. -/
inductive TensorEvent where
  | Maker (e : MakeEvent)
  | Taker (e : TakeEvent)
  | Unknown
  deriving DecidableEq

def MakeEvent.borsh : Codec MakeEvent :=
  (pubkey.prod <| pubkey.option.prod <| Target.borsh.prod <| pubkey.prod <|
    Field.borsh.option.prod <| pubkey.option.prod <| u64.prod <| u32.prod <|
    pubkey.option.prod <| i64.prod <| pubkey.option.prod pubkey.option).map
    (fun (a, b, c, d, e, f, g, h, i, j, k, l) => ⟨a, b, c, d, e, f, g, h, i, j, k, l⟩)
    (fun x => (x.maker, x.bid_id, x.target, x.target_id, x.field, x.field_id, x.amount,
      x.quantity, x.currency, x.expiry, x.private_taker, x.asset_id))
    fun _ => rfl

def TakeEvent.borsh : Codec TakeEvent :=
  (pubkey.prod <| pubkey.option.prod <| Target.borsh.prod <| pubkey.prod <|
    Field.borsh.option.prod <| pubkey.option.prod <| u64.prod <| u32.prod <| u64.prod <|
    u64.prod <| u64.prod <| u64.prod <| pubkey.option.prod pubkey.option).map
    (fun (a, b, c, d, e, f, g, h, i, j, k, l, m, n) => ⟨a, b, c, d, e, f, g, h, i, j, k, l, m, n⟩)
    (fun x => (x.taker, x.bid_id, x.target, x.target_id, x.field, x.field_id, x.amount,
      x.quantity, x.tcomp_fee, x.taker_broker_fee, x.maker_broker_fee, x.creator_fee,
      x.currency, x.asset_id))
    fun _ => rfl

/-- No field of an event has a length prefix, so every event can be written. -/
theorem MakeEvent.fits_borsh (m : MakeEvent) : MakeEvent.borsh.fits m = true := by
  simp only [MakeEvent.borsh, map_fits, prod_fits, fixedWidth_pubkey.fits, fixedWidth_u64.fits,
    fixedWidth_u32.fits, fixedWidth_i64.fits, option_fits fixedWidth_pubkey.fits,
    option_fits (c := Field.borsh) fun _ => rfl, Target.borsh, Bool.true_and]

theorem TakeEvent.fits_borsh (k : TakeEvent) : TakeEvent.borsh.fits k = true := by
  simp only [TakeEvent.borsh, map_fits, prod_fits, fixedWidth_pubkey.fits, fixedWidth_u64.fits,
    fixedWidth_u32.fits, option_fits fixedWidth_pubkey.fits,
    option_fits (c := Field.borsh) fun _ => rfl, Target.borsh, Bool.true_and]

/-! ## The decoder -/

/-- The `match payload[0]` of `try_from`: the enum's tag, then the event's fields. -/
def decode_payload (payload : List UInt8) : Outcome ParseError TensorEvent := do
  let tag ← Slice.index payload 0
  if tag = 0 then
    return .Maker (← decode (MakeEvent.borsh.try_from_slice (← Slice.range_from payload 1)))
  else if tag = 1 then
    return .Taker (← decode (TakeEvent.borsh.try_from_slice (← Slice.range_from payload 1)))
  else
    return .Unknown

/-- `TensorEvent::try_from`. The first 8 bytes are skipped unread. -/
def try_from (data : List UInt8) : Outcome ParseError TensorEvent := do
  if data.length < 9 then
    .err (.TooShort data.length)
  else
    let payload ← Slice.range_from data 8
    decode_payload payload

/-- `unpack`, which forwards to `try_from`. -/
def unpack (data : List UInt8) : Outcome ParseError TensorEvent :=
  try_from data

/-- From 9 bytes on, the decoder reads the enum from byte 8, whatever the 8 bytes before it. -/
theorem try_from_skip (w : List.Vector UInt8 8) (tag : UInt8) (fields : List UInt8) :
    try_from (w.toList ++ tag :: fields) = decode_payload (tag :: fields) := by
  have hw : w.toList.length = 8 := w.toList_length
  have hlen : ¬(w.toList ++ tag :: fields).length < 9 := by
    simp only [List.length_append, List.length_cons, hw]
    omega
  simp only [try_from, if_neg hlen, Slice.range_from_append hw, Outcome.ok_bind]

/-- Behind tag 0, the rest is decoded exactly as a `MakeEvent`. -/
theorem decode_payload_maker (fields : List UInt8) :
    decode_payload (0 :: fields) = decode_arm MakeEvent.borsh .Maker fields := by
  have hrest : (Slice.range_from (0 :: fields) 1 : Outcome ParseError (List UInt8)) = .ok fields :=
    Slice.range_from_append (s := [0]) rfl fields
  simp only [decode_payload, Slice.index_cons_zero, Outcome.ok_bind, if_true, hrest]
  rfl

/-- Behind tag 1, the rest is decoded exactly as a `TakeEvent`. -/
theorem decode_payload_taker (fields : List UInt8) :
    decode_payload (1 :: fields) = decode_arm TakeEvent.borsh .Taker fields := by
  have hrest : (Slice.range_from (1 :: fields) 1 : Outcome ParseError (List UInt8)) = .ok fields :=
    Slice.range_from_append (s := [1]) rfl fields
  have h10 : (1 : UInt8) ≠ 0 := by decide
  simp only [decode_payload, Slice.index_cons_zero, Outcome.ok_bind, h10, if_false, if_true, hrest]
  rfl

/-! ## Events read back -/

/-- A `MakeEvent` is read back behind every 8 bytes. -/
theorem unpack_maker_write (w : List.Vector UInt8 8) (m : MakeEvent) :
    unpack (w.toList ++ 0 :: MakeEvent.borsh.write m) = .ok (.Maker m) := by
  rw [unpack, try_from_skip, decode_payload_maker]
  exact decode_arm_write _ _ (MakeEvent.fits_borsh m)

/-- A `TakeEvent` is read back behind every 8 bytes. -/
theorem unpack_taker_write (w : List.Vector UInt8 8) (k : TakeEvent) :
    unpack (w.toList ++ 1 :: TakeEvent.borsh.write k) = .ok (.Taker k) := by
  rw [unpack, try_from_skip, decode_payload_taker]
  exact decode_arm_write _ _ (TakeEvent.fits_borsh k)

/-! ## Bad `Target` and `Field` bytes -/

/-- Fields that the `MakeEvent` reader rejects fail the whole decode with its error. -/
theorem unpack_maker_of_read_error (w : List.Vector UInt8 8) {fields : List UInt8}
    {e : BorshError} (h : MakeEvent.borsh.read fields = .error e) :
    unpack (w.toList ++ 0 :: fields) = .err (.Decode e) := by
  rw [unpack, try_from_skip, decode_payload_maker]
  exact decode_arm_error _ _ (try_from_slice_of_read_error h)

/-- Fields that the `TakeEvent` reader rejects fail the whole decode with its error. -/
theorem unpack_taker_of_read_error (w : List.Vector UInt8 8) {fields : List UInt8}
    {e : BorshError} (h : TakeEvent.borsh.read fields = .error e) :
    unpack (w.toList ++ 1 :: fields) = .err (.Decode e) := by
  rw [unpack, try_from_skip, decode_payload_taker]
  exact decode_arm_error _ _ (try_from_slice_of_read_error h)

/-- A byte other than 0 and 1 where a `MakeEvent`'s `Target` stands fails the whole decode. -/
theorem unpack_maker_of_bad_target (w : List.Vector UInt8 8) (maker : Pubkey)
    (bid_id : Option Pubkey) {v : UInt8} (h0 : v ≠ 0) (h1 : v ≠ 1) (rest : List UInt8) :
    unpack (w.toList ++ 0 :: (pubkey.write maker ++ (pubkey.option.write bid_id ++ v :: rest))) =
      .err (.Decode (.invalidData s!"invalid Target: {v}")) := by
  have hread : MakeEvent.borsh.read (pubkey.write maker ++ (pubkey.option.write bid_id ++
      v :: rest)) = .error (.invalidData s!"invalid Target: {v}") :=
    map_read_of_error <| prod_read_of_error_snd (fixedWidth_pubkey.fits maker) <|
      prod_read_of_error_snd (option_fits fixedWidth_pubkey.fits bid_id) <|
      prod_read_of_error_fst (Target.read_of_ne h0 h1 rest)
  exact unpack_maker_of_read_error w hread

/-- A byte other than 0 and 1 where a `TakeEvent`'s `Target` stands fails the whole decode. -/
theorem unpack_taker_of_bad_target (w : List.Vector UInt8 8) (taker : Pubkey)
    (bid_id : Option Pubkey) {v : UInt8} (h0 : v ≠ 0) (h1 : v ≠ 1) (rest : List UInt8) :
    unpack (w.toList ++ 1 :: (pubkey.write taker ++ (pubkey.option.write bid_id ++ v :: rest))) =
      .err (.Decode (.invalidData s!"invalid Target: {v}")) := by
  have hread : TakeEvent.borsh.read (pubkey.write taker ++ (pubkey.option.write bid_id ++
      v :: rest)) = .error (.invalidData s!"invalid Target: {v}") :=
    map_read_of_error <| prod_read_of_error_snd (fixedWidth_pubkey.fits taker) <|
      prod_read_of_error_snd (option_fits fixedWidth_pubkey.fits bid_id) <|
      prod_read_of_error_fst (Target.read_of_ne h0 h1 rest)
  exact unpack_taker_of_read_error w hread

/-- A byte other than 0 where a present `Field` of a `MakeEvent` stands fails the whole
decode. -/
theorem unpack_maker_of_bad_field (w : List.Vector UInt8 8) (maker : Pubkey)
    (bid_id : Option Pubkey) (target : Target) (target_id : Pubkey) {v : UInt8} (h0 : v ≠ 0)
    (rest : List UInt8) :
    unpack (w.toList ++ 0 :: (pubkey.write maker ++ (pubkey.option.write bid_id ++
        (Target.borsh.write target ++ (pubkey.write target_id ++ 1 :: v :: rest))))) =
      .err (.Decode (.invalidData s!"invalid Field: {v}")) := by
  have hread : MakeEvent.borsh.read (pubkey.write maker ++ (pubkey.option.write bid_id ++
      (Target.borsh.write target ++ (pubkey.write target_id ++ 1 :: v :: rest)))) =
      .error (.invalidData s!"invalid Field: {v}") :=
    map_read_of_error <| prod_read_of_error_snd (fixedWidth_pubkey.fits maker) <|
      prod_read_of_error_snd (option_fits fixedWidth_pubkey.fits bid_id) <|
      Field.read_after_target_of_ne _ target target_id h0 rest
  exact unpack_maker_of_read_error w hread

/-- A byte other than 0 where a present `Field` of a `TakeEvent` stands fails the whole
decode. -/
theorem unpack_taker_of_bad_field (w : List.Vector UInt8 8) (taker : Pubkey)
    (bid_id : Option Pubkey) (target : Target) (target_id : Pubkey) {v : UInt8} (h0 : v ≠ 0)
    (rest : List UInt8) :
    unpack (w.toList ++ 1 :: (pubkey.write taker ++ (pubkey.option.write bid_id ++
        (Target.borsh.write target ++ (pubkey.write target_id ++ 1 :: v :: rest))))) =
      .err (.Decode (.invalidData s!"invalid Field: {v}")) := by
  have hread : TakeEvent.borsh.read (pubkey.write taker ++ (pubkey.option.write bid_id ++
      (Target.borsh.write target ++ (pubkey.write target_id ++ 1 :: v :: rest)))) =
      .error (.invalidData s!"invalid Field: {v}") :=
    map_read_of_error <| prod_read_of_error_snd (fixedWidth_pubkey.fits taker) <|
      prod_read_of_error_snd (option_fits fixedWidth_pubkey.fits bid_id) <|
      Field.read_after_target_of_ne _ target target_id h0 rest
  exact unpack_taker_of_read_error w hread

end SolanaIdls.tensor.events

namespace SolanaIdls

open Borsh Borsh.Codec tensor.instructions tensor.events in
/-- Tensor's codecs round-trip: every bid behind `BID`, and every event behind every 8 bytes and
its tag; the hand-written `Target` and `Field` readers accept exactly what their writers
produce, 0 or 1 for a `Target` and 0 for a `Field`; and any other byte where a bid's or an
event's `Target`, or a present `Field`, stands makes the whole decode fail. -/
theorem tensor_codecs_round_trip :
    (∀ b : BidInstruction,
      tensor.instructions.unpack (BID.toList ++ BidInstruction.borsh.write b) = .ok (.Bid b)) ∧
    (∀ (w : List.Vector UInt8 8) (m : MakeEvent),
      tensor.events.unpack (w.toList ++ 0 :: MakeEvent.borsh.write m) = .ok (.Maker m)) ∧
    (∀ (w : List.Vector UInt8 8) (k : TakeEvent),
      tensor.events.unpack (w.toList ++ 1 :: TakeEvent.borsh.write k) = .ok (.Taker k)) ∧
    (∀ bs t rest, Target.borsh.read bs = .ok (t, rest) ↔ bs = Target.borsh.write t ++ rest) ∧
    (∀ bs f rest, Field.borsh.read bs = .ok (f, rest) ↔ bs = Field.borsh.write f ++ rest) ∧
    (∀ v rest, (∃ t rest', Target.borsh.read (v :: rest) = .ok (t, rest')) ↔ v = 0 ∨ v = 1) ∧
    (∀ v rest, (∃ f rest', Field.borsh.read (v :: rest) = .ok (f, rest')) ↔ v = 0) ∧
    (∀ (bid_id : Pubkey) (v : UInt8) rest, v ≠ 0 → v ≠ 1 →
      tensor.instructions.unpack (BID.toList ++ (pubkey.write bid_id ++ v :: rest)) =
        .err (.Decode (.invalidData s!"invalid Target: {v}"))) ∧
    (∀ (bid_id : Pubkey) target (target_id : Pubkey) (v : UInt8) rest, v ≠ 0 →
      tensor.instructions.unpack (BID.toList ++ (pubkey.write bid_id ++
          (Target.borsh.write target ++ (pubkey.write target_id ++ 1 :: v :: rest)))) =
        .err (.Decode (.invalidData s!"invalid Field: {v}"))) ∧
    (∀ (w : List.Vector UInt8 8) (maker : Pubkey) bid_id (v : UInt8) rest, v ≠ 0 → v ≠ 1 →
      tensor.events.unpack (w.toList ++ 0 :: (pubkey.write maker ++
          (pubkey.option.write bid_id ++ v :: rest))) =
        .err (.Decode (.invalidData s!"invalid Target: {v}"))) ∧
    (∀ (w : List.Vector UInt8 8) (taker : Pubkey) bid_id (v : UInt8) rest, v ≠ 0 → v ≠ 1 →
      tensor.events.unpack (w.toList ++ 1 :: (pubkey.write taker ++
          (pubkey.option.write bid_id ++ v :: rest))) =
        .err (.Decode (.invalidData s!"invalid Target: {v}"))) ∧
    (∀ (w : List.Vector UInt8 8) (maker : Pubkey) bid_id target (target_id : Pubkey) (v : UInt8)
      rest, v ≠ 0 →
      tensor.events.unpack (w.toList ++ 0 :: (pubkey.write maker ++ (pubkey.option.write bid_id ++
          (Target.borsh.write target ++ (pubkey.write target_id ++ 1 :: v :: rest))))) =
        .err (.Decode (.invalidData s!"invalid Field: {v}"))) ∧
    (∀ (w : List.Vector UInt8 8) (taker : Pubkey) bid_id target (target_id : Pubkey) (v : UInt8)
      rest, v ≠ 0 →
      tensor.events.unpack (w.toList ++ 1 :: (pubkey.write taker ++ (pubkey.option.write bid_id ++
          (Target.borsh.write target ++ (pubkey.write target_id ++ 1 :: v :: rest))))) =
        .err (.Decode (.invalidData s!"invalid Field: {v}"))) :=
  ⟨unpack_bid_write, unpack_maker_write, unpack_taker_write, Target.read_eq_ok_iff,
    Field.read_eq_ok_iff, Target.read_cons_ok_iff, Field.read_cons_ok_iff,
    fun bid_id _ rest h0 h1 => unpack_bid_of_bad_target bid_id h0 h1 rest,
    fun bid_id target target_id _ rest h0 => unpack_bid_of_bad_field bid_id target target_id h0 rest,
    fun w maker bid_id _ rest h0 h1 => unpack_maker_of_bad_target w maker bid_id h0 h1 rest,
    fun w taker bid_id _ rest h0 h1 => unpack_taker_of_bad_target w taker bid_id h0 h1 rest,
    fun w maker bid_id target target_id _ rest h0 =>
      unpack_maker_of_bad_field w maker bid_id target target_id h0 rest,
    fun w taker bid_id target target_id _ rest h0 =>
      unpack_taker_of_bad_field w taker bid_id target target_id h0 rest⟩

end SolanaIdls
