import SolanaIdls.Common

/-!
# Jupiter limit-order events

`jupiter::limit_order::events::unpack` of `src/jupiter/limit_order/events.rs`. The decoder asks
for 16 bytes, takes the discriminator from bytes 0 to 8, and Borsh-decodes the payload from byte
16 on. The eight bytes in between are read by nothing: the layout is that of the decoders that
read an event behind `ANCHOR_DISC`, with the discriminator taken where a bare event has it.

So the decoder reads an event back when eight arbitrary bytes stand between its discriminator and
its payload (`unpack_cancel_order_skipping`, `unpack_create_order_skipping`), and not when the
event is written as its discriminator followed by its payload: the payload is then read from its
ninth byte on, and `CancelOrderEvent`, a fixed 32 bytes, is rejected for every value
(`unpack_cancel_order_rejected`).
-/

namespace SolanaIdls.jupiter.limit_order.events

open Borsh Borsh.Codec

/-! ## Discriminators and payloads -/

def CANCEL_ORDER_EVENT : List.Vector UInt8 8 := ⟨[174, 66, 141, 17, 4, 224, 162, 77], rfl⟩
def CREATE_ORDER_EVENT : List.Vector UInt8 8 := ⟨[49, 142, 72, 166, 230, 29, 84, 84], rfl⟩

/-- `CancelOrderEvent`. -/
structure CancelOrderEvent where
  order_key : Pubkey
  deriving DecidableEq

/-- `CreateOrderEvent`. -/
structure CreateOrderEvent where
  order_key : Pubkey
  maker : Pubkey
  input_mint : Pubkey
  output_mint : Pubkey
  in_amount : UInt64
  out_amount : UInt64
  expired_at : Option Int64
  deriving DecidableEq

/-- `JupiterLimitOrderEvent`. -/
inductive JupiterLimitOrderEvent where
  | CancelOrder (e : CancelOrderEvent)
  | CreateOrder (e : CreateOrderEvent)
  | Unknown
  deriving DecidableEq

def CancelOrderEvent.borsh : Codec CancelOrderEvent :=
  pubkey.map (fun k => ⟨k⟩) (fun x => x.order_key) fun _ => rfl

def CreateOrderEvent.borsh : Codec CreateOrderEvent :=
  (pubkey.prod <| pubkey.prod <| pubkey.prod <| pubkey.prod <| u64.prod <| u64.prod i64.option).map
    (fun (a, b, c, d, e, f, g) => ⟨a, b, c, d, e, f, g⟩)
    (fun x => (x.order_key, x.maker, x.input_mint, x.output_mint, x.in_amount, x.out_amount,
      x.expired_at))
    fun _ => rfl

theorem CancelOrderEvent.fixedWidth_borsh : CancelOrderEvent.borsh.FixedWidth 32 :=
  fixedWidth_pubkey.map _ _ _

/-- No field of `CreateOrderEvent` has a length prefix, so every value can be written. -/
theorem CreateOrderEvent.fits_borsh (x : CreateOrderEvent) : CreateOrderEvent.borsh.fits x = true := by
  simp only [CreateOrderEvent.borsh, map_fits, prod_fits, fixedWidth_pubkey.fits,
    fixedWidth_u64.fits, option_fits fixedWidth_i64.fits, Bool.true_and]

/-! ## The decoder -/

/-- The `match disc` of `try_from`, on the payload from byte 16. -/
def decode_payload (disc : List.Vector UInt8 8) (payload : List UInt8) :
    Outcome ParseError JupiterLimitOrderEvent := do
  if disc = CANCEL_ORDER_EVENT then
    return .CancelOrder (← decode (CancelOrderEvent.borsh.try_from_slice payload))
  else if disc = CREATE_ORDER_EVENT then
    return .CreateOrder (← decode (CreateOrderEvent.borsh.try_from_slice payload))
  else
    .err (.Unknown disc)

/-- `JupiterLimitOrderEvent::try_from`. -/
def try_from (data : List UInt8) : Outcome ParseError JupiterLimitOrderEvent := do
  if data.length < 16 then
    .err (.TooShort data.length)
  else
    let disc ← Outcome.expect (Slice.try_into (← Slice.range data 0 8) 8)
    let payload ← Slice.range_from data 16
    decode_payload disc payload

/-- `unpack`, which forwards to `try_from`. -/
def unpack (data : List UInt8) : Outcome ParseError JupiterLimitOrderEvent :=
  try_from data

/-! ## The header -/

/-- Below 16 bytes the decoder rejects the input with its length. -/
theorem try_from_of_lt {data : List UInt8} (h : data.length < 16) :
    try_from data = .err (.TooShort data.length) := by
  simp [try_from, h]

/-- From 16 bytes on, the discriminator is the first 8 bytes and the payload starts 8 bytes after
it; nothing reads the bytes between. -/
theorem try_from_split (disc : List.Vector UInt8 8) {skipped : List UInt8}
    (hs : skipped.length = 8) (payload : List UInt8) :
    try_from (disc.toList ++ (skipped ++ payload)) = decode_payload disc payload := by
  have hd : disc.toList.length = 8 := disc.toList_length
  have hlen : ¬(disc.toList ++ (skipped ++ payload)).length < 16 := by
    simp only [List.length_append, hd, hs]
    omega
  simp only [try_from, if_neg hlen, Slice.range_zero_append hd, Outcome.ok_bind,
    Slice.try_into_toList, Outcome.expect_some,
    Slice.range_from_append_append (show disc.toList.length + skipped.length = 16 by omega)]

/-! ## The arms -/

theorem decode_payload_cancel_order (payload : List UInt8) :
    decode_payload CANCEL_ORDER_EVENT payload =
      (do return .CancelOrder (← decode (CancelOrderEvent.borsh.try_from_slice payload))) := by
  simp [decode_payload]

theorem decode_payload_create_order (payload : List UInt8) :
    decode_payload CREATE_ORDER_EVENT payload =
      (do return .CreateOrder (← decode (CreateOrderEvent.borsh.try_from_slice payload))) := by
  have hne : CREATE_ORDER_EVENT ≠ CANCEL_ORDER_EVENT := by decide
  simp [decode_payload, hne]

/-- A discriminator of no event is returned in the error. -/
theorem decode_payload_unknown {disc : List.Vector UInt8 8} (h1 : disc ≠ CANCEL_ORDER_EVENT)
    (h2 : disc ≠ CREATE_ORDER_EVENT) (payload : List UInt8) :
    decode_payload disc payload = .err (.Unknown disc) := by
  simp [decode_payload, h1, h2]

/-! ## What the decoder reads back -/

/-- A cancellation is read back when eight bytes, whatever they are, stand between its
discriminator and its payload. -/
theorem unpack_cancel_order_skipping (x : CancelOrderEvent) {skipped : List UInt8}
    (hs : skipped.length = 8) :
    unpack (CANCEL_ORDER_EVENT.toList ++ (skipped ++ CancelOrderEvent.borsh.write x)) =
      .ok (.CancelOrder x) := by
  rw [unpack, try_from_split _ hs, decode_payload_cancel_order,
    decode_arm_write _ _ (CancelOrderEvent.fixedWidth_borsh.fits x)]

/-- A new order is read back when eight bytes, whatever they are, stand between its discriminator
and its payload. -/
theorem unpack_create_order_skipping (x : CreateOrderEvent) {skipped : List UInt8}
    (hs : skipped.length = 8) :
    unpack (CREATE_ORDER_EVENT.toList ++ (skipped ++ CreateOrderEvent.borsh.write x)) =
      .ok (.CreateOrder x) := by
  rw [unpack, try_from_split _ hs, decode_payload_create_order,
    decode_arm_write _ _ (CreateOrderEvent.fits_borsh x)]

/-- Written as its discriminator and its payload, a cancellation is never read back: the decoder
skips the first 8 bytes of the payload and finds 24 where the event has 32. -/
theorem unpack_cancel_order_rejected (x : CancelOrderEvent) :
    ∃ e, unpack (CANCEL_ORDER_EVENT.toList ++ CancelOrderEvent.borsh.write x) = .err (.Decode e) := by
  set w := CancelOrderEvent.borsh.write x
  have hlen : w.length = 32 := CancelOrderEvent.fixedWidth_borsh.length_write x
  -- The decoder takes the first 8 bytes of the payload for the skipped ones.
  have hsplit : w = w.take 8 ++ w.drop 8 := (List.take_append_drop 8 w).symm
  have hskip : (w.take 8).length = 8 := by simp [hlen]
  have hrest : (w.drop 8).length ≠ 32 := by simp [hlen]
  obtain ⟨e, he⟩ := CancelOrderEvent.fixedWidth_borsh.try_from_slice_of_length_ne hrest
  refine ⟨e, ?_⟩
  rw [unpack, hsplit, try_from_split _ hskip, decode_payload_cancel_order, he]
  rfl

/-! ## The decoder as a whole -/

/-- The decoder takes the discriminator from the first 8 bytes and the payload from byte 16: it
rejects an input below 16 bytes with its length, reports every other discriminator as unknown
whatever follows, and reads back both events when 8 bytes, whatever they are, stand between the
discriminator and the payload. -/
theorem limit_order_unpack_spec :
    (∀ data : List UInt8, data.length < 16 → unpack data = .err (.TooShort data.length)) ∧
      (∀ (disc : List.Vector UInt8 8) (skipped payload : List UInt8),
        disc ≠ CANCEL_ORDER_EVENT → disc ≠ CREATE_ORDER_EVENT → skipped.length = 8 →
        unpack (disc.toList ++ (skipped ++ payload)) = .err (.Unknown disc)) ∧
      ∀ skipped : List UInt8, skipped.length = 8 →
        (∀ x, unpack (CANCEL_ORDER_EVENT.toList ++ (skipped ++ CancelOrderEvent.borsh.write x)) =
          .ok (.CancelOrder x)) ∧
        ∀ x, unpack (CREATE_ORDER_EVENT.toList ++ (skipped ++ CreateOrderEvent.borsh.write x)) =
          .ok (.CreateOrder x) := by
  refine ⟨fun data h => try_from_of_lt h, fun disc skipped payload h1 h2 hs => ?_,
    fun skipped hs => ⟨fun x => unpack_cancel_order_skipping x hs,
      fun x => unpack_create_order_skipping x hs⟩⟩
  rw [unpack, try_from_split _ hs, decode_payload_unknown h1 h2]

end SolanaIdls.jupiter.limit_order.events
