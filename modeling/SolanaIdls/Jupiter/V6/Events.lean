import SolanaIdls.Raydium.Cpmm.Events

/-!
# Jupiter v6 events

`jupiter::v6::events::unpack` of `src/jupiter/v6/events.rs`. The program emits its events through
a self-CPI: the decoder requires 16 bytes, dispatches on the first 8, which must be `SWAP`
(the self-CPI tag `e445a52e51cb9a1d`), skips the next 8, which hold the event's own
discriminator, and decodes the rest exactly. The swap and the fee event share that tag, and the
decoder tells them apart by the payload's length alone: `SWAP_LEN` for a swap and `SWAP_FEE_LEN`
for a fee, any other length being `InvalidLength`. The two constants are the widths of the two
layouts (`SwapEvent.fixedWidth_borsh`, `FeeEvent.fixedWidth_borsh`), so that both events are read
back whatever the 8 bytes after the tag (`unpack_swap_write`, `unpack_fee_write`).

`unpack_length_selected_versions` states the same of Raydium CPMM's two swap versions, whose
decoder also selects the version by length.
-/

namespace SolanaIdls.jupiter.v6.events

open Borsh Borsh.Codec

/-! ## Discriminators and payloads -/

/-- `SWAP`, `e445a52e51cb9a1d`, the bytes of `ANCHOR_DISC`; built element by element, so that
its length needs no proof of its own. -/
def SWAP : List.Vector UInt8 8 :=
  228 ::ᵥ 69 ::ᵥ 165 ::ᵥ 46 ::ᵥ 81 ::ᵥ 203 ::ᵥ 154 ::ᵥ 29 ::ᵥ List.Vector.nil
def SWAP_LEN : ℕ := 112
def SWAP_FEE_LEN : ℕ := 72

/-- `SwapEvent`, emitted once a swap is executed. -/
structure SwapEvent where
  amm : Pubkey
  input_mint : Pubkey
  input_amount : UInt64
  output_mint : Pubkey
  output_amount : UInt64
  deriving DecidableEq

/-- `FeeEvent`, emitted once a fee is collected. -/
structure FeeEvent where
  account : Pubkey
  mint : Pubkey
  amount : UInt64
  deriving DecidableEq

/-- `JupiterV6Event`. -/
inductive JupiterV6Event where
  | Swap (e : SwapEvent)
  | Fee (e : FeeEvent)
  | Unknown
  deriving DecidableEq

def SwapEvent.borsh : Codec SwapEvent :=
  (pubkey.prod <| pubkey.prod <| u64.prod <| pubkey.prod u64).map
    (fun (a, b, c, d, e) => ⟨a, b, c, d, e⟩)
    (fun x => (x.amm, x.input_mint, x.input_amount, x.output_mint, x.output_amount))
    fun _ => rfl

def FeeEvent.borsh : Codec FeeEvent :=
  (pubkey.prod <| pubkey.prod u64).map (fun (a, b, c) => ⟨a, b, c⟩)
    (fun x => (x.account, x.mint, x.amount)) fun _ => rfl

/-- A swap is written in `SWAP_LEN` bytes. -/
theorem SwapEvent.fixedWidth_borsh : SwapEvent.borsh.FixedWidth SWAP_LEN :=
  (fixedWidth_pubkey.prod <| fixedWidth_pubkey.prod <| fixedWidth_u64.prod <|
    fixedWidth_pubkey.prod fixedWidth_u64).map _ _ _

/-- A fee is written in `SWAP_FEE_LEN` bytes. -/
theorem FeeEvent.fixedWidth_borsh : FeeEvent.borsh.FixedWidth SWAP_FEE_LEN :=
  (fixedWidth_pubkey.prod <| fixedWidth_pubkey.prod fixedWidth_u64).map _ _ _

/-! ## The decoder -/

/-- The `match disc` of `try_from`, on the payload from byte 16. -/
def decode_payload (disc : List.Vector UInt8 8) (payload : List UInt8) :
    Outcome ParseError JupiterV6Event := do
  if disc = SWAP then
    if payload.length = SWAP_LEN then
      return .Swap (← decode (SwapEvent.borsh.try_from_slice payload))
    else if payload.length = SWAP_FEE_LEN then
      return .Fee (← decode (FeeEvent.borsh.try_from_slice payload))
    else
      .err (.InvalidLength (max SWAP_LEN SWAP_FEE_LEN) payload.length)
  else
    .err (.Unknown disc)

/-- `JupiterV6Event::try_from`. Bytes 8 to 16 are skipped. -/
def try_from (data : List UInt8) : Outcome ParseError JupiterV6Event := do
  if data.length < 16 then
    .err (.TooShort data.length)
  else
    let disc ← Outcome.expect (Slice.try_into (← Slice.range data 0 8) 8)
    let payload ← Slice.range_from data 16
    decode_payload disc payload

/-- `unpack`, which forwards to `try_from`. -/
def unpack (data : List UInt8) : Outcome ParseError JupiterV6Event :=
  try_from data

/-- From 16 bytes on, the decoder dispatches on the first 8 with the payload from byte 16,
whatever bytes 8 to 16 are. -/
theorem try_from_split (disc w : List.Vector UInt8 8) (payload : List UInt8) :
    try_from (disc.toList ++ (w.toList ++ payload)) = decode_payload disc payload := by
  have hd : disc.toList.length = 8 := disc.toList_length
  have hw : w.toList.length = 8 := w.toList_length
  have hlen : ¬(disc.toList ++ (w.toList ++ payload)).length < 16 := by
    simp only [List.length_append, hd, hw]
    omega
  simp only [try_from, if_neg hlen, Slice.range_zero_append hd, Outcome.ok_bind,
    Slice.try_into_toList, Outcome.expect_some,
    Slice.range_from_append_append (show disc.toList.length + w.toList.length = 16 by omega)]

/-! ## The arms -/

theorem swap_len_ne : SWAP_FEE_LEN ≠ SWAP_LEN := by
  decide

/-- The length of a swap selects the swap. -/
theorem decode_payload_swap (e : SwapEvent) :
    decode_payload SWAP (SwapEvent.borsh.write e) = .ok (.Swap e) := by
  have hl : (SwapEvent.borsh.write e).length = SWAP_LEN := SwapEvent.fixedWidth_borsh.length_write e
  simp only [decode_payload, hl, if_true]
  exact decode_arm_write _ _ (SwapEvent.fixedWidth_borsh.fits e)

/-- The length of a fee is not a swap's, and selects the fee. -/
theorem decode_payload_fee (e : FeeEvent) :
    decode_payload SWAP (FeeEvent.borsh.write e) = .ok (.Fee e) := by
  have hl : (FeeEvent.borsh.write e).length = SWAP_FEE_LEN := FeeEvent.fixedWidth_borsh.length_write e
  simp only [decode_payload, hl, swap_len_ne, if_true, if_false]
  exact decode_arm_write _ _ (FeeEvent.fixedWidth_borsh.fits e)

theorem unpack_swap_write (w : List.Vector UInt8 8) (e : SwapEvent) :
    unpack (SWAP.toList ++ (w.toList ++ SwapEvent.borsh.write e)) = .ok (.Swap e) := by
  rw [unpack, try_from_split, decode_payload_swap]

theorem unpack_fee_write (w : List.Vector UInt8 8) (e : FeeEvent) :
    unpack (SWAP.toList ++ (w.toList ++ FeeEvent.borsh.write e)) = .ok (.Fee e) := by
  rw [unpack, try_from_split, decode_payload_fee]

end SolanaIdls.jupiter.v6.events

namespace SolanaIdls

open raydium.cpmm.events jupiter.v6.events in
theorem unpack_length_selected_versions :
    (∀ e : raydium.cpmm.events.LpChangeEvent, raydium.cpmm.events.unpack
        (LP_CHANGE_EVENT.toList ++ raydium.cpmm.events.LpChangeEvent.borsh.write e) =
          .ok (.LpChangeEvent e)) ∧
    (∀ e : raydium.cpmm.events.SwapEventV1, raydium.cpmm.events.unpack
        (SWAP_EVENT.toList ++ raydium.cpmm.events.SwapEventV1.borsh.write e) =
          .ok (.SwapEventV1 e)) ∧
    (∀ e : raydium.cpmm.events.SwapEventV2, raydium.cpmm.events.unpack
        (SWAP_EVENT.toList ++ raydium.cpmm.events.SwapEventV2.borsh.write e) =
          .ok (.SwapEventV2 e)) ∧
    (∀ e, (raydium.cpmm.events.SwapEventV1.borsh.write e).length = SWAP_EVENT_V1_PAYLOAD_LEN) ∧
    (∀ e, (raydium.cpmm.events.SwapEventV2.borsh.write e).length = SWAP_EVENT_V2_PAYLOAD_LEN) ∧
    (∀ (w : List.Vector UInt8 8) (e : jupiter.v6.events.SwapEvent), jupiter.v6.events.unpack
        (SWAP.toList ++ (w.toList ++ jupiter.v6.events.SwapEvent.borsh.write e)) = .ok (.Swap e)) ∧
    (∀ (w : List.Vector UInt8 8) (e : jupiter.v6.events.FeeEvent), jupiter.v6.events.unpack
        (SWAP.toList ++ (w.toList ++ jupiter.v6.events.FeeEvent.borsh.write e)) = .ok (.Fee e)) ∧
    (∀ e, (jupiter.v6.events.SwapEvent.borsh.write e).length = SWAP_LEN) ∧
    (∀ e, (jupiter.v6.events.FeeEvent.borsh.write e).length = SWAP_FEE_LEN) :=
  ⟨fun e => raydium.cpmm.events.unpack_write (.LpChangeEvent e) RaydiumCpmmEvent.noConfusion,
    fun e => raydium.cpmm.events.unpack_write (.SwapEventV1 e) RaydiumCpmmEvent.noConfusion,
    fun e => raydium.cpmm.events.unpack_write (.SwapEventV2 e) RaydiumCpmmEvent.noConfusion,
    raydium.cpmm.events.SwapEventV1.fixedWidth_borsh.length_write,
    raydium.cpmm.events.SwapEventV2.fixedWidth_borsh.length_write,
    unpack_swap_write, unpack_fee_write,
    jupiter.v6.events.SwapEvent.fixedWidth_borsh.length_write,
    jupiter.v6.events.FeeEvent.fixedWidth_borsh.length_write⟩

end SolanaIdls
