import SolanaIdls.Common

/-!
# Meteora DLMM CPI events

`meteora::dlmm::anchor_cpi_event::unpack` of `src/meteora/dlmm/anchor_cpi_event.rs`. Of the
program's events the decoder knows one, the swap; every other discriminator is `Unknown`. It shares
its header, `anchor_cpi_split`, with the Launchpad and DAMM decoders, so that a swap is read back
bare or behind `ANCHOR_DISC` alike (`unpack_write`, `unpack_framed_write`).
-/

namespace SolanaIdls.meteora.dlmm.anchor_cpi_event

open Borsh Borsh.Codec

def SWAP : List.Vector UInt8 8 := ⟨[81, 108, 227, 190, 205, 208, 10, 196], rfl⟩

/-- `SwapEvent`, emitted when a swap occurs. -/
structure SwapEvent where
  lb_pair : Pubkey
  «from» : Pubkey
  start_bin_id : Int32
  end_bin_id : Int32
  amount_in : UInt64
  amount_out : UInt64
  swap_for_y : Bool
  fee : UInt64
  protocol_fee : UInt64
  fee_bps : BitVec 128
  host_fee : UInt64
  deriving DecidableEq

/-- `MeteoraDlmmAnchorCpiEvent`. -/
inductive MeteoraDlmmAnchorCpiEvent where
  | Swap (e : SwapEvent)
  | Unknown
  deriving DecidableEq

def SwapEvent.borsh : Codec SwapEvent :=
  (pubkey.prod <| pubkey.prod <| i32.prod <| i32.prod <| u64.prod <| u64.prod <| bool.prod <|
    u64.prod <| u64.prod <| u128.prod u64).map
    (fun (a, b, c, d, e, f, g, h, i, j, k) => ⟨a, b, c, d, e, f, g, h, i, j, k⟩)
    (fun x => (x.lb_pair, x.«from», x.start_bin_id, x.end_bin_id, x.amount_in, x.amount_out,
      x.swap_for_y, x.fee, x.protocol_fee, x.fee_bps, x.host_fee))
    fun _ => rfl

/-- A swap is written in 129 bytes. -/
theorem SwapEvent.fixedWidth_borsh : SwapEvent.borsh.FixedWidth 129 :=
  (fixedWidth_pubkey.prod <| fixedWidth_pubkey.prod <| fixedWidth_i32.prod <| fixedWidth_i32.prod <|
    fixedWidth_u64.prod <| fixedWidth_u64.prod <| fixedWidth_bool.prod <| fixedWidth_u64.prod <|
    fixedWidth_u64.prod <| fixedWidth_u128.prod fixedWidth_u64).map _ _ _

/-! ## The decoder -/

/-- The `match disc` of `try_from`. -/
def decode_payload (disc : List.Vector UInt8 8) (payload : List UInt8) :
    Outcome ParseError MeteoraDlmmAnchorCpiEvent := do
  if disc = SWAP then
    return .Swap (← decode (SwapEvent.borsh.try_from_slice payload))
  else
    .err (.Unknown disc)

/-- `MeteoraDlmmAnchorCpiEvent::try_from`. -/
def try_from (data : List UInt8) : Outcome ParseError MeteoraDlmmAnchorCpiEvent := do
  let (disc, payload) ← anchor_cpi_split data
  decode_payload disc payload

/-- `unpack`, which forwards to `try_from`. -/
def unpack (data : List UInt8) : Outcome ParseError MeteoraDlmmAnchorCpiEvent :=
  try_from data

/-- Wrapping an input that does not itself start with `ANCHOR_DISC` changes nothing. -/
theorem unpack_wrap (p : List UInt8) (hp : 8 ≤ p.length) (hne : p.take 8 ≠ ANCHOR_DISC.toList) :
    unpack (ANCHOR_DISC.toList ++ p) = unpack p := by
  rw [unpack, unpack, try_from, try_from, anchor_cpi_split_wrap p hp hne]

/-- A swap is read back from its discriminator and payload. -/
theorem unpack_write (e : SwapEvent) :
    unpack (SWAP.toList ++ SwapEvent.borsh.write e) = .ok (.Swap e) := by
  have hne : SWAP ≠ ANCHOR_DISC := by decide
  rw [unpack, try_from, anchor_cpi_split_bare _ _ hne]
  simp only [Outcome.ok_bind, decode_payload, if_true]
  exact decode_arm_write _ _ (SwapEvent.fixedWidth_borsh.fits e)

/-- Behind `ANCHOR_DISC`, a swap is read back the same. -/
theorem unpack_framed_write (e : SwapEvent) :
    unpack (ANCHOR_DISC.toList ++ SWAP.toList ++ SwapEvent.borsh.write e) = .ok (.Swap e) := by
  rw [unpack, try_from, anchor_cpi_split_framed]
  simp only [Outcome.ok_bind, decode_payload, if_true]
  exact decode_arm_write _ _ (SwapEvent.fixedWidth_borsh.fits e)

/-- Every other discriminator is reported as unknown, whatever the payload. -/
theorem unpack_of_ne {disc : List.Vector UInt8 8} (hs : disc ≠ SWAP) (ha : disc ≠ ANCHOR_DISC)
    (payload : List UInt8) : unpack (disc.toList ++ payload) = .err (.Unknown disc) := by
  rw [unpack, try_from, anchor_cpi_split_bare _ _ ha]
  simp only [Outcome.ok_bind, decode_payload, if_neg hs]

/-- The decoder reads back every swap, bare or behind `ANCHOR_DISC`, and reports every other
discriminator that is not `ANCHOR_DISC` as unknown, whatever the payload. -/
theorem dlmm_unpack_spec :
    (∀ e : SwapEvent, unpack (SWAP.toList ++ SwapEvent.borsh.write e) = .ok (.Swap e) ∧
      unpack (ANCHOR_DISC.toList ++ SWAP.toList ++ SwapEvent.borsh.write e) = .ok (.Swap e)) ∧
      ∀ (disc : List.Vector UInt8 8) (payload : List UInt8), disc ≠ SWAP →
        disc ≠ ANCHOR_DISC → unpack (disc.toList ++ payload) = .err (.Unknown disc) :=
  ⟨fun e => ⟨unpack_write e, unpack_framed_write e⟩,
    fun _ payload hs ha => unpack_of_ne hs ha payload⟩

end SolanaIdls.meteora.dlmm.anchor_cpi_event
