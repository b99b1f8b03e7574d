import SolanaIdls.Common

/-!
# Raydium CPMM events

`raydium::cpmm::events::unpack` of `src/raydium/cpmm/events.rs`. An event is its 8-byte
discriminator and its Borsh payload, decoded exactly. The swap event has two versions under one
discriminator, and the decoder tells them apart by the payload's length alone:
`SWAP_EVENT_V1_PAYLOAD_LEN` for the first, `SWAP_EVENT_V2_PAYLOAD_LEN` for the second, and any
other length is `Unknown`. The two constants are written out by hand from the field lists, and
they are the widths of the two layouts (`SwapEventV1.fixedWidth_borsh`,
`SwapEventV2.fixedWidth_borsh`), so that every event is read back as the variant that holds it
(`unpack_write`).
-/

namespace SolanaIdls.raydium.cpmm.events

open Borsh Borsh.Codec

/-! ## Discriminators and payloads -/

def LP_CHANGE_EVENT : List.Vector UInt8 8 := ⟨[121, 163, 205, 201, 57, 218, 117, 60], rfl⟩
def SWAP_EVENT : List.Vector UInt8 8 := ⟨[64, 198, 205, 232, 38, 8, 113, 226], rfl⟩
def SWAP_EVENT_V1_PAYLOAD_LEN : ℕ := 32 + 8 * 6 + 1
def SWAP_EVENT_V2_PAYLOAD_LEN : ℕ := SWAP_EVENT_V1_PAYLOAD_LEN + 32 + 32 + 8 + 8 + 1

/-- `LpChangeEvent`, emitted on deposit and withdraw. -/
structure LpChangeEvent where
  pool_id : Pubkey
  lp_amount_before : UInt64
  token_0_vault_before : UInt64
  token_1_vault_before : UInt64
  token_0_amount : UInt64
  token_1_amount : UInt64
  token_0_transfer_fee : UInt64
  token_1_transfer_fee : UInt64
  change_type : UInt8
  deriving DecidableEq

/-- `SwapEventV1`, emitted on a swap by the program's first version. -/
structure SwapEventV1 where
  pool_id : Pubkey
  input_vault_before : UInt64
  output_vault_before : UInt64
  input_amount : UInt64
  output_amount : UInt64
  input_transfer_fee : UInt64
  output_transfer_fee : UInt64
  base_input : Bool
  deriving DecidableEq

/-- `SwapEventV2`, the first version's fields and the mints and fees after them. -/
structure SwapEventV2 where
  pool_id : Pubkey
  input_vault_before : UInt64
  output_vault_before : UInt64
  input_amount : UInt64
  output_amount : UInt64
  input_transfer_fee : UInt64
  output_transfer_fee : UInt64
  base_input : Bool
  input_mint : Pubkey
  output_mint : Pubkey
  trade_fee : UInt64
  creator_fee : UInt64
  creator_fee_on_input : Bool
  deriving DecidableEq

/-- `RaydiumCpmmEvent`. -/
inductive RaydiumCpmmEvent where
  | LpChangeEvent (e : LpChangeEvent)
  | SwapEventV1 (e : SwapEventV1)
  | SwapEventV2 (e : SwapEventV2)
  | Unknown
  deriving DecidableEq

def LpChangeEvent.borsh : Codec LpChangeEvent :=
  (pubkey.prod <| u64.prod <| u64.prod <| u64.prod <| u64.prod <| u64.prod <| u64.prod <|
    u64.prod u8).map
    (fun (a, b, c, d, e, f, g, h, i) => ⟨a, b, c, d, e, f, g, h, i⟩)
    (fun x => (x.pool_id, x.lp_amount_before, x.token_0_vault_before, x.token_1_vault_before,
      x.token_0_amount, x.token_1_amount, x.token_0_transfer_fee, x.token_1_transfer_fee,
      x.change_type))
    fun _ => rfl

def SwapEventV1.borsh : Codec SwapEventV1 :=
  (pubkey.prod <| u64.prod <| u64.prod <| u64.prod <| u64.prod <| u64.prod <| u64.prod bool).map
    (fun (a, b, c, d, e, f, g, h) => ⟨a, b, c, d, e, f, g, h⟩)
    (fun x => (x.pool_id, x.input_vault_before, x.output_vault_before, x.input_amount,
      x.output_amount, x.input_transfer_fee, x.output_transfer_fee, x.base_input))
    fun _ => rfl

def SwapEventV2.borsh : Codec SwapEventV2 :=
  (pubkey.prod <| u64.prod <| u64.prod <| u64.prod <| u64.prod <| u64.prod <| u64.prod <|
    bool.prod <| pubkey.prod <| pubkey.prod <| u64.prod <| u64.prod bool).map
    (fun (a, b, c, d, e, f, g, h, i, j, k, l, m) => ⟨a, b, c, d, e, f, g, h, i, j, k, l, m⟩)
    (fun x => (x.pool_id, x.input_vault_before, x.output_vault_before, x.input_amount,
      x.output_amount, x.input_transfer_fee, x.output_transfer_fee, x.base_input, x.input_mint,
      x.output_mint, x.trade_fee, x.creator_fee, x.creator_fee_on_input))
    fun _ => rfl

theorem LpChangeEvent.fixedWidth_borsh : LpChangeEvent.borsh.FixedWidth 89 :=
  (fixedWidth_pubkey.prod <| fixedWidth_u64.prod <| fixedWidth_u64.prod <| fixedWidth_u64.prod <|
    fixedWidth_u64.prod <| fixedWidth_u64.prod <| fixedWidth_u64.prod <|
    fixedWidth_u64.prod fixedWidth_u8).map _ _ _

/-- A first-version swap is written in `SWAP_EVENT_V1_PAYLOAD_LEN` bytes. -/
theorem SwapEventV1.fixedWidth_borsh : SwapEventV1.borsh.FixedWidth SWAP_EVENT_V1_PAYLOAD_LEN :=
  (fixedWidth_pubkey.prod <| fixedWidth_u64.prod <| fixedWidth_u64.prod <| fixedWidth_u64.prod <|
    fixedWidth_u64.prod <| fixedWidth_u64.prod <| fixedWidth_u64.prod fixedWidth_bool).map _ _ _

/-- A second-version swap is written in `SWAP_EVENT_V2_PAYLOAD_LEN` bytes. -/
theorem SwapEventV2.fixedWidth_borsh : SwapEventV2.borsh.FixedWidth SWAP_EVENT_V2_PAYLOAD_LEN :=
  (fixedWidth_pubkey.prod <| fixedWidth_u64.prod <| fixedWidth_u64.prod <| fixedWidth_u64.prod <|
    fixedWidth_u64.prod <| fixedWidth_u64.prod <| fixedWidth_u64.prod <| fixedWidth_bool.prod <|
    fixedWidth_pubkey.prod <| fixedWidth_pubkey.prod <| fixedWidth_u64.prod <|
    fixedWidth_u64.prod fixedWidth_bool).map _ _ _

/-! ## The decoder -/

/-- The `match payload.len()` of the swap arm. -/
def decode_swap (payload : List UInt8) : Outcome ParseError RaydiumCpmmEvent := do
  if payload.length = SWAP_EVENT_V1_PAYLOAD_LEN then
    return .SwapEventV1 (← decode (SwapEventV1.borsh.try_from_slice payload))
  else if payload.length = SWAP_EVENT_V2_PAYLOAD_LEN then
    return .SwapEventV2 (← decode (SwapEventV2.borsh.try_from_slice payload))
  else
    return .Unknown

/-- The `match discriminator` of `try_from`. -/
def decode_payload (discriminator : List.Vector UInt8 8) (payload : List UInt8) :
    Outcome ParseError RaydiumCpmmEvent := do
  if discriminator = LP_CHANGE_EVENT then
    return .LpChangeEvent (← decode (LpChangeEvent.borsh.try_from_slice payload))
  else if discriminator = SWAP_EVENT then
    decode_swap payload
  else
    return .Unknown

/-- `RaydiumCpmmEvent::try_from`. -/
def try_from (data : List UInt8) : Outcome ParseError RaydiumCpmmEvent := do
  if data.length < 8 then
    .err (.TooShort data.length)
  else
    let (disc, payload) ← Slice.split_at data 8
    let discriminator ← Outcome.expect (Slice.try_into disc 8)
    decode_payload discriminator payload

/-- `unpack`, which forwards to `try_from`. -/
def unpack (data : List UInt8) : Outcome ParseError RaydiumCpmmEvent :=
  try_from data

/-- From 8 bytes on, the decoder dispatches on the first 8 with the rest as payload. -/
theorem try_from_split (disc : List.Vector UInt8 8) (payload : List UInt8) :
    try_from (disc.toList ++ payload) = decode_payload disc payload := by
  have hd : disc.toList.length = 8 := disc.toList_length
  have hlen : ¬(disc.toList ++ payload).length < 8 := by
    simp only [List.length_append, hd]
    omega
  simp only [try_from, if_neg hlen, Slice.split_at_append_of_length hd, Outcome.ok_bind,
    Slice.try_into_toList, Outcome.expect_some]

/-! ## The arms -/

theorem discriminators_ne : SWAP_EVENT ≠ LP_CHANGE_EVENT := by
  decide

theorem decode_payload_lp_change (payload : List UInt8) :
    decode_payload LP_CHANGE_EVENT payload =
      (do return .LpChangeEvent (← decode (LpChangeEvent.borsh.try_from_slice payload))) := by
  simp [decode_payload]

theorem decode_payload_swap (payload : List UInt8) :
    decode_payload SWAP_EVENT payload = decode_swap payload := by
  simp [decode_payload, discriminators_ne]

/-- The length of a first-version swap selects the first version. -/
theorem decode_swap_v1 (e : SwapEventV1) :
    decode_swap (SwapEventV1.borsh.write e) = .ok (.SwapEventV1 e) := by
  have hl : (SwapEventV1.borsh.write e).length = SWAP_EVENT_V1_PAYLOAD_LEN :=
    SwapEventV1.fixedWidth_borsh.length_write e
  simp only [decode_swap, hl, if_true]
  exact decode_arm_write _ _ (SwapEventV1.fixedWidth_borsh.fits e)

/-- The length of a second-version swap is not the first's, and selects the second version. -/
theorem decode_swap_v2 (e : SwapEventV2) :
    decode_swap (SwapEventV2.borsh.write e) = .ok (.SwapEventV2 e) := by
  have hl : (SwapEventV2.borsh.write e).length = SWAP_EVENT_V2_PAYLOAD_LEN :=
    SwapEventV2.fixedWidth_borsh.length_write e
  have h1 : SWAP_EVENT_V2_PAYLOAD_LEN ≠ SWAP_EVENT_V1_PAYLOAD_LEN := by decide
  simp only [decode_swap, hl, h1, if_true, if_false]
  exact decode_arm_write _ _ (SwapEventV2.fixedWidth_borsh.fits e)

/-! ## What the program emits, read back -/

/-- What the program emits for an event: its discriminator, then the Borsh encoding of its
fields. `Unknown` is no event of the program and has no encoding. -/
def RaydiumCpmmEvent.write : RaydiumCpmmEvent → List UInt8
  | .LpChangeEvent e => LP_CHANGE_EVENT.toList ++ LpChangeEvent.borsh.write e
  | .SwapEventV1 e => SWAP_EVENT.toList ++ SwapEventV1.borsh.write e
  | .SwapEventV2 e => SWAP_EVENT.toList ++ SwapEventV2.borsh.write e
  | .Unknown => []

/-- Every event of the program is read back as the variant that holds it. -/
theorem unpack_write (ev : RaydiumCpmmEvent) (h : ev ≠ .Unknown) : unpack ev.write = .ok ev := by
  rw [unpack]
  cases ev with
  | LpChangeEvent e =>
    rw [RaydiumCpmmEvent.write, try_from_split, decode_payload_lp_change,
      decode_arm_write _ _ (LpChangeEvent.fixedWidth_borsh.fits e)]
  | SwapEventV1 e => rw [RaydiumCpmmEvent.write, try_from_split, decode_payload_swap, decode_swap_v1]
  | SwapEventV2 e => rw [RaydiumCpmmEvent.write, try_from_split, decode_payload_swap, decode_swap_v2]
  | Unknown => exact absurd rfl h

end SolanaIdls.raydium.cpmm.events
