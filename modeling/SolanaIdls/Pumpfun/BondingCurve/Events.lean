import SolanaIdls.Common

/-!
# Pump.fun bonding-curve events

`pumpfun::bonding_curve::events::unpack` of `src/pumpfun/bonding_curve/events.rs`. The program
emits its events through a self-CPI, so an event arrives as 8 bytes of framing, the event's 8-byte
discriminator, and its Borsh payload. The decoder asks for 16 bytes, ignores the first 8,
dispatches on the next 8, and decodes the rest exactly. The trade event has grown over four
versions, which share one discriminator; its arm picks the version by the payload's length, among
`TRADE_LEN_V0` to `TRADE_LEN_V3`, and rejects any other length with `InvalidLength`.

The round trip rests on three facts: the header lemma `try_from_split` (the framing is never
read), one lemma per arm, and the widths of the four trade versions, which are the four
`TRADE_LEN`s (`TradeEventV0.fixedWidth_borsh` and its siblings), all distinct.
`unpack_write_all_versions` puts them together for every event and every framing.
-/

namespace SolanaIdls.pumpfun.bonding_curve.events

open Borsh Borsh.Codec

/-! ## Discriminators and payloads -/

def CREATE : List.Vector UInt8 8 := ⟨[27, 114, 169, 77, 222, 235, 99, 118], rfl⟩
def COMPLETE : List.Vector UInt8 8 := ⟨[95, 114, 97, 156, 212, 46, 152, 8], rfl⟩
def SET_PARAMS : List.Vector UInt8 8 := ⟨[223, 195, 159, 246, 62, 48, 143, 131], rfl⟩
def TRADE : List.Vector UInt8 8 := ⟨[189, 219, 127, 211, 78, 230, 97, 238], rfl⟩
def TRADE_LEN_V0 : ℕ := 121 - 16
def TRADE_LEN_V1 : ℕ := 137 - 16
def TRADE_LEN_V2 : ℕ := 233 - 16
def TRADE_LEN_V3 : ℕ := 266 - 16

set_option linter.dupNamespace false in
/-- `CreateEvent`, emitted when a bonding curve is created. -/
structure CreateEvent where
  name : String
  symbol : String
  uri : String
  mint : Pubkey
  bonding_curve : Pubkey
  user : Pubkey
  creator : Pubkey
  timestamp : Int64
  virtual_token_reserves : UInt64
  virtual_sol_reserves : UInt64
  real_token_reserves : UInt64
  token_total_supply : UInt64
  deriving DecidableEq

/-- `TradeEventV0`, the first layout of a trade. -/
structure TradeEventV0 where
  mint : Pubkey
  sol_amount : UInt64
  token_amount : UInt64
  is_buy : Bool
  user : Pubkey
  timestamp : Int64
  virtual_sol_reserves : UInt64
  virtual_token_reserves : UInt64
  deriving DecidableEq

/-- `TradeEventV1`: `TradeEventV0` and the real reserves. -/
structure TradeEventV1 where
  mint : Pubkey
  sol_amount : UInt64
  token_amount : UInt64
  is_buy : Bool
  user : Pubkey
  timestamp : Int64
  virtual_sol_reserves : UInt64
  virtual_token_reserves : UInt64
  real_sol_reserves : UInt64
  real_token_reserves : UInt64
  deriving DecidableEq

/-- `TradeEventV2`: `TradeEventV1` and the protocol and creator fees. -/
structure TradeEventV2 where
  mint : Pubkey
  sol_amount : UInt64
  token_amount : UInt64
  is_buy : Bool
  user : Pubkey
  timestamp : Int64
  virtual_sol_reserves : UInt64
  virtual_token_reserves : UInt64
  real_sol_reserves : UInt64
  real_token_reserves : UInt64
  fee_recipient : Pubkey
  fee_basis_points : UInt64
  fee : UInt64
  creator : Pubkey
  creator_fee_basis_points : UInt64
  creator_fee : UInt64
  deriving DecidableEq

/-- `TradeEventV3`: `TradeEventV2` and the volume tracking. -/
structure TradeEventV3 where
  mint : Pubkey
  sol_amount : UInt64
  token_amount : UInt64
  is_buy : Bool
  user : Pubkey
  timestamp : Int64
  virtual_sol_reserves : UInt64
  virtual_token_reserves : UInt64
  real_sol_reserves : UInt64
  real_token_reserves : UInt64
  fee_recipient : Pubkey
  fee_basis_points : UInt64
  fee : UInt64
  creator : Pubkey
  creator_fee_basis_points : UInt64
  creator_fee : UInt64
  track_volume : Bool
  total_unclaimed_tokens : UInt64
  total_claimed_tokens : UInt64
  current_sol_volume : UInt64
  last_update_timestamp : Int64
  deriving DecidableEq

/-- `SetParamsEvent`. -/
structure SetParamsEvent where
  fee_recipient : Pubkey
  initial_virtual_token_reserves : UInt64
  initial_virtual_sol_reserves : UInt64
  initial_real_token_reserves : UInt64
  token_total_supply : UInt64
  fee_basis_points : UInt64
  deriving DecidableEq

set_option linter.dupNamespace false in
/-- `CompleteEvent`. -/
structure CompleteEvent where
  user : Pubkey
  mint : Pubkey
  bonding_curve : Pubkey
  timestamp : Int64
  deriving DecidableEq

/-- `PumpFunEvent`. -/
inductive PumpFunEvent where
  | Create (e : CreateEvent)
  | TradeV0 (e : TradeEventV0)
  | TradeV1 (e : TradeEventV1)
  | TradeV2 (e : TradeEventV2)
  | TradeV3 (e : TradeEventV3)
  | Complete (e : CompleteEvent)
  | SetParams (e : SetParamsEvent)
  | Unknown
  deriving DecidableEq

/-! ## Derived Borsh codecs of the payloads -/

def CreateEvent.borsh : Codec CreateEvent :=
  (string.prod <| string.prod <| string.prod <| pubkey.prod <| pubkey.prod <| pubkey.prod <|
    pubkey.prod <| i64.prod <| u64.prod <| u64.prod <| u64.prod u64).map
    (fun (a, b, c, d, e, f, g, h, i, j, k, l) => ⟨a, b, c, d, e, f, g, h, i, j, k, l⟩)
    (fun x => (x.name, x.symbol, x.uri, x.mint, x.bonding_curve, x.user, x.creator, x.timestamp,
      x.virtual_token_reserves, x.virtual_sol_reserves, x.real_token_reserves,
      x.token_total_supply))
    fun _ => rfl

def TradeEventV0.borsh : Codec TradeEventV0 :=
  (pubkey.prod <| u64.prod <| u64.prod <| bool.prod <| pubkey.prod <| i64.prod <|
    u64.prod u64).map
    (fun (a, b, c, d, e, f, g, h) => ⟨a, b, c, d, e, f, g, h⟩)
    (fun x => (x.mint, x.sol_amount, x.token_amount, x.is_buy, x.user, x.timestamp,
      x.virtual_sol_reserves, x.virtual_token_reserves))
    fun _ => rfl

def TradeEventV1.borsh : Codec TradeEventV1 :=
  (pubkey.prod <| u64.prod <| u64.prod <| bool.prod <| pubkey.prod <| i64.prod <|
    u64.prod <| u64.prod <| u64.prod u64).map
    (fun (a, b, c, d, e, f, g, h, i, j) => ⟨a, b, c, d, e, f, g, h, i, j⟩)
    (fun x => (x.mint, x.sol_amount, x.token_amount, x.is_buy, x.user, x.timestamp,
      x.virtual_sol_reserves, x.virtual_token_reserves, x.real_sol_reserves,
      x.real_token_reserves))
    fun _ => rfl

def TradeEventV2.borsh : Codec TradeEventV2 :=
  (pubkey.prod <| u64.prod <| u64.prod <| bool.prod <| pubkey.prod <| i64.prod <|
    u64.prod <| u64.prod <| u64.prod <| u64.prod <| pubkey.prod <| u64.prod <| u64.prod <|
    pubkey.prod <| u64.prod u64).map
    (fun (a, b, c, d, e, f, g, h, i, j, k, l, m, n, o, p) =>
      ⟨a, b, c, d, e, f, g, h, i, j, k, l, m, n, o, p⟩)
    (fun x => (x.mint, x.sol_amount, x.token_amount, x.is_buy, x.user, x.timestamp,
      x.virtual_sol_reserves, x.virtual_token_reserves, x.real_sol_reserves,
      x.real_token_reserves, x.fee_recipient, x.fee_basis_points, x.fee, x.creator,
      x.creator_fee_basis_points, x.creator_fee))
    fun _ => rfl

def TradeEventV3.borsh : Codec TradeEventV3 :=
  (pubkey.prod <| u64.prod <| u64.prod <| bool.prod <| pubkey.prod <| i64.prod <|
    u64.prod <| u64.prod <| u64.prod <| u64.prod <| pubkey.prod <| u64.prod <| u64.prod <|
    pubkey.prod <| u64.prod <| u64.prod <| bool.prod <| u64.prod <| u64.prod <| u64.prod i64).map
    (fun (a, b, c, d, e, f, g, h, i, j, k, l, m, n, o, p, q, r, s, t, u) =>
      ⟨a, b, c, d, e, f, g, h, i, j, k, l, m, n, o, p, q, r, s, t, u⟩)
    (fun x => (x.mint, x.sol_amount, x.token_amount, x.is_buy, x.user, x.timestamp,
      x.virtual_sol_reserves, x.virtual_token_reserves, x.real_sol_reserves,
      x.real_token_reserves, x.fee_recipient, x.fee_basis_points, x.fee, x.creator,
      x.creator_fee_basis_points, x.creator_fee, x.track_volume, x.total_unclaimed_tokens,
      x.total_claimed_tokens, x.current_sol_volume, x.last_update_timestamp))
    fun _ => rfl

def SetParamsEvent.borsh : Codec SetParamsEvent :=
  (pubkey.prod <| u64.prod <| u64.prod <| u64.prod <| u64.prod u64).map
    (fun (a, b, c, d, e, f) => ⟨a, b, c, d, e, f⟩)
    (fun x => (x.fee_recipient, x.initial_virtual_token_reserves, x.initial_virtual_sol_reserves,
      x.initial_real_token_reserves, x.token_total_supply, x.fee_basis_points))
    fun _ => rfl

def CompleteEvent.borsh : Codec CompleteEvent :=
  (pubkey.prod <| pubkey.prod <| pubkey.prod i64).map
    (fun (a, b, c, d) => ⟨a, b, c, d⟩) (fun x => (x.user, x.mint, x.bonding_curve, x.timestamp))
    fun _ => rfl

/-! ### Widths

The four trade layouts are written in exactly their `TRADE_LEN`s; the widths follow the fields. -/

theorem TradeEventV0.fixedWidth_borsh : TradeEventV0.borsh.FixedWidth TRADE_LEN_V0 :=
  (fixedWidth_pubkey.prod <| fixedWidth_u64.prod <| fixedWidth_u64.prod <| fixedWidth_bool.prod <|
    fixedWidth_pubkey.prod <| fixedWidth_i64.prod <| fixedWidth_u64.prod fixedWidth_u64).map _ _ _

theorem TradeEventV1.fixedWidth_borsh : TradeEventV1.borsh.FixedWidth TRADE_LEN_V1 :=
  (fixedWidth_pubkey.prod <| fixedWidth_u64.prod <| fixedWidth_u64.prod <| fixedWidth_bool.prod <|
    fixedWidth_pubkey.prod <| fixedWidth_i64.prod <| fixedWidth_u64.prod <| fixedWidth_u64.prod <|
    fixedWidth_u64.prod fixedWidth_u64).map _ _ _

theorem TradeEventV2.fixedWidth_borsh : TradeEventV2.borsh.FixedWidth TRADE_LEN_V2 :=
  (fixedWidth_pubkey.prod <| fixedWidth_u64.prod <| fixedWidth_u64.prod <| fixedWidth_bool.prod <|
    fixedWidth_pubkey.prod <| fixedWidth_i64.prod <| fixedWidth_u64.prod <| fixedWidth_u64.prod <|
    fixedWidth_u64.prod <| fixedWidth_u64.prod <| fixedWidth_pubkey.prod <| fixedWidth_u64.prod <|
    fixedWidth_u64.prod <| fixedWidth_pubkey.prod <| fixedWidth_u64.prod fixedWidth_u64).map _ _ _

theorem TradeEventV3.fixedWidth_borsh : TradeEventV3.borsh.FixedWidth TRADE_LEN_V3 :=
  (fixedWidth_pubkey.prod <| fixedWidth_u64.prod <| fixedWidth_u64.prod <| fixedWidth_bool.prod <|
    fixedWidth_pubkey.prod <| fixedWidth_i64.prod <| fixedWidth_u64.prod <| fixedWidth_u64.prod <|
    fixedWidth_u64.prod <| fixedWidth_u64.prod <| fixedWidth_pubkey.prod <| fixedWidth_u64.prod <|
    fixedWidth_u64.prod <| fixedWidth_pubkey.prod <| fixedWidth_u64.prod <| fixedWidth_u64.prod <|
    fixedWidth_bool.prod <| fixedWidth_u64.prod <| fixedWidth_u64.prod <| fixedWidth_u64.prod
    fixedWidth_i64).map _ _ _

theorem SetParamsEvent.fixedWidth_borsh : SetParamsEvent.borsh.FixedWidth 72 :=
  (fixedWidth_pubkey.prod <| fixedWidth_u64.prod <| fixedWidth_u64.prod <| fixedWidth_u64.prod <|
    fixedWidth_u64.prod fixedWidth_u64).map _ _ _

theorem CompleteEvent.fixedWidth_borsh : CompleteEvent.borsh.FixedWidth 104 :=
  (fixedWidth_pubkey.prod <| fixedWidth_pubkey.prod <| fixedWidth_pubkey.prod fixedWidth_i64).map
    _ _ _

/-- The four trade lengths are distinct, so the length of a trade payload names its version. -/
theorem trade_lens_nodup : [TRADE_LEN_V0, TRADE_LEN_V1, TRADE_LEN_V2, TRADE_LEN_V3].Nodup := by
  decide

/-! ## The decoder -/

/-- The `match payload.len()` of the `TRADE` arm. The error's `expected` is the largest of the
four lengths, as `iter().max().unwrap()` computes it. -/
def decode_trade (payload : List UInt8) : Outcome ParseError PumpFunEvent := do
  if payload.length = TRADE_LEN_V0 then
    return .TradeV0 (← decode (TradeEventV0.borsh.try_from_slice payload))
  else if payload.length = TRADE_LEN_V1 then
    return .TradeV1 (← decode (TradeEventV1.borsh.try_from_slice payload))
  else if payload.length = TRADE_LEN_V2 then
    return .TradeV2 (← decode (TradeEventV2.borsh.try_from_slice payload))
  else if payload.length = TRADE_LEN_V3 then
    return .TradeV3 (← decode (TradeEventV3.borsh.try_from_slice payload))
  else
    let expected ← Outcome.expect [TRADE_LEN_V0, TRADE_LEN_V1, TRADE_LEN_V2, TRADE_LEN_V3].max?
    .err (.InvalidLength expected payload.length)

/-- The `match anchor_disc` of `try_from`, on the payload from byte 16. -/
def decode_payload (anchor_disc : List.Vector UInt8 8) (payload : List UInt8) :
    Outcome ParseError PumpFunEvent := do
  if anchor_disc = CREATE then
    return .Create (← decode (CreateEvent.borsh.try_from_slice payload))
  else if anchor_disc = COMPLETE then
    return .Complete (← decode (CompleteEvent.borsh.try_from_slice payload))
  else if anchor_disc = SET_PARAMS then
    return .SetParams (← decode (SetParamsEvent.borsh.try_from_slice payload))
  else if anchor_disc = TRADE then
    decode_trade payload
  else
    .err (.Unknown anchor_disc)

/-- `PumpFunEvent::try_from`. The first 8 bytes are bound to `_disc` and never read. -/
def try_from (data : List UInt8) : Outcome ParseError PumpFunEvent := do
  if data.length < 16 then
    .err (.TooShort data.length)
  else
    let _disc ← Outcome.expect (Slice.try_into (← Slice.range data 0 8) 8)
    let anchor_disc ← Outcome.expect (Slice.try_into (← Slice.range data 8 16) 8)
    let payload ← Slice.range_from data 16
    decode_payload anchor_disc payload

/-- `unpack`, which forwards to `try_from`. -/
def unpack (data : List UInt8) : Outcome ParseError PumpFunEvent :=
  try_from data

/-! ## The header -/

/-- Below 16 bytes the decoder rejects the input with its length. -/
theorem try_from_of_lt {data : List UInt8} (h : data.length < 16) :
    try_from data = .err (.TooShort data.length) := by
  simp [try_from, h]

/-- From 16 bytes on, the decoder dispatches on bytes 8 to 16 with the rest as payload, whatever
the first 8 bytes are. -/
theorem try_from_split (w anchor_disc : List.Vector UInt8 8) (payload : List UInt8) :
    try_from (w.toList ++ (anchor_disc.toList ++ payload)) = decode_payload anchor_disc payload := by
  have hw : w.toList.length = 8 := w.toList_length
  have hd : anchor_disc.toList.length = 8 := anchor_disc.toList_length
  have hlen : ¬(w.toList ++ (anchor_disc.toList ++ payload)).length < 16 := by
    simp only [List.length_append, hw, hd]
    omega
  simp only [try_from, if_neg hlen, Slice.range_zero_append hw, Outcome.ok_bind,
    Slice.try_into_toList, Outcome.expect_some,
    Slice.range_append hw (show 8 + anchor_disc.toList.length = 16 by omega),
    Slice.range_from_append_append (show w.toList.length + anchor_disc.toList.length = 16 by omega)]

/-- The four discriminators are distinct. -/
theorem discriminators_ne : CREATE ≠ COMPLETE ∧ CREATE ≠ SET_PARAMS ∧ CREATE ≠ TRADE ∧
    COMPLETE ≠ SET_PARAMS ∧ COMPLETE ≠ TRADE ∧ SET_PARAMS ≠ TRADE := by
  decide

theorem decode_payload_create (payload : List UInt8) :
    decode_payload CREATE payload =
      (do return .Create (← decode (CreateEvent.borsh.try_from_slice payload))) := by
  simp [decode_payload]

theorem decode_payload_complete (payload : List UInt8) :
    decode_payload COMPLETE payload =
      (do return .Complete (← decode (CompleteEvent.borsh.try_from_slice payload))) := by
  obtain ⟨h1, -⟩ := discriminators_ne
  simp [decode_payload, Ne.symm h1]

theorem decode_payload_set_params (payload : List UInt8) :
    decode_payload SET_PARAMS payload =
      (do return .SetParams (← decode (SetParamsEvent.borsh.try_from_slice payload))) := by
  obtain ⟨-, h2, -, h4, -⟩ := discriminators_ne
  simp [decode_payload, Ne.symm h2, Ne.symm h4]

theorem decode_payload_trade (payload : List UInt8) :
    decode_payload TRADE payload = decode_trade payload := by
  obtain ⟨-, -, h3, -, h5, h6⟩ := discriminators_ne
  simp [decode_payload, Ne.symm h3, Ne.symm h5, Ne.symm h6]

/-! ### The trade versions -/

theorem decode_trade_v0 (e : TradeEventV0) :
    decode_trade (TradeEventV0.borsh.write e) = .ok (.TradeV0 e) := by
  have hl : (TradeEventV0.borsh.write e).length = TRADE_LEN_V0 :=
    TradeEventV0.fixedWidth_borsh.length_write e
  simp only [decode_trade, hl, if_true]
  exact decode_arm_write _ _ (TradeEventV0.fixedWidth_borsh.fits e)

theorem decode_trade_v1 (e : TradeEventV1) :
    decode_trade (TradeEventV1.borsh.write e) = .ok (.TradeV1 e) := by
  have hl : (TradeEventV1.borsh.write e).length = TRADE_LEN_V1 :=
    TradeEventV1.fixedWidth_borsh.length_write e
  -- The length is not `TRADE_LEN_V0`.
  have h0 : TRADE_LEN_V1 ≠ TRADE_LEN_V0 := by decide
  simp only [decode_trade, hl, h0, if_true, if_false]
  exact decode_arm_write _ _ (TradeEventV1.fixedWidth_borsh.fits e)

theorem decode_trade_v2 (e : TradeEventV2) :
    decode_trade (TradeEventV2.borsh.write e) = .ok (.TradeV2 e) := by
  have hl : (TradeEventV2.borsh.write e).length = TRADE_LEN_V2 :=
    TradeEventV2.fixedWidth_borsh.length_write e
  have h0 : TRADE_LEN_V2 ≠ TRADE_LEN_V0 := by decide
  have h1 : TRADE_LEN_V2 ≠ TRADE_LEN_V1 := by decide
  simp only [decode_trade, hl, h0, h1, if_true, if_false]
  exact decode_arm_write _ _ (TradeEventV2.fixedWidth_borsh.fits e)

theorem decode_trade_v3 (e : TradeEventV3) :
    decode_trade (TradeEventV3.borsh.write e) = .ok (.TradeV3 e) := by
  have hl : (TradeEventV3.borsh.write e).length = TRADE_LEN_V3 :=
    TradeEventV3.fixedWidth_borsh.length_write e
  have h0 : TRADE_LEN_V3 ≠ TRADE_LEN_V0 := by decide
  have h1 : TRADE_LEN_V3 ≠ TRADE_LEN_V1 := by decide
  have h2 : TRADE_LEN_V3 ≠ TRADE_LEN_V2 := by decide
  simp only [decode_trade, hl, h0, h1, h2, if_true, if_false]
  exact decode_arm_write _ _ (TradeEventV3.fixedWidth_borsh.fits e)

/-- A trade payload of any other length is rejected with the largest length as the expected one. -/
theorem decode_trade_of_length {payload : List UInt8}
    (h : payload.length ∉ [TRADE_LEN_V0, TRADE_LEN_V1, TRADE_LEN_V2, TRADE_LEN_V3]) :
    decode_trade payload = .err (.InvalidLength TRADE_LEN_V3 payload.length) := by
  simp only [List.mem_cons, List.not_mem_nil, or_false, not_or] at h
  have hmax : [TRADE_LEN_V0, TRADE_LEN_V1, TRADE_LEN_V2, TRADE_LEN_V3].max? = some TRADE_LEN_V3 := by
    decide
  simp only [decode_trade, h.1, h.2.1, h.2.2.1, h.2.2.2, if_false, hmax, Outcome.expect_some,
    Outcome.ok_bind]

/-! ## What the program emits, read back -/

/-- What the program emits for an event after the framing: the discriminator, then the Borsh
encoding of the event's fields. `Unknown` is no event of the program and has no encoding. -/
def PumpFunEvent.write : PumpFunEvent → List UInt8
  | .Create e => CREATE.toList ++ CreateEvent.borsh.write e
  | .TradeV0 e => TRADE.toList ++ TradeEventV0.borsh.write e
  | .TradeV1 e => TRADE.toList ++ TradeEventV1.borsh.write e
  | .TradeV2 e => TRADE.toList ++ TradeEventV2.borsh.write e
  | .TradeV3 e => TRADE.toList ++ TradeEventV3.borsh.write e
  | .Complete e => COMPLETE.toList ++ CompleteEvent.borsh.write e
  | .SetParams e => SET_PARAMS.toList ++ SetParamsEvent.borsh.write e
  | .Unknown => []

/-- Whether the program can emit the event: not `Unknown`, and the strings of a `CreateEvent`
short enough for their `u32` lengths. -/
def PumpFunEvent.fits : PumpFunEvent → Bool
  | .Create e => CreateEvent.borsh.fits e
  | .Unknown => false
  | _ => true

/-- Every event the program can emit is read back, behind any 8 bytes of framing. -/
theorem unpack_framed_write (w : List.Vector UInt8 8) (ev : PumpFunEvent) (h : ev.fits = true) :
    unpack (w.toList ++ ev.write) = .ok ev := by
  rw [unpack]
  cases ev with
  | Create e =>
    rw [PumpFunEvent.write, try_from_split, decode_payload_create, decode_arm_write _ _ h]
  | TradeV0 e => rw [PumpFunEvent.write, try_from_split, decode_payload_trade, decode_trade_v0]
  | TradeV1 e => rw [PumpFunEvent.write, try_from_split, decode_payload_trade, decode_trade_v1]
  | TradeV2 e => rw [PumpFunEvent.write, try_from_split, decode_payload_trade, decode_trade_v2]
  | TradeV3 e => rw [PumpFunEvent.write, try_from_split, decode_payload_trade, decode_trade_v3]
  | Complete e =>
    rw [PumpFunEvent.write, try_from_split, decode_payload_complete,
      decode_arm_write _ _ (CompleteEvent.fixedWidth_borsh.fits e)]
  | SetParams e =>
    rw [PumpFunEvent.write, try_from_split, decode_payload_set_params,
      decode_arm_write _ _ (SetParamsEvent.fixedWidth_borsh.fits e)]
  | Unknown => simp [PumpFunEvent.fits] at h

/-- The round trip, the trade layouts' widths, and the rejection of every other trade length,
behind any 8 bytes of framing. -/
theorem unpack_write_all_versions (w : List.Vector UInt8 8) :
    (∀ ev : PumpFunEvent, ev.fits = true → unpack (w.toList ++ ev.write) = .ok ev) ∧
    ((∀ e, (TradeEventV0.borsh.write e).length = TRADE_LEN_V0) ∧
      (∀ e, (TradeEventV1.borsh.write e).length = TRADE_LEN_V1) ∧
      (∀ e, (TradeEventV2.borsh.write e).length = TRADE_LEN_V2) ∧
      (∀ e, (TradeEventV3.borsh.write e).length = TRADE_LEN_V3)) ∧
    [TRADE_LEN_V0, TRADE_LEN_V1, TRADE_LEN_V2, TRADE_LEN_V3].Nodup ∧
    ∀ payload : List UInt8,
      payload.length ∉ [TRADE_LEN_V0, TRADE_LEN_V1, TRADE_LEN_V2, TRADE_LEN_V3] →
      unpack (w.toList ++ (TRADE.toList ++ payload)) =
        .err (.InvalidLength TRADE_LEN_V3 payload.length) := by
  refine ⟨fun ev h => unpack_framed_write w ev h, ⟨?_, ?_, ?_, ?_⟩, trade_lens_nodup, ?_⟩
  · exact TradeEventV0.fixedWidth_borsh.length_write
  · exact TradeEventV1.fixedWidth_borsh.length_write
  · exact TradeEventV2.fixedWidth_borsh.length_write
  · exact TradeEventV3.fixedWidth_borsh.length_write
  · intro payload h
    rw [unpack, try_from_split, decode_payload_trade, decode_trade_of_length h]

theorem unpack_write_all_versions_at_zero :
    unpack ((List.Vector.replicate 8 0).toList ++
        (PumpFunEvent.TradeV0
          ⟨.replicate 32 1, 500, 1000, true, .replicate 32 2, 7, 30, 1073⟩).write) =
      .ok (.TradeV0 ⟨.replicate 32 1, 500, 1000, true, .replicate 32 2, 7, 30, 1073⟩) ∧
    unpack ((List.Vector.replicate 8 0).toList ++ (TRADE.toList ++ [])) =
      .err (.InvalidLength TRADE_LEN_V3 0) :=
  ⟨(unpack_write_all_versions _).1 _ rfl, (unpack_write_all_versions _).2.2.2 [] (by decide)⟩

end SolanaIdls.pumpfun.bonding_curve.events
