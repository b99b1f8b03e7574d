import SolanaIdls.Common

/-!
# Raydium Launchpad CPI events

`raydium::launchpad::anchor_cpi_event::unpack` of `src/raydium/launchpad/anchor_cpi_event.rs`.
An event comes either bare, as its discriminator and its Borsh payload, or behind Anchor's
`ANCHOR_DISC`; the decoder separates the discriminator from the payload with the shared header
`anchor_cpi_split` and dispatches on the discriminator. The trade event has two layouts under one
discriminator, told apart by the payload's length, `TRADE_EVENT_LEN_V1` or `TRADE_EVENT_LEN_V2`;
any other length is rejected with `InvalidLength`.

The pool-creation event carries three strings, a curve that is one of three variants, and two
fieldless enums; its codec is assembled from the enum and string codecs of `Borsh.Compound`, so
that its round trip needs no proof of its own. `unpack_write_every_event` says that every event is
read back from its discriminator and payload, and that the two trade lengths are the widths of the
two trade layouts.
-/

namespace SolanaIdls.raydium.launchpad.anchor_cpi_event

open Borsh Borsh.Codec

/-! ## Discriminators and payloads -/

def CLAIM_VESTED_EVENT : List.Vector UInt8 8 := ⟨[21, 194, 114, 87, 120, 211, 226, 32], rfl⟩
def CREATE_VESTING_EVENT : List.Vector UInt8 8 := ⟨[201, 216, 28, 169, 227, 76, 208, 95], rfl⟩
def POOL_CREATE_EVENT : List.Vector UInt8 8 := ⟨[35, 19, 27, 213, 21, 36, 194, 123], rfl⟩
def TRADE_EVENT : List.Vector UInt8 8 := ⟨[189, 219, 127, 211, 78, 230, 97, 238], by decide⟩
def TRADE_EVENT_LEN_V1 : ℕ := 139
def TRADE_EVENT_LEN_V2 : ℕ := 130

/-- `ClaimVestedEvent`. -/
structure ClaimVestedEvent where
  pool_state : Pubkey
  beneficiary : Pubkey
  claim_amount : UInt64
  deriving DecidableEq

/-- `CreateVestingEvent`. -/
structure CreateVestingEvent where
  pool_state : Pubkey
  beneficiary : Pubkey
  share_amount : UInt64
  deriving DecidableEq

/-- `MintParams`. -/
structure MintParams where
  decimals : UInt8
  name : String
  symbol : String
  uri : String
  deriving DecidableEq

/-- `ConstantCurve`. -/
structure ConstantCurve where
  supply : UInt64
  total_base_sell : UInt64
  total_quote_fund_raising : UInt64
  migrate_type : UInt8
  deriving DecidableEq

/-- `FixedCurve`. -/
structure FixedCurve where
  supply : UInt64
  total_quote_fund_raising : UInt64
  migrate_type : UInt8
  deriving DecidableEq

/-- `LinearCurve`. -/
structure LinearCurve where
  supply : UInt64
  total_quote_fund_raising : UInt64
  migrate_type : UInt8
  deriving DecidableEq

/-- `CurveParams`. -/
inductive CurveParams where
  | Constant (data : ConstantCurve)
  | Fixed (data : FixedCurve)
  | Linear (data : LinearCurve)
  deriving DecidableEq

/-- `VestingParams`. -/
structure VestingParams where
  total_locked_amount : UInt64
  cliff_period : UInt64
  unlock_period : UInt64
  deriving DecidableEq

/-- `AmmCreatorFeeOn`. -/
inductive AmmCreatorFeeOn where
  | QuoteToken
  | BothToken
  deriving DecidableEq

/-- `TradeDirection`. -/
inductive TradeDirection where
  | Buy
  | Sell
  deriving DecidableEq

/-- `PoolStatus`. -/
inductive PoolStatus where
  | Fund
  | Migrate
  | Trade
  deriving DecidableEq

/-- `PoolCreateEvent`. -/
structure PoolCreateEvent where
  pool_state : Pubkey
  creator : Pubkey
  config : Pubkey
  base_mint_param : MintParams
  curve_param : CurveParams
  vesting_param : VestingParams
  amm_fee_on : AmmCreatorFeeOn
  deriving DecidableEq

/-- `TradeEventV1`, the legacy layout of a trade. -/
structure TradeEventV1 where
  pool_state : Pubkey
  total_base_sell : UInt64
  virtual_base : UInt64
  virtual_quote : UInt64
  real_base_before : UInt64
  real_quote_before : UInt64
  real_base_after : UInt64
  real_quote_after : UInt64
  amount_in : UInt64
  amount_out : UInt64
  protocol_fee : UInt64
  platform_fee : UInt64
  creator_fee : UInt64
  share_fee : UInt64
  trade_direction : TradeDirection
  pool_status : PoolStatus
  exact_in : Bool
  deriving DecidableEq

/-- `TradeEventV2`, the current layout of a trade: no creator fee and no `exact_in`. -/
structure TradeEventV2 where
  pool_state : Pubkey
  total_base_sell : UInt64
  virtual_base : UInt64
  virtual_quote : UInt64
  real_base_before : UInt64
  real_quote_before : UInt64
  real_base_after : UInt64
  real_quote_after : UInt64
  amount_in : UInt64
  amount_out : UInt64
  protocol_fee : UInt64
  platform_fee : UInt64
  share_fee : UInt64
  trade_direction : TradeDirection
  pool_status : PoolStatus
  deriving DecidableEq

/-- `RaydiumLaunchpadAnchorCpiEvent`. -/
inductive RaydiumLaunchpadAnchorCpiEvent where
  | ClaimVestedEvent (e : ClaimVestedEvent)
  | CreateVestingEvent (e : CreateVestingEvent)
  | PoolCreateEvent (e : PoolCreateEvent)
  | TradeEventV1 (e : TradeEventV1)
  | TradeEventV2 (e : TradeEventV2)
  | Unknown
  deriving DecidableEq

/-! ## Derived Borsh codecs -/

def ClaimVestedEvent.borsh : Codec ClaimVestedEvent :=
  (pubkey.prod <| pubkey.prod u64).map (fun (a, b, c) => ⟨a, b, c⟩)
    (fun x => (x.pool_state, x.beneficiary, x.claim_amount)) fun _ => rfl

def CreateVestingEvent.borsh : Codec CreateVestingEvent :=
  (pubkey.prod <| pubkey.prod u64).map (fun (a, b, c) => ⟨a, b, c⟩)
    (fun x => (x.pool_state, x.beneficiary, x.share_amount)) fun _ => rfl

def MintParams.borsh : Codec MintParams :=
  (u8.prod <| string.prod <| string.prod string).map (fun (a, b, c, d) => ⟨a, b, c, d⟩)
    (fun x => (x.decimals, x.name, x.symbol, x.uri)) fun _ => rfl

def ConstantCurve.borsh : Codec ConstantCurve :=
  (u64.prod <| u64.prod <| u64.prod u8).map (fun (a, b, c, d) => ⟨a, b, c, d⟩)
    (fun x => (x.supply, x.total_base_sell, x.total_quote_fund_raising, x.migrate_type)) fun _ => rfl

def FixedCurve.borsh : Codec FixedCurve :=
  (u64.prod <| u64.prod u8).map (fun (a, b, c) => ⟨a, b, c⟩)
    (fun x => (x.supply, x.total_quote_fund_raising, x.migrate_type)) fun _ => rfl

def LinearCurve.borsh : Codec LinearCurve :=
  (u64.prod <| u64.prod u8).map (fun (a, b, c) => ⟨a, b, c⟩)
    (fun x => (x.supply, x.total_quote_fund_raising, x.migrate_type)) fun _ => rfl

/-- `CurveParams`: index 0, 1 or 2, then the curve's fields. -/
def CurveParams.borsh : Codec CurveParams :=
  enum
    (fun | .Constant _ => 0 | .Fixed _ => 1 | .Linear _ => 2)
    (fun
      | .Constant d => ConstantCurve.borsh.write d
      | .Fixed d => FixedCurve.borsh.write d
      | .Linear d => LinearCurve.borsh.write d)
    (fun
      | .Constant d => ConstantCurve.borsh.fits d
      | .Fixed d => FixedCurve.borsh.fits d
      | .Linear d => LinearCurve.borsh.fits d)
    (fun t =>
      if t = 0 then some (ConstantCurve.borsh.readAs .Constant)
      else if t = 1 then some (FixedCurve.borsh.readAs .Fixed)
      else if t = 2 then some (LinearCurve.borsh.readAs .Linear)
      else none)
    (by
      rintro (d | d | d) h
      · exact ⟨_, rfl, ConstantCurve.borsh.readAs_write _ h⟩
      · exact ⟨_, rfl, FixedCurve.borsh.readAs_write _ h⟩
      · exact ⟨_, rfl, LinearCurve.borsh.readAs_write _ h⟩)

def VestingParams.borsh : Codec VestingParams :=
  (u64.prod <| u64.prod u64).map (fun (a, b, c) => ⟨a, b, c⟩)
    (fun x => (x.total_locked_amount, x.cliff_period, x.unlock_period)) fun _ => rfl

def AmmCreatorFeeOn.borsh : Codec AmmCreatorFeeOn :=
  unitEnum (fun | .QuoteToken => 0 | .BothToken => 1)
    (fun t => if t = 0 then some .QuoteToken else if t = 1 then some .BothToken else none)
    (by rintro (_ | _) <;> rfl)

def TradeDirection.borsh : Codec TradeDirection :=
  unitEnum (fun | .Buy => 0 | .Sell => 1)
    (fun t => if t = 0 then some .Buy else if t = 1 then some .Sell else none)
    (by rintro (_ | _) <;> rfl)

def PoolStatus.borsh : Codec PoolStatus :=
  unitEnum (fun | .Fund => 0 | .Migrate => 1 | .Trade => 2)
    (fun t => if t = 0 then some .Fund else if t = 1 then some .Migrate
      else if t = 2 then some .Trade else none)
    (by rintro (_ | _ | _) <;> rfl)

def PoolCreateEvent.borsh : Codec PoolCreateEvent :=
  (pubkey.prod <| pubkey.prod <| pubkey.prod <| MintParams.borsh.prod <| CurveParams.borsh.prod <|
    VestingParams.borsh.prod AmmCreatorFeeOn.borsh).map
    (fun (a, b, c, d, e, f, g) => ⟨a, b, c, d, e, f, g⟩)
    (fun x => (x.pool_state, x.creator, x.config, x.base_mint_param, x.curve_param,
      x.vesting_param, x.amm_fee_on))
    fun _ => rfl

def TradeEventV1.borsh : Codec TradeEventV1 :=
  (pubkey.prod <| u64.prod <| u64.prod <| u64.prod <| u64.prod <| u64.prod <| u64.prod <|
    u64.prod <| u64.prod <| u64.prod <| u64.prod <| u64.prod <| u64.prod <| u64.prod <|
    TradeDirection.borsh.prod <| PoolStatus.borsh.prod bool).map
    (fun (a, b, c, d, e, f, g, h, i, j, k, l, m, n, o, p, q) =>
      ⟨a, b, c, d, e, f, g, h, i, j, k, l, m, n, o, p, q⟩)
    (fun x => (x.pool_state, x.total_base_sell, x.virtual_base, x.virtual_quote,
      x.real_base_before, x.real_quote_before, x.real_base_after, x.real_quote_after, x.amount_in,
      x.amount_out, x.protocol_fee, x.platform_fee, x.creator_fee, x.share_fee, x.trade_direction,
      x.pool_status, x.exact_in))
    fun _ => rfl

def TradeEventV2.borsh : Codec TradeEventV2 :=
  (pubkey.prod <| u64.prod <| u64.prod <| u64.prod <| u64.prod <| u64.prod <| u64.prod <|
    u64.prod <| u64.prod <| u64.prod <| u64.prod <| u64.prod <| u64.prod <|
    TradeDirection.borsh.prod PoolStatus.borsh).map
    (fun (a, b, c, d, e, f, g, h, i, j, k, l, m, n, o) =>
      ⟨a, b, c, d, e, f, g, h, i, j, k, l, m, n, o⟩)
    (fun x => (x.pool_state, x.total_base_sell, x.virtual_base, x.virtual_quote,
      x.real_base_before, x.real_quote_before, x.real_base_after, x.real_quote_after, x.amount_in,
      x.amount_out, x.protocol_fee, x.platform_fee, x.share_fee, x.trade_direction,
      x.pool_status))
    fun _ => rfl

/-! ### Widths -/

theorem ClaimVestedEvent.fixedWidth_borsh : ClaimVestedEvent.borsh.FixedWidth 72 :=
  (fixedWidth_pubkey.prod <| fixedWidth_pubkey.prod fixedWidth_u64).map _ _ _

theorem CreateVestingEvent.fixedWidth_borsh : CreateVestingEvent.borsh.FixedWidth 72 :=
  (fixedWidth_pubkey.prod <| fixedWidth_pubkey.prod fixedWidth_u64).map _ _ _

theorem TradeDirection.fixedWidth_borsh : TradeDirection.borsh.FixedWidth 1 :=
  fixedWidth_unitEnum _ _ _

theorem PoolStatus.fixedWidth_borsh : PoolStatus.borsh.FixedWidth 1 :=
  fixedWidth_unitEnum _ _ _

/-- The legacy trade is written in `TRADE_EVENT_LEN_V1` bytes. -/
theorem TradeEventV1.fixedWidth_borsh : TradeEventV1.borsh.FixedWidth TRADE_EVENT_LEN_V1 :=
  (fixedWidth_pubkey.prod <| fixedWidth_u64.prod <| fixedWidth_u64.prod <| fixedWidth_u64.prod <|
    fixedWidth_u64.prod <| fixedWidth_u64.prod <| fixedWidth_u64.prod <| fixedWidth_u64.prod <|
    fixedWidth_u64.prod <| fixedWidth_u64.prod <| fixedWidth_u64.prod <| fixedWidth_u64.prod <|
    fixedWidth_u64.prod <| fixedWidth_u64.prod <| TradeDirection.fixedWidth_borsh.prod <|
    PoolStatus.fixedWidth_borsh.prod fixedWidth_bool).map _ _ _

/-- The current trade is written in `TRADE_EVENT_LEN_V2` bytes. -/
theorem TradeEventV2.fixedWidth_borsh : TradeEventV2.borsh.FixedWidth TRADE_EVENT_LEN_V2 :=
  (fixedWidth_pubkey.prod <| fixedWidth_u64.prod <| fixedWidth_u64.prod <| fixedWidth_u64.prod <|
    fixedWidth_u64.prod <| fixedWidth_u64.prod <| fixedWidth_u64.prod <| fixedWidth_u64.prod <|
    fixedWidth_u64.prod <| fixedWidth_u64.prod <| fixedWidth_u64.prod <| fixedWidth_u64.prod <|
    fixedWidth_u64.prod <| TradeDirection.fixedWidth_borsh.prod
    PoolStatus.fixedWidth_borsh).map _ _ _

/-! ## The decoder -/

/-- The `match payload.len()` of the `TRADE_EVENT` arm. -/
def decode_trade (payload : List UInt8) : Outcome ParseError RaydiumLaunchpadAnchorCpiEvent := do
  if payload.length = TRADE_EVENT_LEN_V1 then
    return .TradeEventV1 (← decode (TradeEventV1.borsh.try_from_slice payload))
  else if payload.length = TRADE_EVENT_LEN_V2 then
    return .TradeEventV2 (← decode (TradeEventV2.borsh.try_from_slice payload))
  else
    .err (.InvalidLength (max TRADE_EVENT_LEN_V1 TRADE_EVENT_LEN_V2) payload.length)

/-- The `match disc` of `try_from`. -/
def decode_payload (disc : List.Vector UInt8 8) (payload : List UInt8) :
    Outcome ParseError RaydiumLaunchpadAnchorCpiEvent := do
  if disc = CLAIM_VESTED_EVENT then
    return .ClaimVestedEvent (← decode (ClaimVestedEvent.borsh.try_from_slice payload))
  else if disc = CREATE_VESTING_EVENT then
    return .CreateVestingEvent (← decode (CreateVestingEvent.borsh.try_from_slice payload))
  else if disc = POOL_CREATE_EVENT then
    return .PoolCreateEvent (← decode (PoolCreateEvent.borsh.try_from_slice payload))
  else if disc = TRADE_EVENT then
    decode_trade payload
  else
    .err (.Unknown disc)

/-- `RaydiumLaunchpadAnchorCpiEvent::try_from`: the header shared with the other decoders that
accept both framings, then the dispatch. -/
def try_from (data : List UInt8) : Outcome ParseError RaydiumLaunchpadAnchorCpiEvent := do
  let (disc, payload) ← anchor_cpi_split data
  decode_payload disc payload

/-- `unpack`, which forwards to `try_from`. -/
def unpack (data : List UInt8) : Outcome ParseError RaydiumLaunchpadAnchorCpiEvent :=
  try_from data

/-! ## The two framings -/

/-- A bare event is dispatched on its first 8 bytes. -/
theorem try_from_bare {disc : List.Vector UInt8 8} (hne : disc ≠ ANCHOR_DISC)
    (payload : List UInt8) : try_from (disc.toList ++ payload) = decode_payload disc payload := by
  rw [try_from, anchor_cpi_split_bare disc payload hne]
  rfl

/-- Wrapping an input that does not itself start with `ANCHOR_DISC` changes nothing. -/
theorem unpack_wrap (p : List UInt8) (hp : 8 ≤ p.length) (hne : p.take 8 ≠ ANCHOR_DISC.toList) :
    unpack (ANCHOR_DISC.toList ++ p) = unpack p := by
  rw [unpack, unpack, try_from, try_from, anchor_cpi_split_wrap p hp hne]

/-! ## The arms -/

/-- The four discriminators are distinct, and none is `ANCHOR_DISC`. -/
theorem discriminators_ne :
    CLAIM_VESTED_EVENT ≠ CREATE_VESTING_EVENT ∧ CLAIM_VESTED_EVENT ≠ POOL_CREATE_EVENT ∧
      CLAIM_VESTED_EVENT ≠ TRADE_EVENT ∧ CREATE_VESTING_EVENT ≠ POOL_CREATE_EVENT ∧
      CREATE_VESTING_EVENT ≠ TRADE_EVENT ∧ POOL_CREATE_EVENT ≠ TRADE_EVENT := by
  decide

theorem discriminators_ne_anchor :
    CLAIM_VESTED_EVENT ≠ ANCHOR_DISC ∧ CREATE_VESTING_EVENT ≠ ANCHOR_DISC ∧
      POOL_CREATE_EVENT ≠ ANCHOR_DISC ∧ TRADE_EVENT ≠ ANCHOR_DISC := by
  decide

theorem decode_payload_claim_vested (payload : List UInt8) :
    decode_payload CLAIM_VESTED_EVENT payload =
      (do return .ClaimVestedEvent (← decode (ClaimVestedEvent.borsh.try_from_slice payload))) := by
  simp [decode_payload]

theorem decode_payload_create_vesting (payload : List UInt8) :
    decode_payload CREATE_VESTING_EVENT payload =
      (do return .CreateVestingEvent (← decode (CreateVestingEvent.borsh.try_from_slice payload))) := by
  obtain ⟨h1, -⟩ := discriminators_ne
  simp [decode_payload, Ne.symm h1]

theorem decode_payload_pool_create (payload : List UInt8) :
    decode_payload POOL_CREATE_EVENT payload =
      (do return .PoolCreateEvent (← decode (PoolCreateEvent.borsh.try_from_slice payload))) := by
  obtain ⟨-, h2, -, h4, -⟩ := discriminators_ne
  simp [decode_payload, Ne.symm h2, Ne.symm h4]

theorem decode_payload_trade (payload : List UInt8) :
    decode_payload TRADE_EVENT payload = decode_trade payload := by
  obtain ⟨-, -, h3, -, h5, h6⟩ := discriminators_ne
  simp [decode_payload, Ne.symm h3, Ne.symm h5, Ne.symm h6]

theorem decode_trade_v1 (e : TradeEventV1) :
    decode_trade (TradeEventV1.borsh.write e) = .ok (.TradeEventV1 e) := by
  have hl : (TradeEventV1.borsh.write e).length = TRADE_EVENT_LEN_V1 :=
    TradeEventV1.fixedWidth_borsh.length_write e
  rw [decode_trade, if_pos hl, decode_arm_write _ _ (TradeEventV1.fixedWidth_borsh.fits e)]

theorem decode_trade_v2 (e : TradeEventV2) :
    decode_trade (TradeEventV2.borsh.write e) = .ok (.TradeEventV2 e) := by
  have hl : (TradeEventV2.borsh.write e).length = TRADE_EVENT_LEN_V2 :=
    TradeEventV2.fixedWidth_borsh.length_write e
  -- The current layout is shorter than the legacy one, so the first test fails.
  have h1 : ¬(TradeEventV2.borsh.write e).length = TRADE_EVENT_LEN_V1 := by
    rw [hl]
    decide
  rw [decode_trade, if_neg h1, if_pos hl,
    decode_arm_write _ _ (TradeEventV2.fixedWidth_borsh.fits e)]

/-! ## What the program emits, read back -/

/-- What the program emits for an event: its discriminator, then the Borsh encoding of its
fields. `Unknown` is no event of the program and has no encoding. -/
def RaydiumLaunchpadAnchorCpiEvent.write : RaydiumLaunchpadAnchorCpiEvent → List UInt8
  | .ClaimVestedEvent e => CLAIM_VESTED_EVENT.toList ++ ClaimVestedEvent.borsh.write e
  | .CreateVestingEvent e => CREATE_VESTING_EVENT.toList ++ CreateVestingEvent.borsh.write e
  | .PoolCreateEvent e => POOL_CREATE_EVENT.toList ++ PoolCreateEvent.borsh.write e
  | .TradeEventV1 e => TRADE_EVENT.toList ++ TradeEventV1.borsh.write e
  | .TradeEventV2 e => TRADE_EVENT.toList ++ TradeEventV2.borsh.write e
  | .Unknown => []

/-- Whether an event can be written: the strings of a pool creation fit their `u32` length
prefixes, and `Unknown` is no event. -/
def RaydiumLaunchpadAnchorCpiEvent.fits : RaydiumLaunchpadAnchorCpiEvent → Bool
  | .PoolCreateEvent e => PoolCreateEvent.borsh.fits e
  | .Unknown => false
  | _ => true

/-- Every event the program can emit is read back from its discriminator and payload. -/
theorem unpack_write (ev : RaydiumLaunchpadAnchorCpiEvent) (h : ev.fits = true) :
    unpack ev.write = .ok ev := by
  obtain ⟨hc, hv, hp, ht⟩ := discriminators_ne_anchor
  rw [unpack]
  cases ev with
  | ClaimVestedEvent e =>
    rw [RaydiumLaunchpadAnchorCpiEvent.write, try_from_bare hc, decode_payload_claim_vested,
      decode_arm_write _ _ (ClaimVestedEvent.fixedWidth_borsh.fits e)]
  | CreateVestingEvent e =>
    rw [RaydiumLaunchpadAnchorCpiEvent.write, try_from_bare hv, decode_payload_create_vesting,
      decode_arm_write _ _ (CreateVestingEvent.fixedWidth_borsh.fits e)]
  | PoolCreateEvent e =>
    rw [RaydiumLaunchpadAnchorCpiEvent.write, try_from_bare hp, decode_payload_pool_create,
      decode_arm_write _ _ h]
  | TradeEventV1 e =>
    rw [RaydiumLaunchpadAnchorCpiEvent.write, try_from_bare ht, decode_payload_trade,
      decode_trade_v1]
  | TradeEventV2 e =>
    rw [RaydiumLaunchpadAnchorCpiEvent.write, try_from_bare ht, decode_payload_trade,
      decode_trade_v2]
  | Unknown => simp [RaydiumLaunchpadAnchorCpiEvent.fits] at h

/-- Every event the program can emit is read back, bare, and the two trade lengths are the widths
of the two trade layouts. -/
theorem unpack_write_every_event :
    (∀ ev : RaydiumLaunchpadAnchorCpiEvent, ev.fits = true → unpack ev.write = .ok ev) ∧
    (∀ e, (TradeEventV1.borsh.write e).length = TRADE_EVENT_LEN_V1) ∧
    (∀ e, (TradeEventV2.borsh.write e).length = TRADE_EVENT_LEN_V2) :=
  ⟨unpack_write, TradeEventV1.fixedWidth_borsh.length_write,
    TradeEventV2.fixedWidth_borsh.length_write⟩

theorem unpack_write_every_event_on_claim_vested :
    unpack (RaydiumLaunchpadAnchorCpiEvent.ClaimVestedEvent
        ⟨.replicate 32 0, .replicate 32 0, 0⟩).write =
      .ok (.ClaimVestedEvent ⟨.replicate 32 0, .replicate 32 0, 0⟩) :=
  unpack_write_every_event.1 _ rfl

end SolanaIdls.raydium.launchpad.anchor_cpi_event
