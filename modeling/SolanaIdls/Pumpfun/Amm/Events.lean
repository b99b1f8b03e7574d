import SolanaIdls.Common

/-!
# Pump.fun AMM events

`pumpfun::amm::events::unpack` of `src/pumpfun/amm/events.rs`. An event of the Pump.fun AMM
arrives behind its self-CPI tag `PUMP_EVENT`: the tag, the event's 8-byte discriminator, and its
Borsh payload. The decoder asks for 16 bytes, rejects a first word other than `PUMP_EVENT`, and
dispatches on the second.

`PumpFunAmmEvent` has a V1 and a V2 form of the buy, sell and pool-creation events, and the
program gives both forms one discriminator. The decoder reads every buy, sell and pool creation
as its V2 form, which is longer than the V1 form, so a V1 event is rejected whatever its fields
(`unpack_buy_v1_rejected` and its two siblings, from the widths). Every other event is read back
(`unpack_write_of_decoded`); `unpack_write_eq_ok_iff` says exactly which events are.
-/

namespace SolanaIdls.pumpfun.amm.events

open Borsh Borsh.Codec

/-! ## Discriminators and payloads -/

def PUMP_EVENT : List.Vector UInt8 8 := ⟨[0xe4, 0x45, 0xa5, 0x2e, 0x51, 0xcb, 0x9a, 0x1d], by decide⟩
def BUY_EVENT : List.Vector UInt8 8 := ⟨[103, 244, 82, 31, 44, 245, 119, 119], rfl⟩
def CREATE_CONFIG_EVENT : List.Vector UInt8 8 := ⟨[107, 52, 89, 129, 55, 226, 81, 22], rfl⟩
def CREATE_POOL_EVENT : List.Vector UInt8 8 := ⟨[177, 49, 12, 210, 160, 118, 167, 116], rfl⟩
def DEPOSIT_EVENT : List.Vector UInt8 8 := ⟨[120, 248, 61, 83, 31, 142, 107, 144], rfl⟩
def DISABLE_EVENT : List.Vector UInt8 8 := ⟨[107, 253, 193, 76, 228, 202, 27, 104], rfl⟩
def EXTEND_ACCOUNT_EVENT : List.Vector UInt8 8 := ⟨[97, 97, 215, 144, 93, 146, 22, 124], rfl⟩
def SELL_EVENT : List.Vector UInt8 8 := ⟨[62, 47, 55, 10, 165, 3, 220, 42], rfl⟩
def UPDATE_ADMIN_EVENT : List.Vector UInt8 8 := ⟨[225, 152, 171, 87, 246, 63, 66, 234], rfl⟩
def UPDATE_FEE_CONFIG_EVENT : List.Vector UInt8 8 := ⟨[90, 23, 65, 35, 62, 244, 188, 208], rfl⟩
def WITHDRAW_EVENT : List.Vector UInt8 8 := ⟨[22, 9, 133, 26, 160, 44, 71, 192], rfl⟩

/-- `BuyEventV1`. -/
structure BuyEventV1 where
  timestamp : Int64
  base_amount_out : UInt64
  max_quote_amount_in : UInt64
  user_base_token_reserves : UInt64
  user_quote_token_reserves : UInt64
  pool_base_token_reserves : UInt64
  pool_quote_token_reserves : UInt64
  quote_amount_in : UInt64
  lp_fee_basis_points : UInt64
  lp_fee : UInt64
  protocol_fee_basis_points : UInt64
  protocol_fee : UInt64
  quote_amount_in_with_lp_fee : UInt64
  user_quote_amount_in : UInt64
  pool : Pubkey
  user : Pubkey
  user_base_token_account : Pubkey
  user_quote_token_account : Pubkey
  protocol_fee_recipient : Pubkey
  protocol_fee_recipient_token_account : Pubkey
  deriving DecidableEq

/-- `BuyEventV2`: `BuyEventV1` and the coin creator's fee. -/
structure BuyEventV2 where
  timestamp : Int64
  base_amount_out : UInt64
  max_quote_amount_in : UInt64
  user_base_token_reserves : UInt64
  user_quote_token_reserves : UInt64
  pool_base_token_reserves : UInt64
  pool_quote_token_reserves : UInt64
  quote_amount_in : UInt64
  lp_fee_basis_points : UInt64
  lp_fee : UInt64
  protocol_fee_basis_points : UInt64
  protocol_fee : UInt64
  quote_amount_in_with_lp_fee : UInt64
  user_quote_amount_in : UInt64
  pool : Pubkey
  user : Pubkey
  user_base_token_account : Pubkey
  user_quote_token_account : Pubkey
  protocol_fee_recipient : Pubkey
  protocol_fee_recipient_token_account : Pubkey
  coin_creator : Pubkey
  coin_creator_fee_basis_points : UInt64
  coin_creator_fee : UInt64
  deriving DecidableEq

/-- `SellEventV1`. -/
structure SellEventV1 where
  timestamp : Int64
  base_amount_in : UInt64
  min_quote_amount_out : UInt64
  user_base_token_reserves : UInt64
  user_quote_token_reserves : UInt64
  pool_base_token_reserves : UInt64
  pool_quote_token_reserves : UInt64
  quote_amount_out : UInt64
  lp_fee_basis_points : UInt64
  lp_fee : UInt64
  protocol_fee_basis_points : UInt64
  protocol_fee : UInt64
  quote_amount_out_without_lp_fee : UInt64
  user_quote_amount_out : UInt64
  pool : Pubkey
  user : Pubkey
  user_base_token_account : Pubkey
  user_quote_token_account : Pubkey
  protocol_fee_recipient : Pubkey
  protocol_fee_recipient_token_account : Pubkey
  deriving DecidableEq

/-- `SellEventV2`: `SellEventV1` and the coin creator's fee. -/
structure SellEventV2 where
  timestamp : Int64
  base_amount_in : UInt64
  min_quote_amount_out : UInt64
  user_base_token_reserves : UInt64
  user_quote_token_reserves : UInt64
  pool_base_token_reserves : UInt64
  pool_quote_token_reserves : UInt64
  quote_amount_out : UInt64
  lp_fee_basis_points : UInt64
  lp_fee : UInt64
  protocol_fee_basis_points : UInt64
  protocol_fee : UInt64
  quote_amount_out_without_lp_fee : UInt64
  user_quote_amount_out : UInt64
  pool : Pubkey
  user : Pubkey
  user_base_token_account : Pubkey
  user_quote_token_account : Pubkey
  protocol_fee_recipient : Pubkey
  protocol_fee_recipient_token_account : Pubkey
  coin_creator : Pubkey
  coin_creator_fee_basis_points : UInt64
  coin_creator_fee : UInt64
  deriving DecidableEq

/-- `CreateConfigEvent`. -/
structure CreateConfigEvent where
  timestamp : Int64
  admin : Pubkey
  lp_fee_basis_points : UInt64
  protocol_fee_basis_points : UInt64
  protocol_fee_recipients : List.Vector Pubkey 8
  deriving DecidableEq

/-- `CreatePoolEventV1`. -/
structure CreatePoolEventV1 where
  timestamp : Int64
  index : UInt16
  creator : Pubkey
  base_mint : Pubkey
  quote_mint : Pubkey
  base_mint_decimals : UInt8
  quote_mint_decimals : UInt8
  base_amount_in : UInt64
  quote_amount_in : UInt64
  pool_base_amount : UInt64
  pool_quote_amount : UInt64
  minimum_liquidity : UInt64
  initial_liquidity : UInt64
  lp_token_amount_out : UInt64
  pool_bump : UInt8
  pool : Pubkey
  lp_mint : Pubkey
  user_base_token_account : Pubkey
  user_quote_token_account : Pubkey
  deriving DecidableEq

/-- `CreatePoolEventV2`: `CreatePoolEventV1` and the coin creator. -/
structure CreatePoolEventV2 where
  timestamp : Int64
  index : UInt16
  creator : Pubkey
  base_mint : Pubkey
  quote_mint : Pubkey
  base_mint_decimals : UInt8
  quote_mint_decimals : UInt8
  base_amount_in : UInt64
  quote_amount_in : UInt64
  pool_base_amount : UInt64
  pool_quote_amount : UInt64
  minimum_liquidity : UInt64
  initial_liquidity : UInt64
  lp_token_amount_out : UInt64
  pool_bump : UInt8
  pool : Pubkey
  lp_mint : Pubkey
  user_base_token_account : Pubkey
  user_quote_token_account : Pubkey
  coin_creator : Pubkey
  deriving DecidableEq

/-- `DepositEvent`. -/
structure DepositEvent where
  timestamp : Int64
  lp_token_amount_out : UInt64
  max_base_amount_in : UInt64
  max_quote_amount_in : UInt64
  user_base_token_reserves : UInt64
  user_quote_token_reserves : UInt64
  pool_base_token_reserves : UInt64
  pool_quote_token_reserves : UInt64
  base_amount_in : UInt64
  quote_amount_in : UInt64
  lp_mint_supply : UInt64
  pool : Pubkey
  user : Pubkey
  user_base_token_account : Pubkey
  user_quote_token_account : Pubkey
  user_pool_token_account : Pubkey
  deriving DecidableEq

/-- `DisableEvent`. -/
structure DisableEvent where
  timestamp : Int64
  admin : Pubkey
  disable_create_pool : Bool
  disable_deposit : Bool
  disable_withdraw : Bool
  disable_buy : Bool
  disable_sell : Bool
  deriving DecidableEq

/-- `ExtendAccountEvent`. -/
structure ExtendAccountEvent where
  timestamp : Int64
  account : Pubkey
  user : Pubkey
  current_size : UInt64
  new_size : UInt64
  deriving DecidableEq

/-- `UpdateAdminEvent`. -/
structure UpdateAdminEvent where
  timestamp : Int64
  admin : Pubkey
  new_admin : Pubkey
  deriving DecidableEq

/-- `UpdateFeeConfigEvent`. -/
structure UpdateFeeConfigEvent where
  timestamp : Int64
  admin : Pubkey
  lp_fee_basis_points : UInt64
  protocol_fee_basis_points : UInt64
  protocol_fee_recipients : List.Vector Pubkey 8
  deriving DecidableEq

/-- `WithdrawEvent`. -/
structure WithdrawEvent where
  timestamp : Int64
  lp_token_amount_in : UInt64
  min_base_amount_out : UInt64
  min_quote_amount_out : UInt64
  user_base_token_reserves : UInt64
  user_quote_token_reserves : UInt64
  pool_base_token_reserves : UInt64
  pool_quote_token_reserves : UInt64
  base_amount_out : UInt64
  quote_amount_out : UInt64
  lp_mint_supply : UInt64
  pool : Pubkey
  user : Pubkey
  user_base_token_account : Pubkey
  user_quote_token_account : Pubkey
  user_pool_token_account : Pubkey
  deriving DecidableEq

/-- `PumpFunAmmEvent`. -/
inductive PumpFunAmmEvent where
  | BuyEventV1 (e : BuyEventV1)
  | BuyEventV2 (e : BuyEventV2)
  | SellEventV1 (e : SellEventV1)
  | SellEventV2 (e : SellEventV2)
  | CreateConfigEvent (e : CreateConfigEvent)
  | CreatePoolEventV1 (e : CreatePoolEventV1)
  | CreatePoolEventV2 (e : CreatePoolEventV2)
  | DepositEvent (e : DepositEvent)
  | DisableEvent (e : DisableEvent)
  | ExtendAccountEvent (e : ExtendAccountEvent)
  | UpdateAdminEvent (e : UpdateAdminEvent)
  | UpdateFeeConfigEvent (e : UpdateFeeConfigEvent)
  | WithdrawEvent (e : WithdrawEvent)
  | Unknown
  deriving DecidableEq

/-! ## Derived Borsh codecs of the payloads -/

def BuyEventV1.borsh : Codec BuyEventV1 :=
  (i64.prod <| u64.prod <| u64.prod <| u64.prod <| u64.prod <| u64.prod <| u64.prod <| u64.prod <|
    u64.prod <| u64.prod <| u64.prod <| u64.prod <| u64.prod <| u64.prod <| pubkey.prod <|
    pubkey.prod <| pubkey.prod <| pubkey.prod <| pubkey.prod pubkey).map
    (fun (a, b, c, d, e, f, g, h, i, j, k, l, m, n, o, p, q, r, s, t) =>
      ⟨a, b, c, d, e, f, g, h, i, j, k, l, m, n, o, p, q, r, s, t⟩)
    (fun x => (x.timestamp, x.base_amount_out, x.max_quote_amount_in, x.user_base_token_reserves,
      x.user_quote_token_reserves, x.pool_base_token_reserves, x.pool_quote_token_reserves,
      x.quote_amount_in, x.lp_fee_basis_points, x.lp_fee, x.protocol_fee_basis_points,
      x.protocol_fee, x.quote_amount_in_with_lp_fee, x.user_quote_amount_in, x.pool, x.user,
      x.user_base_token_account, x.user_quote_token_account, x.protocol_fee_recipient,
      x.protocol_fee_recipient_token_account))
    fun _ => rfl

def BuyEventV2.borsh : Codec BuyEventV2 :=
  (i64.prod <| u64.prod <| u64.prod <| u64.prod <| u64.prod <| u64.prod <| u64.prod <| u64.prod <|
    u64.prod <| u64.prod <| u64.prod <| u64.prod <| u64.prod <| u64.prod <| pubkey.prod <|
    pubkey.prod <| pubkey.prod <| pubkey.prod <| pubkey.prod <| pubkey.prod <| pubkey.prod <|
    u64.prod u64).map
    (fun (a, b, c, d, e, f, g, h, i, j, k, l, m, n, o, p, q, r, s, t, u, v, w) =>
      ⟨a, b, c, d, e, f, g, h, i, j, k, l, m, n, o, p, q, r, s, t, u, v, w⟩)
    (fun x => (x.timestamp, x.base_amount_out, x.max_quote_amount_in, x.user_base_token_reserves,
      x.user_quote_token_reserves, x.pool_base_token_reserves, x.pool_quote_token_reserves,
      x.quote_amount_in, x.lp_fee_basis_points, x.lp_fee, x.protocol_fee_basis_points,
      x.protocol_fee, x.quote_amount_in_with_lp_fee, x.user_quote_amount_in, x.pool, x.user,
      x.user_base_token_account, x.user_quote_token_account, x.protocol_fee_recipient,
      x.protocol_fee_recipient_token_account, x.coin_creator, x.coin_creator_fee_basis_points,
      x.coin_creator_fee))
    fun _ => rfl

def SellEventV1.borsh : Codec SellEventV1 :=
  (i64.prod <| u64.prod <| u64.prod <| u64.prod <| u64.prod <| u64.prod <| u64.prod <| u64.prod <|
    u64.prod <| u64.prod <| u64.prod <| u64.prod <| u64.prod <| u64.prod <| pubkey.prod <|
    pubkey.prod <| pubkey.prod <| pubkey.prod <| pubkey.prod pubkey).map
    (fun (a, b, c, d, e, f, g, h, i, j, k, l, m, n, o, p, q, r, s, t) =>
      ⟨a, b, c, d, e, f, g, h, i, j, k, l, m, n, o, p, q, r, s, t⟩)
    (fun x => (x.timestamp, x.base_amount_in, x.min_quote_amount_out, x.user_base_token_reserves,
      x.user_quote_token_reserves, x.pool_base_token_reserves, x.pool_quote_token_reserves,
      x.quote_amount_out, x.lp_fee_basis_points, x.lp_fee, x.protocol_fee_basis_points,
      x.protocol_fee, x.quote_amount_out_without_lp_fee, x.user_quote_amount_out, x.pool, x.user,
      x.user_base_token_account, x.user_quote_token_account, x.protocol_fee_recipient,
      x.protocol_fee_recipient_token_account))
    fun _ => rfl

def SellEventV2.borsh : Codec SellEventV2 :=
  (i64.prod <| u64.prod <| u64.prod <| u64.prod <| u64.prod <| u64.prod <| u64.prod <| u64.prod <|
    u64.prod <| u64.prod <| u64.prod <| u64.prod <| u64.prod <| u64.prod <| pubkey.prod <|
    pubkey.prod <| pubkey.prod <| pubkey.prod <| pubkey.prod <| pubkey.prod <| pubkey.prod <|
    u64.prod u64).map
    (fun (a, b, c, d, e, f, g, h, i, j, k, l, m, n, o, p, q, r, s, t, u, v, w) =>
      ⟨a, b, c, d, e, f, g, h, i, j, k, l, m, n, o, p, q, r, s, t, u, v, w⟩)
    (fun x => (x.timestamp, x.base_amount_in, x.min_quote_amount_out, x.user_base_token_reserves,
      x.user_quote_token_reserves, x.pool_base_token_reserves, x.pool_quote_token_reserves,
      x.quote_amount_out, x.lp_fee_basis_points, x.lp_fee, x.protocol_fee_basis_points,
      x.protocol_fee, x.quote_amount_out_without_lp_fee, x.user_quote_amount_out, x.pool, x.user,
      x.user_base_token_account, x.user_quote_token_account, x.protocol_fee_recipient,
      x.protocol_fee_recipient_token_account, x.coin_creator, x.coin_creator_fee_basis_points,
      x.coin_creator_fee))
    fun _ => rfl

def CreateConfigEvent.borsh : Codec CreateConfigEvent :=
  (i64.prod <| pubkey.prod <| u64.prod <| u64.prod (pubkey.array 8)).map
    (fun (a, b, c, d, e) => ⟨a, b, c, d, e⟩)
    (fun x => (x.timestamp, x.admin, x.lp_fee_basis_points, x.protocol_fee_basis_points,
      x.protocol_fee_recipients))
    fun _ => rfl

def CreatePoolEventV1.borsh : Codec CreatePoolEventV1 :=
  (i64.prod <| u16.prod <| pubkey.prod <| pubkey.prod <| pubkey.prod <| u8.prod <| u8.prod <|
    u64.prod <| u64.prod <| u64.prod <| u64.prod <| u64.prod <| u64.prod <| u64.prod <| u8.prod <|
    pubkey.prod <| pubkey.prod <| pubkey.prod pubkey).map
    (fun (a, b, c, d, e, f, g, h, i, j, k, l, m, n, o, p, q, r, s) =>
      ⟨a, b, c, d, e, f, g, h, i, j, k, l, m, n, o, p, q, r, s⟩)
    (fun x => (x.timestamp, x.index, x.creator, x.base_mint, x.quote_mint, x.base_mint_decimals,
      x.quote_mint_decimals, x.base_amount_in, x.quote_amount_in, x.pool_base_amount,
      x.pool_quote_amount, x.minimum_liquidity, x.initial_liquidity, x.lp_token_amount_out,
      x.pool_bump, x.pool, x.lp_mint, x.user_base_token_account, x.user_quote_token_account))
    fun _ => rfl

def CreatePoolEventV2.borsh : Codec CreatePoolEventV2 :=
  (i64.prod <| u16.prod <| pubkey.prod <| pubkey.prod <| pubkey.prod <| u8.prod <| u8.prod <|
    u64.prod <| u64.prod <| u64.prod <| u64.prod <| u64.prod <| u64.prod <| u64.prod <| u8.prod <|
    pubkey.prod <| pubkey.prod <| pubkey.prod <| pubkey.prod pubkey).map
    (fun (a, b, c, d, e, f, g, h, i, j, k, l, m, n, o, p, q, r, s, t) =>
      ⟨a, b, c, d, e, f, g, h, i, j, k, l, m, n, o, p, q, r, s, t⟩)
    (fun x => (x.timestamp, x.index, x.creator, x.base_mint, x.quote_mint, x.base_mint_decimals,
      x.quote_mint_decimals, x.base_amount_in, x.quote_amount_in, x.pool_base_amount,
      x.pool_quote_amount, x.minimum_liquidity, x.initial_liquidity, x.lp_token_amount_out,
      x.pool_bump, x.pool, x.lp_mint, x.user_base_token_account, x.user_quote_token_account,
      x.coin_creator))
    fun _ => rfl

def DepositEvent.borsh : Codec DepositEvent :=
  (i64.prod <| u64.prod <| u64.prod <| u64.prod <| u64.prod <| u64.prod <| u64.prod <| u64.prod <|
    u64.prod <| u64.prod <| u64.prod <| pubkey.prod <| pubkey.prod <| pubkey.prod <|
    pubkey.prod pubkey).map
    (fun (a, b, c, d, e, f, g, h, i, j, k, l, m, n, o, p) =>
      ⟨a, b, c, d, e, f, g, h, i, j, k, l, m, n, o, p⟩)
    (fun x => (x.timestamp, x.lp_token_amount_out, x.max_base_amount_in, x.max_quote_amount_in,
      x.user_base_token_reserves, x.user_quote_token_reserves, x.pool_base_token_reserves,
      x.pool_quote_token_reserves, x.base_amount_in, x.quote_amount_in, x.lp_mint_supply, x.pool,
      x.user, x.user_base_token_account, x.user_quote_token_account, x.user_pool_token_account))
    fun _ => rfl

def DisableEvent.borsh : Codec DisableEvent :=
  (i64.prod <| pubkey.prod <| bool.prod <| bool.prod <| bool.prod <| bool.prod bool).map
    (fun (a, b, c, d, e, f, g) => ⟨a, b, c, d, e, f, g⟩)
    (fun x => (x.timestamp, x.admin, x.disable_create_pool, x.disable_deposit, x.disable_withdraw,
      x.disable_buy, x.disable_sell))
    fun _ => rfl

def ExtendAccountEvent.borsh : Codec ExtendAccountEvent :=
  (i64.prod <| pubkey.prod <| pubkey.prod <| u64.prod u64).map
    (fun (a, b, c, d, e) => ⟨a, b, c, d, e⟩)
    (fun x => (x.timestamp, x.account, x.user, x.current_size, x.new_size))
    fun _ => rfl

def UpdateAdminEvent.borsh : Codec UpdateAdminEvent :=
  (i64.prod <| pubkey.prod pubkey).map (fun (a, b, c) => ⟨a, b, c⟩)
    (fun x => (x.timestamp, x.admin, x.new_admin)) fun _ => rfl

def UpdateFeeConfigEvent.borsh : Codec UpdateFeeConfigEvent :=
  (i64.prod <| pubkey.prod <| u64.prod <| u64.prod (pubkey.array 8)).map
    (fun (a, b, c, d, e) => ⟨a, b, c, d, e⟩)
    (fun x => (x.timestamp, x.admin, x.lp_fee_basis_points, x.protocol_fee_basis_points,
      x.protocol_fee_recipients))
    fun _ => rfl

def WithdrawEvent.borsh : Codec WithdrawEvent :=
  (i64.prod <| u64.prod <| u64.prod <| u64.prod <| u64.prod <| u64.prod <| u64.prod <| u64.prod <|
    u64.prod <| u64.prod <| u64.prod <| pubkey.prod <| pubkey.prod <| pubkey.prod <|
    pubkey.prod pubkey).map
    (fun (a, b, c, d, e, f, g, h, i, j, k, l, m, n, o, p) =>
      ⟨a, b, c, d, e, f, g, h, i, j, k, l, m, n, o, p⟩)
    (fun x => (x.timestamp, x.lp_token_amount_in, x.min_base_amount_out, x.min_quote_amount_out,
      x.user_base_token_reserves, x.user_quote_token_reserves, x.pool_base_token_reserves,
      x.pool_quote_token_reserves, x.base_amount_out, x.quote_amount_out, x.lp_mint_supply,
      x.pool, x.user, x.user_base_token_account, x.user_quote_token_account,
      x.user_pool_token_account))
    fun _ => rfl

/-! ### Widths

Every payload is fixed-width. The V2 forms of the buy and sell events are 48 bytes longer than
the V1 forms, the coin creator and its fee; the V2 pool creation is 32 bytes longer. -/

theorem BuyEventV1.fixedWidth_borsh : BuyEventV1.borsh.FixedWidth 304 :=
  (fixedWidth_i64.prod <| fixedWidth_u64.prod <| fixedWidth_u64.prod <| fixedWidth_u64.prod <|
    fixedWidth_u64.prod <| fixedWidth_u64.prod <| fixedWidth_u64.prod <| fixedWidth_u64.prod <|
    fixedWidth_u64.prod <| fixedWidth_u64.prod <| fixedWidth_u64.prod <| fixedWidth_u64.prod <|
    fixedWidth_u64.prod <| fixedWidth_u64.prod <| fixedWidth_pubkey.prod <|
    fixedWidth_pubkey.prod <| fixedWidth_pubkey.prod <| fixedWidth_pubkey.prod <|
    fixedWidth_pubkey.prod fixedWidth_pubkey).map _ _ _

theorem BuyEventV2.fixedWidth_borsh : BuyEventV2.borsh.FixedWidth 352 :=
  (fixedWidth_i64.prod <| fixedWidth_u64.prod <| fixedWidth_u64.prod <| fixedWidth_u64.prod <|
    fixedWidth_u64.prod <| fixedWidth_u64.prod <| fixedWidth_u64.prod <| fixedWidth_u64.prod <|
    fixedWidth_u64.prod <| fixedWidth_u64.prod <| fixedWidth_u64.prod <| fixedWidth_u64.prod <|
    fixedWidth_u64.prod <| fixedWidth_u64.prod <| fixedWidth_pubkey.prod <|
    fixedWidth_pubkey.prod <| fixedWidth_pubkey.prod <| fixedWidth_pubkey.prod <|
    fixedWidth_pubkey.prod <| fixedWidth_pubkey.prod <| fixedWidth_pubkey.prod <|
    fixedWidth_u64.prod fixedWidth_u64).map _ _ _

theorem SellEventV1.fixedWidth_borsh : SellEventV1.borsh.FixedWidth 304 :=
  (fixedWidth_i64.prod <| fixedWidth_u64.prod <| fixedWidth_u64.prod <| fixedWidth_u64.prod <|
    fixedWidth_u64.prod <| fixedWidth_u64.prod <| fixedWidth_u64.prod <| fixedWidth_u64.prod <|
    fixedWidth_u64.prod <| fixedWidth_u64.prod <| fixedWidth_u64.prod <| fixedWidth_u64.prod <|
    fixedWidth_u64.prod <| fixedWidth_u64.prod <| fixedWidth_pubkey.prod <|
    fixedWidth_pubkey.prod <| fixedWidth_pubkey.prod <| fixedWidth_pubkey.prod <|
    fixedWidth_pubkey.prod fixedWidth_pubkey).map _ _ _

theorem SellEventV2.fixedWidth_borsh : SellEventV2.borsh.FixedWidth 352 :=
  (fixedWidth_i64.prod <| fixedWidth_u64.prod <| fixedWidth_u64.prod <| fixedWidth_u64.prod <|
    fixedWidth_u64.prod <| fixedWidth_u64.prod <| fixedWidth_u64.prod <| fixedWidth_u64.prod <|
    fixedWidth_u64.prod <| fixedWidth_u64.prod <| fixedWidth_u64.prod <| fixedWidth_u64.prod <|
    fixedWidth_u64.prod <| fixedWidth_u64.prod <| fixedWidth_pubkey.prod <|
    fixedWidth_pubkey.prod <| fixedWidth_pubkey.prod <| fixedWidth_pubkey.prod <|
    fixedWidth_pubkey.prod <| fixedWidth_pubkey.prod <| fixedWidth_pubkey.prod <|
    fixedWidth_u64.prod fixedWidth_u64).map _ _ _

theorem CreateConfigEvent.fixedWidth_borsh : CreateConfigEvent.borsh.FixedWidth 312 :=
  (fixedWidth_i64.prod <| fixedWidth_pubkey.prod <| fixedWidth_u64.prod <| fixedWidth_u64.prod
    (fixedWidth_pubkey.array 8)).map _ _ _

theorem CreatePoolEventV1.fixedWidth_borsh : CreatePoolEventV1.borsh.FixedWidth 293 :=
  (fixedWidth_i64.prod <| fixedWidth_u16.prod <| fixedWidth_pubkey.prod <| fixedWidth_pubkey.prod <|
    fixedWidth_pubkey.prod <| fixedWidth_u8.prod <| fixedWidth_u8.prod <| fixedWidth_u64.prod <|
    fixedWidth_u64.prod <| fixedWidth_u64.prod <| fixedWidth_u64.prod <| fixedWidth_u64.prod <|
    fixedWidth_u64.prod <| fixedWidth_u64.prod <| fixedWidth_u8.prod <| fixedWidth_pubkey.prod <|
    fixedWidth_pubkey.prod <| fixedWidth_pubkey.prod fixedWidth_pubkey).map _ _ _

theorem CreatePoolEventV2.fixedWidth_borsh : CreatePoolEventV2.borsh.FixedWidth 325 :=
  (fixedWidth_i64.prod <| fixedWidth_u16.prod <| fixedWidth_pubkey.prod <| fixedWidth_pubkey.prod <|
    fixedWidth_pubkey.prod <| fixedWidth_u8.prod <| fixedWidth_u8.prod <| fixedWidth_u64.prod <|
    fixedWidth_u64.prod <| fixedWidth_u64.prod <| fixedWidth_u64.prod <| fixedWidth_u64.prod <|
    fixedWidth_u64.prod <| fixedWidth_u64.prod <| fixedWidth_u8.prod <| fixedWidth_pubkey.prod <|
    fixedWidth_pubkey.prod <| fixedWidth_pubkey.prod <| fixedWidth_pubkey.prod
    fixedWidth_pubkey).map _ _ _

theorem DepositEvent.fixedWidth_borsh : DepositEvent.borsh.FixedWidth 248 :=
  (fixedWidth_i64.prod <| fixedWidth_u64.prod <| fixedWidth_u64.prod <| fixedWidth_u64.prod <|
    fixedWidth_u64.prod <| fixedWidth_u64.prod <| fixedWidth_u64.prod <| fixedWidth_u64.prod <|
    fixedWidth_u64.prod <| fixedWidth_u64.prod <| fixedWidth_u64.prod <| fixedWidth_pubkey.prod <|
    fixedWidth_pubkey.prod <| fixedWidth_pubkey.prod <| fixedWidth_pubkey.prod
    fixedWidth_pubkey).map _ _ _

theorem DisableEvent.fixedWidth_borsh : DisableEvent.borsh.FixedWidth 45 :=
  (fixedWidth_i64.prod <| fixedWidth_pubkey.prod <| fixedWidth_bool.prod <| fixedWidth_bool.prod <|
    fixedWidth_bool.prod <| fixedWidth_bool.prod fixedWidth_bool).map _ _ _

theorem ExtendAccountEvent.fixedWidth_borsh : ExtendAccountEvent.borsh.FixedWidth 88 :=
  (fixedWidth_i64.prod <| fixedWidth_pubkey.prod <| fixedWidth_pubkey.prod <|
    fixedWidth_u64.prod fixedWidth_u64).map _ _ _

theorem UpdateAdminEvent.fixedWidth_borsh : UpdateAdminEvent.borsh.FixedWidth 72 :=
  (fixedWidth_i64.prod <| fixedWidth_pubkey.prod fixedWidth_pubkey).map _ _ _

theorem UpdateFeeConfigEvent.fixedWidth_borsh : UpdateFeeConfigEvent.borsh.FixedWidth 312 :=
  (fixedWidth_i64.prod <| fixedWidth_pubkey.prod <| fixedWidth_u64.prod <| fixedWidth_u64.prod
    (fixedWidth_pubkey.array 8)).map _ _ _

theorem WithdrawEvent.fixedWidth_borsh : WithdrawEvent.borsh.FixedWidth 248 :=
  (fixedWidth_i64.prod <| fixedWidth_u64.prod <| fixedWidth_u64.prod <| fixedWidth_u64.prod <|
    fixedWidth_u64.prod <| fixedWidth_u64.prod <| fixedWidth_u64.prod <| fixedWidth_u64.prod <|
    fixedWidth_u64.prod <| fixedWidth_u64.prod <| fixedWidth_u64.prod <| fixedWidth_pubkey.prod <|
    fixedWidth_pubkey.prod <| fixedWidth_pubkey.prod <| fixedWidth_pubkey.prod
    fixedWidth_pubkey).map _ _ _

/-! ## The decoder -/

/-- The `match anchor_disc` of `try_from`, on the payload from byte 16. Buys, sells and pool
creations are all read in their V2 form. -/
def decode_payload (anchor_disc : List.Vector UInt8 8) (payload : List UInt8) :
    Outcome ParseError PumpFunAmmEvent := do
  if anchor_disc = BUY_EVENT then
    return .BuyEventV2 (← decode (BuyEventV2.borsh.try_from_slice payload))
  else if anchor_disc = SELL_EVENT then
    return .SellEventV2 (← decode (SellEventV2.borsh.try_from_slice payload))
  else if anchor_disc = CREATE_CONFIG_EVENT then
    return .CreateConfigEvent (← decode (CreateConfigEvent.borsh.try_from_slice payload))
  else if anchor_disc = CREATE_POOL_EVENT then
    return .CreatePoolEventV2 (← decode (CreatePoolEventV2.borsh.try_from_slice payload))
  else if anchor_disc = DEPOSIT_EVENT then
    return .DepositEvent (← decode (DepositEvent.borsh.try_from_slice payload))
  else if anchor_disc = DISABLE_EVENT then
    return .DisableEvent (← decode (DisableEvent.borsh.try_from_slice payload))
  else if anchor_disc = EXTEND_ACCOUNT_EVENT then
    return .ExtendAccountEvent (← decode (ExtendAccountEvent.borsh.try_from_slice payload))
  else if anchor_disc = UPDATE_ADMIN_EVENT then
    return .UpdateAdminEvent (← decode (UpdateAdminEvent.borsh.try_from_slice payload))
  else if anchor_disc = UPDATE_FEE_CONFIG_EVENT then
    return .UpdateFeeConfigEvent (← decode (UpdateFeeConfigEvent.borsh.try_from_slice payload))
  else if anchor_disc = WITHDRAW_EVENT then
    return .WithdrawEvent (← decode (WithdrawEvent.borsh.try_from_slice payload))
  else
    .err (.AnchorUnknown anchor_disc)

/-- `PumpFunAmmEvent::try_from`. -/
def try_from (data : List UInt8) : Outcome ParseError PumpFunAmmEvent := do
  if data.length < 16 then
    .err (.TooShort data.length)
  else
    let disc ← Outcome.expect (Slice.try_into (← Slice.range data 0 8) 8)
    let anchor_disc ← Outcome.expect (Slice.try_into (← Slice.range data 8 16) 8)
    let payload ← Slice.range_from data 16
    if disc ≠ PUMP_EVENT then
      .err (.PumpFunUnknown anchor_disc)
    else
      decode_payload anchor_disc payload

/-- `unpack`, which forwards to `try_from`. -/
def unpack (data : List UInt8) : Outcome ParseError PumpFunAmmEvent :=
  try_from data

/-! ## The header -/

/-- Below 16 bytes the decoder rejects the input with its length. -/
theorem try_from_of_lt {data : List UInt8} (h : data.length < 16) :
    try_from data = .err (.TooShort data.length) := by
  simp [try_from, h]

/-- From 16 bytes on, the first word is checked against `PUMP_EVENT` and the second is the
discriminator, with the rest as payload. -/
theorem try_from_split (disc anchor_disc : List.Vector UInt8 8) (payload : List UInt8) :
    try_from (disc.toList ++ (anchor_disc.toList ++ payload)) =
      if disc ≠ PUMP_EVENT then .err (.PumpFunUnknown anchor_disc)
      else decode_payload anchor_disc payload := by
  have hw : disc.toList.length = 8 := disc.toList_length
  have hd : anchor_disc.toList.length = 8 := anchor_disc.toList_length
  have hlen : ¬(disc.toList ++ (anchor_disc.toList ++ payload)).length < 16 := by
    simp only [List.length_append, hw, hd]
    omega
  simp only [try_from, if_neg hlen, Slice.range_zero_append hw, Outcome.ok_bind,
    Slice.try_into_toList, Outcome.expect_some,
    Slice.range_append hw (show 8 + anchor_disc.toList.length = 16 by omega),
    Slice.range_from_append_append (show disc.toList.length + anchor_disc.toList.length = 16 by
      omega)]

/-- Behind `PUMP_EVENT`, the decoder dispatches on the discriminator. -/
theorem try_from_pump_event (anchor_disc : List.Vector UInt8 8) (payload : List UInt8) :
    try_from (PUMP_EVENT.toList ++ (anchor_disc.toList ++ payload)) =
      decode_payload anchor_disc payload := by
  rw [try_from_split, if_neg (not_not.mpr rfl)]

/-! ## The arms -/

theorem decode_payload_buy (payload : List UInt8) :
    decode_payload BUY_EVENT payload =
      (do return .BuyEventV2 (← decode (BuyEventV2.borsh.try_from_slice payload))) := by
  simp [decode_payload]

theorem decode_payload_sell (payload : List UInt8) :
    decode_payload SELL_EVENT payload =
      (do return .SellEventV2 (← decode (SellEventV2.borsh.try_from_slice payload))) := by
  simp +decide [decode_payload]

theorem decode_payload_create_config (payload : List UInt8) :
    decode_payload CREATE_CONFIG_EVENT payload =
      (do return .CreateConfigEvent (← decode (CreateConfigEvent.borsh.try_from_slice payload))) := by
  simp +decide [decode_payload]

theorem decode_payload_create_pool (payload : List UInt8) :
    decode_payload CREATE_POOL_EVENT payload =
      (do return .CreatePoolEventV2 (← decode (CreatePoolEventV2.borsh.try_from_slice payload))) := by
  simp +decide [decode_payload]

theorem decode_payload_deposit (payload : List UInt8) :
    decode_payload DEPOSIT_EVENT payload =
      (do return .DepositEvent (← decode (DepositEvent.borsh.try_from_slice payload))) := by
  simp +decide [decode_payload]

theorem decode_payload_disable (payload : List UInt8) :
    decode_payload DISABLE_EVENT payload =
      (do return .DisableEvent (← decode (DisableEvent.borsh.try_from_slice payload))) := by
  simp +decide [decode_payload]

theorem decode_payload_extend_account (payload : List UInt8) :
    decode_payload EXTEND_ACCOUNT_EVENT payload =
      (do return .ExtendAccountEvent (← decode (ExtendAccountEvent.borsh.try_from_slice payload))) := by
  simp +decide [decode_payload]

theorem decode_payload_update_admin (payload : List UInt8) :
    decode_payload UPDATE_ADMIN_EVENT payload =
      (do return .UpdateAdminEvent (← decode (UpdateAdminEvent.borsh.try_from_slice payload))) := by
  simp +decide [decode_payload]

theorem decode_payload_update_fee_config (payload : List UInt8) :
    decode_payload UPDATE_FEE_CONFIG_EVENT payload =
      (do
        let e ← decode (UpdateFeeConfigEvent.borsh.try_from_slice payload)
        return .UpdateFeeConfigEvent e) := by
  simp +decide [decode_payload]

theorem decode_payload_withdraw (payload : List UInt8) :
    decode_payload WITHDRAW_EVENT payload =
      (do return .WithdrawEvent (← decode (WithdrawEvent.borsh.try_from_slice payload))) := by
  simp +decide [decode_payload]

/-! ## What the program emits, read back -/

/-- What the program emits for an event behind `PUMP_EVENT`: the discriminator, which the V1 and
V2 forms share, then the Borsh encoding of the event's fields. `Unknown` has no encoding. -/
def PumpFunAmmEvent.write : PumpFunAmmEvent → List UInt8
  | .BuyEventV1 e => BUY_EVENT.toList ++ BuyEventV1.borsh.write e
  | .BuyEventV2 e => BUY_EVENT.toList ++ BuyEventV2.borsh.write e
  | .SellEventV1 e => SELL_EVENT.toList ++ SellEventV1.borsh.write e
  | .SellEventV2 e => SELL_EVENT.toList ++ SellEventV2.borsh.write e
  | .CreateConfigEvent e => CREATE_CONFIG_EVENT.toList ++ CreateConfigEvent.borsh.write e
  | .CreatePoolEventV1 e => CREATE_POOL_EVENT.toList ++ CreatePoolEventV1.borsh.write e
  | .CreatePoolEventV2 e => CREATE_POOL_EVENT.toList ++ CreatePoolEventV2.borsh.write e
  | .DepositEvent e => DEPOSIT_EVENT.toList ++ DepositEvent.borsh.write e
  | .DisableEvent e => DISABLE_EVENT.toList ++ DisableEvent.borsh.write e
  | .ExtendAccountEvent e => EXTEND_ACCOUNT_EVENT.toList ++ ExtendAccountEvent.borsh.write e
  | .UpdateAdminEvent e => UPDATE_ADMIN_EVENT.toList ++ UpdateAdminEvent.borsh.write e
  | .UpdateFeeConfigEvent e => UPDATE_FEE_CONFIG_EVENT.toList ++ UpdateFeeConfigEvent.borsh.write e
  | .WithdrawEvent e => WITHDRAW_EVENT.toList ++ WithdrawEvent.borsh.write e
  | .Unknown => []

/-- The events that the decoder can return: no V1 form, and not `Unknown`. -/
def PumpFunAmmEvent.isDecoded : PumpFunAmmEvent → Bool
  | .BuyEventV1 _ | .SellEventV1 _ | .CreatePoolEventV1 _ | .Unknown => false
  | _ => true

/-- Behind `PUMP_EVENT` and a discriminator whose arm decodes with `c`, what `c` wrote is read
back. -/
theorem unpack_arm_write {α : Type} {d : List.Vector UInt8 8} {c : Codec α}
    {V : α → PumpFunAmmEvent}
    (hd : ∀ payload, decode_payload d payload =
      (do return V (← decode (c.try_from_slice payload))))
    {x : α} (hx : c.fits x = true) :
    unpack (PUMP_EVENT.toList ++ (d.toList ++ c.write x)) = .ok (V x) := by
  rw [unpack, try_from_pump_event, hd]
  exact decode_arm_write c V hx

/-- Behind the same discriminator, a layout of another width than the arm's is rejected: the
arm reads the whole payload. -/
theorem unpack_arm_of_width_ne {α β : Type} {d : List.Vector UInt8 8} {c : Codec β}
    {V : β → PumpFunAmmEvent}
    (hd : ∀ payload, decode_payload d payload =
      (do return V (← decode (c.try_from_slice payload))))
    {c₁ : Codec α} {n₁ n : ℕ} (h₁ : c₁.FixedWidth n₁) (h : c.FixedWidth n) (hne : n₁ ≠ n)
    (x : α) : ∃ err, unpack (PUMP_EVENT.toList ++ (d.toList ++ c₁.write x)) = .err (.Decode err) := by
  obtain ⟨err, herr⟩ := h₁.try_from_slice_write_of_ne h hne x
  refine ⟨err, ?_⟩
  rw [unpack, try_from_pump_event, hd]
  exact decode_arm_error c V herr

/-- A V1 buy is read as a V2 buy, 48 bytes longer, and rejected. -/
theorem unpack_buy_v1_rejected (e : BuyEventV1) :
    ∃ err, unpack (PUMP_EVENT.toList ++ (PumpFunAmmEvent.BuyEventV1 e).write) = .err (.Decode err) :=
  unpack_arm_of_width_ne decode_payload_buy BuyEventV1.fixedWidth_borsh BuyEventV2.fixedWidth_borsh
    (by decide) e

/-- A V1 sell is read as a V2 sell, 48 bytes longer, and rejected. -/
theorem unpack_sell_v1_rejected (e : SellEventV1) :
    ∃ err, unpack (PUMP_EVENT.toList ++ (PumpFunAmmEvent.SellEventV1 e).write) = .err (.Decode err) :=
  unpack_arm_of_width_ne decode_payload_sell SellEventV1.fixedWidth_borsh
    SellEventV2.fixedWidth_borsh (by decide) e

/-- A V1 pool creation is read as a V2 one, 32 bytes longer, and rejected. -/
theorem unpack_create_pool_v1_rejected (e : CreatePoolEventV1) :
    ∃ err, unpack (PUMP_EVENT.toList ++ (PumpFunAmmEvent.CreatePoolEventV1 e).write) =
      .err (.Decode err) :=
  unpack_arm_of_width_ne decode_payload_create_pool CreatePoolEventV1.fixedWidth_borsh
    CreatePoolEventV2.fixedWidth_borsh (by decide) e

/-- Every event in a form the decoder returns is read back. -/
theorem unpack_write_of_decoded (ev : PumpFunAmmEvent) (h : ev.isDecoded = true) :
    unpack (PUMP_EVENT.toList ++ ev.write) = .ok ev := by
  cases ev with
  | BuyEventV2 e => exact unpack_arm_write decode_payload_buy (BuyEventV2.fixedWidth_borsh.fits e)
  | SellEventV2 e =>
    exact unpack_arm_write decode_payload_sell (SellEventV2.fixedWidth_borsh.fits e)
  | CreateConfigEvent e =>
    exact unpack_arm_write decode_payload_create_config (CreateConfigEvent.fixedWidth_borsh.fits e)
  | CreatePoolEventV2 e =>
    exact unpack_arm_write decode_payload_create_pool (CreatePoolEventV2.fixedWidth_borsh.fits e)
  | DepositEvent e =>
    exact unpack_arm_write decode_payload_deposit (DepositEvent.fixedWidth_borsh.fits e)
  | DisableEvent e =>
    exact unpack_arm_write decode_payload_disable (DisableEvent.fixedWidth_borsh.fits e)
  | ExtendAccountEvent e =>
    exact unpack_arm_write decode_payload_extend_account
      (ExtendAccountEvent.fixedWidth_borsh.fits e)
  | UpdateAdminEvent e =>
    exact unpack_arm_write decode_payload_update_admin (UpdateAdminEvent.fixedWidth_borsh.fits e)
  | UpdateFeeConfigEvent e =>
    exact unpack_arm_write decode_payload_update_fee_config
      (UpdateFeeConfigEvent.fixedWidth_borsh.fits e)
  | WithdrawEvent e =>
    exact unpack_arm_write decode_payload_withdraw (WithdrawEvent.fixedWidth_borsh.fits e)
  | BuyEventV1 _ | SellEventV1 _ | CreatePoolEventV1 _ | Unknown =>
    simp [PumpFunAmmEvent.isDecoded] at h

/-- An event behind `PUMP_EVENT` is read back exactly when it is in a form the decoder returns:
the V1 buys, sells and pool creations are all rejected. -/
theorem unpack_write_eq_ok_iff (ev : PumpFunAmmEvent) :
    unpack (PUMP_EVENT.toList ++ ev.write) = .ok ev ↔ ev.isDecoded = true := by
  constructor
  · intro h
    cases ev with
    | BuyEventV1 e =>
      obtain ⟨err, herr⟩ := unpack_buy_v1_rejected e
      rw [herr] at h
      cases h
    | SellEventV1 e =>
      obtain ⟨err, herr⟩ := unpack_sell_v1_rejected e
      rw [herr] at h
      cases h
    | CreatePoolEventV1 e =>
      obtain ⟨err, herr⟩ := unpack_create_pool_v1_rejected e
      rw [herr] at h
      cases h
    | Unknown =>
      -- `PUMP_EVENT` alone is 8 bytes, short of the header.
      rw [PumpFunAmmEvent.write, List.append_nil, unpack, try_from_of_lt (by decide)] at h
      cases h
    | _ => rfl
  · exact unpack_write_of_decoded ev

end SolanaIdls.pumpfun.amm.events
