import SolanaIdls.Rust.Match
import SolanaIdls.Raydium.Launchpad.AnchorCpiEvent
import SolanaIdls.Meteora.Dlmm.AnchorCpiEvent

/-!
# Meteora DAMM v2 CPI events

`meteora::daam::anchor_cpi_event::unpack` of `src/meteora/daam/anchor_cpi_event.rs`, with the
parameter types it borrows from `src/meteora/daam/instructions.rs`. The decoder's `match` has
twenty-five arms of one shape, `K => Self::V(V::try_from_slice(payload)?)`; it is modelled as the
table `arms` of discriminators and arms (`matchConst`), so that the round trip is one argument for
all of them: the discriminators are distinct and none is `ANCHOR_DISC`, and every arm reads back
what its codec wrote (`unpack_arm`).

The last section gathers the three decoders that share the header `anchor_cpi_split`, those of
the Launchpad, DLMM and DAMM programs: wrapping an input in Anchor's `emit_cpi` framing does not
change what any of them returns.
-/

namespace SolanaIdls.meteora.daam.instructions

open Borsh Borsh.Codec

/-! ## Parameter types of the instructions -/

/-- `AddLiquidityParameters`. -/
structure AddLiquidityParameters where
  liquidity_delta : BitVec 128
  token_a_amount_threshold : UInt64
  token_b_amount_threshold : UInt64
  deriving DecidableEq

/-- `BaseFeeParameters`. -/
structure BaseFeeParameters where
  cliff_fee_numerator : UInt64
  number_of_period : UInt16
  period_frequency : UInt64
  reduction_factor : UInt64
  fee_scheduler_mode : UInt8
  deriving DecidableEq

/-- `DynamicFeeParameters`. -/
structure DynamicFeeParameters where
  bin_step : UInt16
  bin_step_u128 : BitVec 128
  filter_period : UInt16
  decay_period : UInt16
  reduction_factor : UInt16
  max_volatility_accumulator : UInt32
  variable_fee_control : UInt32
  deriving DecidableEq

/-- `PoolFeeParameters`. -/
structure PoolFeeParameters where
  base_fee : BaseFeeParameters
  padding : List.Vector UInt8 3
  dynamic_fee : Option DynamicFeeParameters
  deriving DecidableEq

/-- `RemoveLiquidityParameters`. -/
structure RemoveLiquidityParameters where
  liquidity_delta : BitVec 128
  token_a_amount_threshold : UInt64
  token_b_amount_threshold : UInt64
  deriving DecidableEq

/-- `SplitAmountInfo`. -/
structure SplitAmountInfo where
  permanent_locked_liquidity : BitVec 128
  unlocked_liquidity : BitVec 128
  fee_a : UInt64
  fee_b : UInt64
  reward_0 : UInt64
  reward_1 : UInt64
  deriving DecidableEq

/-- `SplitPositionInfo`. -/
structure SplitPositionInfo where
  liquidity : BitVec 128
  fee_a : UInt64
  fee_b : UInt64
  reward_0 : UInt64
  reward_1 : UInt64
  deriving DecidableEq

/-- `SplitPositionParameters`. -/
structure SplitPositionParameters where
  unlocked_liquidity_percentage : UInt8
  permanent_locked_liquidity_percentage : UInt8
  fee_a_percentage : UInt8
  fee_b_percentage : UInt8
  reward_0_percentage : UInt8
  reward_1_percentage : UInt8
  padding : List.Vector UInt8 16
  deriving DecidableEq

/-- `SwapParameters`. -/
structure SwapParameters where
  amount_in : UInt64
  minimum_amount_out : UInt64
  deriving DecidableEq

/-- `SwapResult`. -/
structure SwapResult where
  output_amount : UInt64
  next_sqrt_price : BitVec 128
  lp_fee : UInt64
  protocol_fee : UInt64
  partner_fee : UInt64
  referral_fee : UInt64
  deriving DecidableEq

def AddLiquidityParameters.borsh : Codec AddLiquidityParameters :=
  (u128.prod <| u64.prod u64).map (fun (a, b, c) => ⟨a, b, c⟩)
    (fun x => (x.liquidity_delta, x.token_a_amount_threshold, x.token_b_amount_threshold))
    fun _ => rfl

def BaseFeeParameters.borsh : Codec BaseFeeParameters :=
  (u64.prod <| u16.prod <| u64.prod <| u64.prod u8).map (fun (a, b, c, d, e) => ⟨a, b, c, d, e⟩)
    (fun x => (x.cliff_fee_numerator, x.number_of_period, x.period_frequency, x.reduction_factor,
      x.fee_scheduler_mode))
    fun _ => rfl

def DynamicFeeParameters.borsh : Codec DynamicFeeParameters :=
  (u16.prod <| u128.prod <| u16.prod <| u16.prod <| u16.prod <| u32.prod u32).map
    (fun (a, b, c, d, e, f, g) => ⟨a, b, c, d, e, f, g⟩)
    (fun x => (x.bin_step, x.bin_step_u128, x.filter_period, x.decay_period, x.reduction_factor,
      x.max_volatility_accumulator, x.variable_fee_control))
    fun _ => rfl

def PoolFeeParameters.borsh : Codec PoolFeeParameters :=
  (BaseFeeParameters.borsh.prod <| (u8.array 3).prod DynamicFeeParameters.borsh.option).map
    (fun (a, b, c) => ⟨a, b, c⟩) (fun x => (x.base_fee, x.padding, x.dynamic_fee)) fun _ => rfl

def RemoveLiquidityParameters.borsh : Codec RemoveLiquidityParameters :=
  (u128.prod <| u64.prod u64).map (fun (a, b, c) => ⟨a, b, c⟩)
    (fun x => (x.liquidity_delta, x.token_a_amount_threshold, x.token_b_amount_threshold))
    fun _ => rfl

def SplitAmountInfo.borsh : Codec SplitAmountInfo :=
  (u128.prod <| u128.prod <| u64.prod <| u64.prod <| u64.prod u64).map
    (fun (a, b, c, d, e, f) => ⟨a, b, c, d, e, f⟩)
    (fun x => (x.permanent_locked_liquidity, x.unlocked_liquidity, x.fee_a, x.fee_b, x.reward_0,
      x.reward_1))
    fun _ => rfl

def SplitPositionInfo.borsh : Codec SplitPositionInfo :=
  (u128.prod <| u64.prod <| u64.prod <| u64.prod u64).map (fun (a, b, c, d, e) => ⟨a, b, c, d, e⟩)
    (fun x => (x.liquidity, x.fee_a, x.fee_b, x.reward_0, x.reward_1)) fun _ => rfl

def SplitPositionParameters.borsh : Codec SplitPositionParameters :=
  (u8.prod <| u8.prod <| u8.prod <| u8.prod <| u8.prod <| u8.prod <| u8.array 16).map
    (fun (a, b, c, d, e, f, g) => ⟨a, b, c, d, e, f, g⟩)
    (fun x => (x.unlocked_liquidity_percentage, x.permanent_locked_liquidity_percentage,
      x.fee_a_percentage, x.fee_b_percentage, x.reward_0_percentage, x.reward_1_percentage,
      x.padding))
    fun _ => rfl

def SwapParameters.borsh : Codec SwapParameters :=
  (u64.prod u64).map (fun (a, b) => ⟨a, b⟩) (fun x => (x.amount_in, x.minimum_amount_out))
    fun _ => rfl

def SwapResult.borsh : Codec SwapResult :=
  (u64.prod <| u128.prod <| u64.prod <| u64.prod <| u64.prod u64).map
    (fun (a, b, c, d, e, f) => ⟨a, b, c, d, e, f⟩)
    (fun x => (x.output_amount, x.next_sqrt_price, x.lp_fee, x.protocol_fee, x.partner_fee,
      x.referral_fee))
    fun _ => rfl

end SolanaIdls.meteora.daam.instructions

namespace SolanaIdls.meteora.daam.anchor_cpi_event

open Borsh Borsh.Codec SolanaIdls.meteora.daam.instructions

/-! ## Discriminators and events -/

def EVTADDLIQUIDITY : List.Vector UInt8 8 := ⟨[175, 242, 8, 157, 30, 247, 185, 169], rfl⟩
def EVTCLAIMPARTNERFEE : List.Vector UInt8 8 := ⟨[118, 99, 77, 10, 226, 1, 1, 87], rfl⟩
def EVTCLAIMPOSITIONFEE : List.Vector UInt8 8 := ⟨[198, 182, 183, 52, 97, 12, 49, 56], rfl⟩
def EVTCLAIMPROTOCOLFEE : List.Vector UInt8 8 := ⟨[186, 244, 75, 251, 188, 13, 25, 33], rfl⟩
def EVTCLAIMREWARD : List.Vector UInt8 8 := ⟨[218, 86, 147, 200, 235, 188, 215, 231], rfl⟩
def EVTCLOSECLAIMFEEOPERATOR : List.Vector UInt8 8 := ⟨[111, 39, 37, 55, 110, 216, 194, 23], rfl⟩
def EVTCLOSECONFIG : List.Vector UInt8 8 := ⟨[36, 30, 239, 45, 58, 132, 14, 5], rfl⟩
def EVTCLOSEPOSITION : List.Vector UInt8 8 := ⟨[20, 145, 144, 68, 143, 142, 214, 178], rfl⟩
def EVTCREATECLAIMFEEOPERATOR : List.Vector UInt8 8 := ⟨[21, 6, 153, 120, 68, 116, 28, 177], rfl⟩
def EVTCREATECONFIG : List.Vector UInt8 8 := ⟨[131, 207, 180, 174, 180, 73, 165, 54], rfl⟩
def EVTCREATEDYNAMICCONFIG : List.Vector UInt8 8 := ⟨[231, 197, 13, 164, 248, 213, 133, 152], rfl⟩
def EVTCREATEPOSITION : List.Vector UInt8 8 := ⟨[156, 15, 119, 198, 29, 181, 221, 55], rfl⟩
def EVTCREATETOKENBADGE : List.Vector UInt8 8 := ⟨[141, 120, 134, 116, 34, 28, 114, 160], rfl⟩
def EVTFUNDREWARD : List.Vector UInt8 8 := ⟨[104, 233, 237, 122, 199, 191, 121, 85], rfl⟩
def EVTINITIALIZEPOOL : List.Vector UInt8 8 := ⟨[228, 50, 246, 85, 203, 66, 134, 37], rfl⟩
def EVTINITIALIZEREWARD : List.Vector UInt8 8 := ⟨[129, 91, 188, 3, 246, 52, 185, 249], rfl⟩
def EVTLOCKPOSITION : List.Vector UInt8 8 := ⟨[168, 63, 108, 83, 219, 82, 2, 200], rfl⟩
def EVTPERMANENTLOCKPOSITION : List.Vector UInt8 8 := ⟨[145, 143, 162, 218, 218, 80, 67, 11], rfl⟩
def EVTREMOVELIQUIDITY : List.Vector UInt8 8 := ⟨[87, 46, 88, 98, 175, 96, 34, 91], rfl⟩
def EVTSETPOOLSTATUS : List.Vector UInt8 8 := ⟨[100, 213, 74, 3, 95, 91, 228, 146], rfl⟩
def EVTSPLITPOSITION : List.Vector UInt8 8 := ⟨[182, 138, 42, 254, 27, 94, 82, 221], rfl⟩
def EVTSWAP : List.Vector UInt8 8 := ⟨[27, 60, 21, 213, 138, 170, 187, 147], rfl⟩
def EVTUPDATEREWARDDURATION : List.Vector UInt8 8 := ⟨[149, 135, 65, 231, 129, 153, 65, 57], rfl⟩
def EVTUPDATEREWARDFUNDER : List.Vector UInt8 8 := ⟨[76, 154, 208, 13, 40, 115, 246, 146], rfl⟩
def EVTWITHDRAWINELIGIBLEREWARD : List.Vector UInt8 8 :=
  ⟨[248, 215, 184, 78, 31, 180, 179, 168], rfl⟩

/-- `EvtAddLiquidity`. -/
structure EvtAddLiquidity where
  pool : Pubkey
  position : Pubkey
  owner : Pubkey
  params : AddLiquidityParameters
  token_a_amount : UInt64
  token_b_amount : UInt64
  total_amount_a : UInt64
  total_amount_b : UInt64
  deriving DecidableEq

/-- `EvtClaimPartnerFee`. -/
structure EvtClaimPartnerFee where
  pool : Pubkey
  token_a_amount : UInt64
  token_b_amount : UInt64
  deriving DecidableEq

/-- `EvtClaimPositionFee`. -/
structure EvtClaimPositionFee where
  pool : Pubkey
  position : Pubkey
  owner : Pubkey
  fee_a_claimed : UInt64
  fee_b_claimed : UInt64
  deriving DecidableEq

/-- `EvtClaimProtocolFee`. -/
structure EvtClaimProtocolFee where
  pool : Pubkey
  token_a_amount : UInt64
  token_b_amount : UInt64
  deriving DecidableEq

/-- `EvtClaimReward`. -/
structure EvtClaimReward where
  pool : Pubkey
  position : Pubkey
  owner : Pubkey
  mint_reward : Pubkey
  reward_index : UInt8
  total_reward : UInt64
  deriving DecidableEq

/-- `EvtCloseClaimFeeOperator`. -/
structure EvtCloseClaimFeeOperator where
  claim_fee_operator : Pubkey
  operator : Pubkey
  deriving DecidableEq

/-- `EvtCloseConfig`. -/
structure EvtCloseConfig where
  config : Pubkey
  admin : Pubkey
  deriving DecidableEq

/-- `EvtClosePosition`. -/
structure EvtClosePosition where
  pool : Pubkey
  owner : Pubkey
  position : Pubkey
  position_nft_mint : Pubkey
  deriving DecidableEq

/-- `EvtCreateClaimFeeOperator`. -/
structure EvtCreateClaimFeeOperator where
  operator : Pubkey
  deriving DecidableEq

/-- `EvtCreateConfig`. -/
structure EvtCreateConfig where
  pool_fees : PoolFeeParameters
  vault_config_key : Pubkey
  pool_creator_authority : Pubkey
  activation_type : UInt8
  sqrt_min_price : BitVec 128
  sqrt_max_price : BitVec 128
  collect_fee_mode : UInt8
  index : UInt64
  config : Pubkey
  deriving DecidableEq

/-- `EvtCreateDynamicConfig`. -/
structure EvtCreateDynamicConfig where
  config : Pubkey
  pool_creator_authority : Pubkey
  index : UInt64
  deriving DecidableEq

/-- `EvtCreatePosition`. -/
structure EvtCreatePosition where
  pool : Pubkey
  owner : Pubkey
  position : Pubkey
  position_nft_mint : Pubkey
  deriving DecidableEq

/-- `EvtCreateTokenBadge`. -/
structure EvtCreateTokenBadge where
  token_mint : Pubkey
  deriving DecidableEq

/-- `EvtFundReward`. -/
structure EvtFundReward where
  pool : Pubkey
  funder : Pubkey
  mint_reward : Pubkey
  reward_index : UInt8
  amount : UInt64
  transfer_fee_excluded_amount_in : UInt64
  reward_duration_end : UInt64
  pre_reward_rate : BitVec 128
  post_reward_rate : BitVec 128
  deriving DecidableEq

/-- `EvtInitializePool`. -/
structure EvtInitializePool where
  pool : Pubkey
  token_a_mint : Pubkey
  token_b_mint : Pubkey
  creator : Pubkey
  payer : Pubkey
  alpha_vault : Pubkey
  pool_fees : PoolFeeParameters
  sqrt_min_price : BitVec 128
  sqrt_max_price : BitVec 128
  activation_type : UInt8
  collect_fee_mode : UInt8
  liquidity : BitVec 128
  sqrt_price : BitVec 128
  activation_point : UInt64
  token_a_flag : UInt8
  token_b_flag : UInt8
  token_a_amount : UInt64
  token_b_amount : UInt64
  total_amount_a : UInt64
  total_amount_b : UInt64
  pool_type : UInt8
  deriving DecidableEq

/-- `EvtInitializeReward`. -/
structure EvtInitializeReward where
  pool : Pubkey
  reward_mint : Pubkey
  funder : Pubkey
  creator : Pubkey
  reward_index : UInt8
  reward_duration : UInt64
  deriving DecidableEq

/-- `EvtLockPosition`. -/
structure EvtLockPosition where
  pool : Pubkey
  position : Pubkey
  owner : Pubkey
  vesting : Pubkey
  cliff_point : UInt64
  period_frequency : UInt64
  cliff_unlock_liquidity : BitVec 128
  liquidity_per_period : BitVec 128
  number_of_period : UInt16
  deriving DecidableEq

/-- `EvtPermanentLockPosition`. -/
structure EvtPermanentLockPosition where
  pool : Pubkey
  position : Pubkey
  lock_liquidity_amount : BitVec 128
  total_permanent_locked_liquidity : BitVec 128
  deriving DecidableEq

/-- `EvtRemoveLiquidity`. -/
structure EvtRemoveLiquidity where
  pool : Pubkey
  position : Pubkey
  owner : Pubkey
  params : RemoveLiquidityParameters
  token_a_amount : UInt64
  token_b_amount : UInt64
  deriving DecidableEq

/-- `EvtSetPoolStatus`. -/
structure EvtSetPoolStatus where
  pool : Pubkey
  status : UInt8
  deriving DecidableEq

/-- `EvtSplitPosition`. -/
structure EvtSplitPosition where
  pool : Pubkey
  first_owner : Pubkey
  second_owner : Pubkey
  first_position : Pubkey
  second_position : Pubkey
  current_sqrt_price : BitVec 128
  amount_splits : SplitAmountInfo
  first_position_info : SplitPositionInfo
  second_position_info : SplitPositionInfo
  split_position_parameters : SplitPositionParameters
  deriving DecidableEq

/-- `EvtSwap`. -/
structure EvtSwap where
  pool : Pubkey
  trade_direction : UInt8
  has_referral : Bool
  params : SwapParameters
  swap_result : SwapResult
  actual_amount_in : UInt64
  current_timestamp : UInt64
  deriving DecidableEq

/-- `EvtUpdateRewardDuration`. -/
structure EvtUpdateRewardDuration where
  pool : Pubkey
  reward_index : UInt8
  old_reward_duration : UInt64
  new_reward_duration : UInt64
  deriving DecidableEq

/-- `EvtUpdateRewardFunder`. -/
structure EvtUpdateRewardFunder where
  pool : Pubkey
  reward_index : UInt8
  old_funder : Pubkey
  new_funder : Pubkey
  deriving DecidableEq

/-- `EvtWithdrawIneligibleReward`. -/
structure EvtWithdrawIneligibleReward where
  pool : Pubkey
  reward_mint : Pubkey
  amount : UInt64
  deriving DecidableEq

/-- `MeteoraDammAnchorCpiEvent`. -/
inductive MeteoraDammAnchorCpiEvent where
  | EvtAddLiquidity (e : EvtAddLiquidity)
  | EvtClaimPartnerFee (e : EvtClaimPartnerFee)
  | EvtClaimPositionFee (e : EvtClaimPositionFee)
  | EvtClaimProtocolFee (e : EvtClaimProtocolFee)
  | EvtClaimReward (e : EvtClaimReward)
  | EvtCloseClaimFeeOperator (e : EvtCloseClaimFeeOperator)
  | EvtCloseConfig (e : EvtCloseConfig)
  | EvtClosePosition (e : EvtClosePosition)
  | EvtCreateClaimFeeOperator (e : EvtCreateClaimFeeOperator)
  | EvtCreateConfig (e : EvtCreateConfig)
  | EvtCreateDynamicConfig (e : EvtCreateDynamicConfig)
  | EvtCreatePosition (e : EvtCreatePosition)
  | EvtCreateTokenBadge (e : EvtCreateTokenBadge)
  | EvtFundReward (e : EvtFundReward)
  | EvtInitializePool (e : EvtInitializePool)
  | EvtInitializeReward (e : EvtInitializeReward)
  | EvtLockPosition (e : EvtLockPosition)
  | EvtPermanentLockPosition (e : EvtPermanentLockPosition)
  | EvtRemoveLiquidity (e : EvtRemoveLiquidity)
  | EvtSetPoolStatus (e : EvtSetPoolStatus)
  | EvtSplitPosition (e : EvtSplitPosition)
  | EvtSwap (e : EvtSwap)
  | EvtUpdateRewardDuration (e : EvtUpdateRewardDuration)
  | EvtUpdateRewardFunder (e : EvtUpdateRewardFunder)
  | EvtWithdrawIneligibleReward (e : EvtWithdrawIneligibleReward)
  | Unknown
  deriving DecidableEq

/-! ## Derived Borsh codecs -/

def EvtAddLiquidity.borsh : Codec EvtAddLiquidity :=
  (pubkey.prod <| pubkey.prod <| pubkey.prod <| AddLiquidityParameters.borsh.prod <| u64.prod <|
    u64.prod <| u64.prod u64).map (fun (a, b, c, d, e, f, g, h) => ⟨a, b, c, d, e, f, g, h⟩)
    (fun x => (x.pool, x.position, x.owner, x.params, x.token_a_amount, x.token_b_amount,
      x.total_amount_a, x.total_amount_b))
    fun _ => rfl

def EvtClaimPartnerFee.borsh : Codec EvtClaimPartnerFee :=
  (pubkey.prod <| u64.prod u64).map (fun (a, b, c) => ⟨a, b, c⟩)
    (fun x => (x.pool, x.token_a_amount, x.token_b_amount)) fun _ => rfl

def EvtClaimPositionFee.borsh : Codec EvtClaimPositionFee :=
  (pubkey.prod <| pubkey.prod <| pubkey.prod <| u64.prod u64).map
    (fun (a, b, c, d, e) => ⟨a, b, c, d, e⟩)
    (fun x => (x.pool, x.position, x.owner, x.fee_a_claimed, x.fee_b_claimed)) fun _ => rfl

def EvtClaimProtocolFee.borsh : Codec EvtClaimProtocolFee :=
  (pubkey.prod <| u64.prod u64).map (fun (a, b, c) => ⟨a, b, c⟩)
    (fun x => (x.pool, x.token_a_amount, x.token_b_amount)) fun _ => rfl

def EvtClaimReward.borsh : Codec EvtClaimReward :=
  (pubkey.prod <| pubkey.prod <| pubkey.prod <| pubkey.prod <| u8.prod u64).map
    (fun (a, b, c, d, e, f) => ⟨a, b, c, d, e, f⟩)
    (fun x => (x.pool, x.position, x.owner, x.mint_reward, x.reward_index, x.total_reward))
    fun _ => rfl

def EvtCloseClaimFeeOperator.borsh : Codec EvtCloseClaimFeeOperator :=
  (pubkey.prod pubkey).map (fun (a, b) => ⟨a, b⟩) (fun x => (x.claim_fee_operator, x.operator))
    fun _ => rfl

def EvtCloseConfig.borsh : Codec EvtCloseConfig :=
  (pubkey.prod pubkey).map (fun (a, b) => ⟨a, b⟩) (fun x => (x.config, x.admin)) fun _ => rfl

def EvtClosePosition.borsh : Codec EvtClosePosition :=
  (pubkey.prod <| pubkey.prod <| pubkey.prod pubkey).map (fun (a, b, c, d) => ⟨a, b, c, d⟩)
    (fun x => (x.pool, x.owner, x.position, x.position_nft_mint)) fun _ => rfl

def EvtCreateClaimFeeOperator.borsh : Codec EvtCreateClaimFeeOperator :=
  pubkey.map (fun a => ⟨a⟩) (fun x => x.operator) fun _ => rfl

def EvtCreateConfig.borsh : Codec EvtCreateConfig :=
  (PoolFeeParameters.borsh.prod <| pubkey.prod <| pubkey.prod <| u8.prod <| u128.prod <|
    u128.prod <| u8.prod <| u64.prod pubkey).map
    (fun (a, b, c, d, e, f, g, h, i) => ⟨a, b, c, d, e, f, g, h, i⟩)
    (fun x => (x.pool_fees, x.vault_config_key, x.pool_creator_authority, x.activation_type,
      x.sqrt_min_price, x.sqrt_max_price, x.collect_fee_mode, x.index, x.config))
    fun _ => rfl

def EvtCreateDynamicConfig.borsh : Codec EvtCreateDynamicConfig :=
  (pubkey.prod <| pubkey.prod u64).map (fun (a, b, c) => ⟨a, b, c⟩)
    (fun x => (x.config, x.pool_creator_authority, x.index)) fun _ => rfl

def EvtCreatePosition.borsh : Codec EvtCreatePosition :=
  (pubkey.prod <| pubkey.prod <| pubkey.prod pubkey).map (fun (a, b, c, d) => ⟨a, b, c, d⟩)
    (fun x => (x.pool, x.owner, x.position, x.position_nft_mint)) fun _ => rfl

def EvtCreateTokenBadge.borsh : Codec EvtCreateTokenBadge :=
  pubkey.map (fun a => ⟨a⟩) (fun x => x.token_mint) fun _ => rfl

def EvtFundReward.borsh : Codec EvtFundReward :=
  (pubkey.prod <| pubkey.prod <| pubkey.prod <| u8.prod <| u64.prod <| u64.prod <| u64.prod <|
    u128.prod u128).map
    (fun (a, b, c, d, e, f, g, h, i) => ⟨a, b, c, d, e, f, g, h, i⟩)
    (fun x => (x.pool, x.funder, x.mint_reward, x.reward_index, x.amount,
      x.transfer_fee_excluded_amount_in, x.reward_duration_end, x.pre_reward_rate,
      x.post_reward_rate))
    fun _ => rfl

def EvtInitializePool.borsh : Codec EvtInitializePool :=
  (pubkey.prod <| pubkey.prod <| pubkey.prod <| pubkey.prod <| pubkey.prod <| pubkey.prod <|
    PoolFeeParameters.borsh.prod <| u128.prod <| u128.prod <| u8.prod <| u8.prod <| u128.prod <|
    u128.prod <| u64.prod <| u8.prod <| u8.prod <| u64.prod <| u64.prod <| u64.prod <|
    u64.prod u8).map
    (fun (a, b, c, d, e, f, g, h, i, j, k, l, m, n, o, p, q, r, s, t, u) =>
      ⟨a, b, c, d, e, f, g, h, i, j, k, l, m, n, o, p, q, r, s, t, u⟩)
    (fun x => (x.pool, x.token_a_mint, x.token_b_mint, x.creator, x.payer, x.alpha_vault,
      x.pool_fees, x.sqrt_min_price, x.sqrt_max_price, x.activation_type, x.collect_fee_mode,
      x.liquidity, x.sqrt_price, x.activation_point, x.token_a_flag, x.token_b_flag,
      x.token_a_amount, x.token_b_amount, x.total_amount_a, x.total_amount_b, x.pool_type))
    fun _ => rfl

def EvtInitializeReward.borsh : Codec EvtInitializeReward :=
  (pubkey.prod <| pubkey.prod <| pubkey.prod <| pubkey.prod <| u8.prod u64).map
    (fun (a, b, c, d, e, f) => ⟨a, b, c, d, e, f⟩)
    (fun x => (x.pool, x.reward_mint, x.funder, x.creator, x.reward_index, x.reward_duration))
    fun _ => rfl

def EvtLockPosition.borsh : Codec EvtLockPosition :=
  (pubkey.prod <| pubkey.prod <| pubkey.prod <| pubkey.prod <| u64.prod <| u64.prod <|
    u128.prod <| u128.prod u16).map
    (fun (a, b, c, d, e, f, g, h, i) => ⟨a, b, c, d, e, f, g, h, i⟩)
    (fun x => (x.pool, x.position, x.owner, x.vesting, x.cliff_point, x.period_frequency,
      x.cliff_unlock_liquidity, x.liquidity_per_period, x.number_of_period))
    fun _ => rfl

def EvtPermanentLockPosition.borsh : Codec EvtPermanentLockPosition :=
  (pubkey.prod <| pubkey.prod <| u128.prod u128).map (fun (a, b, c, d) => ⟨a, b, c, d⟩)
    (fun x => (x.pool, x.position, x.lock_liquidity_amount, x.total_permanent_locked_liquidity))
    fun _ => rfl

def EvtRemoveLiquidity.borsh : Codec EvtRemoveLiquidity :=
  (pubkey.prod <| pubkey.prod <| pubkey.prod <| RemoveLiquidityParameters.borsh.prod <|
    u64.prod u64).map (fun (a, b, c, d, e, f) => ⟨a, b, c, d, e, f⟩)
    (fun x => (x.pool, x.position, x.owner, x.params, x.token_a_amount, x.token_b_amount))
    fun _ => rfl

def EvtSetPoolStatus.borsh : Codec EvtSetPoolStatus :=
  (pubkey.prod u8).map (fun (a, b) => ⟨a, b⟩) (fun x => (x.pool, x.status)) fun _ => rfl

def EvtSplitPosition.borsh : Codec EvtSplitPosition :=
  (pubkey.prod <| pubkey.prod <| pubkey.prod <| pubkey.prod <| pubkey.prod <| u128.prod <|
    SplitAmountInfo.borsh.prod <| SplitPositionInfo.borsh.prod <| SplitPositionInfo.borsh.prod
    SplitPositionParameters.borsh).map
    (fun (a, b, c, d, e, f, g, h, i, j) => ⟨a, b, c, d, e, f, g, h, i, j⟩)
    (fun x => (x.pool, x.first_owner, x.second_owner, x.first_position, x.second_position,
      x.current_sqrt_price, x.amount_splits, x.first_position_info, x.second_position_info,
      x.split_position_parameters))
    fun _ => rfl

def EvtSwap.borsh : Codec EvtSwap :=
  (pubkey.prod <| u8.prod <| bool.prod <| SwapParameters.borsh.prod <| SwapResult.borsh.prod <|
    u64.prod u64).map (fun (a, b, c, d, e, f, g) => ⟨a, b, c, d, e, f, g⟩)
    (fun x => (x.pool, x.trade_direction, x.has_referral, x.params, x.swap_result,
      x.actual_amount_in, x.current_timestamp))
    fun _ => rfl

def EvtUpdateRewardDuration.borsh : Codec EvtUpdateRewardDuration :=
  (pubkey.prod <| u8.prod <| u64.prod u64).map (fun (a, b, c, d) => ⟨a, b, c, d⟩)
    (fun x => (x.pool, x.reward_index, x.old_reward_duration, x.new_reward_duration)) fun _ => rfl

def EvtUpdateRewardFunder.borsh : Codec EvtUpdateRewardFunder :=
  (pubkey.prod <| u8.prod <| pubkey.prod pubkey).map (fun (a, b, c, d) => ⟨a, b, c, d⟩)
    (fun x => (x.pool, x.reward_index, x.old_funder, x.new_funder)) fun _ => rfl

def EvtWithdrawIneligibleReward.borsh : Codec EvtWithdrawIneligibleReward :=
  (pubkey.prod <| pubkey.prod u64).map (fun (a, b, c) => ⟨a, b, c⟩)
    (fun x => (x.pool, x.reward_mint, x.amount)) fun _ => rfl

/-! ## The decoder -/

/-- The arms of the `match disc` of `try_from`, in the source's order. -/
def arms : List (List.Vector UInt8 8 × (List UInt8 → Outcome ParseError MeteoraDammAnchorCpiEvent)) :=
  [(EVTADDLIQUIDITY, decode_arm EvtAddLiquidity.borsh .EvtAddLiquidity),
   (EVTCLAIMPARTNERFEE, decode_arm EvtClaimPartnerFee.borsh .EvtClaimPartnerFee),
   (EVTCLAIMPOSITIONFEE, decode_arm EvtClaimPositionFee.borsh .EvtClaimPositionFee),
   (EVTCLAIMPROTOCOLFEE, decode_arm EvtClaimProtocolFee.borsh .EvtClaimProtocolFee),
   (EVTCLAIMREWARD, decode_arm EvtClaimReward.borsh .EvtClaimReward),
   (EVTCLOSECLAIMFEEOPERATOR, decode_arm EvtCloseClaimFeeOperator.borsh .EvtCloseClaimFeeOperator),
   (EVTCLOSECONFIG, decode_arm EvtCloseConfig.borsh .EvtCloseConfig),
   (EVTCLOSEPOSITION, decode_arm EvtClosePosition.borsh .EvtClosePosition),
   (EVTCREATECLAIMFEEOPERATOR,
     decode_arm EvtCreateClaimFeeOperator.borsh .EvtCreateClaimFeeOperator),
   (EVTCREATECONFIG, decode_arm EvtCreateConfig.borsh .EvtCreateConfig),
   (EVTCREATEDYNAMICCONFIG, decode_arm EvtCreateDynamicConfig.borsh .EvtCreateDynamicConfig),
   (EVTCREATEPOSITION, decode_arm EvtCreatePosition.borsh .EvtCreatePosition),
   (EVTCREATETOKENBADGE, decode_arm EvtCreateTokenBadge.borsh .EvtCreateTokenBadge),
   (EVTFUNDREWARD, decode_arm EvtFundReward.borsh .EvtFundReward),
   (EVTINITIALIZEPOOL, decode_arm EvtInitializePool.borsh .EvtInitializePool),
   (EVTINITIALIZEREWARD, decode_arm EvtInitializeReward.borsh .EvtInitializeReward),
   (EVTLOCKPOSITION, decode_arm EvtLockPosition.borsh .EvtLockPosition),
   (EVTPERMANENTLOCKPOSITION, decode_arm EvtPermanentLockPosition.borsh .EvtPermanentLockPosition),
   (EVTREMOVELIQUIDITY, decode_arm EvtRemoveLiquidity.borsh .EvtRemoveLiquidity),
   (EVTSETPOOLSTATUS, decode_arm EvtSetPoolStatus.borsh .EvtSetPoolStatus),
   (EVTSPLITPOSITION, decode_arm EvtSplitPosition.borsh .EvtSplitPosition),
   (EVTSWAP, decode_arm EvtSwap.borsh .EvtSwap),
   (EVTUPDATEREWARDDURATION, decode_arm EvtUpdateRewardDuration.borsh .EvtUpdateRewardDuration),
   (EVTUPDATEREWARDFUNDER, decode_arm EvtUpdateRewardFunder.borsh .EvtUpdateRewardFunder),
   (EVTWITHDRAWINELIGIBLEREWARD,
     decode_arm EvtWithdrawIneligibleReward.borsh .EvtWithdrawIneligibleReward)]

/-- The `match disc` of `try_from`: the arm of the discriminator, or `Unknown`. -/
def decode_payload (disc : List.Vector UInt8 8) (payload : List UInt8) :
    Outcome ParseError MeteoraDammAnchorCpiEvent :=
  matchConst arms (fun other _ => .err (.Unknown other)) disc payload

/-- `MeteoraDammAnchorCpiEvent::try_from`. -/
def try_from (data : List UInt8) : Outcome ParseError MeteoraDammAnchorCpiEvent := do
  let (disc, payload) ← anchor_cpi_split data
  decode_payload disc payload

/-- `unpack`, which forwards to `try_from`. -/
def unpack (data : List UInt8) : Outcome ParseError MeteoraDammAnchorCpiEvent :=
  try_from data

/-- Wrapping an input that does not itself start with `ANCHOR_DISC` changes nothing. -/
theorem unpack_wrap (p : List UInt8) (hp : 8 ≤ p.length) (hne : p.take 8 ≠ ANCHOR_DISC.toList) :
    unpack (ANCHOR_DISC.toList ++ p) = unpack p := by
  rw [unpack, unpack, try_from, try_from, anchor_cpi_split_wrap p hp hne]

/-! ## The arms -/

/-- The twenty-five discriminators are distinct. -/
theorem arms_nodup : (arms.map Prod.fst).Nodup := by
  decide

/-- None of them is `ANCHOR_DISC`, so that each is read bare. -/
theorem anchor_not_mem : ANCHOR_DISC ∉ arms.map Prod.fst := by
  decide

/-- Every arm reads back, bare, what its codec wrote behind its discriminator. -/
theorem unpack_arm {α : Type} {d : List.Vector UInt8 8} {c : Codec α}
    {V : α → MeteoraDammAnchorCpiEvent} (hmem : (d, decode_arm c V) ∈ arms) {x : α}
    (hx : c.fits x = true) : unpack (d.toList ++ c.write x) = .ok (V x) := by
  have hne : d ≠ ANCHOR_DISC := by
    rintro rfl
    exact anchor_not_mem (List.mem_map.mpr ⟨_, hmem, rfl⟩)
  rw [unpack, try_from, anchor_cpi_split_bare _ _ hne]
  show decode_payload d (c.write x) = _
  rw [decode_payload, matchConst_of_mem arms_nodup _ hmem]
  exact decode_arm_write c V hx

/-! ## What the program emits, read back -/

/-- What the program emits for an event: its discriminator, then the Borsh encoding of its
fields. `Unknown` is no event of the program and has no encoding. -/
def MeteoraDammAnchorCpiEvent.write : MeteoraDammAnchorCpiEvent → List UInt8
  | .EvtAddLiquidity e => EVTADDLIQUIDITY.toList ++ EvtAddLiquidity.borsh.write e
  | .EvtClaimPartnerFee e => EVTCLAIMPARTNERFEE.toList ++ EvtClaimPartnerFee.borsh.write e
  | .EvtClaimPositionFee e => EVTCLAIMPOSITIONFEE.toList ++ EvtClaimPositionFee.borsh.write e
  | .EvtClaimProtocolFee e => EVTCLAIMPROTOCOLFEE.toList ++ EvtClaimProtocolFee.borsh.write e
  | .EvtClaimReward e => EVTCLAIMREWARD.toList ++ EvtClaimReward.borsh.write e
  | .EvtCloseClaimFeeOperator e =>
    EVTCLOSECLAIMFEEOPERATOR.toList ++ EvtCloseClaimFeeOperator.borsh.write e
  | .EvtCloseConfig e => EVTCLOSECONFIG.toList ++ EvtCloseConfig.borsh.write e
  | .EvtClosePosition e => EVTCLOSEPOSITION.toList ++ EvtClosePosition.borsh.write e
  | .EvtCreateClaimFeeOperator e =>
    EVTCREATECLAIMFEEOPERATOR.toList ++ EvtCreateClaimFeeOperator.borsh.write e
  | .EvtCreateConfig e => EVTCREATECONFIG.toList ++ EvtCreateConfig.borsh.write e
  | .EvtCreateDynamicConfig e =>
    EVTCREATEDYNAMICCONFIG.toList ++ EvtCreateDynamicConfig.borsh.write e
  | .EvtCreatePosition e => EVTCREATEPOSITION.toList ++ EvtCreatePosition.borsh.write e
  | .EvtCreateTokenBadge e => EVTCREATETOKENBADGE.toList ++ EvtCreateTokenBadge.borsh.write e
  | .EvtFundReward e => EVTFUNDREWARD.toList ++ EvtFundReward.borsh.write e
  | .EvtInitializePool e => EVTINITIALIZEPOOL.toList ++ EvtInitializePool.borsh.write e
  | .EvtInitializeReward e => EVTINITIALIZEREWARD.toList ++ EvtInitializeReward.borsh.write e
  | .EvtLockPosition e => EVTLOCKPOSITION.toList ++ EvtLockPosition.borsh.write e
  | .EvtPermanentLockPosition e =>
    EVTPERMANENTLOCKPOSITION.toList ++ EvtPermanentLockPosition.borsh.write e
  | .EvtRemoveLiquidity e => EVTREMOVELIQUIDITY.toList ++ EvtRemoveLiquidity.borsh.write e
  | .EvtSetPoolStatus e => EVTSETPOOLSTATUS.toList ++ EvtSetPoolStatus.borsh.write e
  | .EvtSplitPosition e => EVTSPLITPOSITION.toList ++ EvtSplitPosition.borsh.write e
  | .EvtSwap e => EVTSWAP.toList ++ EvtSwap.borsh.write e
  | .EvtUpdateRewardDuration e =>
    EVTUPDATEREWARDDURATION.toList ++ EvtUpdateRewardDuration.borsh.write e
  | .EvtUpdateRewardFunder e => EVTUPDATEREWARDFUNDER.toList ++ EvtUpdateRewardFunder.borsh.write e
  | .EvtWithdrawIneligibleReward e =>
    EVTWITHDRAWINELIGIBLEREWARD.toList ++ EvtWithdrawIneligibleReward.borsh.write e
  | .Unknown => []

/-- Whether an event can be written: its codec accepts its fields, and `Unknown` is no event. -/
def MeteoraDammAnchorCpiEvent.fits : MeteoraDammAnchorCpiEvent → Bool
  | .EvtAddLiquidity e => EvtAddLiquidity.borsh.fits e
  | .EvtClaimPartnerFee e => EvtClaimPartnerFee.borsh.fits e
  | .EvtClaimPositionFee e => EvtClaimPositionFee.borsh.fits e
  | .EvtClaimProtocolFee e => EvtClaimProtocolFee.borsh.fits e
  | .EvtClaimReward e => EvtClaimReward.borsh.fits e
  | .EvtCloseClaimFeeOperator e => EvtCloseClaimFeeOperator.borsh.fits e
  | .EvtCloseConfig e => EvtCloseConfig.borsh.fits e
  | .EvtClosePosition e => EvtClosePosition.borsh.fits e
  | .EvtCreateClaimFeeOperator e => EvtCreateClaimFeeOperator.borsh.fits e
  | .EvtCreateConfig e => EvtCreateConfig.borsh.fits e
  | .EvtCreateDynamicConfig e => EvtCreateDynamicConfig.borsh.fits e
  | .EvtCreatePosition e => EvtCreatePosition.borsh.fits e
  | .EvtCreateTokenBadge e => EvtCreateTokenBadge.borsh.fits e
  | .EvtFundReward e => EvtFundReward.borsh.fits e
  | .EvtInitializePool e => EvtInitializePool.borsh.fits e
  | .EvtInitializeReward e => EvtInitializeReward.borsh.fits e
  | .EvtLockPosition e => EvtLockPosition.borsh.fits e
  | .EvtPermanentLockPosition e => EvtPermanentLockPosition.borsh.fits e
  | .EvtRemoveLiquidity e => EvtRemoveLiquidity.borsh.fits e
  | .EvtSetPoolStatus e => EvtSetPoolStatus.borsh.fits e
  | .EvtSplitPosition e => EvtSplitPosition.borsh.fits e
  | .EvtSwap e => EvtSwap.borsh.fits e
  | .EvtUpdateRewardDuration e => EvtUpdateRewardDuration.borsh.fits e
  | .EvtUpdateRewardFunder e => EvtUpdateRewardFunder.borsh.fits e
  | .EvtWithdrawIneligibleReward e => EvtWithdrawIneligibleReward.borsh.fits e
  | .Unknown => false

/-- Every event the program can emit is read back from its discriminator and payload. -/
theorem daam_unpack_write (ev : MeteoraDammAnchorCpiEvent) (h : ev.fits = true) :
    unpack ev.write = .ok ev := by
  -- Every event but `Unknown` is one row of `arms`, its discriminator and the arm of its codec.
  cases ev
  case Unknown => simp [MeteoraDammAnchorCpiEvent.fits] at h
  all_goals exact unpack_arm (by simp only [arms, List.mem_cons, true_or, or_true]) h

theorem daam_unpack_write_on_claim_partner_fee :
    (MeteoraDammAnchorCpiEvent.EvtClaimPartnerFee ⟨.replicate 32 1, 10, 20⟩).fits = true ∧
      unpack (MeteoraDammAnchorCpiEvent.EvtClaimPartnerFee ⟨.replicate 32 1, 10, 20⟩).write =
        .ok (.EvtClaimPartnerFee ⟨.replicate 32 1, 10, 20⟩) :=
  ⟨rfl, daam_unpack_write _ rfl⟩

end SolanaIdls.meteora.daam.anchor_cpi_event

namespace SolanaIdls

/-! ## The decoders that accept both framings -/

/-- Anchor's `emit_cpi` framing changes nothing in the three decoders that accept it: behind
`ANCHOR_DISC`, an input of at least 8 bytes that does not itself start with `ANCHOR_DISC` gives
the same event, or the same error, as bare. -/
theorem unpack_framing_invariant (p : List UInt8) (hp : 8 ≤ p.length)
    (hne : p.take 8 ≠ ANCHOR_DISC.toList) :
    raydium.launchpad.anchor_cpi_event.unpack (ANCHOR_DISC.toList ++ p) =
        raydium.launchpad.anchor_cpi_event.unpack p ∧
      meteora.daam.anchor_cpi_event.unpack (ANCHOR_DISC.toList ++ p) =
        meteora.daam.anchor_cpi_event.unpack p ∧
      meteora.dlmm.anchor_cpi_event.unpack (ANCHOR_DISC.toList ++ p) =
        meteora.dlmm.anchor_cpi_event.unpack p :=
  ⟨raydium.launchpad.anchor_cpi_event.unpack_wrap p hp hne,
    meteora.daam.anchor_cpi_event.unpack_wrap p hp hne,
    meteora.dlmm.anchor_cpi_event.unpack_wrap p hp hne⟩

theorem unpack_framing_invariant_on_zeros :
    raydium.launchpad.anchor_cpi_event.unpack (ANCHOR_DISC.toList ++ List.replicate 8 0) =
        raydium.launchpad.anchor_cpi_event.unpack (List.replicate 8 0) ∧
      meteora.daam.anchor_cpi_event.unpack (ANCHOR_DISC.toList ++ List.replicate 8 0) =
        meteora.daam.anchor_cpi_event.unpack (List.replicate 8 0) ∧
      meteora.dlmm.anchor_cpi_event.unpack (ANCHOR_DISC.toList ++ List.replicate 8 0) =
        meteora.dlmm.anchor_cpi_event.unpack (List.replicate 8 0) :=
  unpack_framing_invariant _ (by decide) (by decide)

end SolanaIdls
