import SolanaIdls.Common

/-!
# Orca Whirlpool instructions

`orca::whirlpool::instructions::unpack` of `src/orca/whirlpool/instructions.rs`: Anchor's 8-byte
discriminator, then either nothing more or the instruction's arguments, decoded with Borsh from
the whole payload. Its `match` is a table whose every row keeps the promise of an Anchor row, so
the decoder is exact (`whirlpool_unpack_spec`): it returns an instruction exactly on the
instruction's layout, followed by anything only when the instruction has no arguments, for every
instruction whose optional `RemainingAccountsInfo` holds fewer than `2^32` slices.
-/

namespace SolanaIdls.orca.whirlpool.instructions

open Borsh Borsh.Codec

/-! ## Discriminators -/

def INITIALIZE_CONFIG : List.Vector UInt8 8 := disc8 208 127 21 1 194 190 196 70
def INITIALIZE_POOL : List.Vector UInt8 8 := disc8 95 180 10 172 84 174 232 40
def INITIALIZE_TICK_ARRAY : List.Vector UInt8 8 := disc8 11 188 193 214 141 91 149 184
def INITIALIZE_FEE_TIER : List.Vector UInt8 8 := disc8 183 74 156 160 112 2 42 30
def INITIALIZE_REWARD : List.Vector UInt8 8 := disc8 95 135 192 196 242 129 230 68
def SET_REWARD_EMISSIONS : List.Vector UInt8 8 := disc8 13 197 86 168 109 176 27 244
def OPEN_POSITION : List.Vector UInt8 8 := disc8 135 128 47 77 15 152 240 49
def OPEN_POSITION_WITH_METADATA : List.Vector UInt8 8 := disc8 242 29 134 48 58 110 14 60
def INCREASE_LIQUIDITY : List.Vector UInt8 8 := disc8 46 156 243 118 13 205 251 178
def DECREASE_LIQUIDITY : List.Vector UInt8 8 := disc8 160 38 208 111 104 91 44 1
def UPDATE_FEES_AND_REWARDS : List.Vector UInt8 8 := disc8 154 230 250 13 236 209 75 223
def COLLECT_FEES : List.Vector UInt8 8 := disc8 164 152 207 99 30 186 19 182
def COLLECT_REWARD : List.Vector UInt8 8 := disc8 70 5 132 87 86 235 177 34
def COLLECT_PROTOCOL_FEES : List.Vector UInt8 8 := disc8 22 67 23 98 150 178 70 220
def SWAP : List.Vector UInt8 8 := disc8 248 198 158 145 225 117 135 200
def CLOSE_POSITION : List.Vector UInt8 8 := disc8 123 134 81 0 49 68 98 98
def SET_DEFAULT_FEE_RATE : List.Vector UInt8 8 := disc8 118 215 214 157 182 229 208 228
def SET_DEFAULT_PROTOCOL_FEE_RATE : List.Vector UInt8 8 := disc8 107 205 249 226 151 35 86 0
def SET_FEE_RATE : List.Vector UInt8 8 := disc8 53 243 137 65 8 140 158 6
def SET_PROTOCOL_FEE_RATE : List.Vector UInt8 8 := disc8 95 7 4 50 154 79 156 131
def SET_FEE_AUTHORITY : List.Vector UInt8 8 := disc8 31 1 50 87 237 101 97 132
def SET_COLLECT_PROTOCOL_FEES_AUTHORITY : List.Vector UInt8 8 := disc8 34 150 93 244 139 225 233 67
def SET_REWARD_AUTHORITY : List.Vector UInt8 8 := disc8 34 39 183 252 83 28 85 127
def SET_REWARD_AUTHORITY_BY_SUPER_AUTHORITY : List.Vector UInt8 8 :=
  disc8 240 154 201 198 148 93 56 25
def SET_REWARD_EMISSIONS_SUPER_AUTHORITY : List.Vector UInt8 8 := disc8 207 5 200 209 122 56 82 183
def TWO_HOP_SWAP : List.Vector UInt8 8 := disc8 195 96 237 108 68 162 219 230
def INITIALIZE_POSITION_BUNDLE : List.Vector UInt8 8 := disc8 117 45 241 149 24 18 194 65
def INITIALIZE_POSITION_BUNDLE_WITH_METADATA : List.Vector UInt8 8 :=
  disc8 93 124 16 179 249 131 115 245
def DELETE_POSITION_BUNDLE : List.Vector UInt8 8 := disc8 100 25 99 2 217 239 124 173
def OPEN_BUNDLED_POSITION : List.Vector UInt8 8 := disc8 169 113 126 171 213 172 212 49
def CLOSE_BUNDLED_POSITION : List.Vector UInt8 8 := disc8 41 36 216 245 27 85 103 67
def OPEN_POSITION_WITH_TOKEN_EXTENSIONS : List.Vector UInt8 8 := disc8 212 47 95 92 114 102 131 250
def CLOSE_POSITION_WITH_TOKEN_EXTENSIONS : List.Vector UInt8 8 := disc8 1 182 135 59 155 25 99 223
def LOCK_POSITION : List.Vector UInt8 8 := disc8 227 62 2 252 247 10 171 185
def RESET_POSITION_RANGE : List.Vector UInt8 8 := disc8 164 123 180 141 194 100 160 175
def TRANSFER_LOCKED_POSITION : List.Vector UInt8 8 := disc8 179 121 229 46 67 138 194 138
def INITIALIZE_ADAPTIVE_FEE_TIER : List.Vector UInt8 8 := disc8 77 99 208 200 141 123 117 48
def SET_DEFAULT_BASE_FEE_RATE : List.Vector UInt8 8 := disc8 229 66 84 251 164 134 183 7
def SET_DELEGATED_FEE_AUTHORITY : List.Vector UInt8 8 := disc8 193 234 231 147 138 57 3 122
def SET_INITIALIZE_POOL_AUTHORITY : List.Vector UInt8 8 := disc8 125 43 127 235 149 26 106 236
def SET_PRESET_ADAPTIVE_FEE_CONSTANTS : List.Vector UInt8 8 := disc8 132 185 66 148 83 88 134 198
def INITIALIZE_POOL_WITH_ADAPTIVE_FEE : List.Vector UInt8 8 := disc8 143 94 96 76 172 124 119 199
def SET_FEE_RATE_BY_DELEGATED_FEE_AUTHORITY : List.Vector UInt8 8 :=
  disc8 121 121 54 114 131 230 162 104
def COLLECT_FEES_V2 : List.Vector UInt8 8 := disc8 207 117 95 191 229 180 226 15
def COLLECT_PROTOCOL_FEES_V2 : List.Vector UInt8 8 := disc8 103 128 222 134 114 200 22 200
def COLLECT_REWARD_V2 : List.Vector UInt8 8 := disc8 177 107 37 180 160 19 49 209
def DECREASE_LIQUIDITY_V2 : List.Vector UInt8 8 := disc8 58 127 188 62 79 82 196 96
def INCREASE_LIQUIDITY_V2 : List.Vector UInt8 8 := disc8 133 29 89 223 69 238 176 10
def INITIALIZE_POOL_V2 : List.Vector UInt8 8 := disc8 207 45 87 242 27 63 204 67
def INITIALIZE_REWARD_V2 : List.Vector UInt8 8 := disc8 91 1 77 50 235 229 133 49
def SET_REWARD_EMISSIONS_V2 : List.Vector UInt8 8 := disc8 114 228 72 32 193 48 160 102
def SWAP_V2 : List.Vector UInt8 8 := disc8 43 4 237 11 26 201 30 98
def TWO_HOP_SWAP_V2 : List.Vector UInt8 8 := disc8 186 143 209 29 254 2 194 117
def INITIALIZE_CONFIG_EXTENSION : List.Vector UInt8 8 := disc8 55 9 53 9 114 57 209 52
def SET_CONFIG_EXTENSION_AUTHORITY : List.Vector UInt8 8 := disc8 44 94 241 116 24 188 60 143
def SET_TOKEN_BADGE_AUTHORITY : List.Vector UInt8 8 := disc8 207 202 4 32 205 79 13 178
def INITIALIZE_TOKEN_BADGE : List.Vector UInt8 8 := disc8 253 77 205 95 27 224 89 223
def DELETE_TOKEN_BADGE : List.Vector UInt8 8 := disc8 53 146 68 8 18 117 17 185

/-! ## Payloads -/

/-- `LockType`. -/
inductive LockType where
  | Permanent
  deriving DecidableEq

/-- `OpenPositionBumps`. -/
structure OpenPositionBumps where
  position_bump : UInt8
  deriving DecidableEq

/-- `OpenPositionWithMetadataBumps`. -/
structure OpenPositionWithMetadataBumps where
  position_bump : UInt8
  metadata_bump : UInt8
  deriving DecidableEq

/-- `WhirlpoolBumps`. -/
structure WhirlpoolBumps where
  whirlpool_bump : UInt8
  deriving DecidableEq

/-- `AccountsType`. -/
inductive AccountsType where
  | TransferHookA
  | TransferHookB
  | TransferHookReward
  | TransferHookInput
  | TransferHookIntermediate
  | TransferHookOutput
  | SupplementalTickArrays
  | SupplementalTickArraysOne
  | SupplementalTickArraysTwo
  deriving DecidableEq

/-- `RemainingAccountsSlice`. -/
structure RemainingAccountsSlice where
  accounts_type : AccountsType
  length : UInt8
  deriving DecidableEq

/-- `RemainingAccountsInfo`. -/
structure RemainingAccountsInfo where
  slices : List RemainingAccountsSlice
  deriving DecidableEq

/-- `InitializeConfigInstruction`. -/
structure InitializeConfigInstruction where
  fee_authority : Pubkey
  collect_protocol_fees_authority : Pubkey
  reward_emissions_super_authority : Pubkey
  default_protocol_fee_rate : UInt16
  deriving DecidableEq

/-- `InitializePoolInstruction`. -/
structure InitializePoolInstruction where
  bumps : WhirlpoolBumps
  tick_spacing : UInt16
  initial_sqrt_price : BitVec 128
  deriving DecidableEq

/-- `InitializeTickArrayInstruction`. -/
structure InitializeTickArrayInstruction where
  start_tick_index : Int32
  deriving DecidableEq

/-- `InitializeFeeTierInstruction`. -/
structure InitializeFeeTierInstruction where
  tick_spacing : UInt16
  default_fee_rate : UInt16
  deriving DecidableEq

/-- `InitializeRewardInstruction`. -/
structure InitializeRewardInstruction where
  reward_index : UInt8
  deriving DecidableEq

/-- `SetRewardEmissionsInstruction`. -/
structure SetRewardEmissionsInstruction where
  reward_index : UInt8
  emissions_per_second_x64 : BitVec 128
  deriving DecidableEq

/-- `OpenPositionInstruction`. -/
structure OpenPositionInstruction where
  bumps : OpenPositionBumps
  tick_lower_index : Int32
  tick_upper_index : Int32
  deriving DecidableEq

/-- `OpenPositionWithMetadataInstruction`. -/
structure OpenPositionWithMetadataInstruction where
  bumps : OpenPositionWithMetadataBumps
  tick_lower_index : Int32
  tick_upper_index : Int32
  deriving DecidableEq

/-- `IncreaseLiquidityInstruction`. -/
structure IncreaseLiquidityInstruction where
  liquidity_amount : BitVec 128
  token_max_a : UInt64
  token_max_b : UInt64
  deriving DecidableEq

/-- `DecreaseLiquidityInstruction`. -/
structure DecreaseLiquidityInstruction where
  liquidity_amount : BitVec 128
  token_min_a : UInt64
  token_min_b : UInt64
  deriving DecidableEq

/-- `CollectRewardInstruction`. -/
structure CollectRewardInstruction where
  reward_index : UInt8
  deriving DecidableEq

/-- `SwapInstruction`. -/
structure SwapInstruction where
  amount : UInt64
  other_amount_threshold : UInt64
  sqrt_price_limit : BitVec 128
  amount_specified_is_input : Bool
  a_to_b : Bool
  deriving DecidableEq

/-- `SetDefaultFeeRateInstruction`. -/
structure SetDefaultFeeRateInstruction where
  default_fee_rate : UInt16
  deriving DecidableEq

/-- `SetDefaultProtocolFeeRateInstruction`. -/
structure SetDefaultProtocolFeeRateInstruction where
  default_protocol_fee_rate : UInt16
  deriving DecidableEq

/-- `SetFeeRateInstruction`. -/
structure SetFeeRateInstruction where
  fee_rate : UInt16
  deriving DecidableEq

/-- `SetProtocolFeeRateInstruction`. -/
structure SetProtocolFeeRateInstruction where
  protocol_fee_rate : UInt16
  deriving DecidableEq

/-- `SetRewardAuthorityInstruction`. -/
structure SetRewardAuthorityInstruction where
  reward_index : UInt8
  deriving DecidableEq

/-- `SetRewardAuthorityBySuperAuthorityInstruction`. -/
structure SetRewardAuthorityBySuperAuthorityInstruction where
  reward_index : UInt8
  deriving DecidableEq

/-- `TwoHopSwapInstruction`. -/
structure TwoHopSwapInstruction where
  amount : UInt64
  other_amount_threshold : UInt64
  amount_specified_is_input : Bool
  a_to_b_one : Bool
  a_to_b_two : Bool
  sqrt_price_limit_one : BitVec 128
  sqrt_price_limit_two : BitVec 128
  deriving DecidableEq

/-- `OpenBundledPositionInstruction`. -/
structure OpenBundledPositionInstruction where
  bundle_index : UInt16
  tick_lower_index : Int32
  tick_upper_index : Int32
  deriving DecidableEq

/-- `CloseBundledPositionInstruction`. -/
structure CloseBundledPositionInstruction where
  bundle_index : UInt16
  deriving DecidableEq

/-- `OpenPositionWithTokenExtensionsInstruction`. -/
structure OpenPositionWithTokenExtensionsInstruction where
  tick_lower_index : Int32
  tick_upper_index : Int32
  with_token_metadata_extension : Bool
  deriving DecidableEq

/-- `LockPositionInstruction`. -/
structure LockPositionInstruction where
  lock_type : LockType
  deriving DecidableEq

/-- `ResetPositionRangeInstruction`. -/
structure ResetPositionRangeInstruction where
  new_tick_lower_index : Int32
  new_tick_upper_index : Int32
  deriving DecidableEq

/-- `InitializeAdaptiveFeeTierInstruction`. -/
structure InitializeAdaptiveFeeTierInstruction where
  fee_tier_index : UInt16
  tick_spacing : UInt16
  initialize_pool_authority : Pubkey
  delegated_fee_authority : Pubkey
  default_base_fee_rate : UInt16
  filter_period : UInt16
  decay_period : UInt16
  reduction_factor : UInt16
  adaptive_fee_control_factor : UInt32
  max_volatility_accumulator : UInt32
  tick_group_size : UInt16
  major_swap_threshold_ticks : UInt16
  deriving DecidableEq

/-- `SetDefaultBaseFeeRateInstruction`. -/
structure SetDefaultBaseFeeRateInstruction where
  default_base_fee_rate : UInt16
  deriving DecidableEq

/-- `SetPresetAdaptiveFeeConstantsInstruction`. -/
structure SetPresetAdaptiveFeeConstantsInstruction where
  filter_period : UInt16
  decay_period : UInt16
  reduction_factor : UInt16
  adaptive_fee_control_factor : UInt32
  max_volatility_accumulator : UInt32
  tick_group_size : UInt16
  major_swap_threshold_ticks : UInt16
  deriving DecidableEq

/-- `InitializePoolWithAdaptiveFeeInstruction`. -/
structure InitializePoolWithAdaptiveFeeInstruction where
  initial_sqrt_price : BitVec 128
  trade_enable_timestamp : Option UInt64
  deriving DecidableEq

/-- `SetFeeRateByDelegatedFeeAuthorityInstruction`. -/
structure SetFeeRateByDelegatedFeeAuthorityInstruction where
  fee_rate : UInt16
  deriving DecidableEq

/-- `CollectFeesV2Instruction`. -/
structure CollectFeesV2Instruction where
  remaining_accounts_info : Option RemainingAccountsInfo
  deriving DecidableEq

/-- `CollectProtocolFeesV2Instruction`. -/
structure CollectProtocolFeesV2Instruction where
  remaining_accounts_info : Option RemainingAccountsInfo
  deriving DecidableEq

/-- `CollectRewardV2Instruction`. -/
structure CollectRewardV2Instruction where
  reward_index : UInt8
  remaining_accounts_info : Option RemainingAccountsInfo
  deriving DecidableEq

/-- `DecreaseLiquidityV2Instruction`. -/
structure DecreaseLiquidityV2Instruction where
  liquidity_amount : BitVec 128
  token_min_a : UInt64
  token_min_b : UInt64
  remaining_accounts_info : Option RemainingAccountsInfo
  deriving DecidableEq

/-- `IncreaseLiquidityV2Instruction`. -/
structure IncreaseLiquidityV2Instruction where
  liquidity_amount : BitVec 128
  token_max_a : UInt64
  token_max_b : UInt64
  remaining_accounts_info : Option RemainingAccountsInfo
  deriving DecidableEq

/-- `InitializePoolV2Instruction`. -/
structure InitializePoolV2Instruction where
  tick_spacing : UInt16
  initial_sqrt_price : BitVec 128
  deriving DecidableEq

/-- `InitializeRewardV2Instruction`. -/
structure InitializeRewardV2Instruction where
  reward_index : UInt8
  deriving DecidableEq

/-- `SetRewardEmissionsV2Instruction`. -/
structure SetRewardEmissionsV2Instruction where
  reward_index : UInt8
  emissions_per_second_x64 : BitVec 128
  deriving DecidableEq

/-- `SwapV2Instruction`. -/
structure SwapV2Instruction where
  amount : UInt64
  other_amount_threshold : UInt64
  sqrt_price_limit : BitVec 128
  amount_specified_is_input : Bool
  a_to_b : Bool
  remaining_accounts_info : Option RemainingAccountsInfo
  deriving DecidableEq

/-- `TwoHopSwapV2Instruction`. -/
structure TwoHopSwapV2Instruction where
  amount : UInt64
  other_amount_threshold : UInt64
  amount_specified_is_input : Bool
  a_to_b_one : Bool
  a_to_b_two : Bool
  sqrt_price_limit_one : BitVec 128
  sqrt_price_limit_two : BitVec 128
  remaining_accounts_info : Option RemainingAccountsInfo
  deriving DecidableEq

/-! ## Borsh layouts, as the derives write them -/

def LockType.borsh : Codec LockType :=
  unitEnum (fun | .Permanent => 0)
    (fun t => [((0 : UInt8), LockType.Permanent)].lookup t)
    (by intro x; cases x; rfl)

def OpenPositionBumps.borsh : Codec OpenPositionBumps :=
  u8.map (fun a => ⟨a⟩) (fun x => x.position_bump) fun _ => rfl

def OpenPositionWithMetadataBumps.borsh : Codec OpenPositionWithMetadataBumps :=
  (u8.prod u8).map
    (fun (a, b) => ⟨a, b⟩)
    (fun x => (x.position_bump, x.metadata_bump))
    fun _ => rfl

def WhirlpoolBumps.borsh : Codec WhirlpoolBumps :=
  u8.map (fun a => ⟨a⟩) (fun x => x.whirlpool_bump) fun _ => rfl

def AccountsType.borsh : Codec AccountsType :=
  unitEnum
    (fun
      | .TransferHookA => 0
      | .TransferHookB => 1
      | .TransferHookReward => 2
      | .TransferHookInput => 3
      | .TransferHookIntermediate => 4
      | .TransferHookOutput => 5
      | .SupplementalTickArrays => 6
      | .SupplementalTickArraysOne => 7
      | .SupplementalTickArraysTwo => 8)
    (fun t =>
      [((0 : UInt8), AccountsType.TransferHookA), (1, .TransferHookB), (2, .TransferHookReward),
       (3, .TransferHookInput), (4, .TransferHookIntermediate), (5, .TransferHookOutput),
       (6, .SupplementalTickArrays), (7, .SupplementalTickArraysOne),
       (8, .SupplementalTickArraysTwo)].lookup t)
    (by intro x; cases x <;> rfl)

def RemainingAccountsSlice.borsh : Codec RemainingAccountsSlice :=
  (AccountsType.borsh.prod u8).map
    (fun (a, b) => ⟨a, b⟩)
    (fun x => (x.accounts_type, x.length))
    fun _ => rfl

def RemainingAccountsInfo.borsh : Codec RemainingAccountsInfo :=
  RemainingAccountsSlice.borsh.vec.map (fun a => ⟨a⟩) (fun x => x.slices) fun _ => rfl

def InitializeConfigInstruction.borsh : Codec InitializeConfigInstruction :=
  (pubkey.prod <| pubkey.prod <| pubkey.prod u16).map
    (fun (a, b, c, d) => ⟨a, b, c, d⟩)
    (fun x => (x.fee_authority, x.collect_protocol_fees_authority,
      x.reward_emissions_super_authority, x.default_protocol_fee_rate))
    fun _ => rfl

def InitializePoolInstruction.borsh : Codec InitializePoolInstruction :=
  (WhirlpoolBumps.borsh.prod <| u16.prod u128).map
    (fun (a, b, c) => ⟨a, b, c⟩)
    (fun x => (x.bumps, x.tick_spacing, x.initial_sqrt_price))
    fun _ => rfl

def InitializeTickArrayInstruction.borsh : Codec InitializeTickArrayInstruction :=
  i32.map (fun a => ⟨a⟩) (fun x => x.start_tick_index) fun _ => rfl

def InitializeFeeTierInstruction.borsh : Codec InitializeFeeTierInstruction :=
  (u16.prod u16).map
    (fun (a, b) => ⟨a, b⟩)
    (fun x => (x.tick_spacing, x.default_fee_rate))
    fun _ => rfl

def InitializeRewardInstruction.borsh : Codec InitializeRewardInstruction :=
  u8.map (fun a => ⟨a⟩) (fun x => x.reward_index) fun _ => rfl

def SetRewardEmissionsInstruction.borsh : Codec SetRewardEmissionsInstruction :=
  (u8.prod u128).map
    (fun (a, b) => ⟨a, b⟩)
    (fun x => (x.reward_index, x.emissions_per_second_x64))
    fun _ => rfl

def OpenPositionInstruction.borsh : Codec OpenPositionInstruction :=
  (OpenPositionBumps.borsh.prod <| i32.prod i32).map
    (fun (a, b, c) => ⟨a, b, c⟩)
    (fun x => (x.bumps, x.tick_lower_index, x.tick_upper_index))
    fun _ => rfl

def OpenPositionWithMetadataInstruction.borsh : Codec OpenPositionWithMetadataInstruction :=
  (OpenPositionWithMetadataBumps.borsh.prod <| i32.prod i32).map
    (fun (a, b, c) => ⟨a, b, c⟩)
    (fun x => (x.bumps, x.tick_lower_index, x.tick_upper_index))
    fun _ => rfl

def IncreaseLiquidityInstruction.borsh : Codec IncreaseLiquidityInstruction :=
  (u128.prod <| u64.prod u64).map
    (fun (a, b, c) => ⟨a, b, c⟩)
    (fun x => (x.liquidity_amount, x.token_max_a, x.token_max_b))
    fun _ => rfl

def DecreaseLiquidityInstruction.borsh : Codec DecreaseLiquidityInstruction :=
  (u128.prod <| u64.prod u64).map
    (fun (a, b, c) => ⟨a, b, c⟩)
    (fun x => (x.liquidity_amount, x.token_min_a, x.token_min_b))
    fun _ => rfl

def CollectRewardInstruction.borsh : Codec CollectRewardInstruction :=
  u8.map (fun a => ⟨a⟩) (fun x => x.reward_index) fun _ => rfl

def SwapInstruction.borsh : Codec SwapInstruction :=
  (u64.prod <| u64.prod <| u128.prod <| bool.prod bool).map
    (fun (a, b, c, d, e) => ⟨a, b, c, d, e⟩)
    (fun x => (x.amount, x.other_amount_threshold, x.sqrt_price_limit, x.amount_specified_is_input,
      x.a_to_b))
    fun _ => rfl

def SetDefaultFeeRateInstruction.borsh : Codec SetDefaultFeeRateInstruction :=
  u16.map (fun a => ⟨a⟩) (fun x => x.default_fee_rate) fun _ => rfl

def SetDefaultProtocolFeeRateInstruction.borsh : Codec SetDefaultProtocolFeeRateInstruction :=
  u16.map (fun a => ⟨a⟩) (fun x => x.default_protocol_fee_rate) fun _ => rfl

def SetFeeRateInstruction.borsh : Codec SetFeeRateInstruction :=
  u16.map (fun a => ⟨a⟩) (fun x => x.fee_rate) fun _ => rfl

def SetProtocolFeeRateInstruction.borsh : Codec SetProtocolFeeRateInstruction :=
  u16.map (fun a => ⟨a⟩) (fun x => x.protocol_fee_rate) fun _ => rfl

def SetRewardAuthorityInstruction.borsh : Codec SetRewardAuthorityInstruction :=
  u8.map (fun a => ⟨a⟩) (fun x => x.reward_index) fun _ => rfl

def SetRewardAuthorityBySuperAuthorityInstruction.borsh :
    Codec SetRewardAuthorityBySuperAuthorityInstruction :=
  u8.map (fun a => ⟨a⟩) (fun x => x.reward_index) fun _ => rfl

def TwoHopSwapInstruction.borsh : Codec TwoHopSwapInstruction :=
  (u64.prod <| u64.prod <| bool.prod <| bool.prod <| bool.prod <| u128.prod u128).map
    (fun (a, b, c, d, e, f, g) => ⟨a, b, c, d, e, f, g⟩)
    (fun x => (x.amount, x.other_amount_threshold, x.amount_specified_is_input, x.a_to_b_one,
      x.a_to_b_two, x.sqrt_price_limit_one, x.sqrt_price_limit_two))
    fun _ => rfl

def OpenBundledPositionInstruction.borsh : Codec OpenBundledPositionInstruction :=
  (u16.prod <| i32.prod i32).map
    (fun (a, b, c) => ⟨a, b, c⟩)
    (fun x => (x.bundle_index, x.tick_lower_index, x.tick_upper_index))
    fun _ => rfl

def CloseBundledPositionInstruction.borsh : Codec CloseBundledPositionInstruction :=
  u16.map (fun a => ⟨a⟩) (fun x => x.bundle_index) fun _ => rfl

def OpenPositionWithTokenExtensionsInstruction.borsh :
    Codec OpenPositionWithTokenExtensionsInstruction :=
  (i32.prod <| i32.prod bool).map
    (fun (a, b, c) => ⟨a, b, c⟩)
    (fun x => (x.tick_lower_index, x.tick_upper_index, x.with_token_metadata_extension))
    fun _ => rfl

def LockPositionInstruction.borsh : Codec LockPositionInstruction :=
  LockType.borsh.map (fun a => ⟨a⟩) (fun x => x.lock_type) fun _ => rfl

def ResetPositionRangeInstruction.borsh : Codec ResetPositionRangeInstruction :=
  (i32.prod i32).map
    (fun (a, b) => ⟨a, b⟩)
    (fun x => (x.new_tick_lower_index, x.new_tick_upper_index))
    fun _ => rfl

def InitializeAdaptiveFeeTierInstruction.borsh : Codec InitializeAdaptiveFeeTierInstruction :=
  (u16.prod <| u16.prod <| pubkey.prod <| pubkey.prod <| u16.prod <| u16.prod <| u16.prod <|
    u16.prod <| u32.prod <| u32.prod <| u16.prod u16).map
    (fun (a, b, c, d, e, f, g, h, i, j, k, l) => ⟨a, b, c, d, e, f, g, h, i, j, k, l⟩)
    (fun x => (x.fee_tier_index, x.tick_spacing, x.initialize_pool_authority,
      x.delegated_fee_authority, x.default_base_fee_rate, x.filter_period, x.decay_period,
      x.reduction_factor, x.adaptive_fee_control_factor, x.max_volatility_accumulator,
      x.tick_group_size, x.major_swap_threshold_ticks))
    fun _ => rfl

def SetDefaultBaseFeeRateInstruction.borsh : Codec SetDefaultBaseFeeRateInstruction :=
  u16.map (fun a => ⟨a⟩) (fun x => x.default_base_fee_rate) fun _ => rfl

def SetPresetAdaptiveFeeConstantsInstruction.borsh :
    Codec SetPresetAdaptiveFeeConstantsInstruction :=
  (u16.prod <| u16.prod <| u16.prod <| u32.prod <| u32.prod <| u16.prod u16).map
    (fun (a, b, c, d, e, f, g) => ⟨a, b, c, d, e, f, g⟩)
    (fun x => (x.filter_period, x.decay_period, x.reduction_factor, x.adaptive_fee_control_factor,
      x.max_volatility_accumulator, x.tick_group_size, x.major_swap_threshold_ticks))
    fun _ => rfl

def InitializePoolWithAdaptiveFeeInstruction.borsh :
    Codec InitializePoolWithAdaptiveFeeInstruction :=
  (u128.prod u64.option).map
    (fun (a, b) => ⟨a, b⟩)
    (fun x => (x.initial_sqrt_price, x.trade_enable_timestamp))
    fun _ => rfl

def SetFeeRateByDelegatedFeeAuthorityInstruction.borsh :
    Codec SetFeeRateByDelegatedFeeAuthorityInstruction :=
  u16.map (fun a => ⟨a⟩) (fun x => x.fee_rate) fun _ => rfl

def CollectFeesV2Instruction.borsh : Codec CollectFeesV2Instruction :=
  RemainingAccountsInfo.borsh.option.map (fun a => ⟨a⟩) (fun x => x.remaining_accounts_info)
    fun _ => rfl

def CollectProtocolFeesV2Instruction.borsh : Codec CollectProtocolFeesV2Instruction :=
  RemainingAccountsInfo.borsh.option.map (fun a => ⟨a⟩) (fun x => x.remaining_accounts_info)
    fun _ => rfl

def CollectRewardV2Instruction.borsh : Codec CollectRewardV2Instruction :=
  (u8.prod RemainingAccountsInfo.borsh.option).map
    (fun (a, b) => ⟨a, b⟩)
    (fun x => (x.reward_index, x.remaining_accounts_info))
    fun _ => rfl

def DecreaseLiquidityV2Instruction.borsh : Codec DecreaseLiquidityV2Instruction :=
  (u128.prod <| u64.prod <| u64.prod RemainingAccountsInfo.borsh.option).map
    (fun (a, b, c, d) => ⟨a, b, c, d⟩)
    (fun x => (x.liquidity_amount, x.token_min_a, x.token_min_b, x.remaining_accounts_info))
    fun _ => rfl

def IncreaseLiquidityV2Instruction.borsh : Codec IncreaseLiquidityV2Instruction :=
  (u128.prod <| u64.prod <| u64.prod RemainingAccountsInfo.borsh.option).map
    (fun (a, b, c, d) => ⟨a, b, c, d⟩)
    (fun x => (x.liquidity_amount, x.token_max_a, x.token_max_b, x.remaining_accounts_info))
    fun _ => rfl

def InitializePoolV2Instruction.borsh : Codec InitializePoolV2Instruction :=
  (u16.prod u128).map
    (fun (a, b) => ⟨a, b⟩)
    (fun x => (x.tick_spacing, x.initial_sqrt_price))
    fun _ => rfl

def InitializeRewardV2Instruction.borsh : Codec InitializeRewardV2Instruction :=
  u8.map (fun a => ⟨a⟩) (fun x => x.reward_index) fun _ => rfl

def SetRewardEmissionsV2Instruction.borsh : Codec SetRewardEmissionsV2Instruction :=
  (u8.prod u128).map
    (fun (a, b) => ⟨a, b⟩)
    (fun x => (x.reward_index, x.emissions_per_second_x64))
    fun _ => rfl

def SwapV2Instruction.borsh : Codec SwapV2Instruction :=
  (u64.prod <| u64.prod <| u128.prod <| bool.prod <|
    bool.prod RemainingAccountsInfo.borsh.option).map
    (fun (a, b, c, d, e, f) => ⟨a, b, c, d, e, f⟩)
    (fun x => (x.amount, x.other_amount_threshold, x.sqrt_price_limit, x.amount_specified_is_input,
      x.a_to_b, x.remaining_accounts_info))
    fun _ => rfl

def TwoHopSwapV2Instruction.borsh : Codec TwoHopSwapV2Instruction :=
  (u64.prod <| u64.prod <| bool.prod <| bool.prod <| bool.prod <| u128.prod <|
    u128.prod RemainingAccountsInfo.borsh.option).map
    (fun (a, b, c, d, e, f, g, h) => ⟨a, b, c, d, e, f, g, h⟩)
    (fun x => (x.amount, x.other_amount_threshold, x.amount_specified_is_input, x.a_to_b_one,
      x.a_to_b_two, x.sqrt_price_limit_one, x.sqrt_price_limit_two, x.remaining_accounts_info))
    fun _ => rfl

/-! ## Every payload is read back -/

theorem LockType.canonical_borsh : LockType.borsh.Canonical := by
  refine Canonical.unitEnum_lookup fun t x hmem => ?_
  -- the one row: the variant is fixed, and the row's index is read off
  cases x
  simp only [List.mem_cons, Prod.mk.injEq, List.not_mem_nil, and_true, or_false] at hmem
  exact hmem.symm

theorem LockType.readsFit_borsh : LockType.borsh.ReadsFit :=
  (fixedWidth_unitEnum _ _ _).readsFit

theorem OpenPositionBumps.canonical_borsh : OpenPositionBumps.borsh.Canonical :=
  canonical_u8.map _ _ _ fun _ => rfl

theorem OpenPositionBumps.readsFit_borsh : OpenPositionBumps.borsh.ReadsFit :=
  fixedWidth_u8.readsFit.map _ _ _ fun _ => rfl

theorem OpenPositionWithMetadataBumps.canonical_borsh :
    OpenPositionWithMetadataBumps.borsh.Canonical :=
  (canonical_u8.prod canonical_u8).map _ _ _ fun _ => rfl

theorem OpenPositionWithMetadataBumps.readsFit_borsh :
    OpenPositionWithMetadataBumps.borsh.ReadsFit :=
  (fixedWidth_u8.readsFit.prod fixedWidth_u8.readsFit).map _ _ _ fun _ => rfl

theorem WhirlpoolBumps.canonical_borsh : WhirlpoolBumps.borsh.Canonical :=
  canonical_u8.map _ _ _ fun _ => rfl

theorem WhirlpoolBumps.readsFit_borsh : WhirlpoolBumps.borsh.ReadsFit :=
  fixedWidth_u8.readsFit.map _ _ _ fun _ => rfl

theorem AccountsType.canonical_borsh : AccountsType.borsh.Canonical := by
  refine Canonical.unitEnum_lookup fun t x hmem => ?_
  -- one goal per row, whose index and variant are then fixed
  simp only [List.mem_cons, Prod.mk.injEq, List.not_mem_nil] at hmem
  repeat' rcases hmem with ⟨rfl, rfl⟩ | hmem
  all_goals rfl

theorem AccountsType.readsFit_borsh : AccountsType.borsh.ReadsFit :=
  (fixedWidth_unitEnum _ _ _).readsFit

theorem RemainingAccountsSlice.canonical_borsh : RemainingAccountsSlice.borsh.Canonical :=
  (AccountsType.canonical_borsh.prod canonical_u8).map _ _ _ fun _ => rfl

theorem RemainingAccountsSlice.readsFit_borsh : RemainingAccountsSlice.borsh.ReadsFit :=
  (AccountsType.readsFit_borsh.prod fixedWidth_u8.readsFit).map _ _ _ fun _ => rfl

theorem RemainingAccountsInfo.canonical_borsh : RemainingAccountsInfo.borsh.Canonical :=
  RemainingAccountsSlice.canonical_borsh.vec.map _ _ _ fun _ => rfl

theorem RemainingAccountsInfo.readsFit_borsh : RemainingAccountsInfo.borsh.ReadsFit :=
  RemainingAccountsSlice.readsFit_borsh.vec.map _ _ _ fun _ => rfl

theorem InitializeConfigInstruction.canonical_borsh : InitializeConfigInstruction.borsh.Canonical :=
  (canonical_pubkey.prod <| canonical_pubkey.prod <|
    canonical_pubkey.prod canonical_u16).map _ _ _ fun _ => rfl

theorem InitializeConfigInstruction.readsFit_borsh : InitializeConfigInstruction.borsh.ReadsFit :=
  (fixedWidth_pubkey.readsFit.prod <| fixedWidth_pubkey.readsFit.prod <|
    fixedWidth_pubkey.readsFit.prod fixedWidth_u16.readsFit).map _ _ _ fun _ => rfl

theorem InitializePoolInstruction.canonical_borsh : InitializePoolInstruction.borsh.Canonical :=
  (WhirlpoolBumps.canonical_borsh.prod <| canonical_u16.prod canonical_u128).map _ _ _ fun _ => rfl

theorem InitializePoolInstruction.readsFit_borsh : InitializePoolInstruction.borsh.ReadsFit :=
  (WhirlpoolBumps.readsFit_borsh.prod <|
    fixedWidth_u16.readsFit.prod fixedWidth_u128.readsFit).map _ _ _ fun _ => rfl

theorem InitializeTickArrayInstruction.canonical_borsh :
    InitializeTickArrayInstruction.borsh.Canonical :=
  canonical_i32.map _ _ _ fun _ => rfl

theorem InitializeTickArrayInstruction.readsFit_borsh :
    InitializeTickArrayInstruction.borsh.ReadsFit :=
  fixedWidth_i32.readsFit.map _ _ _ fun _ => rfl

theorem InitializeFeeTierInstruction.canonical_borsh :
    InitializeFeeTierInstruction.borsh.Canonical :=
  (canonical_u16.prod canonical_u16).map _ _ _ fun _ => rfl

theorem InitializeFeeTierInstruction.readsFit_borsh : InitializeFeeTierInstruction.borsh.ReadsFit :=
  (fixedWidth_u16.readsFit.prod fixedWidth_u16.readsFit).map _ _ _ fun _ => rfl

theorem InitializeRewardInstruction.canonical_borsh : InitializeRewardInstruction.borsh.Canonical :=
  canonical_u8.map _ _ _ fun _ => rfl

theorem InitializeRewardInstruction.readsFit_borsh : InitializeRewardInstruction.borsh.ReadsFit :=
  fixedWidth_u8.readsFit.map _ _ _ fun _ => rfl

theorem SetRewardEmissionsInstruction.canonical_borsh :
    SetRewardEmissionsInstruction.borsh.Canonical :=
  (canonical_u8.prod canonical_u128).map _ _ _ fun _ => rfl

theorem SetRewardEmissionsInstruction.readsFit_borsh :
    SetRewardEmissionsInstruction.borsh.ReadsFit :=
  (fixedWidth_u8.readsFit.prod fixedWidth_u128.readsFit).map _ _ _ fun _ => rfl

theorem OpenPositionInstruction.canonical_borsh : OpenPositionInstruction.borsh.Canonical :=
  (OpenPositionBumps.canonical_borsh.prod <|
    canonical_i32.prod canonical_i32).map _ _ _ fun _ => rfl

theorem OpenPositionInstruction.readsFit_borsh : OpenPositionInstruction.borsh.ReadsFit :=
  (OpenPositionBumps.readsFit_borsh.prod <|
    fixedWidth_i32.readsFit.prod fixedWidth_i32.readsFit).map _ _ _ fun _ => rfl

theorem OpenPositionWithMetadataInstruction.canonical_borsh :
    OpenPositionWithMetadataInstruction.borsh.Canonical :=
  (OpenPositionWithMetadataBumps.canonical_borsh.prod <|
    canonical_i32.prod canonical_i32).map _ _ _ fun _ => rfl

theorem OpenPositionWithMetadataInstruction.readsFit_borsh :
    OpenPositionWithMetadataInstruction.borsh.ReadsFit :=
  (OpenPositionWithMetadataBumps.readsFit_borsh.prod <|
    fixedWidth_i32.readsFit.prod fixedWidth_i32.readsFit).map _ _ _ fun _ => rfl

theorem IncreaseLiquidityInstruction.canonical_borsh :
    IncreaseLiquidityInstruction.borsh.Canonical :=
  (canonical_u128.prod <| canonical_u64.prod canonical_u64).map _ _ _ fun _ => rfl

theorem IncreaseLiquidityInstruction.readsFit_borsh : IncreaseLiquidityInstruction.borsh.ReadsFit :=
  (fixedWidth_u128.readsFit.prod <|
    fixedWidth_u64.readsFit.prod fixedWidth_u64.readsFit).map _ _ _ fun _ => rfl

theorem DecreaseLiquidityInstruction.canonical_borsh :
    DecreaseLiquidityInstruction.borsh.Canonical :=
  (canonical_u128.prod <| canonical_u64.prod canonical_u64).map _ _ _ fun _ => rfl

theorem DecreaseLiquidityInstruction.readsFit_borsh : DecreaseLiquidityInstruction.borsh.ReadsFit :=
  (fixedWidth_u128.readsFit.prod <|
    fixedWidth_u64.readsFit.prod fixedWidth_u64.readsFit).map _ _ _ fun _ => rfl

theorem CollectRewardInstruction.canonical_borsh : CollectRewardInstruction.borsh.Canonical :=
  canonical_u8.map _ _ _ fun _ => rfl

theorem CollectRewardInstruction.readsFit_borsh : CollectRewardInstruction.borsh.ReadsFit :=
  fixedWidth_u8.readsFit.map _ _ _ fun _ => rfl

theorem SwapInstruction.canonical_borsh : SwapInstruction.borsh.Canonical :=
  (canonical_u64.prod <| canonical_u64.prod <| canonical_u128.prod <|
    canonical_bool.prod canonical_bool).map _ _ _ fun _ => rfl

theorem SwapInstruction.readsFit_borsh : SwapInstruction.borsh.ReadsFit :=
  (fixedWidth_u64.readsFit.prod <| fixedWidth_u64.readsFit.prod <| fixedWidth_u128.readsFit.prod <|
    fixedWidth_bool.readsFit.prod fixedWidth_bool.readsFit).map _ _ _ fun _ => rfl

theorem SetDefaultFeeRateInstruction.canonical_borsh :
    SetDefaultFeeRateInstruction.borsh.Canonical :=
  canonical_u16.map _ _ _ fun _ => rfl

theorem SetDefaultFeeRateInstruction.readsFit_borsh : SetDefaultFeeRateInstruction.borsh.ReadsFit :=
  fixedWidth_u16.readsFit.map _ _ _ fun _ => rfl

theorem SetDefaultProtocolFeeRateInstruction.canonical_borsh :
    SetDefaultProtocolFeeRateInstruction.borsh.Canonical :=
  canonical_u16.map _ _ _ fun _ => rfl

theorem SetDefaultProtocolFeeRateInstruction.readsFit_borsh :
    SetDefaultProtocolFeeRateInstruction.borsh.ReadsFit :=
  fixedWidth_u16.readsFit.map _ _ _ fun _ => rfl

theorem SetFeeRateInstruction.canonical_borsh : SetFeeRateInstruction.borsh.Canonical :=
  canonical_u16.map _ _ _ fun _ => rfl

theorem SetFeeRateInstruction.readsFit_borsh : SetFeeRateInstruction.borsh.ReadsFit :=
  fixedWidth_u16.readsFit.map _ _ _ fun _ => rfl

theorem SetProtocolFeeRateInstruction.canonical_borsh :
    SetProtocolFeeRateInstruction.borsh.Canonical :=
  canonical_u16.map _ _ _ fun _ => rfl

theorem SetProtocolFeeRateInstruction.readsFit_borsh :
    SetProtocolFeeRateInstruction.borsh.ReadsFit :=
  fixedWidth_u16.readsFit.map _ _ _ fun _ => rfl

theorem SetRewardAuthorityInstruction.canonical_borsh :
    SetRewardAuthorityInstruction.borsh.Canonical :=
  canonical_u8.map _ _ _ fun _ => rfl

theorem SetRewardAuthorityInstruction.readsFit_borsh :
    SetRewardAuthorityInstruction.borsh.ReadsFit :=
  fixedWidth_u8.readsFit.map _ _ _ fun _ => rfl

theorem SetRewardAuthorityBySuperAuthorityInstruction.canonical_borsh :
    SetRewardAuthorityBySuperAuthorityInstruction.borsh.Canonical :=
  canonical_u8.map _ _ _ fun _ => rfl

theorem SetRewardAuthorityBySuperAuthorityInstruction.readsFit_borsh :
    SetRewardAuthorityBySuperAuthorityInstruction.borsh.ReadsFit :=
  fixedWidth_u8.readsFit.map _ _ _ fun _ => rfl

theorem TwoHopSwapInstruction.canonical_borsh : TwoHopSwapInstruction.borsh.Canonical :=
  (canonical_u64.prod <| canonical_u64.prod <| canonical_bool.prod <| canonical_bool.prod <|
    canonical_bool.prod <| canonical_u128.prod canonical_u128).map _ _ _ fun _ => rfl

theorem TwoHopSwapInstruction.readsFit_borsh : TwoHopSwapInstruction.borsh.ReadsFit :=
  (fixedWidth_u64.readsFit.prod <| fixedWidth_u64.readsFit.prod <| fixedWidth_bool.readsFit.prod <|
    fixedWidth_bool.readsFit.prod <| fixedWidth_bool.readsFit.prod <|
    fixedWidth_u128.readsFit.prod fixedWidth_u128.readsFit).map _ _ _ fun _ => rfl

theorem OpenBundledPositionInstruction.canonical_borsh :
    OpenBundledPositionInstruction.borsh.Canonical :=
  (canonical_u16.prod <| canonical_i32.prod canonical_i32).map _ _ _ fun _ => rfl

theorem OpenBundledPositionInstruction.readsFit_borsh :
    OpenBundledPositionInstruction.borsh.ReadsFit :=
  (fixedWidth_u16.readsFit.prod <|
    fixedWidth_i32.readsFit.prod fixedWidth_i32.readsFit).map _ _ _ fun _ => rfl

theorem CloseBundledPositionInstruction.canonical_borsh :
    CloseBundledPositionInstruction.borsh.Canonical :=
  canonical_u16.map _ _ _ fun _ => rfl

theorem CloseBundledPositionInstruction.readsFit_borsh :
    CloseBundledPositionInstruction.borsh.ReadsFit :=
  fixedWidth_u16.readsFit.map _ _ _ fun _ => rfl

theorem OpenPositionWithTokenExtensionsInstruction.canonical_borsh :
    OpenPositionWithTokenExtensionsInstruction.borsh.Canonical :=
  (canonical_i32.prod <| canonical_i32.prod canonical_bool).map _ _ _ fun _ => rfl

theorem OpenPositionWithTokenExtensionsInstruction.readsFit_borsh :
    OpenPositionWithTokenExtensionsInstruction.borsh.ReadsFit :=
  (fixedWidth_i32.readsFit.prod <|
    fixedWidth_i32.readsFit.prod fixedWidth_bool.readsFit).map _ _ _ fun _ => rfl

theorem LockPositionInstruction.canonical_borsh : LockPositionInstruction.borsh.Canonical :=
  LockType.canonical_borsh.map _ _ _ fun _ => rfl

theorem LockPositionInstruction.readsFit_borsh : LockPositionInstruction.borsh.ReadsFit :=
  LockType.readsFit_borsh.map _ _ _ fun _ => rfl

theorem ResetPositionRangeInstruction.canonical_borsh :
    ResetPositionRangeInstruction.borsh.Canonical :=
  (canonical_i32.prod canonical_i32).map _ _ _ fun _ => rfl

theorem ResetPositionRangeInstruction.readsFit_borsh :
    ResetPositionRangeInstruction.borsh.ReadsFit :=
  (fixedWidth_i32.readsFit.prod fixedWidth_i32.readsFit).map _ _ _ fun _ => rfl

theorem InitializeAdaptiveFeeTierInstruction.canonical_borsh :
    InitializeAdaptiveFeeTierInstruction.borsh.Canonical :=
  (canonical_u16.prod <| canonical_u16.prod <| canonical_pubkey.prod <| canonical_pubkey.prod <|
    canonical_u16.prod <| canonical_u16.prod <| canonical_u16.prod <| canonical_u16.prod <|
    canonical_u32.prod <| canonical_u32.prod <|
    canonical_u16.prod canonical_u16).map _ _ _ fun _ => rfl

theorem InitializeAdaptiveFeeTierInstruction.readsFit_borsh :
    InitializeAdaptiveFeeTierInstruction.borsh.ReadsFit :=
  (fixedWidth_u16.readsFit.prod <| fixedWidth_u16.readsFit.prod <|
    fixedWidth_pubkey.readsFit.prod <| fixedWidth_pubkey.readsFit.prod <|
    fixedWidth_u16.readsFit.prod <| fixedWidth_u16.readsFit.prod <| fixedWidth_u16.readsFit.prod <|
    fixedWidth_u16.readsFit.prod <| fixedWidth_u32.readsFit.prod <| fixedWidth_u32.readsFit.prod <|
    fixedWidth_u16.readsFit.prod fixedWidth_u16.readsFit).map _ _ _ fun _ => rfl

theorem SetDefaultBaseFeeRateInstruction.canonical_borsh :
    SetDefaultBaseFeeRateInstruction.borsh.Canonical :=
  canonical_u16.map _ _ _ fun _ => rfl

theorem SetDefaultBaseFeeRateInstruction.readsFit_borsh :
    SetDefaultBaseFeeRateInstruction.borsh.ReadsFit :=
  fixedWidth_u16.readsFit.map _ _ _ fun _ => rfl

theorem SetPresetAdaptiveFeeConstantsInstruction.canonical_borsh :
    SetPresetAdaptiveFeeConstantsInstruction.borsh.Canonical :=
  (canonical_u16.prod <| canonical_u16.prod <| canonical_u16.prod <| canonical_u32.prod <|
    canonical_u32.prod <| canonical_u16.prod canonical_u16).map _ _ _ fun _ => rfl

theorem SetPresetAdaptiveFeeConstantsInstruction.readsFit_borsh :
    SetPresetAdaptiveFeeConstantsInstruction.borsh.ReadsFit :=
  (fixedWidth_u16.readsFit.prod <| fixedWidth_u16.readsFit.prod <| fixedWidth_u16.readsFit.prod <|
    fixedWidth_u32.readsFit.prod <| fixedWidth_u32.readsFit.prod <|
    fixedWidth_u16.readsFit.prod fixedWidth_u16.readsFit).map _ _ _ fun _ => rfl

theorem InitializePoolWithAdaptiveFeeInstruction.canonical_borsh :
    InitializePoolWithAdaptiveFeeInstruction.borsh.Canonical :=
  (canonical_u128.prod canonical_u64.option).map _ _ _ fun _ => rfl

theorem InitializePoolWithAdaptiveFeeInstruction.readsFit_borsh :
    InitializePoolWithAdaptiveFeeInstruction.borsh.ReadsFit :=
  (fixedWidth_u128.readsFit.prod fixedWidth_u64.readsFit.option).map _ _ _ fun _ => rfl

theorem SetFeeRateByDelegatedFeeAuthorityInstruction.canonical_borsh :
    SetFeeRateByDelegatedFeeAuthorityInstruction.borsh.Canonical :=
  canonical_u16.map _ _ _ fun _ => rfl

theorem SetFeeRateByDelegatedFeeAuthorityInstruction.readsFit_borsh :
    SetFeeRateByDelegatedFeeAuthorityInstruction.borsh.ReadsFit :=
  fixedWidth_u16.readsFit.map _ _ _ fun _ => rfl

theorem CollectFeesV2Instruction.canonical_borsh : CollectFeesV2Instruction.borsh.Canonical :=
  RemainingAccountsInfo.canonical_borsh.option.map _ _ _ fun _ => rfl

theorem CollectFeesV2Instruction.readsFit_borsh : CollectFeesV2Instruction.borsh.ReadsFit :=
  RemainingAccountsInfo.readsFit_borsh.option.map _ _ _ fun _ => rfl

theorem CollectProtocolFeesV2Instruction.canonical_borsh :
    CollectProtocolFeesV2Instruction.borsh.Canonical :=
  RemainingAccountsInfo.canonical_borsh.option.map _ _ _ fun _ => rfl

theorem CollectProtocolFeesV2Instruction.readsFit_borsh :
    CollectProtocolFeesV2Instruction.borsh.ReadsFit :=
  RemainingAccountsInfo.readsFit_borsh.option.map _ _ _ fun _ => rfl

theorem CollectRewardV2Instruction.canonical_borsh : CollectRewardV2Instruction.borsh.Canonical :=
  (canonical_u8.prod RemainingAccountsInfo.canonical_borsh.option).map _ _ _ fun _ => rfl

theorem CollectRewardV2Instruction.readsFit_borsh : CollectRewardV2Instruction.borsh.ReadsFit :=
  (fixedWidth_u8.readsFit.prod RemainingAccountsInfo.readsFit_borsh.option).map _ _ _ fun _ => rfl

theorem DecreaseLiquidityV2Instruction.canonical_borsh :
    DecreaseLiquidityV2Instruction.borsh.Canonical :=
  (canonical_u128.prod <| canonical_u64.prod <|
    canonical_u64.prod RemainingAccountsInfo.canonical_borsh.option).map _ _ _ fun _ => rfl

theorem DecreaseLiquidityV2Instruction.readsFit_borsh :
    DecreaseLiquidityV2Instruction.borsh.ReadsFit :=
  (fixedWidth_u128.readsFit.prod <| fixedWidth_u64.readsFit.prod <|
    fixedWidth_u64.readsFit.prod RemainingAccountsInfo.readsFit_borsh.option).map _ _ _ fun _ => rfl

theorem IncreaseLiquidityV2Instruction.canonical_borsh :
    IncreaseLiquidityV2Instruction.borsh.Canonical :=
  (canonical_u128.prod <| canonical_u64.prod <|
    canonical_u64.prod RemainingAccountsInfo.canonical_borsh.option).map _ _ _ fun _ => rfl

theorem IncreaseLiquidityV2Instruction.readsFit_borsh :
    IncreaseLiquidityV2Instruction.borsh.ReadsFit :=
  (fixedWidth_u128.readsFit.prod <| fixedWidth_u64.readsFit.prod <|
    fixedWidth_u64.readsFit.prod RemainingAccountsInfo.readsFit_borsh.option).map _ _ _ fun _ => rfl

theorem InitializePoolV2Instruction.canonical_borsh : InitializePoolV2Instruction.borsh.Canonical :=
  (canonical_u16.prod canonical_u128).map _ _ _ fun _ => rfl

theorem InitializePoolV2Instruction.readsFit_borsh : InitializePoolV2Instruction.borsh.ReadsFit :=
  (fixedWidth_u16.readsFit.prod fixedWidth_u128.readsFit).map _ _ _ fun _ => rfl

theorem InitializeRewardV2Instruction.canonical_borsh :
    InitializeRewardV2Instruction.borsh.Canonical :=
  canonical_u8.map _ _ _ fun _ => rfl

theorem InitializeRewardV2Instruction.readsFit_borsh :
    InitializeRewardV2Instruction.borsh.ReadsFit :=
  fixedWidth_u8.readsFit.map _ _ _ fun _ => rfl

theorem SetRewardEmissionsV2Instruction.canonical_borsh :
    SetRewardEmissionsV2Instruction.borsh.Canonical :=
  (canonical_u8.prod canonical_u128).map _ _ _ fun _ => rfl

theorem SetRewardEmissionsV2Instruction.readsFit_borsh :
    SetRewardEmissionsV2Instruction.borsh.ReadsFit :=
  (fixedWidth_u8.readsFit.prod fixedWidth_u128.readsFit).map _ _ _ fun _ => rfl

theorem SwapV2Instruction.canonical_borsh : SwapV2Instruction.borsh.Canonical :=
  (canonical_u64.prod <| canonical_u64.prod <| canonical_u128.prod <| canonical_bool.prod <|
    canonical_bool.prod RemainingAccountsInfo.canonical_borsh.option).map _ _ _ fun _ => rfl

theorem SwapV2Instruction.readsFit_borsh : SwapV2Instruction.borsh.ReadsFit :=
  (fixedWidth_u64.readsFit.prod <| fixedWidth_u64.readsFit.prod <| fixedWidth_u128.readsFit.prod <|
    fixedWidth_bool.readsFit.prod <|
    fixedWidth_bool.readsFit.prod RemainingAccountsInfo.readsFit_borsh.option).map _ _ _
    fun _ => rfl

theorem TwoHopSwapV2Instruction.canonical_borsh : TwoHopSwapV2Instruction.borsh.Canonical :=
  (canonical_u64.prod <| canonical_u64.prod <| canonical_bool.prod <| canonical_bool.prod <|
    canonical_bool.prod <| canonical_u128.prod <|
    canonical_u128.prod RemainingAccountsInfo.canonical_borsh.option).map _ _ _ fun _ => rfl

theorem TwoHopSwapV2Instruction.readsFit_borsh : TwoHopSwapV2Instruction.borsh.ReadsFit :=
  (fixedWidth_u64.readsFit.prod <| fixedWidth_u64.readsFit.prod <| fixedWidth_bool.readsFit.prod <|
    fixedWidth_bool.readsFit.prod <| fixedWidth_bool.readsFit.prod <|
    fixedWidth_u128.readsFit.prod <|
    fixedWidth_u128.readsFit.prod RemainingAccountsInfo.readsFit_borsh.option).map _ _ _
    fun _ => rfl

/-! ## The decoder -/

/-- `WhirlpoolInstruction`. -/
inductive WhirlpoolInstruction where
  | InitializeConfig (i : InitializeConfigInstruction)
  | InitializePool (i : InitializePoolInstruction)
  | InitializeTickArray (i : InitializeTickArrayInstruction)
  | InitializeFeeTier (i : InitializeFeeTierInstruction)
  | InitializeReward (i : InitializeRewardInstruction)
  | SetRewardEmissions (i : SetRewardEmissionsInstruction)
  | OpenPosition (i : OpenPositionInstruction)
  | OpenPositionWithMetadata (i : OpenPositionWithMetadataInstruction)
  | IncreaseLiquidity (i : IncreaseLiquidityInstruction)
  | DecreaseLiquidity (i : DecreaseLiquidityInstruction)
  | UpdateFeesAndRewards
  | CollectFees
  | CollectReward (i : CollectRewardInstruction)
  | CollectProtocolFees
  | Swap (i : SwapInstruction)
  | ClosePosition
  | SetDefaultFeeRate (i : SetDefaultFeeRateInstruction)
  | SetDefaultProtocolFeeRate (i : SetDefaultProtocolFeeRateInstruction)
  | SetFeeRate (i : SetFeeRateInstruction)
  | SetProtocolFeeRate (i : SetProtocolFeeRateInstruction)
  | SetFeeAuthority
  | SetCollectProtocolFeesAuthority
  | SetRewardAuthority (i : SetRewardAuthorityInstruction)
  | SetRewardAuthorityBySuperAuthority (i : SetRewardAuthorityBySuperAuthorityInstruction)
  | SetRewardEmissionsSuperAuthority
  | TwoHopSwap (i : TwoHopSwapInstruction)
  | InitializePositionBundle
  | InitializePositionBundleWithMetadata
  | DeletePositionBundle
  | OpenBundledPosition (i : OpenBundledPositionInstruction)
  | CloseBundledPosition (i : CloseBundledPositionInstruction)
  | OpenPositionWithTokenExtensions (i : OpenPositionWithTokenExtensionsInstruction)
  | ClosePositionWithTokenExtensions
  | LockPosition (i : LockPositionInstruction)
  | ResetPositionRange (i : ResetPositionRangeInstruction)
  | TransferLockedPosition
  | InitializeAdaptiveFeeTier (i : InitializeAdaptiveFeeTierInstruction)
  | SetDefaultBaseFeeRate (i : SetDefaultBaseFeeRateInstruction)
  | SetDelegatedFeeAuthority
  | SetInitializePoolAuthority
  | SetPresetAdaptiveFeeConstants (i : SetPresetAdaptiveFeeConstantsInstruction)
  | InitializePoolWithAdaptiveFee (i : InitializePoolWithAdaptiveFeeInstruction)
  | SetFeeRateByDelegatedFeeAuthority (i : SetFeeRateByDelegatedFeeAuthorityInstruction)
  | CollectFeesV2 (i : CollectFeesV2Instruction)
  | CollectProtocolFeesV2 (i : CollectProtocolFeesV2Instruction)
  | CollectRewardV2 (i : CollectRewardV2Instruction)
  | DecreaseLiquidityV2 (i : DecreaseLiquidityV2Instruction)
  | IncreaseLiquidityV2 (i : IncreaseLiquidityV2Instruction)
  | InitializePoolV2 (i : InitializePoolV2Instruction)
  | InitializeRewardV2 (i : InitializeRewardV2Instruction)
  | SetRewardEmissionsV2 (i : SetRewardEmissionsV2Instruction)
  | SwapV2 (i : SwapV2Instruction)
  | TwoHopSwapV2 (i : TwoHopSwapV2Instruction)
  | InitializeConfigExtension
  | SetConfigExtensionAuthority
  | SetTokenBadgeAuthority
  | InitializeTokenBadge
  | DeleteTokenBadge
  deriving DecidableEq

/-- The arms of the `match discriminator` of `try_from`, in the source's order. -/
def arms :
    List (List.Vector UInt8 8 × (List UInt8 → Outcome ParseError WhirlpoolInstruction)) :=
  [(INITIALIZE_CONFIG, decode_arm InitializeConfigInstruction.borsh .InitializeConfig),
   (INITIALIZE_POOL, decode_arm InitializePoolInstruction.borsh .InitializePool),
   (INITIALIZE_TICK_ARRAY, decode_arm InitializeTickArrayInstruction.borsh .InitializeTickArray),
   (INITIALIZE_FEE_TIER, decode_arm InitializeFeeTierInstruction.borsh .InitializeFeeTier),
   (INITIALIZE_REWARD, decode_arm InitializeRewardInstruction.borsh .InitializeReward),
   (SET_REWARD_EMISSIONS, decode_arm SetRewardEmissionsInstruction.borsh .SetRewardEmissions),
   (OPEN_POSITION, decode_arm OpenPositionInstruction.borsh .OpenPosition),
   (OPEN_POSITION_WITH_METADATA,
    decode_arm OpenPositionWithMetadataInstruction.borsh .OpenPositionWithMetadata),
   (INCREASE_LIQUIDITY, decode_arm IncreaseLiquidityInstruction.borsh .IncreaseLiquidity),
   (DECREASE_LIQUIDITY, decode_arm DecreaseLiquidityInstruction.borsh .DecreaseLiquidity),
   (UPDATE_FEES_AND_REWARDS, fun _ => .ok .UpdateFeesAndRewards),
   (COLLECT_FEES, fun _ => .ok .CollectFees),
   (COLLECT_REWARD, decode_arm CollectRewardInstruction.borsh .CollectReward),
   (COLLECT_PROTOCOL_FEES, fun _ => .ok .CollectProtocolFees),
   (SWAP, decode_arm SwapInstruction.borsh .Swap),
   (CLOSE_POSITION, fun _ => .ok .ClosePosition),
   (SET_DEFAULT_FEE_RATE, decode_arm SetDefaultFeeRateInstruction.borsh .SetDefaultFeeRate),
   (SET_DEFAULT_PROTOCOL_FEE_RATE,
    decode_arm SetDefaultProtocolFeeRateInstruction.borsh .SetDefaultProtocolFeeRate),
   (SET_FEE_RATE, decode_arm SetFeeRateInstruction.borsh .SetFeeRate),
   (SET_PROTOCOL_FEE_RATE, decode_arm SetProtocolFeeRateInstruction.borsh .SetProtocolFeeRate),
   (SET_FEE_AUTHORITY, fun _ => .ok .SetFeeAuthority),
   (SET_COLLECT_PROTOCOL_FEES_AUTHORITY, fun _ => .ok .SetCollectProtocolFeesAuthority),
   (SET_REWARD_AUTHORITY, decode_arm SetRewardAuthorityInstruction.borsh .SetRewardAuthority),
   (SET_REWARD_AUTHORITY_BY_SUPER_AUTHORITY,
    decode_arm SetRewardAuthorityBySuperAuthorityInstruction.borsh
      .SetRewardAuthorityBySuperAuthority),
   (SET_REWARD_EMISSIONS_SUPER_AUTHORITY, fun _ => .ok .SetRewardEmissionsSuperAuthority),
   (TWO_HOP_SWAP, decode_arm TwoHopSwapInstruction.borsh .TwoHopSwap),
   (INITIALIZE_POSITION_BUNDLE, fun _ => .ok .InitializePositionBundle),
   (INITIALIZE_POSITION_BUNDLE_WITH_METADATA, fun _ => .ok .InitializePositionBundleWithMetadata),
   (DELETE_POSITION_BUNDLE, fun _ => .ok .DeletePositionBundle),
   (OPEN_BUNDLED_POSITION, decode_arm OpenBundledPositionInstruction.borsh .OpenBundledPosition),
   (CLOSE_BUNDLED_POSITION, decode_arm CloseBundledPositionInstruction.borsh .CloseBundledPosition),
   (OPEN_POSITION_WITH_TOKEN_EXTENSIONS,
    decode_arm OpenPositionWithTokenExtensionsInstruction.borsh .OpenPositionWithTokenExtensions),
   (CLOSE_POSITION_WITH_TOKEN_EXTENSIONS, fun _ => .ok .ClosePositionWithTokenExtensions),
   (LOCK_POSITION, decode_arm LockPositionInstruction.borsh .LockPosition),
   (RESET_POSITION_RANGE, decode_arm ResetPositionRangeInstruction.borsh .ResetPositionRange),
   (TRANSFER_LOCKED_POSITION, fun _ => .ok .TransferLockedPosition),
   (INITIALIZE_ADAPTIVE_FEE_TIER,
    decode_arm InitializeAdaptiveFeeTierInstruction.borsh .InitializeAdaptiveFeeTier),
   (SET_DEFAULT_BASE_FEE_RATE,
    decode_arm SetDefaultBaseFeeRateInstruction.borsh .SetDefaultBaseFeeRate),
   (SET_DELEGATED_FEE_AUTHORITY, fun _ => .ok .SetDelegatedFeeAuthority),
   (SET_INITIALIZE_POOL_AUTHORITY, fun _ => .ok .SetInitializePoolAuthority),
   (SET_PRESET_ADAPTIVE_FEE_CONSTANTS,
    decode_arm SetPresetAdaptiveFeeConstantsInstruction.borsh .SetPresetAdaptiveFeeConstants),
   (INITIALIZE_POOL_WITH_ADAPTIVE_FEE,
    decode_arm InitializePoolWithAdaptiveFeeInstruction.borsh .InitializePoolWithAdaptiveFee),
   (SET_FEE_RATE_BY_DELEGATED_FEE_AUTHORITY,
    decode_arm SetFeeRateByDelegatedFeeAuthorityInstruction.borsh
      .SetFeeRateByDelegatedFeeAuthority),
   (COLLECT_FEES_V2, decode_arm CollectFeesV2Instruction.borsh .CollectFeesV2),
   (COLLECT_PROTOCOL_FEES_V2,
    decode_arm CollectProtocolFeesV2Instruction.borsh .CollectProtocolFeesV2),
   (COLLECT_REWARD_V2, decode_arm CollectRewardV2Instruction.borsh .CollectRewardV2),
   (DECREASE_LIQUIDITY_V2, decode_arm DecreaseLiquidityV2Instruction.borsh .DecreaseLiquidityV2),
   (INCREASE_LIQUIDITY_V2, decode_arm IncreaseLiquidityV2Instruction.borsh .IncreaseLiquidityV2),
   (INITIALIZE_POOL_V2, decode_arm InitializePoolV2Instruction.borsh .InitializePoolV2),
   (INITIALIZE_REWARD_V2, decode_arm InitializeRewardV2Instruction.borsh .InitializeRewardV2),
   (SET_REWARD_EMISSIONS_V2,
    decode_arm SetRewardEmissionsV2Instruction.borsh .SetRewardEmissionsV2),
   (SWAP_V2, decode_arm SwapV2Instruction.borsh .SwapV2),
   (TWO_HOP_SWAP_V2, decode_arm TwoHopSwapV2Instruction.borsh .TwoHopSwapV2),
   (INITIALIZE_CONFIG_EXTENSION, fun _ => .ok .InitializeConfigExtension),
   (SET_CONFIG_EXTENSION_AUTHORITY, fun _ => .ok .SetConfigExtensionAuthority),
   (SET_TOKEN_BADGE_AUTHORITY, fun _ => .ok .SetTokenBadgeAuthority),
   (INITIALIZE_TOKEN_BADGE, fun _ => .ok .InitializeTokenBadge),
   (DELETE_TOKEN_BADGE, fun _ => .ok .DeleteTokenBadge)]

/-- The `match discriminator` of `try_from`: the arm of the discriminator, or `Unknown`. -/
def decode_payload (discriminator : List.Vector UInt8 8) (payload : List UInt8) :
    Outcome ParseError WhirlpoolInstruction :=
  matchConst arms (fun other _ => .err (.Unknown other)) discriminator payload

/-- `WhirlpoolInstruction::try_from`. -/
def try_from (data : List UInt8) : Outcome ParseError WhirlpoolInstruction :=
  anchor_try_from decode_payload data

/-- `unpack`, which forwards to `try_from`. -/
def unpack (data : List UInt8) : Outcome ParseError WhirlpoolInstruction :=
  try_from data

/-! ## Layouts -/

/-- What the program is sent for an instruction: its discriminator, then its arguments as Borsh
writes them. -/
def WhirlpoolInstruction.write : WhirlpoolInstruction → List UInt8
  | .InitializeConfig i => INITIALIZE_CONFIG.toList ++ InitializeConfigInstruction.borsh.write i
  | .InitializePool i => INITIALIZE_POOL.toList ++ InitializePoolInstruction.borsh.write i
  | .InitializeTickArray i =>
    INITIALIZE_TICK_ARRAY.toList ++ InitializeTickArrayInstruction.borsh.write i
  | .InitializeFeeTier i => INITIALIZE_FEE_TIER.toList ++ InitializeFeeTierInstruction.borsh.write i
  | .InitializeReward i => INITIALIZE_REWARD.toList ++ InitializeRewardInstruction.borsh.write i
  | .SetRewardEmissions i =>
    SET_REWARD_EMISSIONS.toList ++ SetRewardEmissionsInstruction.borsh.write i
  | .OpenPosition i => OPEN_POSITION.toList ++ OpenPositionInstruction.borsh.write i
  | .OpenPositionWithMetadata i =>
    OPEN_POSITION_WITH_METADATA.toList ++ OpenPositionWithMetadataInstruction.borsh.write i
  | .IncreaseLiquidity i => INCREASE_LIQUIDITY.toList ++ IncreaseLiquidityInstruction.borsh.write i
  | .DecreaseLiquidity i => DECREASE_LIQUIDITY.toList ++ DecreaseLiquidityInstruction.borsh.write i
  | .UpdateFeesAndRewards => UPDATE_FEES_AND_REWARDS.toList
  | .CollectFees => COLLECT_FEES.toList
  | .CollectReward i => COLLECT_REWARD.toList ++ CollectRewardInstruction.borsh.write i
  | .CollectProtocolFees => COLLECT_PROTOCOL_FEES.toList
  | .Swap i => SWAP.toList ++ SwapInstruction.borsh.write i
  | .ClosePosition => CLOSE_POSITION.toList
  | .SetDefaultFeeRate i =>
    SET_DEFAULT_FEE_RATE.toList ++ SetDefaultFeeRateInstruction.borsh.write i
  | .SetDefaultProtocolFeeRate i =>
    SET_DEFAULT_PROTOCOL_FEE_RATE.toList ++ SetDefaultProtocolFeeRateInstruction.borsh.write i
  | .SetFeeRate i => SET_FEE_RATE.toList ++ SetFeeRateInstruction.borsh.write i
  | .SetProtocolFeeRate i =>
    SET_PROTOCOL_FEE_RATE.toList ++ SetProtocolFeeRateInstruction.borsh.write i
  | .SetFeeAuthority => SET_FEE_AUTHORITY.toList
  | .SetCollectProtocolFeesAuthority => SET_COLLECT_PROTOCOL_FEES_AUTHORITY.toList
  | .SetRewardAuthority i =>
    SET_REWARD_AUTHORITY.toList ++ SetRewardAuthorityInstruction.borsh.write i
  | .SetRewardAuthorityBySuperAuthority i =>
    SET_REWARD_AUTHORITY_BY_SUPER_AUTHORITY.toList ++
      SetRewardAuthorityBySuperAuthorityInstruction.borsh.write i
  | .SetRewardEmissionsSuperAuthority => SET_REWARD_EMISSIONS_SUPER_AUTHORITY.toList
  | .TwoHopSwap i => TWO_HOP_SWAP.toList ++ TwoHopSwapInstruction.borsh.write i
  | .InitializePositionBundle => INITIALIZE_POSITION_BUNDLE.toList
  | .InitializePositionBundleWithMetadata => INITIALIZE_POSITION_BUNDLE_WITH_METADATA.toList
  | .DeletePositionBundle => DELETE_POSITION_BUNDLE.toList
  | .OpenBundledPosition i =>
    OPEN_BUNDLED_POSITION.toList ++ OpenBundledPositionInstruction.borsh.write i
  | .CloseBundledPosition i =>
    CLOSE_BUNDLED_POSITION.toList ++ CloseBundledPositionInstruction.borsh.write i
  | .OpenPositionWithTokenExtensions i =>
    OPEN_POSITION_WITH_TOKEN_EXTENSIONS.toList ++
      OpenPositionWithTokenExtensionsInstruction.borsh.write i
  | .ClosePositionWithTokenExtensions => CLOSE_POSITION_WITH_TOKEN_EXTENSIONS.toList
  | .LockPosition i => LOCK_POSITION.toList ++ LockPositionInstruction.borsh.write i
  | .ResetPositionRange i =>
    RESET_POSITION_RANGE.toList ++ ResetPositionRangeInstruction.borsh.write i
  | .TransferLockedPosition => TRANSFER_LOCKED_POSITION.toList
  | .InitializeAdaptiveFeeTier i =>
    INITIALIZE_ADAPTIVE_FEE_TIER.toList ++ InitializeAdaptiveFeeTierInstruction.borsh.write i
  | .SetDefaultBaseFeeRate i =>
    SET_DEFAULT_BASE_FEE_RATE.toList ++ SetDefaultBaseFeeRateInstruction.borsh.write i
  | .SetDelegatedFeeAuthority => SET_DELEGATED_FEE_AUTHORITY.toList
  | .SetInitializePoolAuthority => SET_INITIALIZE_POOL_AUTHORITY.toList
  | .SetPresetAdaptiveFeeConstants i =>
    SET_PRESET_ADAPTIVE_FEE_CONSTANTS.toList ++
      SetPresetAdaptiveFeeConstantsInstruction.borsh.write i
  | .InitializePoolWithAdaptiveFee i =>
    INITIALIZE_POOL_WITH_ADAPTIVE_FEE.toList ++
      InitializePoolWithAdaptiveFeeInstruction.borsh.write i
  | .SetFeeRateByDelegatedFeeAuthority i =>
    SET_FEE_RATE_BY_DELEGATED_FEE_AUTHORITY.toList ++
      SetFeeRateByDelegatedFeeAuthorityInstruction.borsh.write i
  | .CollectFeesV2 i => COLLECT_FEES_V2.toList ++ CollectFeesV2Instruction.borsh.write i
  | .CollectProtocolFeesV2 i =>
    COLLECT_PROTOCOL_FEES_V2.toList ++ CollectProtocolFeesV2Instruction.borsh.write i
  | .CollectRewardV2 i => COLLECT_REWARD_V2.toList ++ CollectRewardV2Instruction.borsh.write i
  | .DecreaseLiquidityV2 i =>
    DECREASE_LIQUIDITY_V2.toList ++ DecreaseLiquidityV2Instruction.borsh.write i
  | .IncreaseLiquidityV2 i =>
    INCREASE_LIQUIDITY_V2.toList ++ IncreaseLiquidityV2Instruction.borsh.write i
  | .InitializePoolV2 i => INITIALIZE_POOL_V2.toList ++ InitializePoolV2Instruction.borsh.write i
  | .InitializeRewardV2 i =>
    INITIALIZE_REWARD_V2.toList ++ InitializeRewardV2Instruction.borsh.write i
  | .SetRewardEmissionsV2 i =>
    SET_REWARD_EMISSIONS_V2.toList ++ SetRewardEmissionsV2Instruction.borsh.write i
  | .SwapV2 i => SWAP_V2.toList ++ SwapV2Instruction.borsh.write i
  | .TwoHopSwapV2 i => TWO_HOP_SWAP_V2.toList ++ TwoHopSwapV2Instruction.borsh.write i
  | .InitializeConfigExtension => INITIALIZE_CONFIG_EXTENSION.toList
  | .SetConfigExtensionAuthority => SET_CONFIG_EXTENSION_AUTHORITY.toList
  | .SetTokenBadgeAuthority => SET_TOKEN_BADGE_AUTHORITY.toList
  | .InitializeTokenBadge => INITIALIZE_TOKEN_BADGE.toList
  | .DeleteTokenBadge => DELETE_TOKEN_BADGE.toList

/-- The instructions whose arm reads nothing after the discriminator. -/
def WhirlpoolInstruction.argless : WhirlpoolInstruction → Bool
  | .UpdateFeesAndRewards | .CollectFees | .CollectProtocolFees | .ClosePosition | .SetFeeAuthority
    | .SetCollectProtocolFeesAuthority | .SetRewardEmissionsSuperAuthority
    | .InitializePositionBundle | .InitializePositionBundleWithMetadata | .DeletePositionBundle
    | .ClosePositionWithTokenExtensions | .TransferLockedPosition | .SetDelegatedFeeAuthority
    | .SetInitializePoolAuthority | .InitializeConfigExtension | .SetConfigExtensionAuthority
    | .SetTokenBadgeAuthority | .InitializeTokenBadge | .DeleteTokenBadge => true
  | _ => false

/-- The instructions that the decoder can return: those of the program, whose
`Vec`s Borsh can count. -/
def WhirlpoolInstruction.fits : WhirlpoolInstruction → Bool
  | .InitializeConfig i => InitializeConfigInstruction.borsh.fits i
  | .InitializePool i => InitializePoolInstruction.borsh.fits i
  | .InitializeTickArray i => InitializeTickArrayInstruction.borsh.fits i
  | .InitializeFeeTier i => InitializeFeeTierInstruction.borsh.fits i
  | .InitializeReward i => InitializeRewardInstruction.borsh.fits i
  | .SetRewardEmissions i => SetRewardEmissionsInstruction.borsh.fits i
  | .OpenPosition i => OpenPositionInstruction.borsh.fits i
  | .OpenPositionWithMetadata i => OpenPositionWithMetadataInstruction.borsh.fits i
  | .IncreaseLiquidity i => IncreaseLiquidityInstruction.borsh.fits i
  | .DecreaseLiquidity i => DecreaseLiquidityInstruction.borsh.fits i
  | .UpdateFeesAndRewards => true
  | .CollectFees => true
  | .CollectReward i => CollectRewardInstruction.borsh.fits i
  | .CollectProtocolFees => true
  | .Swap i => SwapInstruction.borsh.fits i
  | .ClosePosition => true
  | .SetDefaultFeeRate i => SetDefaultFeeRateInstruction.borsh.fits i
  | .SetDefaultProtocolFeeRate i => SetDefaultProtocolFeeRateInstruction.borsh.fits i
  | .SetFeeRate i => SetFeeRateInstruction.borsh.fits i
  | .SetProtocolFeeRate i => SetProtocolFeeRateInstruction.borsh.fits i
  | .SetFeeAuthority => true
  | .SetCollectProtocolFeesAuthority => true
  | .SetRewardAuthority i => SetRewardAuthorityInstruction.borsh.fits i
  | .SetRewardAuthorityBySuperAuthority i =>
    SetRewardAuthorityBySuperAuthorityInstruction.borsh.fits i
  | .SetRewardEmissionsSuperAuthority => true
  | .TwoHopSwap i => TwoHopSwapInstruction.borsh.fits i
  | .InitializePositionBundle => true
  | .InitializePositionBundleWithMetadata => true
  | .DeletePositionBundle => true
  | .OpenBundledPosition i => OpenBundledPositionInstruction.borsh.fits i
  | .CloseBundledPosition i => CloseBundledPositionInstruction.borsh.fits i
  | .OpenPositionWithTokenExtensions i => OpenPositionWithTokenExtensionsInstruction.borsh.fits i
  | .ClosePositionWithTokenExtensions => true
  | .LockPosition i => LockPositionInstruction.borsh.fits i
  | .ResetPositionRange i => ResetPositionRangeInstruction.borsh.fits i
  | .TransferLockedPosition => true
  | .InitializeAdaptiveFeeTier i => InitializeAdaptiveFeeTierInstruction.borsh.fits i
  | .SetDefaultBaseFeeRate i => SetDefaultBaseFeeRateInstruction.borsh.fits i
  | .SetDelegatedFeeAuthority => true
  | .SetInitializePoolAuthority => true
  | .SetPresetAdaptiveFeeConstants i => SetPresetAdaptiveFeeConstantsInstruction.borsh.fits i
  | .InitializePoolWithAdaptiveFee i => InitializePoolWithAdaptiveFeeInstruction.borsh.fits i
  | .SetFeeRateByDelegatedFeeAuthority i =>
    SetFeeRateByDelegatedFeeAuthorityInstruction.borsh.fits i
  | .CollectFeesV2 i => CollectFeesV2Instruction.borsh.fits i
  | .CollectProtocolFeesV2 i => CollectProtocolFeesV2Instruction.borsh.fits i
  | .CollectRewardV2 i => CollectRewardV2Instruction.borsh.fits i
  | .DecreaseLiquidityV2 i => DecreaseLiquidityV2Instruction.borsh.fits i
  | .IncreaseLiquidityV2 i => IncreaseLiquidityV2Instruction.borsh.fits i
  | .InitializePoolV2 i => InitializePoolV2Instruction.borsh.fits i
  | .InitializeRewardV2 i => InitializeRewardV2Instruction.borsh.fits i
  | .SetRewardEmissionsV2 i => SetRewardEmissionsV2Instruction.borsh.fits i
  | .SwapV2 i => SwapV2Instruction.borsh.fits i
  | .TwoHopSwapV2 i => TwoHopSwapV2Instruction.borsh.fits i
  | .InitializeConfigExtension => true
  | .SetConfigExtensionAuthority => true
  | .SetTokenBadgeAuthority => true
  | .InitializeTokenBadge => true
  | .DeleteTokenBadge => true

/-! ## Every row keeps its promise -/

/-- Every row of the table keeps its promise, failing only with a Borsh error. -/
theorem arms_spec (d : List.Vector UInt8 8)
    (arm : List UInt8 → Outcome ParseError WhirlpoolInstruction) (hmem : (d, arm) ∈ arms) :
    AnchorRow WhirlpoolInstruction.write (·.fits = true) WhirlpoolInstruction.argless
      (fun _ e => ∃ be, e = .Decode be) d arm := by
  simp only [arms, List.mem_cons, Prod.mk.injEq, List.not_mem_nil] at hmem
  -- one goal per row; the list's end is `False`
  repeat' rcases hmem with ⟨rfl, rfl⟩ | hmem
  · exact anchorRow_decode InitializeConfigInstruction.canonical_borsh
      InitializeConfigInstruction.readsFit_borsh (fun _ => rfl) fun _ h => h
  · exact anchorRow_decode InitializePoolInstruction.canonical_borsh
      InitializePoolInstruction.readsFit_borsh (fun _ => rfl) fun _ h => h
  · exact anchorRow_decode InitializeTickArrayInstruction.canonical_borsh
      InitializeTickArrayInstruction.readsFit_borsh (fun _ => rfl) fun _ h => h
  · exact anchorRow_decode InitializeFeeTierInstruction.canonical_borsh
      InitializeFeeTierInstruction.readsFit_borsh (fun _ => rfl) fun _ h => h
  · exact anchorRow_decode InitializeRewardInstruction.canonical_borsh
      InitializeRewardInstruction.readsFit_borsh (fun _ => rfl) fun _ h => h
  · exact anchorRow_decode SetRewardEmissionsInstruction.canonical_borsh
      SetRewardEmissionsInstruction.readsFit_borsh (fun _ => rfl) fun _ h => h
  · exact anchorRow_decode OpenPositionInstruction.canonical_borsh
      OpenPositionInstruction.readsFit_borsh (fun _ => rfl) fun _ h => h
  · exact anchorRow_decode OpenPositionWithMetadataInstruction.canonical_borsh
      OpenPositionWithMetadataInstruction.readsFit_borsh (fun _ => rfl) fun _ h => h
  · exact anchorRow_decode IncreaseLiquidityInstruction.canonical_borsh
      IncreaseLiquidityInstruction.readsFit_borsh (fun _ => rfl) fun _ h => h
  · exact anchorRow_decode DecreaseLiquidityInstruction.canonical_borsh
      DecreaseLiquidityInstruction.readsFit_borsh (fun _ => rfl) fun _ h => h
  · exact anchorRow_bare rfl rfl rfl
  · exact anchorRow_bare rfl rfl rfl
  · exact anchorRow_decode CollectRewardInstruction.canonical_borsh
      CollectRewardInstruction.readsFit_borsh (fun _ => rfl) fun _ h => h
  · exact anchorRow_bare rfl rfl rfl
  · exact anchorRow_decode SwapInstruction.canonical_borsh
      SwapInstruction.readsFit_borsh (fun _ => rfl) fun _ h => h
  · exact anchorRow_bare rfl rfl rfl
  · exact anchorRow_decode SetDefaultFeeRateInstruction.canonical_borsh
      SetDefaultFeeRateInstruction.readsFit_borsh (fun _ => rfl) fun _ h => h
  · exact anchorRow_decode SetDefaultProtocolFeeRateInstruction.canonical_borsh
      SetDefaultProtocolFeeRateInstruction.readsFit_borsh (fun _ => rfl) fun _ h => h
  · exact anchorRow_decode SetFeeRateInstruction.canonical_borsh
      SetFeeRateInstruction.readsFit_borsh (fun _ => rfl) fun _ h => h
  · exact anchorRow_decode SetProtocolFeeRateInstruction.canonical_borsh
      SetProtocolFeeRateInstruction.readsFit_borsh (fun _ => rfl) fun _ h => h
  · exact anchorRow_bare rfl rfl rfl
  · exact anchorRow_bare rfl rfl rfl
  · exact anchorRow_decode SetRewardAuthorityInstruction.canonical_borsh
      SetRewardAuthorityInstruction.readsFit_borsh (fun _ => rfl) fun _ h => h
  · exact anchorRow_decode SetRewardAuthorityBySuperAuthorityInstruction.canonical_borsh
      SetRewardAuthorityBySuperAuthorityInstruction.readsFit_borsh (fun _ => rfl) fun _ h => h
  · exact anchorRow_bare rfl rfl rfl
  · exact anchorRow_decode TwoHopSwapInstruction.canonical_borsh
      TwoHopSwapInstruction.readsFit_borsh (fun _ => rfl) fun _ h => h
  · exact anchorRow_bare rfl rfl rfl
  · exact anchorRow_bare rfl rfl rfl
  · exact anchorRow_bare rfl rfl rfl
  · exact anchorRow_decode OpenBundledPositionInstruction.canonical_borsh
      OpenBundledPositionInstruction.readsFit_borsh (fun _ => rfl) fun _ h => h
  · exact anchorRow_decode CloseBundledPositionInstruction.canonical_borsh
      CloseBundledPositionInstruction.readsFit_borsh (fun _ => rfl) fun _ h => h
  · exact anchorRow_decode OpenPositionWithTokenExtensionsInstruction.canonical_borsh
      OpenPositionWithTokenExtensionsInstruction.readsFit_borsh (fun _ => rfl) fun _ h => h
  · exact anchorRow_bare rfl rfl rfl
  · exact anchorRow_decode LockPositionInstruction.canonical_borsh
      LockPositionInstruction.readsFit_borsh (fun _ => rfl) fun _ h => h
  · exact anchorRow_decode ResetPositionRangeInstruction.canonical_borsh
      ResetPositionRangeInstruction.readsFit_borsh (fun _ => rfl) fun _ h => h
  · exact anchorRow_bare rfl rfl rfl
  · exact anchorRow_decode InitializeAdaptiveFeeTierInstruction.canonical_borsh
      InitializeAdaptiveFeeTierInstruction.readsFit_borsh (fun _ => rfl) fun _ h => h
  · exact anchorRow_decode SetDefaultBaseFeeRateInstruction.canonical_borsh
      SetDefaultBaseFeeRateInstruction.readsFit_borsh (fun _ => rfl) fun _ h => h
  · exact anchorRow_bare rfl rfl rfl
  · exact anchorRow_bare rfl rfl rfl
  · exact anchorRow_decode SetPresetAdaptiveFeeConstantsInstruction.canonical_borsh
      SetPresetAdaptiveFeeConstantsInstruction.readsFit_borsh (fun _ => rfl) fun _ h => h
  · exact anchorRow_decode InitializePoolWithAdaptiveFeeInstruction.canonical_borsh
      InitializePoolWithAdaptiveFeeInstruction.readsFit_borsh (fun _ => rfl) fun _ h => h
  · exact anchorRow_decode SetFeeRateByDelegatedFeeAuthorityInstruction.canonical_borsh
      SetFeeRateByDelegatedFeeAuthorityInstruction.readsFit_borsh (fun _ => rfl) fun _ h => h
  · exact anchorRow_decode CollectFeesV2Instruction.canonical_borsh
      CollectFeesV2Instruction.readsFit_borsh (fun _ => rfl) fun _ h => h
  · exact anchorRow_decode CollectProtocolFeesV2Instruction.canonical_borsh
      CollectProtocolFeesV2Instruction.readsFit_borsh (fun _ => rfl) fun _ h => h
  · exact anchorRow_decode CollectRewardV2Instruction.canonical_borsh
      CollectRewardV2Instruction.readsFit_borsh (fun _ => rfl) fun _ h => h
  · exact anchorRow_decode DecreaseLiquidityV2Instruction.canonical_borsh
      DecreaseLiquidityV2Instruction.readsFit_borsh (fun _ => rfl) fun _ h => h
  · exact anchorRow_decode IncreaseLiquidityV2Instruction.canonical_borsh
      IncreaseLiquidityV2Instruction.readsFit_borsh (fun _ => rfl) fun _ h => h
  · exact anchorRow_decode InitializePoolV2Instruction.canonical_borsh
      InitializePoolV2Instruction.readsFit_borsh (fun _ => rfl) fun _ h => h
  · exact anchorRow_decode InitializeRewardV2Instruction.canonical_borsh
      InitializeRewardV2Instruction.readsFit_borsh (fun _ => rfl) fun _ h => h
  · exact anchorRow_decode SetRewardEmissionsV2Instruction.canonical_borsh
      SetRewardEmissionsV2Instruction.readsFit_borsh (fun _ => rfl) fun _ h => h
  · exact anchorRow_decode SwapV2Instruction.canonical_borsh
      SwapV2Instruction.readsFit_borsh (fun _ => rfl) fun _ h => h
  · exact anchorRow_decode TwoHopSwapV2Instruction.canonical_borsh
      TwoHopSwapV2Instruction.readsFit_borsh (fun _ => rfl) fun _ h => h
  · exact anchorRow_bare rfl rfl rfl
  · exact anchorRow_bare rfl rfl rfl
  · exact anchorRow_bare rfl rfl rfl
  · exact anchorRow_bare rfl rfl rfl
  · exact anchorRow_bare rfl rfl rfl

/-! ## Every layout is read back -/

/-- The 58 discriminators are distinct. -/
theorem arms_nodup : (arms.map Prod.fst).Nodup := by
  decide

theorem unpack_decode {α : Type} {d : List.Vector UInt8 8} {c : Codec α}
    {V : α → WhirlpoolInstruction} (hmem : (d, decode_arm c V) ∈ arms) {x : α}
    (hx : c.fits x = true) : unpack (d.toList ++ c.write x) = .ok (V x) :=
  anchor_table_decode arms_nodup hmem hx

theorem unpack_bare {d : List.Vector UInt8 8} {i : WhirlpoolInstruction}
    (hmem : (d, fun _ => .ok i) ∈ arms) (t : List UInt8) : unpack (d.toList ++ t) = .ok i :=
  anchor_table_bare arms_nodup hmem t

/-- Every instruction that fits is read back from its layout, followed by anything when it has no
arguments. -/
theorem unpack_write_append (i : WhirlpoolInstruction) (t : List UInt8) (hv : i.fits = true)
    (ht : t = [] ∨ i.argless = true) : unpack (i.write ++ t) = .ok i := by
  cases i
  case UpdateFeesAndRewards | CollectFees | CollectProtocolFees | ClosePosition | SetFeeAuthority
    | SetCollectProtocolFeesAuthority | SetRewardEmissionsSuperAuthority | InitializePositionBundle
    | InitializePositionBundleWithMetadata | DeletePositionBundle
    | ClosePositionWithTokenExtensions | TransferLockedPosition | SetDelegatedFeeAuthority
    | SetInitializePoolAuthority | InitializeConfigExtension | SetConfigExtensionAuthority
    | SetTokenBadgeAuthority | InitializeTokenBadge | DeleteTokenBadge =>
    exact unpack_bare (by simp only [arms, List.mem_cons, true_or, or_true]) t
  -- an instruction with arguments admits nothing after them
  all_goals
    obtain rfl : t = [] := ht.resolve_right Bool.false_ne_true
    rw [List.append_nil]
    exact unpack_decode (by simp only [arms, List.mem_cons, true_or, or_true]) hv

/-! ## The decoder is exact -/

/-- The decoder returns an instruction exactly when the instruction fits and the input is its
layout, followed by anything only when the instruction has no arguments; it fails with
`TooShort` below 8 bytes, `Unknown` behind a discriminator of no row, or a Borsh error; and it
never panics. -/
theorem whirlpool_unpack_spec (data : List UInt8) :
    (∀ i, unpack data = .ok i ↔
      i.fits = true ∧ ∃ t, data = i.write ++ t ∧ (t = [] ∨ i.argless = true)) ∧
      (∀ e, unpack data = .err e → (data.length < 8 ∧ e = .TooShort data.length) ∨
        ∃ disc payload, data = disc.toList ++ payload ∧
          ((disc ∉ arms.map Prod.fst ∧ e = .Unknown disc) ∨ ∃ be, e = .Decode be)) ∧
      unpack data ≠ .panic :=
  anchor_table_exact arms_nodup arms_spec unpack_write_append data

end SolanaIdls.orca.whirlpool.instructions
