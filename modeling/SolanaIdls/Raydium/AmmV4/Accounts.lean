import SolanaIdls.Accounts

set_option linter.dupNamespace false

/-!
# Raydium AMM v4 accounts

`src/raydium/amm/v4/accounts.rs`. The two swaps share one hand-written parser,
`SwapBaseAccounts::try_from`, which binds eighteen roles to the fixed indices `IDX_*`, the AMM's
target orders at index 4 being optional; every other instruction's accounts come from the
`accounts!` macro, whose instances here are their field lists (see `SolanaIdls.Accounts`).

The Raydium program accepts the swap's accounts in two layouts: eighteen accounts, or seventeen
with the target orders left out and every later account one index lower. The parser reads the
eighteen-account layout (`swap_base_accounts_of_keys`). On the seventeen-account one it reads
every later role one index too high, and the last, `user_source_owner` at index 17, is one past the end: the
parser fails with `Missing` (`swap_base_accounts_of_length_17`).
-/

namespace SolanaIdls.raydium.amm.v4.accounts

/-! ## The swap accounts -/

def IDX_TOKEN_PROGRAM : ℕ := 0
def IDX_AMM : ℕ := 1
def IDX_AMM_AUTHORITY : ℕ := 2
def IDX_AMM_OPEN_ORDERS : ℕ := 3
def IDX_AMM_TARGET_ORDERS : ℕ := 4
def IDX_POOL_COIN_TOKEN_ACCOUNT : ℕ := 5
def IDX_POOL_PC_TOKEN_ACCOUNT : ℕ := 6
def IDX_SERUM_PROGRAM : ℕ := 7
def IDX_SERUM_MARKET : ℕ := 8
def IDX_SERUM_BIDS : ℕ := 9
def IDX_SERUM_ASKS : ℕ := 10
def IDX_SERUM_EVENT_QUEUE : ℕ := 11
def IDX_SERUM_COIN_VAULT_ACCOUNT : ℕ := 12
def IDX_SERUM_PC_VAULT_ACCOUNT : ℕ := 13
def IDX_SERUM_VAULT_SIGNER : ℕ := 14
def IDX_UER_SOURCE_TOKEN_ACCOUNT : ℕ := 15
def IDX_UER_DESTINATION_TOKEN_ACCOUNT : ℕ := 16
def IDX_USER_SOURCE_OWNER : ℕ := 17

/-- `SwapBaseAccounts`, the accounts of `SwapBaseIn` and `SwapBaseOut`. -/
structure SwapBaseAccounts where
  token_program : Pubkey
  amm : Pubkey
  amm_authority : Pubkey
  amm_open_orders : Pubkey
  amm_target_orders : Option Pubkey
  pool_coin_token_account : Pubkey
  pool_pc_token_account : Pubkey
  serum_program : Pubkey
  serum_market : Pubkey
  serum_bids : Pubkey
  serum_asks : Pubkey
  serum_event_queue : Pubkey
  serum_coin_vault_account : Pubkey
  serum_pc_vault_account : Pubkey
  serum_vault_signer : Pubkey
  uer_source_token_account : Pubkey
  uer_destination_token_account : Pubkey
  user_source_owner : Pubkey
  deriving DecidableEq

/-- `SwapBaseAccounts::try_from`: each role read at its index, the fields in order, returning at
the first required role that fails. -/
def SwapBaseAccounts.try_from (ix : InstructionView) : Except AccountsError SwapBaseAccounts := do
  let accounts := ix.accounts
  return {
    token_program := ← get_req accounts IDX_TOKEN_PROGRAM "token_program"
    amm := ← get_req accounts IDX_AMM "amm"
    amm_authority := ← get_req accounts IDX_AMM_AUTHORITY "amm_authority"
    amm_open_orders := ← get_req accounts IDX_AMM_OPEN_ORDERS "amm_open_orders"
    amm_target_orders := get_opt accounts IDX_AMM_TARGET_ORDERS
    pool_coin_token_account := ← get_req accounts IDX_POOL_COIN_TOKEN_ACCOUNT "pool_coin_token_account"
    pool_pc_token_account := ← get_req accounts IDX_POOL_PC_TOKEN_ACCOUNT "pool_pc_token_account"
    serum_program := ← get_req accounts IDX_SERUM_PROGRAM "serum_program"
    serum_market := ← get_req accounts IDX_SERUM_MARKET "serum_market"
    serum_bids := ← get_req accounts IDX_SERUM_BIDS "serum_bids"
    serum_asks := ← get_req accounts IDX_SERUM_ASKS "serum_asks"
    serum_event_queue := ← get_req accounts IDX_SERUM_EVENT_QUEUE "serum_event_queue"
    serum_coin_vault_account :=
      ← get_req accounts IDX_SERUM_COIN_VAULT_ACCOUNT "serum_coin_vault_account"
    serum_pc_vault_account := ← get_req accounts IDX_SERUM_PC_VAULT_ACCOUNT "serum_pc_vault_account"
    serum_vault_signer := ← get_req accounts IDX_SERUM_VAULT_SIGNER "serum_vault_signer"
    uer_source_token_account :=
      ← get_req accounts IDX_UER_SOURCE_TOKEN_ACCOUNT "uer_source_token_account"
    uer_destination_token_account :=
      ← get_req accounts IDX_UER_DESTINATION_TOKEN_ACCOUNT "uer_destination_token_account"
    user_source_owner := ← get_req accounts IDX_USER_SOURCE_OWNER "user_source_owner"
  }

def get_swap_base_in_accounts (ix : InstructionView) : Except AccountsError SwapBaseAccounts :=
  SwapBaseAccounts.try_from ix

def get_swap_base_out_accounts (ix : InstructionView) : Except AccountsError SwapBaseAccounts :=
  SwapBaseAccounts.try_from ix

/-- On seventeen keys, the layout with the target orders left out, the parser fails: it reads
`user_source_owner` at index 17, past the end. -/
theorem swap_base_accounts_of_length_17 {L : List (List UInt8)} (hlen : L.length = 17)
    (hkeys : ∀ a ∈ L, a.length = 32) :
    get_swap_base_in_accounts ⟨L⟩ = .error (.Missing "user_source_owner" 17) ∧
      get_swap_base_out_accounts ⟨L⟩ = .error (.Missing "user_source_owner" 17) := by
  have h : SwapBaseAccounts.try_from ⟨L⟩ = .error (.Missing "user_source_owner" 17) := by
    simp (disch := omega) only [SwapBaseAccounts.try_from, IDX_TOKEN_PROGRAM, IDX_AMM,
      IDX_AMM_AUTHORITY, IDX_AMM_OPEN_ORDERS, IDX_AMM_TARGET_ORDERS, IDX_POOL_COIN_TOKEN_ACCOUNT,
      IDX_POOL_PC_TOKEN_ACCOUNT, IDX_SERUM_PROGRAM, IDX_SERUM_MARKET, IDX_SERUM_BIDS,
      IDX_SERUM_ASKS, IDX_SERUM_EVENT_QUEUE, IDX_SERUM_COIN_VAULT_ACCOUNT,
      IDX_SERUM_PC_VAULT_ACCOUNT, IDX_SERUM_VAULT_SIGNER, IDX_UER_SOURCE_TOKEN_ACCOUNT,
      IDX_UER_DESTINATION_TOKEN_ACCOUNT, IDX_USER_SOURCE_OWNER, get_req_bind_of_lt hkeys,
      get_req_of_le, Borsh.except_error_bind]
  exact ⟨h, h⟩

theorem swap_base_accounts_of_length_17_on_zero_keys :
    get_swap_base_in_accounts ⟨List.replicate 17 (List.replicate 32 0)⟩ =
        .error (.Missing "user_source_owner" 17) ∧
      get_swap_base_out_accounts ⟨List.replicate 17 (List.replicate 32 0)⟩ =
        .error (.Missing "user_source_owner" 17) :=
  swap_base_accounts_of_length_17 (by simp) (by simp)

/-! ## The accounts of the other instructions

Each struct that `accounts!` generates is given by its fields, and its getter is
`accounts_try_from` at them. -/

/-- The fields of `Initialize2Accounts`. -/
def Initialize2Accounts : List String :=
  ["token_program", "spl_associated_token_account", "system_program", "rent", "amm",
    "amm_authority", "amm_open_orders", "lp_mint", "coin_mint", "pc_mint",
    "pool_coin_token_account", "pool_pc_token_account", "pool_withdraw_queue", "amm_target_orders",
    "pool_temp_lp", "serum_program", "serum_market", "user_wallet", "user_token_coin",
    "user_token_pc", "user_lp_token_account"]

def get_initialize2_accounts :
    InstructionView → Except AccountsError (List.Vector Pubkey Initialize2Accounts.length) :=
  accounts_try_from Initialize2Accounts

/-- The fields of `InitializeAccounts`. -/
def InitializeAccounts : List String :=
  ["token_program", "system_program", "rent", "amm", "amm_authority", "amm_open_orders",
    "lp_mint_address", "coin_mint_address", "pc_mint_address", "pool_coin_token_account",
    "pool_pc_token_account", "pool_withdraw_queue", "pool_target_orders_account",
    "user_lp_token_account", "pool_temp_lp_token_account", "serum_program", "serum_market",
    "user_wallet"]

def get_initialize_accounts :
    InstructionView → Except AccountsError (List.Vector Pubkey InitializeAccounts.length) :=
  accounts_try_from InitializeAccounts

/-- The fields of `MonitorStepAccounts`. -/
def MonitorStepAccounts : List String :=
  ["token_program", "rent", "clock", "amm", "amm_authority", "amm_open_orders",
    "amm_target_orders", "pool_coin_token_account", "pool_pc_token_account", "pool_withdraw_queue",
    "serum_program", "serum_market", "serum_coin_vault_account", "serum_pc_vault_account",
    "serum_vault_signer", "serum_req_q", "serum_event_q", "serum_bids", "serum_asks"]

def get_monitor_step_accounts :
    InstructionView → Except AccountsError (List.Vector Pubkey MonitorStepAccounts.length) :=
  accounts_try_from MonitorStepAccounts

/-- The fields of `DepositAccounts`. -/
def DepositAccounts : List String :=
  ["token_program", "amm", "amm_authority", "amm_open_orders", "amm_target_orders",
    "lp_mint_address", "pool_coin_token_account", "pool_pc_token_account", "serum_market",
    "user_coin_token_account", "user_pc_token_account", "user_lp_token_account", "user_owner",
    "serum_event_queue"]

def get_deposit_accounts :
    InstructionView → Except AccountsError (List.Vector Pubkey DepositAccounts.length) :=
  accounts_try_from DepositAccounts

/-- The fields of `WithdrawAccounts`. -/
def WithdrawAccounts : List String :=
  ["token_program", "amm", "amm_authority", "amm_open_orders", "amm_target_orders",
    "lp_mint_address", "pool_coin_token_account", "pool_pc_token_account", "pool_withdraw_queue",
    "pool_temp_lp_token_account", "serum_program", "serum_market", "serum_coin_vault_account",
    "serum_pc_vault_account", "serum_vault_signer", "user_lp_token_account",
    "uer_coin_token_account", "uer_pc_token_account", "user_owner", "serum_event_q", "serum_bids",
    "serum_asks"]

def get_withdraw_accounts :
    InstructionView → Except AccountsError (List.Vector Pubkey WithdrawAccounts.length) :=
  accounts_try_from WithdrawAccounts

/-- The fields of `MigrateToOpenBookAccounts`. -/
def MigrateToOpenBookAccounts : List String :=
  ["token_program", "system_program", "rent", "amm", "amm_authority", "amm_open_orders",
    "amm_token_coin", "amm_token_pc", "amm_target_orders", "serum_program", "serum_market",
    "serum_bids", "serum_asks", "serum_event_queue", "serum_coin_vault", "serum_pc_vault",
    "serum_vault_signer", "new_amm_open_orders", "new_serum_program", "new_serum_market", "admin"]

def get_migrate_to_open_book_accounts :
    InstructionView → Except AccountsError (List.Vector Pubkey MigrateToOpenBookAccounts.length) :=
  accounts_try_from MigrateToOpenBookAccounts

/-- The fields of `SetParamsAccounts`. -/
def SetParamsAccounts : List String :=
  ["token_program", "amm", "amm_authority", "amm_open_orders", "amm_target_orders",
    "amm_coin_vault", "amm_pc_vault", "serum_program", "serum_market", "serum_coin_vault",
    "serum_pc_vault", "serum_vault_signer", "serum_event_queue", "serum_bids", "serum_asks",
    "amm_admin_account"]

def get_set_params_accounts :
    InstructionView → Except AccountsError (List.Vector Pubkey SetParamsAccounts.length) :=
  accounts_try_from SetParamsAccounts

/-- The fields of `WithdrawPnlAccounts`. -/
def WithdrawPnlAccounts : List String :=
  ["token_program", "amm", "amm_config", "amm_authority", "amm_open_orders",
    "pool_coin_token_account", "pool_pc_token_account", "coin_pnl_token_account",
    "pc_pnl_token_account", "pnl_owner_account", "amm_target_orders", "serum_program",
    "serum_market", "serum_event_queue", "serum_coin_vault_account", "serum_pc_vault_account",
    "serum_vault_signer"]

def get_withdraw_pnl_accounts :
    InstructionView → Except AccountsError (List.Vector Pubkey WithdrawPnlAccounts.length) :=
  accounts_try_from WithdrawPnlAccounts

/-- The fields of `WithdrawSrmAccounts`. -/
def WithdrawSrmAccounts : List String :=
  ["token_program", "amm", "amm_owner_account", "amm_authority", "srm_token", "dest_srm_token"]

def get_withdraw_srm_accounts :
    InstructionView → Except AccountsError (List.Vector Pubkey WithdrawSrmAccounts.length) :=
  accounts_try_from WithdrawSrmAccounts

/-- The fields of `SimulateInfoAccounts`. -/
def SimulateInfoAccounts : List String :=
  ["amm", "amm_authority", "amm_open_orders", "pool_coin_token_account", "pool_pc_token_account",
    "lp_mint_address", "serum_market", "serum_event_queue"]

def get_simulate_info_accounts :
    InstructionView → Except AccountsError (List.Vector Pubkey SimulateInfoAccounts.length) :=
  accounts_try_from SimulateInfoAccounts

/-- The fields of `AdminCancelOrdersAccounts`. -/
def AdminCancelOrdersAccounts : List String :=
  ["token_program", "amm", "amm_authority", "amm_open_orders", "amm_target_orders",
    "pool_coin_token_account", "pool_pc_token_account", "amm_owner_account", "amm_config",
    "serum_program", "serum_market", "serum_coin_vault_account", "serum_pc_vault_account",
    "serum_vault_signer", "serum_event_q", "serum_bids", "serum_asks"]

def get_admin_cancel_orders_accounts :
    InstructionView → Except AccountsError (List.Vector Pubkey AdminCancelOrdersAccounts.length) :=
  accounts_try_from AdminCancelOrdersAccounts

/-- The fields of `CreateConfigAccountAccounts`. -/
def CreateConfigAccountAccounts : List String :=
  ["admin", "amm_config", "owner", "system_program", "rent"]

def get_create_config_account_accounts :
    InstructionView → Except AccountsError (List.Vector Pubkey CreateConfigAccountAccounts.length) :=
  accounts_try_from CreateConfigAccountAccounts

/-- The fields of `UpdateConfigAccountAccounts`. -/
def UpdateConfigAccountAccounts : List String :=
  ["admin", "amm_config"]

def get_update_config_account_accounts :
    InstructionView → Except AccountsError (List.Vector Pubkey UpdateConfigAccountAccounts.length) :=
  accounts_try_from UpdateConfigAccountAccounts

/-- The fields of `PreInitializeAccounts`. -/
def PreInitializeAccounts : List String :=
  ["token_program", "system_program", "rent", "amm_target_orders", "pool_withdraw_queue",
    "amm_authority", "lp_mint_address", "coin_mint_address", "pc_mint_address",
    "pool_coin_token_account", "pool_pc_token_account", "pool_temp_lp_token_account",
    "serum_market", "user_wallet"]

def get_pre_initialize_accounts :
    InstructionView → Except AccountsError (List.Vector Pubkey PreInitializeAccounts.length) :=
  accounts_try_from PreInitializeAccounts

end SolanaIdls.raydium.amm.v4.accounts
