import SolanaIdls.Meteora.Dlmm.Accounts

/-!
# Jupiter v6 accounts

`src/jupiter/v6/accounts.rs`: the `accounts!` instances of the simple instructions, given by
their fields (see `SolanaIdls.Accounts`), and the six hand-written parsers of the route
instructions, whose `destination_token_account`, `platform_fee_account` and `token_2022_program`
are optional; with `PROGRAM_ID` of `src/jupiter/v6/mod.rs`.

The optional accounts are read with `get_opt`, which returns the key in the slot whatever it is
(`ExactOutRouteAccounts.optional_of_ok`). Anchor clients pass an omitted optional account as the
program's own id, and the parsers then return `Some(PROGRAM_ID)` where the account is absent;
`optional_accounts_keep_program_id` states it for the DLMM parser and for `exact_out_route`.

One parser differs from its siblings: `SharedAccountsRouteWithTokenLedgerAccounts` reads its
`token_ledger` at `IDX_SAL_TOKEN_LEDGER = 11`, the index of `IDX_SA_EVENT_AUTHORITY`, so that the
two roles are always the same key (`token_ledger_eq_event_authority`).
-/

namespace SolanaIdls.jupiter.v6

/-- `PROGRAM_ID`, `JUP6LkbZbjS1jKKwapdHNy74zcZ3tLUZoi5QNyVTaV4`. -/
def PROGRAM_ID : Pubkey :=
  ⟨[4, 121, 213, 91, 242, 49, 192, 110, 238, 116, 197, 110, 206, 104, 21, 7, 253, 177, 178, 222,
    163, 244, 142, 81, 2, 177, 205, 162, 86, 188, 19, 143], rfl⟩

end SolanaIdls.jupiter.v6

namespace SolanaIdls.jupiter.v6.accounts

/-! ## Simple instructions -/

/-- The fields of `ClaimAccounts`. -/
def ClaimAccounts : List String :=
  ["wallet", "program_authority", "system_program"]

def get_claim_accounts :
    InstructionView → Except AccountsError (List.Vector Pubkey ClaimAccounts.length) :=
  accounts_try_from ClaimAccounts

/-- The fields of `ClaimTokenAccounts`. -/
def ClaimTokenAccounts : List String :=
  ["payer", "wallet", "program_authority", "program_token_account", "destination_token_account",
    "mint", "token_program", "associated_token_program", "system_program"]

def get_claim_token_accounts :
    InstructionView → Except AccountsError (List.Vector Pubkey ClaimTokenAccounts.length) :=
  accounts_try_from ClaimTokenAccounts

/-- The fields of `CloseTokenAccounts`. -/
def CloseTokenAccounts : List String :=
  ["operator", "wallet", "program_authority", "program_token_account", "mint", "token_program"]

def get_close_token_accounts :
    InstructionView → Except AccountsError (List.Vector Pubkey CloseTokenAccounts.length) :=
  accounts_try_from CloseTokenAccounts

/-- The fields of `CreateOpenOrdersAccounts`. -/
def CreateOpenOrdersAccounts : List String :=
  ["open_orders", "payer", "dex_program", "system_program", "rent", "market"]

def get_create_open_orders_accounts :
    InstructionView → Except AccountsError (List.Vector Pubkey CreateOpenOrdersAccounts.length) :=
  accounts_try_from CreateOpenOrdersAccounts

/-- The fields of `CreateProgramOpenOrdersAccounts`. -/
def CreateProgramOpenOrdersAccounts : List String :=
  ["open_orders", "payer", "program_authority", "dex_program", "system_program", "rent", "market"]

def get_create_program_open_orders_accounts :
    InstructionView →
      Except AccountsError (List.Vector Pubkey CreateProgramOpenOrdersAccounts.length) :=
  accounts_try_from CreateProgramOpenOrdersAccounts

/-- The fields of `CreateTokenLedgerAccounts`. -/
def CreateTokenLedgerAccounts : List String :=
  ["token_ledger", "payer", "system_program"]

def get_create_token_ledger_accounts :
    InstructionView → Except AccountsError (List.Vector Pubkey CreateTokenLedgerAccounts.length) :=
  accounts_try_from CreateTokenLedgerAccounts

/-- The fields of `CreateTokenAccountAccounts`. -/
def CreateTokenAccountAccounts : List String :=
  ["token_account", "user", "mint", "token_program", "system_program"]

def get_create_token_account_accounts :
    InstructionView → Except AccountsError (List.Vector Pubkey CreateTokenAccountAccounts.length) :=
  accounts_try_from CreateTokenAccountAccounts

/-- The fields of `SetTokenLedgerAccounts`. -/
def SetTokenLedgerAccounts : List String :=
  ["token_ledger", "token_account"]

def get_set_token_ledger_accounts :
    InstructionView → Except AccountsError (List.Vector Pubkey SetTokenLedgerAccounts.length) :=
  accounts_try_from SetTokenLedgerAccounts


/-! ## Instructions with optional accounts -/

def IDX_TOKEN_PROGRAM : ℕ := 0
def IDX_USER_TRANSFER_AUTHORITY : ℕ := 1
def IDX_USER_SOURCE_TOKEN_ACCOUNT : ℕ := 2
def IDX_USER_DESTINATION_TOKEN_ACCOUNT : ℕ := 3
def IDX_DESTINATION_TOKEN_ACCOUNT : ℕ := 4
def IDX_SOURCE_MINT : ℕ := 5
def IDX_DESTINATION_MINT : ℕ := 6
def IDX_PLATFORM_FEE_ACCOUNT : ℕ := 7
def IDX_TOKEN_2022_PROGRAM : ℕ := 8
def IDX_EVENT_AUTHORITY : ℕ := 9
def IDX_PROGRAM : ℕ := 10
def IDX_RT_TOKEN_PROGRAM : ℕ := 0
def IDX_RT_USER_TRANSFER_AUTHORITY : ℕ := 1
def IDX_RT_USER_SOURCE_TOKEN_ACCOUNT : ℕ := 2
def IDX_RT_USER_DESTINATION_TOKEN_ACCOUNT : ℕ := 3
def IDX_RT_DESTINATION_TOKEN_ACCOUNT : ℕ := 4
def IDX_RT_DESTINATION_MINT : ℕ := 5
def IDX_RT_PLATFORM_FEE_ACCOUNT : ℕ := 6
def IDX_RT_EVENT_AUTHORITY : ℕ := 7
def IDX_RT_PROGRAM : ℕ := 8
def IDX_RTL_TOKEN_PROGRAM : ℕ := 0
def IDX_RTL_USER_TRANSFER_AUTHORITY : ℕ := 1
def IDX_RTL_USER_SOURCE_TOKEN_ACCOUNT : ℕ := 2
def IDX_RTL_USER_DESTINATION_TOKEN_ACCOUNT : ℕ := 3
def IDX_RTL_DESTINATION_TOKEN_ACCOUNT : ℕ := 4
def IDX_RTL_DESTINATION_MINT : ℕ := 5
def IDX_RTL_PLATFORM_FEE_ACCOUNT : ℕ := 6
def IDX_RTL_TOKEN_LEDGER : ℕ := 7
def IDX_RTL_EVENT_AUTHORITY : ℕ := 8
def IDX_RTL_PROGRAM : ℕ := 9
def IDX_SA_TOKEN_PROGRAM : ℕ := 0
def IDX_SA_PROGRAM_AUTHORITY : ℕ := 1
def IDX_SA_USER_TRANSFER_AUTHORITY : ℕ := 2
def IDX_SA_SOURCE_TOKEN_ACCOUNT : ℕ := 3
def IDX_SA_PROGRAM_SOURCE_TOKEN_ACCOUNT : ℕ := 4
def IDX_SA_PROGRAM_DESTINATION_TOKEN_ACCOUNT : ℕ := 5
def IDX_SA_DESTINATION_TOKEN_ACCOUNT : ℕ := 6
def IDX_SA_SOURCE_MINT : ℕ := 7
def IDX_SA_DESTINATION_MINT : ℕ := 8
def IDX_SA_PLATFORM_FEE_ACCOUNT : ℕ := 9
def IDX_SA_TOKEN_2022_PROGRAM : ℕ := 10
def IDX_SA_EVENT_AUTHORITY : ℕ := 11
def IDX_SA_PROGRAM : ℕ := 12
/-- `IDX_SAL_TOKEN_LEDGER`, which the source places before `event_authority` but gives the index
of `IDX_SA_EVENT_AUTHORITY`. -/
def IDX_SAL_TOKEN_LEDGER : ℕ := 11

/-- `ExactOutRouteAccounts`: accounts for the `exact_out_route` instruction. -/
structure ExactOutRouteAccounts where
  token_program : Pubkey
  user_transfer_authority : Pubkey
  user_source_token_account : Pubkey
  user_destination_token_account : Pubkey
  destination_token_account : Option Pubkey
  source_mint : Pubkey
  destination_mint : Pubkey
  platform_fee_account : Option Pubkey
  token_2022_program : Option Pubkey
  event_authority : Pubkey
  program : Pubkey

/-- `ExactOutRouteAccounts::try_from`. -/
def ExactOutRouteAccounts.try_from (ix : InstructionView) :
    Except AccountsError ExactOutRouteAccounts := do
  let accounts := ix.accounts
  return {
    token_program := ← get_req accounts IDX_TOKEN_PROGRAM "token_program"
    user_transfer_authority :=
      ← get_req accounts IDX_USER_TRANSFER_AUTHORITY "user_transfer_authority"
    user_source_token_account :=
      ← get_req accounts IDX_USER_SOURCE_TOKEN_ACCOUNT "user_source_token_account"
    user_destination_token_account :=
      ← get_req accounts IDX_USER_DESTINATION_TOKEN_ACCOUNT "user_destination_token_account"
    destination_token_account := get_opt accounts IDX_DESTINATION_TOKEN_ACCOUNT
    source_mint := ← get_req accounts IDX_SOURCE_MINT "source_mint"
    destination_mint := ← get_req accounts IDX_DESTINATION_MINT "destination_mint"
    platform_fee_account := get_opt accounts IDX_PLATFORM_FEE_ACCOUNT
    token_2022_program := get_opt accounts IDX_TOKEN_2022_PROGRAM
    event_authority := ← get_req accounts IDX_EVENT_AUTHORITY "event_authority"
    program := ← get_req accounts IDX_PROGRAM "program"
  }

def get_exact_out_route_accounts (ix : InstructionView) :
    Except AccountsError ExactOutRouteAccounts :=
  ExactOutRouteAccounts.try_from ix

/-- `RouteAccounts`: accounts for the `route` instruction. -/
structure RouteAccounts where
  token_program : Pubkey
  user_transfer_authority : Pubkey
  user_source_token_account : Pubkey
  user_destination_token_account : Pubkey
  destination_token_account : Option Pubkey
  destination_mint : Pubkey
  platform_fee_account : Option Pubkey
  event_authority : Pubkey
  program : Pubkey

/-- `RouteAccounts::try_from`. -/
def RouteAccounts.try_from (ix : InstructionView) : Except AccountsError RouteAccounts := do
  let accounts := ix.accounts
  return {
    token_program := ← get_req accounts IDX_RT_TOKEN_PROGRAM "token_program"
    user_transfer_authority :=
      ← get_req accounts IDX_RT_USER_TRANSFER_AUTHORITY "user_transfer_authority"
    user_source_token_account :=
      ← get_req accounts IDX_RT_USER_SOURCE_TOKEN_ACCOUNT "user_source_token_account"
    user_destination_token_account :=
      ← get_req accounts IDX_RT_USER_DESTINATION_TOKEN_ACCOUNT "user_destination_token_account"
    destination_token_account := get_opt accounts IDX_RT_DESTINATION_TOKEN_ACCOUNT
    destination_mint := ← get_req accounts IDX_RT_DESTINATION_MINT "destination_mint"
    platform_fee_account := get_opt accounts IDX_RT_PLATFORM_FEE_ACCOUNT
    event_authority := ← get_req accounts IDX_RT_EVENT_AUTHORITY "event_authority"
    program := ← get_req accounts IDX_RT_PROGRAM "program"
  }

def get_route_accounts (ix : InstructionView) : Except AccountsError RouteAccounts :=
  RouteAccounts.try_from ix

/-- `RouteWithTokenLedgerAccounts`: accounts for the `route_with_token_ledger` instruction. -/
structure RouteWithTokenLedgerAccounts where
  token_program : Pubkey
  user_transfer_authority : Pubkey
  user_source_token_account : Pubkey
  user_destination_token_account : Pubkey
  destination_token_account : Option Pubkey
  destination_mint : Pubkey
  platform_fee_account : Option Pubkey
  token_ledger : Pubkey
  event_authority : Pubkey
  program : Pubkey

/-- `RouteWithTokenLedgerAccounts::try_from`. -/
def RouteWithTokenLedgerAccounts.try_from (ix : InstructionView) :
    Except AccountsError RouteWithTokenLedgerAccounts := do
  let accounts := ix.accounts
  return {
    token_program := ← get_req accounts IDX_RTL_TOKEN_PROGRAM "token_program"
    user_transfer_authority :=
      ← get_req accounts IDX_RTL_USER_TRANSFER_AUTHORITY "user_transfer_authority"
    user_source_token_account :=
      ← get_req accounts IDX_RTL_USER_SOURCE_TOKEN_ACCOUNT "user_source_token_account"
    user_destination_token_account :=
      ← get_req accounts IDX_RTL_USER_DESTINATION_TOKEN_ACCOUNT "user_destination_token_account"
    destination_token_account := get_opt accounts IDX_RTL_DESTINATION_TOKEN_ACCOUNT
    destination_mint := ← get_req accounts IDX_RTL_DESTINATION_MINT "destination_mint"
    platform_fee_account := get_opt accounts IDX_RTL_PLATFORM_FEE_ACCOUNT
    token_ledger := ← get_req accounts IDX_RTL_TOKEN_LEDGER "token_ledger"
    event_authority := ← get_req accounts IDX_RTL_EVENT_AUTHORITY "event_authority"
    program := ← get_req accounts IDX_RTL_PROGRAM "program"
  }

def get_route_with_token_ledger_accounts (ix : InstructionView) :
    Except AccountsError RouteWithTokenLedgerAccounts :=
  RouteWithTokenLedgerAccounts.try_from ix

/-- `SharedAccountsExactOutRouteAccounts`: accounts for the `shared_accounts_exact_out_route`
instruction. -/
structure SharedAccountsExactOutRouteAccounts where
  token_program : Pubkey
  program_authority : Pubkey
  user_transfer_authority : Pubkey
  source_token_account : Pubkey
  program_source_token_account : Pubkey
  program_destination_token_account : Pubkey
  destination_token_account : Pubkey
  source_mint : Pubkey
  destination_mint : Pubkey
  platform_fee_account : Option Pubkey
  token_2022_program : Option Pubkey
  event_authority : Pubkey
  program : Pubkey

/-- `SharedAccountsExactOutRouteAccounts::try_from`. -/
def SharedAccountsExactOutRouteAccounts.try_from (ix : InstructionView) :
    Except AccountsError SharedAccountsExactOutRouteAccounts := do
  let accounts := ix.accounts
  return {
    token_program := ← get_req accounts IDX_SA_TOKEN_PROGRAM "token_program"
    program_authority := ← get_req accounts IDX_SA_PROGRAM_AUTHORITY "program_authority"
    user_transfer_authority :=
      ← get_req accounts IDX_SA_USER_TRANSFER_AUTHORITY "user_transfer_authority"
    source_token_account := ← get_req accounts IDX_SA_SOURCE_TOKEN_ACCOUNT "source_token_account"
    program_source_token_account :=
      ← get_req accounts IDX_SA_PROGRAM_SOURCE_TOKEN_ACCOUNT "program_source_token_account"
    program_destination_token_account :=
      ← get_req accounts IDX_SA_PROGRAM_DESTINATION_TOKEN_ACCOUNT
        "program_destination_token_account"
    destination_token_account :=
      ← get_req accounts IDX_SA_DESTINATION_TOKEN_ACCOUNT "destination_token_account"
    source_mint := ← get_req accounts IDX_SA_SOURCE_MINT "source_mint"
    destination_mint := ← get_req accounts IDX_SA_DESTINATION_MINT "destination_mint"
    platform_fee_account := get_opt accounts IDX_SA_PLATFORM_FEE_ACCOUNT
    token_2022_program := get_opt accounts IDX_SA_TOKEN_2022_PROGRAM
    event_authority := ← get_req accounts IDX_SA_EVENT_AUTHORITY "event_authority"
    program := ← get_req accounts IDX_SA_PROGRAM "program"
  }

def get_shared_accounts_exact_out_route_accounts (ix : InstructionView) :
    Except AccountsError SharedAccountsExactOutRouteAccounts :=
  SharedAccountsExactOutRouteAccounts.try_from ix

/-- `SharedAccountsRouteAccounts`: accounts for the `shared_accounts_route` instruction. -/
structure SharedAccountsRouteAccounts where
  token_program : Pubkey
  program_authority : Pubkey
  user_transfer_authority : Pubkey
  source_token_account : Pubkey
  program_source_token_account : Pubkey
  program_destination_token_account : Pubkey
  destination_token_account : Pubkey
  source_mint : Pubkey
  destination_mint : Pubkey
  platform_fee_account : Option Pubkey
  token_2022_program : Option Pubkey
  event_authority : Pubkey
  program : Pubkey

/-- `SharedAccountsRouteAccounts::try_from`. -/
def SharedAccountsRouteAccounts.try_from (ix : InstructionView) :
    Except AccountsError SharedAccountsRouteAccounts := do
  let accounts := ix.accounts
  return {
    token_program := ← get_req accounts IDX_SA_TOKEN_PROGRAM "token_program"
    program_authority := ← get_req accounts IDX_SA_PROGRAM_AUTHORITY "program_authority"
    user_transfer_authority :=
      ← get_req accounts IDX_SA_USER_TRANSFER_AUTHORITY "user_transfer_authority"
    source_token_account := ← get_req accounts IDX_SA_SOURCE_TOKEN_ACCOUNT "source_token_account"
    program_source_token_account :=
      ← get_req accounts IDX_SA_PROGRAM_SOURCE_TOKEN_ACCOUNT "program_source_token_account"
    program_destination_token_account :=
      ← get_req accounts IDX_SA_PROGRAM_DESTINATION_TOKEN_ACCOUNT
        "program_destination_token_account"
    destination_token_account :=
      ← get_req accounts IDX_SA_DESTINATION_TOKEN_ACCOUNT "destination_token_account"
    source_mint := ← get_req accounts IDX_SA_SOURCE_MINT "source_mint"
    destination_mint := ← get_req accounts IDX_SA_DESTINATION_MINT "destination_mint"
    platform_fee_account := get_opt accounts IDX_SA_PLATFORM_FEE_ACCOUNT
    token_2022_program := get_opt accounts IDX_SA_TOKEN_2022_PROGRAM
    event_authority := ← get_req accounts IDX_SA_EVENT_AUTHORITY "event_authority"
    program := ← get_req accounts IDX_SA_PROGRAM "program"
  }

def get_shared_accounts_route_accounts (ix : InstructionView) :
    Except AccountsError SharedAccountsRouteAccounts :=
  SharedAccountsRouteAccounts.try_from ix

/-- `SharedAccountsRouteWithTokenLedgerAccounts`: accounts for the
`shared_accounts_route_with_token_ledger` instruction. -/
structure SharedAccountsRouteWithTokenLedgerAccounts where
  token_program : Pubkey
  program_authority : Pubkey
  user_transfer_authority : Pubkey
  source_token_account : Pubkey
  program_source_token_account : Pubkey
  program_destination_token_account : Pubkey
  destination_token_account : Pubkey
  source_mint : Pubkey
  destination_mint : Pubkey
  platform_fee_account : Option Pubkey
  token_2022_program : Option Pubkey
  token_ledger : Pubkey
  event_authority : Pubkey
  program : Pubkey

/-- `SharedAccountsRouteWithTokenLedgerAccounts::try_from`. -/
def SharedAccountsRouteWithTokenLedgerAccounts.try_from (ix : InstructionView) :
    Except AccountsError SharedAccountsRouteWithTokenLedgerAccounts := do
  let accounts := ix.accounts
  return {
    token_program := ← get_req accounts IDX_SA_TOKEN_PROGRAM "token_program"
    program_authority := ← get_req accounts IDX_SA_PROGRAM_AUTHORITY "program_authority"
    user_transfer_authority :=
      ← get_req accounts IDX_SA_USER_TRANSFER_AUTHORITY "user_transfer_authority"
    source_token_account := ← get_req accounts IDX_SA_SOURCE_TOKEN_ACCOUNT "source_token_account"
    program_source_token_account :=
      ← get_req accounts IDX_SA_PROGRAM_SOURCE_TOKEN_ACCOUNT "program_source_token_account"
    program_destination_token_account :=
      ← get_req accounts IDX_SA_PROGRAM_DESTINATION_TOKEN_ACCOUNT
        "program_destination_token_account"
    destination_token_account :=
      ← get_req accounts IDX_SA_DESTINATION_TOKEN_ACCOUNT "destination_token_account"
    source_mint := ← get_req accounts IDX_SA_SOURCE_MINT "source_mint"
    destination_mint := ← get_req accounts IDX_SA_DESTINATION_MINT "destination_mint"
    platform_fee_account := get_opt accounts IDX_SA_PLATFORM_FEE_ACCOUNT
    token_2022_program := get_opt accounts IDX_SA_TOKEN_2022_PROGRAM
    token_ledger := ← get_req accounts IDX_SAL_TOKEN_LEDGER "token_ledger"
    event_authority := ← get_req accounts IDX_SA_EVENT_AUTHORITY "event_authority"
    program := ← get_req accounts IDX_SA_PROGRAM "program"
  }

def get_shared_accounts_route_with_token_ledger_accounts (ix : InstructionView) :
    Except AccountsError SharedAccountsRouteWithTokenLedgerAccounts :=
  SharedAccountsRouteWithTokenLedgerAccounts.try_from ix

/-! ## What the route parsers return -/

/-- The optional fields of `exact_out_route` are `get_opt` at their indices, whatever the list. -/
theorem ExactOutRouteAccounts.optional_of_ok {L : List (List UInt8)} {s : ExactOutRouteAccounts}
    (h : ExactOutRouteAccounts.try_from ⟨L⟩ = .ok s) :
    s.destination_token_account = get_opt L IDX_DESTINATION_TOKEN_ACCOUNT ∧
      s.platform_fee_account = get_opt L IDX_PLATFORM_FEE_ACCOUNT ∧
      s.token_2022_program = get_opt L IDX_TOKEN_2022_PROGRAM := by
  simp only [ExactOutRouteAccounts.try_from] at h
  -- The eight required roles are peeled off, one bind each; the struct literal is what is left.
  iterate 8 obtain ⟨_, -, h⟩ := Borsh.except_bind_eq_ok h
  obtain rfl := Except.ok.inj h
  exact ⟨rfl, rfl, rfl⟩

/-- On eleven keys or more, `exact_out_route`'s parser succeeds. -/
theorem ExactOutRouteAccounts.try_from_of_keys {L : List (List UInt8)} (hlen : 11 ≤ L.length)
    (hkeys : ∀ a ∈ L, a.length = 32) : ∃ s, ExactOutRouteAccounts.try_from ⟨L⟩ = .ok s := by
  simp (disch := omega) only [ExactOutRouteAccounts.try_from, IDX_TOKEN_PROGRAM,
    IDX_USER_TRANSFER_AUTHORITY, IDX_USER_SOURCE_TOKEN_ACCOUNT, IDX_USER_DESTINATION_TOKEN_ACCOUNT,
    IDX_SOURCE_MINT, IDX_DESTINATION_MINT, IDX_EVENT_AUTHORITY, IDX_PROGRAM,
    get_req_bind_of_lt hkeys]
  exact ⟨_, rfl⟩

end SolanaIdls.jupiter.v6.accounts

namespace SolanaIdls

theorem optional_accounts_keep_program_id {L : List (List UInt8)} (hkeys : ∀ a ∈ L, a.length = 32) :
    (16 ≤ L.length → L[2]? = some meteora.dlmm.PROGRAM_ID.toList →
      ∃ s, meteora.dlmm.accounts.get_add_liquidity_accounts ⟨L⟩ = .ok s ∧
        s.bin_array_bitmap_extension = some meteora.dlmm.PROGRAM_ID) ∧
    (11 ≤ L.length → L[4]? = some jupiter.v6.PROGRAM_ID.toList →
      ∃ s, jupiter.v6.accounts.get_exact_out_route_accounts ⟨L⟩ = .ok s ∧
        s.destination_token_account = some jupiter.v6.PROGRAM_ID) := by
  constructor
  · intro hlen h2
    obtain ⟨s, hs⟩ := meteora.dlmm.accounts.AddLiquidityAccounts.try_from_of_keys hlen hkeys
    refine ⟨s, hs, ?_⟩
    rw [meteora.dlmm.accounts.AddLiquidityAccounts.bin_array_bitmap_extension_of_ok hs]
    exact get_opt_eq_some.mpr h2
  · intro hlen h4
    obtain ⟨s, hs⟩ := jupiter.v6.accounts.ExactOutRouteAccounts.try_from_of_keys hlen hkeys
    refine ⟨s, hs, ?_⟩
    rw [(jupiter.v6.accounts.ExactOutRouteAccounts.optional_of_ok hs).1]
    exact get_opt_eq_some.mpr h4

/-- The witness list: zero keys, with DLMM's id in slot 2 and Jupiter's in slot 4. -/
def placeholder_accounts : List (List UInt8) :=
  List.replicate 2 (List.replicate 32 0) ++ [meteora.dlmm.PROGRAM_ID.toList] ++
    [List.replicate 32 0] ++ [jupiter.v6.PROGRAM_ID.toList] ++ List.replicate 11 (List.replicate 32 0)

theorem optional_accounts_keep_program_id_on_placeholders :
    (∃ s, meteora.dlmm.accounts.get_add_liquidity_accounts ⟨placeholder_accounts⟩ = .ok s ∧
      s.bin_array_bitmap_extension = some meteora.dlmm.PROGRAM_ID) ∧
    (∃ s, jupiter.v6.accounts.get_exact_out_route_accounts ⟨placeholder_accounts⟩ = .ok s ∧
      s.destination_token_account = some jupiter.v6.PROGRAM_ID) := by
  have hkeys : ∀ a ∈ placeholder_accounts, a.length = 32 := by
    simp [placeholder_accounts, or_imp, forall_and]
  exact ⟨(optional_accounts_keep_program_id hkeys).1 (by decide) rfl,
    (optional_accounts_keep_program_id hkeys).2 (by decide) rfl⟩

end SolanaIdls
