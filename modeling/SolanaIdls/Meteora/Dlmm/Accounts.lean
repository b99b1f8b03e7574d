import SolanaIdls.Accounts

/-!
# Meteora DLMM accounts

`AddLiquidityAccounts::try_from` of `src/meteora/dlmm/accounts.rs`, one of the program's
hand-written parsers, whose `bin_array_bitmap_extension` at index 2 is optional, and the
program's `PROGRAM_ID` of `src/meteora/dlmm/mod.rs`.

An Anchor client passes an optional account that it leaves out as the program's own id, in the
account's slot. The parser reads the optional slot with `get_opt`, which checks only that the
entry is there and has 32 bytes, so the field is whatever key stands there
(`bin_array_bitmap_extension_of_ok`): on a list that carries the placeholder it is
`Some(PROGRAM_ID)`, never `None`.
-/

namespace SolanaIdls.meteora.dlmm

/-- `PROGRAM_ID`, `LBUZKhRxPF3XUpBCjp4YzTKgLccjZhTSDM9YuVaPwxo`. -/
def PROGRAM_ID : Pubkey :=
  ⟨[4, 233, 225, 47, 188, 132, 232, 38, 201, 50, 204, 233, 226, 100, 12, 206, 21, 89, 12, 28, 98,
    115, 176, 146, 87, 8, 186, 59, 133, 32, 176, 188], rfl⟩

end SolanaIdls.meteora.dlmm

namespace SolanaIdls.meteora.dlmm.accounts



/-- `AddLiquidityAccounts`: accounts for the `add_liquidity` instruction. -/
structure AddLiquidityAccounts where
  position : Pubkey
  lb_pair : Pubkey
  bin_array_bitmap_extension : Option Pubkey
  user_token_x : Pubkey
  user_token_y : Pubkey
  reserve_x : Pubkey
  reserve_y : Pubkey
  token_x_mint : Pubkey
  token_y_mint : Pubkey
  bin_array_lower : Pubkey
  bin_array_upper : Pubkey
  sender : Pubkey
  token_x_program : Pubkey
  token_y_program : Pubkey
  event_authority : Pubkey
  program : Pubkey

/-- `AddLiquidityAccounts::try_from`. -/
def AddLiquidityAccounts.try_from (ix : InstructionView) :
    Except AccountsError AddLiquidityAccounts := do
  let accounts := ix.accounts
  return {
    position := ← get_req accounts 0 "position"
    lb_pair := ← get_req accounts 1 "lb_pair"
    bin_array_bitmap_extension := get_opt accounts 2
    user_token_x := ← get_req accounts 3 "user_token_x"
    user_token_y := ← get_req accounts 4 "user_token_y"
    reserve_x := ← get_req accounts 5 "reserve_x"
    reserve_y := ← get_req accounts 6 "reserve_y"
    token_x_mint := ← get_req accounts 7 "token_x_mint"
    token_y_mint := ← get_req accounts 8 "token_y_mint"
    bin_array_lower := ← get_req accounts 9 "bin_array_lower"
    bin_array_upper := ← get_req accounts 10 "bin_array_upper"
    sender := ← get_req accounts 11 "sender"
    token_x_program := ← get_req accounts 12 "token_x_program"
    token_y_program := ← get_req accounts 13 "token_y_program"
    event_authority := ← get_req accounts 14 "event_authority"
    program := ← get_req accounts 15 "program"
  }

def get_add_liquidity_accounts (ix : InstructionView) : Except AccountsError AddLiquidityAccounts :=
  AddLiquidityAccounts.try_from ix

/-- The optional field is `get_opt` at index 2, whatever the list: the bitmap extension is the key
in its slot, the program's own id included. -/
theorem AddLiquidityAccounts.bin_array_bitmap_extension_of_ok {L : List (List UInt8)}
    {s : AddLiquidityAccounts} (h : AddLiquidityAccounts.try_from ⟨L⟩ = .ok s) :
    s.bin_array_bitmap_extension = get_opt L 2 := by
  simp only [AddLiquidityAccounts.try_from] at h
  -- The fifteen required roles are peeled off, one bind each; the struct literal is what is left.
  iterate 15 obtain ⟨_, -, h⟩ := Borsh.except_bind_eq_ok h
  obtain rfl := Except.ok.inj h
  rfl

/-- On sixteen keys or more, the parser succeeds. -/
theorem AddLiquidityAccounts.try_from_of_keys {L : List (List UInt8)} (hlen : 16 ≤ L.length)
    (hkeys : ∀ a ∈ L, a.length = 32) : ∃ s, AddLiquidityAccounts.try_from ⟨L⟩ = .ok s := by
  simp (disch := omega) only [AddLiquidityAccounts.try_from, get_req_bind_of_lt hkeys]
  exact ⟨_, rfl⟩

end SolanaIdls.meteora.dlmm.accounts
