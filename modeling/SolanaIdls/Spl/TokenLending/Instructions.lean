import SolanaIdls.Spl.Arms

/-!
# SPL Token Lending instructions

`spl::token_lending::instructions::unpack` of `src/spl/token_lending/instructions.rs`: the SPL
decoders' `try_from` over the 15 tags of Token Lending. Nine arms read an amount, eight
little-endian bytes after the tag; the other six return their variant without reading anything.

The decoder returns an instruction exactly on the inputs that start with its layout
`TokenLendingInstruction.write`, reports a short input or an unknown tag otherwise, and never
panics (`token_lending_unpack_spec`).
-/

namespace SolanaIdls.spl.token_lending.instructions

open Borsh Borsh.Codec

/-! ## Discriminators and instructions -/

def INIT_LENDING_MARKET : UInt8 := 0
def SET_LENDING_MARKET_OWNER : UInt8 := 1
def INIT_RESERVE : UInt8 := 2
def REFRESH_RESERVE : UInt8 := 3
def DEPOSIT_RESERVE_LIQUIDITY : UInt8 := 4
def REDEEM_RESERVE_COLLATERAL : UInt8 := 5
def INIT_OBLIGATION : UInt8 := 6
def REFRESH_OBLIGATION : UInt8 := 7
def DEPOSIT_OBLIGATION_COLLATERAL : UInt8 := 8
def WITHDRAW_OBLIGATION_COLLATERAL : UInt8 := 9
def BORROW_OBLIGATION_LIQUIDITY : UInt8 := 10
def REPAY_OBLIGATION_LIQUIDITY : UInt8 := 11
def LIQUIDATE_OBLIGATION : UInt8 := 12
def FLASH_LOAN : UInt8 := 13
def DEPOSIT_RESERVE_LIQUIDITY_AND_OBLIGATION_COLLATERAL : UInt8 := 14

/-- `TokenLendingInstruction`. -/
inductive TokenLendingInstruction where
  | InitLendingMarket
  | SetLendingMarketOwner
  | InitReserve
  | RefreshReserve
  | DepositReserveLiquidity (liquidity_amount : UInt64)
  | RedeemReserveCollateral (collateral_amount : UInt64)
  | InitObligation
  | RefreshObligation
  | DepositObligationCollateral (collateral_amount : UInt64)
  | WithdrawObligationCollateral (collateral_amount : UInt64)
  | BorrowObligationLiquidity (liquidity_amount : UInt64)
  | RepayObligationLiquidity (liquidity_amount : UInt64)
  | LiquidateObligation (liquidity_amount : UInt64)
  | FlashLoan (amount : UInt64)
  | DepositReserveLiquidityAndObligationCollateral (liquidity_amount : UInt64)
  deriving DecidableEq

/-- The bytes that `unpack` reads for each instruction: its tag, then its amounts, each as eight
little-endian bytes. -/
def TokenLendingInstruction.write : TokenLendingInstruction → List UInt8
  | .InitLendingMarket => [INIT_LENDING_MARKET]
  | .SetLendingMarketOwner => [SET_LENDING_MARKET_OWNER]
  | .InitReserve => [INIT_RESERVE]
  | .RefreshReserve => [REFRESH_RESERVE]
  | .DepositReserveLiquidity liquidity_amount =>
    DEPOSIT_RESERVE_LIQUIDITY :: u64.write liquidity_amount
  | .RedeemReserveCollateral collateral_amount =>
    REDEEM_RESERVE_COLLATERAL :: u64.write collateral_amount
  | .InitObligation => [INIT_OBLIGATION]
  | .RefreshObligation => [REFRESH_OBLIGATION]
  | .DepositObligationCollateral collateral_amount =>
    DEPOSIT_OBLIGATION_COLLATERAL :: u64.write collateral_amount
  | .WithdrawObligationCollateral collateral_amount =>
    WITHDRAW_OBLIGATION_COLLATERAL :: u64.write collateral_amount
  | .BorrowObligationLiquidity liquidity_amount =>
    BORROW_OBLIGATION_LIQUIDITY :: u64.write liquidity_amount
  | .RepayObligationLiquidity liquidity_amount =>
    REPAY_OBLIGATION_LIQUIDITY :: u64.write liquidity_amount
  | .LiquidateObligation liquidity_amount => LIQUIDATE_OBLIGATION :: u64.write liquidity_amount
  | .FlashLoan amount => FLASH_LOAN :: u64.write amount
  | .DepositReserveLiquidityAndObligationCollateral liquidity_amount =>
    DEPOSIT_RESERVE_LIQUIDITY_AND_OBLIGATION_COLLATERAL :: u64.write liquidity_amount

/-! ## The decoder -/

/-- The rows of the `match data[0]` of `try_from`, in the source's order: the arm of each tag,
run on `data` and `rest = &data[1..]`. -/
def arms :
    List (UInt8 × (List UInt8 → List UInt8 → Outcome ParseError TokenLendingInstruction)) :=
  [(INIT_LENDING_MARKET, fun _ _ => .ok .InitLendingMarket),
   (SET_LENDING_MARKET_OWNER, fun _ _ => .ok .SetLendingMarketOwner),
   (INIT_RESERVE, fun _ _ => .ok .InitReserve),
   (REFRESH_RESERVE, fun _ _ => .ok .RefreshReserve),
   (DEPOSIT_RESERVE_LIQUIDITY, fun data rest => amount_arm data rest .DepositReserveLiquidity),
   (REDEEM_RESERVE_COLLATERAL, fun data rest => amount_arm data rest .RedeemReserveCollateral),
   (INIT_OBLIGATION, fun _ _ => .ok .InitObligation),
   (REFRESH_OBLIGATION, fun _ _ => .ok .RefreshObligation),
   (DEPOSIT_OBLIGATION_COLLATERAL,
    fun data rest => amount_arm data rest .DepositObligationCollateral),
   (WITHDRAW_OBLIGATION_COLLATERAL,
    fun data rest => amount_arm data rest .WithdrawObligationCollateral),
   (BORROW_OBLIGATION_LIQUIDITY, fun data rest => amount_arm data rest .BorrowObligationLiquidity),
   (REPAY_OBLIGATION_LIQUIDITY, fun data rest => amount_arm data rest .RepayObligationLiquidity),
   (LIQUIDATE_OBLIGATION, fun data rest => amount_arm data rest .LiquidateObligation),
   (FLASH_LOAN, fun data rest => amount_arm data rest .FlashLoan),
   (DEPOSIT_RESERVE_LIQUIDITY_AND_OBLIGATION_COLLATERAL,
    fun data rest => amount_arm data rest .DepositReserveLiquidityAndObligationCollateral)]

/-- The `match data[0]` of `try_from`; `rest` is `&data[1..]`. -/
def dispatch (tag : UInt8) (data rest : List UInt8) : Outcome ParseError TokenLendingInstruction :=
  matchConst arms (fun other _ _ => .err (.SplUnknown other)) tag data rest

/-- `TokenLendingInstruction::try_from`. -/
def try_from (data : List UInt8) : Outcome ParseError TokenLendingInstruction :=
  try_from_tag dispatch data

/-- `unpack`, which forwards to `try_from`. -/
def unpack (data : List UInt8) : Outcome ParseError TokenLendingInstruction :=
  try_from data

/-! ## The table -/

/-- The discriminators are the bytes 0 to 14, in order. -/
theorem arms_keys : arms.map Prod.fst = (List.range 15).map UInt8.ofNat := rfl

theorem arms_nodup : (arms.map Prod.fst).Nodup := by
  rw [arms_keys]
  exact nodup_range_ofNat (by decide)

/-- Every row keeps the promise of an SPL arm. -/
theorem arms_spec (k : UInt8)
    (arm : List UInt8 → List UInt8 → Outcome ParseError TokenLendingInstruction)
    (hmem : (k, arm) ∈ arms) : TooShortSpec TokenLendingInstruction.write k arm := by
  simp only [arms, List.mem_cons, Prod.mk.injEq, List.not_mem_nil] at hmem
  -- one goal per row; the list's end is `False`
  repeat' rcases hmem with ⟨rfl, rfl⟩ | hmem
  all_goals first
    | exact ArmSpec.const rfl
    | exact armSpec_amount fun _ => rfl

/-! ## What the decoder reads -/

/-- Every instruction is read back from its layout, whatever follows it. -/
theorem unpack_write_append (i : TokenLendingInstruction) (t : List UInt8) :
    unpack (i.write ++ t) = .ok i := by
  cases i
  case DepositReserveLiquidity a | RedeemReserveCollateral a | DepositObligationCollateral a |
    WithdrawObligationCollateral a | BorrowObligationLiquidity a | RepayObligationLiquidity a |
    LiquidateObligation a | FlashLoan a | DepositReserveLiquidityAndObligationCollateral a =>
    exact try_from_tag_amount arms_nodup _ (by simp only [arms, List.mem_cons, true_or, or_true])
      a t
  -- The rest have no fields: their layout is the tag alone.
  all_goals
    exact try_from_tag_bare arms_nodup _ (by simp only [arms, List.mem_cons, true_or, or_true]) t

/-- The decoder returns an instruction exactly on the inputs that start with its layout; it fails
only with `TooShort` of the input's length or with `SplUnknown` of a first byte above 14, and it
never panics. -/
theorem token_lending_unpack_spec (data : List UInt8) :
    (∀ i, unpack data = .ok i ↔ ∃ t, data = i.write ++ t) ∧
      (∀ e, unpack data = .err e → e = .TooShort data.length ∨
        ∃ tag rest, data = tag :: rest ∧ 15 ≤ tag.toNat ∧ e = .SplUnknown tag) ∧
      unpack data ≠ .panic :=
  try_from_tag_exact (by decide) arms_keys arms_spec unpack_write_append data

end SolanaIdls.spl.token_lending.instructions
