import SolanaIdls.Spl.Arms

/-!
# SPL Token Swap instructions

`spl::token_swap::instructions::unpack` of `src/spl/token_swap/instructions.rs`: the SPL
decoders' `try_from` over the 6 tags of Token Swap. `Initialize` reads nothing after the tag; the
deposits and withdrawals of all token types read three amounts, and the other three instructions
two, each amount eight little-endian bytes.

The decoder returns an instruction exactly on the inputs that start with its layout
`TokenSwapInstruction.write`, reports a short input or an unknown tag otherwise, and never panics
(`token_swap_unpack_spec`).
-/

namespace SolanaIdls.spl.token_swap.instructions

open Borsh Borsh.Codec

/-! ## Discriminators and instructions -/

def INITIALIZE : UInt8 := 0
def SWAP : UInt8 := 1
def DEPOSIT_ALL_TOKEN_TYPES : UInt8 := 2
def WITHDRAW_ALL_TOKEN_TYPES : UInt8 := 3
def DEPOSIT_SINGLE_TOKEN_TYPE_EXACT_AMOUNT_IN : UInt8 := 4
def WITHDRAW_SINGLE_TOKEN_TYPE_EXACT_AMOUNT_OUT : UInt8 := 5

/-- `TokenSwapInstruction`. -/
inductive TokenSwapInstruction where
  | Initialize
  | Swap (amount_in : UInt64) (minimum_amount_out : UInt64)
  | DepositAllTokenTypes (pool_token_amount : UInt64) (maximum_token_a_amount : UInt64)
      (maximum_token_b_amount : UInt64)
  | WithdrawAllTokenTypes (pool_token_amount : UInt64) (minimum_token_a_amount : UInt64)
      (minimum_token_b_amount : UInt64)
  | DepositSingleTokenTypeExactAmountIn (source_token_amount : UInt64)
      (minimum_pool_token_amount : UInt64)
  | WithdrawSingleTokenTypeExactAmountOut (destination_token_amount : UInt64)
      (maximum_pool_token_amount : UInt64)
  deriving DecidableEq

/-- The bytes that `unpack` reads for each instruction: its tag, then its amounts, each as eight
little-endian bytes. -/
def TokenSwapInstruction.write : TokenSwapInstruction → List UInt8
  | .Initialize => [INITIALIZE]
  | .Swap amount_in minimum_amount_out =>
    SWAP :: (u64.write amount_in ++ u64.write minimum_amount_out)
  | .DepositAllTokenTypes pool_token_amount maximum_token_a_amount maximum_token_b_amount =>
    DEPOSIT_ALL_TOKEN_TYPES :: (u64.write pool_token_amount ++
      (u64.write maximum_token_a_amount ++ u64.write maximum_token_b_amount))
  | .WithdrawAllTokenTypes pool_token_amount minimum_token_a_amount minimum_token_b_amount =>
    WITHDRAW_ALL_TOKEN_TYPES :: (u64.write pool_token_amount ++
      (u64.write minimum_token_a_amount ++ u64.write minimum_token_b_amount))
  | .DepositSingleTokenTypeExactAmountIn source_token_amount minimum_pool_token_amount =>
    DEPOSIT_SINGLE_TOKEN_TYPE_EXACT_AMOUNT_IN :: (u64.write source_token_amount ++
      u64.write minimum_pool_token_amount)
  | .WithdrawSingleTokenTypeExactAmountOut destination_token_amount maximum_pool_token_amount =>
    WITHDRAW_SINGLE_TOKEN_TYPE_EXACT_AMOUNT_OUT :: (u64.write destination_token_amount ++
      u64.write maximum_pool_token_amount)

/-! ## The decoder -/

/-- The rows of the `match data[0]` of `try_from`, in the source's order: the arm of each tag,
run on `data` and `rest = &data[1..]`. -/
def arms :
    List (UInt8 × (List UInt8 → List UInt8 → Outcome ParseError TokenSwapInstruction)) :=
  [(INITIALIZE, fun _ _ => .ok .Initialize),
   (SWAP, fun data rest => amounts2_arm data rest .Swap),
   (DEPOSIT_ALL_TOKEN_TYPES, fun data rest => amounts3_arm data rest .DepositAllTokenTypes),
   (WITHDRAW_ALL_TOKEN_TYPES, fun data rest => amounts3_arm data rest .WithdrawAllTokenTypes),
   (DEPOSIT_SINGLE_TOKEN_TYPE_EXACT_AMOUNT_IN,
    fun data rest => amounts2_arm data rest .DepositSingleTokenTypeExactAmountIn),
   (WITHDRAW_SINGLE_TOKEN_TYPE_EXACT_AMOUNT_OUT,
    fun data rest => amounts2_arm data rest .WithdrawSingleTokenTypeExactAmountOut)]

/-- The `match data[0]` of `try_from`; `rest` is `&data[1..]`. -/
def dispatch (tag : UInt8) (data rest : List UInt8) : Outcome ParseError TokenSwapInstruction :=
  matchConst arms (fun other _ _ => .err (.SplUnknown other)) tag data rest

/-- `TokenSwapInstruction::try_from`. -/
def try_from (data : List UInt8) : Outcome ParseError TokenSwapInstruction :=
  try_from_tag dispatch data

/-- `unpack`, which forwards to `try_from`. -/
def unpack (data : List UInt8) : Outcome ParseError TokenSwapInstruction :=
  try_from data

/-! ## The table -/

/-- The discriminators are the bytes 0 to 5, in order. -/
theorem arms_keys : arms.map Prod.fst = (List.range 6).map UInt8.ofNat := rfl

theorem arms_nodup : (arms.map Prod.fst).Nodup := by
  rw [arms_keys]
  exact nodup_range_ofNat (by decide)

/-- Every row keeps the promise of an SPL arm. -/
theorem arms_spec (k : UInt8)
    (arm : List UInt8 → List UInt8 → Outcome ParseError TokenSwapInstruction)
    (hmem : (k, arm) ∈ arms) : TooShortSpec TokenSwapInstruction.write k arm := by
  simp only [arms, List.mem_cons, Prod.mk.injEq, List.not_mem_nil] at hmem
  -- one goal per row; the list's end is `False`
  repeat' rcases hmem with ⟨rfl, rfl⟩ | hmem
  all_goals first
    | exact ArmSpec.const rfl
    | exact armSpec_amounts2 fun _ _ => rfl
    | exact armSpec_amounts3 fun _ _ _ => rfl

/-! ## What the decoder reads -/

/-- Every instruction is read back from its layout, whatever follows it. -/
theorem unpack_write_append (i : TokenSwapInstruction) (t : List UInt8) :
    unpack (i.write ++ t) = .ok i := by
  cases i
  case Initialize =>
    exact try_from_tag_bare arms_nodup _ (by simp only [arms, List.mem_cons, true_or]) t
  case Swap a b | DepositSingleTokenTypeExactAmountIn a b |
    WithdrawSingleTokenTypeExactAmountOut a b =>
    exact try_from_tag_amounts2 arms_nodup _ (by simp only [arms, List.mem_cons, true_or, or_true])
      a b t
  case DepositAllTokenTypes a b c | WithdrawAllTokenTypes a b c =>
    exact try_from_tag_amounts3 arms_nodup _ (by simp only [arms, List.mem_cons, true_or, or_true])
      a b c t

/-- The decoder returns an instruction exactly on the inputs that start with its layout; it fails
only with `TooShort` of the input's length or with `SplUnknown` of a first byte above 5, and it
never panics. -/
theorem token_swap_unpack_spec (data : List UInt8) :
    (∀ i, unpack data = .ok i ↔ ∃ t, data = i.write ++ t) ∧
      (∀ e, unpack data = .err e → e = .TooShort data.length ∨
        ∃ tag rest, data = tag :: rest ∧ 6 ≤ tag.toNat ∧ e = .SplUnknown tag) ∧
      unpack data ≠ .panic :=
  try_from_tag_exact (by decide) arms_keys arms_spec unpack_write_append data

end SolanaIdls.spl.token_swap.instructions
