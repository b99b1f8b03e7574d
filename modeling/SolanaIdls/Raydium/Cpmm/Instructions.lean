import SolanaIdls.Common

/-!
# Raydium CPMM instructions

`raydium::cpmm::instructions::unpack` of `src/raydium/cpmm/instructions.rs`: Anchor's 8-byte
discriminator, then either nothing more (`ClosePermissionPda`, `CollectCreatorFee`,
`CreatePermissionPda`) or the instruction's arguments, decoded with Borsh from the whole payload.
Its `match` is a table whose every row keeps the promise of an Anchor row, so the decoder is exact
(`raydium_cpmm_unpack_spec`): it returns an instruction exactly on the instruction's layout,
followed by anything only when the instruction has no arguments.
-/

namespace SolanaIdls.raydium.cpmm.instructions

open Borsh Borsh.Codec

/-! ## Discriminators -/

def CLOSE_PERMISSION_PDA : List.Vector UInt8 8 := disc8 156 84 32 118 69 135 70 123
def COLLECT_CREATOR_FEE : List.Vector UInt8 8 := disc8 20 22 86 123 198 28 219 132
def COLLECT_FUND_FEE : List.Vector UInt8 8 := disc8 167 138 78 149 223 194 6 126
def COLLECT_PROTOCOL_FEE : List.Vector UInt8 8 := disc8 136 136 252 221 194 66 126 89
def CREATE_AMM_CONFIG : List.Vector UInt8 8 := disc8 137 52 237 212 215 117 108 104
def CREATE_PERMISSION_PDA : List.Vector UInt8 8 := disc8 135 136 2 216 137 169 181 202
def DEPOSIT : List.Vector UInt8 8 := disc8 242 35 198 137 82 225 242 182
def INITIALIZE : List.Vector UInt8 8 := disc8 175 175 109 31 13 152 155 237
def INITIALIZE_WITH_PERMISSION : List.Vector UInt8 8 := disc8 63 55 254 65 49 178 89 121
def SWAP_BASE_INPUT : List.Vector UInt8 8 := disc8 143 190 90 218 196 30 51 222
def SWAP_BASE_OUTPUT : List.Vector UInt8 8 := disc8 55 217 98 86 163 74 180 173
def UPDATE_AMM_CONFIG : List.Vector UInt8 8 := disc8 49 60 174 136 154 28 116 200
def UPDATE_POOL_STATUS : List.Vector UInt8 8 := disc8 130 87 108 6 46 224 117 123
def WITHDRAW : List.Vector UInt8 8 := disc8 183 18 70 156 148 109 161 34

/-! ## Payloads -/

/-- `CreatorFeeOn`. -/
inductive CreatorFeeOn where
  | BothToken
  | OnlyToken0
  | OnlyToken1
  deriving DecidableEq

/-- `CollectFundFeeInstruction`. -/
structure CollectFundFeeInstruction where
  amount_0_requested : UInt64
  amount_1_requested : UInt64
  deriving DecidableEq

/-- `CollectProtocolFeeInstruction`. -/
structure CollectProtocolFeeInstruction where
  amount_0_requested : UInt64
  amount_1_requested : UInt64
  deriving DecidableEq

/-- `CreateAmmConfigInstruction`. -/
structure CreateAmmConfigInstruction where
  index : UInt16
  trade_fee_rate : UInt64
  protocol_fee_rate : UInt64
  fund_fee_rate : UInt64
  create_pool_fee : UInt64
  creator_fee_rate : UInt64
  deriving DecidableEq

/-- `DepositInstruction`. -/
structure DepositInstruction where
  lp_token_amount : UInt64
  maximum_token_0_amount : UInt64
  maximum_token_1_amount : UInt64
  deriving DecidableEq

/-- `InitializeInstruction`. -/
structure InitializeInstruction where
  init_amount_0 : UInt64
  init_amount_1 : UInt64
  open_time : UInt64
  deriving DecidableEq

/-- `InitializeWithPermissionInstruction`. -/
structure InitializeWithPermissionInstruction where
  init_amount_0 : UInt64
  init_amount_1 : UInt64
  open_time : UInt64
  creator_fee_on : CreatorFeeOn
  deriving DecidableEq

/-- `SwapBaseInputInstruction`. -/
structure SwapBaseInputInstruction where
  amount_in : UInt64
  minimum_amount_out : UInt64
  deriving DecidableEq

/-- `SwapBaseOutputInstruction`. -/
structure SwapBaseOutputInstruction where
  max_amount_in : UInt64
  amount_out : UInt64
  deriving DecidableEq

/-- `UpdateAmmConfigInstruction`. -/
structure UpdateAmmConfigInstruction where
  param : UInt8
  value : UInt64
  deriving DecidableEq

/-- `UpdatePoolStatusInstruction`. -/
structure UpdatePoolStatusInstruction where
  status : UInt8
  deriving DecidableEq

/-- `WithdrawInstruction`. -/
structure WithdrawInstruction where
  lp_token_amount : UInt64
  minimum_token_0_amount : UInt64
  minimum_token_1_amount : UInt64
  deriving DecidableEq

/-! ## Borsh layouts, as the derives write them -/

def CreatorFeeOn.borsh : Codec CreatorFeeOn :=
  unitEnum (fun | .BothToken => 0 | .OnlyToken0 => 1 | .OnlyToken1 => 2)
    (fun t => [((0 : UInt8), CreatorFeeOn.BothToken), (1, .OnlyToken0), (2, .OnlyToken1)].lookup t)
    (by intro x; cases x <;> rfl)

def CollectFundFeeInstruction.borsh : Codec CollectFundFeeInstruction :=
  (u64.prod u64).map (fun (a, b) => ⟨a, b⟩)
    (fun x => (x.amount_0_requested, x.amount_1_requested)) fun _ => rfl

def CollectProtocolFeeInstruction.borsh : Codec CollectProtocolFeeInstruction :=
  (u64.prod u64).map (fun (a, b) => ⟨a, b⟩)
    (fun x => (x.amount_0_requested, x.amount_1_requested)) fun _ => rfl

def CreateAmmConfigInstruction.borsh : Codec CreateAmmConfigInstruction :=
  (u16.prod <| u64.prod <| u64.prod <| u64.prod <| u64.prod u64).map
    (fun (a, b, c, d, e, f) => ⟨a, b, c, d, e, f⟩)
    (fun x => (x.index, x.trade_fee_rate, x.protocol_fee_rate, x.fund_fee_rate, x.create_pool_fee,
      x.creator_fee_rate))
    fun _ => rfl

def DepositInstruction.borsh : Codec DepositInstruction :=
  (u64.prod <| u64.prod u64).map (fun (a, b, c) => ⟨a, b, c⟩)
    (fun x => (x.lp_token_amount, x.maximum_token_0_amount, x.maximum_token_1_amount)) fun _ => rfl

def InitializeInstruction.borsh : Codec InitializeInstruction :=
  (u64.prod <| u64.prod u64).map (fun (a, b, c) => ⟨a, b, c⟩)
    (fun x => (x.init_amount_0, x.init_amount_1, x.open_time)) fun _ => rfl

def InitializeWithPermissionInstruction.borsh : Codec InitializeWithPermissionInstruction :=
  (u64.prod <| u64.prod <| u64.prod CreatorFeeOn.borsh).map (fun (a, b, c, d) => ⟨a, b, c, d⟩)
    (fun x => (x.init_amount_0, x.init_amount_1, x.open_time, x.creator_fee_on)) fun _ => rfl

def SwapBaseInputInstruction.borsh : Codec SwapBaseInputInstruction :=
  (u64.prod u64).map (fun (a, b) => ⟨a, b⟩) (fun x => (x.amount_in, x.minimum_amount_out))
    fun _ => rfl

def SwapBaseOutputInstruction.borsh : Codec SwapBaseOutputInstruction :=
  (u64.prod u64).map (fun (a, b) => ⟨a, b⟩) (fun x => (x.max_amount_in, x.amount_out))
    fun _ => rfl

def UpdateAmmConfigInstruction.borsh : Codec UpdateAmmConfigInstruction :=
  (u8.prod u64).map (fun (a, b) => ⟨a, b⟩) (fun x => (x.param, x.value)) fun _ => rfl

def UpdatePoolStatusInstruction.borsh : Codec UpdatePoolStatusInstruction :=
  u8.map (fun a => ⟨a⟩) (fun x => x.status) fun _ => rfl

def WithdrawInstruction.borsh : Codec WithdrawInstruction :=
  (u64.prod <| u64.prod u64).map (fun (a, b, c) => ⟨a, b, c⟩)
    (fun x => (x.lp_token_amount, x.minimum_token_0_amount, x.minimum_token_1_amount)) fun _ => rfl

/-! ## The decoder -/

/-- `RaydiumCpmmInstruction`. -/
inductive RaydiumCpmmInstruction where
  | ClosePermissionPda
  | CollectCreatorFee
  | CollectFundFee (i : CollectFundFeeInstruction)
  | CollectProtocolFee (i : CollectProtocolFeeInstruction)
  | CreateAmmConfig (i : CreateAmmConfigInstruction)
  | CreatePermissionPda
  | Deposit (i : DepositInstruction)
  | Initialize (i : InitializeInstruction)
  | InitializeWithPermission (i : InitializeWithPermissionInstruction)
  | SwapBaseInput (i : SwapBaseInputInstruction)
  | SwapBaseOutput (i : SwapBaseOutputInstruction)
  | UpdateAmmConfig (i : UpdateAmmConfigInstruction)
  | UpdatePoolStatus (i : UpdatePoolStatusInstruction)
  | Withdraw (i : WithdrawInstruction)
  | Unknown
  deriving DecidableEq

/-- The arms of the `match discriminator` of `try_from`, in the source's order. -/
def arms :
    List (List.Vector UInt8 8 × (List UInt8 → Outcome ParseError RaydiumCpmmInstruction)) :=
  [(CLOSE_PERMISSION_PDA, fun _ => .ok .ClosePermissionPda),
   (COLLECT_CREATOR_FEE, fun _ => .ok .CollectCreatorFee),
   (COLLECT_FUND_FEE, decode_arm CollectFundFeeInstruction.borsh .CollectFundFee),
   (COLLECT_PROTOCOL_FEE, decode_arm CollectProtocolFeeInstruction.borsh .CollectProtocolFee),
   (CREATE_AMM_CONFIG, decode_arm CreateAmmConfigInstruction.borsh .CreateAmmConfig),
   (CREATE_PERMISSION_PDA, fun _ => .ok .CreatePermissionPda),
   (DEPOSIT, decode_arm DepositInstruction.borsh .Deposit),
   (INITIALIZE, decode_arm InitializeInstruction.borsh .Initialize),
   (INITIALIZE_WITH_PERMISSION,
    decode_arm InitializeWithPermissionInstruction.borsh .InitializeWithPermission),
   (SWAP_BASE_INPUT, decode_arm SwapBaseInputInstruction.borsh .SwapBaseInput),
   (SWAP_BASE_OUTPUT, decode_arm SwapBaseOutputInstruction.borsh .SwapBaseOutput),
   (UPDATE_AMM_CONFIG, decode_arm UpdateAmmConfigInstruction.borsh .UpdateAmmConfig),
   (UPDATE_POOL_STATUS, decode_arm UpdatePoolStatusInstruction.borsh .UpdatePoolStatus),
   (WITHDRAW, decode_arm WithdrawInstruction.borsh .Withdraw)]

/-- The `match discriminator` of `try_from`: the arm of the discriminator, or `Unknown`. -/
def decode_payload (discriminator : List.Vector UInt8 8) (payload : List UInt8) :
    Outcome ParseError RaydiumCpmmInstruction :=
  matchConst arms (fun other _ => .err (.Unknown other)) discriminator payload

/-- `RaydiumCpmmInstruction::try_from`. -/
def try_from (data : List UInt8) : Outcome ParseError RaydiumCpmmInstruction :=
  anchor_try_from decode_payload data

/-- `unpack`, which forwards to `try_from`. -/
def unpack (data : List UInt8) : Outcome ParseError RaydiumCpmmInstruction :=
  try_from data

/-! ## Layouts -/

/-- What the program is sent for an instruction: its discriminator, then its arguments as Borsh
writes them. `Unknown` is no instruction of the program and has no layout. -/
def RaydiumCpmmInstruction.write : RaydiumCpmmInstruction → List UInt8
  | .ClosePermissionPda => CLOSE_PERMISSION_PDA.toList
  | .CollectCreatorFee => COLLECT_CREATOR_FEE.toList
  | .CollectFundFee i => COLLECT_FUND_FEE.toList ++ CollectFundFeeInstruction.borsh.write i
  | .CollectProtocolFee i =>
    COLLECT_PROTOCOL_FEE.toList ++ CollectProtocolFeeInstruction.borsh.write i
  | .CreateAmmConfig i => CREATE_AMM_CONFIG.toList ++ CreateAmmConfigInstruction.borsh.write i
  | .CreatePermissionPda => CREATE_PERMISSION_PDA.toList
  | .Deposit i => DEPOSIT.toList ++ DepositInstruction.borsh.write i
  | .Initialize i => INITIALIZE.toList ++ InitializeInstruction.borsh.write i
  | .InitializeWithPermission i =>
    INITIALIZE_WITH_PERMISSION.toList ++ InitializeWithPermissionInstruction.borsh.write i
  | .SwapBaseInput i => SWAP_BASE_INPUT.toList ++ SwapBaseInputInstruction.borsh.write i
  | .SwapBaseOutput i => SWAP_BASE_OUTPUT.toList ++ SwapBaseOutputInstruction.borsh.write i
  | .UpdateAmmConfig i => UPDATE_AMM_CONFIG.toList ++ UpdateAmmConfigInstruction.borsh.write i
  | .UpdatePoolStatus i => UPDATE_POOL_STATUS.toList ++ UpdatePoolStatusInstruction.borsh.write i
  | .Withdraw i => WITHDRAW.toList ++ WithdrawInstruction.borsh.write i
  | .Unknown => []

/-- The instructions whose arm reads nothing after the discriminator. -/
def RaydiumCpmmInstruction.argless : RaydiumCpmmInstruction → Bool
  | .ClosePermissionPda | .CollectCreatorFee | .CreatePermissionPda => true
  | _ => false

/-! ## Every row keeps its promise -/

theorem CreatorFeeOn.canonical_borsh : CreatorFeeOn.borsh.Canonical := by
  refine Canonical.unitEnum_lookup fun t x hmem => ?_
  simp only [List.mem_cons, Prod.mk.injEq, List.not_mem_nil] at hmem
  repeat' rcases hmem with ⟨rfl, rfl⟩ | hmem
  all_goals rfl

theorem CollectFundFeeInstruction.canonical_borsh : CollectFundFeeInstruction.borsh.Canonical :=
  (canonical_u64.prod canonical_u64).map _ _ _ fun _ => rfl

theorem CollectProtocolFeeInstruction.canonical_borsh :
    CollectProtocolFeeInstruction.borsh.Canonical :=
  (canonical_u64.prod canonical_u64).map _ _ _ fun _ => rfl

theorem CreateAmmConfigInstruction.canonical_borsh : CreateAmmConfigInstruction.borsh.Canonical :=
  (canonical_u16.prod <| canonical_u64.prod <| canonical_u64.prod <| canonical_u64.prod <|
    canonical_u64.prod canonical_u64).map _ _ _ fun _ => rfl

theorem DepositInstruction.canonical_borsh : DepositInstruction.borsh.Canonical :=
  (canonical_u64.prod <| canonical_u64.prod canonical_u64).map _ _ _ fun _ => rfl

theorem InitializeInstruction.canonical_borsh : InitializeInstruction.borsh.Canonical :=
  (canonical_u64.prod <| canonical_u64.prod canonical_u64).map _ _ _ fun _ => rfl

theorem InitializeWithPermissionInstruction.canonical_borsh :
    InitializeWithPermissionInstruction.borsh.Canonical :=
  (canonical_u64.prod <| canonical_u64.prod <| canonical_u64.prod
    CreatorFeeOn.canonical_borsh).map _ _ _ fun _ => rfl

theorem SwapBaseInputInstruction.canonical_borsh : SwapBaseInputInstruction.borsh.Canonical :=
  (canonical_u64.prod canonical_u64).map _ _ _ fun _ => rfl

theorem SwapBaseOutputInstruction.canonical_borsh : SwapBaseOutputInstruction.borsh.Canonical :=
  (canonical_u64.prod canonical_u64).map _ _ _ fun _ => rfl

theorem UpdateAmmConfigInstruction.canonical_borsh : UpdateAmmConfigInstruction.borsh.Canonical :=
  (canonical_u8.prod canonical_u64).map _ _ _ fun _ => rfl

theorem UpdatePoolStatusInstruction.canonical_borsh :
    UpdatePoolStatusInstruction.borsh.Canonical :=
  canonical_u8.map _ _ _ fun _ => rfl

theorem WithdrawInstruction.canonical_borsh : WithdrawInstruction.borsh.Canonical :=
  (canonical_u64.prod <| canonical_u64.prod canonical_u64).map _ _ _ fun _ => rfl

/-- Every row of the table keeps its promise, failing only with a Borsh error. -/
theorem arms_spec (d : List.Vector UInt8 8)
    (arm : List UInt8 → Outcome ParseError RaydiumCpmmInstruction) (hmem : (d, arm) ∈ arms) :
    AnchorRow RaydiumCpmmInstruction.write (· ≠ .Unknown) RaydiumCpmmInstruction.argless
      (fun _ e => ∃ be, e = .Decode be) d arm := by
  simp only [arms, List.mem_cons, Prod.mk.injEq, List.not_mem_nil] at hmem
  -- one goal per row; the list's end is `False`
  repeat' rcases hmem with ⟨rfl, rfl⟩ | hmem
  -- the payload structs hold no length prefix, so every value fits
  all_goals first
    | exact anchorRow_bare rfl nofun rfl
    | exact anchorRow_decode CollectFundFeeInstruction.canonical_borsh ⟨fun _ => rfl⟩
        (fun _ => rfl) fun _ _ => nofun
    | exact anchorRow_decode CollectProtocolFeeInstruction.canonical_borsh ⟨fun _ => rfl⟩
        (fun _ => rfl) fun _ _ => nofun
    | exact anchorRow_decode CreateAmmConfigInstruction.canonical_borsh ⟨fun _ => rfl⟩
        (fun _ => rfl) fun _ _ => nofun
    | exact anchorRow_decode DepositInstruction.canonical_borsh ⟨fun _ => rfl⟩
        (fun _ => rfl) fun _ _ => nofun
    | exact anchorRow_decode InitializeInstruction.canonical_borsh ⟨fun _ => rfl⟩
        (fun _ => rfl) fun _ _ => nofun
    | exact anchorRow_decode InitializeWithPermissionInstruction.canonical_borsh ⟨fun _ => rfl⟩
        (fun _ => rfl) fun _ _ => nofun
    | exact anchorRow_decode SwapBaseInputInstruction.canonical_borsh ⟨fun _ => rfl⟩
        (fun _ => rfl) fun _ _ => nofun
    | exact anchorRow_decode SwapBaseOutputInstruction.canonical_borsh ⟨fun _ => rfl⟩
        (fun _ => rfl) fun _ _ => nofun
    | exact anchorRow_decode UpdateAmmConfigInstruction.canonical_borsh ⟨fun _ => rfl⟩
        (fun _ => rfl) fun _ _ => nofun
    | exact anchorRow_decode UpdatePoolStatusInstruction.canonical_borsh ⟨fun _ => rfl⟩
        (fun _ => rfl) fun _ _ => nofun
    | exact anchorRow_decode WithdrawInstruction.canonical_borsh ⟨fun _ => rfl⟩
        (fun _ => rfl) fun _ _ => nofun

/-! ## Every layout is read back -/

/-- The fourteen discriminators are distinct. -/
theorem arms_nodup : (arms.map Prod.fst).Nodup := by
  decide

theorem unpack_decode {α : Type} {d : List.Vector UInt8 8} {c : Codec α}
    {V : α → RaydiumCpmmInstruction} (hmem : (d, decode_arm c V) ∈ arms) {x : α}
    (hx : c.fits x = true) : unpack (d.toList ++ c.write x) = .ok (V x) :=
  anchor_table_decode arms_nodup hmem hx

theorem unpack_bare {d : List.Vector UInt8 8} {i : RaydiumCpmmInstruction}
    (hmem : (d, fun _ => .ok i) ∈ arms) (t : List UInt8) : unpack (d.toList ++ t) = .ok i :=
  anchor_table_bare arms_nodup hmem t

/-- Every instruction is read back from its layout, followed by anything when it has no
arguments. -/
theorem unpack_write_append (i : RaydiumCpmmInstruction) (t : List UInt8) (hne : i ≠ .Unknown)
    (ht : t = [] ∨ i.argless = true) : unpack (i.write ++ t) = .ok i := by
  cases i
  case Unknown => exact absurd rfl hne
  case ClosePermissionPda | CollectCreatorFee | CreatePermissionPda =>
    exact unpack_bare (by simp only [arms, List.mem_cons, true_or, or_true]) t
  -- an instruction with arguments admits nothing after them
  all_goals
    obtain rfl : t = [] := ht.resolve_right Bool.false_ne_true
    rw [List.append_nil]
    exact unpack_decode (by simp only [arms, List.mem_cons, true_or, or_true]) rfl

/-! ## The decoder is exact -/

/-- The decoder returns an instruction exactly on its layout, followed by anything only when the
instruction has no arguments; it fails with `TooShort` below 8 bytes, `Unknown` behind a
discriminator of no row, or a Borsh error; and it never panics. -/
theorem raydium_cpmm_unpack_spec (data : List UInt8) :
    (∀ i, unpack data = .ok i ↔
      i ≠ .Unknown ∧ ∃ t, data = i.write ++ t ∧ (t = [] ∨ i.argless = true)) ∧
      (∀ e, unpack data = .err e → (data.length < 8 ∧ e = .TooShort data.length) ∨
        ∃ disc payload, data = disc.toList ++ payload ∧
          ((disc ∉ arms.map Prod.fst ∧ e = .Unknown disc) ∨ ∃ be, e = .Decode be)) ∧
      unpack data ≠ .panic :=
  anchor_table_exact arms_nodup arms_spec unpack_write_append data

end SolanaIdls.raydium.cpmm.instructions
