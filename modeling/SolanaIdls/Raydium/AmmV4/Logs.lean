import SolanaIdls.Common

/-!
# Raydium AMM v4 logs

`raydium::amm::v4::logs::unpack` of `src/raydium/amm/v4/logs.rs`. The program logs a Borsh
struct whose first field, `log_type`, is the one byte that says which struct it is. The decoder
reads that byte and then decodes the whole input, the byte included, as the struct it names, so
that the byte is read twice: once to dispatch and once as the struct's `log_type`.

`unpack_eq_ok_iff` says exactly what the decoder accepts: the encoding of a log whose
`log_type` is its variant's tag, and nothing else. Both directions rest on the struct codecs
being canonical (`Borsh.Codec.Canonical`): a struct that was read is the bytes it was read from,
so the `log_type` it holds is the byte the decoder dispatched on.
-/

namespace SolanaIdls.raydium.amm.v4.logs

open Borsh Borsh.Codec

/-! ## Tags and structs -/

def INIT : UInt8 := 0
def DEPOSIT : UInt8 := 1
def WITHDRAW : UInt8 := 2
def SWAP_IN : UInt8 := 3
def SWAP_OUT : UInt8 := 4

/-- `InitLog`, logged when a pool is initialised. -/
structure InitLog where
  log_type : UInt8
  time : UInt64
  pc_decimals : UInt8
  coin_decimals : UInt8
  pc_lot_size : UInt64
  coin_lot_size : UInt64
  pc_amount : UInt64
  coin_amount : UInt64
  market : Pubkey
  deriving DecidableEq

/-- `DepositLog`, logged when liquidity is added. -/
structure DepositLog where
  log_type : UInt8
  max_coin : UInt64
  max_pc : UInt64
  base : UInt64
  pool_coin : UInt64
  pool_pc : UInt64
  pool_lp : UInt64
  calc_pnl_x : BitVec 128
  calc_pnl_y : BitVec 128
  deduct_coin : UInt64
  deduct_pc : UInt64
  mint_lp : UInt64
  deriving DecidableEq

/-- `WithdrawLog`, logged when liquidity is removed. -/
structure WithdrawLog where
  log_type : UInt8
  withdraw_lp : UInt64
  user_lp : UInt64
  pool_coin : UInt64
  pool_pc : UInt64
  pool_lp : UInt64
  calc_pnl_x : BitVec 128
  calc_pnl_y : BitVec 128
  out_coin : UInt64
  out_pc : UInt64
  deriving DecidableEq

/-- `SwapBaseInLog`, logged by a swap whose base token is the input. -/
structure SwapBaseInLog where
  log_type : UInt8
  amount_in : UInt64
  minimum_out : UInt64
  direction : UInt64
  user_source : UInt64
  pool_coin : UInt64
  pool_pc : UInt64
  out_amount : UInt64
  deriving DecidableEq

/-- `SwapBaseOutLog`, logged by a swap whose base token is the output. -/
structure SwapBaseOutLog where
  log_type : UInt8
  max_in : UInt64
  amount_out : UInt64
  direction : UInt64
  user_source : UInt64
  pool_coin : UInt64
  pool_pc : UInt64
  deduct_in : UInt64
  deriving DecidableEq

/-- `RaydiumV4Log`. -/
inductive RaydiumV4Log where
  | Init (l : InitLog)
  | Deposit (l : DepositLog)
  | Withdraw (l : WithdrawLog)
  | SwapBaseIn (l : SwapBaseInLog)
  | SwapBaseOut (l : SwapBaseOutLog)
  | Unknown (tag : UInt8)
  deriving DecidableEq

/-! ## Derived Borsh codecs -/

def InitLog.borsh : Codec InitLog :=
  (u8.prod <| u64.prod <| u8.prod <| u8.prod <| u64.prod <| u64.prod <| u64.prod <|
    u64.prod pubkey).map
    (fun (a, b, c, d, e, f, g, h, i) => ⟨a, b, c, d, e, f, g, h, i⟩)
    (fun x => (x.log_type, x.time, x.pc_decimals, x.coin_decimals, x.pc_lot_size,
      x.coin_lot_size, x.pc_amount, x.coin_amount, x.market))
    fun _ => rfl

def DepositLog.borsh : Codec DepositLog :=
  (u8.prod <| u64.prod <| u64.prod <| u64.prod <| u64.prod <| u64.prod <| u64.prod <|
    u128.prod <| u128.prod <| u64.prod <| u64.prod u64).map
    (fun (a, b, c, d, e, f, g, h, i, j, k, l) => ⟨a, b, c, d, e, f, g, h, i, j, k, l⟩)
    (fun x => (x.log_type, x.max_coin, x.max_pc, x.base, x.pool_coin, x.pool_pc, x.pool_lp,
      x.calc_pnl_x, x.calc_pnl_y, x.deduct_coin, x.deduct_pc, x.mint_lp))
    fun _ => rfl

def WithdrawLog.borsh : Codec WithdrawLog :=
  (u8.prod <| u64.prod <| u64.prod <| u64.prod <| u64.prod <| u64.prod <| u128.prod <|
    u128.prod <| u64.prod u64).map
    (fun (a, b, c, d, e, f, g, h, i, j) => ⟨a, b, c, d, e, f, g, h, i, j⟩)
    (fun x => (x.log_type, x.withdraw_lp, x.user_lp, x.pool_coin, x.pool_pc, x.pool_lp,
      x.calc_pnl_x, x.calc_pnl_y, x.out_coin, x.out_pc))
    fun _ => rfl

def SwapBaseInLog.borsh : Codec SwapBaseInLog :=
  (u8.prod <| u64.prod <| u64.prod <| u64.prod <| u64.prod <| u64.prod <| u64.prod u64).map
    (fun (a, b, c, d, e, f, g, h) => ⟨a, b, c, d, e, f, g, h⟩)
    (fun x => (x.log_type, x.amount_in, x.minimum_out, x.direction, x.user_source, x.pool_coin,
      x.pool_pc, x.out_amount))
    fun _ => rfl

def SwapBaseOutLog.borsh : Codec SwapBaseOutLog :=
  (u8.prod <| u64.prod <| u64.prod <| u64.prod <| u64.prod <| u64.prod <| u64.prod u64).map
    (fun (a, b, c, d, e, f, g, h) => ⟨a, b, c, d, e, f, g, h⟩)
    (fun x => (x.log_type, x.max_in, x.amount_out, x.direction, x.user_source, x.pool_coin,
      x.pool_pc, x.deduct_in))
    fun _ => rfl

theorem InitLog.fixedWidth_borsh : InitLog.borsh.FixedWidth 75 :=
  (fixedWidth_u8.prod <| fixedWidth_u64.prod <| fixedWidth_u8.prod <| fixedWidth_u8.prod <|
    fixedWidth_u64.prod <| fixedWidth_u64.prod <| fixedWidth_u64.prod <|
    fixedWidth_u64.prod fixedWidth_pubkey).map _ _ _

theorem DepositLog.fixedWidth_borsh : DepositLog.borsh.FixedWidth 105 :=
  (fixedWidth_u8.prod <| fixedWidth_u64.prod <| fixedWidth_u64.prod <| fixedWidth_u64.prod <|
    fixedWidth_u64.prod <| fixedWidth_u64.prod <| fixedWidth_u64.prod <| fixedWidth_u128.prod <|
    fixedWidth_u128.prod <| fixedWidth_u64.prod <| fixedWidth_u64.prod fixedWidth_u64).map _ _ _

theorem WithdrawLog.fixedWidth_borsh : WithdrawLog.borsh.FixedWidth 89 :=
  (fixedWidth_u8.prod <| fixedWidth_u64.prod <| fixedWidth_u64.prod <| fixedWidth_u64.prod <|
    fixedWidth_u64.prod <| fixedWidth_u64.prod <| fixedWidth_u128.prod <|
    fixedWidth_u128.prod <| fixedWidth_u64.prod fixedWidth_u64).map _ _ _

theorem SwapBaseInLog.fixedWidth_borsh : SwapBaseInLog.borsh.FixedWidth 57 :=
  (fixedWidth_u8.prod <| fixedWidth_u64.prod <| fixedWidth_u64.prod <| fixedWidth_u64.prod <|
    fixedWidth_u64.prod <| fixedWidth_u64.prod <| fixedWidth_u64.prod fixedWidth_u64).map _ _ _

theorem SwapBaseOutLog.fixedWidth_borsh : SwapBaseOutLog.borsh.FixedWidth 57 :=
  (fixedWidth_u8.prod <| fixedWidth_u64.prod <| fixedWidth_u64.prod <| fixedWidth_u64.prod <|
    fixedWidth_u64.prod <| fixedWidth_u64.prod <| fixedWidth_u64.prod fixedWidth_u64).map _ _ _

theorem InitLog.canonical_borsh : InitLog.borsh.Canonical :=
  (canonical_u8.prod <| canonical_u64.prod <| canonical_u8.prod <| canonical_u8.prod <|
    canonical_u64.prod <| canonical_u64.prod <| canonical_u64.prod <|
    canonical_u64.prod canonical_pubkey).map _ _ _ fun _ => rfl

theorem DepositLog.canonical_borsh : DepositLog.borsh.Canonical :=
  (canonical_u8.prod <| canonical_u64.prod <| canonical_u64.prod <| canonical_u64.prod <|
    canonical_u64.prod <| canonical_u64.prod <| canonical_u64.prod <| canonical_u128.prod <|
    canonical_u128.prod <| canonical_u64.prod <| canonical_u64.prod canonical_u64).map _ _ _
    fun _ => rfl

theorem WithdrawLog.canonical_borsh : WithdrawLog.borsh.Canonical :=
  (canonical_u8.prod <| canonical_u64.prod <| canonical_u64.prod <| canonical_u64.prod <|
    canonical_u64.prod <| canonical_u64.prod <| canonical_u128.prod <|
    canonical_u128.prod <| canonical_u64.prod canonical_u64).map _ _ _ fun _ => rfl

theorem SwapBaseInLog.canonical_borsh : SwapBaseInLog.borsh.Canonical :=
  (canonical_u8.prod <| canonical_u64.prod <| canonical_u64.prod <| canonical_u64.prod <|
    canonical_u64.prod <| canonical_u64.prod <| canonical_u64.prod canonical_u64).map _ _ _
    fun _ => rfl

theorem SwapBaseOutLog.canonical_borsh : SwapBaseOutLog.borsh.Canonical :=
  (canonical_u8.prod <| canonical_u64.prod <| canonical_u64.prod <| canonical_u64.prod <|
    canonical_u64.prod <| canonical_u64.prod <| canonical_u64.prod canonical_u64).map _ _ _
    fun _ => rfl

/-! ## The decoder -/

/-- The `match discriminator` of `try_from`, on the whole input: each struct reads the tag again
as its `log_type`. -/
def decode_payload (discriminator : UInt8) (payload : List UInt8) :
    Outcome ParseError RaydiumV4Log := do
  if discriminator = SWAP_IN then
    return .SwapBaseIn (← decode (SwapBaseInLog.borsh.try_from_slice payload))
  else if discriminator = SWAP_OUT then
    return .SwapBaseOut (← decode (SwapBaseOutLog.borsh.try_from_slice payload))
  else if discriminator = INIT then
    return .Init (← decode (InitLog.borsh.try_from_slice payload))
  else if discriminator = DEPOSIT then
    return .Deposit (← decode (DepositLog.borsh.try_from_slice payload))
  else if discriminator = WITHDRAW then
    return .Withdraw (← decode (WithdrawLog.borsh.try_from_slice payload))
  else
    .err (.RaydiumUnknown discriminator)

/-- `RaydiumV4Log::try_from`. The payload is the whole input. -/
def try_from (data : List UInt8) : Outcome ParseError RaydiumV4Log := do
  if data.isEmpty then
    .err (.TooShort data.length)
  else
    let discriminator ← Slice.index data 0
    let payload := data
    decode_payload discriminator payload

/-- `unpack`, which forwards to `try_from`. -/
def unpack (data : List UInt8) : Outcome ParseError RaydiumV4Log :=
  try_from data

/-- A non-empty input is dispatched on its first byte, and decoded whole. -/
theorem try_from_cons (tag : UInt8) (rest : List UInt8) :
    try_from (tag :: rest) = decode_payload tag (tag :: rest) := by
  simp only [try_from, List.isEmpty_cons, Bool.false_eq_true, if_false, Slice.index_cons_zero,
    Outcome.ok_bind]

/-! ## What a log is -/

/-- The tag of a variant: the `log_type` the decoder dispatches to it. -/
def RaydiumV4Log.tag : RaydiumV4Log → Option UInt8
  | .Init _ => some INIT
  | .Deposit _ => some DEPOSIT
  | .Withdraw _ => some WITHDRAW
  | .SwapBaseIn _ => some SWAP_IN
  | .SwapBaseOut _ => some SWAP_OUT
  | .Unknown _ => none

/-- The `log_type` field of the struct a variant holds. -/
def RaydiumV4Log.log_type : RaydiumV4Log → Option UInt8
  | .Init l => some l.log_type
  | .Deposit l => some l.log_type
  | .Withdraw l => some l.log_type
  | .SwapBaseIn l => some l.log_type
  | .SwapBaseOut l => some l.log_type
  | .Unknown _ => none

/-- The Borsh encoding of the struct a variant holds. -/
def RaydiumV4Log.write : RaydiumV4Log → List UInt8
  | .Init l => InitLog.borsh.write l
  | .Deposit l => DepositLog.borsh.write l
  | .Withdraw l => WithdrawLog.borsh.write l
  | .SwapBaseIn l => SwapBaseInLog.borsh.write l
  | .SwapBaseOut l => SwapBaseOutLog.borsh.write l
  | .Unknown _ => []

/-- Every struct is written with its `log_type` first. -/
theorem RaydiumV4Log.head?_write (r : RaydiumV4Log) : r.write.head? = r.log_type := by
  cases r <;> simp [write, log_type, InitLog.borsh, DepositLog.borsh, WithdrawLog.borsh,
    SwapBaseInLog.borsh, SwapBaseOutLog.borsh]

/-- A struct whose `log_type` is `b` is written as `b` and its other fields. -/
theorem RaydiumV4Log.write_eq_cons {r : RaydiumV4Log} {b : UInt8} (h : r.log_type = some b) :
    ∃ rest, r.write = b :: rest := by
  have hhead : r.write.head? = some b := by rw [r.head?_write, h]
  exact List.head?_eq_some_iff.mp hhead

/-- An arm that returned holds the struct its payload encodes, and its variant has the tag it
was dispatched on. -/
theorem decode_payload_eq_ok {tag : UInt8} {payload : List UInt8} {r : RaydiumV4Log}
    (h : decode_payload tag payload = .ok r) : r.tag = some tag ∧ payload = r.write := by
  unfold decode_payload at h
  split_ifs at h with hin hout hinit hdep hwd
  · obtain ⟨l, hl, rfl⟩ := decode_arm_eq_ok h
    exact ⟨by rw [hin]; rfl, SwapBaseInLog.canonical_borsh.try_from_slice_eq_ok hl⟩
  · obtain ⟨l, hl, rfl⟩ := decode_arm_eq_ok h
    exact ⟨by rw [hout]; rfl, SwapBaseOutLog.canonical_borsh.try_from_slice_eq_ok hl⟩
  · obtain ⟨l, hl, rfl⟩ := decode_arm_eq_ok h
    exact ⟨by rw [hinit]; rfl, InitLog.canonical_borsh.try_from_slice_eq_ok hl⟩
  · obtain ⟨l, hl, rfl⟩ := decode_arm_eq_ok h
    exact ⟨by rw [hdep]; rfl, DepositLog.canonical_borsh.try_from_slice_eq_ok hl⟩
  · obtain ⟨l, hl, rfl⟩ := decode_arm_eq_ok h
    exact ⟨by rw [hwd]; rfl, WithdrawLog.canonical_borsh.try_from_slice_eq_ok hl⟩

/-- The arm of a variant's tag reads back the struct the variant holds. -/
theorem decode_payload_write {r : RaydiumV4Log} {tag : UInt8} (h : r.tag = some tag) :
    decode_payload tag r.write = .ok r := by
  cases r with
  | Init l =>
    obtain rfl := Option.some.inj h
    simp only [decode_payload, RaydiumV4Log.write, INIT, SWAP_IN, SWAP_OUT]
    exact decode_arm_write _ _ (InitLog.fixedWidth_borsh.fits l)
  | Deposit l =>
    obtain rfl := Option.some.inj h
    simp only [decode_payload, RaydiumV4Log.write, DEPOSIT, INIT, SWAP_IN, SWAP_OUT]
    exact decode_arm_write _ _ (DepositLog.fixedWidth_borsh.fits l)
  | Withdraw l =>
    obtain rfl := Option.some.inj h
    simp only [decode_payload, RaydiumV4Log.write, WITHDRAW, DEPOSIT, INIT, SWAP_IN, SWAP_OUT]
    exact decode_arm_write _ _ (WithdrawLog.fixedWidth_borsh.fits l)
  | SwapBaseIn l =>
    obtain rfl := Option.some.inj h
    simp only [decode_payload, RaydiumV4Log.write, if_true]
    exact decode_arm_write _ _ (SwapBaseInLog.fixedWidth_borsh.fits l)
  | SwapBaseOut l =>
    obtain rfl := Option.some.inj h
    simp only [decode_payload, RaydiumV4Log.write, SWAP_IN, SWAP_OUT]
    exact decode_arm_write _ _ (SwapBaseOutLog.fixedWidth_borsh.fits l)
  | Unknown b => cases h

/-! ## What the decoder accepts -/

/-- The decoder accepts exactly the encodings of the logs whose `log_type` is their variant's
tag, and returns that log. -/
theorem unpack_eq_ok_iff (data : List UInt8) (r : RaydiumV4Log) :
    unpack data = .ok r ↔ r.tag ≠ none ∧ r.log_type = r.tag ∧ data = r.write := by
  constructor
  · intro h
    cases data with
    | nil => cases h
    | cons b rest =>
      rw [unpack, try_from_cons] at h
      obtain ⟨htag, hdata⟩ := decode_payload_eq_ok h
      have hlog : r.log_type = some b := by rw [← r.head?_write, ← hdata, List.head?_cons]
      exact ⟨by simp [htag], by rw [hlog, htag], hdata⟩
  · rintro ⟨hne, hlog, rfl⟩
    obtain ⟨tag, htag⟩ := Option.ne_none_iff_exists'.mp hne
    obtain ⟨rest, hrest⟩ := RaydiumV4Log.write_eq_cons (hlog.trans htag)
    rw [unpack, hrest, try_from_cons, ← hrest, decode_payload_write htag]

/-- A log whose `log_type` is its variant's tag is read back. -/
theorem unpack_write (r : RaydiumV4Log) (hne : r.tag ≠ none) (hlog : r.log_type = r.tag) :
    unpack r.write = .ok r :=
  (unpack_eq_ok_iff r.write r).mpr ⟨hne, hlog, rfl⟩

/-- What the decoder returns holds the first byte of its input as its `log_type`, under the
variant whose tag that byte is. -/
theorem unpack_eq_ok_head {data : List UInt8} {r : RaydiumV4Log} (h : unpack data = .ok r) :
    ∃ b rest, data = b :: rest ∧ r.log_type = some b ∧ r.tag = some b := by
  obtain ⟨hne, hlog, rfl⟩ := (unpack_eq_ok_iff data r).mp h
  obtain ⟨b, hb⟩ := Option.ne_none_iff_exists'.mp hne
  obtain ⟨rest, hrest⟩ := RaydiumV4Log.write_eq_cons (hlog.trans hb)
  exact ⟨b, rest, hrest, hlog.trans hb, hb⟩

/-- The five structs, each with its tag as `log_type`, are read back as their variants; and
every log the decoder returns holds the input's first byte as its `log_type`, under the variant
of that byte's tag. -/
theorem unpack_log_type_self_consistent :
    (∀ s : InitLog, s.log_type = INIT → unpack (InitLog.borsh.write s) = .ok (.Init s)) ∧
    (∀ s : DepositLog, s.log_type = DEPOSIT →
      unpack (DepositLog.borsh.write s) = .ok (.Deposit s)) ∧
    (∀ s : WithdrawLog, s.log_type = WITHDRAW →
      unpack (WithdrawLog.borsh.write s) = .ok (.Withdraw s)) ∧
    (∀ s : SwapBaseInLog, s.log_type = SWAP_IN →
      unpack (SwapBaseInLog.borsh.write s) = .ok (.SwapBaseIn s)) ∧
    (∀ s : SwapBaseOutLog, s.log_type = SWAP_OUT →
      unpack (SwapBaseOutLog.borsh.write s) = .ok (.SwapBaseOut s)) ∧
    (∀ data r, unpack data = .ok r →
      ∃ b rest, data = b :: rest ∧ r.log_type = some b ∧ r.tag = some b) := by
  -- a variant's `tag` is `some` of its tag, and its `log_type` `some` of the struct's field
  refine ⟨fun s h => ?_, fun s h => ?_, fun s h => ?_, fun s h => ?_, fun s h => ?_,
    fun _ _ h => unpack_eq_ok_head h⟩
  · exact unpack_write (.Init s) (Option.some_ne_none _) (congrArg some h)
  · exact unpack_write (.Deposit s) (Option.some_ne_none _) (congrArg some h)
  · exact unpack_write (.Withdraw s) (Option.some_ne_none _) (congrArg some h)
  · exact unpack_write (.SwapBaseIn s) (Option.some_ne_none _) (congrArg some h)
  · exact unpack_write (.SwapBaseOut s) (Option.some_ne_none _) (congrArg some h)

theorem unpack_log_type_self_consistent_on_init :
    unpack (InitLog.borsh.write
        ⟨INIT, 1700000000, 6, 9, 1, 1000, 5000, 7000, .replicate 32 3⟩) =
      .ok (.Init ⟨INIT, 1700000000, 6, 9, 1, 1000, 5000, 7000, .replicate 32 3⟩) :=
  unpack_log_type_self_consistent.1 _ rfl

end SolanaIdls.raydium.amm.v4.logs
