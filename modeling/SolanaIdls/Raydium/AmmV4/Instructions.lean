import SolanaIdls.Common

/-!
# Raydium AMM v4 instructions

`raydium::amm::v4::instructions::unpack` of `src/raydium/amm/v4/instructions.rs`. The program
is not an Anchor program: an instruction is one tag byte and its fields. The decoder first
requires 8 bytes, a guard written for Anchor's 8-byte discriminators, then reads the tag at byte
0 and Borsh-decodes the payload after it, exactly for most tags and from its first `SWAP_LEN`
bytes for the two swaps.

Two consequences are proved here. The swap arms slice `payload[..SWAP_LEN]` after a guard that
leaves as few as 7 payload bytes, so every input of 8 to 16 bytes that carries tag 9 or 11 makes
the decoder panic (`unpack_panics_on_short_swap`). And the program's own layout, which
`AmmInstruction.pack` states after raydium-amm's `AmmInstruction::unpack`, is read back only for
the tags whose encoding is at least 8 bytes and has no optional field: the tag-only and short
encodings fall to the 8-byte guard (`unpack_pack_of_short`), and `Deposit`, whose program layout
appends its optional field with no tag, is read as a Borsh `Option` and rejected
(`unpack_pack_deposit`).
-/

namespace SolanaIdls.raydium.amm.v4.instructions

open Borsh Borsh.Codec

/-! ## Discriminators and payloads -/

def INITIALIZE : UInt8 := 0
def INITIALIZE2 : UInt8 := 1
def MONITOR_STEP : UInt8 := 2
def DEPOSIT : UInt8 := 3
def WITHDRAW : UInt8 := 4
def MIGRATE_TO_OPENBOOK : UInt8 := 5
def SET_PARAMS : UInt8 := 6
def WITHDRAW_PNL : UInt8 := 7
def WITHDRAW_SRM : UInt8 := 8
def SWAP_BASE_IN : UInt8 := 9
def PRE_INITIALIZE : UInt8 := 10
def SWAP_BASE_OUT : UInt8 := 11
def SIMULATE_INFO : UInt8 := 12
def ADMIN_CANCEL_ORDERS : UInt8 := 13
def CREATE_CONFIG_ACCOUNT : UInt8 := 14
def UPDATE_CONFIG_ACCOUNT : UInt8 := 15

/-- The length of a swap payload after the tag; a longer payload is cut to it. -/
def SWAP_LEN : ℕ := 16

/-- `SwapBaseInInstruction`. -/
structure SwapBaseInInstruction where
  amount_in : UInt64
  minimum_amount_out : UInt64
  deriving DecidableEq

/-- `SwapBaseOutInstruction`. -/
structure SwapBaseOutInstruction where
  max_amount_in : UInt64
  amount_out : UInt64
  deriving DecidableEq

/-- `InitializeInstruction`. -/
structure InitializeInstruction where
  nonce : UInt8
  open_time : UInt64
  deriving DecidableEq

/-- `Initialize2Instruction`. -/
structure Initialize2Instruction where
  nonce : UInt8
  open_time : UInt64
  init_pc_amount : UInt64
  init_coin_amount : UInt64
  deriving DecidableEq

/-- `PreInitializeInstruction`. -/
structure PreInitializeInstruction where
  nonce : UInt8
  deriving DecidableEq

/-- `MonitorStepInstruction`. -/
structure MonitorStepInstruction where
  plan_order_limit : UInt16
  place_order_limit : UInt16
  cancel_order_limit : UInt16
  deriving DecidableEq

/-- `DepositInstruction`, whose last field is a Borsh `Option<u64>`. -/
structure DepositInstruction where
  max_coin_amount : UInt64
  max_pc_amount : UInt64
  base_side : UInt64
  other_amount_min : Option UInt64
  deriving DecidableEq

/-- `WithdrawInstruction`. -/
structure WithdrawInstruction where
  amount : UInt64
  min_coin_amount : Option UInt64
  min_pc_amount : Option UInt64
  deriving DecidableEq

/-- `SetParamsInstruction`. -/
structure SetParamsInstruction where
  param : UInt8
  value : Option UInt64
  new_pubkey : Option (List.Vector UInt8 32)
  deriving DecidableEq

/-- `WithdrawSrmInstruction`. -/
structure WithdrawSrmInstruction where
  amount : UInt64
  deriving DecidableEq

/-- `SimulateInstruction`. -/
structure SimulateInstruction where
  param : UInt8
  swap_base_in_value : Option SwapBaseInInstruction
  swap_base_out_value : Option SwapBaseOutInstruction
  deriving DecidableEq

/-- `AdminCancelOrdersInstruction`. -/
structure AdminCancelOrdersInstruction where
  limit : UInt16
  deriving DecidableEq

/-- `ConfigArgs`. -/
structure ConfigArgs where
  param : UInt8
  owner : Option (List.Vector UInt8 32)
  create_pool_fee : Option UInt64
  deriving DecidableEq

/-- `RaydiumV4Instruction`. -/
inductive RaydiumV4Instruction where
  | Initialize2 (i : Initialize2Instruction)
  | Initialize (i : InitializeInstruction)
  | MonitorStep (i : MonitorStepInstruction)
  | Deposit (i : DepositInstruction)
  | Withdraw (i : WithdrawInstruction)
  | SwapBaseIn (i : SwapBaseInInstruction)
  | SwapBaseOut (i : SwapBaseOutInstruction)
  | MigrateToOpenBook
  | SetParams (i : SetParamsInstruction)
  | WithdrawPnl
  | WithdrawSrm (i : WithdrawSrmInstruction)
  | SimulateInfo (i : SimulateInstruction)
  | AdminCancelOrders (i : AdminCancelOrdersInstruction)
  | CreateConfigAccount
  | UpdateConfigAccount (i : ConfigArgs)
  | PreInitialize (i : PreInitializeInstruction)
  deriving DecidableEq

/-! ## Derived Borsh codecs of the payloads -/

def SwapBaseInInstruction.borsh : Codec SwapBaseInInstruction :=
  (u64.prod u64).map (fun (a, b) => ⟨a, b⟩) (fun x => (x.amount_in, x.minimum_amount_out))
    fun _ => rfl

def SwapBaseOutInstruction.borsh : Codec SwapBaseOutInstruction :=
  (u64.prod u64).map (fun (a, b) => ⟨a, b⟩) (fun x => (x.max_amount_in, x.amount_out))
    fun _ => rfl

def InitializeInstruction.borsh : Codec InitializeInstruction :=
  (u8.prod u64).map (fun (a, b) => ⟨a, b⟩) (fun x => (x.nonce, x.open_time)) fun _ => rfl

def Initialize2Instruction.borsh : Codec Initialize2Instruction :=
  (u8.prod <| u64.prod <| u64.prod u64).map (fun (a, b, c, d) => ⟨a, b, c, d⟩)
    (fun x => (x.nonce, x.open_time, x.init_pc_amount, x.init_coin_amount)) fun _ => rfl

def PreInitializeInstruction.borsh : Codec PreInitializeInstruction :=
  u8.map (fun a => ⟨a⟩) (fun x => x.nonce) fun _ => rfl

def MonitorStepInstruction.borsh : Codec MonitorStepInstruction :=
  (u16.prod <| u16.prod u16).map (fun (a, b, c) => ⟨a, b, c⟩)
    (fun x => (x.plan_order_limit, x.place_order_limit, x.cancel_order_limit)) fun _ => rfl

def DepositInstruction.borsh : Codec DepositInstruction :=
  (u64.prod <| u64.prod <| u64.prod u64.option).map (fun (a, b, c, d) => ⟨a, b, c, d⟩)
    (fun x => (x.max_coin_amount, x.max_pc_amount, x.base_side, x.other_amount_min)) fun _ => rfl

def WithdrawInstruction.borsh : Codec WithdrawInstruction :=
  (u64.prod <| u64.option.prod u64.option).map (fun (a, b, c) => ⟨a, b, c⟩)
    (fun x => (x.amount, x.min_coin_amount, x.min_pc_amount)) fun _ => rfl

def SetParamsInstruction.borsh : Codec SetParamsInstruction :=
  (u8.prod <| u64.option.prod (u8.array 32).option).map (fun (a, b, c) => ⟨a, b, c⟩)
    (fun x => (x.param, x.value, x.new_pubkey)) fun _ => rfl

def WithdrawSrmInstruction.borsh : Codec WithdrawSrmInstruction :=
  u64.map (fun a => ⟨a⟩) (fun x => x.amount) fun _ => rfl

def SimulateInstruction.borsh : Codec SimulateInstruction :=
  (u8.prod <| SwapBaseInInstruction.borsh.option.prod SwapBaseOutInstruction.borsh.option).map
    (fun (a, b, c) => ⟨a, b, c⟩) (fun x => (x.param, x.swap_base_in_value, x.swap_base_out_value))
    fun _ => rfl

def AdminCancelOrdersInstruction.borsh : Codec AdminCancelOrdersInstruction :=
  u16.map (fun a => ⟨a⟩) (fun x => x.limit) fun _ => rfl

def ConfigArgs.borsh : Codec ConfigArgs :=
  (u8.prod <| (u8.array 32).option.prod u64.option).map (fun (a, b, c) => ⟨a, b, c⟩)
    (fun x => (x.param, x.owner, x.create_pool_fee)) fun _ => rfl

/-! ## The decoder -/

/-- The `match discriminator` of `try_from`, on the payload after the tag byte. -/
def decode_payload (discriminator : UInt8) (payload : List UInt8) :
    Outcome ParseError RaydiumV4Instruction := do
  if discriminator = INITIALIZE then
    return .Initialize (← decode (InitializeInstruction.borsh.try_from_slice payload))
  else if discriminator = INITIALIZE2 then
    return .Initialize2 (← decode (Initialize2Instruction.borsh.try_from_slice payload))
  else if discriminator = MONITOR_STEP then
    return .MonitorStep (← decode (MonitorStepInstruction.borsh.try_from_slice payload))
  else if discriminator = DEPOSIT then
    return .Deposit (← decode (DepositInstruction.borsh.try_from_slice payload))
  else if discriminator = WITHDRAW then
    return .Withdraw (← decode (WithdrawInstruction.borsh.try_from_slice payload))
  else if discriminator = MIGRATE_TO_OPENBOOK then
    return .MigrateToOpenBook
  else if discriminator = SET_PARAMS then
    return .SetParams (← decode (SetParamsInstruction.borsh.try_from_slice payload))
  else if discriminator = WITHDRAW_PNL then
    return .WithdrawPnl
  else if discriminator = WITHDRAW_SRM then
    return .WithdrawSrm (← decode (WithdrawSrmInstruction.borsh.try_from_slice payload))
  else if discriminator = SWAP_BASE_IN then
    -- `&payload[..SWAP_LEN]`: panics on a payload shorter than `SWAP_LEN`.
    let swap ← Slice.range_to payload SWAP_LEN
    return .SwapBaseIn (← decode (SwapBaseInInstruction.borsh.try_from_slice swap))
  else if discriminator = PRE_INITIALIZE then
    return .PreInitialize (← decode (PreInitializeInstruction.borsh.try_from_slice payload))
  else if discriminator = SWAP_BASE_OUT then
    let swap ← Slice.range_to payload SWAP_LEN
    return .SwapBaseOut (← decode (SwapBaseOutInstruction.borsh.try_from_slice swap))
  else if discriminator = SIMULATE_INFO then
    return .SimulateInfo (← decode (SimulateInstruction.borsh.try_from_slice payload))
  else if discriminator = ADMIN_CANCEL_ORDERS then
    return .AdminCancelOrders (← decode (AdminCancelOrdersInstruction.borsh.try_from_slice payload))
  else if discriminator = CREATE_CONFIG_ACCOUNT then
    return .CreateConfigAccount
  else if discriminator = UPDATE_CONFIG_ACCOUNT then
    return .UpdateConfigAccount (← decode (ConfigArgs.borsh.try_from_slice payload))
  else
    .err (.RaydiumUnknown discriminator)

/-- `RaydiumV4Instruction::try_from`. -/
def try_from (data : List UInt8) : Outcome ParseError RaydiumV4Instruction := do
  if data.length < 8 then
    .err (.TooShort data.length)
  else
    let discriminator ← Slice.index data 0
    let payload ← Slice.range_from data 1
    decode_payload discriminator payload

/-- `unpack`, which forwards to `try_from`. -/
def unpack (data : List UInt8) : Outcome ParseError RaydiumV4Instruction :=
  try_from data

/-! ## The header and the arms -/

/-- Below 8 bytes the decoder rejects the input with its length. -/
theorem try_from_of_lt {data : List UInt8} (h : data.length < 8) :
    try_from data = .err (.TooShort data.length) := by
  simp [try_from, h]

/-- From 8 bytes on, the decoder dispatches on the first byte, with the rest as payload. -/
theorem try_from_cons (tag : UInt8) {payload : List UInt8} (h : 7 ≤ payload.length) :
    try_from (tag :: payload) = decode_payload tag payload := by
  have hlen : ¬(tag :: payload).length < 8 := by
    rw [List.length_cons]
    omega
  have hrest : (Slice.range_from (tag :: payload) 1 : Outcome ParseError (List UInt8)) = .ok payload :=
    Slice.range_from_append (s := [tag]) rfl payload
  simp only [try_from, if_neg hlen, Slice.index_cons_zero, Outcome.ok_bind, hrest]

/-- The swap-in arm: the first `SWAP_LEN` bytes of the payload, decoded exactly. -/
theorem decode_payload_swap_base_in (payload : List UInt8) :
    decode_payload SWAP_BASE_IN payload = do
      let swap ← Slice.range_to payload SWAP_LEN
      return .SwapBaseIn (← decode (SwapBaseInInstruction.borsh.try_from_slice swap)) := by
  simp [decode_payload, SWAP_BASE_IN, INITIALIZE, INITIALIZE2, MONITOR_STEP, DEPOSIT, WITHDRAW,
    MIGRATE_TO_OPENBOOK, SET_PARAMS, WITHDRAW_PNL, WITHDRAW_SRM]

/-- The swap-out arm: the first `SWAP_LEN` bytes of the payload, decoded exactly. -/
theorem decode_payload_swap_base_out (payload : List UInt8) :
    decode_payload SWAP_BASE_OUT payload = do
      let swap ← Slice.range_to payload SWAP_LEN
      return .SwapBaseOut (← decode (SwapBaseOutInstruction.borsh.try_from_slice swap)) := by
  simp [decode_payload, SWAP_BASE_OUT, INITIALIZE, INITIALIZE2, MONITOR_STEP, DEPOSIT, WITHDRAW,
    MIGRATE_TO_OPENBOOK, SET_PARAMS, WITHDRAW_PNL, WITHDRAW_SRM, SWAP_BASE_IN, PRE_INITIALIZE]

/-! ## Panics on short swaps -/

/-- On an input of 8 to 16 bytes, a swap tag leaves a payload of 7 to 15 bytes, which passes the
8-byte guard, and the slice `payload[..SWAP_LEN]` panics on it. -/
theorem unpack_panics_on_short_swap (data : List UInt8) (hlo : 8 ≤ data.length)
    (hhi : data.length ≤ 16) (htag : data[0]? = some SWAP_BASE_IN ∨ data[0]? = some SWAP_BASE_OUT) :
    unpack data = .panic := by
  obtain ⟨tag, payload, rfl⟩ : ∃ tag payload, data = tag :: payload := by
    cases data with
    | nil => simp at hlo
    | cons tag payload => exact ⟨tag, payload, rfl⟩
  rw [List.length_cons] at hlo hhi
  have hshort : (Slice.range_to payload SWAP_LEN : Outcome ParseError (List UInt8)) = .panic :=
    Slice.range_to_of_lt (by rw [SWAP_LEN]; omega)
  rw [unpack, try_from_cons tag (by omega)]
  rcases htag with h | h <;> rw [List.getElem?_cons_zero, Option.some.injEq] at h <;> subst h
  · -- `SwapBaseIn`
    rw [decode_payload_swap_base_in, hshort, Outcome.panic_bind]
  · -- `SwapBaseOut`
    rw [decode_payload_swap_base_out, hshort, Outcome.panic_bind]

theorem unpack_panics_on_eight_byte_swap :
    8 ≤ [SWAP_BASE_IN, 0, 0, 0, 0, 0, 0, 0].length ∧ [SWAP_BASE_IN, 0, 0, 0, 0, 0, 0, 0].length ≤ 16 ∧
      unpack [SWAP_BASE_IN, 0, 0, 0, 0, 0, 0, 0] = .panic :=
  ⟨by decide, by decide, unpack_panics_on_short_swap _ (by decide) (by decide) (.inl rfl)⟩

/-! ## The program's own layout -/

/-- The instructions of the Raydium AMM program that the layout below covers, with the fields
that raydium-amm's `AmmInstruction::unpack` reads for them. -/
inductive AmmInstruction where
  | Initialize (nonce : UInt8) (open_time : UInt64)
  | Initialize2 (nonce : UInt8) (open_time init_pc_amount init_coin_amount : UInt64)
  | MonitorStep (plan_order_limit place_order_limit cancel_order_limit : UInt16)
  | Deposit (max_coin_amount max_pc_amount base_side : UInt64) (other_amount_min : Option UInt64)
  | MigrateToOpenBook
  | WithdrawPnl
  | WithdrawSrm (amount : UInt64)
  | SwapBaseIn (amount_in minimum_amount_out : UInt64)
  | PreInitialize (nonce : UInt8)
  | SwapBaseOut (max_amount_in amount_out : UInt64)
  | AdminCancelOrders (limit : UInt16)
  | CreateConfigAccount
  deriving DecidableEq

/-- The program's layout: the tag byte, then the fields as little-endian integers of their
widths, packed by hand; `Deposit` appends `other_amount_min` only when it is present, with no tag
before it. -/
def AmmInstruction.pack : AmmInstruction → List UInt8
  | .Initialize nonce open_time => INITIALIZE :: nonce :: leBytes 8 open_time.toNat
  | .Initialize2 nonce open_time init_pc_amount init_coin_amount =>
    INITIALIZE2 :: nonce :: (leBytes 8 open_time.toNat ++ leBytes 8 init_pc_amount.toNat ++
      leBytes 8 init_coin_amount.toNat)
  | .MonitorStep plan place cancel =>
    MONITOR_STEP :: (leBytes 2 plan.toNat ++ leBytes 2 place.toNat ++ leBytes 2 cancel.toNat)
  | .Deposit max_coin max_pc base_side other_amount_min =>
    DEPOSIT :: (leBytes 8 max_coin.toNat ++ leBytes 8 max_pc.toNat ++ leBytes 8 base_side.toNat ++
      match other_amount_min with
      | none => []
      | some v => leBytes 8 v.toNat)
  | .MigrateToOpenBook => [MIGRATE_TO_OPENBOOK]
  | .WithdrawPnl => [WITHDRAW_PNL]
  | .WithdrawSrm amount => WITHDRAW_SRM :: leBytes 8 amount.toNat
  | .SwapBaseIn amount_in minimum_amount_out =>
    SWAP_BASE_IN :: (leBytes 8 amount_in.toNat ++ leBytes 8 minimum_amount_out.toNat)
  | .PreInitialize nonce => [PRE_INITIALIZE, nonce]
  | .SwapBaseOut max_amount_in amount_out =>
    SWAP_BASE_OUT :: (leBytes 8 max_amount_in.toNat ++ leBytes 8 amount_out.toNat)
  | .AdminCancelOrders limit => ADMIN_CANCEL_ORDERS :: leBytes 2 limit.toNat
  | .CreateConfigAccount => [CREATE_CONFIG_ACCOUNT]

/-- The crate's instruction that holds the same fields. -/
def AmmInstruction.toV4 : AmmInstruction → RaydiumV4Instruction
  | .Initialize nonce open_time => .Initialize ⟨nonce, open_time⟩
  | .Initialize2 nonce open_time pc coin => .Initialize2 ⟨nonce, open_time, pc, coin⟩
  | .MonitorStep plan place cancel => .MonitorStep ⟨plan, place, cancel⟩
  | .Deposit max_coin max_pc base_side other => .Deposit ⟨max_coin, max_pc, base_side, other⟩
  | .MigrateToOpenBook => .MigrateToOpenBook
  | .WithdrawPnl => .WithdrawPnl
  | .WithdrawSrm amount => .WithdrawSrm ⟨amount⟩
  | .SwapBaseIn amount_in minimum_amount_out => .SwapBaseIn ⟨amount_in, minimum_amount_out⟩
  | .PreInitialize nonce => .PreInitialize ⟨nonce⟩
  | .SwapBaseOut max_amount_in amount_out => .SwapBaseOut ⟨max_amount_in, amount_out⟩
  | .AdminCancelOrders limit => .AdminCancelOrders ⟨limit⟩
  | .CreateConfigAccount => .CreateConfigAccount

/-- Below 8 bytes, a layout is rejected by the guard. -/
theorem unpack_pack_of_short (i : AmmInstruction) (h : i.pack.length < 8) :
    unpack i.pack = .err (.TooShort i.pack.length) :=
  try_from_of_lt h

/-! ### The arms that read the layout back -/

/-- The `Initialize` arm inverts `InitializeInstruction`'s writer. -/
theorem decode_payload_initialize (x : InitializeInstruction) :
    decode_payload INITIALIZE (InitializeInstruction.borsh.write x) = .ok (.Initialize x) := by
  simp [decode_payload, decode_try_from_slice_write InitializeInstruction.borsh (x := x) rfl]

/-- The `Initialize2` arm inverts `Initialize2Instruction`'s writer. -/
theorem decode_payload_initialize2 (x : Initialize2Instruction) :
    decode_payload INITIALIZE2 (Initialize2Instruction.borsh.write x) = .ok (.Initialize2 x) := by
  simp [decode_payload, INITIALIZE, INITIALIZE2,
    decode_try_from_slice_write Initialize2Instruction.borsh (x := x) rfl]

/-- The `WithdrawSrm` arm inverts `WithdrawSrmInstruction`'s writer. -/
theorem decode_payload_withdraw_srm (x : WithdrawSrmInstruction) :
    decode_payload WITHDRAW_SRM (WithdrawSrmInstruction.borsh.write x) = .ok (.WithdrawSrm x) := by
  simp [decode_payload, INITIALIZE, INITIALIZE2, MONITOR_STEP, DEPOSIT, WITHDRAW,
    MIGRATE_TO_OPENBOOK, SET_PARAMS, WITHDRAW_PNL, WITHDRAW_SRM,
    decode_try_from_slice_write WithdrawSrmInstruction.borsh (x := x) rfl]

/-- The swap-in arm inverts `SwapBaseInInstruction`'s writer and ignores the bytes after it. -/
theorem decode_payload_swap_base_in_write (x : SwapBaseInInstruction) (rest : List UInt8) :
    decode_payload SWAP_BASE_IN (SwapBaseInInstruction.borsh.write x ++ rest) =
      .ok (.SwapBaseIn x) := by
  have hlen : (SwapBaseInInstruction.borsh.write x).length = SWAP_LEN := by
    simp [SwapBaseInInstruction.borsh, u64_write, SWAP_LEN]
  have hcut : (Slice.range_to (SwapBaseInInstruction.borsh.write x ++ rest) SWAP_LEN :
      Outcome ParseError (List UInt8)) = .ok (SwapBaseInInstruction.borsh.write x) := by
    rw [Slice.range_to_of_le (by simp [hlen]), ← hlen, List.take_left]
  rw [decode_payload_swap_base_in, hcut, Outcome.ok_bind]
  exact decode_arm_write SwapBaseInInstruction.borsh _ rfl

/-- The swap-out arm inverts `SwapBaseOutInstruction`'s writer and ignores the bytes after it. -/
theorem decode_payload_swap_base_out_write (x : SwapBaseOutInstruction) (rest : List UInt8) :
    decode_payload SWAP_BASE_OUT (SwapBaseOutInstruction.borsh.write x ++ rest) =
      .ok (.SwapBaseOut x) := by
  have hlen : (SwapBaseOutInstruction.borsh.write x).length = SWAP_LEN := by
    simp [SwapBaseOutInstruction.borsh, u64_write, SWAP_LEN]
  have hcut : (Slice.range_to (SwapBaseOutInstruction.borsh.write x ++ rest) SWAP_LEN :
      Outcome ParseError (List UInt8)) = .ok (SwapBaseOutInstruction.borsh.write x) := by
    rw [Slice.range_to_of_le (by simp [hlen]), ← hlen, List.take_left]
  rw [decode_payload_swap_base_out, hcut, Outcome.ok_bind]
  exact decode_arm_write SwapBaseOutInstruction.borsh _ rfl

/-! ### `Deposit` -/

/-- The arm of `Deposit` decodes its whole payload as `DepositInstruction`. -/
theorem decode_payload_deposit (payload : List UInt8) :
    decode_payload DEPOSIT payload =
      (do return .Deposit (← decode (DepositInstruction.borsh.try_from_slice payload))) := by
  simp [decode_payload, DEPOSIT, INITIALIZE, INITIALIZE2, MONITOR_STEP]

/-- A Borsh `Option<u64>` is never read from the eight bytes of a bare `u64`: its first byte is
taken for the tag, and then either the seven bytes left are too few for the value, or they are
left over. -/
theorem option_u64_try_from_slice_bare (v : UInt64) :
    ∃ e, Codec.u64.option.try_from_slice (leBytes 8 v.toNat) = .error e := by
  obtain ⟨b, r, hbr⟩ : ∃ b r, leBytes 8 v.toNat = b :: r := ⟨_, _, rfl⟩
  have hr : r.length = 7 := by
    have := length_leBytes 8 v.toNat
    rw [hbr, List.length_cons] at this
    omega
  rw [hbr]
  by_cases h0 : b = 0
  · -- Tag 0: `None`, with the seven bytes left over.
    obtain ⟨c, r', rfl⟩ : ∃ c r', r = c :: r' := by
      cases r with
      | nil => simp at hr
      | cons c r' => exact ⟨c, r', rfl⟩
    exact ⟨.notAllBytesRead, by simp [Codec.try_from_slice, Codec.option, h0]⟩
  · by_cases h1 : b = 1
    · -- Tag 1: the value needs eight bytes and seven remain.
      have hshort : takeBytes 8 r = .error .unexpectedLength := by
        simp [takeBytes, hr]
      exact ⟨.unexpectedLength, by
        simp [Codec.try_from_slice, Codec.option, h1, Codec.readAs, Codec.u64, Codec.le, hshort]⟩
    · exact ⟨.invalidOption b, by simp [Codec.try_from_slice, Codec.option, h0, h1]⟩

/-- The program's `Deposit` is never read back: without `other_amount_min` the Borsh `Option`
tag is missing, and with it the tag is read from the value's first byte. -/
theorem unpack_pack_deposit (max_coin max_pc base_side : UInt64) (other : Option UInt64) :
    ∃ e, unpack (AmmInstruction.Deposit max_coin max_pc base_side other).pack = .err (.Decode e) := by
  set tail : List UInt8 := match other with
    | none => []
    | some v => leBytes 8 v.toNat with htail
  -- The tail, as a Borsh `Option<u64>`, is rejected.
  obtain ⟨e, he⟩ : ∃ e, Codec.u64.option.try_from_slice tail = .error e := by
    cases other with
    | none => exact ⟨.unexpectedLength, rfl⟩
    | some v => exact option_u64_try_from_slice_bare v
  have hpayload : (AmmInstruction.Deposit max_coin max_pc base_side other).pack =
      DEPOSIT :: (u64.write max_coin ++ (u64.write max_pc ++ (u64.write base_side ++ tail))) := by
    simp [AmmInstruction.pack, u64_write, htail]
  have hlen : 7 ≤ (u64.write max_coin ++ (u64.write max_pc ++ (u64.write base_side ++ tail))).length := by
    simp [u64_write]
    omega
  have hdec : DepositInstruction.borsh.try_from_slice
      (u64.write max_coin ++ (u64.write max_pc ++ (u64.write base_side ++ tail))) = .error e := by
    -- The three `u64`s are read back, and the `Option<u64>` after them fails.
    rw [DepositInstruction.borsh, Codec.try_from_slice_map, Codec.try_from_slice_prod_write _ _ rfl,
      Codec.try_from_slice_prod_write _ _ rfl, Codec.try_from_slice_prod_write _ _ rfl, he]
    rfl
  refine ⟨e, ?_⟩
  rw [unpack, hpayload, try_from_cons _ hlen, decode_payload_deposit, hdec]
  rfl

/-! ### The refinement, and where it fails -/

/-- The layouts of `Initialize`, `Initialize2`, `WithdrawSrm` and the swaps are the crate's Borsh
payloads after the tag, and are read back. -/
theorem unpack_pack_of_borsh (i : AmmInstruction)
    (h : (∃ nonce open_time, i = .Initialize nonce open_time) ∨
      (∃ nonce open_time pc coin, i = .Initialize2 nonce open_time pc coin) ∨
      (∃ amount, i = .WithdrawSrm amount) ∨ (∃ a b, i = .SwapBaseIn a b) ∨
      (∃ a b, i = .SwapBaseOut a b)) :
    unpack i.pack = .ok i.toV4 := by
  rcases h with ⟨n, t, rfl⟩ | ⟨n, t, p, c, rfl⟩ | ⟨a, rfl⟩ | ⟨a, b, rfl⟩ | ⟨a, b, rfl⟩
  · have hw : (AmmInstruction.Initialize n t).pack =
        INITIALIZE :: InitializeInstruction.borsh.write ⟨n, t⟩ := by
      simp [AmmInstruction.pack, InitializeInstruction.borsh, u64_write]
    rw [unpack, hw, try_from_cons _ (by simp [InitializeInstruction.borsh, u64_write]),
      decode_payload_initialize]
    rfl
  · have hw : (AmmInstruction.Initialize2 n t p c).pack =
        INITIALIZE2 :: Initialize2Instruction.borsh.write ⟨n, t, p, c⟩ := by
      simp [AmmInstruction.pack, Initialize2Instruction.borsh, u64_write]
    rw [unpack, hw, try_from_cons _ (by simp [Initialize2Instruction.borsh, u64_write]),
      decode_payload_initialize2]
    rfl
  · have hw : (AmmInstruction.WithdrawSrm a).pack =
        WITHDRAW_SRM :: WithdrawSrmInstruction.borsh.write ⟨a⟩ := by
      simp [AmmInstruction.pack, WithdrawSrmInstruction.borsh, u64_write]
    rw [unpack, hw, try_from_cons _ (by simp [WithdrawSrmInstruction.borsh, u64_write]),
      decode_payload_withdraw_srm]
    rfl
  · have hw : (AmmInstruction.SwapBaseIn a b).pack =
        SWAP_BASE_IN :: (SwapBaseInInstruction.borsh.write ⟨a, b⟩ ++ []) := by
      simp [AmmInstruction.pack, SwapBaseInInstruction.borsh, u64_write]
    rw [unpack, hw, try_from_cons _ (by simp [SwapBaseInInstruction.borsh, u64_write]),
      decode_payload_swap_base_in_write]
    rfl
  · have hw : (AmmInstruction.SwapBaseOut a b).pack =
        SWAP_BASE_OUT :: (SwapBaseOutInstruction.borsh.write ⟨a, b⟩ ++ []) := by
      simp [AmmInstruction.pack, SwapBaseOutInstruction.borsh, u64_write]
    rw [unpack, hw, try_from_cons _ (by simp [SwapBaseOutInstruction.borsh, u64_write]),
      decode_payload_swap_base_out_write]
    rfl

/-- The decoder reads the program's layout back exactly for the instructions whose layout is at
least 8 bytes long, `Deposit` excepted: the tag-only instructions, `PreInitialize`,
`AdminCancelOrders` and `MonitorStep` fall to the 8-byte guard, and `Deposit` to its Borsh
`Option`. -/
theorem unpack_pack_eq_ok_iff (i : AmmInstruction) :
    unpack i.pack = .ok i.toV4 ↔ 8 ≤ i.pack.length ∧ ∀ a b c d, i ≠ .Deposit a b c d := by
  -- The encodings under 8 bytes: the guard returns an error, and the length test fails.
  have short (h : i.pack.length < 8) : ¬unpack i.pack = .ok i.toV4 ∧ ¬8 ≤ i.pack.length := by
    rw [unpack_pack_of_short i h]
    exact ⟨by simp, by omega⟩
  cases i with
  | Initialize n t =>
    exact iff_of_true (unpack_pack_of_borsh _ (.inl ⟨n, t, rfl⟩))
      ⟨by simp [AmmInstruction.pack], by simp⟩
  | Initialize2 n t p c =>
    exact iff_of_true (unpack_pack_of_borsh _ (.inr (.inl ⟨n, t, p, c, rfl⟩)))
      ⟨by simp [AmmInstruction.pack], by simp⟩
  | WithdrawSrm a =>
    exact iff_of_true (unpack_pack_of_borsh _ (.inr (.inr (.inl ⟨a, rfl⟩))))
      ⟨by simp [AmmInstruction.pack], by simp⟩
  | SwapBaseIn a b =>
    exact iff_of_true (unpack_pack_of_borsh _ (.inr (.inr (.inr (.inl ⟨a, b, rfl⟩)))))
      ⟨by simp [AmmInstruction.pack], by simp⟩
  | SwapBaseOut a b =>
    exact iff_of_true (unpack_pack_of_borsh _ (.inr (.inr (.inr (.inr ⟨a, b, rfl⟩)))))
      ⟨by simp [AmmInstruction.pack], by simp⟩
  | Deposit a b c d =>
    obtain ⟨e, he⟩ := unpack_pack_deposit a b c d
    simp only [he, reduceCtorEq, false_iff, not_and, not_forall, not_not]
    exact fun _ => ⟨a, b, c, d, rfl⟩
  | MonitorStep a b c =>
    have := short (by simp [AmmInstruction.pack])
    tauto
  | MigrateToOpenBook =>
    have := short (by simp [AmmInstruction.pack])
    tauto
  | WithdrawPnl =>
    have := short (by simp [AmmInstruction.pack])
    tauto
  | PreInitialize n =>
    have := short (by simp [AmmInstruction.pack])
    tauto
  | AdminCancelOrders l =>
    have := short (by simp [AmmInstruction.pack])
    tauto
  | CreateConfigAccount =>
    have := short (by simp [AmmInstruction.pack])
    tauto

end SolanaIdls.raydium.amm.v4.instructions
