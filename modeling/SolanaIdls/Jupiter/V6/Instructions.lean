import SolanaIdls.Common

/-!
# Jupiter v6 instructions

`jupiter::v6::instructions::unpack` of `src/jupiter/v6/instructions.rs`: Anchor's 8-byte
discriminator, then an arm of one of four shapes. `Claim`, `ClaimToken`, `CloseToken`,
`CreateProgramOpenOrders` and `CreateTokenAccount` decode their one- or two-field payload with
Borsh, exactly; `CreateOpenOrders`, `CreateTokenLedger` and `SetTokenLedger` read nothing; the
three plain routes keep the whole payload raw; and the three `SharedAccounts` routes take the
payload's first byte as the program's `id` and keep the rest raw, rejecting an empty payload with
`InvalidLength { expected: 1, got: 0 }`.

Every row keeps a promise (`RowSpec`): what it returns is laid out by the discriminator and the
payload, with bytes after the layout only for an instruction without arguments; it fails only
with a Borsh error or the `InvalidLength` of an empty payload; and it never panics. With the
read-back of every layout, that makes the decoder exact (`jupiter_v6_unpack_spec`).
-/

namespace SolanaIdls.jupiter.v6.instructions

open Borsh Borsh.Codec

/-! ## Payloads -/

/-- `ClaimInstruction`. -/
structure ClaimInstruction where
  id : UInt8
  deriving DecidableEq

/-- `ClaimTokenInstruction`. -/
structure ClaimTokenInstruction where
  id : UInt8
  deriving DecidableEq

/-- `CloseTokenInstruction`. -/
structure CloseTokenInstruction where
  id : UInt8
  burn_all : Bool
  deriving DecidableEq

/-- `CreateProgramOpenOrdersInstruction`. -/
structure CreateProgramOpenOrdersInstruction where
  id : UInt8
  deriving DecidableEq

/-- `CreateTokenAccountInstruction`. -/
structure CreateTokenAccountInstruction where
  bump : UInt8
  deriving DecidableEq

/-- `SharedAccountsExactOutRouteInstruction`: the `id`, and the rest of the instruction data raw. -/
structure SharedAccountsExactOutRouteInstruction where
  id : UInt8
  data : List UInt8
  deriving DecidableEq

/-- `SharedAccountsRouteInstruction`. -/
structure SharedAccountsRouteInstruction where
  id : UInt8
  data : List UInt8
  deriving DecidableEq

/-- `SharedAccountsRouteWithTokenLedgerInstruction`. -/
structure SharedAccountsRouteWithTokenLedgerInstruction where
  id : UInt8
  data : List UInt8
  deriving DecidableEq

/-- `RouteInstruction`: the route plan and arguments, raw. -/
structure RouteInstruction where
  data : List UInt8
  deriving DecidableEq

/-- `ExactOutRouteInstruction`. -/
structure ExactOutRouteInstruction where
  data : List UInt8
  deriving DecidableEq

/-- `RouteWithTokenLedgerInstruction`. -/
structure RouteWithTokenLedgerInstruction where
  data : List UInt8
  deriving DecidableEq

def ClaimInstruction.borsh : Codec ClaimInstruction :=
  u8.map (fun a => ⟨a⟩) (fun x => x.id) fun _ => rfl

def ClaimTokenInstruction.borsh : Codec ClaimTokenInstruction :=
  u8.map (fun a => ⟨a⟩) (fun x => x.id) fun _ => rfl

def CloseTokenInstruction.borsh : Codec CloseTokenInstruction :=
  (u8.prod bool).map (fun (a, b) => ⟨a, b⟩) (fun x => (x.id, x.burn_all)) fun _ => rfl

def CreateProgramOpenOrdersInstruction.borsh : Codec CreateProgramOpenOrdersInstruction :=
  u8.map (fun a => ⟨a⟩) (fun x => x.id) fun _ => rfl

def CreateTokenAccountInstruction.borsh : Codec CreateTokenAccountInstruction :=
  u8.map (fun a => ⟨a⟩) (fun x => x.bump) fun _ => rfl

/-! ## Discriminators and instructions -/

def CLAIM : List.Vector UInt8 8 := ⟨[62, 198, 214, 193, 213, 159, 108, 210], rfl⟩
def CLAIM_TOKEN : List.Vector UInt8 8 := ⟨[116, 206, 27, 191, 166, 19, 0, 73], rfl⟩
def CLOSE_TOKEN : List.Vector UInt8 8 := ⟨[26, 74, 236, 151, 104, 64, 183, 249], rfl⟩
def CREATE_OPEN_ORDERS : List.Vector UInt8 8 := ⟨[229, 194, 212, 172, 8, 10, 134, 147], rfl⟩
def CREATE_PROGRAM_OPEN_ORDERS : List.Vector UInt8 8 :=
  ⟨[28, 226, 32, 148, 188, 136, 113, 171], rfl⟩
def CREATE_TOKEN_LEDGER : List.Vector UInt8 8 := ⟨[232, 242, 197, 253, 240, 143, 129, 52], rfl⟩
def CREATE_TOKEN_ACCOUNT : List.Vector UInt8 8 :=
  ⟨[147, 241, 123, 100, 244, 132, 174, 118], rfl⟩
def EXACT_OUT_ROUTE : List.Vector UInt8 8 := ⟨[208, 51, 239, 151, 123, 43, 237, 92], rfl⟩
def ROUTE : List.Vector UInt8 8 := ⟨[229, 23, 203, 151, 122, 227, 173, 42], by decide⟩
def ROUTE_WITH_TOKEN_LEDGER : List.Vector UInt8 8 := ⟨[150, 86, 71, 116, 167, 93, 14, 104], rfl⟩
def SET_TOKEN_LEDGER : List.Vector UInt8 8 := ⟨[228, 85, 185, 112, 78, 79, 77, 2], rfl⟩
def SHARED_ACCOUNTS_EXACT_OUT_ROUTE : List.Vector UInt8 8 :=
  ⟨[176, 209, 105, 168, 154, 125, 69, 62], rfl⟩
def SHARED_ACCOUNTS_ROUTE : List.Vector UInt8 8 := ⟨[193, 32, 155, 51, 65, 214, 156, 129], rfl⟩
def SHARED_ACCOUNTS_ROUTE_WITH_TOKEN_LEDGER : List.Vector UInt8 8 :=
  ⟨[230, 121, 143, 80, 119, 159, 106, 170], rfl⟩

/-- `JupiterV6Instruction`. -/
inductive JupiterV6Instruction where
  | Claim (i : ClaimInstruction)
  | ClaimToken (i : ClaimTokenInstruction)
  | CloseToken (i : CloseTokenInstruction)
  | CreateOpenOrders
  | CreateProgramOpenOrders (i : CreateProgramOpenOrdersInstruction)
  | CreateTokenLedger
  | CreateTokenAccount (i : CreateTokenAccountInstruction)
  | ExactOutRoute (i : ExactOutRouteInstruction)
  | Route (i : RouteInstruction)
  | RouteWithTokenLedger (i : RouteWithTokenLedgerInstruction)
  | SetTokenLedger
  | SharedAccountsExactOutRoute (i : SharedAccountsExactOutRouteInstruction)
  | SharedAccountsRoute (i : SharedAccountsRouteInstruction)
  | SharedAccountsRouteWithTokenLedger (i : SharedAccountsRouteWithTokenLedgerInstruction)
  | Unknown
  deriving DecidableEq

/-! ## The decoder -/

/-- The arm of the three `SharedAccounts` routes: `id = payload[0]` and `data =
payload[1..].to_vec()`, after rejecting an empty payload. -/
def shared_accounts_arm (mk : UInt8 → List UInt8 → JupiterV6Instruction)
    (payload : List UInt8) :
    Outcome ParseError JupiterV6Instruction := do
  if payload.isEmpty then
    .err (.InvalidLength 1 0)
  else
    let id ← Slice.index payload 0
    let data ← Slice.range_from payload 1
    return mk id data

/-- The arms of the `match discriminator` of `try_from`, in the source's order. -/
def arms : List (List.Vector UInt8 8 × (List UInt8 → Outcome ParseError JupiterV6Instruction)) :=
  [(CLAIM, decode_arm ClaimInstruction.borsh .Claim),
   (CLAIM_TOKEN, decode_arm ClaimTokenInstruction.borsh .ClaimToken),
   (CLOSE_TOKEN, decode_arm CloseTokenInstruction.borsh .CloseToken),
   (CREATE_OPEN_ORDERS, fun _ => .ok .CreateOpenOrders),
   (CREATE_PROGRAM_OPEN_ORDERS,
    decode_arm CreateProgramOpenOrdersInstruction.borsh .CreateProgramOpenOrders),
   (CREATE_TOKEN_LEDGER, fun _ => .ok .CreateTokenLedger),
   (CREATE_TOKEN_ACCOUNT, decode_arm CreateTokenAccountInstruction.borsh .CreateTokenAccount),
   (EXACT_OUT_ROUTE, fun payload => .ok (.ExactOutRoute ⟨payload⟩)),
   (ROUTE, fun payload => .ok (.Route ⟨payload⟩)),
   (ROUTE_WITH_TOKEN_LEDGER, fun payload => .ok (.RouteWithTokenLedger ⟨payload⟩)),
   (SET_TOKEN_LEDGER, fun _ => .ok .SetTokenLedger),
   (SHARED_ACCOUNTS_EXACT_OUT_ROUTE,
    shared_accounts_arm fun id data => .SharedAccountsExactOutRoute ⟨id, data⟩),
   (SHARED_ACCOUNTS_ROUTE, shared_accounts_arm fun id data => .SharedAccountsRoute ⟨id, data⟩),
   (SHARED_ACCOUNTS_ROUTE_WITH_TOKEN_LEDGER,
    shared_accounts_arm fun id data => .SharedAccountsRouteWithTokenLedger ⟨id, data⟩)]

/-- The `match discriminator` of `try_from`: the arm of the discriminator, or `Unknown`. -/
def decode_payload (discriminator : List.Vector UInt8 8) (payload : List UInt8) :
    Outcome ParseError JupiterV6Instruction :=
  matchConst arms (fun other _ => .err (.Unknown other)) discriminator payload

/-- `JupiterV6Instruction::try_from`. -/
def try_from (data : List UInt8) : Outcome ParseError JupiterV6Instruction :=
  anchor_try_from decode_payload data

/-- `unpack`, which forwards to `try_from`. -/
def unpack (data : List UInt8) : Outcome ParseError JupiterV6Instruction :=
  try_from data

/-! ## Layouts -/

/-- What the program is sent for an instruction: its discriminator, then its arguments as the
decoder reads them. `Unknown` is no instruction of the program and has no layout. -/
def JupiterV6Instruction.write : JupiterV6Instruction → List UInt8
  | .Claim i => CLAIM.toList ++ ClaimInstruction.borsh.write i
  | .ClaimToken i => CLAIM_TOKEN.toList ++ ClaimTokenInstruction.borsh.write i
  | .CloseToken i => CLOSE_TOKEN.toList ++ CloseTokenInstruction.borsh.write i
  | .CreateOpenOrders => CREATE_OPEN_ORDERS.toList
  | .CreateProgramOpenOrders i =>
    CREATE_PROGRAM_OPEN_ORDERS.toList ++ CreateProgramOpenOrdersInstruction.borsh.write i
  | .CreateTokenLedger => CREATE_TOKEN_LEDGER.toList
  | .CreateTokenAccount i =>
    CREATE_TOKEN_ACCOUNT.toList ++ CreateTokenAccountInstruction.borsh.write i
  | .ExactOutRoute i => EXACT_OUT_ROUTE.toList ++ i.data
  | .Route i => ROUTE.toList ++ i.data
  | .RouteWithTokenLedger i => ROUTE_WITH_TOKEN_LEDGER.toList ++ i.data
  | .SetTokenLedger => SET_TOKEN_LEDGER.toList
  | .SharedAccountsExactOutRoute i => SHARED_ACCOUNTS_EXACT_OUT_ROUTE.toList ++ i.id :: i.data
  | .SharedAccountsRoute i => SHARED_ACCOUNTS_ROUTE.toList ++ i.id :: i.data
  | .SharedAccountsRouteWithTokenLedger i =>
    SHARED_ACCOUNTS_ROUTE_WITH_TOKEN_LEDGER.toList ++ i.id :: i.data
  | .Unknown => []

/-- The instructions whose arm reads nothing after the discriminator. -/
def JupiterV6Instruction.argless : JupiterV6Instruction → Bool
  | .CreateOpenOrders | .CreateTokenLedger | .SetTokenLedger => true
  | _ => false

/-! ## What each row promises -/

theorem shared_accounts_arm_nil (mk : UInt8 → List UInt8 → JupiterV6Instruction) :
    shared_accounts_arm mk [] = .err (.InvalidLength 1 0) := rfl

theorem shared_accounts_arm_cons (mk : UInt8 → List UInt8 → JupiterV6Instruction) (id : UInt8)
    (data : List UInt8) : shared_accounts_arm mk (id :: data) = .ok (mk id data) := by
  have hdata : (Slice.range_from (id :: data) 1 : Outcome ParseError (List UInt8)) = .ok data :=
    Slice.range_from_append (s := [id]) rfl data
  simp only [shared_accounts_arm, List.isEmpty_cons, Bool.false_eq_true, if_false,
    Slice.index_cons_zero, Outcome.ok_bind, hdata]
  rfl

/-- A `SharedAccounts` row keeps the promise of an Anchor row, reporting only the
`InvalidLength` of an empty payload. -/
theorem anchorRow_shared {d : List.Vector UInt8 8}
    {mk : UInt8 → List UInt8 → JupiterV6Instruction}
    (hV : ∀ id data, (mk id data).write = d.toList ++ id :: data)
    (hne : ∀ id data, mk id data ≠ .Unknown) :
    AnchorRow JupiterV6Instruction.write (· ≠ .Unknown) JupiterV6Instruction.argless
      (fun payload e => payload = [] ∧ e = .InvalidLength 1 0) d (shared_accounts_arm mk) := by
  intro payload
  cases payload with
  | nil =>
    rw [shared_accounts_arm_nil]
    exact OutcomeSpec.of_err ⟨rfl, rfl⟩
  | cons id data =>
    rw [shared_accounts_arm_cons]
    exact OutcomeSpec.of_ok [] (by rw [hV, List.append_nil]) ⟨hne id data, .inl rfl⟩

theorem ClaimInstruction.canonical_borsh : ClaimInstruction.borsh.Canonical :=
  canonical_u8.map _ _ _ fun _ => rfl

theorem ClaimTokenInstruction.canonical_borsh : ClaimTokenInstruction.borsh.Canonical :=
  canonical_u8.map _ _ _ fun _ => rfl

theorem CloseTokenInstruction.canonical_borsh : CloseTokenInstruction.borsh.Canonical :=
  (canonical_u8.prod canonical_bool).map _ _ _ fun _ => rfl

theorem CreateProgramOpenOrdersInstruction.canonical_borsh :
    CreateProgramOpenOrdersInstruction.borsh.Canonical :=
  canonical_u8.map _ _ _ fun _ => rfl

theorem CreateTokenAccountInstruction.canonical_borsh :
    CreateTokenAccountInstruction.borsh.Canonical :=
  canonical_u8.map _ _ _ fun _ => rfl

/-- Every row of the table keeps its promise: it fails only with a Borsh error or, for the three
`SharedAccounts` routes, the `InvalidLength` of an empty payload. -/
theorem arms_spec (d : List.Vector UInt8 8)
    (arm : List UInt8 → Outcome ParseError JupiterV6Instruction) (hmem : (d, arm) ∈ arms) :
    AnchorRow JupiterV6Instruction.write (· ≠ .Unknown) JupiterV6Instruction.argless
      (fun payload e => (∃ be, e = .Decode be) ∨
        ((d = SHARED_ACCOUNTS_EXACT_OUT_ROUTE ∨ d = SHARED_ACCOUNTS_ROUTE ∨
          d = SHARED_ACCOUNTS_ROUTE_WITH_TOKEN_LEDGER) ∧ payload = [] ∧ e = .InvalidLength 1 0))
      d arm := by
  simp only [arms, List.mem_cons, Prod.mk.injEq, List.not_mem_nil] at hmem
  -- one goal per row; the list's end is `False`
  repeat' rcases hmem with ⟨rfl, rfl⟩ | hmem
  -- the payload structs hold no length prefix, so every value fits
  · exact AnchorRow.mono (anchorRow_decode ClaimInstruction.canonical_borsh ⟨fun _ => rfl⟩
      (fun _ => rfl) fun _ _ => nofun) fun _ _ => .inl
  · exact AnchorRow.mono (anchorRow_decode ClaimTokenInstruction.canonical_borsh ⟨fun _ => rfl⟩
      (fun _ => rfl) fun _ _ => nofun) fun _ _ => .inl
  · exact AnchorRow.mono (anchorRow_decode CloseTokenInstruction.canonical_borsh ⟨fun _ => rfl⟩
      (fun _ => rfl) fun _ _ => nofun) fun _ _ => .inl
  · exact anchorRow_bare rfl nofun rfl
  · exact AnchorRow.mono
      (anchorRow_decode CreateProgramOpenOrdersInstruction.canonical_borsh ⟨fun _ => rfl⟩
        (fun _ => rfl) fun _ _ => nofun) fun _ _ => .inl
  · exact anchorRow_bare rfl nofun rfl
  · exact AnchorRow.mono
      (anchorRow_decode CreateTokenAccountInstruction.canonical_borsh ⟨fun _ => rfl⟩
        (fun _ => rfl) fun _ _ => nofun) fun _ _ => .inl
  · exact anchorRow_raw (fun _ => rfl) nofun
  · exact anchorRow_raw (fun _ => rfl) nofun
  · exact anchorRow_raw (fun _ => rfl) nofun
  · exact anchorRow_bare rfl nofun rfl
  -- the three `SharedAccounts` rows, in the order of their discriminators in the statement
  · exact AnchorRow.mono (anchorRow_shared (fun _ _ => rfl) nofun) fun _ _ h =>
      .inr ⟨.inl rfl, h⟩
  · exact AnchorRow.mono (anchorRow_shared (fun _ _ => rfl) nofun) fun _ _ h =>
      .inr ⟨.inr (.inl rfl), h⟩
  · exact AnchorRow.mono (anchorRow_shared (fun _ _ => rfl) nofun) fun _ _ h =>
      .inr ⟨.inr (.inr rfl), h⟩

/-! ## Each layout is read back -/

/-- The fourteen discriminators are distinct. -/
theorem arms_nodup : (arms.map Prod.fst).Nodup := by
  decide

/-! The generic lemmas, stated for `unpack`, so that a row is found from the instruction's
layout. -/

theorem unpack_decode {α : Type} {d : List.Vector UInt8 8} {c : Codec α}
    {V : α → JupiterV6Instruction} (hmem : (d, decode_arm c V) ∈ arms) {x : α}
    (hx : c.fits x = true) : unpack (d.toList ++ c.write x) = .ok (V x) :=
  anchor_table_decode arms_nodup hmem hx

theorem unpack_bare {d : List.Vector UInt8 8} {i : JupiterV6Instruction}
    (hmem : (d, fun _ => .ok i) ∈ arms) (t : List UInt8) : unpack (d.toList ++ t) = .ok i :=
  anchor_table_bare arms_nodup hmem t

theorem unpack_raw (V : List UInt8 → JupiterV6Instruction) {d : List.Vector UInt8 8}
    (hmem : (d, fun payload => .ok (V payload)) ∈ arms) (payload : List UInt8) :
    unpack (d.toList ++ payload) = .ok (V payload) :=
  anchor_table_of_mem arms_nodup hmem payload

theorem unpack_shared (mk : UInt8 → List UInt8 → JupiterV6Instruction) {d : List.Vector UInt8 8}
    (hmem : (d, shared_accounts_arm mk) ∈ arms) (id : UInt8) (data : List UInt8) :
    unpack (d.toList ++ id :: data) = .ok (mk id data) :=
  (anchor_table_of_mem arms_nodup hmem _).trans (shared_accounts_arm_cons mk id data)

/-- An instruction without arguments is read back whatever follows its discriminator. -/
theorem unpack_write_append_of_argless (i : JupiterV6Instruction) (h : i.argless = true)
    (t : List UInt8) : unpack (i.write ++ t) = .ok i := by
  cases i <;> simp only [JupiterV6Instruction.argless, Bool.false_eq_true] at h
  all_goals exact unpack_bare (by simp only [arms, List.mem_cons, true_or, or_true]) t

/-- Every instruction is read back from its layout. -/
theorem unpack_write (i : JupiterV6Instruction) (h : i ≠ .Unknown) : unpack i.write = .ok i := by
  cases i
  case Unknown => exact absurd rfl h
  case Claim i | ClaimToken i | CloseToken i | CreateProgramOpenOrders i | CreateTokenAccount i =>
    exact unpack_decode (by simp only [arms, List.mem_cons, true_or, or_true]) rfl
  -- the routes keep their payload whole; each row's constructor is given, as the instruction
  -- alone does not determine it as a function of the payload
  case ExactOutRoute i =>
    exact unpack_raw (fun p => .ExactOutRoute ⟨p⟩)
      (by simp only [arms, List.mem_cons, true_or, or_true]) i.data
  case Route i =>
    exact unpack_raw (fun p => .Route ⟨p⟩)
      (by simp only [arms, List.mem_cons, true_or, or_true]) i.data
  case RouteWithTokenLedger i =>
    exact unpack_raw (fun p => .RouteWithTokenLedger ⟨p⟩)
      (by simp only [arms, List.mem_cons, true_or, or_true]) i.data
  case SharedAccountsExactOutRoute i =>
    exact unpack_shared (fun id data => .SharedAccountsExactOutRoute ⟨id, data⟩)
      (by simp only [arms, List.mem_cons, true_or, or_true]) i.id i.data
  case SharedAccountsRoute i =>
    exact unpack_shared (fun id data => .SharedAccountsRoute ⟨id, data⟩)
      (by simp only [arms, List.mem_cons, true_or, or_true]) i.id i.data
  case SharedAccountsRouteWithTokenLedger i =>
    exact unpack_shared (fun id data => .SharedAccountsRouteWithTokenLedger ⟨id, data⟩)
      (by simp only [arms, List.mem_cons, true_or, or_true]) i.id i.data
  -- the rest have no arguments: their layout is the discriminator alone
  all_goals simpa using unpack_write_append_of_argless _ rfl []

/-! ## The decoder is exact -/

/-- The decoder returns an instruction exactly on its layout, followed by anything only when the
instruction has no arguments; it fails with `TooShort` below 8 bytes, `Unknown` behind a
discriminator of no row, a Borsh error, or, behind the discriminator of one of the three
`SharedAccounts` routes, the `InvalidLength` of an empty payload; and it never panics. -/
theorem jupiter_v6_unpack_spec (data : List UInt8) :
    (∀ i, unpack data = .ok i ↔
      i ≠ .Unknown ∧ ∃ t, data = i.write ++ t ∧ (t = [] ∨ i.argless = true)) ∧
      (∀ e, unpack data = .err e → (data.length < 8 ∧ e = .TooShort data.length) ∨
        ∃ disc payload, data = disc.toList ++ payload ∧
          ((disc ∉ arms.map Prod.fst ∧ e = .Unknown disc) ∨ (∃ be, e = .Decode be) ∨
            ((disc = SHARED_ACCOUNTS_EXACT_OUT_ROUTE ∨ disc = SHARED_ACCOUNTS_ROUTE ∨
              disc = SHARED_ACCOUNTS_ROUTE_WITH_TOKEN_LEDGER) ∧
              payload = [] ∧ e = .InvalidLength 1 0))) ∧
      unpack data ≠ .panic := by
  -- every layout is read back, followed by what the instruction allows
  have hcomplete : ∀ i t, i ≠ .Unknown → (t = [] ∨ i.argless = true) →
      unpack (i.write ++ t) = .ok i := by
    rintro i t hne (rfl | ha)
    · rw [List.append_nil]
      exact unpack_write i hne
    · exact unpack_write_append_of_argless i ha t
  exact anchor_table_exact arms_nodup arms_spec hcomplete data

end SolanaIdls.jupiter.v6.instructions
