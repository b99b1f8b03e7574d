import SolanaIdls.Common

/-!
# Account extraction

`src/common/accounts.rs`: how the crate's account parsers bind the accounts of an instruction to
the roles of a struct. What a parser reads of an `InstructionView` is the list of its accounts'
key bytes, in order. A role at index `i` is read by `get_req`: the list must have an `i`-th
entry (`Missing` otherwise), and the entry must have the 32 bytes of a key (`to_pubkey`,
`InvalidLen` otherwise).

The `accounts!` macro generates a struct of required keys and its `try_from`, which reads the
fields in declaration order with a counter `idx` that starts at 0 and advances after each field,
and returns at the first field that fails. The macro is `accounts_try_from` here, a function of
the field list that returns the keys as a vector with one entry per field; each struct that the
macro generates is this function at its own field list. Its contract, `accounts_try_from_spec`,
is positional: it succeeds exactly when the first `k` entries are keys, binds field `j` to entry
`j`, fails with the error of the first entry that is not a key, and never reads past entry
`k - 1`. The lemmas under it are one per direction of that contract, each by induction on the
field list with the start index generalized.

The hand-written parsers, whose structs hold optional accounts, define two closures over the
account list: `get_req`, which is the macro's field block at a given index, and `get_opt`, which
returns the key at an index when the entry is there and has 32 bytes. Both are shared here by
every such parser.
-/

namespace SolanaIdls

/-- `AccountsError`, the error of every account parser. -/
inductive AccountsError where
  /-- "missing required account `{name}` at index {index}". -/
  | Missing (name : String) (index : ℕ)
  /-- "invalid key length for `{name}` at index {index}: got {got}, want 32". -/
  | InvalidLen (name : String) (index got : ℕ)
  deriving DecidableEq

/-- What the account parsers read of an `InstructionView`. -/
structure InstructionView where
  /-- `ix.accounts()`, each account as the bytes of its key. -/
  accounts : List (List UInt8)

/-- `to_pubkey`: the bytes of a key as a `Pubkey` when there are 32 of them. -/
def to_pubkey (name : String) (index : ℕ) (bytes : List UInt8) : Except AccountsError Pubkey :=
  match Slice.try_into bytes 32 with
  | some arr => .ok arr
  | none => .error (.InvalidLen name index bytes.length)

/-- The closure `get_req` of the hand-written parsers, which is also the block of each field in
`accounts!`: the key at `index`, whose entry must be there and have 32 bytes. -/
def get_req (accounts : List (List UInt8)) (index : ℕ) (name : String) :
    Except AccountsError Pubkey :=
  match accounts[index]? with
  | some a => to_pubkey name index a
  | none => .error (.Missing name index)

/-- The closure `get_opt` of the hand-written parsers: the key at `index` when there is an entry
there and it has 32 bytes, and `None` otherwise. -/
def get_opt (accounts : List (List UInt8)) (index : ℕ) : Option Pubkey :=
  accounts[index]?.bind fun a => Slice.try_into a 32

/-- The field blocks of `accounts!` from the one that reads at `idx` on: each reads its field
with `get_req` at `idx` and returns at once when that fails, and the next reads at `idx + 1`. -/
def accounts_from (accounts : List (List UInt8)) :
    (fields : List String) → ℕ → Except AccountsError (List.Vector Pubkey fields.length)
  | [], _ => .ok List.Vector.nil
  | name :: fields, idx => do
    let pk ← get_req accounts idx name
    let rest ← accounts_from accounts fields (idx + 1)
    return List.Vector.cons pk rest

/-- The `try_from` that `accounts!(Name, getter, { fields })` generates, and so its `getter`: the
struct's keys, in the order of its fields. -/
def accounts_try_from (fields : List String) (ix : InstructionView) :
    Except AccountsError (List.Vector Pubkey fields.length) :=
  accounts_from ix.accounts fields 0

/-! ## One key -/

section Key

variable {accounts : List (List UInt8)} {index : ℕ} {name : String}

/-- `to_pubkey` accepts exactly the bytes of a key, and returns that key. -/
theorem to_pubkey_eq_ok {bytes : List UInt8} {pk : Pubkey} :
    to_pubkey name index bytes = .ok pk ↔ bytes = pk.toList := by
  unfold to_pubkey Slice.try_into
  by_cases hb : bytes.length = 32
  · rw [dif_pos hb]
    constructor
    · rintro ⟨⟩
      rfl
    · rintro rfl
      rfl
  · rw [dif_neg hb]
    have hne : bytes ≠ pk.toList := fun h => hb (h ▸ pk.toList_length)
    simp [hne]

/-- `get_req` succeeds exactly on an entry that is a key, and returns it. -/
theorem get_req_eq_ok {pk : Pubkey} :
    get_req accounts index name = .ok pk ↔ accounts[index]? = some pk.toList := by
  unfold get_req
  cases h : accounts[index]? with
  | none => simp
  | some a => simp [to_pubkey_eq_ok]

/-- Past the end of the list, `get_req` reports the role missing at its index. -/
theorem get_req_of_none (h : accounts[index]? = none) :
    get_req accounts index name = .error (.Missing name index) := by
  rw [get_req, h]

/-- An entry of another length than 32 is reported with its length. -/
theorem get_req_of_length_ne {a : List UInt8} (h : accounts[index]? = some a)
    (ha : a.length ≠ 32) :
    get_req accounts index name = .error (.InvalidLen name index a.length) := by
  simp only [get_req, h, to_pubkey, Slice.try_into, dif_neg ha]

/-- An entry that is a key is returned by `get_req`. -/
theorem get_req_of_key {a : List UInt8} (h : accounts[index]? = some a) (ha : a.length = 32) :
    get_req accounts index name = .ok ⟨a, ha⟩ :=
  get_req_eq_ok.mpr h

/-- `get_req` reads nothing but the entry at its index. -/
theorem get_req_congr {accounts' : List (List UInt8)} (h : accounts'[index]? = accounts[index]?) :
    get_req accounts' index name = get_req accounts index name := by
  rw [get_req, get_req, h]

/-- `get_opt` returns a key exactly when the entry at its index is that key: whatever key stands
there, the program's own id included, is returned. -/
theorem get_opt_eq_some {pk : Pubkey} :
    get_opt accounts index = some pk ↔ accounts[index]? = some pk.toList := by
  unfold get_opt
  cases h : accounts[index]? with
  | none => simp
  | some a =>
    unfold Slice.try_into
    by_cases ha : a.length = 32
    · rw [Option.bind_some, dif_pos ha]
      constructor
      · intro hs
        obtain rfl := Option.some.inj hs
        rfl
      · intro hs
        exact congrArg some (Subtype.ext (Option.some.inj hs))
    · have hne : a ≠ pk.toList := fun h => ha (h ▸ pk.toList_length)
      simp [dif_neg ha, hne]

/-- `get_opt` returns `None` exactly when the entry is absent or is not 32 bytes long. -/
theorem get_opt_eq_none :
    get_opt accounts index = none ↔ ∀ a, accounts[index]? = some a → a.length ≠ 32 := by
  unfold get_opt
  cases h : accounts[index]? with
  | none => simp
  | some a =>
    unfold Slice.try_into
    by_cases ha : a.length = 32 <;> simp [ha]

/-- In a list of keys, `get_req` returns the entry at an index inside the list. -/
theorem get_req_of_lt (hkeys : ∀ a ∈ accounts, a.length = 32) (hi : index < accounts.length) :
    get_req accounts index name = .ok ⟨accounts[index], hkeys _ (List.getElem_mem hi)⟩ :=
  get_req_of_key (List.getElem?_eq_getElem hi) _

/-- In a list of keys, a role read inside the list passes the entry there on: the step by which
`simp` runs a hand-written parser's struct literal. -/
theorem get_req_bind_of_lt {β : Type} (hkeys : ∀ a ∈ accounts, a.length = 32)
    (hi : index < accounts.length) (f : Pubkey → Except AccountsError β) :
    (get_req accounts index name >>= f) = f ⟨accounts[index], hkeys _ (List.getElem_mem hi)⟩ := by
  rw [get_req_of_lt hkeys hi]
  rfl

/-- Past the end of the list, `get_req` reports the role missing. -/
theorem get_req_of_le (hi : accounts.length ≤ index) :
    get_req accounts index name = .error (.Missing name index) :=
  get_req_of_none (List.getElem?_eq_none hi)

end Key

/-! ## The fields of `accounts!` -/

section Fields

variable {accounts : List (List UInt8)}

/-- A successful run binds each field to the entry at its position. -/
theorem accounts_from_eq_ok {fields : List String} {idx : ℕ}
    {s : List.Vector Pubkey fields.length} (h : accounts_from accounts fields idx = .ok s) :
    ∀ j : Fin fields.length, accounts[idx + j]? = some (s.get j).toList := by
  induction fields generalizing idx with
  | nil => exact fun j => j.elim0
  | cons name fields ih =>
    simp only [accounts_from] at h
    cases hpk : get_req accounts idx name with
    | error e => simp [hpk] at h
    | ok pk =>
      cases hrest : accounts_from accounts fields (idx + 1) with
      | error e => simp [hpk, hrest] at h
      | ok rest =>
        simp only [hpk, hrest, Borsh.except_ok_bind, pure, Except.pure, Except.ok.injEq] at h
        subst h
        intro j
        -- The first field is the entry at `idx`; the others are those of the rest of the run.
        refine Fin.cases ?_ (fun j => ?_) j
        · simpa using get_req_eq_ok.mp hpk
        · have hj := ih hrest j
          rw [Fin.val_succ, ← Nat.add_assoc, Nat.add_right_comm]
          simpa using hj

/-- When every entry read is a key, the run succeeds. -/
theorem accounts_from_of_keys {fields : List String} {idx : ℕ}
    (h : ∀ j < fields.length, ∀ a, accounts[idx + j]? = some a → a.length = 32)
    (hlen : idx + fields.length ≤ accounts.length) :
    ∃ s, accounts_from accounts fields idx = .ok s := by
  induction fields generalizing idx with
  | nil => exact ⟨_, rfl⟩
  | cons name fields ih =>
    have hlt : idx < accounts.length := by simp at hlen; omega
    have hget : accounts[idx]? = some accounts[idx] := List.getElem?_eq_getElem hlt
    have hkey := h 0 (by simp) _ (by rw [Nat.add_zero]; exact hget)
    have hrest : ∀ j < fields.length, ∀ a, accounts[idx + 1 + j]? = some a → a.length = 32 := by
      intro j hj a ha
      exact h (j + 1) (by simp; omega) a (by rwa [Nat.add_assoc, Nat.add_comm 1 j] at ha)
    obtain ⟨rest, hr⟩ := ih hrest (by simp at hlen; omega)
    refine ⟨List.Vector.cons ⟨_, hkey⟩ rest, ?_⟩
    simp only [accounts_from, get_req_of_key hget hkey, hr, Borsh.except_ok_bind]
    rfl

/-- The run fails with the error of the first field whose entry is not a key. -/
theorem accounts_from_of_first_bad {fields : List String} {idx j : ℕ} (hj : j < fields.length)
    (hbefore : ∀ i < j, ∃ a, accounts[idx + i]? = some a ∧ a.length = 32) {e : AccountsError}
    (he : get_req accounts (idx + j) fields[j] = .error e) :
    accounts_from accounts fields idx = .error e := by
  induction fields generalizing idx j with
  | nil => simp at hj
  | cons name fields ih =>
    cases j with
    | zero =>
      -- The first field fails: the run returns its error before reading the others.
      simp only [Nat.add_zero, List.getElem_cons_zero] at he
      simp [accounts_from, he]
    | succ j =>
      -- The first field is a key, and the failing field is the `j`-th of the rest.
      obtain ⟨a, ha, hkey⟩ := hbefore 0 (Nat.succ_pos j)
      have hbefore' : ∀ i < j, ∃ a, accounts[idx + 1 + i]? = some a ∧ a.length = 32 := by
        intro i hi
        obtain ⟨b, hb, hbk⟩ := hbefore (i + 1) (by omega)
        exact ⟨b, by rwa [Nat.add_assoc, Nat.add_comm 1 i], hbk⟩
      have hj' : j < fields.length := by simpa using hj
      have he' : get_req accounts (idx + 1 + j) fields[j] = .error e := by
        rw [Nat.add_assoc, Nat.add_comm 1 j]
        simpa using he
      have hr := ih hj' hbefore' he'
      simp only [Nat.add_zero] at ha
      simp only [accounts_from, get_req_of_key ha hkey, hr]
      rfl

/-- The run reads nothing but the entries at the positions of its fields. -/
theorem accounts_from_congr {accounts' : List (List UInt8)} {fields : List String} {idx : ℕ}
    (h : ∀ j < fields.length, accounts'[idx + j]? = accounts[idx + j]?) :
    accounts_from accounts' fields idx = accounts_from accounts fields idx := by
  induction fields generalizing idx with
  | nil => rfl
  | cons name fields ih =>
    have h0 : get_req accounts' idx name = get_req accounts idx name :=
      get_req_congr (by simpa using h 0 (by simp))
    have hrest : accounts_from accounts' fields (idx + 1) = accounts_from accounts fields (idx + 1) :=
      ih fun j hj => by
        have := h (j + 1) (by simp; omega)
        rwa [Nat.add_assoc, Nat.add_comm 1 j]
    simp only [accounts_from, h0, hrest]

end Fields

/-! ## The contract of `accounts!` -/

/-- A `Missing` field stands at the end of the list: every entry before it is there. -/
theorem index_eq_length_of_missing {accounts : List (List UInt8)} {j : ℕ}
    (hbefore : ∀ i < j, ∃ a, accounts[i]? = some a ∧ a.length = 32) (h : accounts[j]? = none) :
    j = accounts.length := by
  have hge : accounts.length ≤ j := List.getElem?_eq_none_iff.mp h
  cases j with
  | zero => omega
  | succ j =>
    obtain ⟨a, ha, -⟩ := hbefore j (Nat.lt_succ_self j)
    have hlt : j < accounts.length := (List.getElem?_eq_some_iff.mp ha).1
    omega

theorem accounts_try_from_spec (fields : List String) (L : List (List UInt8)) :
    (∀ s, accounts_try_from fields ⟨L⟩ = .ok s →
      ∀ j : Fin fields.length, L[j]? = some (s.get j).toList) ∧
    ((∃ s, accounts_try_from fields ⟨L⟩ = .ok s) ↔
      fields.length ≤ L.length ∧ ∀ j < fields.length, ∀ a, L[j]? = some a → a.length = 32) ∧
    (∀ j (hj : j < fields.length), (∀ i < j, ∃ a, L[i]? = some a ∧ a.length = 32) →
      (L[j]? = none →
        j = L.length ∧ accounts_try_from fields ⟨L⟩ = .error (.Missing fields[j] j)) ∧
      (∀ a, L[j]? = some a → a.length ≠ 32 →
        accounts_try_from fields ⟨L⟩ = .error (.InvalidLen fields[j] j a.length))) ∧
    (∀ L', L'.take fields.length = L.take fields.length →
      accounts_try_from fields ⟨L'⟩ = accounts_try_from fields ⟨L⟩) := by
  refine ⟨fun s hs => ?_, ⟨fun ⟨s, hs⟩ => ?_, fun ⟨hlen, hkeys⟩ => ?_⟩, fun j hj hbefore => ?_,
    fun L' hL' => ?_⟩
  · -- Each field is the entry at its position.
    simpa using accounts_from_eq_ok hs
  · -- A successful run has read a key at each of the first `k` positions.
    have hat := accounts_from_eq_ok hs
    refine ⟨?_, fun j hj a ha => ?_⟩
    · rcases Nat.eq_zero_or_pos fields.length with h0 | hpos
      · omega
      · have hlast := hat ⟨fields.length - 1, by omega⟩
        have hlt := (List.getElem?_eq_some_iff.mp (by simpa using hlast)).1
        omega
    · have hj' := hat ⟨j, hj⟩
      simp only [Nat.zero_add] at hj'
      rw [ha, Option.some.injEq] at hj'
      rw [hj', List.Vector.toList_length]
  · exact accounts_from_of_keys (by simpa using hkeys) (by simpa using hlen)
  · have hbefore0 : ∀ i < j, ∃ a, L[0 + i]? = some a ∧ a.length = 32 := by
      simpa using hbefore
    refine ⟨fun hnone => ⟨index_eq_length_of_missing hbefore hnone, ?_⟩, fun a ha hne => ?_⟩
    · exact accounts_from_of_first_bad hj hbefore0 (by simpa using get_req_of_none hnone)
    · exact accounts_from_of_first_bad hj hbefore0
        (by simpa using get_req_of_length_ne ha hne)
  · -- Entries from position `k` on are never read, and the first `k` agree.
    refine accounts_from_congr fun j hj => ?_
    have h1 : L'[j]? = (L'.take fields.length)[j]? := (List.getElem?_take_of_lt hj).symm
    have h2 : L[j]? = (L.take fields.length)[j]? := (List.getElem?_take_of_lt hj).symm
    show L'[0 + j]? = L[0 + j]?
    rw [Nat.zero_add, h1, h2, hL']

theorem accounts_try_from_spec_at_second_key :
    accounts_try_from ["token_program", "user"] ⟨[List.replicate 32 0]⟩ =
        .error (.Missing "user" 1) ∧
      accounts_try_from ["token_program", "user"] ⟨[List.replicate 32 0, [1, 2, 3]]⟩ =
        .error (.InvalidLen "user" 1 3) := by
  -- in both lists the first entry is a key
  have hfirst : ∀ rest : List (List UInt8), ∀ i < 1,
      ∃ a, (List.replicate 32 (0 : UInt8) :: rest)[i]? = some a ∧ a.length = 32 := by
    intro rest i hi
    obtain rfl := Nat.lt_one_iff.mp hi
    exact ⟨_, rfl, List.length_replicate⟩
  constructor
  · -- the second entry is missing
    exact (((accounts_try_from_spec ["token_program", "user"] [List.replicate 32 0]).2.2.1 1
      (by decide) (hfirst [])).1 rfl).2
  · -- the second entry is 3 bytes long
    exact ((accounts_try_from_spec ["token_program", "user"]
      [List.replicate 32 0, [1, 2, 3]]).2.2.1 1 (by decide) (hfirst [[1, 2, 3]])).2 [1, 2, 3] rfl
      (by decide)

end SolanaIdls
