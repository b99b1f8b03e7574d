import Mathlib.Data.List.Nodup

/-!
# A `match` on constant patterns

A Rust `match` whose patterns are constants,

    match k { K₁ => arm₁, …, Kₙ => armₙ, other => fallback(other) }

takes the first arm whose constant equals the scrutinee, and the fallback when none does. Over
the table `[(K₁, arm₁), …, (Kₙ, armₙ)]` that is `List.lookup`. When the constants are distinct,
as they are in every decoder that matches on discriminators, the arm taken for `Kᵢ` is `armᵢ`
wherever it stands in the table (`matchConst_of_mem`), so that a proof about one arm need not
walk past the arms before it.
-/

namespace SolanaIdls

variable {κ β : Type} [DecidableEq κ]

/-- `match k { K₁ => arm₁, …, other => fallback(other) }` over the table `[(K₁, arm₁), …]`. -/
def matchConst (table : List (κ × β)) (fallback : κ → β) (k : κ) : β :=
  match table.lookup k with
  | some arm => arm
  | none => fallback k

/-- In a table of distinct keys, the lookup of a key finds the value stored with it. -/
theorem lookup_of_mem_of_nodup {table : List (κ × β)} (hnd : (table.map Prod.fst).Nodup)
    {k : κ} {b : β} (hmem : (k, b) ∈ table) : table.lookup k = some b := by
  induction table with
  | nil => cases hmem
  | cons p t ih =>
    obtain ⟨k', b'⟩ := p
    rw [List.map_cons, List.nodup_cons] at hnd
    rcases List.mem_cons.mp hmem with h | h
    · -- The first row is the one looked for.
      obtain ⟨rfl, rfl⟩ := Prod.mk.inj h
      exact List.lookup_cons_self
    · -- A later row: its key differs from the first row's, the keys being distinct.
      have hk : k ≠ k' := fun hk => hnd.1 (List.mem_map.mpr ⟨(k, b), h, hk⟩)
      simp only [List.lookup_cons, beq_false_of_ne hk]
      exact ih hnd.2 h

/-- What a lookup finds is a row of the table. -/
theorem mem_of_lookup_eq_some [LawfulBEq κ] {table : List (κ × β)} {k : κ} {b : β}
    (h : table.lookup k = some b) : (k, b) ∈ table := by
  obtain ⟨l₁, l₂, rfl, -⟩ := List.lookup_eq_some_iff.mp h
  simp

/-- With distinct constants, the arm of a constant is taken on it. -/
theorem matchConst_of_mem {table : List (κ × β)} (hnd : (table.map Prod.fst).Nodup)
    (fallback : κ → β) {k : κ} {arm : β} (hmem : (k, arm) ∈ table) :
    matchConst table fallback k = arm := by
  rw [matchConst, lookup_of_mem_of_nodup hnd hmem]

/-- The lookup of a key that no row has finds nothing. -/
theorem lookup_eq_none_of_not_mem {table : List (κ × β)} {k : κ}
    (h : k ∉ table.map Prod.fst) : table.lookup k = none := by
  rw [List.lookup_eq_none_iff]
  intro p hp
  have hne : k ≠ p.1 := fun hk => h (hk ▸ List.mem_map_of_mem hp)
  simpa using hne

/-- A value that is none of the constants takes the fallback. -/
theorem matchConst_of_not_mem {table : List (κ × β)} (fallback : κ → β) {k : κ}
    (h : k ∉ table.map Prod.fst) : matchConst table fallback k = fallback k := by
  rw [matchConst, lookup_eq_none_of_not_mem h]

/-- With distinct constants, a `match` takes the arm of the row whose constant is the scrutinee,
or, when there is none, the fallback: the case split of every proof about what it returns. -/
theorem matchConst_cases {table : List (κ × β)} (hnd : (table.map Prod.fst).Nodup)
    (fallback : κ → β) (k : κ) :
    (∃ arm, (k, arm) ∈ table ∧ matchConst table fallback k = arm) ∨
      (k ∉ table.map Prod.fst ∧ matchConst table fallback k = fallback k) := by
  by_cases hk : k ∈ table.map Prod.fst
  · obtain ⟨⟨k', arm⟩, hmem, rfl⟩ := List.mem_map.mp hk
    exact .inl ⟨arm, hmem, matchConst_of_mem hnd fallback hmem⟩
  · exact .inr ⟨hk, matchConst_of_not_mem fallback hk⟩

end SolanaIdls
