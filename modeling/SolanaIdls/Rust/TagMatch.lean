import SolanaIdls.Rust.Match
import SolanaIdls.Rust.Outcome

/-!
# Decoders that match on a tag

Most hand-written instruction decoders read a tag and then take the arm of a `match` on it, each
arm reading the fields of one variant from the bytes after the tag. What such a decoder should
promise on an input `data` is `OutcomeSpec`: what it returns is a variant whose layout starts
`data`, followed by bytes that the decoder admits after that variant (any bytes for a decoder
that reads a prefix, none for one that reads its whole input), what it reports is one of a few
errors, and it never panics. The promise of a whole `match` follows from a promise of each arm on
the inputs that start with its tag (`ArmSpec`): `matchConst_arm_spec` lifts the rows' promises
to the `match`, with the fallback's error for a tag that no row has. A decoder then needs one
lemma per shape of arm, not per arm.
-/

namespace SolanaIdls

variable {ε β : Type}

/-- What a decoder may return on `data`: a value whose layout `write` starts `data`, followed by
bytes that `tail` admits after it, an error that `allowed` admits, and never a panic. -/
structure OutcomeSpec (write : β → List UInt8) (tail : β → List UInt8 → Prop)
    (allowed : ε → Prop) (data : List UInt8) (o : Outcome ε β) : Prop where
  /-- What is returned is a layout, followed by the rest of the input. -/
  sound : ∀ r, o = .ok r → ∃ t, data = write r ++ t ∧ tail r t
  /-- Every error is an allowed one. -/
  err_allowed : ∀ e, o = .err e → allowed e
  /-- It never panics. -/
  ne_panic : o ≠ .panic

namespace OutcomeSpec

variable {write : β → List UInt8} {tail : β → List UInt8 → Prop} {allowed : ε → Prop}
  {data : List UInt8}

theorem of_ok {r : β} (t : List UInt8) (h : data = write r ++ t) (ht : tail r t) :
    OutcomeSpec write tail allowed data (.ok r) where
  sound r' h' := by
    cases h'
    exact ⟨t, h, ht⟩
  err_allowed _ h' := by cases h'
  ne_panic := by simp

theorem of_err {e : ε} (h : allowed e) : OutcomeSpec write tail allowed data (.err e) where
  sound _ h' := by cases h'
  err_allowed e' h' := by
    cases h'
    exact h
  ne_panic := by simp

/-- A promise keeps when more errors are allowed. -/
theorem mono {allowed' : ε → Prop} {o : Outcome ε β}
    (ho : OutcomeSpec write tail allowed data o) (h : ∀ e, allowed e → allowed' e) :
    OutcomeSpec write tail allowed' data o :=
  ⟨ho.sound, fun e he => h e (ho.err_allowed e he), ho.ne_panic⟩

end OutcomeSpec

/-- A decoder that keeps its promise on every input, and reads every layout back whatever
admitted bytes follow it, returns a value exactly on the inputs that start with its layout
followed by such bytes. -/
theorem OutcomeSpec.eq_ok_iff {write : β → List UInt8} {tail : β → List UInt8 → Prop}
    {allowed : List UInt8 → ε → Prop} {dec : List UInt8 → Outcome ε β}
    (hspec : ∀ data, OutcomeSpec write tail (allowed data) data (dec data))
    (hcomplete : ∀ r t, tail r t → dec (write r ++ t) = .ok r) (data : List UInt8) (r : β) :
    dec data = .ok r ↔ ∃ t, data = write r ++ t ∧ tail r t := by
  constructor
  · exact (hspec data).sound r
  · rintro ⟨t, rfl, ht⟩
    exact hcomplete r t ht

/-! ## Tags numbered from zero -/

/-- The bytes `0, 1, …, n - 1`, the tags of a decoder whose discriminators are numbered from zero,
are exactly the bytes below `n`. -/
theorem mem_range_ofNat_iff {n : ℕ} (k : UInt8) :
    k ∈ (List.range n).map UInt8.ofNat ↔ k.toNat < n := by
  constructor
  · intro hk
    obtain ⟨m, hm, rfl⟩ := List.mem_map.mp hk
    have hmn : m < n := List.mem_range.mp hm
    rw [UInt8.toNat_ofNat']
    omega
  · intro hk
    exact List.mem_map.mpr ⟨k.toNat, List.mem_range.mpr hk, UInt8.ofNat_toNat⟩

/-- Below 256 the bytes `0, 1, …, n - 1` are distinct. -/
theorem nodup_range_ofNat {n : ℕ} (hn : n ≤ 256) : ((List.range n).map UInt8.ofNat).Nodup := by
  refine List.Nodup.map_on ?_ List.nodup_range
  intro a ha b hb h
  have ha' : a < n := List.mem_range.mp ha
  have hb' : b < n := List.mem_range.mp hb
  -- below 256, `UInt8.ofNat` keeps its argument
  have hab : a % 2 ^ 8 = b % 2 ^ 8 := by
    rw [← UInt8.toNat_ofNat', ← UInt8.toNat_ofNat', h]
  omega

/-! ## Arms and the `match` -/

/-- What the arm `arm data rest` of tag `k` promises on every input `k :: rest`: a layout followed
by anything, or the error `short` reports for that input. -/
def ArmSpec (write : β → List UInt8) (short : List UInt8 → ε) (k : UInt8)
    (arm : List UInt8 → List UInt8 → Outcome ε β) : Prop :=
  ∀ rest, OutcomeSpec write (fun _ _ => True) (· = short (k :: rest)) (k :: rest)
    (arm (k :: rest) rest)

/-- An arm that returns a variant without reading anything keeps its promise when the variant's
layout is the tag alone. -/
theorem ArmSpec.const {write : β → List UInt8} {short : List UInt8 → ε} {k : UInt8} {r : β}
    (h : write r = [k]) : ArmSpec write short k (fun _ _ => .ok r) := fun rest =>
  OutcomeSpec.of_ok rest (by rw [h]; rfl) trivial

/-- The promise of a `match` on a tag, from those of its rows: on an input that starts with
`tag`, it returns a layout followed by the rest, fails with the short error or, for a tag that no
row has, the fallback's, and never panics. -/
theorem matchConst_arm_spec {table : List (UInt8 × (List UInt8 → List UInt8 → Outcome ε β))}
    (hnd : (table.map Prod.fst).Nodup) {write : β → List UInt8} {short : List UInt8 → ε}
    (hrows : ∀ k arm, (k, arm) ∈ table → ArmSpec write short k arm) (unknown : UInt8 → ε)
    (tag : UInt8) (rest : List UInt8) :
    OutcomeSpec write (fun _ _ => True)
      (fun e => e = short (tag :: rest) ∨ (tag ∉ table.map Prod.fst ∧ e = unknown tag))
      (tag :: rest)
      (matchConst table (fun other _ _ => .err (unknown other)) tag (tag :: rest) rest) := by
  rcases matchConst_cases hnd (fun other _ _ => .err (unknown other)) tag with
    ⟨arm, hmem, harm⟩ | ⟨hk, hfb⟩
  · -- a row's arm: its own promise
    rw [harm]
    exact (hrows tag arm hmem rest).mono fun e he => .inl he
  · -- no row: the fallback's error
    rw [hfb]
    exact OutcomeSpec.of_err (.inr ⟨hk, rfl⟩)

end SolanaIdls
