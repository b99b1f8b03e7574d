import Mathlib.Data.Vector.Basic

/-!
# Results, panics, and slices

A Rust function that returns `Result<T, E>` can end in three ways: it returns `Ok`, it returns
`Err`, or it panics, on an out-of-bounds index or slice, or on an `unwrap` or `expect` of `None`
or `Err`. `Outcome ε α` keeps the three apart, so that a theorem can say of a decoder that it
rejects an input rather than panics on it. Its bind is the `?` operator.

The second half gives the operations of `core::slice` that decoders use, over `List`, each
panicking exactly where Rust's does: indexing, the three range forms, `split_at`, `split_first`,
and the conversion of a slice into a fixed-size array.
-/

namespace SolanaIdls

/-- How a call of a Rust function that returns `Result<α, ε>` ends. -/
inductive Outcome (ε α : Type) where
  /-- The function returned `Ok a`. -/
  | ok (a : α)
  /-- The function returned `Err e`. -/
  | err (e : ε)
  /-- The function panicked. -/
  | panic
  deriving DecidableEq, Repr

namespace Outcome

variable {ε ε' α β : Type}

/-- Sequencing with early exit, as `?` does: an error or a panic ends the computation. -/
def bind : Outcome ε α → (α → Outcome ε β) → Outcome ε β
  | ok a, f => f a
  | err e, _ => err e
  | panic, _ => panic

instance : Monad (Outcome ε) where
  pure := ok
  bind := bind

@[simp] theorem pure_eq (a : α) : (pure a : Outcome ε α) = ok a := rfl

@[simp] theorem ok_bind (a : α) (f : α → Outcome ε β) : (ok a >>= f) = f a := rfl

@[simp] theorem err_bind (e : ε) (f : α → Outcome ε β) : (err e >>= f) = err e := rfl

@[simp] theorem panic_bind (f : α → Outcome ε β) : ((panic : Outcome ε α) >>= f) = panic := rfl

@[simp] theorem map_ok (f : α → β) (a : α) : (f <$> ok a : Outcome ε β) = ok (f a) := rfl

@[simp] theorem map_err (f : α → β) (e : ε) : (f <$> err e : Outcome ε β) = err e := rfl

/-- Mapping over a sequence maps over its rest. -/
theorem map_bind {γ : Type} (f : β → γ) (x : Outcome ε α) (g : α → Outcome ε β) :
    f <$> (x >>= g) = x >>= fun a => f <$> g a := by
  cases x <;> rfl

/-- A sequence returns a value exactly when its first part does and the rest returns it. -/
theorem bind_eq_ok {x : Outcome ε α} {f : α → Outcome ε β} {b : β} :
    (x >>= f) = ok b ↔ ∃ a, x = ok a ∧ f a = ok b := by
  cases x <;> simp

/-- A sequence panics exactly when its first part does, or returns and the rest panics. -/
theorem bind_eq_panic {x : Outcome ε α} {f : α → Outcome ε β} :
    (x >>= f) = panic ↔ x = panic ∨ ∃ a, x = ok a ∧ f a = panic := by
  cases x <;> simp

/-- `r.map_err(f)?` on a `Result` that cannot panic. -/
def ofExcept (f : ε' → ε) : Except ε' α → Outcome ε α
  | .ok a => ok a
  | .error e => err (f e)

@[simp] theorem ofExcept_ok (f : ε' → ε) (a : α) : ofExcept f (.ok a : Except ε' α) = ok a := rfl

@[simp] theorem ofExcept_error (f : ε' → ε) (e : ε') :
    ofExcept f (.error e : Except ε' α) = err (f e) := rfl

/-- A lifted `Result` never panics. -/
theorem ofExcept_ne_panic (f : ε' → ε) (r : Except ε' α) : ofExcept f r ≠ panic := by
  cases r <;> simp

/-- `o.expect(msg)` and `o.unwrap()` on an `Option`: the value, or a panic on `None`. -/
def expect : Option α → Outcome ε α
  | some a => ok a
  | none => panic

@[simp] theorem expect_some (a : α) : (expect (some a) : Outcome ε α) = ok a := rfl

@[simp] theorem expect_none : (expect none : Outcome ε α) = panic := rfl

/-- `o.ok_or(e)?` on an `Option`: the value, or the error `e` on `None`. -/
def okOr (e : ε) : Option α → Outcome ε α
  | some a => ok a
  | none => err e

@[simp] theorem okOr_some (e : ε) (a : α) : okOr e (some a) = ok a := rfl

@[simp] theorem okOr_none (e : ε) : (okOr e none : Outcome ε α) = err e := rfl

end Outcome

/-! ## Slices -/

namespace Slice

open Outcome

variable {ε α : Type}

/-- `s[i]`: the element at `i`, or a panic past the end. -/
def index (s : List α) (i : ℕ) : Outcome ε α :=
  if h : i < s.length then ok s[i] else panic

/-- `&s[a..b]`: the elements from `a` up to `b`, or a panic unless `a ≤ b ≤ s.len()`. -/
def range (s : List α) (a b : ℕ) : Outcome ε (List α) :=
  if a ≤ b ∧ b ≤ s.length then ok ((s.drop a).take (b - a)) else panic

/-- `&s[a..]`: the elements from `a` on, or a panic when `a` is past the end. -/
def range_from (s : List α) (a : ℕ) : Outcome ε (List α) :=
  if a ≤ s.length then ok (s.drop a) else panic

/-- `&s[..b]`: the first `b` elements, or a panic when there are fewer. -/
def range_to (s : List α) (b : ℕ) : Outcome ε (List α) :=
  if b ≤ s.length then ok (s.take b) else panic

/-- `s.split_at(mid)`: the first `mid` elements and the rest, or a panic when there are fewer. -/
def split_at (s : List α) (mid : ℕ) : Outcome ε (List α × List α) :=
  if mid ≤ s.length then ok (s.take mid, s.drop mid) else panic

/-- `s.split_first()`: the first element and the rest, or `None` on an empty slice. -/
def split_first : List α → Option (α × List α)
  | [] => none
  | a :: s => some (a, s)

/-- `<[T; n]>::try_from(s)`: the slice as an array when it has exactly `n` elements. -/
def try_into (s : List α) (n : ℕ) : Option (List.Vector α n) :=
  if h : s.length = n then some ⟨s, h⟩ else none

theorem index_of_lt {s : List α} {i : ℕ} (h : i < s.length) :
    (index s i : Outcome ε α) = ok s[i] := by
  simp [index, h]

theorem index_of_le {s : List α} {i : ℕ} (h : s.length ≤ i) : (index s i : Outcome ε α) = panic := by
  simp [index, Nat.not_lt.mpr h]

@[simp] theorem index_cons_zero (a : α) (s : List α) : (index (a :: s) 0 : Outcome ε α) = ok a := by
  simp [index]

theorem range_of_le {s : List α} {a b : ℕ} (hab : a ≤ b) (hb : b ≤ s.length) :
    (range s a b : Outcome ε (List α)) = ok ((s.drop a).take (b - a)) := by
  simp [range, hab, hb]

theorem range_from_of_le {s : List α} {a : ℕ} (h : a ≤ s.length) :
    (range_from s a : Outcome ε (List α)) = ok (s.drop a) := by
  simp [range_from, h]

theorem range_to_of_le {s : List α} {b : ℕ} (h : b ≤ s.length) :
    (range_to s b : Outcome ε (List α)) = ok (s.take b) := by
  simp [range_to, h]

theorem range_to_of_lt {s : List α} {b : ℕ} (h : s.length < b) :
    (range_to s b : Outcome ε (List α)) = panic := by
  simp [range_to, Nat.not_le.mpr h]

theorem split_at_of_le {s : List α} {mid : ℕ} (h : mid ≤ s.length) :
    (split_at s mid : Outcome ε (List α × List α)) = ok (s.take mid, s.drop mid) := by
  simp [split_at, h]

/-- Splitting a concatenation at the length of its first part gives the two parts back. -/
@[simp] theorem split_at_append (s t : List α) :
    (split_at (s ++ t) s.length : Outcome ε (List α × List α)) = ok (s, t) := by
  simp [split_at]

@[simp] theorem split_first_cons (a : α) (s : List α) : split_first (a :: s) = some (a, s) := rfl

@[simp] theorem split_first_nil : split_first ([] : List α) = none := rfl

theorem try_into_of_length {s : List α} {n : ℕ} (h : s.length = n) : try_into s n = some ⟨s, h⟩ := by
  simp [try_into, h]

@[simp] theorem try_into_toList {n : ℕ} (v : List.Vector α n) : try_into v.toList n = some v := by
  simp [try_into, v.toList_length]

/-- `s.try_into().unwrap()` on a slice of the array's length is the slice as an array. -/
theorem expect_try_into_of_length {s : List α} {n : ℕ} (h : s.length = n) :
    (expect (try_into s n) : Outcome ε (List.Vector α n)) = ok ⟨s, h⟩ := by
  rw [try_into_of_length h]
  rfl

/-! ### Slices of concatenations -/

/-- The first `n` elements of `s ++ t`, for `s` of length `n`, are `s`. -/
theorem range_zero_append {s : List α} {n : ℕ} (hs : s.length = n) (t : List α) :
    (range (s ++ t) 0 n : Outcome ε (List α)) = ok s := by
  subst hs
  simp [range]

/-- The elements of `s ++ (u ++ t)` from `a` to `b` are `u`, when `s` ends at `a` and `u` at `b`. -/
theorem range_append {s u : List α} {a b : ℕ} (hs : s.length = a) (hu : a + u.length = b)
    (t : List α) : (range (s ++ (u ++ t)) a b : Outcome ε (List α)) = ok u := by
  subst hs hu
  simp [range]

/-- Splitting `s ++ t` where `s` ends gives the two parts back. -/
theorem split_at_append_of_length {s : List α} {n : ℕ} (hs : s.length = n) (t : List α) :
    (split_at (s ++ t) n : Outcome ε (List α × List α)) = ok (s, t) := by
  subst hs
  exact split_at_append s t

/-- A slice of at least `n` elements is an array of `n` and the rest: the shape of every input
that passes a decoder's length check. -/
theorem exists_vector_append {n : ℕ} {s : List α} (h : n ≤ s.length) :
    ∃ (v : List.Vector α n) (t : List α), s = v.toList ++ t :=
  ⟨⟨s.take n, by rw [List.length_take]; omega⟩, s.drop n, (List.take_append_drop n s).symm⟩

/-- The elements of `s ++ t` from the length of `s` on are `t`. -/
theorem range_from_append {s : List α} {a : ℕ} (hs : s.length = a) (t : List α) :
    (range_from (s ++ t) a : Outcome ε (List α)) = ok t := by
  subst hs
  simp [range_from]

/-- The elements of `s ++ (u ++ t)` from the end of `u` on are `t`. -/
theorem range_from_append_append {s u : List α} {a : ℕ} (hs : s.length + u.length = a)
    (t : List α) : (range_from (s ++ (u ++ t)) a : Outcome ε (List α)) = ok t := by
  rw [← List.append_assoc]
  exact range_from_append (by simpa using hs) t

end Slice

end SolanaIdls
