import SolanaIdls.Borsh.Codec
import SolanaIdls.Rust.Match

/-!
# Borsh codecs of compound types

`Option<T>` is a tag byte, 0 or 1, before the value; `Vec<T>` and `String` a `u32` count before
their elements or their UTF-8 bytes; `[T; N]` its `N` elements with no count. An enum is the
index byte of its variant, then the variant's fields, and an index with no variant is rejected.

The readers of `Vec<T>` and `[T; N]` share `readVector`, which reads a given number of elements
in sequence; its law, `readVector_write`, is the one induction of this file. The enum codec
takes, for each index, the reader of that variant's fields; the law it asks of them is proved per
enum by one case split over its variants, with `readAs_write` closing each case.

`Option<T>`, `Vec<T>` and `[T; N]` keep a canonical reader canonical and a reader of values that
fit so (`Canonical.option`, `Canonical.vec`, `ReadsFit.vec` and the others): a `Vec`'s count is
written back as it was read, and a count read from a `u32` fits one.
-/

namespace SolanaIdls.Borsh

namespace Codec

variable {α β : Type}

/-- A value read by `c` and passed through `f`: the reader of an enum variant whose fields are
`c`'s value. -/
def readAs (c : Codec β) (f : β → α) (bs : List UInt8) : Except BorshError (α × List UInt8) := do
  let (b, rest) ← c.read bs
  pure (f b, rest)

theorem readAs_write (c : Codec β) (f : β → α) {b : β} (h : c.fits b = true) (rest : List UInt8) :
    c.readAs f (c.write b ++ rest) = .ok (f b, rest) := by
  simp [readAs, c.read_write b h]

theorem readAs_eq_ok {c : Codec β} {f : β → α} {bs rest : List UInt8} {x : α}
    (hr : c.readAs f bs = .ok (x, rest)) : ∃ y, c.read bs = .ok (y, rest) ∧ f y = x := by
  obtain ⟨⟨y, rest'⟩, h1, hr⟩ := except_bind_eq_ok hr
  simp only [pure, Except.pure, Except.ok.injEq, Prod.mk.injEq] at hr
  obtain ⟨rfl, rfl⟩ := hr
  exact ⟨y, h1, rfl⟩

/-! ## `Option<T>` -/

/-- `Option<T>`: tag 0 for `None`, tag 1 and the value for `Some`. -/
def option (c : Codec α) : Codec (Option α) where
  write
    | none => [0]
    | some a => 1 :: c.write a
  fits
    | none => true
    | some a => c.fits a
  read
    | [] => .error .unexpectedLength
    | t :: rest =>
      if t = 0 then .ok (none, rest)
      else if t = 1 then c.readAs some rest
      else .error (.invalidOption t)
  read_write := by
    rintro (_ | a) h rest
    · rfl
    · simpa using c.readAs_write some h rest

@[simp] theorem option_write_none (c : Codec α) : c.option.write none = [0] := rfl

@[simp] theorem option_write_some (c : Codec α) (a : α) : c.option.write (some a) = 1 :: c.write a :=
  rfl

@[simp] theorem option_fits_none (c : Codec α) : c.option.fits none = true := rfl

@[simp] theorem option_fits_some (c : Codec α) (a : α) : c.option.fits (some a) = c.fits a := rfl

/-- An option of a codec that can write every value can write every value. -/
theorem option_fits {c : Codec α} (h : ∀ a, c.fits a = true) : ∀ v, c.option.fits v = true
  | none => rfl
  | some a => h a

/-- A present option whose value cannot be read fails with the value's error. -/
theorem option_read_some_of_error {c : Codec α} {bs : List UInt8} {e : BorshError}
    (h : c.read bs = .error e) : c.option.read (1 :: bs) = .error e := by
  simp [option, readAs, h]

/-- An option that was read: the tag 0, or the tag 1 and a value read after it. -/
theorem option_read_eq_ok {c : Codec α} {bs rest : List UInt8} {v : Option α}
    (hr : c.option.read bs = .ok (v, rest)) :
    (v = none ∧ bs = 0 :: rest) ∨
      ∃ a mid, v = some a ∧ bs = 1 :: mid ∧ c.read mid = .ok (a, rest) := by
  match bs, hr with
  | t :: mid, hr =>
    simp only [option] at hr
    split_ifs at hr with h0 h1
    · cases hr
      exact .inl ⟨rfl, by rw [h0]⟩
    · obtain ⟨a, ha, rfl⟩ := readAs_eq_ok hr
      exact .inr ⟨a, mid, rfl, by rw [h1], ha⟩

theorem Canonical.option {c : Codec α} (hc : c.Canonical) : c.option.Canonical := by
  constructor
  intro bs v rest hr
  rcases option_read_eq_ok hr with ⟨rfl, rfl⟩ | ⟨a, mid, rfl, rfl, ha⟩
  · rfl
  · rw [hc.eq_write ha, option_write_some, List.cons_append]

theorem ReadsFit.option {c : Codec α} (hc : c.ReadsFit) : c.option.ReadsFit := by
  constructor
  intro bs v rest hr
  rcases option_read_eq_ok hr with ⟨rfl, -⟩ | ⟨a, mid, rfl, -, ha⟩
  · rfl
  · exact hc.fits_of_read ha

/-! ## Sequences -/

/-- `n` values read in sequence. -/
def readVector (c : Codec α) : (n : ℕ) → List UInt8 → Except BorshError (List.Vector α n × List UInt8)
  | 0, bs => .ok (List.Vector.nil, bs)
  | n + 1, bs => do
    let (a, rest) ← c.read bs
    let (v, rest) ← c.readVector n rest
    pure (List.Vector.cons a v, rest)

/-- The elements' encodings, one after the other. -/
def writeAll (c : Codec α) (xs : List α) : List UInt8 :=
  (xs.map c.write).flatten

@[simp] theorem writeAll_nil (c : Codec α) : c.writeAll [] = [] := rfl

@[simp] theorem writeAll_cons (c : Codec α) (a : α) (xs : List α) :
    c.writeAll (a :: xs) = c.write a ++ c.writeAll xs := rfl

/-- Reading back the elements of a vector whose values all fit. -/
theorem readVector_write (c : Codec α) {n : ℕ} (v : List.Vector α n)
    (h : v.toList.all c.fits = true) (rest : List UInt8) :
    c.readVector n (c.writeAll v.toList ++ rest) = .ok (v, rest) := by
  induction n generalizing rest with
  | zero =>
    rw [List.Vector.eq_nil v]
    rfl
  | succ n ih =>
    obtain ⟨a, w, rfl⟩ : ∃ a w, v = List.Vector.cons a w :=
      ⟨v.head, v.tail, (List.Vector.cons_head_tail v).symm⟩
    simp only [List.Vector.toList_cons, List.all_cons, Bool.and_eq_true] at h
    simp only [readVector, List.Vector.toList_cons, writeAll_cons, List.append_assoc,
      c.read_write a h.1, except_ok_bind, ih w h.2]
    rfl

/-- `n` values read in sequence, as a list: the reader of a `Vec` after its count. -/
def readList (c : Codec α) (n : ℕ) (bs : List UInt8) : Except BorshError (List α × List UInt8) := do
  let (v, rest) ← c.readVector n bs
  pure (v.toList, rest)

theorem readList_write (c : Codec α) {xs : List α} (h : xs.all c.fits = true) (rest : List UInt8) :
    c.readList xs.length (c.writeAll xs ++ rest) = .ok (xs, rest) := by
  have hv := c.readVector_write ⟨xs, rfl⟩ h rest
  simp only [List.Vector.toList_mk] at hv
  simp [readList, hv, pure, Except.pure]

/-- `Vec<T>`: a `u32` count, then the elements. -/
def vec (c : Codec α) : Codec (List α) where
  write xs := u32.write (UInt32.ofNat xs.length) ++ c.writeAll xs
  fits xs := decide (xs.length < 2 ^ 32) && xs.all c.fits
  read bs := do
    let (n, rest) ← u32.read bs
    c.readList n.toNat rest
  read_write xs h rest := by
    simp only [Bool.and_eq_true, decide_eq_true_eq] at h
    have hn : (UInt32.ofNat xs.length).toNat = xs.length := by
      rw [UInt32.toNat_ofNat', Nat.mod_eq_of_lt h.1]
    simp only [List.append_assoc, u32.read_write _ rfl, except_ok_bind, hn, c.readList_write h.2]

/-- `[T; N]`: the `N` elements, with no count. -/
def array (c : Codec α) (n : ℕ) : Codec (List.Vector α n) where
  write v := c.writeAll v.toList
  fits v := v.toList.all c.fits
  read := c.readVector n
  read_write v h rest := c.readVector_write v h rest

theorem FixedWidth.writeAll_length {c : Codec α} {m : ℕ} (hc : c.FixedWidth m) (xs : List α) :
    (c.writeAll xs).length = m * xs.length := by
  induction xs with
  | nil => simp [writeAll]
  | cons a xs ih =>
    simp only [writeAll, List.map_cons, List.flatten_cons, List.length_append] at ih ⊢
    rw [ih, hc.length_write, List.length_cons, Nat.mul_succ, Nat.add_comm]

theorem FixedWidth.readVector_length {c : Codec α} {m : ℕ} (hc : c.FixedWidth m) :
    ∀ {n : ℕ} {bs : List UInt8} {v : List.Vector α n} {rest : List UInt8},
      c.readVector n bs = .ok (v, rest) → bs.length = m * n + rest.length
  | 0, bs, v, rest, hr => by
    simp only [readVector, Except.ok.injEq, Prod.mk.injEq] at hr
    rw [← hr.2]
    simp
  | n + 1, bs, v, rest, hr => by
    simp only [readVector] at hr
    cases h1 : c.read bs with
    | error e => simp [h1] at hr
    | ok p1 =>
      cases h2 : c.readVector n p1.2 with
      | error e => simp [h1, h2] at hr
      | ok p2 =>
        simp only [h1, h2, except_ok_bind, pure, Except.pure, Except.ok.injEq,
          Prod.mk.injEq] at hr
        rw [hc.read_length h1, FixedWidth.readVector_length hc h2, ← hr.2, Nat.mul_succ]
        omega

/-- An array of fixed-width elements is fixed-width. -/
theorem FixedWidth.array {c : Codec α} {m : ℕ} (hc : c.FixedWidth m) (n : ℕ) :
    (c.array n).FixedWidth (m * n) where
  fits v := by simp [Codec.array, hc.fits]
  length_write v := by simp [Codec.array, hc.writeAll_length]
  read_length hr := hc.readVector_length hr

/-- A canonical reader reads a vector only from its elements' encodings. -/
theorem Canonical.readVector {c : Codec α} (hc : c.Canonical) :
    ∀ {n : ℕ} {bs : List UInt8} {v : List.Vector α n} {rest : List UInt8},
      c.readVector n bs = .ok (v, rest) → bs = c.writeAll v.toList ++ rest
  | 0, bs, v, rest, hr => by
    simp only [Codec.readVector, Except.ok.injEq, Prod.mk.injEq] at hr
    obtain ⟨rfl, rfl⟩ := hr
    rfl
  | n + 1, bs, v, rest, hr => by
    simp only [Codec.readVector] at hr
    obtain ⟨⟨a, mid⟩, h1, hr⟩ := except_bind_eq_ok hr
    obtain ⟨⟨w, rest'⟩, h2, hr⟩ := except_bind_eq_ok hr
    simp only [pure, Except.pure, Except.ok.injEq, Prod.mk.injEq] at hr
    obtain ⟨rfl, rfl⟩ := hr
    have h2 : c.readVector n mid = .ok (w, rest') := h2
    rw [hc.eq_write h1, Canonical.readVector hc h2, List.Vector.toList_cons, writeAll_cons,
      List.append_assoc]

theorem Canonical.array {c : Codec α} (hc : c.Canonical) (n : ℕ) : (c.array n).Canonical :=
  ⟨hc.readVector⟩

/-- A reader of values that fit reads vectors of them. -/
theorem ReadsFit.readVector {c : Codec α} (hc : c.ReadsFit) :
    ∀ {n : ℕ} {bs : List UInt8} {v : List.Vector α n} {rest : List UInt8},
      c.readVector n bs = .ok (v, rest) → v.toList.all c.fits = true
  | 0, bs, v, rest, hr => by
    rw [List.Vector.eq_nil v]
    rfl
  | n + 1, bs, v, rest, hr => by
    simp only [Codec.readVector] at hr
    obtain ⟨⟨a, mid⟩, h1, hr⟩ := except_bind_eq_ok hr
    obtain ⟨⟨w, rest'⟩, h2, hr⟩ := except_bind_eq_ok hr
    simp only [pure, Except.pure, Except.ok.injEq, Prod.mk.injEq] at hr
    obtain ⟨rfl, rfl⟩ := hr
    have h2 : c.readVector n mid = .ok (w, rest') := h2
    rw [List.Vector.toList_cons, List.all_cons, hc.fits_of_read h1, ReadsFit.readVector hc h2,
      Bool.and_self]

theorem ReadsFit.array {c : Codec α} (hc : c.ReadsFit) (n : ℕ) : (c.array n).ReadsFit :=
  ⟨hc.readVector⟩

/-- A `Vec` that was read: a count, and as many elements read after it. -/
theorem vec_read_eq_ok {c : Codec α} {bs rest : List UInt8} {xs : List α}
    (hr : c.vec.read bs = .ok (xs, rest)) :
    ∃ n mid, u32.read bs = .ok (n, mid) ∧ ∃ v : List.Vector α n.toNat,
      c.readVector n.toNat mid = .ok (v, rest) ∧ v.toList = xs := by
  obtain ⟨⟨n, mid⟩, h1, h2⟩ := except_bind_eq_ok hr
  obtain ⟨⟨v, rest'⟩, h3, h2⟩ := except_bind_eq_ok h2
  simp only [pure, Except.pure, Except.ok.injEq, Prod.mk.injEq] at h2
  obtain ⟨rfl, rfl⟩ := h2
  exact ⟨n, mid, h1, v, h3, rfl⟩

theorem Canonical.vec {c : Codec α} (hc : c.Canonical) : c.vec.Canonical := by
  constructor
  intro bs xs rest hr
  obtain ⟨n, mid, h1, v, h2, rfl⟩ := vec_read_eq_ok hr
  -- the count that is written back is the count that was read
  have hn : UInt32.ofNat v.toList.length = n := by
    rw [v.toList_length, UInt32.ofNat_toNat]
  show bs = u32.write (UInt32.ofNat v.toList.length) ++ c.writeAll v.toList ++ rest
  rw [hn, canonical_u32.eq_write h1, hc.readVector h2, List.append_assoc]

theorem ReadsFit.vec {c : Codec α} (hc : c.ReadsFit) : c.vec.ReadsFit := by
  constructor
  intro bs xs rest hr
  obtain ⟨n, mid, -, v, h2, rfl⟩ := vec_read_eq_ok hr
  -- a count read from a `u32` is below `2^32`
  have hlen : v.toList.length < 2 ^ 32 := by
    rw [v.toList_length]
    exact n.toNat_lt
  show (decide (v.toList.length < 2 ^ 32) && v.toList.all c.fits) = true
  rw [decide_eq_true hlen, hc.readVector h2, Bool.and_self]

/-! ## Strings -/

/-- The UTF-8 bytes of a string. -/
def utf8 (s : String) : List UInt8 := s.toUTF8.data.toList

@[simp] theorem length_utf8 (s : String) : (utf8 s).length = s.utf8ByteSize := by
  rw [utf8, Array.length_toList, String.toUTF8_eq_toByteArray, ← String.size_toByteArray]
  rfl

/-- UTF-8 bytes that came from a string decode to it. -/
theorem fromUTF8_utf8 (s : String) : String.fromUTF8? ⟨(utf8 s).toArray⟩ = some s := by
  simp [utf8, String.fromUTF8?, String.fromUTF8, s.isValidUTF8]

/-- `String`: a `u32` count of bytes, then the UTF-8 bytes; bytes that are not UTF-8 are
rejected. -/
def string : Codec String where
  write s := u32.write (UInt32.ofNat s.utf8ByteSize) ++ utf8 s
  fits s := decide (s.utf8ByteSize < 2 ^ 32)
  read bs := do
    let (n, rest) ← u32.read bs
    let (b, rest) ← takeBytes n.toNat rest
    match String.fromUTF8? ⟨b.toArray⟩ with
    | some s => pure (s, rest)
    | none => .error .invalidUtf8
  read_write s h rest := by
    simp only [decide_eq_true_eq] at h
    have hn : (UInt32.ofNat s.utf8ByteSize).toNat = s.utf8ByteSize := by
      rw [UInt32.toNat_ofNat', Nat.mod_eq_of_lt h]
    simp only [List.append_assoc, u32.read_write _ rfl, except_ok_bind, hn,
      takeBytes_append (length_utf8 s), fromUTF8_utf8]
    rfl

/-! ## Enums -/

/-- A fieldless enum: one byte, the index of the variant. -/
def unitEnum (index : α → UInt8) (ofIndex : UInt8 → Option α)
    (h : ∀ x, ofIndex (index x) = some x) : Codec α where
  write x := [index x]
  fits _ := true
  read
    | [] => .error .unexpectedLength
    | t :: rest =>
      match ofIndex t with
      | some x => .ok (x, rest)
      | none => .error (.unexpectedVariantTag t)
  read_write x _ rest := by
    simp [h x]

theorem fixedWidth_unitEnum (index : α → UInt8) (ofIndex : UInt8 → Option α)
    (h : ∀ x, ofIndex (index x) = some x) : (unitEnum index ofIndex h).FixedWidth 1 where
  fits _ := rfl
  length_write _ := rfl
  read_length {bs x rest} hr := by
    match bs, hr with
    | t :: bs, hr =>
      simp only [unitEnum] at hr
      split at hr
      · cases hr
        simp [Nat.add_comm]
      · cases hr

/-- An enum whose variants carry fields: the index byte of the variant, then its fields.
`variant t` reads the fields of the variant with index `t`, and is `none` when no variant has
that index. -/
def enum (index : α → UInt8) (body : α → List UInt8) (bodyFits : α → Bool)
    (variant : UInt8 → Option (List UInt8 → Except BorshError (α × List UInt8)))
    (h : ∀ x, bodyFits x = true →
      ∃ r, variant (index x) = some r ∧ ∀ rest, r (body x ++ rest) = .ok (x, rest)) :
    Codec α where
  write x := index x :: body x
  fits := bodyFits
  read
    | [] => .error .unexpectedLength
    | t :: rest =>
      match variant t with
      | some r => r rest
      | none => .error (.unexpectedVariantTag t)
  read_write x hx rest := by
    obtain ⟨r, hr, hw⟩ := h x hx
    simp [hr, hw]

/-! ### Enums read through a table of variants

The derived `BorshDeserialize` of an enum matches on the index byte and reads the fields of the
variant with that index. As a table of `(index, reader)` rows, an enum is canonical when each
row's reader reads values of its own variant from the bytes of their fields, and reads only
values that fit when each row does; `variantReads_unit` and `variantReads_readAs` give that for
the two shapes of row, a variant without fields and one whose fields are one codec's value. -/

/-- The reader `r` of the variant with index `t` reads values of that variant from the bytes of
their fields. -/
def VariantReads (index : α → UInt8) (body : α → List UInt8) (t : UInt8)
    (r : List UInt8 → Except BorshError (α × List UInt8)) : Prop :=
  ∀ bs x rest, r bs = .ok (x, rest) → index x = t ∧ bs = body x ++ rest

/-- The reader `r` of a variant reads only values that fit. -/
def VariantFits (bodyFits : α → Bool) (r : List UInt8 → Except BorshError (α × List UInt8)) :
    Prop :=
  ∀ bs x rest, r bs = .ok (x, rest) → bodyFits x = true

section Variants

variable {index : α → UInt8} {body : α → List UInt8} {bodyFits : α → Bool} {t : UInt8}

theorem variantReads_unit {x : α} (hi : index x = t) (hb : body x = []) :
    VariantReads index body t (fun rest => .ok (x, rest)) := by
  intro bs y rest h
  cases h
  exact ⟨hi, by rw [hb]; rfl⟩

theorem variantReads_readAs {c : Codec β} (hc : c.Canonical) {f : β → α}
    (hi : ∀ b, index (f b) = t) (hb : ∀ b, body (f b) = c.write b) :
    VariantReads index body t (c.readAs f) := by
  intro bs x rest h
  obtain ⟨y, hy, rfl⟩ := readAs_eq_ok h
  exact ⟨hi y, by rw [hb, hc.eq_write hy]⟩

theorem variantFits_unit {x : α} (h : bodyFits x = true) :
    VariantFits bodyFits (fun rest => .ok (x, rest)) := by
  intro bs y rest hr
  cases hr
  exact h

theorem variantFits_readAs {c : Codec β} (hc : c.ReadsFit) {f : β → α}
    (hf : ∀ b, bodyFits (f b) = c.fits b) : VariantFits bodyFits (c.readAs f) := by
  intro bs x rest h
  obtain ⟨y, hy, rfl⟩ := readAs_eq_ok h
  rw [hf]
  exact hc.fits_of_read hy

end Variants

section Table

variable {index : α → UInt8} {body : α → List UInt8} {bodyFits : α → Bool}
  {table : List (UInt8 × (List UInt8 → Except BorshError (α × List UInt8)))}
  {h : ∀ x, bodyFits x = true →
    ∃ r, table.lookup (index x) = some r ∧ ∀ rest, r (body x ++ rest) = .ok (x, rest)}

/-- The enum's read of an input: the reader of the index byte's row, on the bytes after it. -/
theorem enum_read_eq_ok {bs : List UInt8} {x : α} {rest : List UInt8}
    (hr : (enum index body bodyFits (fun t => table.lookup t) h).read bs = .ok (x, rest)) :
    ∃ t r mid, bs = t :: mid ∧ (t, r) ∈ table ∧ r mid = .ok (x, rest) := by
  cases bs with
  | nil => cases hr
  | cons t mid =>
    simp only [enum] at hr
    split at hr
    · exact ⟨t, _, mid, rfl, mem_of_lookup_eq_some (by assumption), hr⟩
    · cases hr

/-- An enum whose rows read values of their own variant is canonical. -/
theorem Canonical.enum_of_table
    (hrows : ∀ t r, (t, r) ∈ table → VariantReads index body t r) :
    (enum index body bodyFits (fun t => table.lookup t) h).Canonical := by
  constructor
  intro bs x rest hr
  obtain ⟨t, r, mid, rfl, hmem, hr⟩ := enum_read_eq_ok hr
  obtain ⟨hi, rfl⟩ := hrows t r hmem mid x rest hr
  show t :: (body x ++ rest) = (index x :: body x) ++ rest
  rw [hi]
  rfl

/-- An enum whose rows read only values that fit reads only values that fit. -/
theorem ReadsFit.enum_of_table (hrows : ∀ t r, (t, r) ∈ table → VariantFits bodyFits r) :
    (enum index body bodyFits (fun t => table.lookup t) h).ReadsFit := by
  constructor
  intro bs x rest hr
  obtain ⟨t, r, mid, -, hmem, hr⟩ := enum_read_eq_ok hr
  exact hrows t r hmem mid x rest hr

end Table

/-- A fieldless enum whose reader returns the variant of the index it read is canonical. -/
theorem Canonical.unitEnum {index : α → UInt8} {ofIndex : UInt8 → Option α}
    {h : ∀ x, ofIndex (index x) = some x} (hi : ∀ t x, ofIndex t = some x → index x = t) :
    (unitEnum index ofIndex h).Canonical := by
  constructor
  intro bs x rest hr
  cases bs with
  | nil => cases hr
  | cons t mid =>
    simp only [Codec.unitEnum] at hr
    split at hr
    · cases hr
      show t :: rest = [index x] ++ rest
      rw [hi t x (by assumption)]
      rfl
    · cases hr

/-- A fieldless enum whose reader looks the index up in a table of `(index, variant)` rows is
canonical when every row's variant has the row's index. -/
theorem Canonical.unitEnum_lookup {index : α → UInt8} {table : List (UInt8 × α)}
    {h : ∀ x, table.lookup (index x) = some x} (hrows : ∀ t x, (t, x) ∈ table → index x = t) :
    (Codec.unitEnum index (fun t => table.lookup t) h).Canonical :=
  Canonical.unitEnum fun t x hx => hrows t x (mem_of_lookup_eq_some hx)

end Codec

end SolanaIdls.Borsh
