import Mathlib.Data.Vector.Basic
import Mathlib.Algebra.Order.Group.Nat
import Mathlib.Tactic.NormNum

/-!
# Borsh codecs

Borsh writes a value as the concatenation of its fields in declaration order, integers as
little-endian bytes of their fixed width, with no framing. A reader consumes a prefix of its input
and returns what is left, so that the reader of a struct is the readers of its fields in sequence.
`try_from_slice` runs a reader and rejects an input with bytes left over.

A `Codec` pairs the writer and the reader of a type with the law that makes them a codec: reading
what was written gives the value back and leaves whatever followed it. Writers of lengths write a
`u32` prefix, so a value fits when each of its lengths is below `2^32`; `to_vec` fails on the
others, and the law holds for the ones that fit. The law is a field of the structure, and every
combinator below proves it once, so a codec assembled from them carries it with no further proof.

`FixedWidth c n` says that `c` writes every value in exactly `n` bytes and that every read takes
exactly `n`. Its consequence `try_from_slice_of_length_ne` is the fact that length-based version
switches rest on: a fixed-width reader rejects every input of another length.

The law has a converse that the combinators also carry. A `Canonical` reader reads a value only
from that value's encoding, and a `ReadsFit` reader only returns values that fit; with both,
`try_from_slice` accepts exactly the encodings of the values that fit
(`Canonical.try_from_slice_eq_ok_iff`).
-/

namespace SolanaIdls.Borsh

/-- The errors of Borsh's readers and writers, after the messages of the `borsh` crate. -/
inductive BorshError where
  /-- "Unexpected length of input": the input ended inside a value. -/
  | unexpectedLength
  /-- "Not all bytes read": `try_from_slice` found bytes after the value. -/
  | notAllBytesRead
  /-- "Invalid bool representation": a `bool` byte other than 0 or 1. -/
  | invalidBool (b : UInt8)
  /-- "Invalid Option representation": an `Option` tag other than 0 or 1. -/
  | invalidOption (b : UInt8)
  /-- "Unexpected variant tag": an enum tag with no variant. -/
  | unexpectedVariantTag (b : UInt8)
  /-- The bytes of a `String` are not UTF-8. -/
  | invalidUtf8
  /-- "failed to fill whole buffer": `read_exact` ran out of input in a hand-written reader,
  which does not turn it into `unexpectedLength` as Borsh's own readers do. -/
  | unexpectedEof
  /-- An `InvalidData` error that a hand-written reader raises, with its message. -/
  | invalidData (msg : String)
  /-- A length that does not fit the `u32` prefix, when writing. -/
  | overflow
  deriving DecidableEq, Repr

variable {α β ε : Type}

@[simp] theorem except_ok_bind (a : α) (f : α → Except ε β) : (Except.ok a >>= f) = f a := rfl

@[simp] theorem except_error_bind (e : ε) (f : α → Except ε β) :
    (Except.error e >>= f : Except ε β) = .error e := rfl

/-- A bind that succeeded: both of its steps succeeded. -/
theorem except_bind_eq_ok {x : Except ε α} {f : α → Except ε β} {b : β} (h : (x >>= f) = .ok b) :
    ∃ a, x = .ok a ∧ f a = .ok b := by
  cases x with
  | error e => cases h
  | ok a => exact ⟨a, rfl, h⟩

/-! ## Little-endian integers -/

/-- The `n` little-endian bytes of `v`, as `to_le_bytes` writes them; bits from `8 n` on are
dropped. -/
def leBytes : ℕ → ℕ → List UInt8
  | 0, _ => []
  | n + 1, v => UInt8.ofNat (v % 256) :: leBytes n (v / 256)

/-- The number that little-endian bytes spell, as `from_le_bytes` reads it. -/
def leValue : List UInt8 → ℕ
  | [] => 0
  | b :: bs => b.toNat + 256 * leValue bs

@[simp] theorem length_leBytes (n v : ℕ) : (leBytes n v).length = n := by
  induction n generalizing v with
  | zero => rfl
  | succ n ih => simp [leBytes, ih]

/-- Reading back `n` little-endian bytes gives the value modulo `256 ^ n`. -/
theorem leValue_leBytes (n v : ℕ) : leValue (leBytes n v) = v % 256 ^ n := by
  induction n generalizing v with
  | zero => simp [leBytes, leValue, Nat.mod_one]
  | succ n ih =>
    have hb : (UInt8.ofNat (v % 256)).toNat = v % 256 := by simp
    simp only [leBytes, leValue, hb, ih]
    rw [pow_succ', Nat.mod_mul]

/-- `n` bytes spell a number below `256 ^ n`. -/
theorem leValue_lt (bs : List UInt8) : leValue bs < 256 ^ bs.length := by
  induction bs with
  | nil => simp [leValue]
  | cons b bs ih =>
    have hb := b.toNat_lt
    simp only [leValue, List.length_cons, pow_succ']
    omega

/-! ## Codecs -/

/-- The first `n` bytes and the rest, or `unexpectedLength` when the input is shorter: how Borsh
reads a fixed number of raw bytes. -/
def takeBytes (n : ℕ) (bs : List UInt8) : Except BorshError (List UInt8 × List UInt8) :=
  if n ≤ bs.length then .ok (bs.take n, bs.drop n) else .error .unexpectedLength

@[simp] theorem takeBytes_append {n : ℕ} {bs : List UInt8} (h : bs.length = n) (rest : List UInt8) :
    takeBytes n (bs ++ rest) = .ok (bs, rest) := by
  subst h
  simp [takeBytes]

theorem takeBytes_eq_ok {n : ℕ} {bs taken rest : List UInt8}
    (h : takeBytes n bs = .ok (taken, rest)) : taken.length = n ∧ bs = taken ++ rest := by
  unfold takeBytes at h
  split at h
  · cases h
    exact ⟨by simpa, (List.take_append_drop n bs).symm⟩
  · cases h

/-- A Borsh writer and reader with the law that reading what was written gives the value back
and leaves what followed. -/
structure Codec (α : Type) where
  /-- What `BorshSerialize::serialize` writes. -/
  write : α → List UInt8
  /-- Whether every length in the value fits its `u32` prefix, so that writing succeeds. -/
  fits : α → Bool
  /-- `BorshDeserialize::deserialize`: a value from a prefix of the input, and the rest. -/
  read : List UInt8 → Except BorshError (α × List UInt8)
  /-- Reading back what was written returns the value and leaves what follows. -/
  read_write : ∀ x, fits x = true → ∀ rest, read (write x ++ rest) = .ok (x, rest)

namespace Codec

/-- `borsh::to_vec`: the bytes written, or an error when a length does not fit its prefix. -/
def to_vec (c : Codec α) (x : α) : Except BorshError (List UInt8) :=
  if c.fits x then .ok (c.write x) else .error .overflow

/-- `T::try_from_slice`: a value read from the input, which must leave nothing over. -/
def try_from_slice (c : Codec α) (bs : List UInt8) : Except BorshError α :=
  match c.read bs with
  | .ok (x, []) => .ok x
  | .ok (_, _ :: _) => .error .notAllBytesRead
  | .error e => .error e

/-- `T::deserialize(&mut data)`: a value read from a prefix of the input, the rest left unread. -/
def deserialize (c : Codec α) (bs : List UInt8) : Except BorshError α := do
  let (x, _) ← c.read bs
  pure x

theorem to_vec_eq_ok {c : Codec α} {x : α} {bs : List UInt8} :
    c.to_vec x = .ok bs ↔ c.fits x = true ∧ c.write x = bs := by
  unfold to_vec
  split <;> simp_all

/-- `try_from_slice` inverts the writer on every value that fits. -/
theorem try_from_slice_write (c : Codec α) {x : α} (h : c.fits x = true) :
    c.try_from_slice (c.write x) = .ok x := by
  have hr := c.read_write x h []
  rw [List.append_nil] at hr
  simp [try_from_slice, hr]

/-- `try_from_slice` inverts `to_vec`. -/
theorem try_from_slice_of_to_vec (c : Codec α) {x : α} {bs : List UInt8}
    (h : c.to_vec x = .ok bs) : c.try_from_slice bs = .ok x := by
  obtain ⟨hfits, rfl⟩ := to_vec_eq_ok.mp h
  exact c.try_from_slice_write hfits

/-- A read that leaves the whole input is what `try_from_slice` returns. -/
theorem try_from_slice_of_read (c : Codec α) {bs : List UInt8} {x : α}
    (h : c.read bs = .ok (x, [])) : c.try_from_slice bs = .ok x := by
  simp [try_from_slice, h]

/-- `try_from_slice` returns a value exactly when the reader reads it from the whole input. -/
theorem try_from_slice_eq_ok_iff_read {c : Codec α} {bs : List UInt8} {x : α} :
    c.try_from_slice bs = .ok x ↔ c.read bs = .ok (x, []) := by
  constructor
  · intro h
    unfold try_from_slice at h
    match hr : c.read bs, h with
    | .ok (_, []), h =>
      cases h
      rfl
  · exact c.try_from_slice_of_read

/-- `try_from_slice` rejects the encoding of a value followed by any byte. -/
theorem try_from_slice_write_append (c : Codec α) {x : α} (h : c.fits x = true) {t : List UInt8}
    (ht : t ≠ []) : c.try_from_slice (c.write x ++ t) = .error .notAllBytesRead := by
  obtain ⟨b, t, rfl⟩ := List.exists_cons_of_ne_nil ht
  simp [try_from_slice, c.read_write x h]

/-- `deserialize` reads the encoding of a value back whatever follows it. -/
theorem deserialize_write_append (c : Codec α) {x : α} (h : c.fits x = true) (t : List UInt8) :
    c.deserialize (c.write x ++ t) = .ok x := by
  simp [deserialize, c.read_write x h t, pure, Except.pure]

/-! ### Integers and booleans -/

/-- A fixed-width little-endian integer of `n` bytes, through its value as a natural number. -/
def le (n : ℕ) (toNat : α → ℕ) (ofNat : ℕ → α) (h : ∀ x, ofNat (toNat x % 256 ^ n) = x) :
    Codec α where
  write x := leBytes n (toNat x)
  fits _ := true
  read bs := do
    let (b, rest) ← takeBytes n bs
    pure (ofNat (leValue b), rest)
  read_write x _ rest := by
    simp [leValue_leBytes, h]

/-- `u8`. -/
def u8 : Codec UInt8 :=
  le 1 UInt8.toNat UInt8.ofNat fun x => by simp

/-- `u16`, two little-endian bytes. -/
def u16 : Codec UInt16 :=
  le 2 UInt16.toNat UInt16.ofNat fun x => by
    rw [Nat.mod_eq_of_lt (by have := x.toNat_lt; norm_num at *; omega), UInt16.ofNat_toNat]

/-- `u32`, four little-endian bytes. -/
def u32 : Codec UInt32 :=
  le 4 UInt32.toNat UInt32.ofNat fun x => by
    rw [Nat.mod_eq_of_lt (by have := x.toNat_lt; norm_num at *; omega), UInt32.ofNat_toNat]

/-- `u64`, eight little-endian bytes. -/
def u64 : Codec UInt64 :=
  le 8 UInt64.toNat UInt64.ofNat fun x => by
    rw [Nat.mod_eq_of_lt (by have := x.toNat_lt; norm_num at *; omega), UInt64.ofNat_toNat]

@[simp] theorem u8_write (b : UInt8) : u8.write b = [b] := by
  simp [u8, le, leBytes]

theorem u16_write (v : UInt16) : u16.write v = leBytes 2 v.toNat := rfl

theorem u64_write (v : UInt64) : u64.write v = leBytes 8 v.toNat := rfl

/-- `i32`, four little-endian bytes of two's complement. -/
def i32 : Codec Int32 :=
  le 4 (fun x => x.toUInt32.toNat) (fun v => (UInt32.ofNat v).toInt32) fun x => by
    rw [Nat.mod_eq_of_lt (by have := x.toUInt32.toNat_lt; norm_num at *; omega),
      UInt32.ofNat_toNat, Int32.toInt32_toUInt32]

/-- `i64`, eight little-endian bytes of two's complement. -/
def i64 : Codec Int64 :=
  le 8 (fun x => x.toUInt64.toNat) (fun v => (UInt64.ofNat v).toInt64) fun x => by
    rw [Nat.mod_eq_of_lt (by have := x.toUInt64.toNat_lt; norm_num at *; omega),
      UInt64.ofNat_toNat, Int64.toInt64_toUInt64]

/-- `u128`, sixteen little-endian bytes. -/
def u128 : Codec (BitVec 128) :=
  le 16 BitVec.toNat (BitVec.ofNat 128) fun x => by
    rw [Nat.mod_eq_of_lt (by have := x.isLt; norm_num at *; omega), BitVec.ofNat_toNat,
      BitVec.setWidth_eq]

/-- `bool`: one byte, 0 or 1; any other byte is rejected. -/
def bool : Codec Bool where
  write b := [if b then 1 else 0]
  fits _ := true
  read
    | [] => .error .unexpectedLength
    | b :: rest =>
      if b = 0 then .ok (false, rest) else if b = 1 then .ok (true, rest) else .error (.invalidBool b)
  read_write b _ rest := by
    cases b <;> simp

/-! ### Structs -/

/-- Two values in sequence: the shape of every derived struct codec. -/
def prod (ca : Codec α) (cb : Codec β) : Codec (α × β) where
  write p := ca.write p.1 ++ cb.write p.2
  fits p := ca.fits p.1 && cb.fits p.2
  read bs := do
    let (a, rest) ← ca.read bs
    let (b, rest) ← cb.read rest
    pure ((a, b), rest)
  read_write := by
    rintro ⟨a, b⟩ h rest
    simp only [Bool.and_eq_true] at h
    simp [List.append_assoc, ca.read_write a h.1, cb.read_write b h.2]

/-- A codec carried to another type along a map with a left inverse: a struct as the tuple of
its fields. -/
def map (c : Codec β) (f : β → α) (g : α → β) (h : ∀ x, f (g x) = x) : Codec α where
  write x := c.write (g x)
  fits x := c.fits (g x)
  read bs := do
    let (b, rest) ← c.read bs
    pure (f b, rest)
  read_write x hx rest := by
    simp [c.read_write (g x) hx, h]

@[simp] theorem prod_write (ca : Codec α) (cb : Codec β) (p : α × β) :
    (ca.prod cb).write p = ca.write p.1 ++ cb.write p.2 := rfl

@[simp] theorem map_write (c : Codec β) (f : β → α) (g : α → β) (h : ∀ x, f (g x) = x) (x : α) :
    (c.map f g h).write x = c.write (g x) := rfl

/-- A pair fits when both of its components do. -/
theorem prod_fits (ca : Codec α) (cb : Codec β) (p : α × β) :
    (ca.prod cb).fits p = (ca.fits p.1 && cb.fits p.2) := rfl

theorem map_fits (c : Codec β) (f : β → α) (g : α → β) (h : ∀ x, f (g x) = x) (x : α) :
    (c.map f g h).fits x = c.fits (g x) := rfl

/-- `try_from_slice` through a map is the inner one's, mapped. -/
theorem try_from_slice_map (c : Codec β) (f : β → α) (g : α → β) (h : ∀ x, f (g x) = x)
    (bs : List UInt8) : (c.map f g h).try_from_slice bs = (c.try_from_slice bs).map f := by
  simp only [try_from_slice, Codec.map]
  cases hr : c.read bs with
  | error e => rfl
  | ok p =>
    obtain ⟨b, rest⟩ := p
    cases rest <;> rfl

/-- After a first component that was written, `try_from_slice` of a pair is that of the second
component, paired. -/
theorem try_from_slice_prod_write (ca : Codec α) (cb : Codec β) {a : α} (h : ca.fits a = true)
    (rest : List UInt8) :
    (ca.prod cb).try_from_slice (ca.write a ++ rest) = (cb.try_from_slice rest).map (a, ·) := by
  simp only [try_from_slice, Codec.prod, ca.read_write a h, except_ok_bind]
  cases hr : cb.read rest with
  | error e => rfl
  | ok p =>
    obtain ⟨b, rest'⟩ := p
    cases rest' <;> rfl

/-! ## Fixed width -/

/-- A codec that writes every value in exactly `n` bytes and reads exactly `n`. -/
structure FixedWidth (c : Codec α) (n : ℕ) : Prop where
  /-- Every value fits. -/
  fits : ∀ x, c.fits x = true
  /-- Every value is written in `n` bytes. -/
  length_write : ∀ x, (c.write x).length = n
  /-- Every successful read consumes `n` bytes. -/
  read_length : ∀ {bs x rest}, c.read bs = .ok (x, rest) → bs.length = n + rest.length

theorem fixedWidth_le (n : ℕ) (toNat : α → ℕ) (ofNat : ℕ → α)
    (h : ∀ x, ofNat (toNat x % 256 ^ n) = x) : (le n toNat ofNat h).FixedWidth n where
  fits _ := rfl
  length_write _ := length_leBytes _ _
  read_length {bs x rest} hr := by
    simp only [le] at hr
    cases ht : takeBytes n bs with
    | error e => simp [ht] at hr
    | ok p =>
      obtain ⟨taken, rest'⟩ := p
      obtain ⟨hlen, rfl⟩ := takeBytes_eq_ok ht
      simp only [ht, except_ok_bind, pure, Except.pure, Except.ok.injEq, Prod.mk.injEq] at hr
      rw [← hr.2, List.length_append, hlen]

theorem fixedWidth_u8 : u8.FixedWidth 1 := fixedWidth_le _ _ _ _
theorem fixedWidth_u16 : u16.FixedWidth 2 := fixedWidth_le _ _ _ _
theorem fixedWidth_u32 : u32.FixedWidth 4 := fixedWidth_le _ _ _ _
theorem fixedWidth_u64 : u64.FixedWidth 8 := fixedWidth_le _ _ _ _
theorem fixedWidth_i32 : i32.FixedWidth 4 := fixedWidth_le _ _ _ _
theorem fixedWidth_i64 : i64.FixedWidth 8 := fixedWidth_le _ _ _ _
theorem fixedWidth_u128 : u128.FixedWidth 16 := fixedWidth_le _ _ _ _

theorem fixedWidth_bool : bool.FixedWidth 1 where
  fits _ := rfl
  length_write b := by cases b <;> rfl
  read_length {bs x rest} hr := by
    match bs with
    | [] => cases hr
    | b :: bs =>
      simp only [bool] at hr
      split_ifs at hr <;> cases hr <;> simp [Nat.add_comm]

theorem FixedWidth.prod {ca : Codec α} {cb : Codec β} {n m : ℕ} (ha : ca.FixedWidth n)
    (hb : cb.FixedWidth m) : (ca.prod cb).FixedWidth (n + m) where
  fits p := by simp [Codec.prod, ha.fits, hb.fits]
  length_write p := by simp [ha.length_write, hb.length_write]
  read_length {bs x rest} hr := by
    simp only [Codec.prod] at hr
    cases h1 : ca.read bs with
    | error e => simp [h1] at hr
    | ok p1 =>
      cases h2 : cb.read p1.2 with
      | error e => simp [h1, h2] at hr
      | ok p2 =>
        simp only [h1, h2, except_ok_bind, pure, Except.pure, Except.ok.injEq, Prod.mk.injEq] at hr
        have e1 := ha.read_length h1
        have e2 := hb.read_length h2
        rw [← hr.2, e1, e2]
        omega

theorem FixedWidth.map {c : Codec β} {n : ℕ} (hc : c.FixedWidth n) (f : β → α) (g : α → β)
    (h : ∀ x, f (g x) = x) : (c.map f g h).FixedWidth n where
  fits x := hc.fits (g x)
  length_write x := hc.length_write (g x)
  read_length {bs x rest} hr := by
    simp only [Codec.map] at hr
    cases h1 : c.read bs with
    | error e => simp [h1] at hr
    | ok p =>
      simp only [h1, except_ok_bind, pure, Except.pure, Except.ok.injEq, Prod.mk.injEq] at hr
      rw [← hr.2]
      exact hc.read_length h1

/-- A fixed-width codec's `to_vec` succeeds, with its width. -/
theorem FixedWidth.to_vec_eq {c : Codec α} {n : ℕ} (hc : c.FixedWidth n) (x : α) :
    c.to_vec x = .ok (c.write x) := by
  simp [to_vec, hc.fits x]

/-- Exact-length decoding: a fixed-width reader rejects every input of another length. -/
theorem FixedWidth.try_from_slice_of_length_ne {c : Codec α} {n : ℕ} (hc : c.FixedWidth n)
    {bs : List UInt8} (h : bs.length ≠ n) : ∃ e, c.try_from_slice bs = .error e := by
  unfold try_from_slice
  match hr : c.read bs with
  | .ok (x, []) => exact absurd (hc.read_length hr) (by simpa using h)
  | .ok (_, _ :: _) => exact ⟨_, rfl⟩
  | .error e => exact ⟨e, rfl⟩

/-- Bytes written by one fixed-width codec are rejected by another of a different width: the
reader of one version of a record never accepts another version. -/
theorem FixedWidth.try_from_slice_write_of_ne {c : Codec α} {d : Codec β} {n m : ℕ}
    (hc : c.FixedWidth n) (hd : d.FixedWidth m) (h : n ≠ m) (x : α) :
    ∃ e, d.try_from_slice (c.write x) = .error e :=
  hd.try_from_slice_of_length_ne (by rw [hc.length_write x]; exact h)

/-! ## Reads that fail -/

/-- A value that cannot be read cannot be read whole. -/
theorem try_from_slice_of_read_error {c : Codec α} {bs : List UInt8} {e : BorshError}
    (h : c.read bs = .error e) : c.try_from_slice bs = .error e := by
  simp [try_from_slice, h]

/-- A pair whose first component cannot be read fails with that component's error. -/
theorem prod_read_of_error_fst {ca : Codec α} {cb : Codec β} {bs : List UInt8} {e : BorshError}
    (h : ca.read bs = .error e) : (ca.prod cb).read bs = .error e := by
  simp [Codec.prod, h]

/-- A pair whose first component was written and whose second cannot be read fails with the
second's error. -/
theorem prod_read_of_error_snd {ca : Codec α} {cb : Codec β} {a : α} (ha : ca.fits a = true)
    {rest : List UInt8} {e : BorshError} (h : cb.read rest = .error e) :
    (ca.prod cb).read (ca.write a ++ rest) = .error e := by
  simp [Codec.prod, ca.read_write a ha, h]

theorem map_read_of_error {c : Codec β} {f : β → α} {g : α → β} {hfg : ∀ x, f (g x) = x}
    {bs : List UInt8} {e : BorshError} (h : c.read bs = .error e) :
    (c.map f g hfg).read bs = .error e := by
  simp [Codec.map, h]

/-! ## Canonical readers -/

/-- A reader that accepts only what its writer writes: whatever it reads from an input, the input
starts with the encoding of that value. With `read_write`, the encoding of a value is then the
one prefix it is read from, so that a field a decoder returns is the bytes at that field's
place. -/
structure Canonical (c : Codec α) : Prop where
  /-- An input that was read starts with the encoding of the value read from it. -/
  eq_write : ∀ {bs x rest}, c.read bs = .ok (x, rest) → bs = c.write x ++ rest

/-- A pair read from an input: its first component was read first, and the second from what
that left. -/
theorem prod_read_eq_ok {ca : Codec α} {cb : Codec β} {bs rest : List UInt8} {p : α × β}
    (h : (ca.prod cb).read bs = .ok (p, rest)) :
    ∃ mid, ca.read bs = .ok (p.1, mid) ∧ cb.read mid = .ok (p.2, rest) := by
  obtain ⟨⟨a, mid⟩, h1, h⟩ := except_bind_eq_ok h
  obtain ⟨⟨b, rest'⟩, h2, h⟩ := except_bind_eq_ok h
  simp only [pure, Except.pure, Except.ok.injEq, Prod.mk.injEq] at h
  obtain ⟨rfl, rfl⟩ := h
  exact ⟨mid, h1, h2⟩

/-- A value read through a map is the image of a value the inner reader read. -/
theorem map_read_eq_ok {c : Codec β} {f : β → α} {g : α → β} {h : ∀ x, f (g x) = x}
    {bs rest : List UInt8} {x : α} (hr : (c.map f g h).read bs = .ok (x, rest)) :
    ∃ y, c.read bs = .ok (y, rest) ∧ f y = x := by
  obtain ⟨⟨y, rest'⟩, h1, hr⟩ := except_bind_eq_ok hr
  simp only [pure, Except.pure, Except.ok.injEq, Prod.mk.injEq] at hr
  obtain ⟨rfl, rfl⟩ := hr
  exact ⟨y, h1, rfl⟩

/-- A read whose input starts with what was written: the encoding is the one prefix a canonical
reader reads a value from. -/
theorem Canonical.read_eq_ok_iff {c : Codec α} (hc : c.Canonical) {x : α} (hx : c.fits x = true)
    (bs rest : List UInt8) : c.read bs = .ok (x, rest) ↔ bs = c.write x ++ rest := by
  constructor
  · exact hc.eq_write
  · rintro rfl
    exact c.read_write x hx rest

/-- Little-endian bytes spell themselves back: the other half of `leValue_leBytes`. -/
theorem leBytes_leValue (bs : List UInt8) : leBytes bs.length (leValue bs) = bs := by
  induction bs with
  | nil => rfl
  | cons b bs ih =>
    have hb := b.toNat_lt
    have hmod : (b.toNat + 256 * leValue bs) % 256 = b.toNat := by omega
    have hdiv : (b.toNat + 256 * leValue bs) / 256 = leValue bs := by omega
    simp only [List.length_cons, leBytes, leValue, hmod, hdiv, ih, UInt8.ofNat_toNat]

/-- An integer codec writes the number that `n` bytes spell as those bytes, when every number
below `256 ^ n` is the number of a value. -/
theorem le_write_leValue {n : ℕ} {toNat : α → ℕ} {ofNat : ℕ → α}
    {h : ∀ x, ofNat (toNat x % 256 ^ n) = x} (hv : ∀ v < 256 ^ n, toNat (ofNat v) = v)
    {bs : List UInt8} (hlen : bs.length = n) :
    (le n toNat ofNat h).write (ofNat (leValue bs)) = bs := by
  have hval : toNat (ofNat (leValue bs)) = leValue bs :=
    hv _ (by rw [← hlen]; exact leValue_lt bs)
  show leBytes n (toNat (ofNat (leValue bs))) = bs
  rw [hval, ← hlen, leBytes_leValue]

theorem toNat_ofNat_u8 : ∀ v < 256 ^ 1, (UInt8.ofNat v).toNat = v := fun v hv => by
  rw [UInt8.toNat_ofNat', Nat.mod_eq_of_lt (by norm_num at hv ⊢; omega)]

theorem toNat_ofNat_u64 : ∀ v < 256 ^ 8, (UInt64.ofNat v).toNat = v := fun v hv => by
  rw [UInt64.toNat_ofNat', Nat.mod_eq_of_lt (by norm_num at hv ⊢; omega)]

theorem toNat_ofNat_u128 : ∀ v < 256 ^ 16, (BitVec.ofNat 128 v).toNat = v := fun v hv => by
  rw [BitVec.toNat_ofNat, Nat.mod_eq_of_lt (by norm_num at hv ⊢; omega)]

/-- An integer codec is canonical when every value below `256 ^ n` is the number of a value. -/
theorem canonical_le (n : ℕ) (toNat : α → ℕ) (ofNat : ℕ → α)
    (h : ∀ x, ofNat (toNat x % 256 ^ n) = x) (hv : ∀ v < 256 ^ n, toNat (ofNat v) = v) :
    (le n toNat ofNat h).Canonical := by
  constructor
  intro bs x rest hr
  obtain ⟨⟨taken, rest'⟩, ht, hr⟩ := except_bind_eq_ok hr
  simp only [pure, Except.pure, Except.ok.injEq, Prod.mk.injEq] at hr
  obtain ⟨rfl, rfl⟩ := hr
  obtain ⟨hlen, rfl⟩ := takeBytes_eq_ok ht
  rw [le_write_leValue hv hlen]

theorem canonical_u8 : u8.Canonical := canonical_le _ _ _ _ toNat_ofNat_u8

theorem canonical_u64 : u64.Canonical := canonical_le _ _ _ _ toNat_ofNat_u64

theorem canonical_u128 : u128.Canonical := canonical_le _ _ _ _ toNat_ofNat_u128

theorem toNat_ofNat_u16 : ∀ v < 256 ^ 2, (UInt16.ofNat v).toNat = v := fun v hv => by
  rw [UInt16.toNat_ofNat', Nat.mod_eq_of_lt (by norm_num at hv ⊢; omega)]

theorem toNat_ofNat_u32 : ∀ v < 256 ^ 4, (UInt32.ofNat v).toNat = v := fun v hv => by
  rw [UInt32.toNat_ofNat', Nat.mod_eq_of_lt (by norm_num at hv ⊢; omega)]

theorem canonical_u16 : u16.Canonical := canonical_le _ _ _ _ toNat_ofNat_u16

theorem canonical_u32 : u32.Canonical := canonical_le _ _ _ _ toNat_ofNat_u32

/-- The signed integers are canonical: their bytes are those of the unsigned integer of their
width, and every unsigned integer is the bits of a signed one. -/
theorem canonical_i32 : i32.Canonical :=
  canonical_le _ _ _ _ fun v hv => by rw [UInt32.toUInt32_toInt32, toNat_ofNat_u32 v hv]

theorem canonical_i64 : i64.Canonical :=
  canonical_le _ _ _ _ fun v hv => by rw [UInt64.toUInt64_toInt64, toNat_ofNat_u64 v hv]

/-- `bool` reads only the bytes 0 and 1, each as the value that writes it. -/
theorem canonical_bool : bool.Canonical := by
  constructor
  rintro (_ | ⟨b, bs⟩) x rest hr
  · cases hr
  · simp only [bool] at hr
    split_ifs at hr with h0 h1
    · cases hr
      rw [h0]
      rfl
    · cases hr
      rw [h1]
      rfl

theorem Canonical.prod {ca : Codec α} {cb : Codec β} (ha : ca.Canonical) (hb : cb.Canonical) :
    (ca.prod cb).Canonical := by
  constructor
  intro bs p rest hr
  obtain ⟨mid, h1, h2⟩ := prod_read_eq_ok hr
  rw [ha.eq_write h1, hb.eq_write h2, prod_write, List.append_assoc]

/-- A map is canonical when it is a bijection, as the map of a struct to the tuple of its fields
is. -/
theorem Canonical.map {c : Codec β} (hc : c.Canonical) (f : β → α) (g : α → β)
    (h : ∀ x, f (g x) = x) (hg : ∀ y, g (f y) = y) : (c.map f g h).Canonical := by
  constructor
  intro bs x rest hr
  obtain ⟨y, hy, rfl⟩ := map_read_eq_ok hr
  rw [hc.eq_write hy, map_write, hg]

/-- What a canonical `try_from_slice` accepts is the encoding of the value it returns. -/
theorem Canonical.try_from_slice_eq_ok {c : Codec α} (hc : c.Canonical) {bs : List UInt8} {x : α}
    (h : c.try_from_slice bs = .ok x) : bs = c.write x := by
  unfold try_from_slice at h
  match hr : c.read bs, h with
  | .ok (_, []), h =>
    cases h
    simpa using hc.eq_write hr

/-! ## Readers of values that fit -/

/-- A reader that returns only values its writer can write: every length it reads comes from a
`u32`, so that it is below `2^32`. -/
structure ReadsFit (c : Codec α) : Prop where
  /-- A value that was read fits. -/
  fits_of_read : ∀ {bs x rest}, c.read bs = .ok (x, rest) → c.fits x = true

theorem FixedWidth.readsFit {c : Codec α} {n : ℕ} (hc : c.FixedWidth n) : c.ReadsFit :=
  ⟨fun _ => hc.fits _⟩

theorem ReadsFit.prod {ca : Codec α} {cb : Codec β} (ha : ca.ReadsFit) (hb : cb.ReadsFit) :
    (ca.prod cb).ReadsFit := by
  constructor
  intro bs p rest hr
  obtain ⟨mid, h1, h2⟩ := prod_read_eq_ok hr
  rw [prod_fits, ha.fits_of_read h1, hb.fits_of_read h2, Bool.and_self]

theorem ReadsFit.map {c : Codec β} (hc : c.ReadsFit) (f : β → α) (g : α → β)
    (h : ∀ x, f (g x) = x) (hg : ∀ y, g (f y) = y) : (c.map f g h).ReadsFit := by
  constructor
  intro bs x rest hr
  obtain ⟨y, hy, rfl⟩ := map_read_eq_ok hr
  rw [map_fits, hg]
  exact hc.fits_of_read hy

/-- What a canonical reader of values that fit accepts whole is the encoding of a value that
fits, and nothing else. -/
theorem Canonical.try_from_slice_eq_ok_iff {c : Codec α} (hc : c.Canonical) (hf : c.ReadsFit)
    {bs : List UInt8} {x : α} :
    c.try_from_slice bs = .ok x ↔ c.fits x = true ∧ bs = c.write x := by
  constructor
  · intro h
    have hr := try_from_slice_eq_ok_iff_read.mp h
    refine ⟨hf.fits_of_read hr, ?_⟩
    rw [hc.eq_write hr, List.append_nil]
  · rintro ⟨hx, rfl⟩
    exact c.try_from_slice_write hx

/-! ## Readers with no invalid input -/

/-- A codec with no invalid input of width `n`: every input of at least `n` bytes starts with the
encoding of a value. Integers and structs of integers are so; `bool`, `Option` and enums are
not. -/
structure Onto (c : Codec α) (n : ℕ) : Prop where
  /-- An input of at least `n` bytes is an encoding and what follows it. -/
  exists_write : ∀ bs : List UInt8, n ≤ bs.length → ∃ x rest, bs = c.write x ++ rest

theorem onto_le (n : ℕ) (toNat : α → ℕ) (ofNat : ℕ → α)
    (h : ∀ x, ofNat (toNat x % 256 ^ n) = x) (hv : ∀ v < 256 ^ n, toNat (ofNat v) = v) :
    (le n toNat ofNat h).Onto n := by
  constructor
  intro bs hbs
  refine ⟨ofNat (leValue (bs.take n)), bs.drop n, ?_⟩
  rw [le_write_leValue hv (by simp [hbs]), List.take_append_drop]

theorem onto_u8 : u8.Onto 1 := onto_le _ _ _ _ toNat_ofNat_u8

theorem onto_u64 : u64.Onto 8 := onto_le _ _ _ _ toNat_ofNat_u64

/-- A pair is onto when both components are, the first of fixed width. -/
theorem Onto.prod {ca : Codec α} {cb : Codec β} {n m : ℕ} (ha : ca.Onto n) (hwa : ca.FixedWidth n)
    (hb : cb.Onto m) : (ca.prod cb).Onto (n + m) := by
  constructor
  intro bs hbs
  obtain ⟨a, mid, rfl⟩ := ha.exists_write bs (by omega)
  have hmid : m ≤ mid.length := by
    rw [List.length_append, hwa.length_write] at hbs
    omega
  obtain ⟨b, rest, rfl⟩ := hb.exists_write mid hmid
  exact ⟨(a, b), rest, by rw [prod_write, List.append_assoc]⟩

theorem Onto.map {c : Codec β} {n : ℕ} (hc : c.Onto n) (f : β → α) (g : α → β)
    (h : ∀ x, f (g x) = x) (hg : ∀ y, g (f y) = y) : (c.map f g h).Onto n := by
  constructor
  intro bs hbs
  obtain ⟨y, rest, rfl⟩ := hc.exists_write bs hbs
  exact ⟨f y, rest, by rw [map_write, hg]⟩

end Codec

end SolanaIdls.Borsh
