import SolanaIdls.Rust.Outcome
import SolanaIdls.Rust.TagMatch
import SolanaIdls.Borsh.SortedMap

/-!
# What the decoders share

`ParseError` of `src/common/mod.rs`, the error of every decoder, and the types that every module
reads: a `Pubkey`, which Borsh writes as its 32 bytes, and the 8-byte discriminators of Anchor.
A Borsh error surfaces through `?` as `ParseError::Decode`, which is `decode` here.

Three decoders accept an event both bare, as its discriminator and payload, and wrapped in
Anchor's `emit_cpi` framing, behind the 8 bytes of `ANCHOR_DISC`. Their `try_from`s share the
code that separates the discriminator from the payload; it is `anchor_cpi_split` here, which
each of their models calls. `anchor_cpi_split_framed` and `anchor_cpi_split_bare` say what it
returns on the two framings, and `anchor_cpi_split_wrap` that wrapping an input does not change
it.
-/

namespace SolanaIdls

open Borsh

/-- `ParseError` of `src/common/mod.rs`. -/
inductive ParseError where
  /-- "payload too short: got {0} bytes". -/
  | TooShort (got : ℕ)
  /-- "unknown discriminator {0:?}". -/
  | Unknown (disc : List.Vector UInt8 8)
  /-- "unknown anchor discriminator {0:?}". -/
  | AnchorUnknown (disc : List.Vector UInt8 8)
  /-- "unknown Raydium discriminator {0:?}". -/
  | RaydiumUnknown (disc : UInt8)
  /-- "unknown Pump.fun discriminator {0:?}". -/
  | PumpFunUnknown (disc : List.Vector UInt8 8)
  /-- "unknown SPL discriminator {0}". -/
  | SplUnknown (disc : UInt8)
  /-- "invalid payload length: expected {expected} bytes, got {got}". -/
  | InvalidLength (expected got : ℕ)
  /-- "unknown Token Metadata discriminator {0}". -/
  | TokenMetadataUnknown (disc : UInt8)
  /-- "unknown Token Metadata V1 sub-discriminator {0}". -/
  | TokenMetadataSubdiscriminatorUnknown (disc : UInt8)
  /-- "Borsh decode error: {0}". -/
  | Decode (e : BorshError)
  deriving DecidableEq

/-- `?` on a Borsh result: its error becomes `ParseError::Decode`. -/
def decode {α : Type} (r : Except BorshError α) : Outcome ParseError α :=
  Outcome.ofExcept ParseError.Decode r

@[simp] theorem decode_ok {α : Type} (a : α) : decode (.ok a : Except BorshError α) = .ok a := rfl

@[simp] theorem decode_error {α : Type} (e : BorshError) :
    decode (.error e : Except BorshError α) = .err (.Decode e) := rfl

/-- An arm that decodes its whole payload with a codec returns the value the codec wrote. -/
theorem decode_try_from_slice_write {α : Type} (c : Codec α) {x : α} (h : c.fits x = true) :
    decode (c.try_from_slice (c.write x)) = .ok x := by
  rw [c.try_from_slice_write h, decode_ok]

/-- The arm `K => Self::V(T::try_from_slice(payload)?)` of a decoder's `match`, as a function of
the payload, for the decoders whose `match` is a table (`matchConst`). -/
def decode_arm {α β : Type} (c : Codec α) (V : α → β) (payload : List UInt8) :
    Outcome ParseError β := do
  return V (← decode (c.try_from_slice payload))

/-- An arm `V(T::try_from_slice(payload)?)` on the bytes that `T`'s writer wrote returns the
value. -/
theorem decode_arm_write {α β : Type} (c : Codec α) (V : α → β) {x : α} (h : c.fits x = true) :
    (do return V (← decode (c.try_from_slice (c.write x))) : Outcome ParseError β) = .ok (V x) := by
  rw [decode_try_from_slice_write c h]
  rfl

/-- An arm `V(T::try_from_slice(payload)?)` that returned: `T` accepted the payload. -/
theorem decode_arm_eq_ok {α β : Type} {c : Codec α} {V : α → β} {bs : List UInt8} {r : β}
    (h : (do return V (← decode (c.try_from_slice bs)) : Outcome ParseError β) = .ok r) :
    ∃ x, c.try_from_slice bs = .ok x ∧ V x = r := by
  cases hx : c.try_from_slice bs with
  | error e => rw [hx] at h; cases h
  | ok x =>
    rw [hx] at h
    cases h
    exact ⟨x, rfl, rfl⟩

/-- An arm `V(T::try_from_slice(payload)?)` of a canonical codec that reads only values that fit
returns exactly on the encodings of those values. -/
theorem decode_arm_eq_ok_iff {α β : Type} {c : Codec α} (hc : c.Canonical) (hf : c.ReadsFit)
    {V : α → β} {payload : List UInt8} {r : β} :
    decode_arm c V payload = .ok r ↔ ∃ x, c.fits x = true ∧ payload = c.write x ∧ V x = r := by
  constructor
  · intro h
    obtain ⟨x, hx, rfl⟩ := decode_arm_eq_ok h
    obtain ⟨hfits, rfl⟩ := (hc.try_from_slice_eq_ok_iff hf).mp hx
    exact ⟨x, hfits, rfl, rfl⟩
  · rintro ⟨x, hx, rfl, rfl⟩
    exact decode_arm_write c V hx

/-- An arm `V(T::try_from_slice(payload)?)` on bytes that `T` rejects returns the Borsh error. -/
theorem decode_arm_error {α β : Type} (c : Codec α) (V : α → β) {bs : List UInt8}
    {e : BorshError} (h : c.try_from_slice bs = .error e) :
    (do return V (← decode (c.try_from_slice bs)) : Outcome ParseError β) = .err (.Decode e) := by
  rw [h]
  rfl

/-- An arm `V(T::try_from_slice(payload)?)` fails only with a Borsh error. -/
theorem decode_arm_eq_err {α β : Type} {c : Codec α} {V : α → β} {payload : List UInt8}
    {e : ParseError} (h : decode_arm c V payload = .err e) : ∃ be, e = .Decode be := by
  unfold decode_arm at h
  cases hx : c.try_from_slice payload with
  | error be =>
    rw [hx] at h
    cases h
    exact ⟨be, rfl⟩
  | ok x =>
    rw [hx] at h
    cases h

theorem decode_arm_ne_panic {α β : Type} (c : Codec α) (V : α → β) (payload : List UInt8) :
    decode_arm c V payload ≠ .panic := by
  unfold decode_arm
  cases c.try_from_slice payload <;> simp

/-- `solana_program::pubkey::Pubkey`, 32 bytes. -/
abbrev Pubkey := List.Vector UInt8 32

/-- A `Pubkey` is written as its 32 bytes. -/
def Borsh.Codec.pubkey : Codec Pubkey := Codec.u8.array 32

theorem Borsh.Codec.fixedWidth_pubkey : Codec.pubkey.FixedWidth 32 :=
  Codec.fixedWidth_u8.array 32

theorem Borsh.Codec.canonical_pubkey : Codec.pubkey.Canonical :=
  Codec.canonical_u8.array 32

/-! ## Integers read by hand -/

/-- `u64::from_le_bytes`. -/
def u64_from_le_bytes (bytes : List.Vector UInt8 8) : UInt64 :=
  UInt64.ofNat (leValue bytes.toList)

/-- `u64::to_le_bytes`. -/
def u64_to_le_bytes (v : UInt64) : List.Vector UInt8 8 :=
  ⟨leBytes 8 v.toNat, length_leBytes 8 v.toNat⟩

/-- `from_le_bytes` inverts `to_le_bytes`. -/
@[simp] theorem u64_from_le_bytes_to_le_bytes (v : UInt64) : u64_from_le_bytes (u64_to_le_bytes v) = v := by
  have hlt : v.toNat < 256 ^ 8 := v.toNat_lt
  unfold u64_from_le_bytes u64_to_le_bytes
  rw [List.Vector.toList_mk, leValue_leBytes, Nat.mod_eq_of_lt hlt, UInt64.ofNat_toNat]

/-- The bytes of `to_le_bytes` are those that Borsh writes for a `u64`. -/
theorem toList_u64_to_le_bytes (v : UInt64) : (u64_to_le_bytes v).toList = Codec.u64.write v := rfl

/-- Reading by hand the eight bytes that Borsh writes for a `u64` gives it back. -/
theorem u64_from_le_bytes_write (v : UInt64) (h : (Codec.u64.write v).length = 8) :
    u64_from_le_bytes ⟨Codec.u64.write v, h⟩ = v :=
  u64_from_le_bytes_to_le_bytes v

/-! ## Fixed-width arms read by hand -/

/-- What a hand-written fixed-width arm stands for: the struct of width `w` read by Borsh from a
prefix of the payload, the rest ignored, and below `w` bytes `TooShort` with the length
`reported`. -/
def prefix_arm {α β : Type} (c : Codec α) (w : ℕ) (V : α → β) (reported : ℕ)
    (payload : List UInt8) : Outcome ParseError β :=
  if payload.length < w then .err (.TooShort reported) else decode ((c.deserialize payload).map V)

/-- An arm is the prefix reader of a codec with no invalid input when it reports every short
payload with `reported` and reads every encoding back whatever follows it. -/
theorem eq_prefix_arm {α β : Type} {c : Codec α} {w : ℕ} (hw : c.FixedWidth w) (ho : c.Onto w)
    {V : α → β} {arm : List UInt8 → Outcome ParseError β} {reported : List UInt8 → ℕ}
    (hshort : ∀ payload, payload.length < w → arm payload = .err (.TooShort (reported payload)))
    (hwrite : ∀ x t, arm (c.write x ++ t) = .ok (V x)) (payload : List UInt8) :
    arm payload = prefix_arm c w V (reported payload) payload := by
  unfold prefix_arm
  split_ifs with h
  · exact hshort payload h
  · -- a payload of `w` bytes or more is an encoding and what follows it
    obtain ⟨x, t, rfl⟩ := ho.exists_write payload (by omega)
    rw [hwrite, c.deserialize_write_append (hw.fits x) t]
    rfl

/-- A prefix arm of a codec with no invalid input succeeds exactly on an encoding and whatever
follows it. -/
theorem prefix_arm_eq_ok_iff {α β : Type} {c : Codec α} {w : ℕ} (hw : c.FixedWidth w)
    (ho : c.Onto w) {V : α → β} {reported : ℕ} {payload : List UInt8} {r : β} :
    prefix_arm c w V reported payload = .ok r ↔ ∃ x t, payload = c.write x ++ t ∧ r = V x := by
  constructor
  · intro h
    unfold prefix_arm at h
    -- a short payload is an error, which `split_ifs` discards; from `w` bytes on, the payload
    -- is an encoding, which the arm reads back
    split_ifs at h with hlen
    obtain ⟨x, t, rfl⟩ := ho.exists_write payload (by omega)
    rw [c.deserialize_write_append (hw.fits x) t] at h
    cases h
    exact ⟨x, t, rfl, rfl⟩
  · rintro ⟨x, t, rfl, rfl⟩
    have hlen : ¬(c.write x ++ t).length < w := by
      rw [List.length_append, hw.length_write x]
      omega
    rw [prefix_arm, if_neg hlen, c.deserialize_write_append (hw.fits x) t]
    rfl

/-- A prefix arm reports only a short payload. -/
theorem prefix_arm_eq_err {α β : Type} {c : Codec α} {w : ℕ} (hw : c.FixedWidth w)
    (ho : c.Onto w) {V : α → β} {reported : ℕ} {payload : List UInt8} {e : ParseError}
    (h : prefix_arm c w V reported payload = .err e) :
    payload.length < w ∧ e = .TooShort reported := by
  unfold prefix_arm at h
  split_ifs at h with hlen
  · cases h
    exact ⟨hlen, rfl⟩
  · -- from `w` bytes on there is no invalid input: Borsh reads a value
    obtain ⟨x, t, rfl⟩ := ho.exists_write payload (by omega)
    rw [c.deserialize_write_append (hw.fits x) t] at h
    cases h

theorem prefix_arm_ne_panic {α β : Type} (c : Codec α) (w : ℕ) (V : α → β) (reported : ℕ)
    (payload : List UInt8) : prefix_arm c w V reported payload ≠ .panic := by
  unfold prefix_arm
  split_ifs
  · simp
  · exact Outcome.ofExcept_ne_panic _ _

/-- The arm of tag `k` that reads a prefix of what follows the tag keeps the promise of a tagged
decoder whose short error is `TooShort` with the input's length, when the layout of what it
reads is the tag and the encoding. -/
theorem armSpec_prefix {α β : Type} {c : Codec α} {w : ℕ} (hw : c.FixedWidth w) (ho : c.Onto w)
    {k : UInt8} {V : α → β} {write : β → List UInt8} (hV : ∀ x, write (V x) = k :: c.write x)
    {arm : List UInt8 → List UInt8 → Outcome ParseError β}
    (harm : ∀ rest, arm (k :: rest) rest = prefix_arm c w V (k :: rest).length rest) :
    ArmSpec write (fun data => .TooShort data.length) k arm := by
  intro rest
  rw [harm]
  refine ⟨fun r h => ?_, fun e h => (prefix_arm_eq_err hw ho h).2, prefix_arm_ne_panic _ _ _ _ _⟩
  obtain ⟨x, t, rfl, rfl⟩ := (prefix_arm_eq_ok_iff hw ho).mp h
  exact ⟨t, by rw [hV]; rfl, trivial⟩

/-! ## Decoders on Anchor's 8-byte discriminator -/

/-- An 8-byte discriminator, from its bytes. Anchor derives a discriminator from the
instruction's name alone, so programs that share a name share its bytes. -/
def disc8 (b0 b1 b2 b3 b4 b5 b6 b7 : UInt8) : List.Vector UInt8 8 :=
  ⟨[b0, b1, b2, b3, b4, b5, b6, b7], rfl⟩

/-- The `try_from` of the decoders that match on Anchor's 8-byte discriminator: below 8 bytes
`TooShort` with the length of the input, and otherwise the `match` on the first 8 bytes,
`decode_payload`, with the rest as the payload. -/
def anchor_try_from {β : Type}
    (decode_payload : List.Vector UInt8 8 → List UInt8 → Outcome ParseError β)
    (data : List UInt8) : Outcome ParseError β := do
  if data.length < 8 then
    .err (.TooShort data.length)
  else
    let (disc, payload) ← Slice.split_at data 8
    let discriminator ← Outcome.expect (Slice.try_into disc 8)
    decode_payload discriminator payload

section Anchor

variable {β : Type} (decode_payload : List.Vector UInt8 8 → List UInt8 → Outcome ParseError β)

theorem anchor_try_from_of_lt {data : List UInt8} (h : data.length < 8) :
    anchor_try_from decode_payload data = .err (.TooShort data.length) := by
  simp [anchor_try_from, h]

/-- From 8 bytes on, the decoder runs the `match` on the first 8 with the rest as payload. -/
theorem anchor_try_from_split (disc : List.Vector UInt8 8) (payload : List UInt8) :
    anchor_try_from decode_payload (disc.toList ++ payload) = decode_payload disc payload := by
  have hd : disc.toList.length = 8 := disc.toList_length
  have hlen : ¬(disc.toList ++ payload).length < 8 := by
    simp only [List.length_append, hd]
    omega
  simp only [anchor_try_from, if_neg hlen, Slice.split_at_append_of_length hd, Outcome.ok_bind,
    Slice.try_into_toList, Outcome.expect_some]

/-- Every input is short, or a discriminator and a payload: the case split of every proof about
what such a decoder returns. -/
theorem anchor_try_from_cases (data : List UInt8) :
    (data.length < 8 ∧ anchor_try_from decode_payload data = .err (.TooShort data.length)) ∨
      ∃ disc payload, data = disc.toList ++ payload ∧
        anchor_try_from decode_payload data = decode_payload disc payload := by
  by_cases h : data.length < 8
  · exact .inl ⟨h, anchor_try_from_of_lt decode_payload h⟩
  · obtain ⟨disc, payload, rfl⟩ := Slice.exists_vector_append (n := 8) (s := data) (by omega)
    exact .inr ⟨disc, payload, rfl, anchor_try_from_split decode_payload disc payload⟩

end Anchor

/-! ### Anchor decoders whose `match` is a table

Most Anchor decoders match the discriminator against constants, with `other =>
Err(ParseError::Unknown(other))` last, and each arm either decodes the whole payload with Borsh,
reads nothing, or keeps the payload raw. Such a decoder is exact: what it returns is an
instruction laid out by its discriminator and payload, followed by nothing unless the arm reads
nothing (`bare`). Each row promises that on the payloads behind its discriminator (`AnchorRow`),
and `anchor_table_spec` lifts the rows' promises to the decoder. -/

section AnchorTable

variable {β : Type} {write : β → List UInt8} {valid : β → Prop} {bare : β → Bool}
  {allowed : List UInt8 → ParseError → Prop} {d : List.Vector UInt8 8}

/-- What a row of an Anchor `match discriminator` promises on every payload behind its
discriminator `d`: a valid instruction laid out by `d` and the payload, with bytes after the
layout only for an instruction whose arm reads nothing (`bare`), an error that `allowed` admits
for the payload, and never a panic. What is valid is the decoder's to say: not the `Unknown`
variant that many decoders declare, and only values whose `Vec`s Borsh can count. -/
def AnchorRow (write : β → List UInt8) (valid : β → Prop) (bare : β → Bool)
    (allowed : List UInt8 → ParseError → Prop) (d : List.Vector UInt8 8)
    (arm : List UInt8 → Outcome ParseError β) : Prop :=
  ∀ payload, OutcomeSpec write (fun r t => valid r ∧ (t = [] ∨ bare r = true)) (allowed payload)
    (d.toList ++ payload) (arm payload)

/-- A row keeps its promise when more errors are allowed. -/
theorem AnchorRow.mono {allowed' : List UInt8 → ParseError → Prop}
    {arm : List UInt8 → Outcome ParseError β} (h : AnchorRow write valid bare allowed d arm)
    (hle : ∀ payload e, allowed payload e → allowed' payload e) :
    AnchorRow write valid bare allowed' d arm := fun payload =>
  (h payload).mono (hle payload)

/-- The row `D => V(T::try_from_slice(payload)?)` keeps its promise, with Borsh errors only, when
the layout of `V x` is `D` and the encoding of `x`, for a canonical codec that reads only values
that fit, each of which makes a valid instruction. -/
theorem anchorRow_decode {α : Type} {c : Codec α} (hc : c.Canonical) (hf : c.ReadsFit)
    {V : α → β} (hV : ∀ x, write (V x) = d.toList ++ c.write x)
    (hvalid : ∀ x, c.fits x = true → valid (V x)) :
    AnchorRow write valid bare (fun _ e => ∃ be, e = .Decode be) d (decode_arm c V) :=
  fun payload =>
  { sound := fun r h => by
      obtain ⟨x, hx, rfl, rfl⟩ := (decode_arm_eq_ok_iff hc hf).mp h
      exact ⟨[], by rw [hV, List.append_nil], hvalid x hx, .inl rfl⟩
    err_allowed := fun _ h => decode_arm_eq_err h
    ne_panic := decode_arm_ne_panic c V payload }

/-- The row `D => V` that reads nothing keeps its promise when `V` is a valid, bare instruction
whose layout is `D`. -/
theorem anchorRow_bare {r : β} (hw : write r = d.toList) (hv : valid r) (hb : bare r = true) :
    AnchorRow write valid bare allowed d (fun _ => .ok r) := fun payload =>
  OutcomeSpec.of_ok payload (by rw [hw]) ⟨hv, .inr hb⟩

/-- The row `D => V(payload.to_vec())` keeps its promise when the layout of `V p` is `D` and
`p`, and every `V p` is valid. -/
theorem anchorRow_raw {V : List UInt8 → β} (hV : ∀ p, write (V p) = d.toList ++ p)
    (hv : ∀ p, valid (V p)) : AnchorRow write valid bare allowed d (fun p => .ok (V p)) :=
  fun payload => OutcomeSpec.of_ok [] (by rw [hV, List.append_nil]) ⟨hv payload, .inl rfl⟩

variable {arms : List (List.Vector UInt8 8 × (List UInt8 → Outcome ParseError β))}
  {allowedAt : List.Vector UInt8 8 → List UInt8 → ParseError → Prop}

/-- Behind the discriminator of a row, the decoder is that row's arm. -/
theorem anchor_table_of_mem (hnd : (arms.map Prod.fst).Nodup)
    {arm : List UInt8 → Outcome ParseError β} (hmem : (d, arm) ∈ arms) (payload : List UInt8) :
    anchor_try_from (fun disc p => matchConst arms (fun other _ => .err (.Unknown other)) disc p)
      (d.toList ++ payload) = arm payload := by
  rw [anchor_try_from_split, matchConst_of_mem hnd _ hmem]

/-- Behind the discriminator of a row `D => V(T::try_from_slice(payload)?)`, the decoder reads
back every value that fits. -/
theorem anchor_table_decode (hnd : (arms.map Prod.fst).Nodup) {α : Type} {c : Codec α}
    {V : α → β} (hmem : (d, decode_arm c V) ∈ arms) {x : α} (hx : c.fits x = true) :
    anchor_try_from (fun disc p => matchConst arms (fun other _ => .err (.Unknown other)) disc p)
      (d.toList ++ c.write x) = .ok (V x) := by
  rw [anchor_table_of_mem hnd hmem]
  exact decode_arm_write c V hx

/-- Behind the discriminator of a row that reads nothing, the decoder returns its instruction
whatever follows. -/
theorem anchor_table_bare (hnd : (arms.map Prod.fst).Nodup) {r : β}
    (hmem : (d, fun _ => .ok r) ∈ arms) (t : List UInt8) :
    anchor_try_from (fun disc p => matchConst arms (fun other _ => .err (.Unknown other)) disc p)
      (d.toList ++ t) = .ok r :=
  anchor_table_of_mem hnd hmem t

/-- An Anchor decoder whose rows keep their promise returns a valid instruction laid out by the
input, followed by nothing unless the instruction is bare; it fails with `TooShort` below 8
bytes, `Unknown` behind a discriminator of no row, or an error that the row of its discriminator
allows for its payload; and it never panics. -/
theorem anchor_table_spec (hnd : (arms.map Prod.fst).Nodup)
    (hrows : ∀ d arm, (d, arm) ∈ arms → AnchorRow write valid bare (allowedAt d) d arm)
    (data : List UInt8) :
    OutcomeSpec write (fun r t => valid r ∧ (t = [] ∨ bare r = true))
      (fun e => (data.length < 8 ∧ e = .TooShort data.length) ∨
        ∃ disc payload, data = disc.toList ++ payload ∧
          ((disc ∉ arms.map Prod.fst ∧ e = .Unknown disc) ∨ allowedAt disc payload e))
      data
      (anchor_try_from (fun disc p => matchConst arms (fun other _ => .err (.Unknown other)) disc p)
        data) := by
  rcases anchor_try_from_cases
      (fun disc p => matchConst arms (fun other _ => .err (.Unknown other)) disc p) data with
    ⟨hlt, h⟩ | ⟨disc, payload, rfl, h⟩
  · -- too short for a discriminator
    rw [h]
    exact OutcomeSpec.of_err (.inl ⟨hlt, rfl⟩)
  rw [h]
  rcases matchConst_cases hnd (fun other _ => .err (.Unknown other)) disc with
    ⟨arm, hmem, harm⟩ | ⟨hk, hfb⟩
  · -- a row: its own promise
    rw [harm]
    exact (hrows disc arm hmem payload).mono fun e he => .inr ⟨disc, payload, rfl, .inr he⟩
  · -- no row: `Unknown`
    rw [hfb]
    exact OutcomeSpec.of_err (.inr ⟨disc, payload, rfl, .inl ⟨hk, rfl⟩⟩)

/-- An Anchor decoder whose rows keep their promise, and which reads back the layout of every
valid instruction, followed by nothing or, for a bare instruction, by anything, is exact: it
returns an instruction exactly when the instruction is valid and the input is its layout so
followed; it fails with `TooShort` below 8 bytes, `Unknown` behind a discriminator of no row, or
an error that the row of its discriminator allows; and it never panics. -/
theorem anchor_table_exact (hnd : (arms.map Prod.fst).Nodup)
    (hrows : ∀ d arm, (d, arm) ∈ arms → AnchorRow write valid bare (allowedAt d) d arm)
    (hcomplete : ∀ r t, valid r → (t = [] ∨ bare r = true) →
      anchor_try_from (fun disc p => matchConst arms (fun other _ => .err (.Unknown other)) disc p)
        (write r ++ t) = .ok r)
    (data : List UInt8) :
    let dec := anchor_try_from fun disc p =>
      matchConst arms (fun other _ => .err (.Unknown other)) disc p
    (∀ r, dec data = .ok r ↔ valid r ∧ ∃ t, data = write r ++ t ∧ (t = [] ∨ bare r = true)) ∧
      (∀ e, dec data = .err e → (data.length < 8 ∧ e = .TooShort data.length) ∨
        ∃ disc payload, data = disc.toList ++ payload ∧
          ((disc ∉ arms.map Prod.fst ∧ e = .Unknown disc) ∨ allowedAt disc payload e)) ∧
      dec data ≠ .panic := by
  intro dec
  have hspec := anchor_table_spec hnd hrows data
  refine ⟨fun r => ⟨fun h => ?_, ?_⟩, hspec.err_allowed, hspec.ne_panic⟩
  · obtain ⟨t, hd, hv, ht⟩ := hspec.sound r h
    exact ⟨hv, t, hd, ht⟩
  · rintro ⟨hv, t, rfl, ht⟩
    exact hcomplete r t hv ht

end AnchorTable

/-! ## Anchor's `emit_cpi` framing -/

/-- `ANCHOR_DISC`, the tag of an event emitted through a self-CPI, `e445a52e51cb9a1d`. -/
def ANCHOR_DISC : List.Vector UInt8 8 := ⟨[0xe4, 0x45, 0xa5, 0x2e, 0x51, 0xcb, 0x9a, 0x1d], rfl⟩

/-- The header of the `try_from` of an event that may come bare or behind `ANCHOR_DISC`: at least 8
bytes, then the discriminator at byte 8 and the payload from byte 16 when the input is 16 bytes
or more and starts with `ANCHOR_DISC`, and else the discriminator at byte 0 and the payload from
byte 8. -/
def anchor_cpi_split (data : List UInt8) : Outcome ParseError (List.Vector UInt8 8 × List UInt8) := do
  if data.length < 8 then
    .err (.TooShort data.length)
  else
    -- `data.len() >= 16 && data[0..8] == ANCHOR_DISC`, short-circuiting.
    let framed ← if 16 ≤ data.length then do
        let head ← Slice.range data 0 8
        pure (decide (head = ANCHOR_DISC.toList))
      else pure false
    if framed then
      let disc ← Outcome.expect (Slice.try_into (← Slice.range data 8 16) 8)
      let payload ← Slice.range_from data 16
      pure (disc, payload)
    else
      let disc ← Outcome.expect (Slice.try_into (← Slice.range data 0 8) 8)
      let payload ← Slice.range_from data 8
      pure (disc, payload)

/-- Below 8 bytes the header rejects the input with its length. -/
theorem anchor_cpi_split_of_lt {data : List UInt8} (h : data.length < 8) :
    anchor_cpi_split data = .err (.TooShort data.length) := by
  simp [anchor_cpi_split, h]

/-- Behind `ANCHOR_DISC`, the discriminator is the next 8 bytes and the payload the rest. -/
theorem anchor_cpi_split_framed (disc : List.Vector UInt8 8) (payload : List UInt8) :
    anchor_cpi_split (ANCHOR_DISC.toList ++ disc.toList ++ payload) = .ok (disc, payload) := by
  have hA : ANCHOR_DISC.toList.length = 8 := rfl
  have hd : disc.toList.length = 8 := disc.toList_length
  have hlen : (ANCHOR_DISC.toList ++ (disc.toList ++ payload)).length = 16 + payload.length := by
    simp only [List.length_append, hA, hd]
    omega
  rw [List.append_assoc]
  simp only [anchor_cpi_split, hlen, if_neg (show ¬16 + payload.length < 8 by omega),
    if_pos (show 16 ≤ 16 + payload.length by omega), Slice.range_zero_append hA,
    Slice.range_append hA (show 8 + disc.toList.length = 16 by omega),
    Slice.range_from_append_append (show ANCHOR_DISC.toList.length + disc.toList.length = 16 by
      omega),
    Outcome.ok_bind, Outcome.pure_eq, decide_true, if_true, Slice.try_into_toList,
    Outcome.expect_some]

/-- A bare input whose first 8 bytes are not `ANCHOR_DISC` has its discriminator there and its
payload after. -/
theorem anchor_cpi_split_bare (disc : List.Vector UInt8 8) (payload : List UInt8)
    (hne : disc ≠ ANCHOR_DISC) :
    anchor_cpi_split (disc.toList ++ payload) = .ok (disc, payload) := by
  have hd : disc.toList.length = 8 := disc.toList_length
  have hne' : disc.toList ≠ ANCHOR_DISC.toList := fun h => hne (List.Vector.toList_injective h)
  have hlen : (disc.toList ++ payload).length = 8 + payload.length := by
    simp only [List.length_append, hd]
  -- Whether or not the input is long enough to be framed, the test finds no `ANCHOR_DISC`, and
  -- both branches of the length test end in the bare layout.
  simp only [anchor_cpi_split, hlen, if_neg (show ¬8 + payload.length < 8 by omega),
    Slice.range_zero_append hd, Outcome.ok_bind, Outcome.pure_eq, hne', decide_false,
    Bool.false_eq_true, if_false, ite_self, Slice.range_from_append hd, Slice.try_into_toList,
    Outcome.expect_some]

/-- Wrapping an input of at least 8 bytes that does not itself start with `ANCHOR_DISC` does not
change what the header returns. -/
theorem anchor_cpi_split_wrap (p : List UInt8) (hp : 8 ≤ p.length)
    (hne : p.take 8 ≠ ANCHOR_DISC.toList) :
    anchor_cpi_split (ANCHOR_DISC.toList ++ p) = anchor_cpi_split p := by
  have hl : (p.take 8).length = 8 := by simp; omega
  let d : List.Vector UInt8 8 := ⟨p.take 8, hl⟩
  have hsplit : p = d.toList ++ p.drop 8 := (List.take_append_drop 8 p).symm
  have hd : d ≠ ANCHOR_DISC := fun h => hne (congrArg List.Vector.toList h)
  rw [hsplit, ← List.append_assoc, anchor_cpi_split_framed, anchor_cpi_split_bare _ _ hd]

end SolanaIdls
