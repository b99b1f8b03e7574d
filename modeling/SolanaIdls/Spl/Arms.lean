import SolanaIdls.Spl.Token.Instructions

/-!
# The shapes of the SPL decoders

The SPL decoders of `src/spl` (Token, Token-2022, Token Lending, Token Swap) share one
`try_from`: an empty input is `TooShort(0)`, and otherwise the `match data[0]` runs the arm of
the tag on `rest = &data[1..]`. Their arms come in a few shapes, written out once per tag in the
source: a variant with no fields, read without looking at `rest`; an amount, eight little-endian
bytes; an amount and decimals; two or three amounts. Each shape checks that `rest` is long
enough, reports a short one with the length of the whole input, and then slices its fields out
of `rest`.

Here each shape is one definition generic in the instruction type, and each is the prefix reader
of its fields (`amount_arm_eq_prefix` and its siblings): it reads every encoding back whatever
follows it, fails only on a short payload, and never panics. `try_from_tag_spec` lifts that to a
whole decoder whose `match` is a table of such rows.
-/

namespace SolanaIdls.spl

open Borsh Borsh.Codec
open token.instructions (read_u64 read_u64_append)

variable {β : Type}

/-! ## The shared `try_from` -/

/-- `TryFrom<&[u8]>` of the SPL instructions, with the `match data[0]` as `dispatch`. -/
def try_from_tag (dispatch : UInt8 → List UInt8 → List UInt8 → Outcome ParseError β)
    (data : List UInt8) : Outcome ParseError β := do
  if data = [] then
    .err (.TooShort data.length)
  else
    let rest ← Slice.range_from data 1
    let tag ← Slice.index data 0
    dispatch tag data rest

/-- A non-empty input is dispatched on its first byte. -/
theorem try_from_tag_cons (dispatch : UInt8 → List UInt8 → List UInt8 → Outcome ParseError β)
    (tag : UInt8) (rest : List UInt8) :
    try_from_tag dispatch (tag :: rest) = dispatch tag (tag :: rest) rest := by
  have hrest : (Slice.range_from (tag :: rest) 1 : Outcome ParseError (List UInt8)) = .ok rest :=
    Slice.range_from_append (s := [tag]) rfl rest
  simp only [try_from_tag, reduceCtorEq, if_false, hrest, Outcome.ok_bind, Slice.index_cons_zero]

/-! ## Amounts sliced out by hand -/

/-- `u64::from_le_bytes(rest[a..b].try_into().unwrap())`. -/
def read_u64_range (rest : List UInt8) (a b : ℕ) : Outcome ParseError UInt64 := do
  let bytes ← Outcome.expect (Slice.try_into (← Slice.range rest a b) 8)
  return u64_from_le_bytes bytes

/-- `rest[..8]` of the eight bytes Borsh writes for a `u64` gives it back. -/
theorem read_u64_write (v : UInt64) (t : List UInt8) : read_u64 (u64.write v ++ t) = .ok v := by
  have h := read_u64_append (u64_to_le_bytes v) t
  rwa [toList_u64_to_le_bytes, u64_from_le_bytes_to_le_bytes] at h

/-- `rest[a..a + 8]` of the eight bytes Borsh writes for a `u64` at `a` gives it back. -/
theorem read_u64_range_append {s : List UInt8} {a b : ℕ} (hs : s.length = a) (hb : a + 8 = b)
    (v : UInt64) (t : List UInt8) : read_u64_range (s ++ (u64.write v ++ t)) a b = .ok v := by
  have hv : (u64.write v).length = 8 := fixedWidth_u64.length_write v
  rw [read_u64_range, Slice.range_append hs (by rw [hv, hb]) t, Outcome.ok_bind,
    Slice.expect_try_into_of_length hv]
  exact congrArg Outcome.ok (u64_from_le_bytes_write v hv)

/-! ## The shapes of the arms -/

/-- An arm that reads an amount, `rest[..8]`. -/
def amount_arm (data rest : List UInt8) (mk : UInt64 → β) : Outcome ParseError β := do
  if rest.length < 8 then
    .err (.TooShort data.length)
  else
    return mk (← read_u64 rest)

/-- An arm of a `Checked` instruction: an amount, `rest[..8]`, then the decimals, `rest[8]`. -/
def checked_arm (data rest : List UInt8) (mk : UInt64 → UInt8 → β) :
    Outcome ParseError β := do
  if rest.length < 9 then
    .err (.TooShort data.length)
  else
    let amount ← read_u64 rest
    let decimals ← Slice.index rest 8
    return mk amount decimals

/-- An arm that reads two amounts, `rest[..8]` and `rest[8..16]`. -/
def amounts2_arm (data rest : List UInt8) (mk : UInt64 → UInt64 → β) :
    Outcome ParseError β := do
  if rest.length < 16 then
    .err (.TooShort data.length)
  else
    let first ← read_u64 rest
    let second ← read_u64_range rest 8 16
    return mk first second

/-- An arm that reads three amounts, `rest[..8]`, `rest[8..16]` and `rest[16..24]`. -/
def amounts3_arm (data rest : List UInt8) (mk : UInt64 → UInt64 → UInt64 → β) :
    Outcome ParseError β := do
  if rest.length < 24 then
    .err (.TooShort data.length)
  else
    let first ← read_u64 rest
    let second ← read_u64_range rest 8 16
    let third ← read_u64_range rest 16 24
    return mk first second third

/-- Token's own arms are the shapes at its instruction type. -/
theorem token_amount_arm (data rest : List UInt8)
    (mk : UInt64 → token.instructions.TokenInstruction) :
    token.instructions.amount_arm data rest mk = amount_arm data rest mk := rfl

theorem token_checked_arm (data rest : List UInt8)
    (mk : UInt64 → UInt8 → token.instructions.TokenInstruction) :
    token.instructions.checked_arm data rest mk = checked_arm data rest mk := rfl

/-- A map over what a shape returns is the shape with the map in its constructor: how a decoder
that forgets some variants' fields relates to one that reads them. -/
theorem map_amount_arm {γ : Type} (f : β → γ) (data rest : List UInt8) (mk : UInt64 → β) :
    f <$> amount_arm data rest mk = amount_arm data rest (f ∘ mk) := by
  unfold amount_arm
  split_ifs
  · rfl
  · rw [Outcome.map_bind]
    rfl

theorem map_checked_arm {γ : Type} (f : β → γ) (data rest : List UInt8)
    (mk : UInt64 → UInt8 → β) :
    f <$> checked_arm data rest mk = checked_arm data rest fun a d => f (mk a d) := by
  unfold checked_arm
  split_ifs
  · rfl
  · simp only [Outcome.map_bind]
    rfl

/-! ### Each shape is the prefix reader of its fields -/

section Shapes

variable (data : List UInt8)

theorem amount_arm_of_lt {rest : List UInt8} (h : rest.length < 8) (mk : UInt64 → β) :
    amount_arm data rest mk = .err (.TooShort data.length) := by
  rw [amount_arm, if_pos h]

theorem amount_arm_write (v : UInt64) (t : List UInt8) (mk : UInt64 → β) :
    amount_arm data (u64.write v ++ t) mk = .ok (mk v) := by
  have hlen : ¬(u64.write v ++ t).length < 8 := by simp [fixedWidth_u64.length_write]
  rw [amount_arm, if_neg hlen, read_u64_write]
  rfl

theorem amount_arm_eq_prefix (rest : List UInt8) (mk : UInt64 → β) :
    amount_arm data rest mk = prefix_arm u64 8 mk data.length rest :=
  eq_prefix_arm fixedWidth_u64 onto_u64 (fun _ h => amount_arm_of_lt data h mk)
    (fun v t => amount_arm_write data v t mk) rest

theorem checked_arm_of_lt {rest : List UInt8} (h : rest.length < 9) (mk : UInt64 → UInt8 → β) :
    checked_arm data rest mk = .err (.TooShort data.length) := by
  rw [checked_arm, if_pos h]

theorem checked_arm_write (x : UInt64 × UInt8) (t : List UInt8) (mk : UInt64 → UInt8 → β) :
    checked_arm data ((u64.prod u8).write x ++ t) mk = .ok (Function.uncurry mk x) := by
  obtain ⟨amount, decimals⟩ := x
  have hl : (u64.write amount).length = 8 := fixedWidth_u64.length_write amount
  have hp : (u64.prod u8).write (amount, decimals) ++ t = u64.write amount ++ decimals :: t := by
    simp
  have hlen : ¬(u64.write amount ++ decimals :: t).length < 9 := by
    simp [hl]
    omega
  -- The decimals sit at index 8, just after the amount.
  have hdec : (Slice.index (u64.write amount ++ decimals :: t) 8 : Outcome ParseError UInt8) =
      .ok decimals := by
    rw [Slice.index_of_lt (by simp [hl]), List.getElem_append_right (by omega)]
    simp [hl]
  rw [hp, checked_arm, if_neg hlen, read_u64_write, Outcome.ok_bind, hdec]
  rfl

theorem checked_arm_eq_prefix (rest : List UInt8) (mk : UInt64 → UInt8 → β) :
    checked_arm data rest mk = prefix_arm (u64.prod u8) 9 (Function.uncurry mk) data.length rest :=
  eq_prefix_arm (fixedWidth_u64.prod fixedWidth_u8) (onto_u64.prod fixedWidth_u64 onto_u8)
    (fun _ h => checked_arm_of_lt data h mk) (fun x t => checked_arm_write data x t mk) rest

theorem amounts2_arm_of_lt {rest : List UInt8} (h : rest.length < 16)
    (mk : UInt64 → UInt64 → β) : amounts2_arm data rest mk = .err (.TooShort data.length) := by
  rw [amounts2_arm, if_pos h]

theorem amounts2_arm_write (x : UInt64 × UInt64) (t : List UInt8) (mk : UInt64 → UInt64 → β) :
    amounts2_arm data ((u64.prod u64).write x ++ t) mk = .ok (Function.uncurry mk x) := by
  obtain ⟨first, second⟩ := x
  have hl : (u64.write first).length = 8 := fixedWidth_u64.length_write first
  have hp : (u64.prod u64).write (first, second) ++ t =
      u64.write first ++ (u64.write second ++ t) := by
    simp
  have hlen : ¬(u64.write first ++ (u64.write second ++ t)).length < 16 := by
    simp [fixedWidth_u64.length_write]
    omega
  rw [hp, amounts2_arm, if_neg hlen, read_u64_write, Outcome.ok_bind,
    read_u64_range_append hl rfl second t]
  rfl

theorem amounts2_arm_eq_prefix (rest : List UInt8) (mk : UInt64 → UInt64 → β) :
    amounts2_arm data rest mk =
      prefix_arm (u64.prod u64) 16 (Function.uncurry mk) data.length rest :=
  eq_prefix_arm (fixedWidth_u64.prod fixedWidth_u64) (onto_u64.prod fixedWidth_u64 onto_u64)
    (fun _ h => amounts2_arm_of_lt data h mk) (fun x t => amounts2_arm_write data x t mk) rest

theorem amounts3_arm_of_lt {rest : List UInt8} (h : rest.length < 24)
    (mk : UInt64 → UInt64 → UInt64 → β) :
    amounts3_arm data rest mk = .err (.TooShort data.length) := by
  rw [amounts3_arm, if_pos h]

theorem amounts3_arm_write (x : UInt64 × UInt64 × UInt64) (t : List UInt8)
    (mk : UInt64 → UInt64 → UInt64 → β) :
    amounts3_arm data ((u64.prod (u64.prod u64)).write x ++ t) mk = .ok (mk x.1 x.2.1 x.2.2) := by
  obtain ⟨first, second, third⟩ := x
  have hl : (u64.write first).length = 8 := fixedWidth_u64.length_write first
  have hl2 : (u64.write first ++ u64.write second).length = 16 := by
    simp [fixedWidth_u64.length_write]
  have hp : (u64.prod (u64.prod u64)).write (first, second, third) ++ t =
      u64.write first ++ (u64.write second ++ (u64.write third ++ t)) := by
    simp
  have hlen : ¬(u64.write first ++ (u64.write second ++ (u64.write third ++ t))).length < 24 := by
    simp [fixedWidth_u64.length_write]
    omega
  -- The third amount is read after the first two, which `read_u64_range_append` takes as one.
  have hthird : read_u64_range (u64.write first ++ (u64.write second ++ (u64.write third ++ t)))
      16 24 = .ok third := by
    rw [← List.append_assoc]
    exact read_u64_range_append hl2 rfl third t
  rw [hp, amounts3_arm, if_neg hlen, read_u64_write, Outcome.ok_bind,
    read_u64_range_append hl rfl second _, Outcome.ok_bind, hthird]
  rfl

theorem amounts3_arm_eq_prefix (rest : List UInt8) (mk : UInt64 → UInt64 → UInt64 → β) :
    amounts3_arm data rest mk =
      prefix_arm (u64.prod (u64.prod u64)) 24 (fun x => mk x.1 x.2.1 x.2.2) data.length rest :=
  eq_prefix_arm (fixedWidth_u64.prod (fixedWidth_u64.prod fixedWidth_u64))
    (onto_u64.prod fixedWidth_u64 (onto_u64.prod fixedWidth_u64 onto_u64))
    (fun _ h => amounts3_arm_of_lt data h mk) (fun x t => amounts3_arm_write data x t mk) rest

end Shapes

/-! ### The promise of each shape -/

section Promises

variable {write : β → List UInt8} {k : UInt8}

/-- The promise of an SPL arm: a layout, or `TooShort` with the length of the input. -/
abbrev TooShortSpec (write : β → List UInt8) (k : UInt8)
    (arm : List UInt8 → List UInt8 → Outcome ParseError β) : Prop :=
  ArmSpec write (fun data => .TooShort data.length) k arm

theorem armSpec_amount {mk : UInt64 → β} (hV : ∀ v, write (mk v) = k :: u64.write v) :
    TooShortSpec write k (fun data rest => amount_arm data rest mk) :=
  armSpec_prefix fixedWidth_u64 onto_u64 hV (fun rest => amount_arm_eq_prefix _ rest mk)

theorem armSpec_checked {mk : UInt64 → UInt8 → β}
    (hV : ∀ v d, write (mk v d) = k :: (u64.write v ++ u8.write d)) :
    TooShortSpec write k (fun data rest => checked_arm data rest mk) :=
  armSpec_prefix (fixedWidth_u64.prod fixedWidth_u8) (onto_u64.prod fixedWidth_u64 onto_u8)
    (fun x => hV x.1 x.2) (fun rest => checked_arm_eq_prefix _ rest mk)

theorem armSpec_amounts2 {mk : UInt64 → UInt64 → β}
    (hV : ∀ a b, write (mk a b) = k :: (u64.write a ++ u64.write b)) :
    TooShortSpec write k (fun data rest => amounts2_arm data rest mk) :=
  armSpec_prefix (fixedWidth_u64.prod fixedWidth_u64) (onto_u64.prod fixedWidth_u64 onto_u64)
    (fun x => hV x.1 x.2) (fun rest => amounts2_arm_eq_prefix _ rest mk)

theorem armSpec_amounts3 {mk : UInt64 → UInt64 → UInt64 → β}
    (hV : ∀ a b c, write (mk a b c) = k :: (u64.write a ++ (u64.write b ++ u64.write c))) :
    TooShortSpec write k (fun data rest => amounts3_arm data rest mk) :=
  armSpec_prefix (fixedWidth_u64.prod (fixedWidth_u64.prod fixedWidth_u64))
    (onto_u64.prod fixedWidth_u64 (onto_u64.prod fixedWidth_u64 onto_u64))
    (fun x => hV x.1 x.2.1 x.2.2) (fun rest => amounts3_arm_eq_prefix _ rest mk)

end Promises

/-! ## A whole decoder -/

section Decoder

variable {table : List (UInt8 × (List UInt8 → List UInt8 → Outcome ParseError β))}
  (hnd : (table.map Prod.fst).Nodup)
  (fallback : UInt8 → List UInt8 → List UInt8 → Outcome ParseError β)
include hnd

/-- On the tag of a row, the decoder runs that row's arm. -/
theorem try_from_tag_of_mem {k : UInt8} {arm : List UInt8 → List UInt8 → Outcome ParseError β}
    (hmem : (k, arm) ∈ table) (rest : List UInt8) :
    try_from_tag (matchConst table fallback) (k :: rest) = arm (k :: rest) rest := by
  rw [try_from_tag_cons, matchConst_of_mem hnd _ hmem]

/-! What each shape of row reads back: its tag, then the encodings of its fields. -/

theorem try_from_tag_bare {k : UInt8} {i : β} (hmem : (k, fun _ _ => .ok i) ∈ table)
    (t : List UInt8) : try_from_tag (matchConst table fallback) (k :: t) = .ok i :=
  try_from_tag_of_mem hnd fallback hmem t

theorem try_from_tag_amount {k : UInt8} {mk : UInt64 → β}
    (hmem : (k, fun data rest => amount_arm data rest mk) ∈ table) (amount : UInt64)
    (t : List UInt8) :
    try_from_tag (matchConst table fallback) (k :: (u64.write amount ++ t)) = .ok (mk amount) :=
  (try_from_tag_of_mem hnd fallback hmem _).trans (amount_arm_write _ amount t mk)

theorem try_from_tag_checked {k : UInt8} {mk : UInt64 → UInt8 → β}
    (hmem : (k, fun data rest => checked_arm data rest mk) ∈ table) (amount : UInt64)
    (decimals : UInt8) (t : List UInt8) :
    try_from_tag (matchConst table fallback) (k :: ((u64.write amount ++ u8.write decimals) ++ t)) =
      .ok (mk amount decimals) :=
  (try_from_tag_of_mem hnd fallback hmem _).trans (checked_arm_write _ (amount, decimals) t mk)

theorem try_from_tag_amounts2 {k : UInt8} {mk : UInt64 → UInt64 → β}
    (hmem : (k, fun data rest => amounts2_arm data rest mk) ∈ table) (a b : UInt64)
    (t : List UInt8) :
    try_from_tag (matchConst table fallback) (k :: ((u64.write a ++ u64.write b) ++ t)) =
      .ok (mk a b) :=
  (try_from_tag_of_mem hnd fallback hmem _).trans (amounts2_arm_write _ (a, b) t mk)

theorem try_from_tag_amounts3 {k : UInt8} {mk : UInt64 → UInt64 → UInt64 → β}
    (hmem : (k, fun data rest => amounts3_arm data rest mk) ∈ table) (a b c : UInt64)
    (t : List UInt8) :
    try_from_tag (matchConst table fallback)
      (k :: ((u64.write a ++ (u64.write b ++ u64.write c)) ++ t)) = .ok (mk a b c) :=
  (try_from_tag_of_mem hnd fallback hmem _).trans (amounts3_arm_write _ (a, b, c) t mk)

end Decoder

/-- An SPL decoder whose `match` is a table of rows that keep their promise returns a layout
followed by the rest of the input, fails only with `TooShort` of the input's length or with
`SplUnknown` of a tag that no row has, and never panics. -/
theorem try_from_tag_spec
    {table : List (UInt8 × (List UInt8 → List UInt8 → Outcome ParseError β))}
    (hnd : (table.map Prod.fst).Nodup) {write : β → List UInt8}
    (hrows : ∀ k arm, (k, arm) ∈ table → TooShortSpec write k arm) (data : List UInt8) :
    OutcomeSpec write (fun _ _ => True)
      (fun e => e = .TooShort data.length ∨
        ∃ tag rest, data = tag :: rest ∧ tag ∉ table.map Prod.fst ∧ e = .SplUnknown tag)
      data (try_from_tag (matchConst table fun other _ _ => .err (.SplUnknown other)) data) := by
  cases data with
  | nil => exact OutcomeSpec.of_err (.inl rfl)
  | cons tag rest =>
    rw [try_from_tag_cons]
    refine (matchConst_arm_spec hnd hrows ParseError.SplUnknown tag rest).mono ?_
    rintro e (he | ⟨hk, he⟩)
    · exact .inl he
    · exact .inr ⟨tag, rest, rfl, hk, he⟩

/-- An SPL decoder over the tags `0, …, n - 1` whose rows keep their promise, and which reads
every layout back whatever follows it, returns an instruction exactly on the inputs that start
with its layout, fails only with `TooShort` of the input's length or with `SplUnknown` of a
first byte from `n` on, and never panics. -/
theorem try_from_tag_exact {n : ℕ} (hn : n ≤ 256)
    {table : List (UInt8 × (List UInt8 → List UInt8 → Outcome ParseError β))}
    (hkeys : table.map Prod.fst = (List.range n).map UInt8.ofNat) {write : β → List UInt8}
    (hrows : ∀ k arm, (k, arm) ∈ table → TooShortSpec write k arm)
    (hcomplete : ∀ r t, try_from_tag (matchConst table fun other _ _ => .err (.SplUnknown other))
      (write r ++ t) = .ok r) (data : List UInt8) :
    let dec := try_from_tag (matchConst table fun other _ _ => .err (.SplUnknown other))
    (∀ r, dec data = .ok r ↔ ∃ t, data = write r ++ t) ∧
      (∀ e, dec data = .err e → e = .TooShort data.length ∨
        ∃ tag rest, data = tag :: rest ∧ n ≤ tag.toNat ∧ e = .SplUnknown tag) ∧
      dec data ≠ .panic := by
  have hnd : (table.map Prod.fst).Nodup := by
    rw [hkeys]
    exact nodup_range_ofNat hn
  have hspec := try_from_tag_spec hnd hrows
  -- an SPL decoder reads a prefix: any bytes may follow the layout
  have hok : ∀ r, try_from_tag (matchConst table fun other _ _ => .err (.SplUnknown other)) data =
      .ok r ↔ ∃ t, data = write r ++ t := fun r => by
    simpa only [and_true] using OutcomeSpec.eq_ok_iff hspec (fun r t _ => hcomplete r t) data r
  refine ⟨hok, fun e he => ?_, (hspec data).ne_panic⟩
  rcases (hspec data).err_allowed e he with h | ⟨tag, rest, hd, hk, he⟩
  · exact .inl h
  · -- a tag that no row has is one from `n` on
    rw [hkeys, mem_range_ofNat_iff] at hk
    exact .inr ⟨tag, rest, hd, by omega, he⟩

end SolanaIdls.spl
