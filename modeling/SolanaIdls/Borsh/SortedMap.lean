import SolanaIdls.Borsh.Compound
import Mathlib.Data.String.Basic

/-!
# Maps as sorted entry lists, and their Borsh codec

A finite map is represented by its entries sorted by key, keys strictly increasing. Two maps with
the same entries are then the same value, as two `HashMap`s with the same entries are equal in
Rust, whatever order they were built in. `insert` replaces the entry of an equal key, and `ofList`
inserts a list of pairs in order, a later pair replacing an earlier one of the same key: this is
`HashMap::from_iter`, which `collect` calls.

Borsh writes a `HashMap<K, V>` as a `Vec<(K, V)>` of its entries sorted by key, and reads it back
as such a vector collected into a map. With the entries already sorted, the writer is the vector
writer of `entries`, and the reader collects with `ofList`; the round trip is `ofList_entries`,
which rests on one fact: inserting a key above every key of a sorted list appends it
(`insertEntry_of_lt`).
-/

namespace SolanaIdls

/-- A finite map as its entries sorted by key, each key once. -/
@[ext]
structure SortedMap (κ ν : Type) [LinearOrder κ] where
  /-- The entries in increasing order of key. -/
  entries : List (κ × ν)
  /-- Keys strictly increase along the entries. -/
  sorted : entries.Pairwise (fun a b => a.1 < b.1)

namespace SortedMap

variable {κ ν : Type} [LinearOrder κ]

instance [DecidableEq κ] [DecidableEq ν] : DecidableEq (SortedMap κ ν) := fun m m' =>
  decidable_of_iff (m.entries = m'.entries) SortedMap.ext_iff.symm

/-- The map with no entries. -/
def empty : SortedMap κ ν := ⟨[], .nil⟩

/-- Insertion into a sorted entry list: before the first larger key, replacing an equal one. -/
def insertEntry (k : κ) (v : ν) : List (κ × ν) → List (κ × ν)
  | [] => [(k, v)]
  | (k', v') :: es =>
    if k < k' then (k, v) :: (k', v') :: es
    else if k = k' then (k, v) :: es
    else (k', v') :: insertEntry k v es

/-- Every key after an insertion is the inserted key or a key from before. -/
theorem mem_insertEntry {k : κ} {v : ν} {es : List (κ × ν)} {e : κ × ν}
    (h : e ∈ insertEntry k v es) : e.1 = k ∨ ∃ e' ∈ es, e'.1 = e.1 := by
  induction es with
  | nil => simp_all [insertEntry]
  | cons e' es ih =>
    simp only [insertEntry] at h
    split_ifs at h with hlt heq
    · rcases List.mem_cons.mp h with rfl | h
      · exact .inl rfl
      · exact .inr ⟨e, h, rfl⟩
    · rcases List.mem_cons.mp h with rfl | h
      · exact .inl rfl
      · exact .inr ⟨e, List.mem_cons_of_mem _ h, rfl⟩
    · rcases List.mem_cons.mp h with he | h
      · exact .inr ⟨e', List.mem_cons_self, by rw [he]⟩
      · rcases ih h with h | ⟨e'', he'', hk⟩
        · exact .inl h
        · exact .inr ⟨e'', List.mem_cons_of_mem _ he'', hk⟩

/-- Insertion keeps the keys strictly increasing. -/
theorem sorted_insertEntry (k : κ) (v : ν) {es : List (κ × ν)}
    (h : es.Pairwise (fun a b => a.1 < b.1)) :
    (insertEntry k v es).Pairwise (fun a b => a.1 < b.1) := by
  induction es with
  | nil => simp [insertEntry]
  | cons e es ih =>
    obtain ⟨k', v'⟩ := e
    rw [List.pairwise_cons] at h
    simp only [insertEntry]
    split_ifs with hlt heq
    · -- A key below the head goes in front of it.
      refine List.Pairwise.cons ?_ (List.Pairwise.cons h.1 h.2)
      intro e he
      rcases List.mem_cons.mp he with rfl | he
      · exact hlt
      · exact lt_trans hlt (h.1 e he)
    · -- An equal key replaces the head.
      subst heq
      exact List.Pairwise.cons h.1 h.2
    · -- A key above the head goes into the tail.
      refine List.Pairwise.cons ?_ (ih h.2)
      intro e he
      rcases mem_insertEntry he with hk | ⟨e', he', hk⟩
      · rw [hk]
        exact lt_of_le_of_ne (not_lt.mp hlt) (Ne.symm heq)
      · rw [← hk]
        exact h.1 e' he'

/-- Inserting a key above every key of a sorted list appends it. -/
theorem insertEntry_of_lt {k : κ} {v : ν} {es : List (κ × ν)} (h : ∀ e ∈ es, e.1 < k) :
    insertEntry k v es = es ++ [(k, v)] := by
  induction es with
  | nil => rfl
  | cons e es ih =>
    obtain ⟨k', v'⟩ := e
    have hk : k' < k := h _ List.mem_cons_self
    simp only [insertEntry, not_lt_of_gt hk, if_false, ne_of_gt hk, List.cons_append,
      ih (fun e he => h e (List.mem_cons_of_mem _ he))]

/-- `HashMap::insert`. -/
def insert (m : SortedMap κ ν) (k : κ) (v : ν) : SortedMap κ ν :=
  ⟨insertEntry k v m.entries, sorted_insertEntry k v m.sorted⟩

/-- `HashMap::from_iter`: the pairs inserted in order, a later pair replacing an earlier one of the
same key. -/
def ofList (ps : List (κ × ν)) : SortedMap κ ν :=
  ps.foldl (fun m p => m.insert p.1 p.2) empty

/-- Inserting the entries of a sorted list, after a map whose keys are all below them, appends
them. -/
theorem foldl_insert_of_sorted (es : List (κ × ν)) (hs : es.Pairwise (fun a b => a.1 < b.1))
    (acc : SortedMap κ ν) (hacc : ∀ a ∈ acc.entries, ∀ e ∈ es, a.1 < e.1) :
    (es.foldl (fun m p => m.insert p.1 p.2) acc).entries = acc.entries ++ es := by
  induction es generalizing acc with
  | nil => simp
  | cons e es ih =>
    rw [List.pairwise_cons] at hs
    have happ : (acc.insert e.1 e.2).entries = acc.entries ++ [e] :=
      insertEntry_of_lt fun a ha => hacc a ha e List.mem_cons_self
    have hacc' : ∀ a ∈ (acc.insert e.1 e.2).entries, ∀ e' ∈ es, a.1 < e'.1 := by
      intro a ha e' he'
      rw [happ] at ha
      rcases List.mem_append.mp ha with ha | ha
      · exact hacc a ha e' (List.mem_cons_of_mem _ he')
      · rw [List.mem_singleton.mp ha]
        exact hs.1 e' he'
    rw [List.foldl_cons, ih hs.2 _ hacc', happ, List.append_assoc, List.singleton_append]

/-- Collecting the entries of a map gives the map back. -/
theorem ofList_entries (m : SortedMap κ ν) : ofList m.entries = m := by
  ext1
  exact foldl_insert_of_sorted m.entries m.sorted empty (by simp [empty])

end SortedMap

namespace Borsh.Codec

variable {κ ν : Type} [LinearOrder κ]

/-- `HashMap<K, V>`: the entries sorted by key, written as a `Vec<(K, V)>`, and read back as one
collected into a map. Keys are sorted by `κ`'s order; for `String` keys that is the order of code
points, which is the order of UTF-8 bytes in which Rust compares them. -/
def hashMap (ck : Codec κ) (cv : Codec ν) : Codec (SortedMap κ ν) :=
  (ck.prod cv).vec.map SortedMap.ofList SortedMap.entries SortedMap.ofList_entries

end Borsh.Codec

end SolanaIdls
