import SolanaIdls.Common

/-!
# The native programs' instructions

`unpack` of `src/native/system/instructions.rs`, `src/native/stake/instructions.rs` and
`src/native/vote/instructions.rs`. The three decoders are one code over three tables: the first
four bytes are the discriminator, matched against the little-endian `u32`s `0, 1, …, n - 1`, and
the rest is kept raw in a `RawPayload`; an unknown discriminator is reported padded with zeros to
eight bytes. That code is `try_from_u32` here, and each program's `try_from` is it applied to the
program's table.

Such a decoder loses nothing. It returns an instruction exactly on that instruction's layout, its
discriminator followed by its payload, and it reports `Unknown` exactly for a discriminator whose
`u32` is `n` or more (`DecodesExactly`, proved once in `try_from_u32_decodesExactly` from what each
table gives: distinct sequential discriminators, and rows that keep the payload whole).
-/

namespace SolanaIdls.native

open Borsh

/-- `RawPayload`, which each of the three programs declares alike: the bytes after the
discriminator. -/
structure RawPayload where
  data : List UInt8
  deriving DecidableEq

/-- The `Unknown` of a discriminator that no row has, `[disc[0], disc[1], disc[2], disc[3], 0, 0,
0, 0]`: its four bytes, then four zeros. -/
def unknown_disc (disc : List.Vector UInt8 4) : List.Vector UInt8 8 :=
  ⟨disc.toList ++ [0, 0, 0, 0], by simp⟩

/-- The `try_from` that the three programs share, over the rows `(discriminator, variant)` of their
`match disc`: below 4 bytes `TooShort`, and otherwise the variant of the first four bytes applied
to the rest, or `Unknown`. -/
def try_from_u32 {I : Type} (arms : List (List.Vector UInt8 4 × (RawPayload → I)))
    (data : List UInt8) : Outcome ParseError I := do
  if data.length < 4 then
    .err (.TooShort data.length)
  else
    let (disc, payload) ← Slice.split_at data 4
    -- `disc.try_into().unwrap()`
    let disc ← Outcome.expect (Slice.try_into disc 4)
    let raw : RawPayload := ⟨payload⟩
    match arms.lookup disc with
    | some variant => .ok (variant raw)
    | none => .err (.Unknown (unknown_disc disc))

/-- `k` as `n` little-endian bytes. -/
def leWord (n k : ℕ) : List.Vector UInt8 n := ⟨leBytes n k, length_leBytes n k⟩

/-- The discriminator of the `k`-th instruction: `k` as a little-endian `u32`. -/
def u32_disc (k : ℕ) : List.Vector UInt8 4 := leWord 4 k

/-! ## Discriminators numbered from zero -/

/-- Below `2^32`, the discriminator of `k` is read back as `k`. -/
theorem leValue_u32_disc {k : ℕ} (hk : k < 2 ^ 32) : leValue (u32_disc k).toList = k := by
  show leValue (leBytes 4 k) = k
  rw [leValue_leBytes, Nat.mod_eq_of_lt (by omega)]

/-- Four bytes are the discriminator of their little-endian value. -/
theorem u32_disc_leValue (disc : List.Vector UInt8 4) : u32_disc (leValue disc.toList) = disc := by
  apply List.Vector.toList_injective
  have h := Codec.leBytes_leValue disc.toList
  rw [disc.toList_length] at h
  exact h

/-- The discriminators of `0, …, n - 1` are the four-byte words whose value is below `n`. -/
theorem mem_u32_discs_iff {n : ℕ} (hn : n ≤ 2 ^ 32) (disc : List.Vector UInt8 4) :
    disc ∈ (List.range n).map u32_disc ↔ leValue disc.toList < n := by
  constructor
  · intro h
    obtain ⟨k, hk, rfl⟩ := List.mem_map.mp h
    have hkn : k < n := List.mem_range.mp hk
    rw [leValue_u32_disc (by omega)]
    exact hkn
  · intro h
    exact List.mem_map.mpr ⟨leValue disc.toList, List.mem_range.mpr h, u32_disc_leValue disc⟩

/-- Below `2^32` the discriminators of `0, …, n - 1` are distinct. -/
theorem nodup_u32_discs {n : ℕ} (hn : n ≤ 2 ^ 32) : ((List.range n).map u32_disc).Nodup := by
  refine List.Nodup.map_on ?_ List.nodup_range
  intro a ha b hb h
  have ha' : a < n := List.mem_range.mp ha
  have hb' : b < n := List.mem_range.mp hb
  rw [← leValue_u32_disc (k := a) (by omega), ← leValue_u32_disc (k := b) (by omega), h]

/-! ## The shared decoder -/

section Decoder

variable {I : Type} {arms : List (List.Vector UInt8 4 × (RawPayload → I))}

theorem try_from_u32_of_lt {data : List UInt8} (h : data.length < 4) :
    try_from_u32 arms data = .err (.TooShort data.length) := by
  simp [try_from_u32, h]

/-- From 4 bytes on, the decoder looks the first four up and keeps the rest raw. -/
theorem try_from_u32_append (disc : List.Vector UInt8 4) (payload : List UInt8) :
    try_from_u32 arms (disc.toList ++ payload) =
      match arms.lookup disc with
      | some variant => .ok (variant ⟨payload⟩)
      | none => .err (.Unknown (unknown_disc disc)) := by
  have hd : disc.toList.length = 4 := disc.toList_length
  have hlen : ¬(disc.toList ++ payload).length < 4 := by
    simp [hd]
  simp only [try_from_u32, if_neg hlen, Slice.split_at_append_of_length hd, Outcome.ok_bind,
    Slice.try_into_toList, Outcome.expect_some]

theorem try_from_u32_of_mem (hnd : (arms.map Prod.fst).Nodup) {k : List.Vector UInt8 4}
    {variant : RawPayload → I} (hmem : (k, variant) ∈ arms) (payload : List UInt8) :
    try_from_u32 arms (k.toList ++ payload) = .ok (variant ⟨payload⟩) := by
  rw [try_from_u32_append, lookup_of_mem_of_nodup hnd hmem]

theorem try_from_u32_of_not_mem {k : List.Vector UInt8 4} (hk : k ∉ arms.map Prod.fst)
    (payload : List UInt8) :
    try_from_u32 arms (k.toList ++ payload) = .err (.Unknown (unknown_disc k)) := by
  rw [try_from_u32_append, lookup_eq_none_of_not_mem hk]

/-- What a native decoder promises on an input: it returns an instruction exactly when the input
is that instruction's layout; it fails with `TooShort` below 4 bytes, or with `Unknown` of a
discriminator whose `u32` is `n` or more; and it never panics. -/
structure DecodesExactly (dec : List UInt8 → Outcome ParseError I) (write : I → List UInt8)
    (n : ℕ) (data : List UInt8) : Prop where
  ok_iff : ∀ i, dec data = .ok i ↔ data = write i
  err : ∀ e, dec data = .err e → (data.length < 4 ∧ e = .TooShort data.length) ∨
    ∃ disc payload, data = disc.toList ++ payload ∧ n ≤ leValue disc.toList ∧
      e = .Unknown (unknown_disc disc)
  ne_panic : dec data ≠ .panic

/-- The shared decoder over a table of the discriminators `0, …, n - 1`, whose rows keep the
payload whole and cover every instruction, decodes exactly. -/
theorem try_from_u32_decodesExactly {write : I → List UInt8} {n : ℕ} (hn : n ≤ 2 ^ 32)
    (hkeys : arms.map Prod.fst = (List.range n).map u32_disc)
    (hrows : ∀ k variant, (k, variant) ∈ arms →
      ∀ raw, write (variant raw) = k.toList ++ raw.data)
    (hcover : ∀ i, ∃ variant raw, variant ∈ arms.map Prod.snd ∧ variant raw = i)
    (data : List UInt8) : DecodesExactly (try_from_u32 arms) write n data := by
  have hnd : (arms.map Prod.fst).Nodup := by
    rw [hkeys]
    exact nodup_u32_discs hn
  -- every instruction is a row's variant, laid out behind that row's discriminator and read back
  have hcomplete : ∀ i, ∃ k payload, k ∈ arms.map Prod.fst ∧
      write i = k.toList ++ payload ∧ try_from_u32 arms (write i) = .ok i := by
    intro i
    obtain ⟨variant, raw, hv, rfl⟩ := hcover i
    obtain ⟨⟨k, variant⟩, hmem, rfl⟩ := List.mem_map.mp hv
    have hw := hrows k variant hmem raw
    refine ⟨k, raw.data, List.mem_map_of_mem hmem, hw, ?_⟩
    rw [hw, try_from_u32_of_mem hnd hmem]
  by_cases hlt : data.length < 4
  · -- too short for a discriminator, and so for every layout
    have hshort : try_from_u32 arms data = .err (.TooShort data.length) := try_from_u32_of_lt hlt
    refine ⟨fun i => ⟨fun h => ?_, fun hd => ?_⟩, fun e he => ?_, by rw [hshort]; simp⟩
    · rw [hshort] at h
      cases h
    · obtain ⟨k, payload, -, hw, -⟩ := hcomplete i
      have hge : 4 ≤ data.length := by
        rw [hd, hw, List.length_append, k.toList_length]
        omega
      omega
    · rw [hshort] at he
      cases he
      exact .inl ⟨hlt, rfl⟩
  obtain ⟨disc, payload, rfl⟩ := Slice.exists_vector_append (n := 4) (s := data) (by omega)
  by_cases hk : disc ∈ arms.map Prod.fst
  · -- a row's discriminator: its variant, with the payload whole
    obtain ⟨⟨k, variant⟩, hmem, rfl⟩ := List.mem_map.mp hk
    have hok := try_from_u32_of_mem hnd hmem payload
    refine ⟨fun i => ⟨fun h => ?_, fun hd => ?_⟩, fun e he => ?_, by rw [hok]; simp⟩
    · rw [hok] at h
      cases h
      exact (hrows k variant hmem ⟨payload⟩).symm
    · obtain ⟨-, -, -, -, hi⟩ := hcomplete i
      rw [hd]
      exact hi
    · rw [hok] at he
      cases he
  · -- no row: `Unknown`, of a discriminator whose value is past the last row's
    have herr := try_from_u32_of_not_mem hk payload
    refine ⟨fun i => ⟨fun h => ?_, fun hd => ?_⟩, fun e he => ?_, by rw [herr]; simp⟩
    · rw [herr] at h
      cases h
    · obtain ⟨-, -, -, -, hi⟩ := hcomplete i
      rw [← hd, herr] at hi
      cases hi
    · rw [herr] at he
      cases he
      have hge : n ≤ leValue disc.toList := by
        rw [hkeys, mem_u32_discs_iff hn] at hk
        omega
      exact .inr ⟨disc, payload, rfl, hge, rfl⟩

end Decoder


/-! ## `src/native/system/instructions.rs` -/

namespace system.instructions

def CREATE_ACCOUNT : List.Vector UInt8 4 := ⟨[0, 0, 0, 0], by decide⟩
def ASSIGN : List.Vector UInt8 4 := ⟨[1, 0, 0, 0], by decide⟩
def TRANSFER : List.Vector UInt8 4 := ⟨[2, 0, 0, 0], by decide⟩
def CREATE_ACCOUNT_WITH_SEED : List.Vector UInt8 4 := ⟨[3, 0, 0, 0], by decide⟩
def ADVANCE_NONCE_ACCOUNT : List.Vector UInt8 4 := ⟨[4, 0, 0, 0], by decide⟩
def WITHDRAW_NONCE_ACCOUNT : List.Vector UInt8 4 := ⟨[5, 0, 0, 0], by decide⟩
def INITIALIZE_NONCE_ACCOUNT : List.Vector UInt8 4 := ⟨[6, 0, 0, 0], by decide⟩
def AUTHORIZE_NONCE_ACCOUNT : List.Vector UInt8 4 := ⟨[7, 0, 0, 0], by decide⟩
def ALLOCATE : List.Vector UInt8 4 := ⟨[8, 0, 0, 0], by decide⟩
def ALLOCATE_WITH_SEED : List.Vector UInt8 4 := ⟨[9, 0, 0, 0], by decide⟩
def ASSIGN_WITH_SEED : List.Vector UInt8 4 := ⟨[10, 0, 0, 0], by decide⟩
def TRANSFER_WITH_SEED : List.Vector UInt8 4 := ⟨[11, 0, 0, 0], by decide⟩

/-- `SystemInstruction`. -/
inductive SystemInstruction where
  | CreateAccount (p : RawPayload)
  | Assign (p : RawPayload)
  | Transfer (p : RawPayload)
  | CreateAccountWithSeed (p : RawPayload)
  | AdvanceNonceAccount (p : RawPayload)
  | WithdrawNonceAccount (p : RawPayload)
  | InitializeNonceAccount (p : RawPayload)
  | AuthorizeNonceAccount (p : RawPayload)
  | Allocate (p : RawPayload)
  | AllocateWithSeed (p : RawPayload)
  | AssignWithSeed (p : RawPayload)
  | TransferWithSeed (p : RawPayload)
  deriving DecidableEq

/-- The rows of the `match disc` of `try_from`, in the source's order. -/
def arms : List (List.Vector UInt8 4 × (RawPayload → SystemInstruction)) :=
  [(CREATE_ACCOUNT, .CreateAccount), (ASSIGN, .Assign), (TRANSFER, .Transfer),
   (CREATE_ACCOUNT_WITH_SEED, .CreateAccountWithSeed),
   (ADVANCE_NONCE_ACCOUNT, .AdvanceNonceAccount), (WITHDRAW_NONCE_ACCOUNT, .WithdrawNonceAccount),
   (INITIALIZE_NONCE_ACCOUNT, .InitializeNonceAccount),
   (AUTHORIZE_NONCE_ACCOUNT, .AuthorizeNonceAccount), (ALLOCATE, .Allocate),
   (ALLOCATE_WITH_SEED, .AllocateWithSeed), (ASSIGN_WITH_SEED, .AssignWithSeed),
   (TRANSFER_WITH_SEED, .TransferWithSeed)]

/-- `SystemInstruction::try_from`. -/
def try_from (data : List UInt8) : Outcome ParseError SystemInstruction :=
  try_from_u32 arms data

/-- `unpack`, which forwards to `try_from`. -/
def unpack (data : List UInt8) : Outcome ParseError SystemInstruction :=
  try_from data

/-- An instruction's layout: its discriminator, then its payload. -/
def SystemInstruction.write : SystemInstruction → List UInt8
  | .CreateAccount p => CREATE_ACCOUNT.toList ++ p.data
  | .Assign p => ASSIGN.toList ++ p.data
  | .Transfer p => TRANSFER.toList ++ p.data
  | .CreateAccountWithSeed p => CREATE_ACCOUNT_WITH_SEED.toList ++ p.data
  | .AdvanceNonceAccount p => ADVANCE_NONCE_ACCOUNT.toList ++ p.data
  | .WithdrawNonceAccount p => WITHDRAW_NONCE_ACCOUNT.toList ++ p.data
  | .InitializeNonceAccount p => INITIALIZE_NONCE_ACCOUNT.toList ++ p.data
  | .AuthorizeNonceAccount p => AUTHORIZE_NONCE_ACCOUNT.toList ++ p.data
  | .Allocate p => ALLOCATE.toList ++ p.data
  | .AllocateWithSeed p => ALLOCATE_WITH_SEED.toList ++ p.data
  | .AssignWithSeed p => ASSIGN_WITH_SEED.toList ++ p.data
  | .TransferWithSeed p => TRANSFER_WITH_SEED.toList ++ p.data

theorem arms_keys : arms.map Prod.fst = (List.range 12).map u32_disc := by
  decide

/-- Every row keeps the payload whole behind its discriminator. -/
theorem arms_spec (k : List.Vector UInt8 4) (variant : RawPayload → SystemInstruction)
    (hmem : (k, variant) ∈ arms) (raw : RawPayload) :
    (variant raw).write = k.toList ++ raw.data := by
  simp only [arms, List.mem_cons, Prod.mk.injEq, List.not_mem_nil] at hmem
  repeat' rcases hmem with ⟨rfl, rfl⟩ | hmem
  all_goals rfl

/-- Every instruction is the variant of a row. -/
theorem arms_cover (i : SystemInstruction) :
    ∃ variant raw, variant ∈ arms.map Prod.snd ∧ variant raw = i := by
  cases i <;> exact ⟨_, _, by simp [arms], rfl⟩

end system.instructions

/-! ## `src/native/stake/instructions.rs` -/

namespace stake.instructions

def INITIALIZE : List.Vector UInt8 4 := ⟨[0, 0, 0, 0], by decide⟩
def AUTHORIZE : List.Vector UInt8 4 := ⟨[1, 0, 0, 0], by decide⟩
def DELEGATE_STAKE : List.Vector UInt8 4 := ⟨[2, 0, 0, 0], by decide⟩
def SPLIT : List.Vector UInt8 4 := ⟨[3, 0, 0, 0], by decide⟩
def WITHDRAW : List.Vector UInt8 4 := ⟨[4, 0, 0, 0], by decide⟩
def DEACTIVATE : List.Vector UInt8 4 := ⟨[5, 0, 0, 0], by decide⟩
def SET_LOCKUP : List.Vector UInt8 4 := ⟨[6, 0, 0, 0], by decide⟩
def MERGE : List.Vector UInt8 4 := ⟨[7, 0, 0, 0], by decide⟩
def AUTHORIZE_WITH_SEED : List.Vector UInt8 4 := ⟨[8, 0, 0, 0], by decide⟩
def INITIALIZE_CHECKED : List.Vector UInt8 4 := ⟨[9, 0, 0, 0], by decide⟩
def AUTHORIZE_CHECKED : List.Vector UInt8 4 := ⟨[10, 0, 0, 0], by decide⟩
def AUTHORIZE_CHECKED_WITH_SEED : List.Vector UInt8 4 := ⟨[11, 0, 0, 0], by decide⟩
def SET_LOCKUP_CHECKED : List.Vector UInt8 4 := ⟨[12, 0, 0, 0], by decide⟩

/-- `StakeInstruction`. -/
inductive StakeInstruction where
  | Initialize (p : RawPayload)
  | Authorize (p : RawPayload)
  | DelegateStake (p : RawPayload)
  | Split (p : RawPayload)
  | Withdraw (p : RawPayload)
  | Deactivate (p : RawPayload)
  | SetLockup (p : RawPayload)
  | Merge (p : RawPayload)
  | AuthorizeWithSeed (p : RawPayload)
  | InitializeChecked (p : RawPayload)
  | AuthorizeChecked (p : RawPayload)
  | AuthorizeCheckedWithSeed (p : RawPayload)
  | SetLockupChecked (p : RawPayload)
  deriving DecidableEq

/-- The rows of the `match disc` of `try_from`, in the source's order. -/
def arms : List (List.Vector UInt8 4 × (RawPayload → StakeInstruction)) :=
  [(INITIALIZE, .Initialize), (AUTHORIZE, .Authorize), (DELEGATE_STAKE, .DelegateStake),
   (SPLIT, .Split), (WITHDRAW, .Withdraw), (DEACTIVATE, .Deactivate), (SET_LOCKUP, .SetLockup),
   (MERGE, .Merge), (AUTHORIZE_WITH_SEED, .AuthorizeWithSeed),
   (INITIALIZE_CHECKED, .InitializeChecked), (AUTHORIZE_CHECKED, .AuthorizeChecked),
   (AUTHORIZE_CHECKED_WITH_SEED, .AuthorizeCheckedWithSeed),
   (SET_LOCKUP_CHECKED, .SetLockupChecked)]

/-- `StakeInstruction::try_from`. -/
def try_from (data : List UInt8) : Outcome ParseError StakeInstruction :=
  try_from_u32 arms data

/-- `unpack`, which forwards to `try_from`. -/
def unpack (data : List UInt8) : Outcome ParseError StakeInstruction :=
  try_from data

/-- An instruction's layout: its discriminator, then its payload. -/
def StakeInstruction.write : StakeInstruction → List UInt8
  | .Initialize p => INITIALIZE.toList ++ p.data
  | .Authorize p => AUTHORIZE.toList ++ p.data
  | .DelegateStake p => DELEGATE_STAKE.toList ++ p.data
  | .Split p => SPLIT.toList ++ p.data
  | .Withdraw p => WITHDRAW.toList ++ p.data
  | .Deactivate p => DEACTIVATE.toList ++ p.data
  | .SetLockup p => SET_LOCKUP.toList ++ p.data
  | .Merge p => MERGE.toList ++ p.data
  | .AuthorizeWithSeed p => AUTHORIZE_WITH_SEED.toList ++ p.data
  | .InitializeChecked p => INITIALIZE_CHECKED.toList ++ p.data
  | .AuthorizeChecked p => AUTHORIZE_CHECKED.toList ++ p.data
  | .AuthorizeCheckedWithSeed p => AUTHORIZE_CHECKED_WITH_SEED.toList ++ p.data
  | .SetLockupChecked p => SET_LOCKUP_CHECKED.toList ++ p.data

theorem arms_keys : arms.map Prod.fst = (List.range 13).map u32_disc := by
  decide

/-- Every row keeps the payload whole behind its discriminator. -/
theorem arms_spec (k : List.Vector UInt8 4) (variant : RawPayload → StakeInstruction)
    (hmem : (k, variant) ∈ arms) (raw : RawPayload) :
    (variant raw).write = k.toList ++ raw.data := by
  simp only [arms, List.mem_cons, Prod.mk.injEq, List.not_mem_nil] at hmem
  repeat' rcases hmem with ⟨rfl, rfl⟩ | hmem
  all_goals rfl

/-- Every instruction is the variant of a row. -/
theorem arms_cover (i : StakeInstruction) :
    ∃ variant raw, variant ∈ arms.map Prod.snd ∧ variant raw = i := by
  cases i <;> exact ⟨_, _, by simp [arms], rfl⟩

end stake.instructions

/-! ## `src/native/vote/instructions.rs` -/

namespace vote.instructions

def INITIALIZE : List.Vector UInt8 4 := ⟨[0, 0, 0, 0], by decide⟩
def AUTHORIZE : List.Vector UInt8 4 := ⟨[1, 0, 0, 0], by decide⟩
def VOTE : List.Vector UInt8 4 := ⟨[2, 0, 0, 0], by decide⟩
def WITHDRAW : List.Vector UInt8 4 := ⟨[3, 0, 0, 0], by decide⟩
def UPDATE_VALIDATOR_IDENTITY : List.Vector UInt8 4 := ⟨[4, 0, 0, 0], by decide⟩
def UPDATE_COMMISSION : List.Vector UInt8 4 := ⟨[5, 0, 0, 0], by decide⟩
def VOTE_SWITCH : List.Vector UInt8 4 := ⟨[6, 0, 0, 0], by decide⟩
def AUTHORIZE_CHECKED : List.Vector UInt8 4 := ⟨[7, 0, 0, 0], by decide⟩
def UPDATE_VOTE_STATE : List.Vector UInt8 4 := ⟨[8, 0, 0, 0], by decide⟩
def UPDATE_VOTE_STATE_SWITCH : List.Vector UInt8 4 := ⟨[9, 0, 0, 0], by decide⟩
def AUTHORIZE_WITH_SEED : List.Vector UInt8 4 := ⟨[10, 0, 0, 0], by decide⟩
def AUTHORIZE_CHECKED_WITH_SEED : List.Vector UInt8 4 := ⟨[11, 0, 0, 0], by decide⟩
def COMPACT_UPDATE_VOTE_STATE : List.Vector UInt8 4 := ⟨[12, 0, 0, 0], by decide⟩
def COMPACT_UPDATE_VOTE_STATE_SWITCH : List.Vector UInt8 4 := ⟨[13, 0, 0, 0], by decide⟩
def TOWER_SYNC : List.Vector UInt8 4 := ⟨[14, 0, 0, 0], by decide⟩
def TOWER_SYNC_SWITCH : List.Vector UInt8 4 := ⟨[15, 0, 0, 0], by decide⟩

/-- `VoteInstruction`. -/
inductive VoteInstruction where
  | Initialize (p : RawPayload)
  | Authorize (p : RawPayload)
  | Vote (p : RawPayload)
  | Withdraw (p : RawPayload)
  | UpdateValidatorIdentity (p : RawPayload)
  | UpdateCommission (p : RawPayload)
  | VoteSwitch (p : RawPayload)
  | AuthorizeChecked (p : RawPayload)
  | UpdateVoteState (p : RawPayload)
  | UpdateVoteStateSwitch (p : RawPayload)
  | AuthorizeWithSeed (p : RawPayload)
  | AuthorizeCheckedWithSeed (p : RawPayload)
  | CompactUpdateVoteState (p : RawPayload)
  | CompactUpdateVoteStateSwitch (p : RawPayload)
  | TowerSync (p : RawPayload)
  | TowerSyncSwitch (p : RawPayload)
  deriving DecidableEq

/-- The rows of the `match disc` of `try_from`, in the source's order. -/
def arms : List (List.Vector UInt8 4 × (RawPayload → VoteInstruction)) :=
  [(INITIALIZE, .Initialize), (AUTHORIZE, .Authorize), (VOTE, .Vote), (WITHDRAW, .Withdraw),
   (UPDATE_VALIDATOR_IDENTITY, .UpdateValidatorIdentity), (UPDATE_COMMISSION, .UpdateCommission),
   (VOTE_SWITCH, .VoteSwitch), (AUTHORIZE_CHECKED, .AuthorizeChecked),
   (UPDATE_VOTE_STATE, .UpdateVoteState), (UPDATE_VOTE_STATE_SWITCH, .UpdateVoteStateSwitch),
   (AUTHORIZE_WITH_SEED, .AuthorizeWithSeed),
   (AUTHORIZE_CHECKED_WITH_SEED, .AuthorizeCheckedWithSeed),
   (COMPACT_UPDATE_VOTE_STATE, .CompactUpdateVoteState),
   (COMPACT_UPDATE_VOTE_STATE_SWITCH, .CompactUpdateVoteStateSwitch), (TOWER_SYNC, .TowerSync),
   (TOWER_SYNC_SWITCH, .TowerSyncSwitch)]

/-- `VoteInstruction::try_from`. -/
def try_from (data : List UInt8) : Outcome ParseError VoteInstruction :=
  try_from_u32 arms data

/-- `unpack`, which forwards to `try_from`. -/
def unpack (data : List UInt8) : Outcome ParseError VoteInstruction :=
  try_from data

/-- An instruction's layout: its discriminator, then its payload. -/
def VoteInstruction.write : VoteInstruction → List UInt8
  | .Initialize p => INITIALIZE.toList ++ p.data
  | .Authorize p => AUTHORIZE.toList ++ p.data
  | .Vote p => VOTE.toList ++ p.data
  | .Withdraw p => WITHDRAW.toList ++ p.data
  | .UpdateValidatorIdentity p => UPDATE_VALIDATOR_IDENTITY.toList ++ p.data
  | .UpdateCommission p => UPDATE_COMMISSION.toList ++ p.data
  | .VoteSwitch p => VOTE_SWITCH.toList ++ p.data
  | .AuthorizeChecked p => AUTHORIZE_CHECKED.toList ++ p.data
  | .UpdateVoteState p => UPDATE_VOTE_STATE.toList ++ p.data
  | .UpdateVoteStateSwitch p => UPDATE_VOTE_STATE_SWITCH.toList ++ p.data
  | .AuthorizeWithSeed p => AUTHORIZE_WITH_SEED.toList ++ p.data
  | .AuthorizeCheckedWithSeed p => AUTHORIZE_CHECKED_WITH_SEED.toList ++ p.data
  | .CompactUpdateVoteState p => COMPACT_UPDATE_VOTE_STATE.toList ++ p.data
  | .CompactUpdateVoteStateSwitch p => COMPACT_UPDATE_VOTE_STATE_SWITCH.toList ++ p.data
  | .TowerSync p => TOWER_SYNC.toList ++ p.data
  | .TowerSyncSwitch p => TOWER_SYNC_SWITCH.toList ++ p.data

theorem arms_keys : arms.map Prod.fst = (List.range 16).map u32_disc := by
  decide

/-- Every row keeps the payload whole behind its discriminator. -/
theorem arms_spec (k : List.Vector UInt8 4) (variant : RawPayload → VoteInstruction)
    (hmem : (k, variant) ∈ arms) (raw : RawPayload) :
    (variant raw).write = k.toList ++ raw.data := by
  simp only [arms, List.mem_cons, Prod.mk.injEq, List.not_mem_nil] at hmem
  repeat' rcases hmem with ⟨rfl, rfl⟩ | hmem
  all_goals rfl

/-- Every instruction is the variant of a row. -/
theorem arms_cover (i : VoteInstruction) :
    ∃ variant raw, variant ∈ arms.map Prod.snd ∧ variant raw = i := by
  cases i <;> exact ⟨_, _, by simp [arms], rfl⟩

end vote.instructions

/-- The three native decoders decode exactly: each returns an instruction exactly on its layout,
fails only with `TooShort` below 4 bytes or `Unknown` of a discriminator past its last
instruction's, and never panics. -/
theorem native_unpack_exact (data : List UInt8) :
    DecodesExactly system.instructions.unpack system.instructions.SystemInstruction.write 12
        data ∧
      DecodesExactly stake.instructions.unpack stake.instructions.StakeInstruction.write 13 data ∧
      DecodesExactly vote.instructions.unpack vote.instructions.VoteInstruction.write 16 data :=
  ⟨try_from_u32_decodesExactly (by decide) system.instructions.arms_keys
      system.instructions.arms_spec system.instructions.arms_cover data,
    try_from_u32_decodesExactly (by decide) stake.instructions.arms_keys
      stake.instructions.arms_spec stake.instructions.arms_cover data,
    try_from_u32_decodesExactly (by decide) vote.instructions.arms_keys
      vote.instructions.arms_spec vote.instructions.arms_cover data⟩

end SolanaIdls.native
