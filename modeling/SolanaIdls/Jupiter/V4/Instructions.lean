import SolanaIdls.Common

/-!
# Jupiter v4 instructions

`jupiter::v4::instructions::unpack` of `src/jupiter/v4/instructions.rs`: Anchor's 8-byte
discriminator, and for `ROUTE`, the only one it decodes, the Borsh payload of a
`RouteInstruction`, read exactly. A route is a small grammar of derived Borsh types: a `SwapLeg`
is a chain of `SwapLegDeeper`s, a split of `SplitLeg`s each with its percentage, or one `Swap`;
a `SwapLegDeeper` is the same one level down, over `SwapLegSwap`s; and a `Swap` is one of 29
AMMs, some with a direction. Each enum is its variant index and then its variant's fields, read
through a table of variants (`Codec.enum` over `Swap.variants` and its siblings).

Every enum of the grammar is canonical and reads only values that fit, from its rows
(`Canonical.enum_of_table`), so the decoder returns a route exactly on the discriminator
followed by the route's encoding, with every `Vec` of the route shorter than `2^32`
(`jupiter_v4_unpack_spec`). The 34 other variants of `JupiterV4Instruction` and their payload
structs are never produced by the decoder and are left out.
-/

namespace SolanaIdls.jupiter.v4.instructions

open Borsh Borsh.Codec

/-! ## The route grammar -/

/-- `Side`. -/
inductive Side where
  | Bid
  | Ask
  deriving DecidableEq

def Side.borsh : Codec Side :=
  unitEnum (fun | .Bid => 0 | .Ask => 1) (fun t => [((0 : UInt8), Side.Bid), (1, .Ask)].lookup t)
    (by intro x; cases x <;> rfl)

/-- `Swap`: the AMM of a leg, with its direction where the AMM needs one. -/
inductive Swap where
  | Saber
  | SaberAddDecimalsDeposit
  | SaberAddDecimalsWithdraw
  | TokenSwap
  | Sencha
  | Step
  | Cropper
  | Raydium
  | Crema (a_to_b : Bool)
  | Lifinity
  | Mercurial
  | Cykura
  | Serum (side : Side)
  | MarinadeDeposit
  | MarinadeUnstake
  | Aldrin (side : Side)
  | AldrinV2 (side : Side)
  | Whirlpool (a_to_b : Bool)
  | Invariant (x_to_y : Bool)
  | Meteora
  | GooseFX
  | DeltaFi (stable : Bool)
  | Balansol
  | MarcoPolo (x_to_y : Bool)
  | Dradex (side : Side)
  | LifinityV2
  | RaydiumClmm
  | Openbook (side : Side)
  | Phoenix (side : Side)
  deriving DecidableEq

/-- The index byte of each variant, its position in the declaration. -/
def Swap.index : Swap → UInt8
  | .Saber => 0
  | .SaberAddDecimalsDeposit => 1
  | .SaberAddDecimalsWithdraw => 2
  | .TokenSwap => 3
  | .Sencha => 4
  | .Step => 5
  | .Cropper => 6
  | .Raydium => 7
  | .Crema _ => 8
  | .Lifinity => 9
  | .Mercurial => 10
  | .Cykura => 11
  | .Serum _ => 12
  | .MarinadeDeposit => 13
  | .MarinadeUnstake => 14
  | .Aldrin _ => 15
  | .AldrinV2 _ => 16
  | .Whirlpool _ => 17
  | .Invariant _ => 18
  | .Meteora => 19
  | .GooseFX => 20
  | .DeltaFi _ => 21
  | .Balansol => 22
  | .MarcoPolo _ => 23
  | .Dradex _ => 24
  | .LifinityV2 => 25
  | .RaydiumClmm => 26
  | .Openbook _ => 27
  | .Phoenix _ => 28

/-- The fields of each variant. -/
def Swap.body : Swap → List UInt8
  | .Crema a_to_b => bool.write a_to_b
  | .Serum side => Side.borsh.write side
  | .Aldrin side => Side.borsh.write side
  | .AldrinV2 side => Side.borsh.write side
  | .Whirlpool a_to_b => bool.write a_to_b
  | .Invariant x_to_y => bool.write x_to_y
  | .DeltaFi stable => bool.write stable
  | .MarcoPolo x_to_y => bool.write x_to_y
  | .Dradex side => Side.borsh.write side
  | .Openbook side => Side.borsh.write side
  | .Phoenix side => Side.borsh.write side
  | _ => []

/-- The readers of the variants by index: the `match` on the index byte of the derived
`BorshDeserialize`. -/
def Swap.variants : List (UInt8 × (List UInt8 → Except BorshError (Swap × List UInt8))) :=
  [(0, fun rest => .ok (.Saber, rest)),
   (1, fun rest => .ok (.SaberAddDecimalsDeposit, rest)),
   (2, fun rest => .ok (.SaberAddDecimalsWithdraw, rest)),
   (3, fun rest => .ok (.TokenSwap, rest)),
   (4, fun rest => .ok (.Sencha, rest)),
   (5, fun rest => .ok (.Step, rest)),
   (6, fun rest => .ok (.Cropper, rest)),
   (7, fun rest => .ok (.Raydium, rest)),
   (8, bool.readAs .Crema),
   (9, fun rest => .ok (.Lifinity, rest)),
   (10, fun rest => .ok (.Mercurial, rest)),
   (11, fun rest => .ok (.Cykura, rest)),
   (12, Side.borsh.readAs .Serum),
   (13, fun rest => .ok (.MarinadeDeposit, rest)),
   (14, fun rest => .ok (.MarinadeUnstake, rest)),
   (15, Side.borsh.readAs .Aldrin),
   (16, Side.borsh.readAs .AldrinV2),
   (17, bool.readAs .Whirlpool),
   (18, bool.readAs .Invariant),
   (19, fun rest => .ok (.Meteora, rest)),
   (20, fun rest => .ok (.GooseFX, rest)),
   (21, bool.readAs .DeltaFi),
   (22, fun rest => .ok (.Balansol, rest)),
   (23, bool.readAs .MarcoPolo),
   (24, Side.borsh.readAs .Dradex),
   (25, fun rest => .ok (.LifinityV2, rest)),
   (26, fun rest => .ok (.RaydiumClmm, rest)),
   (27, Side.borsh.readAs .Openbook),
   (28, Side.borsh.readAs .Phoenix)]

def Swap.borsh : Codec Swap :=
  enum Swap.index Swap.body (fun _ => true) (fun t => Swap.variants.lookup t)
    (by
      intro x _
      cases x <;> first
        | exact ⟨_, rfl, fun _ => rfl⟩
        | exact ⟨_, rfl, readAs_write _ _ rfl⟩)

/-- `SwapLegSwap`. -/
inductive SwapLegSwap where
  | PlaceholderOne
  | PlaceholderTwo
  | Swap (swap : Swap)
  deriving DecidableEq

def SwapLegSwap.borsh : Codec SwapLegSwap :=
  enum (fun | .PlaceholderOne => 0 | .PlaceholderTwo => 1 | .Swap _ => 2)
    (fun | .Swap swap => Swap.borsh.write swap | _ => [])
    (fun _ => true)
    (fun t => [((0 : UInt8), fun rest => .ok (SwapLegSwap.PlaceholderOne, rest)),
      (1, fun rest => .ok (.PlaceholderTwo, rest)), (2, Swap.borsh.readAs .Swap)].lookup t)
    (by
      rintro (_ | _ | swap) -
      · exact ⟨_, rfl, fun _ => rfl⟩
      · exact ⟨_, rfl, fun _ => rfl⟩
      · exact ⟨_, rfl, readAs_write _ _ rfl⟩)

/-- `SplitLegDeeper`. -/
structure SplitLegDeeper where
  percent : UInt8
  swap_leg : SwapLegSwap
  deriving DecidableEq

def SplitLegDeeper.borsh : Codec SplitLegDeeper :=
  (u8.prod SwapLegSwap.borsh).map (fun (a, b) => ⟨a, b⟩) (fun x => (x.percent, x.swap_leg))
    fun _ => rfl

/-- `SwapLegDeeper`. -/
inductive SwapLegDeeper where
  | Chain (swap_legs : List SwapLegSwap)
  | Split (split_legs : List SplitLegDeeper)
  | Swap (swap : Swap)
  deriving DecidableEq

def SwapLegDeeper.borsh : Codec SwapLegDeeper :=
  enum (fun | .Chain _ => 0 | .Split _ => 1 | .Swap _ => 2)
    (fun
      | .Chain swap_legs => SwapLegSwap.borsh.vec.write swap_legs
      | .Split split_legs => SplitLegDeeper.borsh.vec.write split_legs
      | .Swap swap => Swap.borsh.write swap)
    (fun
      | .Chain swap_legs => SwapLegSwap.borsh.vec.fits swap_legs
      | .Split split_legs => SplitLegDeeper.borsh.vec.fits split_legs
      | .Swap _ => true)
    (fun t => [((0 : UInt8), SwapLegSwap.borsh.vec.readAs SwapLegDeeper.Chain),
      (1, SplitLegDeeper.borsh.vec.readAs .Split), (2, Swap.borsh.readAs .Swap)].lookup t)
    (by
      rintro (swap_legs | split_legs | swap) h
      · exact ⟨_, rfl, readAs_write _ _ h⟩
      · exact ⟨_, rfl, readAs_write _ _ h⟩
      · exact ⟨_, rfl, readAs_write _ _ rfl⟩)

/-- `SplitLeg`. -/
structure SplitLeg where
  percent : UInt8
  swap_leg : SwapLegDeeper
  deriving DecidableEq

def SplitLeg.borsh : Codec SplitLeg :=
  (u8.prod SwapLegDeeper.borsh).map (fun (a, b) => ⟨a, b⟩) (fun x => (x.percent, x.swap_leg))
    fun _ => rfl

/-- `SwapLeg`. -/
inductive SwapLeg where
  | Chain (swap_legs : List SwapLegDeeper)
  | Split (split_legs : List SplitLeg)
  | Swap (swap : Swap)
  deriving DecidableEq

def SwapLeg.borsh : Codec SwapLeg :=
  enum (fun | .Chain _ => 0 | .Split _ => 1 | .Swap _ => 2)
    (fun
      | .Chain swap_legs => SwapLegDeeper.borsh.vec.write swap_legs
      | .Split split_legs => SplitLeg.borsh.vec.write split_legs
      | .Swap swap => Swap.borsh.write swap)
    (fun
      | .Chain swap_legs => SwapLegDeeper.borsh.vec.fits swap_legs
      | .Split split_legs => SplitLeg.borsh.vec.fits split_legs
      | .Swap _ => true)
    (fun t => [((0 : UInt8), SwapLegDeeper.borsh.vec.readAs SwapLeg.Chain),
      (1, SplitLeg.borsh.vec.readAs .Split), (2, Swap.borsh.readAs .Swap)].lookup t)
    (by
      rintro (swap_legs | split_legs | swap) h
      · exact ⟨_, rfl, readAs_write _ _ h⟩
      · exact ⟨_, rfl, readAs_write _ _ h⟩
      · exact ⟨_, rfl, readAs_write _ _ rfl⟩)

/-- `RouteInstruction`. -/
structure RouteInstruction where
  swap_leg : SwapLeg
  in_amount : UInt64
  quoted_out_amount : UInt64
  slippage_bps : UInt16
  platform_fee_bps : UInt8
  deriving DecidableEq

def RouteInstruction.borsh : Codec RouteInstruction :=
  (SwapLeg.borsh.prod <| u64.prod <| u64.prod <| u16.prod u8).map
    (fun (a, b, c, d, e) => ⟨a, b, c, d, e⟩)
    (fun x => (x.swap_leg, x.in_amount, x.quoted_out_amount, x.slippage_bps, x.platform_fee_bps))
    fun _ => rfl

/-! ## Every codec of the grammar is canonical and reads only values that fit -/

theorem Side.canonical_borsh : Side.borsh.Canonical := by
  refine Canonical.unitEnum fun t x h => ?_
  have hmem := mem_of_lookup_eq_some h
  simp only [List.mem_cons, Prod.mk.injEq, List.not_mem_nil, or_false] at hmem
  rcases hmem with ⟨rfl, rfl⟩ | ⟨rfl, rfl⟩ <;> rfl

theorem Swap.canonical_borsh : Swap.borsh.Canonical := by
  refine Canonical.enum_of_table fun t r hmem => ?_
  simp only [Swap.variants, List.mem_cons, Prod.mk.injEq, List.not_mem_nil] at hmem
  -- one goal per variant; the list's end is `False`
  repeat' rcases hmem with ⟨rfl, rfl⟩ | hmem
  all_goals first
    | exact variantReads_unit rfl rfl
    | exact variantReads_readAs canonical_bool (fun _ => rfl) (fun _ => rfl)
    | exact variantReads_readAs Side.canonical_borsh (fun _ => rfl) (fun _ => rfl)

/-- Nothing in a `Swap` has a length prefix. -/
theorem Swap.readsFit_borsh : Swap.borsh.ReadsFit := ⟨fun _ => rfl⟩

theorem SwapLegSwap.canonical_borsh : SwapLegSwap.borsh.Canonical := by
  refine Canonical.enum_of_table fun t r hmem => ?_
  simp only [List.mem_cons, Prod.mk.injEq, List.not_mem_nil, or_false] at hmem
  rcases hmem with ⟨rfl, rfl⟩ | ⟨rfl, rfl⟩ | ⟨rfl, rfl⟩
  · exact variantReads_unit rfl rfl
  · exact variantReads_unit rfl rfl
  · exact variantReads_readAs Swap.canonical_borsh (fun _ => rfl) (fun _ => rfl)

theorem SwapLegSwap.readsFit_borsh : SwapLegSwap.borsh.ReadsFit := ⟨fun _ => rfl⟩

theorem SplitLegDeeper.canonical_borsh : SplitLegDeeper.borsh.Canonical :=
  (canonical_u8.prod SwapLegSwap.canonical_borsh).map _ _ _ fun _ => rfl

theorem SplitLegDeeper.readsFit_borsh : SplitLegDeeper.borsh.ReadsFit :=
  (fixedWidth_u8.readsFit.prod SwapLegSwap.readsFit_borsh).map _ _ _ fun _ => rfl

theorem SwapLegDeeper.canonical_borsh : SwapLegDeeper.borsh.Canonical := by
  refine Canonical.enum_of_table fun t r hmem => ?_
  simp only [List.mem_cons, Prod.mk.injEq, List.not_mem_nil, or_false] at hmem
  rcases hmem with ⟨rfl, rfl⟩ | ⟨rfl, rfl⟩ | ⟨rfl, rfl⟩
  · exact variantReads_readAs SwapLegSwap.canonical_borsh.vec (fun _ => rfl) (fun _ => rfl)
  · exact variantReads_readAs SplitLegDeeper.canonical_borsh.vec (fun _ => rfl) (fun _ => rfl)
  · exact variantReads_readAs Swap.canonical_borsh (fun _ => rfl) (fun _ => rfl)

theorem SwapLegDeeper.readsFit_borsh : SwapLegDeeper.borsh.ReadsFit := by
  refine ReadsFit.enum_of_table fun t r hmem => ?_
  simp only [List.mem_cons, Prod.mk.injEq, List.not_mem_nil, or_false] at hmem
  rcases hmem with ⟨rfl, rfl⟩ | ⟨rfl, rfl⟩ | ⟨rfl, rfl⟩
  · exact variantFits_readAs SwapLegSwap.readsFit_borsh.vec fun _ => rfl
  · exact variantFits_readAs SplitLegDeeper.readsFit_borsh.vec fun _ => rfl
  · exact variantFits_readAs Swap.readsFit_borsh fun _ => rfl

theorem SplitLeg.canonical_borsh : SplitLeg.borsh.Canonical :=
  (canonical_u8.prod SwapLegDeeper.canonical_borsh).map _ _ _ fun _ => rfl

theorem SplitLeg.readsFit_borsh : SplitLeg.borsh.ReadsFit :=
  (fixedWidth_u8.readsFit.prod SwapLegDeeper.readsFit_borsh).map _ _ _ fun _ => rfl

theorem SwapLeg.canonical_borsh : SwapLeg.borsh.Canonical := by
  refine Canonical.enum_of_table fun t r hmem => ?_
  simp only [List.mem_cons, Prod.mk.injEq, List.not_mem_nil, or_false] at hmem
  rcases hmem with ⟨rfl, rfl⟩ | ⟨rfl, rfl⟩ | ⟨rfl, rfl⟩
  · exact variantReads_readAs SwapLegDeeper.canonical_borsh.vec (fun _ => rfl) (fun _ => rfl)
  · exact variantReads_readAs SplitLeg.canonical_borsh.vec (fun _ => rfl) (fun _ => rfl)
  · exact variantReads_readAs Swap.canonical_borsh (fun _ => rfl) (fun _ => rfl)

theorem SwapLeg.readsFit_borsh : SwapLeg.borsh.ReadsFit := by
  refine ReadsFit.enum_of_table fun t r hmem => ?_
  simp only [List.mem_cons, Prod.mk.injEq, List.not_mem_nil, or_false] at hmem
  rcases hmem with ⟨rfl, rfl⟩ | ⟨rfl, rfl⟩ | ⟨rfl, rfl⟩
  · exact variantFits_readAs SwapLegDeeper.readsFit_borsh.vec fun _ => rfl
  · exact variantFits_readAs SplitLeg.readsFit_borsh.vec fun _ => rfl
  · exact variantFits_readAs Swap.readsFit_borsh fun _ => rfl

theorem RouteInstruction.canonical_borsh : RouteInstruction.borsh.Canonical :=
  (SwapLeg.canonical_borsh.prod <| canonical_u64.prod <| canonical_u64.prod <|
    canonical_u16.prod canonical_u8).map _ _ _ fun _ => rfl

theorem RouteInstruction.readsFit_borsh : RouteInstruction.borsh.ReadsFit :=
  (SwapLeg.readsFit_borsh.prod <| fixedWidth_u64.readsFit.prod <| fixedWidth_u64.readsFit.prod <|
    fixedWidth_u16.readsFit.prod fixedWidth_u8.readsFit).map _ _ _ fun _ => rfl

/-! ## The decoder -/

def ROUTE : List.Vector UInt8 8 := ⟨[229, 23, 203, 151, 122, 227, 173, 42], rfl⟩

/-- `JupiterV4Instruction`, of which the decoder produces only `Route`. -/
inductive JupiterV4Instruction where
  | Route (route : RouteInstruction)
  deriving DecidableEq

/-- The `match discriminator` of `try_from`: `ROUTE`, or `Unknown`. -/
def decode_payload (discriminator : List.Vector UInt8 8) (payload : List UInt8) :
    Outcome ParseError JupiterV4Instruction :=
  matchConst [(ROUTE, decode_arm RouteInstruction.borsh .Route)]
    (fun other _ => .err (.Unknown other)) discriminator payload

/-- `JupiterV4Instruction::try_from`. -/
def try_from (data : List UInt8) : Outcome ParseError JupiterV4Instruction :=
  anchor_try_from decode_payload data

/-- `unpack`, which forwards to `try_from`. -/
def unpack (data : List UInt8) : Outcome ParseError JupiterV4Instruction :=
  try_from data

theorem unpack_route (payload : List UInt8) :
    unpack (ROUTE.toList ++ payload) = decode_arm RouteInstruction.borsh .Route payload := by
  have hmem : (ROUTE, decode_arm RouteInstruction.borsh JupiterV4Instruction.Route) ∈
      [(ROUTE, decode_arm RouteInstruction.borsh JupiterV4Instruction.Route)] :=
    List.mem_singleton_self _
  rw [unpack, try_from, anchor_try_from_split, decode_payload,
    matchConst_of_mem (by simp) _ hmem]

theorem unpack_of_ne {disc : List.Vector UInt8 8} (h : disc ≠ ROUTE) (payload : List UInt8) :
    unpack (disc.toList ++ payload) = .err (.Unknown disc) := by
  have hnot : disc ∉
      [(ROUTE, decode_arm RouteInstruction.borsh JupiterV4Instruction.Route)].map Prod.fst := by
    simpa using h
  rw [unpack, try_from, anchor_try_from_split, decode_payload, matchConst_of_not_mem _ hnot]

/-- Behind `ROUTE` the decoder returns a route exactly on its encoding, with no byte after it. -/
theorem unpack_route_eq_ok_iff (payload : List UInt8) (r : RouteInstruction) :
    unpack (ROUTE.toList ++ payload) = .ok (.Route r) ↔
      RouteInstruction.borsh.fits r = true ∧ payload = RouteInstruction.borsh.write r := by
  rw [unpack_route, decode_arm_eq_ok_iff RouteInstruction.canonical_borsh
    RouteInstruction.readsFit_borsh]
  constructor
  · rintro ⟨x, hx, rfl, hr⟩
    cases hr
    exact ⟨hx, rfl⟩
  · rintro ⟨hr, rfl⟩
    exact ⟨r, hr, rfl, rfl⟩

/-- The decoder returns a route exactly on `ROUTE` followed by the route's encoding, every `Vec`
of which is shorter than `2^32`; it fails with `TooShort` below 8 bytes, `Unknown` behind another
discriminator, or the Borsh error of a payload that is no route, and it never panics. -/
theorem jupiter_v4_unpack_spec (data : List UInt8) :
    (∀ r, unpack data = .ok (.Route r) ↔
      RouteInstruction.borsh.fits r = true ∧
        data = ROUTE.toList ++ RouteInstruction.borsh.write r) ∧
      (∀ e, unpack data = .err e → (data.length < 8 ∧ e = .TooShort data.length) ∨
        (∃ disc payload, data = disc.toList ++ payload ∧ disc ≠ ROUTE ∧
          e = .Unknown disc) ∨
        (∃ payload be, data = ROUTE.toList ++ payload ∧ e = .Decode be)) ∧
      unpack data ≠ .panic := by
  rcases anchor_try_from_cases decode_payload data with ⟨hlt, h⟩ | ⟨disc, payload, rfl, -⟩
  · -- too short for a discriminator
    have hu : unpack data = .err (.TooShort data.length) := h
    refine ⟨fun r => ⟨fun hr => ?_, fun ⟨_, hd⟩ => ?_⟩, fun e he => ?_, by simp [hu]⟩
    · rw [hu] at hr
      cases hr
    · have := congrArg List.length hd
      simp only [List.length_append, List.Vector.toList_length] at this
      omega
    · rw [hu] at he
      cases he
      exact .inl ⟨hlt, rfl⟩
  by_cases hd : disc = ROUTE
  · subst hd
    refine ⟨fun r => ?_, fun e he => ?_, ?_⟩
    · rw [unpack_route_eq_ok_iff, List.append_cancel_left_eq]
    · rw [unpack_route] at he
      obtain ⟨be, rfl⟩ := decode_arm_eq_err he
      exact .inr (.inr ⟨payload, be, rfl, rfl⟩)
    · rw [unpack_route]
      exact decode_arm_ne_panic _ _ _
  · -- another discriminator
    have hu := unpack_of_ne hd payload
    refine ⟨fun r => ⟨fun hr => ?_, fun ⟨_, he⟩ => ?_⟩, fun e he => ?_, by simp [hu]⟩
    · rw [hu] at hr
      cases hr
    · exact absurd (List.Vector.eq _ _ (List.append_inj_left he (by simp))) hd
    · rw [hu] at he
      cases he
      exact .inr (.inl ⟨disc, payload, rfl, hd, rfl⟩)

end SolanaIdls.jupiter.v4.instructions
