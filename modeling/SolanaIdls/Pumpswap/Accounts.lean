import SolanaIdls.Common
import SolanaIdls.Rust.Match

/-!
# PumpSwap accounts

`pumpswap::accounts::unpack_account` of `src/pumpswap/accounts.rs`. An account's data is Anchor's
8-byte account discriminator and the Borsh encoding of the account, and the decoder reads the
encoding with `try_from_slice`, which rejects any byte left after it. The six arms of its
`match` are the table `arms` (`matchConst`).

The exact encoding is read back (`unpack_account_write`), and nothing longer is: the data of an
account allocated larger than its layout, or written by a later version of the program with
fields added at the end, is rejected with `NotAllBytesRead` (`unpack_account_write_append`).

Nor does the decoder read anything else: every account codec is canonical
(`Borsh.Codec.Canonical`), so that the data of what it returns is exactly that account's layout
(`unpack_account_eq_ok_iff`). On the accounts that can be written, it is the inverse of the
layout.
-/

namespace SolanaIdls.pumpswap.accounts

open Borsh Borsh.Codec

/-! ## Discriminators and accounts -/

def BONDING_CURVE_DISC : List.Vector UInt8 8 := ⟨[23, 183, 248, 55, 96, 216, 172, 96], rfl⟩
def FEE_CONFIG_DISC : List.Vector UInt8 8 := ⟨[143, 52, 146, 187, 219, 123, 76, 155], rfl⟩
def GLOBAL_CONFIG_DISC : List.Vector UInt8 8 := ⟨[149, 8, 156, 202, 160, 252, 176, 217], rfl⟩
def GLOBAL_VOLUME_ACCUMULATOR_DISC : List.Vector UInt8 8 :=
  ⟨[202, 42, 246, 43, 142, 190, 30, 255], rfl⟩
def POOL_DISC : List.Vector UInt8 8 := ⟨[241, 154, 109, 4, 17, 177, 109, 188], rfl⟩
def USER_VOLUME_ACCUMULATOR_DISC : List.Vector UInt8 8 :=
  ⟨[86, 255, 112, 14, 102, 53, 154, 250], rfl⟩

/-- `Fees`. -/
structure Fees where
  lp_fee_bps : UInt64
  protocol_fee_bps : UInt64
  creator_fee_bps : UInt64
  deriving DecidableEq

/-- `FeeTier`. -/
structure FeeTier where
  market_cap_lamports_threshold : BitVec 128
  fees : Fees
  deriving DecidableEq

/-- `BondingCurve`. -/
structure BondingCurve where
  virtual_token_reserves : UInt64
  virtual_sol_reserves : UInt64
  real_token_reserves : UInt64
  real_sol_reserves : UInt64
  token_total_supply : UInt64
  complete : Bool
  creator : Pubkey
  deriving DecidableEq

/-- `FeeConfig`, the only account with a `Vec`. -/
structure FeeConfig where
  bump : UInt8
  admin : Pubkey
  flat_fees : Fees
  fee_tiers : List FeeTier
  deriving DecidableEq

/-- `GlobalConfig`. -/
structure GlobalConfig where
  admin : Pubkey
  lp_fee_basis_points : UInt64
  protocol_fee_basis_points : UInt64
  disable_flags : UInt8
  protocol_fee_recipients : List.Vector Pubkey 8
  coin_creator_fee_basis_points : UInt64
  admin_set_coin_creator_authority : Pubkey
  whitelist_pda : Pubkey
  reserved_fee_recipient : Pubkey
  mayhem_mode_enabled : Bool
  deriving DecidableEq

/-- `GlobalVolumeAccumulator`. -/
structure GlobalVolumeAccumulator where
  start_time : Int64
  end_time : Int64
  seconds_in_a_day : Int64
  mint : Pubkey
  total_token_supply : List.Vector UInt64 30
  sol_volumes : List.Vector UInt64 30
  deriving DecidableEq

/-- `Pool`. -/
structure Pool where
  pool_bump : UInt8
  index : UInt16
  creator : Pubkey
  base_mint : Pubkey
  quote_mint : Pubkey
  lp_mint : Pubkey
  pool_base_token_account : Pubkey
  pool_quote_token_account : Pubkey
  lp_supply : UInt64
  coin_creator : Pubkey
  is_mayhem_mode : Bool
  deriving DecidableEq

/-- `UserVolumeAccumulator`. -/
structure UserVolumeAccumulator where
  user : Pubkey
  needs_claim : Bool
  total_unclaimed_tokens : UInt64
  total_claimed_tokens : UInt64
  current_sol_volume : UInt64
  last_update_timestamp : Int64
  has_total_claimed_tokens : Bool
  deriving DecidableEq

/-- `PumpSwapAccount`. -/
inductive PumpSwapAccount where
  | BondingCurve (a : BondingCurve)
  | FeeConfig (a : FeeConfig)
  | GlobalConfig (a : GlobalConfig)
  | GlobalVolumeAccumulator (a : GlobalVolumeAccumulator)
  | Pool (a : Pool)
  | UserVolumeAccumulator (a : UserVolumeAccumulator)
  deriving DecidableEq

/-! ## Derived Borsh codecs -/

def Fees.borsh : Codec Fees :=
  (u64.prod <| u64.prod u64).map (fun (a, b, c) => ⟨a, b, c⟩)
    (fun x => (x.lp_fee_bps, x.protocol_fee_bps, x.creator_fee_bps)) fun _ => rfl

def FeeTier.borsh : Codec FeeTier :=
  (u128.prod Fees.borsh).map (fun (a, b) => ⟨a, b⟩)
    (fun x => (x.market_cap_lamports_threshold, x.fees)) fun _ => rfl

def BondingCurve.borsh : Codec BondingCurve :=
  (u64.prod <| u64.prod <| u64.prod <| u64.prod <| u64.prod <| bool.prod pubkey).map
    (fun (a, b, c, d, e, f, g) => ⟨a, b, c, d, e, f, g⟩)
    (fun x => (x.virtual_token_reserves, x.virtual_sol_reserves, x.real_token_reserves,
      x.real_sol_reserves, x.token_total_supply, x.complete, x.creator))
    fun _ => rfl

def FeeConfig.borsh : Codec FeeConfig :=
  (u8.prod <| pubkey.prod <| Fees.borsh.prod FeeTier.borsh.vec).map
    (fun (a, b, c, d) => ⟨a, b, c, d⟩) (fun x => (x.bump, x.admin, x.flat_fees, x.fee_tiers))
    fun _ => rfl

def GlobalConfig.borsh : Codec GlobalConfig :=
  (pubkey.prod <| u64.prod <| u64.prod <| u8.prod <| (pubkey.array 8).prod <| u64.prod <|
    pubkey.prod <| pubkey.prod <| pubkey.prod bool).map
    (fun (a, b, c, d, e, f, g, h, i, j) => ⟨a, b, c, d, e, f, g, h, i, j⟩)
    (fun x => (x.admin, x.lp_fee_basis_points, x.protocol_fee_basis_points, x.disable_flags,
      x.protocol_fee_recipients, x.coin_creator_fee_basis_points,
      x.admin_set_coin_creator_authority, x.whitelist_pda, x.reserved_fee_recipient,
      x.mayhem_mode_enabled))
    fun _ => rfl

def GlobalVolumeAccumulator.borsh : Codec GlobalVolumeAccumulator :=
  (i64.prod <| i64.prod <| i64.prod <| pubkey.prod <| (u64.array 30).prod (u64.array 30)).map
    (fun (a, b, c, d, e, f) => ⟨a, b, c, d, e, f⟩)
    (fun x => (x.start_time, x.end_time, x.seconds_in_a_day, x.mint, x.total_token_supply,
      x.sol_volumes))
    fun _ => rfl

def Pool.borsh : Codec Pool :=
  (u8.prod <| u16.prod <| pubkey.prod <| pubkey.prod <| pubkey.prod <| pubkey.prod <|
    pubkey.prod <| pubkey.prod <| u64.prod <| pubkey.prod bool).map
    (fun (a, b, c, d, e, f, g, h, i, j, k) => ⟨a, b, c, d, e, f, g, h, i, j, k⟩)
    (fun x => (x.pool_bump, x.index, x.creator, x.base_mint, x.quote_mint, x.lp_mint,
      x.pool_base_token_account, x.pool_quote_token_account, x.lp_supply, x.coin_creator,
      x.is_mayhem_mode))
    fun _ => rfl

def UserVolumeAccumulator.borsh : Codec UserVolumeAccumulator :=
  (pubkey.prod <| bool.prod <| u64.prod <| u64.prod <| u64.prod <| i64.prod bool).map
    (fun (a, b, c, d, e, f, g) => ⟨a, b, c, d, e, f, g⟩)
    (fun x => (x.user, x.needs_claim, x.total_unclaimed_tokens, x.total_claimed_tokens,
      x.current_sol_volume, x.last_update_timestamp, x.has_total_claimed_tokens))
    fun _ => rfl

/-- A pool account is 236 bytes after its discriminator. -/
theorem Pool.fixedWidth_borsh : Pool.borsh.FixedWidth 236 :=
  (fixedWidth_u8.prod <| fixedWidth_u16.prod <| fixedWidth_pubkey.prod <| fixedWidth_pubkey.prod <|
    fixedWidth_pubkey.prod <| fixedWidth_pubkey.prod <| fixedWidth_pubkey.prod <|
    fixedWidth_pubkey.prod <| fixedWidth_u64.prod <| fixedWidth_pubkey.prod fixedWidth_bool).map
    _ _ _

/-! ## What the codecs accept -/

theorem Fees.fixedWidth_borsh : Fees.borsh.FixedWidth 24 :=
  (fixedWidth_u64.prod <| fixedWidth_u64.prod fixedWidth_u64).map _ _ _

theorem FeeTier.fixedWidth_borsh : FeeTier.borsh.FixedWidth 40 :=
  (fixedWidth_u128.prod Fees.fixedWidth_borsh).map _ _ _

theorem BondingCurve.fixedWidth_borsh : BondingCurve.borsh.FixedWidth 73 :=
  (fixedWidth_u64.prod <| fixedWidth_u64.prod <| fixedWidth_u64.prod <| fixedWidth_u64.prod <|
    fixedWidth_u64.prod <| fixedWidth_bool.prod fixedWidth_pubkey).map _ _ _

theorem GlobalConfig.fixedWidth_borsh : GlobalConfig.borsh.FixedWidth 410 :=
  (fixedWidth_pubkey.prod <| fixedWidth_u64.prod <| fixedWidth_u64.prod <| fixedWidth_u8.prod <|
    (fixedWidth_pubkey.array 8).prod <| fixedWidth_u64.prod <| fixedWidth_pubkey.prod <|
    fixedWidth_pubkey.prod <| fixedWidth_pubkey.prod fixedWidth_bool).map _ _ _

theorem GlobalVolumeAccumulator.fixedWidth_borsh : GlobalVolumeAccumulator.borsh.FixedWidth 536 :=
  (fixedWidth_i64.prod <| fixedWidth_i64.prod <| fixedWidth_i64.prod <| fixedWidth_pubkey.prod <|
    (fixedWidth_u64.array 30).prod (fixedWidth_u64.array 30)).map _ _ _

theorem UserVolumeAccumulator.fixedWidth_borsh : UserVolumeAccumulator.borsh.FixedWidth 66 :=
  (fixedWidth_pubkey.prod <| fixedWidth_bool.prod <| fixedWidth_u64.prod <| fixedWidth_u64.prod <|
    fixedWidth_u64.prod <| fixedWidth_i64.prod fixedWidth_bool).map _ _ _

/-- `FeeConfig`, the one account of no fixed width, reads only fee tiers it can write back. -/
theorem FeeConfig.readsFit_borsh : FeeConfig.borsh.ReadsFit :=
  (fixedWidth_u8.readsFit.prod <| fixedWidth_pubkey.readsFit.prod <|
    Fees.fixedWidth_borsh.readsFit.prod FeeTier.fixedWidth_borsh.readsFit.vec).map _ _ _
    fun _ => rfl

theorem Fees.canonical_borsh : Fees.borsh.Canonical :=
  (canonical_u64.prod <| canonical_u64.prod canonical_u64).map _ _ _ fun _ => rfl

theorem FeeTier.canonical_borsh : FeeTier.borsh.Canonical :=
  (canonical_u128.prod Fees.canonical_borsh).map _ _ _ fun _ => rfl

theorem BondingCurve.canonical_borsh : BondingCurve.borsh.Canonical :=
  (canonical_u64.prod <| canonical_u64.prod <| canonical_u64.prod <| canonical_u64.prod <|
    canonical_u64.prod <| canonical_bool.prod canonical_pubkey).map _ _ _ fun _ => rfl

theorem FeeConfig.canonical_borsh : FeeConfig.borsh.Canonical :=
  (canonical_u8.prod <| canonical_pubkey.prod <|
    Fees.canonical_borsh.prod FeeTier.canonical_borsh.vec).map _ _ _ fun _ => rfl

theorem GlobalConfig.canonical_borsh : GlobalConfig.borsh.Canonical :=
  (canonical_pubkey.prod <| canonical_u64.prod <| canonical_u64.prod <| canonical_u8.prod <|
    (canonical_pubkey.array 8).prod <| canonical_u64.prod <| canonical_pubkey.prod <|
    canonical_pubkey.prod <| canonical_pubkey.prod canonical_bool).map _ _ _ fun _ => rfl

theorem GlobalVolumeAccumulator.canonical_borsh : GlobalVolumeAccumulator.borsh.Canonical :=
  (canonical_i64.prod <| canonical_i64.prod <| canonical_i64.prod <| canonical_pubkey.prod <|
    (canonical_u64.array 30).prod (canonical_u64.array 30)).map _ _ _ fun _ => rfl

theorem Pool.canonical_borsh : Pool.borsh.Canonical :=
  (canonical_u8.prod <| canonical_u16.prod <| canonical_pubkey.prod <| canonical_pubkey.prod <|
    canonical_pubkey.prod <| canonical_pubkey.prod <| canonical_pubkey.prod <|
    canonical_pubkey.prod <| canonical_u64.prod <| canonical_pubkey.prod canonical_bool).map
    _ _ _ fun _ => rfl

theorem UserVolumeAccumulator.canonical_borsh : UserVolumeAccumulator.borsh.Canonical :=
  (canonical_pubkey.prod <| canonical_bool.prod <| canonical_u64.prod <| canonical_u64.prod <|
    canonical_u64.prod <| canonical_i64.prod canonical_bool).map _ _ _ fun _ => rfl

/-! ## The decoder -/

/-- The arms of the `match disc` of `unpack_account`, in the source's order. -/
def arms : List (List.Vector UInt8 8 × (List UInt8 → Outcome ParseError PumpSwapAccount)) :=
  [(BONDING_CURVE_DISC, decode_arm BondingCurve.borsh .BondingCurve),
   (FEE_CONFIG_DISC, decode_arm FeeConfig.borsh .FeeConfig),
   (GLOBAL_CONFIG_DISC, decode_arm GlobalConfig.borsh .GlobalConfig),
   (GLOBAL_VOLUME_ACCUMULATOR_DISC,
     decode_arm GlobalVolumeAccumulator.borsh .GlobalVolumeAccumulator),
   (POOL_DISC, decode_arm Pool.borsh .Pool),
   (USER_VOLUME_ACCUMULATOR_DISC, decode_arm UserVolumeAccumulator.borsh .UserVolumeAccumulator)]

/-- The `match disc` of `unpack_account`: the arm of the discriminator, or `Unknown`. -/
def decode_payload (disc : List.Vector UInt8 8) (rest : List UInt8) :
    Outcome ParseError PumpSwapAccount :=
  matchConst arms (fun other _ => .err (.Unknown other)) disc rest

/-- `unpack_account`. -/
def unpack_account (data : List UInt8) : Outcome ParseError PumpSwapAccount := do
  if data.length < 8 then
    .err (.TooShort data.length)
  else
    let (disc, rest) ← Slice.split_at data 8
    let disc ← Outcome.expect (Slice.try_into disc 8)
    decode_payload disc rest

/-- Below 8 bytes the decoder rejects the data with its length. -/
theorem unpack_account_of_lt {data : List UInt8} (h : data.length < 8) :
    unpack_account data = .err (.TooShort data.length) := by
  simp [unpack_account, h]

/-- From 8 bytes on, the decoder dispatches on the first 8 with the rest as the account. -/
theorem unpack_account_split (disc : List.Vector UInt8 8) (rest : List UInt8) :
    unpack_account (disc.toList ++ rest) = decode_payload disc rest := by
  have hd : disc.toList.length = 8 := disc.toList_length
  have hlen : ¬(disc.toList ++ rest).length < 8 := by
    simp only [List.length_append, hd]
    omega
  simp only [unpack_account, if_neg hlen, Slice.split_at_append_of_length hd, Outcome.ok_bind,
    Slice.try_into_toList, Outcome.expect_some]

/-- The six discriminators are distinct. -/
theorem arms_nodup : (arms.map Prod.fst).Nodup := by
  decide

/-- Behind a discriminator of the table, the decoder is that discriminator's arm. -/
theorem unpack_account_of_mem {d : List.Vector UInt8 8}
    {arm : List UInt8 → Outcome ParseError PumpSwapAccount} (hmem : (d, arm) ∈ arms)
    (rest : List UInt8) : unpack_account (d.toList ++ rest) = arm rest := by
  rw [unpack_account_split, decode_payload, matchConst_of_mem arms_nodup _ hmem]

/-! ## Account data read back -/

/-- An account's data as the program writes it: its discriminator, then its Borsh encoding. -/
def PumpSwapAccount.write : PumpSwapAccount → List UInt8
  | .BondingCurve a => BONDING_CURVE_DISC.toList ++ BondingCurve.borsh.write a
  | .FeeConfig a => FEE_CONFIG_DISC.toList ++ FeeConfig.borsh.write a
  | .GlobalConfig a => GLOBAL_CONFIG_DISC.toList ++ GlobalConfig.borsh.write a
  | .GlobalVolumeAccumulator a =>
    GLOBAL_VOLUME_ACCUMULATOR_DISC.toList ++ GlobalVolumeAccumulator.borsh.write a
  | .Pool a => POOL_DISC.toList ++ Pool.borsh.write a
  | .UserVolumeAccumulator a =>
    USER_VOLUME_ACCUMULATOR_DISC.toList ++ UserVolumeAccumulator.borsh.write a

/-- Whether an account can be written: its codec accepts it, which only `FeeConfig`'s count of
fee tiers can prevent. -/
def PumpSwapAccount.fits : PumpSwapAccount → Bool
  | .BondingCurve a => BondingCurve.borsh.fits a
  | .FeeConfig a => FeeConfig.borsh.fits a
  | .GlobalConfig a => GlobalConfig.borsh.fits a
  | .GlobalVolumeAccumulator a => GlobalVolumeAccumulator.borsh.fits a
  | .Pool a => Pool.borsh.fits a
  | .UserVolumeAccumulator a => UserVolumeAccumulator.borsh.fits a

/-- An arm reads back exactly what its codec wrote. -/
theorem unpack_account_arm {α : Type} {d : List.Vector UInt8 8} {c : Codec α}
    {V : α → PumpSwapAccount} (hmem : (d, decode_arm c V) ∈ arms) {x : α}
    (hx : c.fits x = true) : unpack_account (d.toList ++ c.write x) = .ok (V x) := by
  rw [unpack_account_of_mem hmem]
  exact decode_arm_write c V hx

/-- An arm rejects what its codec wrote followed by any byte. -/
theorem unpack_account_arm_append {α : Type} {d : List.Vector UInt8 8} {c : Codec α}
    {V : α → PumpSwapAccount} (hmem : (d, decode_arm c V) ∈ arms) {x : α}
    (hx : c.fits x = true) {t : List UInt8} (ht : t ≠ []) :
    unpack_account (d.toList ++ c.write x ++ t) = .err (.Decode .notAllBytesRead) := by
  rw [List.append_assoc, unpack_account_of_mem hmem]
  exact decode_arm_error c V (c.try_from_slice_write_append hx ht)

/-- Every account is read back from its exact data. -/
theorem unpack_account_write (a : PumpSwapAccount) (h : a.fits = true) :
    unpack_account a.write = .ok a := by
  -- every account is one row of `arms`, with the arm of its codec
  cases a <;> exact unpack_account_arm (by simp [arms]) h

/-- No account is read back from its data followed by any byte. -/
theorem unpack_account_write_append (a : PumpSwapAccount) (h : a.fits = true) {t : List UInt8}
    (ht : t ≠ []) : unpack_account (a.write ++ t) = .err (.Decode .notAllBytesRead) := by
  -- the error does not name the arm's variant, so each case gives it
  cases a
  case BondingCurve => exact unpack_account_arm_append (V := .BondingCurve) (by simp [arms]) h ht
  case FeeConfig => exact unpack_account_arm_append (V := .FeeConfig) (by simp [arms]) h ht
  case GlobalConfig => exact unpack_account_arm_append (V := .GlobalConfig) (by simp [arms]) h ht
  case GlobalVolumeAccumulator =>
    exact unpack_account_arm_append (V := .GlobalVolumeAccumulator) (by simp [arms]) h ht
  case Pool => exact unpack_account_arm_append (V := .Pool) (by simp [arms]) h ht
  case UserVolumeAccumulator =>
    exact unpack_account_arm_append (V := .UserVolumeAccumulator) (by simp [arms]) h ht

/-! ## The decoder is the inverse of the layout -/

/-- An arm of a canonical codec that reads only accounts that fit returns an account read from
exactly its data. -/
theorem eq_write_of_decode_arm {α : Type} {c : Codec α} (hc : c.Canonical) (hf : c.ReadsFit)
    {d : List.Vector UInt8 8} {V : α → PumpSwapAccount}
    (hV : ∀ x, (V x).write = d.toList ++ c.write x ∧ (V x).fits = c.fits x)
    {rest : List UInt8} {a : PumpSwapAccount} (h : decode_arm c V rest = .ok a) :
    a.fits = true ∧ d.toList ++ rest = a.write := by
  obtain ⟨x, hx, rfl, rfl⟩ := (decode_arm_eq_ok_iff hc hf).mp h
  obtain ⟨hw, hfit⟩ := hV x
  exact ⟨hfit.trans hx, hw.symm⟩

/-- What an arm of the table returns is an account that fits, read from exactly its data. -/
theorem eq_write_of_mem_arms {d : List.Vector UInt8 8}
    {arm : List UInt8 → Outcome ParseError PumpSwapAccount} (hmem : (d, arm) ∈ arms)
    {rest : List UInt8} {a : PumpSwapAccount} (h : arm rest = .ok a) :
    a.fits = true ∧ d.toList ++ rest = a.write := by
  simp only [arms, List.mem_cons, Prod.mk.injEq, List.not_mem_nil, or_false] at hmem
  -- one case per arm, each by the exactness of its codec
  rcases hmem with ⟨rfl, rfl⟩ | ⟨rfl, rfl⟩ | ⟨rfl, rfl⟩ | ⟨rfl, rfl⟩ | ⟨rfl, rfl⟩ | ⟨rfl, rfl⟩
  · exact eq_write_of_decode_arm BondingCurve.canonical_borsh
      BondingCurve.fixedWidth_borsh.readsFit (fun _ => ⟨rfl, rfl⟩) h
  · exact eq_write_of_decode_arm FeeConfig.canonical_borsh FeeConfig.readsFit_borsh
      (fun _ => ⟨rfl, rfl⟩) h
  · exact eq_write_of_decode_arm GlobalConfig.canonical_borsh
      GlobalConfig.fixedWidth_borsh.readsFit (fun _ => ⟨rfl, rfl⟩) h
  · exact eq_write_of_decode_arm GlobalVolumeAccumulator.canonical_borsh
      GlobalVolumeAccumulator.fixedWidth_borsh.readsFit (fun _ => ⟨rfl, rfl⟩) h
  · exact eq_write_of_decode_arm Pool.canonical_borsh Pool.fixedWidth_borsh.readsFit
      (fun _ => ⟨rfl, rfl⟩) h
  · exact eq_write_of_decode_arm UserVolumeAccumulator.canonical_borsh
      UserVolumeAccumulator.fixedWidth_borsh.readsFit (fun _ => ⟨rfl, rfl⟩) h

/-- The decoder accepts exactly the data of an account that can be written: its discriminator
and its encoding, and nothing after them. -/
theorem unpack_account_eq_ok_iff (data : List UInt8) (a : PumpSwapAccount) :
    unpack_account data = .ok a ↔ a.fits = true ∧ data = a.write := by
  constructor
  · intro h
    -- below 8 bytes the decoder fails, so the data starts with a discriminator
    have hlen : 8 ≤ data.length := by
      by_contra hlt
      rw [unpack_account_of_lt (by omega)] at h
      cases h
    obtain ⟨d, rest, rfl⟩ := Slice.exists_vector_append hlen
    rw [unpack_account_split, decode_payload] at h
    -- the `match` takes an arm of the table, or the fallback, which is an error
    rcases matchConst_cases arms_nodup (fun other _ => .err (.Unknown other)) d with
      ⟨arm, hmem, harm⟩ | ⟨-, hfb⟩
    · rw [harm] at h
      exact eq_write_of_mem_arms hmem h
    · rw [hfb] at h
      cases h
  · rintro ⟨hfits, rfl⟩
    exact unpack_account_write a hfits

end SolanaIdls.pumpswap.accounts
