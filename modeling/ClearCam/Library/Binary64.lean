import ClearCam.Library.Rounding
import Mathlib.Algebra.Order.Floor.Semifield
import Mathlib.Data.Rat.Floor
import Mathlib.Tactic.FieldSimp
import Mathlib.Tactic.NormNum

/-! The non-negative numbers of `Float`, and that its arithmetic rounds what the exact arithmetic gives. -/
namespace ClearCam.Library.Binary64
open Float.Model Float.Model.UnpackedFloat ClearCam.Library.Rounding

abbrev format : Format := Format.binary64

/-- A power of two that no overflow comes near to. -/
def limit : ℚ := scaled (2 ^ 52) 971

theorem unpackSign_packComponents (sign : Sign) (exponent : BitVec 11) (mantissa : BitVec 52) :
    unpackSign (packComponents format sign exponent mantissa) = sign.toBitVec := by
  change BitVec.extractLsb' 63 1 (sign.toBitVec ++ exponent ++ mantissa) = sign.toBitVec
  rw [BitVec.extractLsb'_append_eq_of_le (by decide),BitVec.extractLsb'_append_eq_of_le (by decide)]
  exact BitVec.extractLsb'_eq_self

theorem unpack_positive (b : BitVec format.numBits) (positive : unpackSign b = 0#1) (finite : unpackExponent b ≠ -1#11) :
    UnpackedFloat.unpack format b =
      if unpackExponent b = 0#11 then ofParts (unpackMantissa b).toNat (-1074)
      else ofParts (2 ^ 52 + (unpackMantissa b).toNat) ((unpackExponent b).toNat - 1075) := by
  have sign : Sign.ofBitVec (unpackSign b) = .positive := by
    rw [positive]
    rfl
  unfold UnpackedFloat.unpack
  dsimp only
  rw [sign,if_neg finite]
  by_cases subnormal : unpackExponent b = 0#11
  · rw [if_pos subnormal,if_pos subnormal]
    by_cases zero : unpackMantissa b = 0#52
    · rw [dif_pos zero,zero]
      rfl
    · have some : (unpackMantissa b).toNat ≠ 0 := by
        intro none
        exact zero (BitVec.eq_of_toNat_eq none)
      rw [dif_neg zero,ofParts_some _ _ some,subnormal]
      rfl
  · have whole : (1#1 ++ unpackMantissa b).toNat = 2 ^ 52 + (unpackMantissa b).toNat := by
      rw [BitVec.toNat_append,← Nat.shiftLeft_add_eq_or_of_lt (unpackMantissa b).isLt]
      rfl
    have some : (1#1 ++ unpackMantissa b).toNat ≠ 0 := by
      rw [whole]
      omega
    rw [if_neg subnormal,if_neg subnormal,← whole,ofParts_some _ _ some]
    rfl

theorem unpack_packComponents (exponent : BitVec 11) (mantissa : BitVec 52) (finite : exponent ≠ -1#11) :
    UnpackedFloat.unpack format (packComponents format .positive exponent mantissa) =
      if exponent = 0#11 then ofParts mantissa.toNat (-1074)
      else ofParts (2 ^ 52 + mantissa.toNat) (exponent.toNat - 1075) := by
  have isExponent : unpackExponent (packComponents format .positive exponent mantissa) = exponent :=
    unpackExponent_packComponents
  have isMantissa : unpackMantissa (packComponents format .positive exponent mantissa) = mantissa :=
    unpackMantissa_packComponents
  rw [unpack_positive _ (unpackSign_packComponents .positive exponent mantissa) (by rw [isExponent]; exact finite),
    isExponent,isMantissa]

theorem unpack_pack (m : Nat) (e : Int) (canonical : Canonical format m e) (range : e ≤ 971) :
    (Float.Model.pack (ofParts m e)).unpack = ofParts m e := by
  have bits : m < 2 ^ 53 := canonical.bits
  have least : -1074 ≤ e := canonical.least
  change UnpackedFloat.unpack format (UnpackedFloat.pack format (ofParts m e)) = _
  by_cases none : m = 0
  · rw [ofParts_zero m e none]
    exact unpack_packComponents 0#11 0#52 (by decide)
  · have log : m.log2 < 53 := (Nat.log2_lt none).mpr bits
    have biased : ((e + 1075).toNat : Int) = e + 1075 := by omega
    have exponent : (BitVec.ofNat 11 (e + 1075).toNat).toNat = (e + 1075).toNat := by
      rw [BitVec.toNat_ofNat,Nat.mod_eq_of_lt (by omega)]
    have packed : UnpackedFloat.pack format (ofParts m e) =
        if m.log2 + 1 = 53 then packComponents format .positive (BitVec.ofNat 11 (e + 1075).toNat) (BitVec.ofNat 52 m)
        else packComponents format .positive 0#11 (BitVec.ofNat 52 m) := by
      rw [ofParts_some m e none]
      have same : (e + (format.exponentBias : Int) + (format.mantissaBitsWithoutImplicit : Int)).toNat = (e + 1075).toNat := by
        change (e + 1023 + 52).toNat = _
        omega
      change (if 2 ^ 11 ≤ (e + (format.exponentBias : Int) + (format.mantissaBitsWithoutImplicit : Int)).toNat + 1 then _
        else if m.log2 + 1 = 53 then _ else _) = _
      rw [same,if_neg (by omega)]
    rw [packed]
    by_cases normal : 2 ^ 52 ≤ m
    · have full : m.log2 + 1 = 53 := by
        have := (Nat.le_log2 none).mpr normal
        omega
      have mantissa : 2 ^ 52 + (BitVec.ofNat 52 m).toNat = m := by
        rw [BitVec.toNat_ofNat]
        omega
      have finite : BitVec.ofNat 11 (e + 1075).toNat ≠ -1#11 := by
        intro same
        have := congrArg BitVec.toNat same
        rw [exponent] at this
        change (e + 1075).toNat = 2047 at this
        omega
      have some : BitVec.ofNat 11 (e + 1075).toNat ≠ 0#11 := by
        intro same
        have := congrArg BitVec.toNat same
        rw [exponent] at this
        change (e + 1075).toNat = 0 at this
        omega
      rw [if_pos full,unpack_packComponents _ _ finite,if_neg some,mantissa,exponent,biased]
      congr 1
      omega
    · have subnormal : e = -1074 := canonical.full.resolve_left normal
      have short : ¬m.log2 + 1 = 53 := by
        have := (Nat.log2_lt none).mpr (Nat.lt_of_not_le normal)
        omega
      have mantissa : (BitVec.ofNat 52 m).toNat = m := by
        rw [BitVec.toNat_ofNat,Nat.mod_eq_of_lt (Nat.lt_of_not_le normal)]
      rw [if_neg short,unpack_packComponents _ _ (by decide),if_pos rfl,mantissa,subnormal]

/-- A number that is neither negative nor infinite, nor a NaN, nor minus zero. -/
def Nonnegative (f : Float) : Prop :=
  ∃ m e, f.toModel.unpack = ofParts m e ∧ Canonical format m e

def value (f : Float) : ℚ :=
  match f.toModel.unpack with
  | .finite _ m e _ => scaled m e
  | _ => 0

theorem value_eq (f : Float) (m : Nat) (e : Int) (parts : f.toModel.unpack = ofParts m e) : value f = scaled m e := by
  unfold value
  rw [parts]
  by_cases none : m = 0
  · rw [ofParts_zero m e none,none]
    exact (scaled_zero e).symm
  · rw [ofParts_some m e none]

theorem scaled_nonneg (m : Nat) (e : Int) : 0 ≤ scaled m e := by
  unfold scaled
  positivity

theorem Nonnegative.value_nonneg {f : Float} (nonnegative : Nonnegative f) : 0 ≤ value f := by
  obtain ⟨m,e,parts,_⟩ := nonnegative
  rw [value_eq f m e parts]
  exact scaled_nonneg m e

theorem nat_eq_scaled (n : Nat) : (n : ℚ) = scaled n 0 := by
  rw [scaled,zpow_zero,mul_one]

theorem two_pow_le_limit (k : Nat) (range : k ≤ 1023) : ((2 ^ k : Nat) : ℚ) ≤ limit := by
  have full : ((2 ^ k : Nat) : ℚ) = scaled (2 ^ 52) (k - 52) := by
    unfold scaled
    rw [zpow_sub₀ (by decide),zpow_natCast]
    push_cast
    field_simp
  rw [full,limit]
  rcases Nat.lt_or_eq_of_le range with below | same
  · exact (scaled_lt_of_exponent format (by decide) (by decide) (by omega)).le
  · rw [same]
    rfl

theorem nat_le_limit (n k : Nat) (range : k ≤ 1023) (small : n ≤ 2 ^ k) : (n : ℚ) ≤ limit := by
  have below : (n : ℚ) ≤ (2 ^ k : Nat) := by exact_mod_cast small
  exact le_trans below (two_pow_le_limit k range)

theorem limit_representable : Representable format limit := ⟨2 ^ 52,971,by decide,by decide,rfl⟩

/-- What is rounded below the limit is packed without an overflow. -/
theorem pack_within (x : ℚ) (bound : x ≤ limit) (u : UnpackedFloat)
    (rounded : ∃ m e, u = ofParts m e ∧ Canonical format m e ∧ Within format x (scaled m e)) :
    Nonnegative (.ofModel (Float.Model.pack u)) ∧ Within format x (value (.ofModel (Float.Model.pack u))) := by
  obtain ⟨m,e,parts,canonical,within⟩ := rounded
  have range : e ≤ 971 := by
    by_contra beyond
    have full : 2 ^ 52 ≤ m := canonical.full.resolve_right fun least => by
      rw [least] at beyond
      exact beyond (by decide)
    have above : limit < scaled m e := scaled_lt_of_exponent format (by decide) full (by omega)
    exact absurd ((within limit limit_representable).2 bound) (not_le.mpr above)
  have packed : (Float.ofModel (Float.Model.pack u)).toModel.unpack = ofParts m e := by
    rw [parts]
    exact unpack_pack m e canonical range
  refine ⟨⟨m,e,packed,canonical⟩,?_⟩
  rw [value_eq _ m e packed]
  exact within

theorem near_exact (m : Nat) (e : Int) : Near (ExtendedMantissa.ofMantissaAndAccuracy m .exact) e (scaled m e) :=
  ⟨le_refl _,(scaled_lt _ _ e).mpr (Nat.lt_succ_self m),nofun⟩

theorem scaled_mul (m m' : Nat) (e e' : Int) : scaled m e * scaled m' e' = scaled (m * m') (e + e') := by
  unfold scaled
  rw [zpow_add₀ (by decide)]
  push_cast
  ring

theorem log2_ge (m : Nat) (full : 2 ^ 52 ≤ m) : 52 ≤ m.log2 := (Nat.le_log2 (by omega)).mpr full

/-- An exponent is fine for a mantissa that is full, or if it is no more than the least. -/
theorem fine_exponent (m : Nat) (e : Int) (fine : 2 ^ 52 ≤ m ∨ e ≤ -1074) :
    e ≤ format.targetExponent (totalExponent m e) := by
  change e ≤ max ((m.log2 : Int) + 1 + e - 53) (-1074)
  rcases fine with full | least
  · have := log2_ge m full
    omega
  · omega

theorem zero_within (e : Int) : ∃ m' e', UnpackedFloat.zero .positive = ofParts m' e' ∧ Canonical format m' e' ∧
    Within format (scaled 0 e) (scaled m' e') := by
  refine ⟨0,-1074,rfl,⟨by decide,by decide,.inr rfl⟩,?_⟩
  rw [scaled_zero,scaled_zero]
  exact fun v _ => ⟨id,id⟩

theorem mul_parts (m m' : Nat) (e e' : Int) (canonical : Canonical format m e) (canonical' : Canonical format m' e') :
    ∃ n i, UnpackedFloat.mul format (ofParts m e) (ofParts m' e') = ofParts n i ∧ Canonical format n i ∧
      Within format (scaled (m * m') (e + e')) (scaled n i) := by
  by_cases none : m = 0
  · rw [none,Nat.zero_mul]
    have zero : UnpackedFloat.mul format (ofParts 0 e) (ofParts m' e') = .zero .positive := by
      by_cases none' : m' = 0
      · rw [none']
        rfl
      · rw [ofParts_zero 0 e rfl,ofParts_some m' e' none']
        rfl
    rw [zero]
    exact zero_within _
  by_cases none' : m' = 0
  · rw [none',Nat.mul_zero]
    have zero : UnpackedFloat.mul format (ofParts m e) (ofParts 0 e') = .zero .positive := by
      rw [ofParts_some m e none,ofParts_zero 0 e' rfl]
      rfl
    rw [zero]
    exact zero_within _
  have product : UnpackedFloat.mul format (ofParts m e) (ofParts m' e') =
      roundWithAccuracy format .positive (m * m') (e + e') .exact := by
    rw [ofParts_some m e none,ofParts_some m' e' none']
    rfl
  rw [product]
  apply roundWithAccuracy_within format _ _ .exact _ (near_exact _ _)
  apply fine_exponent
  rcases canonical.full with full | least
  · exact .inl (le_trans full (Nat.le_mul_of_pos_right m (Nat.pos_of_ne_zero none')))
  rcases canonical'.full with full | least'
  · exact .inl (le_trans full (Nat.le_mul_of_pos_left m' (Nat.pos_of_ne_zero none)))
  · right
    rw [least,least']
    decide

theorem mul_within (f g : Float) (first : Nonnegative f) (second : Nonnegative g) (bound : value f * value g ≤ limit) :
    Nonnegative (f * g) ∧ Within format (value f * value g) (value (f * g)) := by
  obtain ⟨m,e,parts,canonical⟩ := first
  obtain ⟨m',e',parts',canonical'⟩ := second
  apply pack_within _ bound
  rw [parts,parts',value_eq f m e parts,value_eq g m' e' parts',scaled_mul]
  exact mul_parts m m' e e' canonical canonical'

/-- The quotient to the unit, and whether there is a remainder. -/
theorem near_quotient (m m' : Nat) (e : Int) (some : 0 < m') :
    Near (ExtendedMantissa.ofMantissaAndAccuracy (m / m') (accuracyOfFraction (m % m') m')) e (scaled m e / m') := by
  have divisor : (0 : ℚ) < m' := by exact_mod_cast some
  have split := Nat.div_add_mod m m'
  have remainder := Nat.mod_lt m some
  have times : ∀ n : Nat, scaled n e * m' = scaled (n * m') e := by
    intro n
    unfold scaled
    push_cast
    ring
  have quotient : (ExtendedMantissa.ofMantissaAndAccuracy (m / m') (accuracyOfFraction (m % m') m')).mantissa = m / m' := by
    unfold accuracyOfFraction
    split
    · rfl
    · cases compare (2 * (m % m')) m' <;> rfl
  constructor
  · rw [quotient,le_div_iff₀ divisor,times,scaled_le]
    exact Nat.div_mul_le_self m m'
  · rw [quotient,div_lt_iff₀ divisor,times,scaled_lt,Nat.add_mul,Nat.one_mul,Nat.mul_comm (m / m')]
    omega
  · intro bits
    have lost : m % m' ≠ 0 := by
      intro none
      rw [none] at bits
      cases bits
    rw [quotient,lt_div_iff₀ divisor,times,scaled_lt,Nat.mul_comm]
    omega

theorem div_parts (m m' : Nat) (e e' : Int) (some : 0 < m') :
    ∃ n i, UnpackedFloat.div format (ofParts m e) (ofParts m' e') = ofParts n i ∧ Canonical format n i ∧
      Within format (scaled m e / scaled m' e') (scaled n i) := by
  by_cases none : m = 0
  · have zero : UnpackedFloat.div format (ofParts m e) (ofParts m' e') = .zero .positive := by
      rw [ofParts_zero m e none,ofParts_some m' e' (Nat.pos_iff_ne_zero.mp some)]
      rfl
    have quotient : scaled m e / scaled m' e' = scaled 0 e := by
      rw [none,scaled_zero,zero_div]
    rw [zero,quotient]
    exact zero_within e
  obtain ⟨target,isTarget⟩ : ∃ target, target = min (e - e') (format.targetExponent (totalExponent m e - totalExponent m' e')) :=
    ⟨_,rfl⟩
  obtain ⟨k,shift⟩ : ∃ k : Nat, e - e' = target + k := ⟨(e - e' - target).toNat,by omega⟩
  have amount : (e - e' - target).toNat = k := by omega
  have core : UnpackedFloat.div format (ofParts m e) (ofParts m' e') =
      roundWithAccuracy format .positive (m * 2 ^ k / m') target (accuracyOfFraction (m * 2 ^ k % m') m') := by
    rw [ofParts_some m e none,ofParts_some m' e' (Nat.pos_iff_ne_zero.mp some),← Nat.shiftLeft_eq,← amount,isTarget]
    rfl
  have same : scaled m e / scaled m' e' = scaled (m * 2 ^ k) target / m' := by
    have exponent : e = e' + (target + k) := by omega
    have unit : (2 : ℚ) ^ e' ≠ 0 := by positivity
    have divisor : (m' : ℚ) ≠ 0 := by
      have := Nat.pos_iff_ne_zero.mp some
      exact_mod_cast this
    rw [← scaled_add]
    unfold scaled
    rw [exponent,zpow_add₀ (by decide)]
    field_simp
  rw [core,same]
  apply roundWithAccuracy_within format _ _ _ _ (near_quotient (m * 2 ^ k) m' target some)
  apply fine_exponent
  by_cases least : target ≤ -1074
  · exact .inr least
  · left
    have log : m'.log2 + 53 ≤ m.log2 + k := by
      change target = min (e - e') (max ((m.log2 : Int) + 1 + e - ((m'.log2 : Int) + 1 + e') - 53) (-1074)) at isTarget
      omega
    rw [Nat.le_div_iff_mul_le some]
    calc 2 ^ 52 * m' ≤ 2 ^ 52 * 2 ^ (m'.log2 + 1) := Nat.mul_le_mul_left _ (Nat.le_of_lt Nat.lt_log2_self)
      _ = 2 ^ (m'.log2 + 53) := by rw [← Nat.pow_add]; congr 1; omega
      _ ≤ 2 ^ (m.log2 + k) := Nat.pow_le_pow_right (by decide) log
      _ = 2 ^ m.log2 * 2 ^ k := Nat.pow_add 2 _ _
      _ ≤ m * 2 ^ k := Nat.mul_le_mul_right _ (Nat.log2_self_le none)

theorem div_within (f g : Float) (first : Nonnegative f) (second : Nonnegative g) (some : 0 < value g)
    (bound : value f / value g ≤ limit) :
    Nonnegative (f / g) ∧ Within format (value f / value g) (value (f / g)) := by
  obtain ⟨m,e,parts,_⟩ := first
  obtain ⟨m',e',parts',_⟩ := second
  have divisor : 0 < m' := by
    rw [value_eq g m' e' parts'] at some
    rcases Nat.eq_zero_or_pos m' with none | positive
    · rw [none,scaled_zero] at some
      exact absurd some (lt_irrefl _)
    · exact positive
  apply pack_within _ bound
  rw [parts,parts',value_eq f m e parts,value_eq g m' e' parts']
  exact div_parts m m' e e' divisor

theorem representable_nat (n : Nat) (small : n < 2 ^ 53) : Representable format n :=
  ⟨n,0,small,by decide,nat_eq_scaled n⟩

theorem normalize_within (n : Nat) : ∃ m e, UnpackedFloat.normalize format n 0 .positive = ofParts m e ∧ Canonical format m e ∧
    Within format n (scaled m e) := by
  rcases Nat.eq_zero_or_pos n with none | some
  · rw [none]
    rw [nat_eq_scaled]
    exact zero_within 0
  · obtain ⟨k,amount⟩ : ∃ k : Nat, (0 - format.targetExponent (totalExponent n 0)).toNat = k := ⟨_,rfl⟩
    have rounded : UnpackedFloat.normalize format n 0 .positive = roundWithAccuracy format .positive (n * 2 ^ k) (0 - k) .exact := by
      have positive : compare (n : Int) 0 = .gt := Int.compare_eq_gt.mpr (by omega)
      unfold UnpackedFloat.normalize
      rw [positive,← Nat.shiftLeft_eq,← amount]
      rfl
    have same : (n : ℚ) = scaled (n * 2 ^ k) (0 - k) := by
      rw [← scaled_add,Int.sub_add_cancel]
      exact nat_eq_scaled n
    rw [rounded,same]
    apply roundWithAccuracy_within format _ _ .exact _ (near_exact _ _)
    have log : (n * 2 ^ k).log2 = n.log2 + k := by
      have low := Nat.log2_self_le (Nat.pos_iff_ne_zero.mp some)
      have high := Nat.lt_log2_self (n := n)
      have unit := Nat.two_pow_pos k
      rw [Nat.log2_eq_iff (Nat.mul_ne_zero (Nat.pos_iff_ne_zero.mp some) unit.ne'),Nat.pow_add,Nat.add_right_comm,Nat.pow_add]
      exact ⟨Nat.mul_le_mul_right _ low,Nat.mul_lt_mul_of_pos_right high unit⟩
    change (0 - max ((n.log2 : Int) + 1 + 0 - 53) (-1074)).toNat = k at amount
    change (0 - k : Int) ≤ max (((n * 2 ^ k).log2 : Int) + 1 + (0 - k) - 53) (-1074)
    rw [log]
    omega

theorem toFloat_within (n : UInt64) : Nonnegative n.toFloat ∧ Within format n.toNat (value n.toFloat) := by
  have bound := nat_le_limit n.toNat 64 (by decide) n.toNat_lt.le
  exact pack_within n.toNat bound _ (normalize_within n.toNat)

theorem one_unpack : (Float.ofBits 0x3FF0000000000000).toModel.unpack = ofParts (2 ^ 52) (-52) := rfl

/-- Small numbers go through `u64`, and others through a decimal with no places. -/
theorem ofNat_within (n : Nat) (bound : (n : ℚ) ≤ limit) :
    Nonnegative (Float.ofNat n) ∧ Within format n (value (Float.ofNat n)) := by
  by_cases small : n < 2 ^ 53
  · have fast : Float.ofNat n = n.toUInt64.toFloat * Float.ofBits 0x3FF0000000000000 := by
      change Float.ofScientific n false 0 = _
      unfold Float.ofScientific
      rw [dif_pos ⟨small,by decide⟩]
      rfl
    have sameNat : n.toUInt64.toNat = n := UInt64.toNat_ofNat_of_lt' (lt_trans small (by decide))
    obtain ⟨first,within⟩ := toFloat_within n.toUInt64
    rw [sameNat] at within
    have exactly := within.exact format (representable_nat n small)
    have one : value (Float.ofBits 0x3FF0000000000000) = 1 := by
      rw [value_eq _ _ _ one_unpack,scaled]
      norm_num
    have second : Nonnegative (Float.ofBits 0x3FF0000000000000) :=
      ⟨2 ^ 52,-52,one_unpack,by decide,by decide,.inl (le_refl _)⟩
    have product := mul_within _ _ first second (by rw [exactly,one,mul_one]; exact bound)
    rw [fast]
    rw [exactly,one,mul_one] at product
    exact product
  · have slow : Float.ofNat n = .ofModel (Float.Model.ofScientific n 0) := by
      change Float.ofScientific n false 0 = _
      unfold Float.ofScientific
      rw [dif_neg (fun both => small both.1)]
      rfl
    have shifted : UnpackedFloat.ofScientific format n 0 =
        roundWithAccuracy format .positive (n <<< 53 * 1) (-53) .exact := by
      unfold UnpackedFloat.ofScientific
      rw [dif_neg (by omega),if_neg (by decide),if_neg (by change ¬(0 : Int) < -(2 ^ 11 + (n.log2 : Int)); omega),if_pos (by decide)]
      rfl
    have same : (n : ℚ) = scaled (n <<< 53 * 1) (-53) := by
      rw [Nat.mul_one,Nat.shiftLeft_eq,← scaled_add]
      exact nat_eq_scaled n
    rw [slow]
    apply pack_within n bound
    rw [shifted,same]
    apply roundWithAccuracy_within format _ _ .exact _ (near_exact _ _)
    apply fine_exponent
    left
    rw [Nat.mul_one,Nat.shiftLeft_eq]
    omega

theorem compare_lt (m m' : Nat) (e e' : Int) (canonical : Canonical format m e) (canonical' : Canonical format m' e')
    (below : e < e') : scaled m e < scaled m' e' := by
  have full : 2 ^ 52 ≤ m' := canonical'.full.resolve_right fun least => by
    have := canonical.least
    omega
  exact scaled_lt_of_exponent format canonical.bits full below

theorem le_parts (m m' : Nat) (e e' : Int) (canonical : Canonical format m e) (canonical' : Canonical format m' e') :
    UnpackedFloat.le (ofParts m e) (ofParts m' e') = true ↔ scaled m e ≤ scaled m' e' := by
  have some_pos : ∀ n i, n ≠ 0 → 0 < scaled n i := by
    intro n i some
    rw [← scaled_zero i,scaled_lt]
    exact Nat.pos_of_ne_zero some
  by_cases none : m = 0
  · have zero : UnpackedFloat.le (ofParts m e) (ofParts m' e') = true := by
      by_cases none' : m' = 0
      · rw [none,none']
        rfl
      · rw [ofParts_zero m e none,ofParts_some m' e' none']
        rfl
    rw [none,scaled_zero] at *
    exact iff_of_true zero (scaled_nonneg m' e')
  by_cases none' : m' = 0
  · have above : UnpackedFloat.le (ofParts m e) (ofParts m' e') = false := by
      rw [ofParts_some m e none,ofParts_zero m' e' none']
      rfl
    rw [above,none',scaled_zero]
    exact iff_of_false Bool.false_ne_true (not_le.mpr (some_pos m e none))
  have compared : UnpackedFloat.le (ofParts m e) (ofParts m' e') = ((compare e e').then (compare m m')).isLE := by
    rw [ofParts_some m e none,ofParts_some m' e' none']
    rfl
  rw [compared]
  rcases Int.lt_trichotomy e e' with below | same | above
  · rw [Int.compare_eq_lt.mpr below]
    exact iff_of_true rfl (compare_lt m m' e e' canonical canonical' below).le
  · rw [same,Int.compare_eq_eq.mpr rfl,scaled_le]
    exact Nat.isLE_compare
  · rw [Int.compare_eq_gt.mpr above]
    exact iff_of_false Bool.false_ne_true (not_le.mpr (compare_lt m' m e' e canonical' canonical above))

theorem le_iff (f g : Float) (first : Nonnegative f) (second : Nonnegative g) : f ≤ g ↔ value f ≤ value g := by
  obtain ⟨m,e,parts,canonical⟩ := first
  obtain ⟨m',e',parts',canonical'⟩ := second
  have compared : f ≤ g ↔ UnpackedFloat.le f.toModel.unpack g.toModel.unpack = true := decide_eq_true_iff
  rw [compared,parts,parts',value_eq f m e parts,value_eq g m' e' parts']
  exact le_parts m m' e e' canonical canonical'

/-- A cast truncates, and stays at the greatest `u64` beyond it. -/
theorem toUInt64_toNat (f : Float) (nonnegative : Nonnegative f) : f.toUInt64.toNat = min ⌊value f⌋₊ (2 ^ 64 - 1) := by
  obtain ⟨m,e,parts,canonical⟩ := nonnegative
  have clamp : ∀ n : Nat, (UInt64.ofNatClamp n).toNat = min n (2 ^ 64 - 1) := by
    intro n
    have size : UInt64.size = 2 ^ 64 := rfl
    unfold UInt64.ofNatClamp
    split
    · change n = _
      rw [Nat.min_eq_left (by omega)]
    · change 2 ^ 64 - 1 = _
      rw [Nat.min_eq_right (by omega)]
  change (UInt64.ofNatClamp (UnpackedFloat.toInt 0 (UInt64.size - 1) f.toModel.unpack).toNat).toNat = _
  rw [clamp,parts,value_eq f m e parts]
  congr 1
  by_cases none : m = 0
  · rw [ofParts_zero m e none,none,scaled_zero,Nat.floor_zero]
    rfl
  have truncated : UnpackedFloat.toInt 0 (UInt64.size - 1) (ofParts m e) =
      ((m * 2 ^ e.toNat / 2 ^ (-e).toNat : Nat) : Int) := by
    have amount : (0 - (e - (e.toNat : Int))).toNat = (-e).toNat := by omega
    rw [ofParts_some m e none]
    change Int.ofNat (ExtendedMantissa.ofMantissaAndAccuracy (m <<< (e - 0).toNat) .exact >>>
      (0 - (e - ((e - 0).toNat : Int))).toNat).mantissa = _
    rw [mantissa_shiftRight,Int.sub_zero,amount,Nat.shiftLeft_eq]
    rfl
  rw [truncated,Int.toNat_natCast]
  rcases Int.le_total 0 e with whole | fraction
  · obtain ⟨k,rfl⟩ := Int.eq_ofNat_of_zero_le whole
    have units : scaled m (k : Nat) = ((m * 2 ^ k : Nat) : ℚ) := by
      rw [nat_eq_scaled,← scaled_add,Int.zero_add]
    rw [Int.toNat_natCast,Int.toNat_neg_natCast,Nat.pow_zero,Nat.div_one,units,Nat.floor_natCast]
  · obtain ⟨k,same⟩ := Int.eq_ofNat_of_zero_le (Int.neg_nonneg_of_nonpos fraction)
    obtain rfl : e = -(k : Int) := by omega
    have quotient : scaled m (-(k : Int)) = (m : ℚ) / ((2 ^ k : Nat) : ℚ) := by
      rw [scaled,zpow_neg,zpow_natCast,div_eq_mul_inv]
      push_cast
      rfl
    rw [Int.neg_neg,Int.toNat_natCast,Int.toNat_neg_natCast,Nat.pow_zero,Nat.mul_one,quotient,Nat.floor_div_eq_div]

end ClearCam.Library.Binary64
