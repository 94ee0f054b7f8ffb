import Mathlib.Algebra.Order.Field.Rat
import Mathlib.Algebra.Order.Field.Power
import Mathlib.Tactic.Linarith
import Mathlib.Tactic.Positivity
import Mathlib.Tactic.Ring

/-! Rounding to a binary format never passes a number that the format has. From this alone a
comparison with such a number can be carried through a computation, whatever the ties. -/
namespace ClearCam.Library.Rounding
open Float.Model Float.Model.UnpackedFloat

def scaled (m : Nat) (e : Int) : ℚ := m * 2 ^ e

theorem scaled_add (m k : Nat) (e : Int) : scaled m (e + k) = scaled (m * 2 ^ k) e := by
  unfold scaled
  rw [zpow_add₀ (by decide),zpow_natCast]
  push_cast
  ring

theorem scaled_le (m m' : Nat) (e : Int) : scaled m e ≤ scaled m' e ↔ m ≤ m' := by
  have unit : (0 : ℚ) < 2 ^ e := by positivity
  unfold scaled
  rw [mul_le_mul_iff_of_pos_right unit,Nat.cast_le]

theorem scaled_lt (m m' : Nat) (e : Int) : scaled m e < scaled m' e ↔ m < m' := by
  rw [← not_le,scaled_le,not_le]

theorem scaled_zero (e : Int) : scaled 0 e = 0 := by
  rw [scaled,Nat.cast_zero,zero_mul]

/-- The bits that were dropped below `e` are known only for being there. -/
structure Near (em : ExtendedMantissa) (e : Int) (x : ℚ) : Prop where
  below : scaled em.mantissa e ≤ x
  above : x < scaled (em.mantissa + 1) e
  dropped : (em.roundBit || em.stickyBit) = true → scaled em.mantissa e < x

theorem Near.shiftRightOne {em : ExtendedMantissa} {e : Int} {x : ℚ} (near : Near em e x) :
    Near em.shiftRightOne (e + 1) x := by
  have halved := Nat.div_add_mod em.mantissa 2
  have kept : scaled (em.mantissa / 2) (e + 1) = scaled (em.mantissa / 2 * 2) e := scaled_add (em.mantissa / 2) 1 e
  have next : scaled (em.mantissa / 2 + 1) (e + 1) = scaled ((em.mantissa / 2 + 1) * 2) e :=
    scaled_add (em.mantissa / 2 + 1) 1 e
  have low : scaled (em.mantissa / 2 * 2) e ≤ scaled em.mantissa e := (scaled_le _ _ e).mpr (by omega)
  constructor
  · change scaled (em.mantissa / 2) (e + 1) ≤ x
    rw [kept]
    exact le_trans low near.below
  · change x < scaled (em.mantissa / 2 + 1) (e + 1)
    rw [next]
    exact lt_of_lt_of_le near.above ((scaled_le _ _ e).mpr (by omega))
  · intro bits
    change scaled (em.mantissa / 2) (e + 1) < x
    change (em.mantissa % 2 != 0 || (em.roundBit || em.stickyBit)) = true at bits
    rw [kept]
    rcases Bool.or_eq_true_iff.mp bits with odd | before
    · have lost : em.mantissa % 2 ≠ 0 := by simpa using odd
      exact lt_of_lt_of_le ((scaled_lt _ _ e).mpr (by omega)) near.below
    · exact lt_of_le_of_lt low (near.dropped before)

theorem Near.shiftRight {em : ExtendedMantissa} {e : Int} {x : ℚ} (near : Near em e x) (k : Nat) :
    Near (em >>> k) (e + k) x := by
  induction k with
  | zero =>
    rw [Int.natCast_zero,Int.add_zero]
    exact near
  | succ k ih =>
    have next := ih.shiftRightOne
    rw [Int.natCast_add,Int.natCast_one,← Int.add_assoc]
    exact next

theorem mantissa_shiftRight (em : ExtendedMantissa) (k : Nat) : (em >>> k).mantissa = em.mantissa / 2 ^ k := by
  induction k with
  | zero => exact (Nat.div_one em.mantissa).symm
  | succ k ih =>
    change (em >>> k).mantissa / 2 = _
    rw [ih,Nat.div_div_eq_div_mul,Nat.pow_succ]

/-- Up by one at most, and only where something was dropped. -/
theorem roundedMantissa_bounds (em : ExtendedMantissa) :
    em.roundedMantissa = em.mantissa ∨ em.roundedMantissa = em.mantissa + 1 ∧ (em.roundBit || em.stickyBit) = true := by
  obtain ⟨m,roundBit,stickyBit⟩ := em
  cases roundBit with
  | false =>
    left
    cases stickyBit with
    | false => rfl
    | true => rfl
  | true =>
    cases stickyBit with
    | true => exact .inr ⟨rfl,rfl⟩
    | false =>
      rcases Nat.mod_two_eq_zero_or_one m with even | odd
      · left
        change m + m % 2 = m
        rw [even,Nat.add_zero]
      · right
        refine ⟨?_,rfl⟩
        change m + m % 2 = m + 1
        rw [odd]

section Format

variable (spec : Format)

def Representable (v : ℚ) : Prop :=
  ∃ m e, m < 2 ^ spec.mantissaBits ∧ spec.minExponent ≤ e ∧ v = scaled m e

/-- `y` is on the same side as `x` of every number that the format has. -/
def Within (x y : ℚ) : Prop := ∀ v, Representable spec v → (v ≤ x → v ≤ y) ∧ (x ≤ v → y ≤ v)

theorem Within.exact {x y : ℚ} (within : Within spec x y) (representable : Representable spec x) : y = x :=
  le_antisymm ((within x representable).2 (le_refl x)) ((within x representable).1 (le_refl x))

structure Canonical (m : Nat) (e : Int) : Prop where
  bits : m < 2 ^ spec.mantissaBits
  least : spec.minExponent ≤ e
  full : 2 ^ spec.mantissaBitsWithoutImplicit ≤ m ∨ e = spec.minExponent

theorem two_pow_bits : 2 ^ spec.mantissaBits = 2 ^ spec.mantissaBitsWithoutImplicit * 2 := by
  unfold Format.mantissaBits
  rw [Nat.add_comm,Nat.pow_succ]

/-- A full mantissa outweighs every smaller exponent. -/
theorem scaled_lt_of_exponent {m m' : Nat} {e e' : Int} (bits : m < 2 ^ spec.mantissaBits)
    (full : 2 ^ spec.mantissaBitsWithoutImplicit ≤ m') (below : e < e') : scaled m e < scaled m' e' := by
  obtain ⟨k,same⟩ : ∃ k : Nat, e' = e + (k + 1 : Nat) := ⟨(e' - e - 1).toNat,by omega⟩
  rw [same,scaled_add,scaled_lt]
  calc m < 2 ^ spec.mantissaBitsWithoutImplicit * 2 := by rw [← two_pow_bits]; exact bits
    _ ≤ m' * 2 := Nat.mul_le_mul_right 2 full
    _ ≤ m' * 2 ^ (k + 1) := Nat.mul_le_mul_left m' (by rw [Nat.pow_succ]; have := Nat.two_pow_pos k; omega)

/-- The step that rounding is about: the exponent is the format's own for `x`. -/
theorem rounded_within (em : ExtendedMantissa) (e : Int) (x : ℚ) (near : Near em e x)
    (full : 2 ^ spec.mantissaBitsWithoutImplicit ≤ em.mantissa ∨ e = spec.minExponent) :
    Within spec x (scaled em.roundedMantissa e) := by
  intro v representable
  obtain ⟨m,e',bits,least,same⟩ := representable
  have atLeast : em.mantissa ≤ em.roundedMantissa := by
    rcases roundedMantissa_bounds em with same | ⟨same,_⟩
    · exact Nat.le_of_eq same.symm
    · rw [same]
      exact Nat.le_succ _
  rw [same]
  by_cases coarse : e ≤ e'
  · -- `v` is a whole number of units
    obtain ⟨k,shift⟩ : ∃ k : Nat, e' = e + k := ⟨(e' - e).toNat,by omega⟩
    rw [shift,scaled_add]
    constructor
    · intro below
      have inside := (scaled_lt _ _ e).mp (lt_of_le_of_lt below near.above)
      exact (scaled_le _ _ e).mpr (by omega)
    · intro above
      rw [scaled_le]
      rcases roundedMantissa_bounds em with kept | ⟨up,dropped⟩
      · rw [kept]
        exact (scaled_le _ _ e).mp (le_trans near.below above)
      · rw [up]
        exact (scaled_lt _ _ e).mp (lt_of_lt_of_le (near.dropped dropped) above)
  · -- `v` lies below the binade of `x`
    have whole : 2 ^ spec.mantissaBitsWithoutImplicit ≤ em.mantissa := full.resolve_right (by omega)
    have small : scaled m e' < scaled em.mantissa e := scaled_lt_of_exponent spec bits whole (by omega)
    constructor
    · intro _
      exact le_trans small.le ((scaled_le _ _ e).mpr atLeast)
    · intro above
      exact absurd (lt_of_lt_of_le small (le_trans near.below above)) (lt_irrefl _)

/-- The exponent that the format has for `m` at `e`, where it is not below `e`, leaves a full mantissa or
is the least. -/
theorem target_full (m k : Nat) (e : Int) (target : spec.targetExponent (totalExponent m e) = e + k) :
    m / 2 ^ k < 2 ^ spec.mantissaBits ∧ spec.minExponent ≤ e + k ∧
      (2 ^ spec.mantissaBitsWithoutImplicit ≤ m / 2 ^ k ∨ e + k = spec.minExponent) := by
  unfold Format.targetExponent totalExponent at target
  have bits : m.log2 + 1 ≤ spec.mantissaBits + k := by omega
  have pow := Nat.two_pow_pos k
  refine ⟨?_,by omega,?_⟩
  · rw [Nat.div_lt_iff_lt_mul pow,← Nat.pow_add]
    exact lt_of_lt_of_le Nat.lt_log2_self (Nat.pow_le_pow_right (by decide) bits)
  · by_cases least : e + k = spec.minExponent
    · exact .inr least
    · left
      have exactly : m.log2 = spec.mantissaBitsWithoutImplicit + k := by
        unfold Format.mantissaBits at target
        omega
      have some : m ≠ 0 := by
        intro none
        rw [none,Nat.log2_zero] at exactly
        have := spec.hm
        omega
      rw [Nat.le_div_iff_mul_le pow,← Nat.pow_add,← exactly]
      exact Nat.log2_self_le some

def ofParts (m : Nat) (e : Int) : UnpackedFloat :=
  if some : m = 0 then .zero .positive else .finite .positive m e (Nat.pos_of_ne_zero some)

theorem shiftToTargetExponent_eq (m k : Nat) (e : Int) (accuracy : Accuracy)
    (amount : (spec.targetExponent (totalExponent m e) - e).toNat = k) :
    shiftToTargetExponent spec m e accuracy = (ExtendedMantissa.ofMantissaAndAccuracy m accuracy >>> k,e + k) := by
  rw [← amount]
  rfl

theorem ofParts_zero (m : Nat) (e : Int) (none : m = 0) : ofParts m e = .zero .positive := dif_pos none

theorem ofParts_some (m : Nat) (e : Int) (some : m ≠ 0) :
    ofParts m e = .finite .positive m e (Nat.pos_of_ne_zero some) :=
  dif_neg some

/-- A mantissa that was rounded up to a power of two loses one more zero, and any other stays. -/
theorem carry (n : Nat) (e : Int) (most : n ≤ 2 ^ spec.mantissaBits) (least : spec.minExponent ≤ e)
    (full : 2 ^ spec.mantissaBitsWithoutImplicit ≤ n ∨ e = spec.minExponent) :
    ∃ m e', (shiftToTargetExponent spec n e .exact).1.mantissa = m ∧ (shiftToTargetExponent spec n e .exact).2 = e' ∧
      Canonical spec m e' ∧ scaled m e' = scaled n e := by
  rcases Nat.lt_or_eq_of_le most with bits | top
  · have log : n.log2 < spec.mantissaBits := by
      by_cases none : n = 0
      · rw [none,Nat.log2_zero]
        unfold Format.mantissaBits
        omega
      · exact (Nat.log2_lt none).mpr bits
    have none : (spec.targetExponent (totalExponent n e) - e).toNat = 0 := by
      unfold Format.targetExponent totalExponent
      omega
    rw [shiftToTargetExponent_eq spec n 0 e .exact none]
    refine ⟨n,e,?_,Int.add_zero e,⟨bits,least,full⟩,rfl⟩
    rw [mantissa_shiftRight,Nat.pow_zero,Nat.div_one]
    rfl
  · have one : (spec.targetExponent (totalExponent n e) - e).toNat = 1 := by
      unfold Format.targetExponent totalExponent
      rw [top,Nat.log2_two_pow]
      omega
    rw [shiftToTargetExponent_eq spec n 1 e .exact one]
    have half : 2 ^ spec.mantissaBits / 2 ^ 1 = 2 ^ spec.mantissaBitsWithoutImplicit := by
      rw [two_pow_bits,Nat.pow_one,Nat.mul_div_cancel _ (by decide)]
    refine ⟨2 ^ spec.mantissaBitsWithoutImplicit,e + 1,?_,rfl,⟨?_,by omega,.inl (le_refl _)⟩,?_⟩
    · rw [mantissa_shiftRight,top]
      exact half
    · rw [two_pow_bits]
      have := Nat.two_pow_pos spec.mantissaBitsWithoutImplicit
      omega
    · rw [top,two_pow_bits]
      exact scaled_add _ 1 e

theorem roundWithAccuracy_within (m : Nat) (e : Int) (accuracy : Accuracy) (x : ℚ)
    (near : Near (ExtendedMantissa.ofMantissaAndAccuracy m accuracy) e x)
    (fine : e ≤ spec.targetExponent (totalExponent m e)) :
    ∃ m' e', roundWithAccuracy spec .positive m e accuracy = ofParts m' e' ∧ Canonical spec m' e' ∧
      Within spec x (scaled m' e') := by
  obtain ⟨k,target⟩ : ∃ k : Nat, spec.targetExponent (totalExponent m e) = e + k :=
    ⟨(spec.targetExponent (totalExponent m e) - e).toNat,by omega⟩
  obtain ⟨bits,least,full⟩ := target_full spec m k e target
  have mantissa : (ExtendedMantissa.ofMantissaAndAccuracy m accuracy >>> k).mantissa = m / 2 ^ k := by
    rw [mantissa_shiftRight]
    cases accuracy with
    | exact => rfl
    | inexact order => cases order <;> rfl
  have first := shiftToTargetExponent_eq spec m k e accuracy (by omega)
  have within := rounded_within spec _ (e + k) x (near.shiftRight k) (by rw [mantissa]; exact full)
  rw [← mantissa] at bits full
  have bounds := roundedMantissa_bounds (ExtendedMantissa.ofMantissaAndAccuracy m accuracy >>> k)
  generalize ExtendedMantissa.ofMantissaAndAccuracy m accuracy >>> k = em at first within bits full bounds
  obtain ⟨m',e',isMantissa,isExponent,canonical,same⟩ := carry spec em.roundedMantissa (e + k)
    (by omega) least (full.imp_left (by omega))
  refine ⟨m',e',?_,canonical,?_⟩
  · unfold roundWithAccuracy
    rw [first,← isMantissa,← isExponent]
    rfl
  · rw [same]
    exact within

end Format

end ClearCam.Library.Rounding
