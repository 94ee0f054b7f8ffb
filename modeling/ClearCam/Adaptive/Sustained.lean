import ClearCam.Adaptive.Speedtest
import ClearCam.Library.Binary64

/-! How many bytes a step of the default ramp needs. The evaluation runs in `f64`, and its roundings
never carry a byte count across a threshold. -/
namespace ClearCam.Adaptive
open ClearCam.Library.Rounding ClearCam.Library.Binary64

theorem ofNat_small (n : Nat) (small : n < 2 ^ 53) : Nonnegative (Float.ofNat n) ∧ value (Float.ofNat n) = n := by
  obtain ⟨nonnegative,within⟩ := ofNat_within n (nat_le_limit n 53 (by decide) small.le)
  exact ⟨nonnegative,within.exact format (representable_nat n small)⟩

theorem half_second : (asSecs (500 * 10 ^ 6) : Float) = Float.ofBits 0x3FE0000000000000 :=
  rfl

theorem half_second_value : Nonnegative (asSecs (500 * 10 ^ 6)) ∧ value (asSecs (500 * 10 ^ 6)) = 1 / 2 := by
  have parts : (Float.ofBits 0x3FE0000000000000).toModel.unpack = ofParts (2 ^ 52) (-53) := rfl
  rw [half_second]
  refine ⟨⟨2 ^ 52,-53,parts,by decide,by decide,.inl (le_refl _)⟩,?_⟩
  rw [value_eq _ _ _ parts,scaled]
  norm_num

def bitrate (bytes : Nat) : Float :=
  Float.ofNat bytes * Float.ofNat 8 / Float.ofNat 1000 / asSecs (500 * 10 ^ 6)

/-- The four roundings of the measurement. -/
theorem bitrate_stages (bytes : Nat) (fits : bytes < 2 ^ 64) : ∃ received bits kilobits : ℚ,
    Within format bytes received ∧ Within format (received * 8) bits ∧ Within format (bits / 1000) kilobits ∧
      Within format (kilobits / (1 / 2)) (value (bitrate bytes)) ∧ Nonnegative (bitrate bytes) := by
  have below : ∀ (k : Nat) (x y : ℚ), k ≤ 1023 → Within format x y → x ≤ (2 ^ k : Nat) → y ≤ (2 ^ k : Nat) := by
    intro k x y range within bound
    exact (within _ ⟨1,k,by decide,by change (-1074 : Int) ≤ k; omega,by rw [scaled,zpow_natCast]; push_cast; ring⟩).2 bound
  have limited : ∀ (k : Nat) (x : ℚ), k ≤ 1023 → x ≤ (2 ^ k : Nat) → x ≤ limit :=
    fun k x range bound => le_trans bound (two_pow_le_limit k range)
  obtain ⟨eight,eightValue⟩ := ofNat_small 8 (by decide)
  obtain ⟨thousand,thousandValue⟩ := ofNat_small 1000 (by decide)
  obtain ⟨half,halfValue⟩ := half_second_value
  have bytesBound : (bytes : ℚ) ≤ (2 ^ 64 : Nat) := by exact_mod_cast fits.le
  obtain ⟨first,received⟩ := ofNat_within bytes (nat_le_limit bytes 64 (by decide) fits.le)
  have receivedBound := below 64 _ _ (by decide) received bytesBound
  have bitsBound : value (Float.ofNat bytes) * value (Float.ofNat 8) ≤ (2 ^ 67 : Nat) := by
    rw [eightValue]
    push_cast at receivedBound ⊢
    linarith
  obtain ⟨second,bits⟩ := mul_within _ _ first eight (limited 67 _ (by decide) bitsBound)
  have sentBound := below 67 _ _ (by decide) bits bitsBound
  have nonneg := second.value_nonneg
  have kilobitsBound : value (Float.ofNat bytes * Float.ofNat 8) / value (Float.ofNat 1000) ≤ (2 ^ 67 : Nat) := by
    rw [thousandValue]
    exact le_trans (div_le_self nonneg (by norm_num)) sentBound
  obtain ⟨third,kilobits⟩ := div_within _ _ second thousand (by rw [thousandValue]; norm_num) (limited 67 _ (by decide) kilobitsBound)
  have measuredBound := below 67 _ _ (by decide) kilobits kilobitsBound
  have rateBound : value (Float.ofNat bytes * Float.ofNat 8 / Float.ofNat 1000) / value (asSecs (500 * 10 ^ 6)) ≤ (2 ^ 68 : Nat) := by
    rw [halfValue]
    push_cast at measuredBound ⊢
    linarith
  obtain ⟨fourth,rate⟩ := div_within _ _ third half (by rw [halfValue]; norm_num) (limited 68 _ (by decide) rateBound)
  rw [eightValue] at bits
  rw [thousandValue] at kilobits
  rw [halfValue] at rate
  exact ⟨_,_,_,received,bits,kilobits,rate,fourth⟩

/-! A number of the format is carried along the chain of the measurement, on its side of the exact one. -/

theorem bitrate_below (bytes : Nat) (fits : bytes < 2 ^ 64) (half : Nat) (small : half < 2 ^ 40) (short : bytes < 125 * half) :
    value (bitrate bytes) < ((2 * half : Nat) : ℚ) := by
  obtain ⟨received,bits,kilobits,first,second,third,fourth,_⟩ := bitrate_stages bytes fits
  have last : (bytes : ℚ) + 1 ≤ 125 * half := by exact_mod_cast short
  have one : received ≤ (125 * half - 1 : Nat) := by
    apply (first _ (representable_nat _ (by omega))).2
    rw [Nat.cast_sub (by omega)]
    push_cast
    linarith
  have two : bits ≤ (1000 * half - 8 : Nat) := by
    apply (second _ (representable_nat _ (by omega))).2
    rw [Nat.cast_sub (by omega)] at one ⊢
    push_cast at one ⊢
    linarith
  -- eight thousandths are missing, and the format has a number that misses one part in 128
  have part : ∀ e : Int, scaled (128 * half - 1) e = (128 * half - 1) * 2 ^ e := by
    intro e
    rw [scaled,Nat.cast_sub (by omega)]
    push_cast
    rfl
  have three : kilobits ≤ scaled (128 * half - 1) (-7) := by
    apply (third _ ⟨128 * half - 1,-7,by change _ < 2 ^ 53; omega,by decide,rfl⟩).2
    rw [Nat.cast_sub (by omega)] at two
    rw [part]
    push_cast at two
    norm_num
    linarith
  have four : value (bitrate bytes) ≤ scaled (128 * half - 1) (-6) := by
    apply (fourth _ ⟨128 * half - 1,-6,by change _ < 2 ^ 53; omega,by decide,rfl⟩).2
    rw [part] at three ⊢
    norm_num at three ⊢
    linarith
  apply lt_of_le_of_lt four
  rw [part]
  push_cast
  norm_num
  linarith

theorem bitrate_reaches (bytes : Nat) (fits : bytes < 2 ^ 64) (half : Nat) (small : half < 2 ^ 40) (enough : 125 * half ≤ bytes) :
    ((2 * half : Nat) : ℚ) ≤ value (bitrate bytes) := by
  obtain ⟨received,bits,kilobits,first,second,third,fourth,_⟩ := bitrate_stages bytes fits
  have one : ((125 * half : Nat) : ℚ) ≤ received :=
    (first _ (representable_nat _ (by omega))).1 (by exact_mod_cast enough)
  have two : ((1000 * half : Nat) : ℚ) ≤ bits := by
    apply (second _ (representable_nat _ (by omega))).1
    push_cast at one ⊢
    linarith
  have three : (half : ℚ) ≤ kilobits := by
    apply (third _ (representable_nat _ (by omega))).1
    push_cast at two
    linarith
  apply (fourth _ (representable_nat _ (by omega))).1
  push_cast
  linarith

theorem bitrate_ge_iff (bytes : Nat) (fits : bytes < 2 ^ 64) (half : Nat) (small : half < 2 ^ 40) :
    ((2 * half : Nat) : ℚ) ≤ value (bitrate bytes) ↔ 125 * half ≤ bytes := by
  constructor
  · intro reached
    by_contra short
    exact absurd (bitrate_below bytes fits half small (Nat.lt_of_not_le short)) (not_lt.mpr reached)
  · exact bitrate_reaches bytes fits half small

theorem measured_ge_iff (o : StepObservation Float) (halfSecond : o.duration = 500 * 10 ^ 6)
    (fits : o.receivedBytes < 2 ^ 64) (half : Nat) (small : half < 2 ^ 40) :
    2 * half ≤ o.measuredKbps.toNat ↔ 125 * half ≤ o.receivedBytes := by
  obtain ⟨_,_,_,_,_,_,_,nonnegative⟩ := bitrate_stages o.receivedBytes fits
  have measured : o.measuredKbps = (bitrate o.receivedBytes).toUInt64 := by
    have passes : Arithmetic.lessEq (asSecs (500 * 10 ^ 6) : Float) (Arithmetic.ofNat 0) = false := rfl
    unfold StepObservation.measuredKbps
    rw [halfSecond]
    simp only [passes]
    rfl
  rw [measured,toUInt64_toNat _ nonnegative,le_min_iff,Nat.le_floor_iff nonnegative.value_nonneg,
    bitrate_ge_iff o.receivedBytes fits half small]
  exact and_iff_left (by omega)

theorem ofNat_le_iff (low n : Nat) (small : low < 2 ^ 53) (fits : n < 2 ^ 64) :
    Float.ofNat low ≤ Float.ofNat n ↔ low ≤ n := by
  obtain ⟨first,lowValue⟩ := ofNat_small low small
  obtain ⟨second,within⟩ := ofNat_within n (nat_le_limit n 64 (by decide) fits.le)
  rw [le_iff _ _ first second,lowValue]
  constructor
  · intro reached
    by_contra short
    have last : value (Float.ofNat n) ≤ (low - 1 : Nat) :=
      (within _ (representable_nat (low - 1) (by omega))).2 (by exact_mod_cast (by omega))
    have below : ((low - 1 : Nat) : ℚ) < low := by exact_mod_cast (by omega)
    exact absurd (lt_of_le_of_lt last below) (not_lt.mpr reached)
  · intro enough
    exact (within _ (representable_nat low small)).1 (by exact_mod_cast enough)

/-- The bytes in 85% of what half a second at the target carries. -/
def enoughBytes (targetKbps : Nat) : Nat := targetKbps * 1000 * 85 / 100 / 2 / 8

theorem ramp_thresholds (targetKbps : UInt64) (listed : targetKbps ∈ defaultRampKbps) :
    Float.ofNat targetKbps.toNat * OfScientific.ofScientific 85 true 2 = Float.ofNat (2 * (targetKbps.toNat * 85 / 200)) ∧
    125 * (targetKbps.toNat * 85 / 200) = enoughBytes targetKbps.toNat ∧ targetKbps.toNat * 85 / 200 < 2 ^ 40 := by
  simp only [defaultRampKbps,List.mem_cons,List.not_mem_nil,or_false] at listed
  rcases listed with rfl | rfl | rfl | rfl | rfl <;> decide +kernel

theorem sustained_iff (o : StepObservation Float) (listed : o.targetKbps ∈ defaultRampKbps)
    (halfSecond : o.duration = 500 * 10 ^ 6) (fits : o.receivedBytes < 2 ^ 64) :
    (fitsThroughput o && rttOk 0.0 o) = true ↔ enoughBytes o.targetKbps.toNat ≤ o.receivedBytes := by
  obtain ⟨threshold,bytes,small⟩ := ramp_thresholds o.targetKbps listed
  have noBaseline : rttOk 0.0 o = true := by
    have zero : Arithmetic.lessEq (0.0 : Float) (Arithmetic.ofNat 0) = true := rfl
    rw [rttOk,zero,Bool.true_or]
  have compared : fitsThroughput o = true ↔
      Float.ofNat o.targetKbps.toNat * OfScientific.ofScientific 85 true 2 ≤ Float.ofNat o.measuredKbps.toNat :=
    decide_eq_true_iff
  rw [noBaseline,Bool.and_true,compared,threshold,ofNat_le_iff _ _ (by omega) o.measuredKbps.toNat_lt,
    measured_ge_iff o halfSecond fits _ small,bytes]

end ClearCam.Adaptive
