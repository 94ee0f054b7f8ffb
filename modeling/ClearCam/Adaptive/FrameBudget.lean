import ClearCam.Adaptive.Speedtest
import Mathlib.Algebra.Order.Ring.Nat

/-! The whole frames that a step of the ramp is made of, and when they carry what its evaluation asks
for. Frames are counted by their bits rounded down, and the evaluation lets 15% be missing. -/
namespace ClearCam.Adaptive

/-- Products wrap as in a release build. -/
def framesPerStepForTarget (targetKbps : UInt64) (width height : UInt32) (stepMs : UInt64) : UInt32 :=
  let frameBits := width.toUInt64 * height.toUInt64 * 12
  if frameBits = 0 then 0
  else
    let totalBits := targetKbps * 1000 * stepMs / 1000
    let frames := max (totalBits / frameBits).toNat 1
    if frames < 2 ^ 32 then UInt32.ofNat frames else 4294967295

/-- `k` frames carry too few bytes for a step of `scale` times 50 Mbit/s, and `k + 1` have too many bits. -/
def FallsShort (scale pixels k : Nat) : Prop :=
  k * (pixels * 3 / 2) < 2656250 * scale ∧ 25000000 * scale < (k + 1) * (pixels * 12)

/-- A frame of an odd size loses half a byte. -/
theorem frames_bytes (pixels n : Nat) : 3 * (n * pixels) ≤ 2 * (n * (pixels * 3 / 2)) + n := by
  have half : 3 * pixels ≤ 2 * (pixels * 3 / 2) + 1 := by omega
  calc 3 * (n * pixels) = n * (3 * pixels) := by ring
    _ ≤ n * (2 * (pixels * 3 / 2) + 1) := Nat.mul_le_mul_left n half
    _ = 2 * (n * (pixels * 3 / 2)) + n := by ring

theorem few_enough_iff (scale pixels n : Nat) (atLeast : 1 ≤ n) (few : n ≤ 5)
    (noRoom : 25000000 * scale < (n + 1) * (pixels * 12)) (fits : n * (pixels * 12) ≤ 25000000 * scale ∨ n = 1) :
    2656250 * scale ≤ n * (pixels * 3 / 2) ↔ ∀ k, 1 ≤ k → k ≤ 5 → ¬FallsShort scale pixels k := by
  constructor
  · intro enough k one five short
    obtain ⟨little,beyond⟩ := short
    rcases Nat.lt_trichotomy k n with below | same | above
    · have inside : (k + 1) * (pixels * 12) ≤ n * (pixels * 12) := Nat.mul_le_mul_right _ below
      omega
    · rw [same] at little
      omega
    · have more : (n + 1) * (pixels * 12) ≤ k * (pixels * 12) := Nat.mul_le_mul_right _ above
      have bits : k * (pixels * 12) = 12 * (k * pixels) := by ring
      have bytes := frames_bytes pixels k
      omega
  · intro never
    have notShort := never n atLeast few
    unfold FallsShort at notShort
    omega

/-- Six frames or more leave out less than a seventh of the bits. -/
theorem many_enough (scale pixels n : Nat) (some : 0 < scale) (many : 6 ≤ n) (two : 2 ≤ pixels)
    (noRoom : 25000000 * scale < (n + 1) * (pixels * 12)) : 2656250 * scale ≤ n * (pixels * 3 / 2) := by
  have bits : (n + 1) * (pixels * 12) = 12 * (n * pixels) + 12 * pixels := by ring
  have bytes := frames_bytes pixels n
  have six : 6 * pixels ≤ n * pixels := Nat.mul_le_mul_right pixels many
  -- the half bytes weigh most in small frames, the bits left out in large ones
  rcases Nat.lt_or_ge pixels 1000 with small | large
  · rcases Nat.lt_or_eq_of_le two with three | same
    · have third : n * 3 ≤ n * pixels := Nat.mul_le_mul_left n three
      omega
    · rw [← same] at noRoom ⊢
      omega
  · have part : n * 1000 ≤ n * pixels := Nat.mul_le_mul_left n large
    omega

theorem whole_frames_iff (scale pixels : Nat) (some : 0 < scale) (shown : 0 < pixels) :
    2656250 * scale ≤ max 1 (25000000 * scale / (pixels * 12)) * (pixels * 3 / 2) ↔
      pixels ≠ 1 ∧ ∀ k, 1 ≤ k → k ≤ 5 → ¬FallsShort scale pixels k := by
  have division := Nat.div_add_mod (25000000 * scale) (pixels * 12)
  have left := Nat.mod_lt (25000000 * scale) (by omega : 0 < pixels * 12)
  generalize isQuotient : 25000000 * scale / (pixels * 12) = quotient at division ⊢
  by_cases single : pixels = 1
  · refine iff_of_false ?_ (fun condition => condition.1 single)
    rw [single] at isQuotient ⊢
    omega
  rw [and_iff_right single]
  rw [Nat.mul_comm] at division
  have next : ∀ n, (n + 1) * (pixels * 12) = n * (pixels * 12) + pixels * 12 := fun n => Nat.succ_mul n _
  rcases Nat.eq_zero_or_pos quotient with none | one
  · rw [none] at division ⊢
    exact few_enough_iff scale pixels 1 (Nat.le_refl 1) (by decide) (by omega) (.inr rfl)
  · rw [Nat.max_eq_right one]
    rcases Nat.lt_or_ge quotient 6 with few | many
    · exact few_enough_iff scale pixels quotient one (by omega) (by rw [next]; omega) (.inl (by omega))
    · have enough := many_enough scale pixels quotient some many (by omega) (by rw [next]; omega)
      refine iff_of_true enough ?_
      intro k _ five short
      have inside : (k + 1) * (pixels * 12) ≤ quotient * (pixels * 12) := Nat.mul_le_mul_right _ (by omega)
      exact absurd short.2 (by omega)

theorem frameBits_toNat (width height : UInt16) :
    (width.toUInt32.toUInt64 * height.toUInt32.toUInt64 * 12).toNat = width.toNat * height.toNat * 12 := by
  have area : width.toNat * height.toNat ≤ 65535 * 65535 :=
    Nat.mul_le_mul (Nat.le_of_lt_succ width.toNat_lt) (Nat.le_of_lt_succ height.toNat_lt)
  rw [UInt64.toNat_mul,UInt64.toNat_mul,UInt32.toNat_toUInt64,UInt32.toNat_toUInt64,UInt16.toNat_toUInt32,
    UInt16.toNat_toUInt32,Nat.mod_eq_of_lt (by omega : width.toNat * height.toNat < 2 ^ 64)]
  exact Nat.mod_eq_of_lt (by change _ * 12 < 2 ^ 64; omega)

theorem totalBits_toNat : ∀ i < 5, (UInt64.ofNat (50000 * 2 ^ i) * 1000 * 500 / 1000).toNat = 25000000 * 2 ^ i := by
  decide

theorem framesPerStep_toNat (width height : UInt16) (shown : 0 < width.toNat * height.toNat) (i : Nat) (inside : i < 5) :
    (framesPerStepForTarget (UInt64.ofNat (50000 * 2 ^ i)) width.toUInt32 height.toUInt32 500).toNat =
      max 1 (25000000 * 2 ^ i / (width.toNat * height.toNat * 12)) := by
  have bits := frameBits_toNat width height
  have some : ¬width.toUInt32.toUInt64 * height.toUInt32.toUInt64 * 12 = 0 := by
    intro none
    rw [none] at bits
    change 0 = _ at bits
    omega
  have quotient : (UInt64.ofNat (50000 * 2 ^ i) * 1000 * 500 / 1000 /
      (width.toUInt32.toUInt64 * height.toUInt32.toUInt64 * 12)).toNat =
        25000000 * 2 ^ i / (width.toNat * height.toNat * 12) := by
    rw [UInt64.toNat_div,totalBits_toNat i inside,bits]
  have most : 25000000 * 2 ^ i / (width.toNat * height.toNat * 12) ≤ 25000000 * 2 ^ 4 :=
    Nat.le_trans (Nat.div_le_self _ _) (Nat.mul_le_mul_left _ (Nat.pow_le_pow_right (by decide) (by omega)))
  unfold framesPerStepForTarget
  dsimp only
  rw [if_neg some,quotient,Nat.max_comm,if_pos (by omega),UInt32.toNat_ofNat_of_lt' (by change _ < 2 ^ 32; omega)]

end ClearCam.Adaptive
