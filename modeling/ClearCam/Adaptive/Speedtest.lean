import ClearCam.Adaptive.SelectMode
import Mathlib.Data.Rat.Floor
import Mathlib.Order.Bounds.Basic
import Mathlib.Tactic.Linarith
import Mathlib.Tactic.Positivity
import Mathlib.Tactic.FieldSimp

/-! The speedtest's reduction of step observations to a measurement. It is written once for any
arithmetic: the code runs it in `f64`, and what it computes is stated for the exact numbers. -/
namespace ClearCam.Adaptive
open ClearCam.Protocol

/-- What the evaluation uses of `f64`. -/
class Arithmetic (R : Type) extends Add R, Mul R, Div R where
  lessEq : R → R → Bool
  ofNat : Nat → R
  decimal : Nat → Nat → R
  max : R → R → R
  toUInt64 : R → UInt64

open Arithmetic

/-- `f64::max`, which passes a NaN over. -/
def floatMax (a b : Float) : Float := if a.isNaN then b else if b.isNaN then a else if a ≤ b then b else a

instance : Arithmetic Float where
  lessEq a b := a ≤ b
  ofNat := Float.ofNat
  decimal mantissa places := OfScientific.ofScientific mantissa true places
  max := floatMax
  toUInt64 := Float.toUInt64

/-- The exact numbers. A cast still saturates at the ends of `u64`. -/
instance : Arithmetic ℚ where
  lessEq a b := a ≤ b
  ofNat n := n
  decimal mantissa places := mantissa / 10 ^ places
  max := Max.max
  toUInt64 q := UInt64.ofNat (min ⌊q⌋₊ (2 ^ 64 - 1))

def defaultRampKbps : List UInt64 := [50000,100000,200000,400000,800000]

def defaultStepMs : Nat := 500

/-- A duration is counted in nanoseconds. -/
structure StepObservation (R : Type) where
  targetKbps : UInt64
  receivedBytes : Nat
  duration : Nat
  avgRttMs : R

variable {R : Type} [Arithmetic R]

def asSecs (duration : Nat) : R := ofNat (duration / 10 ^ 9) + ofNat (duration % 10 ^ 9) / ofNat (10 ^ 9)

def StepObservation.measuredKbps (o : StepObservation R) : UInt64 :=
  let secs : R := asSecs o.duration
  if lessEq secs (ofNat 0) then 0 else toUInt64 (ofNat o.receivedBytes * ofNat 8 / ofNat 1000 / secs)

structure SpeedtestPlan where
  stepsKbps : List UInt64
  stepDuration : Nat

def SpeedtestPlan.defaultRamp : SpeedtestPlan := ⟨defaultRampKbps,defaultStepMs * 10 ^ 6⟩

def SpeedtestPlan.totalDuration (plan : SpeedtestPlan) : Nat := plan.stepDuration * plan.stepsKbps.length

@[ext] structure Sweep (R : Type) where
  sustainedKbps : Nat
  maxRtt : R

def fitsThroughput (o : StepObservation R) : Bool :=
  lessEq (ofNat o.targetKbps.toNat * decimal 85 2) (ofNat o.measuredKbps.toNat : R)

def rttOk (baseline : R) (o : StepObservation R) : Bool :=
  lessEq baseline (ofNat 0) || lessEq o.avgRttMs (baseline * ofNat 2)

def sweepStep (baseline : R) (sweep : Sweep R) (o : StepObservation R) : Sweep R where
  sustainedKbps :=
    if fitsThroughput o && rttOk baseline o then
      Max.max sweep.sustainedKbps (min o.measuredKbps.toNat o.targetKbps.toNat)
    else sweep.sustainedKbps
  maxRtt := Arithmetic.max sweep.maxRtt o.avgRttMs

def sweep (observations : List (StepObservation R)) (baseline : R) : Sweep R :=
  observations.foldl (sweepStep baseline) ⟨0,baseline⟩

def evaluate (observations : List (StepObservation Float)) (baseline : Float) : Measurement :=
  let swept := sweep observations baseline
  ⟨Float.ofNat swept.sustainedKbps / 1000.0,swept.maxRtt,0.0,0.0⟩

section Exact

theorem foldl_max_isGreatest {α : Type} [LinearOrder α] (items : List α) (first : α) :
    IsGreatest (insert first {a | a ∈ items}) (items.foldl Max.max first) := by
  induction items generalizing first with
  | nil => exact ⟨Set.mem_insert _ _,by simp [upperBounds]⟩
  | cons item items ih =>
    obtain ⟨member,bound⟩ := ih (Max.max first item)
    rw [List.foldl_cons]
    constructor
    · rcases member with same | later
      · rw [same]
        rcases max_choice first item with isFirst | isItem
        · rw [isFirst]
          exact Set.mem_insert _ _
        · rw [isItem]
          exact .inr List.mem_cons_self
      · exact .inr (List.mem_cons_of_mem item later)
    · intro a inside
      have above := bound (Set.mem_insert _ _)
      rcases inside with same | inside
      · rw [same]
        exact le_trans (le_max_left first item) above
      · rcases List.mem_cons.mp inside with same | inside
        · rw [same]
          exact le_trans (le_max_right first item) above
        · exact bound (.inr inside)

/-- Whole kilobits per second, and none in no time. -/
def exactKbps (o : StepObservation ℚ) : Nat :=
  if o.duration = 0 then 0 else ⌊(o.receivedBytes : ℚ) * 8 / 1000 / (o.duration / 10 ^ 9)⌋₊

/-- The throughput is at least 85% of the target, and the RTT has not doubled from the baseline. -/
def Passes (baseline : ℚ) (o : StepObservation ℚ) : Prop :=
  (o.targetKbps.toNat : ℚ) * (85 / 100) ≤ exactKbps o ∧ (baseline ≤ 0 ∨ o.avgRttMs ≤ 2 * baseline)

/-- More received in the same time against the same target, and no longer a round trip. -/
structure Improves (o better : StepObservation ℚ) : Prop where
  target : better.targetKbps = o.targetKbps
  duration : better.duration = o.duration
  bytes : o.receivedBytes ≤ better.receivedBytes
  rtt : better.avgRttMs ≤ o.avgRttMs

theorem asSecs_eq (duration : Nat) : (asSecs duration : ℚ) = duration / 10 ^ 9 := by
  change ((duration / 10 ^ 9 : Nat) : ℚ) + ((duration % 10 ^ 9 : Nat) : ℚ) / ((10 ^ 9 : Nat) : ℚ) = _
  have whole : ((10 ^ 9 : Nat) : ℚ) * ((duration / 10 ^ 9 : Nat) : ℚ) + ((duration % 10 ^ 9 : Nat) : ℚ) = duration := by
    exact_mod_cast Nat.div_add_mod duration (10 ^ 9)
  rw [← whole]
  push_cast
  field_simp
  ring

theorem measuredKbps_eq (o : StepObservation ℚ) :
    o.measuredKbps.toNat = min (exactKbps o) (2 ^ 64 - 1) := by
  unfold StepObservation.measuredKbps exactKbps
  rw [asSecs_eq]
  by_cases none : o.duration = 0
  · have noSecs : lessEq ((o.duration : ℚ) / 10 ^ 9) (ofNat 0 : ℚ) = true := by
      change decide ((o.duration : ℚ) / 10 ^ 9 ≤ ((0 : Nat) : ℚ)) = true
      simp [none]
    rw [if_pos none,if_pos noSecs]
    rfl
  · have some : (0 : ℚ) < (o.duration : ℚ) / 10 ^ 9 := by
      have pos : (0 : ℚ) < o.duration := by exact_mod_cast Nat.pos_of_ne_zero none
      positivity
    have secs : lessEq ((o.duration : ℚ) / 10 ^ 9) (ofNat 0 : ℚ) = false := by
      change decide ((o.duration : ℚ) / 10 ^ 9 ≤ ((0 : Nat) : ℚ)) = false
      rw [Nat.cast_zero]
      exact decide_eq_false (not_le.mpr some)
    rw [if_neg none,if_neg (by rw [secs]; exact Bool.false_ne_true)]
    apply UInt64.toNat_ofNat_of_lt'
    exact lt_of_le_of_lt (min_le_right _ _) (by decide)

theorem fitsThroughput_iff (o : StepObservation ℚ) :
    fitsThroughput o = true ↔ (o.targetKbps.toNat : ℚ) * (85 / 100) ≤ exactKbps o := by
  have decided : fitsThroughput o = true ↔
      (o.targetKbps.toNat : ℚ) * (85 / 10 ^ 2) ≤ ((min (exactKbps o) (2 ^ 64 - 1) : Nat) : ℚ) := by
    rw [← measuredKbps_eq]
    exact decide_eq_true_iff
  have cents : (85 / 10 ^ 2 : ℚ) = 85 / 100 := by norm_num
  rw [decided,cents]
  by_cases large : exactKbps o ≤ 2 ^ 64 - 1
  · rw [min_eq_left large]
  · -- past the end of `u64` the target is below the cast as well as below the exact number
    have small : (o.targetKbps.toNat : ℚ) ≤ (2 ^ 64 - 1 : Nat) := by
      exact_mod_cast Nat.le_pred_of_lt o.targetKbps.toNat_lt
    have part : (o.targetKbps.toNat : ℚ) * (85 / 100) ≤ o.targetKbps.toNat := by
      have pos : (0 : ℚ) ≤ o.targetKbps.toNat := Nat.cast_nonneg _
      linarith
    have beyond : ((2 ^ 64 - 1 : Nat) : ℚ) ≤ exactKbps o := by exact_mod_cast Nat.le_of_not_le large
    rw [min_eq_right (Nat.le_of_not_le large)]
    exact iff_of_true (le_trans part small) (le_trans part (le_trans small beyond))

theorem rttOk_iff (baseline : ℚ) (o : StepObservation ℚ) :
    rttOk baseline o = true ↔ baseline ≤ 0 ∨ o.avgRttMs ≤ 2 * baseline := by
  have decided : rttOk baseline o = true ↔ baseline ≤ ((0 : Nat) : ℚ) ∨ o.avgRttMs ≤ baseline * ((2 : Nat) : ℚ) := by
    unfold rttOk
    rw [Bool.or_eq_true]
    exact or_congr decide_eq_true_iff decide_eq_true_iff
  rw [decided,Nat.cast_zero,mul_comm]
  rfl

def clampedKbps (o : StepObservation ℚ) : Nat := min (exactKbps o) o.targetKbps.toNat

theorem clamped_eq (o : StepObservation ℚ) : min o.measuredKbps.toNat o.targetKbps.toNat = clampedKbps o := by
  have small := o.targetKbps.toNat_lt
  rw [measuredKbps_eq,clampedKbps,min_assoc,min_eq_right (by omega : o.targetKbps.toNat ≤ 2 ^ 64 - 1)]

/-- The loop in closed form: its two variables do not meet. -/
theorem sweep_eq (observations : List (StepObservation ℚ)) (baseline : ℚ) (first : Sweep ℚ) :
    observations.foldl (sweepStep baseline) first =
      ⟨((observations.filter fun o => fitsThroughput o && rttOk baseline o).map clampedKbps).foldl Max.max
          first.sustainedKbps,
        (observations.map StepObservation.avgRttMs).foldl Max.max first.maxRtt⟩ := by
  induction observations generalizing first with
  | nil => rfl
  | cons o observations ih =>
    rw [List.foldl_cons,ih,List.map_cons,List.foldl_cons]
    by_cases passes : (fitsThroughput o && rttOk baseline o) = true
    · rw [List.filter_cons_of_pos (by exact passes),List.map_cons,List.foldl_cons]
      simp only [sweepStep,if_pos passes,clamped_eq]
      rfl
    · rw [List.filter_cons_of_neg (by exact passes)]
      simp only [sweepStep,if_neg passes]
      rfl

theorem passing_iff (baseline : ℚ) (o : StepObservation ℚ) :
    (fitsThroughput o && rttOk baseline o) = true ↔ Passes baseline o := by
  rw [Bool.and_eq_true,fitsThroughput_iff,rttOk_iff]
  rfl

variable (observations : List (StepObservation ℚ)) (baseline : ℚ)

theorem sustained_isGreatest : IsGreatest
    (insert 0 {kbps | ∃ o ∈ observations, Passes baseline o ∧ kbps = min (exactKbps o) o.targetKbps.toNat})
    (sweep observations baseline).sustainedKbps := by
  have contributed : {kbps | ∃ o ∈ observations, Passes baseline o ∧ kbps = min (exactKbps o) o.targetKbps.toNat} =
      {kbps | kbps ∈ (observations.filter fun o => fitsThroughput o && rttOk baseline o).map clampedKbps} := by
    apply Set.ext
    intro kbps
    simp only [Set.mem_ofPred_eq,List.mem_map,List.mem_filter,passing_iff,clampedKbps]
    constructor
    · intro found
      obtain ⟨o,member,passes,same⟩ := found
      exact ⟨o,⟨member,passes⟩,same.symm⟩
    · intro found
      obtain ⟨o,⟨member,passes⟩,same⟩ := found
      exact ⟨o,member,passes,same.symm⟩
  rw [contributed,sweep,sweep_eq]
  exact foldl_max_isGreatest _ 0

theorem maxRtt_isGreatest : IsGreatest (insert baseline {rtt | ∃ o ∈ observations, rtt = o.avgRttMs})
    (sweep observations baseline).maxRtt := by
  have shown : {rtt | ∃ o ∈ observations, rtt = o.avgRttMs} =
      {rtt | rtt ∈ observations.map StepObservation.avgRttMs} := by
    apply Set.ext
    intro rtt
    simp only [Set.mem_ofPred_eq,List.mem_map,eq_comm]
  rw [shown,sweep,sweep_eq]
  exact foldl_max_isGreatest _ baseline

theorem sweep_perm (other : List (StepObservation ℚ)) (same : observations.Perm other) :
    sweep observations baseline = sweep other baseline := by
  have kbps := sustained_isGreatest observations baseline
  have rtt := maxRtt_isGreatest observations baseline
  simp only [same.mem_iff] at kbps rtt
  have sustained := kbps.unique (sustained_isGreatest other baseline)
  have longest := rtt.unique (maxRtt_isGreatest other baseline)
  exact Sweep.ext sustained longest

theorem sustained_le (bound : Nat) (targets : ∀ o ∈ observations, o.targetKbps.toNat ≤ bound) :
    (sweep observations baseline).sustainedKbps ≤ bound := by
  rcases (sustained_isGreatest observations baseline).1 with none | passed
  · rw [none]
    exact Nat.zero_le bound
  · obtain ⟨o,member,_,same⟩ := passed
    rw [same]
    exact le_trans (Nat.min_le_right _ _) (targets o member)

theorem exactKbps_mono (o better : StepObservation ℚ) (improves : Improves o better) : exactKbps o ≤ exactKbps better := by
  unfold exactKbps
  rw [improves.duration]
  split
  · exact Nat.le_refl 0
  · have bytes : (o.receivedBytes : ℚ) ≤ better.receivedBytes := by exact_mod_cast improves.bytes
    apply Nat.floor_le_floor
    apply div_le_div_of_nonneg_right _ (by positivity)
    linarith

theorem Improves.passes {o better : StepObservation ℚ} (improves : Improves o better) (passes : Passes baseline o) :
    Passes baseline better := by
  obtain ⟨throughput,rtt⟩ := passes
  constructor
  · rw [improves.target]
    exact le_trans throughput (by exact_mod_cast exactKbps_mono o better improves)
  · exact rtt.imp_right (le_trans improves.rtt)

theorem improved_step (better : List (StepObservation ℚ)) (improved : List.Forall₂ Improves observations better)
    (o : StepObservation ℚ) (member : o ∈ observations) : ∃ o' ∈ better, Improves o o' := by
  induction improved with
  | nil => cases member
  | cons improves _ ih =>
    rcases List.mem_cons.mp member with same | later
    · rw [same]
      exact ⟨_,List.mem_cons_self,improves⟩
    · obtain ⟨o',inside,improves⟩ := ih later
      exact ⟨o',List.mem_cons_of_mem _ inside,improves⟩

theorem sustained_mono (better : List (StepObservation ℚ)) (improved : List.Forall₂ Improves observations better) :
    (sweep observations baseline).sustainedKbps ≤ (sweep better baseline).sustainedKbps := by
  rcases (sustained_isGreatest observations baseline).1 with none | passed
  · rw [none]
    exact Nat.zero_le _
  · obtain ⟨o,member,passes,same⟩ := passed
    obtain ⟨o',member',improves⟩ := improved_step observations better improved o member
    calc (sweep observations baseline).sustainedKbps = min (exactKbps o) o'.targetKbps.toNat := by
          rw [same,improves.target]
      _ ≤ min (exactKbps o') o'.targetKbps.toNat := min_le_min_right _ (exactKbps_mono o o' improves)
      _ ≤ (sweep better baseline).sustainedKbps :=
          (sustained_isGreatest better baseline).2 (.inr ⟨o',member',improves.passes baseline passes,rfl⟩)

/-- The goodput is the best that a passing step sustained, and the RTT is the longest. -/
theorem speedtest_evaluation :
    IsGreatest
      (insert 0 {kbps | ∃ o ∈ observations, Passes baseline o ∧ kbps = min (exactKbps o) o.targetKbps.toNat})
      (sweep observations baseline).sustainedKbps ∧
    IsGreatest (insert baseline {rtt | ∃ o ∈ observations, rtt = o.avgRttMs})
      (sweep observations baseline).maxRtt ∧
    (∀ other, observations.Perm other → sweep observations baseline = sweep other baseline) ∧
    (∀ bound, (∀ o ∈ observations, o.targetKbps.toNat ≤ bound) → (sweep observations baseline).sustainedKbps ≤ bound) ∧
    (∀ better, List.Forall₂ Improves observations better →
      (sweep observations baseline).sustainedKbps ≤ (sweep better baseline).sustainedKbps) :=
  ⟨sustained_isGreatest observations baseline,maxRtt_isGreatest observations baseline,
    sweep_perm observations baseline,sustained_le observations baseline,sustained_mono observations baseline⟩

end Exact

end ClearCam.Adaptive
