import ClearCam.Adaptive.Sustained
import ClearCam.App.Speedtest
import Mathlib.Data.List.MinMax

/-! When the bytes of a step arrive. `run_speedtest` attributes them to steps by their markers alone and
divides the sum by the length of a step, so that bytes from all of the ramp count as if they had come
within one step. -/
namespace ClearCam.App
open ClearCam.Protocol ClearCam.Adaptive ClearCam.Session
open ClearCam.Media (SpeedtestArrival SpeedTestCounter)

/-- An arrival between the two drains. Time is counted in nanoseconds, as a duration is. -/
structure TimedArrival where
  time : Nat
  arrival : SpeedtestArrival

def untimed (trace : List TimedArrival) : List SpeedtestArrival := trace.map TimedArrival.arrival

def timedRamp (send : ControlMessage → Except String Unit) (counter : SpeedTestCounter)
    (trace : List TimedArrival) : Ramp :=
  ⟨send,counter,untimed trace⟩

/-- The bytes of a step that arrive from `start` on for `length`, both ends included. -/
def windowBytes (trace : List TimedArrival) (i start length : Nat) : Nat :=
  ((trace.filter fun a => a.arrival.stepIndex.toNat = i ∧ start ≤ a.time ∧ a.time ≤ start + length).map
    fun a => a.arrival.payloadBytes).sum

/-- 85% of what the target carries in a step arrives within some interval of that length at most. -/
def ReallySustained (plan : SpeedtestPlan) (trace : List TimedArrival) (i : Nat) (targetKbps : UInt64) : Prop :=
  ∃ start length, length ≤ plan.stepDuration ∧
    85 * (targetKbps.toNat * plan.stepDuration) ≤ 100 * (8 * windowBytes trace i start length * 10 ^ 6)

section Windows

theorem filtered_sum_le (trace : List TimedArrival) (p q : TimedArrival → Bool)
    (wider : ∀ a ∈ trace, p a = true → q a = true) :
    ((trace.filter p).map fun a => a.arrival.payloadBytes).sum ≤ ((trace.filter q).map fun a => a.arrival.payloadBytes).sum := by
  induction trace with
  | nil => exact Nat.le_refl 0
  | cons a trace ih =>
    have rest := ih fun b later => wider b (List.mem_cons_of_mem a later)
    by_cases inside : p a = true
    · rw [List.filter_cons,List.filter_cons,if_pos inside,if_pos (wider a List.mem_cons_self inside),
        List.map_cons,List.map_cons,List.sum_cons,List.sum_cons]
      exact Nat.add_le_add_left rest _
    · rw [List.filter_cons,if_neg inside]
      refine Nat.le_trans rest ?_
      rw [List.filter_cons]
      split
      · rw [List.map_cons,List.sum_cons]
        exact Nat.le_add_left _ _
      · exact Nat.le_refl _

/-- A window can begin at the first arrival in it. -/
theorem window_anchored (trace : List TimedArrival) (i start length longest bytes : Nat) (short : length ≤ longest)
    (some : 0 < bytes) (reached : bytes ≤ windowBytes trace i start length) :
    ∃ a ∈ trace, a.arrival.stepIndex.toNat = i ∧ bytes ≤ windowBytes trace i a.time longest := by
  obtain ⟨inside,isInside⟩ : ∃ inside, inside = trace.filter fun a =>
      a.arrival.stepIndex.toNat = i ∧ start ≤ a.time ∧ a.time ≤ start + length := ⟨_,rfl⟩
  cases first : inside.argmin TimedArrival.time with
  | none =>
    have empty := List.argmin_eq_none.mp first
    unfold windowBytes at reached
    rw [← isInside,empty] at reached
    exact absurd (Nat.lt_of_lt_of_le some reached) (Nat.lt_irrefl 0)
  | some a =>
    have member := List.argmin_mem first
    rw [isInside,List.mem_filter,decide_eq_true_iff] at member
    obtain ⟨listed,step,_,_⟩ := member
    refine ⟨a,listed,step,Nat.le_trans reached ?_⟩
    apply filtered_sum_le
    intro b later within
    have bInside : b ∈ inside := by
      rw [isInside]
      exact List.mem_filter.mpr ⟨later,within⟩
    have earliest := List.le_of_mem_argmin bInside first
    rw [decide_eq_true_iff] at within ⊢
    omega

end Windows

theorem ramp_steps : ∀ i < 5,
    defaultRampKbps[i]? = some (UInt64.ofNat (50000 * 2 ^ i)) ∧ UInt64.ofNat (50000 * 2 ^ i) ∈ defaultRampKbps ∧
    (UInt64.ofNat (50000 * 2 ^ i)).toNat = 50000 * 2 ^ i ∧ enoughBytes (50000 * 2 ^ i) = 2656250 * 2 ^ i := by
  decide

theorem observed (arrivals : List SpeedtestArrival) (i : Nat) (inside : i < 5) :
    (observations SpeedtestPlan.defaultRamp arrivals)[i]? =
      some ⟨UInt64.ofNat (50000 * 2 ^ i),bytesOfStep arrivals i % 2 ^ 64,500 * 10 ^ 6,0.0⟩ := by
  have target : SpeedtestPlan.defaultRamp.stepsKbps[i]? = some (UInt64.ofNat (50000 * 2 ^ i)) := (ramp_steps i inside).1
  rw [observations,List.getElem?_mapIdx,target,Option.map_some,bytesForStep_eq arrivals i (by omega)]
  rfl

theorem observed_sustained_iff (arrivals : List SpeedtestArrival) (i : Nat) (inside : i < 5) :
    let o : StepObservation Float := ⟨UInt64.ofNat (50000 * 2 ^ i),bytesOfStep arrivals i % 2 ^ 64,500 * 10 ^ 6,0.0⟩
    (fitsThroughput o && rttOk 0.0 o) = true ↔ 2656250 * 2 ^ i ≤ bytesOfStep arrivals i % 2 ^ 64 := by
  intro o
  obtain ⟨_,listed,target,enough⟩ := ramp_steps i inside
  have counted := sustained_iff o listed rfl (Nat.mod_lt _ (by decide))
  rw [target,enough] at counted
  exact counted

theorem reallySustained_iff (trace : List TimedArrival) (i : Nat) (inside : i < 5) :
    ReallySustained SpeedtestPlan.defaultRamp trace i (UInt64.ofNat (50000 * 2 ^ i)) ↔
      ∃ a ∈ trace, a.arrival.stepIndex.toNat = i ∧
        2656250 * 2 ^ i ≤ windowBytes trace i a.time SpeedtestPlan.defaultRamp.stepDuration := by
  have target := (ramp_steps i inside).2.2.1
  have bits : ∀ bytes : Nat, 85 * (50000 * 2 ^ i * (500 * 10 ^ 6)) ≤ 100 * (8 * bytes * 10 ^ 6) ↔
      2656250 * 2 ^ i ≤ bytes := by
    intro bytes
    omega
  unfold ReallySustained
  rw [target]
  constructor
  · intro sustained
    obtain ⟨start,length,short,reached⟩ := sustained
    exact window_anchored trace i start length _ _ short (Nat.mul_pos (by decide) (Nat.two_pow_pos i)) ((bits _).mp reached)
  · intro anchored
    obtain ⟨a,_,_,reached⟩ := anchored
    exact ⟨a.time,_,Nat.le_refl _,(bits _).mpr reached⟩

/-- A step counts by its total; the total may have come in slowly, or late. -/
theorem sustained_steps_iff (send : ControlMessage → Except String Unit) (counter : SpeedTestCounter)
    (trace : List TimedArrival) :
    let plan := SpeedtestPlan.defaultRamp
    (∀ i o, (observations plan (timedRamp send counter trace).arrivals)[i]? = some o →
      (fitsThroughput o && rttOk 0.0 o) = true → ReallySustained plan trace i o.targetKbps) ↔
    ∀ i < 5, bytesOfStep (untimed trace) i % 2 ^ 64 < 2656250 * 2 ^ i ∨
      ∃ a ∈ trace, a.arrival.stepIndex.toNat = i ∧ 2656250 * 2 ^ i ≤ windowBytes trace i a.time plan.stepDuration := by
  intro plan
  rw [arrivals_recorded]
  constructor
  · intro really i inside
    rcases Nat.lt_or_ge (bytesOfStep (untimed trace) i % 2 ^ 64) (2656250 * 2 ^ i) with short | enough
    · exact .inl short
    · have sustained := (observed_sustained_iff (untimed trace) i inside).mpr enough
      have window := really i _ (observed (untimed trace) i inside) sustained
      exact .inr ((reallySustained_iff trace i inside).mp window)
  · intro condition i o isStep sustained
    have inside : i < 5 := by
      have listed := (List.getElem?_eq_some_iff.mp isStep).1
      rw [observations,List.length_mapIdx] at listed
      exact listed
    have same := isStep.symm.trans (observed (untimed trace) i inside)
    rw [Option.some.injEq] at same
    subst same
    have enough := (observed_sustained_iff (untimed trace) i inside).mp sustained
    exact (reallySustained_iff trace i inside).mpr ((condition i inside).resolve_left (Nat.not_lt.mpr enough))

def slowTrace : List TimedArrival := [⟨1100 * 10 ^ 6,⟨0,1382400⟩⟩,⟨2200 * 10 ^ 6,⟨0,1382400⟩⟩]

theorem slow_link_counts : (∀ a ∈ slowTrace, a.time ≤ SpeedtestPlan.defaultRamp.totalDuration + 300 * 10 ^ 6) ∧
    ∃ o, (observations SpeedtestPlan.defaultRamp (timedRamp (fun _ => .ok ()) [] slowTrace).arrivals)[0]? = some o ∧
      (fitsThroughput o && rttOk 0.0 o) = true ∧ o.measuredKbps = 44236 ∧
      ¬ReallySustained SpeedtestPlan.defaultRamp slowTrace 0 o.targetKbps := by
  have unsustained : ¬ReallySustained SpeedtestPlan.defaultRamp slowTrace 0 (UInt64.ofNat (50000 * 2 ^ 0)) := by
    rw [reallySustained_iff slowTrace 0 (by decide)]
    decide
  exact ⟨by decide,_,observed (untimed slowTrace) 0 (by decide),by decide +kernel,by decide +kernel,unsustained⟩

end ClearCam.App
