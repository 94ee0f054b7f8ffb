import ClearCam.Adaptive.Tables
import ClearCam.Library.Transducer

/-! The live adaptation loop. Instants are nanoseconds; `duration_since` saturates
at zero as the standard library's does, which is subtraction on `Nat`. The RTT
estimate is the source's own binary64 arithmetic. -/
namespace ClearCam.Adaptive
open ClearCam.Protocol ClearCam.Library

def second : Nat := 1000000000

def stableSamplesBeforeStepup : Nat := 4
def rttCongestionFactor : Float := 2.0
def stepupCooldown : Nat := 5 * second
def stepdownCooldown : Nat := 2 * second

inductive Action where
  | none
  | stepUp (mode : Mode)
  | stepDown (mode : Mode)
  deriving DecidableEq

def Action.acts : Action → Bool
  | .none => false
  | .stepUp _ | .stepDown _ => true

structure AdaptationState where
  current : Mode
  consecutiveStable : Nat
  baseRttMs : Float
  lastDropCount : UInt64
  lastActionAt : Option Nat
  startAt : Nat
  deriving DecidableEq

structure Sample where
  telemetry : Telemetry
  rttMs : Float
  now : Nat

namespace AdaptationState

def newAt (initial : Mode) (startAt : Nat) : AdaptationState :=
  ⟨initial,0,0.0,0,Option.none,startAt⟩

def reference (s : AdaptationState) : Nat := s.lastActionAt.getD s.startAt

def cooldownElapsed (s : AdaptationState) (now dur : Nat) : Bool :=
  dur ≤ now - s.reference

def isCongested (s : AdaptationState) (x : Sample) : Bool :=
  if 0 < x.telemetry.queueDepth then true
  else if s.lastDropCount < x.telemetry.dropCount then true
  else if s.baseRttMs > 0.0 && x.rttMs > s.baseRttMs * rttCongestionFactor then true
  else false

def reset (s : AdaptationState) (x : Sample) : AdaptationState :=
  {s with consecutiveStable := 0, lastDropCount := x.telemetry.dropCount}

/-- The fields a stable sample updates: the smoothed RTT, the drop count seen and
the saturating `u32` run counter. -/
def settle (s : AdaptationState) (x : Sample) : AdaptationState :=
  {s with
    baseRttMs := if s.baseRttMs == 0.0 then x.rttMs
      else (1.0 - 0.2) * s.baseRttMs + 0.2 * x.rttMs
    lastDropCount := x.telemetry.dropCount
    consecutiveStable := min (s.consecutiveStable + 1) (2^32 - 1)}

@[simp] theorem reset_current (s : AdaptationState) (x : Sample) : (s.reset x).current = s.current := rfl
@[simp] theorem reset_stable (s : AdaptationState) (x : Sample) : (s.reset x).consecutiveStable = 0 := rfl
@[simp] theorem settle_current (s : AdaptationState) (x : Sample) : (s.settle x).current = s.current := rfl

theorem settle_stable_le (s : AdaptationState) (x : Sample) :
    (s.settle x).consecutiveStable ≤ s.consecutiveStable + 1 := Nat.min_le_left _ _

def observe (s : AdaptationState) (x : Sample) : AdaptationState × Action :=
  if s.isCongested x then
    if !s.cooldownElapsed x.now stepdownCooldown then (s,.none)
    else match nextLower (s.reset x).current with
      | some next => ({s.reset x with lastActionAt := some x.now, current := next},.stepDown next)
      | Option.none => (s.reset x,.none)
  else
    if stableSamplesBeforeStepup ≤ (s.settle x).consecutiveStable &&
        (s.settle x).cooldownElapsed x.now stepupCooldown then
      match nextHigher (s.settle x).current with
      | some next =>
        ({s.settle x with consecutiveStable := 0, lastActionAt := some x.now, current := next},.stepUp next)
      | Option.none => (s.settle x,.none)
    else (s.settle x,.none)

end AdaptationState

open AdaptationState

/-- Everything one call of `observe` can do, with the guard each outcome passed. -/
inductive Observed (s : AdaptationState) (x : Sample) : AdaptationState → Action → Prop where
  | held (congested : s.isCongested x = true)
      (early : s.cooldownElapsed x.now stepdownCooldown = false) : Observed s x s .none
  | floor (congested : s.isCongested x = true)
      (elapsed : s.cooldownElapsed x.now stepdownCooldown = true)
      (lowest : nextLower s.current = none) : Observed s x (s.reset x) .none
  | down (next : Mode) (congested : s.isCongested x = true)
      (elapsed : s.cooldownElapsed x.now stepdownCooldown = true)
      (lower : nextLower s.current = some next) :
      Observed s x {s.reset x with lastActionAt := some x.now, current := next} (.stepDown next)
  | up (next : Mode) (stable : s.isCongested x = false)
      (run : stableSamplesBeforeStepup ≤ s.consecutiveStable + 1)
      (elapsed : s.cooldownElapsed x.now stepupCooldown = true)
      (higher : nextHigher s.current = some next) :
      Observed s x {s.settle x with consecutiveStable := 0, lastActionAt := some x.now, current := next}
        (.stepUp next)
  | settled (stable : s.isCongested x = false) : Observed s x (s.settle x) .none

theorem observe_observed (s : AdaptationState) (x : Sample) :
    Observed s x (s.observe x).1 (s.observe x).2 := by
  unfold observe
  cases congested : s.isCongested x with
  | true =>
    cases elapsed : s.cooldownElapsed x.now stepdownCooldown with
    | false => exact .held congested elapsed
    | true =>
      rw [reset_current]
      cases lower : nextLower s.current with
      | none => exact .floor congested elapsed lower
      | some next => exact .down next congested elapsed lower
  | false =>
    by_cases ready : (stableSamplesBeforeStepup ≤ (s.settle x).consecutiveStable &&
        (s.settle x).cooldownElapsed x.now stepupCooldown) = true
    · obtain ⟨run,elapsed⟩ := Bool.and_eq_true_iff.mp ready
      have counted : stableSamplesBeforeStepup ≤ s.consecutiveStable + 1 :=
        Nat.le_trans (of_decide_eq_true run) (settle_stable_le s x)
      simp only [Bool.false_eq_true,if_false,ready,if_true,settle_current]
      cases higher : nextHigher s.current with
      | none => exact .settled congested
      | some next => exact .up next congested counted elapsed higher
    · simp only [Bool.false_eq_true,if_false,ready]
      exact .settled congested

theorem observed_of_eq (s s' : AdaptationState) (x : Sample) (action : Action)
    (call : s.observe x = (s',action)) : Observed s x s' action := by
  have observed := observe_observed s x
  rw [call] at observed
  exact observed

def runs (initial : Mode) (startAt : Nat) (samples : List Sample) :
    List (Transducer.Entry AdaptationState Sample Action) :=
  Transducer.trace observe (newAt initial startAt) samples

theorem runs_observed (initial : Mode) (startAt : Nat) (samples : List Sample) :
    ∀ e ∈ runs initial startAt samples, Observed e.before e.input e.after e.output := by
  intro e member
  have same := Transducer.trace_entry observe (newAt initial startAt) samples e member
  rw [same]
  exact observe_observed e.before e.input

end ClearCam.Adaptive
