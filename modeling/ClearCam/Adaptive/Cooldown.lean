import ClearCam.Adaptive.Adaptation
import Mathlib.Data.List.Induction

/-! How often the loop may act. Two clocks bound it: the time since the last action,
which every action restarts, and the run of stable samples, which every action and
every congested sample outside the cooldown clears. A congested sample inside the
step-down cooldown returns early and leaves the run as it was. -/
namespace ClearCam.Adaptive
open ClearCam.Protocol ClearCam.Library AdaptationState

abbrev Call := Transducer.Entry AdaptationState Sample Action

def Stable (e : Call) : Bool := !e.before.isCongested e.input

/-- A congested sample that the step-down cooldown keeps without any effect. -/
def HeldBack (e : Call) : Bool :=
  e.before.isCongested e.input && !e.before.cooldownElapsed e.input.now stepdownCooldown

theorem observe_stable_le (s : AdaptationState) (x : Sample) :
    (s.observe x).1.consecutiveStable ≤
      s.consecutiveStable + if Stable (Transducer.entry observe s x) then 1 else 0 := by
  rcases call : s.observe x with ⟨after,action⟩
  have judged : Stable (Transducer.entry observe s x) = !s.isCongested x := rfl
  rw [judged]
  cases observed_of_eq s after x action call with
  | held congested early => simp [congested]
  | floor congested elapsed lowest => simp
  | down next congested elapsed lower => simp
  | up next stable run elapsed higher => simp
  | settled stable =>
    have step := settle_stable_le s x
    simpa [stable] using step

theorem stateAfter_stable_le (s : AdaptationState) (xs : List Sample) :
    (Transducer.stateAfter observe s xs).consecutiveStable ≤
      s.consecutiveStable + (Transducer.trace observe s xs).countP Stable := by
  induction xs generalizing s with
  | nil => simp
  | cons x xs ih =>
    have head := observe_stable_le s x
    have tail := ih (s.observe x).1
    simp only [Transducer.trace,Transducer.stateAfter_cons,List.countP_cons]
    omega

theorem stepUp_counted (e : Call) (observed : Observed e.before e.input e.after e.output)
    (mode : Mode) (stepped : e.output = .stepUp mode) :
    Stable e = true ∧ 3 ≤ e.before.consecutiveStable := by
  obtain ⟨s,x,action,after⟩ := e
  dsimp only at observed stepped ⊢
  subst stepped
  cases observed with
  | up _ stable run elapsed higher =>
    refine ⟨by simp [Stable,stable],?_⟩
    unfold stableSamplesBeforeStepup at run
    omega

theorem cleared (e : Call) (observed : Observed e.before e.input e.after e.output)
    (reason : e.output.acts = true ∨ (Stable e = false ∧ HeldBack e = false)) :
    e.after.consecutiveStable = 0 := by
  obtain ⟨s,x,action,after⟩ := e
  dsimp only at observed reason ⊢
  cases observed with
  | held congested early => simp [Action.acts,Stable,HeldBack,congested,early] at reason
  | floor congested elapsed lowest => rfl
  | down next congested elapsed lower => rfl
  | up next stable run elapsed higher => rfl
  | settled stable => simp [Action.acts,Stable,stable] at reason

theorem run_observed (initial : Mode) (startAt : Nat) (samples : List Sample) (k : Nat) (e : Call)
    (found : (runs initial startAt samples)[k]? = some e) : Observed e.before e.input e.after e.output :=
  runs_observed initial startAt samples e (List.mem_of_getElem? found)

def FourStable (run : List Call) (k : Nat) : Prop :=
  3 ≤ k ∧ ∀ j, j ≤ k → k ≤ j + 3 → ∃ e, run[j]? = some e ∧ Stable e = true

/-- A step up follows four consecutive stable samples exactly when none of the three
samples before it was a congested one held back by the step-down cooldown. -/
theorem stepUp_fourStable_iff (initial : Mode) (startAt : Nat) (samples : List Sample) (k : Nat)
    (e : Call) (mode : Mode) (found : (runs initial startAt samples)[k]? = some e)
    (stepped : e.output = .stepUp mode) :
    FourStable (runs initial startAt samples) k ↔
      ∀ j earlier, j < k → k ≤ j + 3 → (runs initial startAt samples)[j]? = some earlier →
        HeldBack earlier = false := by
  have counted := stepUp_counted e (run_observed initial startAt samples k e found) mode stepped
  constructor
  · intro four j earlier before near present
    rcases four with ⟨enough,stable⟩
    obtain ⟨other,same,judged⟩ := stable j (by omega) near
    have equal : earlier = other := Option.some.inj (present.symm.trans same)
    subst other
    simp only [Stable,Bool.not_eq_true'] at judged
    simp [HeldBack,judged]
  · intro free
    have bound : k < (runs initial startAt samples).length :=
      (List.getElem?_eq_some_iff.mp found).1
    -- from the initial state the counter has gained at most one per call
    have enough : 3 ≤ k := by
      have split := found
      unfold runs at split
      rw [Transducer.trace_getElem?] at split
      obtain ⟨x,present,rfl⟩ := Option.map_eq_some_iff.mp split
      have gained := stateAfter_stable_le (newAt initial startAt) (samples.take k)
      have most := List.countP_le_length (p := Stable)
        (l := Transducer.trace observe (newAt initial startAt) (samples.take k))
      have zero : (newAt initial startAt).consecutiveStable = 0 := rfl
      simp only [Transducer.trace_length,List.length_take] at most
      change Stable _ = true ∧ 3 ≤ (Transducer.stateAfter observe (newAt initial startAt)
        (samples.take k)).consecutiveStable at counted
      omega
    refine ⟨enough,?_⟩
    intro j upTo near
    rcases Nat.lt_or_eq_of_le upTo with before | rfl
    · have inside : j < (runs initial startAt samples).length := by omega
      refine ⟨_,List.getElem?_eq_getElem inside,?_⟩
      by_contra congested
      have present := List.getElem?_eq_getElem inside
      have reset := cleared _ (run_observed initial startAt samples j _ present)
        (Or.inr ⟨by simpa using congested,free j _ before near present⟩)
      obtain ⟨middle,state,length,_⟩ := Transducer.trace_between observe _ samples j k _ e before
        present found
      have gained := stateAfter_stable_le (runs initial startAt samples)[j].after middle
      have most := List.countP_le_length (p := Stable)
        (l := Transducer.trace observe (runs initial startAt samples)[j].after middle)
      simp only [Transducer.trace_length] at most
      rw [← state] at gained
      omega
    · exact ⟨e,found,counted.1⟩

def sampleAt (millis : Nat) (queue : UInt32) : Sample :=
  ⟨⟨0,1.0,.unplugged,.nominal,0,0,0,queue,0⟩,0.0,millis * 1000000⟩

theorem stepUp_after_four_steady_samples :
    FourStable (runs Mode.defaultStreaming1080p30 0
      [sampleAt 6000 0,sampleAt 6500 0,sampleAt 7000 0,sampleAt 7500 0]) 3 := by
  have none : ∀ e ∈ runs Mode.defaultStreaming1080p30 0
      [sampleAt 6000 0,sampleAt 6500 0,sampleAt 7000 0,sampleAt 7500 0], HeldBack e = false := by
    decide +kernel
  refine (stepUp_fourStable_iff Mode.defaultStreaming1080p30 0
    [sampleAt 6000 0,sampleAt 6500 0,sampleAt 7000 0,sampleAt 7500 0] 3 _
    {Mode.defaultStreaming1080p30 with fps := 60, bitrateKbps := 50000}
    (List.getElem?_eq_getElem (by decide)) (by decide +kernel)).mpr ?_
  intro j earlier before near present
  exact none earlier (List.mem_of_getElem? present)

/-- Three stable samples, a congested one inside the step-down cooldown, one stable
sample after the step-up cooldown: the fifth call steps up on a broken run. -/
theorem stepUp_across_a_held_congested_sample :
    let samples := [sampleAt 100 0,sampleAt 200 0,sampleAt 300 0,sampleAt 1000 5,sampleAt 6000 0]
    (samples.map Sample.now).Pairwise (· ≤ ·) ∧
    ∃ e mode, (runs Mode.defaultStreaming1080p30 0 samples)[4]? = some e ∧ e.output = .stepUp mode ∧
      ¬ FourStable (runs Mode.defaultStreaming1080p30 0 samples) 4 := by
  intro samples
  refine ⟨by decide,_,{Mode.defaultStreaming1080p30 with fps := 60, bitrateKbps := 50000},
    List.getElem?_eq_getElem (by decide),by decide +kernel,?_⟩
  intro four
  rcases four with ⟨_,stable⟩
  obtain ⟨e,present,judged⟩ := stable 3 (by omega) (by omega)
  have congested : ((runs Mode.defaultStreaming1080p30 0 samples)[3]?).map Stable = some false := by
    decide +kernel
  rw [present] at congested
  simp [judged] at congested

def actionTimes (run : List Call) : List Nat :=
  (run.filter fun e => e.output.acts).map fun e => e.input.now

def previousAction (startAt : Nat) (run : List Call) : Nat := (actionTimes run).getLast?.getD startAt

theorem actionTimes_append (a b : List Call) : actionTimes (a ++ b) = actionTimes a ++ actionTimes b := by
  simp [actionTimes]

theorem observe_reference (s : AdaptationState) (x : Sample) :
    (s.observe x).1.reference = if (s.observe x).2.acts then x.now else s.reference := by
  rcases call : s.observe x with ⟨after,action⟩
  cases observed_of_eq s after x action call with
  | held | floor | settled => rfl
  | down | up => rfl

theorem reference_previousAction (initial : Mode) (startAt : Nat) (samples : List Sample) :
    (Transducer.stateAfter observe (newAt initial startAt) samples).reference =
      previousAction startAt (runs initial startAt samples) := by
  induction samples using List.reverseRecOn with
  | nil => rfl
  | append_singleton earlier x ih =>
    unfold runs at ih ⊢
    rw [Transducer.stateAfter_append,Transducer.trace_append,previousAction,actionTimes_append]
    change (AdaptationState.observe _ x).1.reference = _
    rw [observe_reference]
    by_cases acted : ((Transducer.stateAfter observe (newAt initial startAt) earlier).observe x).2.acts
    · simp [acted,actionTimes,Transducer.trace,Transducer.entry]
    · simp only [acted,Bool.false_eq_true,if_false,ih]
      simp [acted,previousAction,actionTimes,Transducer.trace,Transducer.entry]

theorem action_waits (e : Call) (observed : Observed e.before e.input e.after e.output) :
    (∀ mode, e.output = .stepDown mode → e.before.reference + 2 * second ≤ e.input.now) ∧
    (∀ mode, e.output = .stepUp mode → e.before.reference + 5 * second ≤ e.input.now) := by
  have tick : 0 < second := by decide
  obtain ⟨s,x,action,after⟩ := e
  dsimp only at observed ⊢
  cases observed with
  | held | floor | settled => simp
  | down next congested elapsed lower =>
    have waited : 2 * second ≤ x.now - s.reference := of_decide_eq_true elapsed
    refine ⟨fun _ _ => by omega,by simp⟩
  | up next stable run elapsed higher =>
    have waited : 5 * second ≤ x.now - s.reference := of_decide_eq_true elapsed
    refine ⟨by simp,fun _ _ => by omega⟩

theorem action_waits_two (e : Call) (observed : Observed e.before e.input e.after e.output)
    (acted : e.output.acts = true) : e.before.reference + 2 * second ≤ e.input.now := by
  obtain ⟨down,up⟩ := action_waits e observed
  cases output : e.output with
  | none => simp [output,Action.acts] at acted
  | stepDown mode => exact down mode output
  | stepUp mode =>
    have waited := up mode output
    omega

theorem actionTimes_spaced (initial : Mode) (startAt : Nat) (samples : List Sample) :
    (actionTimes (runs initial startAt samples)).Pairwise (fun a b => a + 2 * second ≤ b) ∧
      ∀ t ∈ actionTimes (runs initial startAt samples),
        t ≤ (Transducer.stateAfter observe (newAt initial startAt) samples).reference := by
  induction samples using List.reverseRecOn with
  | nil => simp [runs,Transducer.trace,actionTimes]
  | append_singleton earlier x ih =>
    unfold runs at ih ⊢
    obtain ⟨spaced,latest⟩ := ih
    rw [Transducer.trace_append,Transducer.stateAfter_append,actionTimes_append]
    have reference := observe_reference (Transducer.stateAfter observe (newAt initial startAt) earlier) x
    have waited := action_waits_two
      (Transducer.entry observe (Transducer.stateAfter observe (newAt initial startAt) earlier) x)
      (observe_observed _ x)
    simp only [Transducer.entry] at waited
    by_cases acted : ((Transducer.stateAfter observe (newAt initial startAt) earlier).observe x).2.acts
    · have last : actionTimes (Transducer.trace observe
          (Transducer.stateAfter observe (newAt initial startAt) earlier) [x]) = [x.now] := by
        simp [actionTimes,Transducer.trace,Transducer.entry,acted]
      have apart := waited acted
      rw [if_pos acted] at reference
      rw [last,List.pairwise_append]
      refine ⟨⟨spaced,by simp,?_⟩,?_⟩
      · intro t member now same
        have before := latest t member
        simp only [List.mem_singleton] at same
        omega
      · intro t member
        change t ≤ (AdaptationState.observe _ x).1.reference
        rcases List.mem_append.mp member with old | new
        · have before := latest t old
          omega
        · simp only [List.mem_singleton] at new
          omega
    · have last : actionTimes (Transducer.trace observe
          (Transducer.stateAfter observe (newAt initial startAt) earlier) [x]) = [] := by
        simp [actionTimes,Transducer.trace,Transducer.entry,acted]
      rw [if_neg acted] at reference
      rw [last,List.append_nil]
      refine ⟨spaced,?_⟩
      intro t member
      change t ≤ (AdaptationState.observe _ x).1.reference
      rw [reference]
      exact latest t member

theorem stable_between (initial : Mode) (startAt : Nat) (samples : List Sample) (i k : Nat) (a e : Call)
    (mode : Mode) (order : i < k) (first : (runs initial startAt samples)[i]? = some a)
    (acted : a.output.acts = true) (later : (runs initial startAt samples)[k]? = some e)
    (stepped : e.output = .stepUp mode) :
    4 ≤ (((runs initial startAt samples).take (k+1)).drop (i+1)).countP Stable := by
  obtain ⟨stable,counted⟩ :=
    stepUp_counted e (run_observed initial startAt samples k e later) mode stepped
  have reset := cleared a (run_observed initial startAt samples i a first) (Or.inl acted)
  obtain ⟨middle,state,length,entries⟩ := Transducer.trace_between observe _ samples i k a e order
    first later
  have gained := stateAfter_stable_le a.after middle
  rw [← state,← entries] at gained
  have bound : k < (runs initial startAt samples).length := (List.getElem?_eq_some_iff.mp later).1
  have window : ((runs initial startAt samples).take (k+1)).drop (i+1) =
      ((runs initial startAt samples).take k).drop (i+1) ++ [e] := by
    rw [List.take_add_one,later,List.drop_append_of_le_length]
    · rfl
    · rw [List.length_take]
      omega
  rw [window,List.countP_append]
  unfold runs at *
  simp only [List.countP_singleton,stable,if_true]
  omega

/-- Anti-flapping. Every step down comes at least two seconds and every step up at
least five seconds after the action before it (or after the start); between an
action and a later step up at least four samples, the one stepping up included, were
judged stable; so any n actions span at least 2(n-1) seconds. No order of the
clock readings is assumed: a reading before the reference elapses nothing. -/
theorem adaptation_cooldown (initial : Mode) (startAt : Nat) (samples : List Sample) :
    (∀ k e, (runs initial startAt samples)[k]? = some e →
      (∀ mode, e.output = .stepDown mode →
        previousAction startAt ((runs initial startAt samples).take k) + 2 * second ≤ e.input.now) ∧
      (∀ mode, e.output = .stepUp mode →
        previousAction startAt ((runs initial startAt samples).take k) + 5 * second ≤ e.input.now)) ∧
    (∀ i k a e mode, i < k → (runs initial startAt samples)[i]? = some a → a.output.acts = true →
      (runs initial startAt samples)[k]? = some e → e.output = .stepUp mode →
      4 ≤ (((runs initial startAt samples).take (k+1)).drop (i+1)).countP Stable) ∧
    (∀ (chosen : List Nat) (first last : Nat), chosen.Sublist (actionTimes (runs initial startAt samples)) →
      chosen.head? = some first → chosen.getLast? = some last →
      first + 2 * second * (chosen.length - 1) ≤ last) := by
  refine ⟨?_,?_,?_⟩
  · intro k e found
    have waits := action_waits e (run_observed initial startAt samples k e found)
    have state : e.before.reference = previousAction startAt ((runs initial startAt samples).take k) := by
      unfold runs at found ⊢
      rw [Transducer.trace_getElem?] at found
      obtain ⟨x,present,rfl⟩ := Option.map_eq_some_iff.mp found
      rw [Transducer.trace_take]
      exact reference_previousAction initial startAt (samples.take k)
    rw [state] at waits
    exact waits
  · intro i k a e mode order first acted later stepped
    exact stable_between initial startAt samples i k a e mode order first acted later stepped
  · intro chosen first last sub head final
    exact Transducer.spaced_span (2 * second) _ chosen (actionTimes_spaced initial startAt samples).1 sub
      first last head final

end ClearCam.Adaptive
