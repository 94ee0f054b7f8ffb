import ClearCam.Adaptive.Cooldown

/-! Drops that are reported while the step-down cooldown lasts. A congested sample leaves the state
alone then, the drop count to compare with included, so that later samples are still measured by it. -/
namespace ClearCam.Adaptive
open ClearCam.Protocol ClearCam.Library AdaptationState

def Cooling (e : Call) : Prop := e.before.cooldownElapsed e.input.now stepdownCooldown = false

theorem congested_of_drops (s : AdaptationState) (x : Sample) (more : s.lastDropCount < x.telemetry.dropCount) :
    s.isCongested x = true := by
  simp only [isCongested,if_pos more,ite_self]

theorem observe_held (s : AdaptationState) (x : Sample) (congested : s.isCongested x = true)
    (early : s.cooldownElapsed x.now stepdownCooldown = false) : s.observe x = (s,.none) := by
  simp [observe,congested,early]

theorem held_unchanged (s : AdaptationState) (samples : List Sample) (e : Call)
    (member : e ∈ Transducer.trace observe s samples) (congested : e.before.isCongested e.input = true)
    (cooling : Cooling e) : e.after = e.before := by
  have same := Transducer.trace_entry observe s samples e member
  have held := observe_held e.before e.input congested cooling
  rw [same]
  change (e.before.observe e.input).1 = e.before
  rw [held]

/-- While the cooldown lasts, samples above the count in force leave the state alone. -/
theorem stateAfter_cooling (s : AdaptationState) (samples : List Sample)
    (held : ∀ e ∈ Transducer.trace observe s samples, Cooling e ∧ s.lastDropCount < e.input.telemetry.dropCount) :
    Transducer.stateAfter observe s samples = s := by
  induction samples with
  | nil => rfl
  | cons x xs ih =>
    obtain ⟨early,more⟩ := held (Transducer.entry observe s x) List.mem_cons_self
    have kept := observe_held s x (congested_of_drops s x more) early
    have next : (s.observe x).1 = s := congrArg Prod.fst kept
    rw [Transducer.stateAfter_cons,next]
    apply ih
    intro e member
    apply held e
    rw [Transducer.trace,next]
    exact List.mem_cons_of_mem _ member

theorem trace_input (s : AdaptationState) (samples : List Sample) (k : Nat) (e : Call)
    (found : (Transducer.trace observe s samples)[k]? = some e) : samples[k]? = some e.input := by
  rw [Transducer.trace_getElem?] at found
  obtain ⟨x,present,rfl⟩ := Option.map_eq_some_iff.mp found
  exact present

theorem drops_ordered (s : AdaptationState) (samples : List Sample)
    (ordered : samples.Pairwise fun x y => x.telemetry.dropCount ≤ y.telemetry.dropCount) (i k : Nat) (a b : Call)
    (before : i < k) (first : (Transducer.trace observe s samples)[i]? = some a)
    (second : (Transducer.trace observe s samples)[k]? = some b) :
    a.input.telemetry.dropCount ≤ b.input.telemetry.dropCount := by
  obtain ⟨boundA,sameA⟩ := List.getElem?_eq_some_iff.mp (trace_input s samples i a first)
  obtain ⟨boundB,sameB⟩ := List.getElem?_eq_some_iff.mp (trace_input s samples k b second)
  rw [← sameA,← sameB]
  exact List.pairwise_iff_getElem.mp ordered i k boundA boundB before

/-- From a sample of the cooldown that reported new drops, the state stays as it was until the cooldown ends. -/
theorem state_until_elapsed (s : AdaptationState) (samples : List Sample)
    (ordered : samples.Pairwise fun x y => x.telemetry.dropCount ≤ y.telemetry.dropCount) (i j : Nat) (a b : Call)
    (before : i < j) (first : (Transducer.trace observe s samples)[i]? = some a)
    (second : (Transducer.trace observe s samples)[j]? = some b)
    (cooling : ∀ k e, i ≤ k → k < j → (Transducer.trace observe s samples)[k]? = some e → Cooling e)
    (dropped : a.before.lastDropCount < a.input.telemetry.dropCount) : b.before = a.before := by
  have kept : a.after = a.before := held_unchanged s samples a (List.mem_of_getElem? first)
    (congested_of_drops a.before a.input dropped) (cooling i a (Nat.le_refl i) before first)
  obtain ⟨middle,state,_,entries⟩ := Transducer.trace_between observe s samples i j a b before first second
  rw [state,kept] at *
  apply stateAfter_cooling
  intro e member
  rw [← entries] at member
  obtain ⟨n,bound,same⟩ := List.mem_iff_getElem.mp member
  have place : (Transducer.trace observe s samples)[i + 1 + n]? = some e := by
    rw [List.getElem_drop,List.getElem_take] at same
    rw [← same]
    apply List.getElem?_eq_getElem
  have inside : i + 1 + n < j := by
    rw [List.length_drop,List.length_take] at bound
    omega
  exact ⟨cooling (i + 1 + n) e (by omega) inside place,
    UInt64.lt_of_lt_of_le dropped (drops_ordered s samples ordered i (i + 1 + n) a e (by omega) first place)⟩

/-- In the cooldown a congested sample changes nothing, and new drops reported in it make the first sample
after it congested and step down where there is a lower mode. -/
theorem cooldown_drops_remembered (s : AdaptationState) (samples : List Sample)
    (ordered : samples.Pairwise fun x y => x.telemetry.dropCount ≤ y.telemetry.dropCount) :
    (∀ e ∈ Transducer.trace observe s samples, e.before.isCongested e.input = true → Cooling e →
      e.after = e.before) ∧
    (∀ (i j : Nat) (a b : Call), i < j → (Transducer.trace observe s samples)[i]? = some a →
      (Transducer.trace observe s samples)[j]? = some b →
      (∀ k e, i ≤ k → k < j → (Transducer.trace observe s samples)[k]? = some e → Cooling e) →
      a.before.lastDropCount < a.input.telemetry.dropCount →
      b.before.cooldownElapsed b.input.now stepdownCooldown = true →
        b.before.isCongested b.input = true ∧
        ∀ next, nextLower b.before.current = some next → b.output = .stepDown next) := by
  refine ⟨held_unchanged s samples,?_⟩
  intro i j a b before first second cooling dropped elapsed
  have frozen := state_until_elapsed s samples ordered i j a b before first second cooling dropped
  have more := UInt64.lt_of_lt_of_le dropped (drops_ordered s samples ordered i j a b before first second)
  have congested : b.before.isCongested b.input = true := by
    apply congested_of_drops
    rw [frozen]
    exact more
  refine ⟨congested,?_⟩
  intro next lower
  have same := Transducer.trace_entry observe s samples b (List.mem_of_getElem? second)
  rw [same]
  change (b.before.observe b.input).2 = .stepDown next
  simp [observe,congested,elapsed,lower]

def droppedAt (millis : Nat) (drops : UInt64) : Sample :=
  ⟨⟨0,1.0,.unplugged,.nominal,0,0,0,0,drops⟩,0.0,millis * 1000000⟩

def droppedOnce : List Sample := [droppedAt 500 3,droppedAt 2000 3]

/-- Drops after half a second are what the sample after two seconds steps down for, with its queue empty. -/
theorem cooldown_drops_remembered_once :
    (droppedOnce.Pairwise fun x y => x.telemetry.dropCount ≤ y.telemetry.dropCount) ∧
    ∃ b, (Transducer.trace observe (newAt Mode.defaultStreaming1080p30 0) droppedOnce)[1]? = some b ∧
      b.before.isCongested b.input = true ∧
      b.output = .stepDown {Mode.defaultStreaming1080p30 with bitrateKbps := 22500} := by
  have ordered : droppedOnce.Pairwise fun x y => x.telemetry.dropCount ≤ y.telemetry.dropCount := by decide
  have cooling : ∀ k e, 0 ≤ k → k < 1 →
      (Transducer.trace observe (newAt Mode.defaultStreaming1080p30 0) droppedOnce)[k]? = some e → Cooling e := by
    intro k e _ first found
    obtain rfl : k = 0 := by omega
    cases Option.some.inj found
    unfold Cooling
    decide +kernel
  obtain ⟨congested,steps⟩ := (cooldown_drops_remembered (newAt Mode.defaultStreaming1080p30 0) droppedOnce ordered).2
    0 1 _ _ (by decide) rfl rfl cooling (by decide +kernel) (by decide +kernel)
  exact ⟨ordered,_,rfl,congested,steps _ (by decide +kernel)⟩

end ClearCam.Adaptive
