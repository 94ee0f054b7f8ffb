import ClearCam.Adaptive.HeldDrops
import ClearCam.Adaptive.Ladder
import ClearCam.Adaptive.StreamingMode
import ClearCam.Library.Deadline

/-! Where the adaptation loop ends up when the link stays as it is: at the floor of the ladder under a backlog, at its
top on a quiet link. Samples are at most `gap` apart. -/
namespace ClearCam.Adaptive
open ClearCam.Protocol ClearCam.Library AdaptationState

theorem nextLower_lowered (m next : Mode) (lower : nextLower m = some next) : Lowered m next := by
  rcases nextLower_cases m with ⟨other,found,lowered⟩ | ⟨none,_⟩
  · cases lower.symm.trans found
    exact lowered
  · exact nomatch lower.symm.trans none

theorem streaming_lower (m next : Mode) (streaming : Streaming m) (lower : nextLower m = some next) : Streaming next :=
  (nextLower_rung m next streaming lower).streaming streaming

theorem streaming_higher (m next : Mode) (streaming : Streaming m) (higher : nextHigher m = some next) :
    Streaming next :=
  (nextHigher_rung m next streaming higher).streaming streaming

theorem cut_scaled (bitrate k : Nat) (rate : bitrate * 3 ^ (k + 1) < 1001 * 4 ^ (k + 1)) :
    bitrate * 3 / 4 * 3 ^ k < 1001 * 4 ^ k := by
  have shrunk : bitrate * 3 / 4 * 3 ^ k * 4 ≤ bitrate * 3 ^ (k + 1) :=
    calc bitrate * 3 / 4 * 3 ^ k * 4 = bitrate * 3 / 4 * 4 * 3 ^ k := by ring
      _ ≤ bitrate * 3 * 3 ^ k := Nat.mul_le_mul_right _ (Nat.div_mul_le_self _ 4)
      _ = bitrate * 3 ^ (k + 1) := by ring
  have fourfold : 1001 * 4 ^ (k + 1) = 1001 * 4 ^ k * 4 := by ring
  omega

/-- Cuts bring a bitrate down to the least one, where `landing` takes over. -/
theorem cuts_end (size : UInt16 × UInt16) (n : Nat)
    (landing : ∀ m, Streaming m → (m.width,m.height) = size → m.fps = 30 → m.bitrateKbps.toNat ≤ 1000 →
      Ends nextLower n m)
    (k : Nat) (m : Mode) (streaming : Streaming m) (sized : (m.width,m.height) = size) (slow : m.fps = 30)
    (rate : m.bitrateKbps.toNat * 3 ^ k < 1001 * 4 ^ k) : Ends nextLower (k + n) m := by
  induction k generalizing m with
  | zero => exact (landing m streaming sized slow (by omega)).mono (by omega)
  | succ k ih =>
    by_cases low : m.bitrateKbps.toNat ≤ 1000
    · exact (landing m streaming sized slow low).mono (by omega)
    · have cut := cut_toNat m streaming
      have above : 1000 < m.bitrateKbps := by
        rw [UInt32.lt_iff_toNat_lt]
        exact Nat.lt_of_not_le low
      have notFast : ¬(30 : UInt16) < m.fps := by rw [slow]; decide
      rw [Nat.succ_add]
      intro next lower
      have same : next = {m with bitrateKbps := m.bitrateKbps * 3 / 4} := by
        unfold nextLower at lower
        rw [if_neg notFast,if_pos ⟨streaming.format,above⟩] at lower
        exact (Option.some.inj lower).symm
      have kept := streaming_lower m next streaming lower
      subst same
      refine ih _ kept sized slow ?_
      change (m.bitrateKbps * 3 / 4).toNat * 3 ^ k < 1001 * 4 ^ k
      rw [cut]
      exact cut_scaled m.bitrateKbps.toNat k rate

/-- At the least bitrate of a size, the size is the only thing left to lower. -/
theorem shrinks (m next : Mode) (streaming : Streaming m) (slow : m.fps = 30) (low : m.bitrateKbps.toNat ≤ 1000)
    (lower : nextLower m = some next) :
    next.fps = 30 ∧ ((m.width,m.height) = (3840,2160) ∧ (next.width,next.height) = (1920,1080) ∨
      (m.width,m.height) = (1920,1080) ∧ (next.width,next.height) = (1280,720)) := by
  cases nextLower_lowered m next lower with
  | rate fast => exact absurd (slow ▸ fast) (by decide)
  | cut _ _ above => exact absurd (UInt32.lt_iff_toNat_lt.mp above) (Nat.not_lt.mpr low)
  | encode _ raw => exact nomatch streaming.format.symm.trans raw
  | shrink _ _ _ w h size => exact ⟨slow,size⟩

theorem slow_ceiling (m : Mode) (streaming : Streaming m) (w h : UInt16) (sized : (m.width,m.height) = (w,h))
    (slow : m.fps = 30) : m.bitrateKbps.toNat ≤ hevcTargetKbps w.toNat h.toNat 30 := by
  obtain ⟨rfl,rfl⟩ := Prod.mk.inj sized
  have ceiling := streaming.ceiling
  unfold hevcTarget at ceiling
  rw [slow] at ceiling
  exact ceiling

theorem hd_ends (m : Mode) (streaming : Streaming m) (sized : (m.width,m.height) = (1280,720)) (slow : m.fps = 30) :
    Ends nextLower 9 m := by
  refine cuts_end (1280,720) 0 ?_ 9 m streaming sized slow ?_
  · intro m streaming sized slow low
    cases lower : nextLower m with
    | none => exact lower
    | some next =>
      obtain ⟨_,⟨uhd,_⟩ | ⟨fullHd,_⟩⟩ := shrinks m next streaming slow low lower
      · exact absurd (sized.symm.trans uhd) (by decide)
      · exact absurd (sized.symm.trans fullHd) (by decide)
  · have ceiling : m.bitrateKbps.toNat ≤ 12000 := slow_ceiling m streaming 1280 720 sized slow
    omega

theorem fullHd_ends (m : Mode) (streaming : Streaming m) (sized : (m.width,m.height) = (1920,1080))
    (slow : m.fps = 30) : Ends nextLower 22 m := by
  refine cuts_end (1920,1080) 10 ?_ 12 m streaming sized slow ?_
  · intro m streaming sized slow low next lower
    obtain ⟨still,⟨uhd,_⟩ | ⟨_,hd⟩⟩ := shrinks m next streaming slow low lower
    · exact absurd (sized.symm.trans uhd) (by decide)
    · exact hd_ends next (streaming_lower m next streaming lower) hd still
  · have ceiling : m.bitrateKbps.toNat ≤ 30000 := slow_ceiling m streaming 1920 1080 sized slow
    omega

theorem uhd_ends (m : Mode) (streaming : Streaming m) (sized : (m.width,m.height) = (3840,2160))
    (slow : m.fps = 30) : Ends nextLower 39 m := by
  refine cuts_end (3840,2160) 23 ?_ 16 m streaming sized slow ?_
  · intro m streaming sized slow low next lower
    obtain ⟨still,⟨_,fullHd⟩ | ⟨fullHd,_⟩⟩ := shrinks m next streaming slow low lower
    · exact fullHd_ends next (streaming_lower m next streaming lower) fullHd still
    · exact absurd (sized.symm.trans fullHd) (by decide)
  · have ceiling : m.bitrateKbps.toNat ≤ 90000 := slow_ceiling m streaming 3840 2160 sized slow
    omega

/-- The floor is at most forty steps down. -/
theorem streaming_descends (m : Mode) (streaming : Streaming m) : Ends nextLower 40 m := by
  have slow_ends : ∀ m, Streaming m → m.fps = 30 → Ends nextLower 39 m := by
    intro m streaming slow
    rcases streaming.size with sized | sized | sized
    · exact (hd_ends m streaming sized slow).mono (by decide)
    · exact (fullHd_ends m streaming sized slow).mono (by decide)
    · exact uhd_ends m streaming sized slow
  rcases streaming.fps with slow | fast
  · exact (slow_ends m streaming slow).more
  · intro next lower
    refine slow_ends next (streaming_lower m next streaming lower) ?_
    cases nextLower_rung m next streaming lower with
    | rate => rfl
    | bitrate slow => exact absurd (fast.symm.trans slow) (by decide)
    | size slow => exact absurd (fast.symm.trans slow) (by decide)

/-- At 60 fps the size is the only thing left to raise. -/
theorem grows (m next : Mode) (streaming : Streaming m) (fast : m.fps = 60) (higher : nextHigher m = some next) :
    next.fps = 60 ∧ ((m.width,m.height) = (1280,720) ∧ (next.width,next.height) = (1920,1080) ∨
      (m.width,m.height) = (1920,1080) ∧ (next.width,next.height) = (3840,2160)) := by
  cases nextHigher_rung m next streaming higher with
  | rate slow => exact absurd (fast.symm.trans slow) (by decide)
  | size _ w h larger => exact ⟨fast,larger⟩

theorem fast_climbs (m : Mode) (streaming : Streaming m) (fast : m.fps = 60) : Ends nextHigher 2 m := by
  have uhd_top : ∀ m, Streaming m → m.fps = 60 → (m.width,m.height) = (3840,2160) → nextHigher m = none := by
    intro m streaming fast sized
    cases higher : nextHigher m with
    | none => rfl
    | some next =>
      obtain ⟨_,⟨hd,_⟩ | ⟨fullHd,_⟩⟩ := grows m next streaming fast higher
      · exact absurd (sized.symm.trans hd) (by decide)
      · exact absurd (sized.symm.trans fullHd) (by decide)
  have fullHd_climbs : ∀ m, Streaming m → m.fps = 60 → (m.width,m.height) = (1920,1080) → Ends nextHigher 1 m := by
    intro m streaming fast sized next higher
    obtain ⟨still,⟨hd,_⟩ | ⟨_,uhd⟩⟩ := grows m next streaming fast higher
    · exact absurd (sized.symm.trans hd) (by decide)
    · exact uhd_top next (streaming_higher m next streaming higher) still uhd
  rcases streaming.size with sized | sized | sized
  · intro next higher
    obtain ⟨still,⟨_,fullHd⟩ | ⟨fullHd,_⟩⟩ := grows m next streaming fast higher
    · exact fullHd_climbs next (streaming_higher m next streaming higher) still fullHd
    · exact absurd (sized.symm.trans fullHd) (by decide)
  · exact (fullHd_climbs m streaming fast sized).more
  · exact .of_none 2 (uhd_top m streaming fast sized)

/-- The top is at most three steps up. -/
theorem streaming_climbs (m : Mode) (streaming : Streaming m) : Ends nextHigher 3 m := by
  rcases streaming.fps with slow | fast
  · intro next higher
    refine fast_climbs next (streaming_higher m next streaming higher) ?_
    cases nextHigher_rung m next streaming higher with
    | rate => rfl
    | size fast => exact absurd (slow.symm.trans fast) (by decide)
  · exact (fast_climbs m streaming fast).more

/-- While the backlog lasts: `n` steps down are left at most, and the next is taken by `deadline`. -/
structure Descending (gap n : Nat) (s : AdaptationState) (last deadline : Nat) : Prop where
  streaming : Streaming s.current
  ends : Ends nextLower n s.current
  cooled : 0 < n → s.reference + stepdownCooldown + gap ≤ deadline
  soon : 0 < n → last + gap ≤ deadline

def Backlogged (x : Sample) : Prop := 0 < x.telemetry.queueDepth

theorem backlogged_congested (s : AdaptationState) (x : Sample) (backlogged : Backlogged x) : s.isCongested x = true :=
  if_pos backlogged

/-- A congested sample waits for the cooldown, or lowers the mode if it can be lowered. -/
theorem congested_observed (s : AdaptationState) (x : Sample) (congested : s.isCongested x = true) :
    (x.now < s.reference + stepdownCooldown ∧ s.observe x = (s,.none)) ∨
    (nextLower s.current = none ∧ (s.observe x).1 = s.reset x) ∨
    ∃ next, nextLower s.current = some next ∧
      (s.observe x).1 = {s.reset x with lastActionAt := some x.now, current := next} := by
  cases elapsed : s.cooldownElapsed x.now stepdownCooldown with
  | false =>
    have early : x.now - s.reference < stepdownCooldown := by simpa [cooldownElapsed] using elapsed
    exact .inl ⟨by omega,observe_held s x congested elapsed⟩
  | true =>
    refine .inr ?_
    cases lower : nextLower s.current with
    | none => exact .inl ⟨rfl,by simp [observe,congested,elapsed,lower]⟩
    | some next => exact .inr ⟨next,rfl,by simp [observe,congested,elapsed,lower]⟩

theorem Descending.goes (gap n : Nat) (s : AdaptationState) (last deadline : Nat) (x : Sample)
    (due : Descending gap (n + 1) s last deadline) (backlogged : Backlogged x) (soon : x.now ≤ last + gap) :
    Descending gap (n + 1) (s.observe x).1 x.now deadline ∨
      Descending gap n (s.observe x).1 x.now (deadline + (stepdownCooldown + gap)) := by
  have cooled := due.cooled n.succ_pos
  have nearby := due.soon n.succ_pos
  have congested := backlogged_congested s x backlogged
  rcases congested_observed s x congested with ⟨early,held⟩ | ⟨lowest,reset⟩ | ⟨next,lower,lowered⟩
  · rw [held]
    exact .inl ⟨due.streaming,due.ends,fun _ => cooled,fun _ => by omega⟩
  · rw [reset]
    refine .inr ⟨due.streaming,.of_none n lowest,?_,?_⟩
    · intro _
      change s.reference + stepdownCooldown + gap ≤ deadline + (stepdownCooldown + gap)
      omega
    · intro _
      omega
  · rw [lowered]
    refine .inr ⟨streaming_lower s.current next due.streaming lower,due.ends next lower,?_,?_⟩
    · intro _
      change x.now + stepdownCooldown + gap ≤ deadline + (stepdownCooldown + gap)
      omega
    · intro _
      omega

theorem Descending.rests (gap : Nat) (s : AdaptationState) (last deadline : Nat) (x : Sample)
    (due : Descending gap 0 s last deadline) (backlogged : Backlogged x) :
    Descending gap 0 (s.observe x).1 x.now deadline := by
  have lowest : nextLower s.current = none := due.ends
  have kept : (s.observe x).1.current = s.current := by
    rcases congested_observed s x (backlogged_congested s x backlogged) with ⟨_,held⟩ | ⟨_,reset⟩ | ⟨next,lower,_⟩
    · rw [held]
    · rw [reset]
      rfl
    · exact nomatch lowest.symm.trans lower
  refine ⟨?_,?_,fun absurd => (Nat.lt_irrefl 0 absurd).elim,fun absurd => (Nat.lt_irrefl 0 absurd).elim⟩
  · rw [kept]
    exact due.streaming
  · rw [kept]
    exact due.ends

/-- The reference of the cooldowns is never ahead of the samples. -/
theorem reference_le (gap startAt : Nat) (samples : List Sample)
    (spaced : Transducer.Spaced Sample.now gap startAt samples) (initial : Mode) :
    (Transducer.stateAfter observe (newAt initial startAt) samples).reference ≤
      Transducer.lastTime Sample.now startAt samples := by
  have from_state : ∀ (samples : List Sample) (s : AdaptationState) (last : Nat), s.reference ≤ last →
      Transducer.Spaced Sample.now gap last samples →
      (Transducer.stateAfter observe s samples).reference ≤ Transducer.lastTime Sample.now last samples := by
    intro samples
    induction samples with
    | nil => exact fun _ _ behind _ => behind
    | cons x xs ih =>
      intro s last behind spaced
      obtain ⟨forward,_,spaced⟩ := spaced
      refine ih (s.observe x).1 x.now ?_ spaced
      rw [observe_reference]
      split
      · exact Nat.le_refl _
      · exact Nat.le_trans behind forward
  exact from_state samples _ startAt (Nat.le_refl _) spaced

theorem runs_current_streaming (startAt : Nat) (samples : List Sample) :
    Streaming (Transducer.stateAfter observe (newAt Mode.defaultStreaming1080p30 startAt) samples).current := by
  refine Transducer.stateAfter_invariant observe (fun s => Streaming s.current) ?_ _ samples default_streaming
  exact observe_streaming

/-- The same telemetry `n` times, a `gap` after `last` and after one another. -/
def every (gap : Nat) (telemetry : Telemetry) : Nat → Nat → List Sample
  | _, 0 => []
  | last, n + 1 => ⟨telemetry,0.0,last + gap⟩ :: every gap telemetry (last + gap) n

theorem every_spaced (gap : Nat) (telemetry : Telemetry) (last n : Nat) :
    Transducer.Spaced Sample.now gap last (every gap telemetry last n) := by
  induction n generalizing last with
  | zero => trivial
  | succ n ih => exact ⟨Nat.le_add_right _ _,Nat.le_refl _,ih (last + gap)⟩

theorem every_lastTime (gap : Nat) (telemetry : Telemetry) (last n : Nat) :
    Transducer.lastTime Sample.now last (every gap telemetry last n) = last + n * gap := by
  induction n generalizing last with
  | zero => exact (congrArg (last + ·) (Nat.zero_mul gap)).symm
  | succ n ih =>
    change Transducer.lastTime Sample.now (last + gap) (every gap telemetry (last + gap) n) = _
    rw [ih,Nat.succ_mul]
    omega

theorem mem_every (gap : Nat) (telemetry : Telemetry) (last n : Nat) :
    ∀ x ∈ every gap telemetry last n, x.telemetry = telemetry ∧ x.rttMs = 0.0 := by
  induction n generalizing last with
  | zero => exact fun x member => absurd member List.not_mem_nil
  | succ n ih =>
    intro x member
    rcases List.mem_cons.mp member with rfl | later
    · exact ⟨rfl,rfl⟩
    · exact ih (last + gap) x later

/-- The floor of the ladder: 720p at 30 fps with the least bitrate. -/
structure AtFloor (m : Mode) : Prop where
  streaming : Streaming m
  size : (m.width,m.height) = (1280,720)
  slow : m.fps = 30
  low : m.bitrateKbps.toNat ≤ 1000

theorem atFloor_of_lowest (m : Mode) (streaming : Streaming m) (lowest : nextLower m = none) : AtFloor m := by
  rcases nextLower_cases m with ⟨next,lower,_⟩ | ⟨_,lowest⟩
  · exact nomatch lowest.symm.trans lower
  · have slow : m.fps = 30 := by
      rcases streaming.fps with slow | fast
      · exact slow
      · exact absurd (fast ▸ lowest.slow) (by decide)
    refine ⟨streaming,?_,slow,UInt32.le_iff_toNat_le.mp lowest.low⟩
    rcases streaming.size with sized | sized | sized
    · exact sized
    · exact absurd sized lowest.notFullHd
    · exact absurd sized lowest.notUhd

def queueing : Telemetry := ⟨0,1.0,.unplugged,.nominal,0,0,0,1,0⟩

/-- Nothing is queued, nothing more was dropped, and no round trip was measured, as the session's driver has it. -/
structure Quiet (drops : UInt64) (x : Sample) : Prop where
  queue : x.telemetry.queueDepth = 0
  drops : x.telemetry.dropCount = drops
  rtt : x.rttMs = 0.0

theorem settle_base (s : AdaptationState) (x : Sample) (base : s.baseRttMs = 0.0) (rtt : x.rttMs = 0.0) :
    (s.settle x).baseRttMs = 0.0 := by
  have unset : ((0.0 : Float) == 0.0) = true := rfl
  simp only [settle,base,unset,if_true,rtt]

theorem observe_base (s : AdaptationState) (x : Sample) (base : s.baseRttMs = 0.0) (rtt : x.rttMs = 0.0) :
    (s.observe x).1.baseRttMs = 0.0 := by
  rcases call : s.observe x with ⟨after,action⟩
  cases observed_of_eq s after x action call with
  | held | floor | down => exact base
  | up | settled => exact settle_base s x base rtt

theorem base_zero (s : AdaptationState) (samples : List Sample) (base : s.baseRttMs = 0.0)
    (rtt : ∀ x ∈ samples, x.rttMs = 0.0) : (Transducer.stateAfter observe s samples).baseRttMs = 0.0 := by
  induction samples generalizing s with
  | nil => exact base
  | cons x xs ih =>
    refine ih _ (observe_base s x base (rtt x List.mem_cons_self)) ?_
    exact fun y member => rtt y (List.mem_cons_of_mem x member)

theorem quiet_congested (s : AdaptationState) (x : Sample) (drops : UInt64) (base : s.baseRttMs = 0.0)
    (quiet : Quiet drops x) : s.isCongested x = decide (s.lastDropCount < drops) := by
  have unmeasured : ((0.0 : Float) > 0.0) ↔ False := by decide
  simp only [isCongested,quiet.queue,quiet.drops,base,unmeasured]
  by_cases unseen : s.lastDropCount < drops
  · simp [unseen]
  · simp [unseen]

/-- A stable sample raises the mode, or is counted. -/
theorem stable_observed (s : AdaptationState) (x : Sample) (stable : s.isCongested x = false) :
    (∃ next, nextHigher s.current = some next ∧
      (s.observe x).1 = {s.settle x with consecutiveStable := 0, lastActionAt := some x.now, current := next}) ∨
    (s.observe x).1 = s.settle x ∧ (nextHigher s.current = none ∨ s.consecutiveStable + 1 < 4 ∨
      x.now < s.reference + stepupCooldown) := by
  by_cases ready : (stableSamplesBeforeStepup ≤ (s.settle x).consecutiveStable &&
      (s.settle x).cooldownElapsed x.now stepupCooldown) = true
  · cases higher : nextHigher s.current with
    | none => exact .inr ⟨by simp [observe,stable,ready,higher],.inl rfl⟩
    | some next => exact .inl ⟨next,rfl,by simp [observe,stable,ready,higher]⟩
  · refine .inr ⟨by simp only [observe,stable,Bool.false_eq_true,if_false,ready],.inr ?_⟩
    by_cases counted : s.consecutiveStable + 1 < 4
    · exact .inl counted
    · have many : stableSamplesBeforeStepup ≤ (s.settle x).consecutiveStable := by
        change 4 ≤ min (s.consecutiveStable + 1) (2 ^ 32 - 1)
        omega
      have early : (s.settle x).cooldownElapsed x.now stepupCooldown = false := by simpa [many] using ready
      have short : x.now - (s.settle x).reference < stepupCooldown := by simpa [cooldownElapsed] using early
      have same : (s.settle x).reference = s.reference := rfl
      exact .inr (by omega)

/-- How many samples a climb still waits for at least. -/
def missing (s : AdaptationState) : Nat := max 1 (4 - s.consecutiveStable)

/-- On a quiet link: `n` stages are left at most, and the one at hand ends by `deadline`. In the first of four, the
drops may still be unseen. -/
inductive Climbing (gap : Nat) (drops : UInt64) (s : AdaptationState) (last deadline : Nat) : Nat → Prop where
  | behind (streaming : Streaming s.current) (base : s.baseRttMs = 0.0) (unseen : s.lastDropCount < drops)
      (cooled : s.reference + stepdownCooldown + gap ≤ deadline) (soon : last + gap ≤ deadline) :
      Climbing gap drops s last deadline 4
  | seen (n : Nat) (streaming : Streaming s.current) (base : s.baseRttMs = 0.0) (seen : drops ≤ s.lastDropCount)
      (ends : Ends nextHigher n s.current) (cooled : 0 < n → s.reference + stepupCooldown + gap ≤ deadline)
      (soon : 0 < n → last + missing s * gap ≤ deadline) : Climbing gap drops s last deadline n

theorem missing_le (s : AdaptationState) (gap : Nat) : gap ≤ missing s * gap ∧ missing s * gap ≤ 4 * gap := by
  have least : 1 ≤ missing s := Nat.le_max_left _ _
  have most : missing s ≤ 4 := by
    unfold missing
    omega
  exact ⟨Nat.le_mul_of_pos_left gap least,Nat.mul_le_mul_right gap most⟩

theorem missing_settle (s : AdaptationState) (x : Sample) (gap : Nat) (counted : s.consecutiveStable + 1 < 4) :
    missing (s.settle x) * gap + gap = missing s * gap := by
  have next : (s.settle x).consecutiveStable = s.consecutiveStable + 1 := Nat.min_eq_left (by omega)
  have one : missing s = missing (s.settle x) + 1 := by
    unfold missing
    rw [next]
    omega
  rw [one,Nat.succ_mul]

theorem missing_counted (s : AdaptationState) (x : Sample) (gap : Nat) (counted : ¬s.consecutiveStable + 1 < 4) :
    missing (s.settle x) * gap = gap := by
  have least : 4 ≤ (s.settle x).consecutiveStable := by
    change 4 ≤ min (s.consecutiveStable + 1) (2 ^ 32 - 1)
    omega
  have one : missing (s.settle x) = 1 := by
    unfold missing
    omega
  rw [one,Nat.one_mul]

theorem Climbing.pending (gap n : Nat) (drops : UInt64) (s : AdaptationState) (last deadline : Nat)
    (due : Climbing gap drops s last deadline (n + 1)) : last + gap ≤ deadline := by
  cases due with
  | behind _ _ _ _ soon => exact soon
  | seen _ _ _ _ _ _ soon => exact Nat.le_trans (Nat.add_le_add_left (missing_le s gap).1 last) (soon n.succ_pos)

/-- Once the drops are seen, a quiet sample raises the mode or brings the next raise nearer. -/
theorem seen_goes (gap n : Nat) (drops : UInt64) (s : AdaptationState) (last deadline : Nat) (x : Sample)
    (streaming : Streaming s.current) (base : s.baseRttMs = 0.0) (seen : drops ≤ s.lastDropCount)
    (ends : Ends nextHigher (n + 1) s.current) (cooled : s.reference + stepupCooldown + gap ≤ deadline)
    (soon : last + missing s * gap ≤ deadline) (quiet : Quiet drops x) (near : x.now ≤ last + gap) :
    Climbing gap drops (s.observe x).1 x.now deadline (n + 1) ∨
      Climbing gap drops (s.observe x).1 x.now (deadline + (stepupCooldown + 4 * gap)) n := by
  have stable : s.isCongested x = false := by
    rw [quiet_congested s x drops base quiet]
    exact decide_eq_false (UInt64.not_lt.mpr seen)
  have counting := missing_le s gap
  have own : drops ≤ (s.settle x).lastDropCount := quiet.drops ▸ UInt64.le_refl _
  rcases stable_observed s x stable with ⟨next,higher,raised⟩ | ⟨settled,why⟩
  · rw [raised]
    refine .inr (.seen n (streaming_higher s.current next streaming higher) (settle_base s x base quiet.rtt) own
      (ends next higher) ?_ ?_)
    · intro _
      change x.now + stepupCooldown + gap ≤ deadline + (stepupCooldown + 4 * gap)
      omega
    · intro _
      change x.now + 4 * gap ≤ deadline + (stepupCooldown + 4 * gap)
      omega
  · rw [settled]
    rcases why with top | counted | early
    · refine .inr (.seen n streaming (settle_base s x base quiet.rtt) own (.of_none n top) ?_ ?_)
      · intro _
        change s.reference + stepupCooldown + gap ≤ deadline + (stepupCooldown + 4 * gap)
        omega
      · intro _
        have later := missing_le (s.settle x) gap
        omega
    · refine .inl (.seen (n + 1) streaming (settle_base s x base quiet.rtt) own ends (fun _ => cooled) ?_)
      intro _
      have fewer := missing_settle s x gap counted
      omega
    · refine .inl (.seen (n + 1) streaming (settle_base s x base quiet.rtt) own ends (fun _ => cooled) ?_)
      intro _
      by_cases counted : s.consecutiveStable + 1 < 4
      · have fewer := missing_settle s x gap counted
        omega
      · rw [missing_counted s x gap counted]
        omega

theorem Climbing.goes (gap n : Nat) (drops : UInt64) (s : AdaptationState) (last deadline : Nat) (x : Sample)
    (due : Climbing gap drops s last deadline (n + 1)) (quiet : Quiet drops x) (near : x.now ≤ last + gap) :
    Climbing gap drops (s.observe x).1 x.now deadline (n + 1) ∨
      Climbing gap drops (s.observe x).1 x.now (deadline + (stepupCooldown + 4 * gap)) n := by
  have bounds := missing_le (s.observe x).1 gap
  cases due with
  | seen _ streaming base seen ends cooled soon =>
    exact seen_goes gap n drops s last deadline x streaming base seen ends (cooled n.succ_pos) (soon n.succ_pos)
      quiet near
  | behind streaming base unseen cooled soon =>
    have congested : s.isCongested x = true := by
      rw [quiet_congested s x drops base quiet]
      exact decide_eq_true unseen
    have own : drops ≤ (s.reset x).lastDropCount := quiet.drops ▸ UInt64.le_refl _
    rcases congested_observed s x congested with ⟨early,held⟩ | ⟨lowest,reset⟩ | ⟨next,lower,lowered⟩
    · rw [held]
      exact .inl (.behind streaming base unseen cooled (by omega))
    · rw [reset] at bounds ⊢
      refine .inr (.seen 3 streaming base own (streaming_climbs _ streaming) ?_ (fun _ => by omega))
      intro _
      change s.reference + stepupCooldown + gap ≤ deadline + (stepupCooldown + 4 * gap)
      omega
    · rw [lowered] at bounds ⊢
      have kept := streaming_lower s.current next streaming lower
      refine .inr (.seen 3 kept base own (streaming_climbs next kept) ?_ (fun _ => by omega))
      intro _
      change x.now + stepupCooldown + gap ≤ deadline + (stepupCooldown + 4 * gap)
      omega

theorem Climbing.rests (gap : Nat) (drops : UInt64) (s : AdaptationState) (last deadline : Nat) (x : Sample)
    (due : Climbing gap drops s last deadline 0) (quiet : Quiet drops x) :
    Climbing gap drops (s.observe x).1 x.now deadline 0 := by
  cases due with
  | seen _ streaming base seen ends =>
    have top : nextHigher s.current = none := ends
    have stable : s.isCongested x = false := by
      rw [quiet_congested s x drops base quiet]
      exact decide_eq_false (UInt64.not_lt.mpr seen)
    have own : drops ≤ (s.settle x).lastDropCount := quiet.drops ▸ UInt64.le_refl _
    rcases stable_observed s x stable with ⟨next,higher,_⟩ | ⟨settled,_⟩
    · exact nomatch top.symm.trans higher
    · rw [settled]
      exact .seen 0 streaming (settle_base s x base quiet.rtt) own top (fun absurd => (Nat.lt_irrefl 0 absurd).elim)
        (fun absurd => (Nat.lt_irrefl 0 absurd).elim)

/-- The top of the ladder: 2160p at 60 fps with its full bitrate. -/
def topMode : Mode := ⟨.encoded,.hevc,3840,2160,60,194400,.nv12,true⟩

theorem top_of_highest (m : Mode) (streaming : Streaming m) (highest : nextHigher m = none) : m = topMode := by
  unfold nextHigher at highest
  have fast : m.fps = 60 := by
    rcases streaming.fps with slow | fast
    · rw [if_pos slow] at highest
      cases highest
    · exact fast
  have notSlow : ¬m.fps = 30 := by rw [fast]; decide
  rw [if_neg notSlow,Option.map_eq_none_iff] at highest
  have sized : (m.width,m.height) = (3840,2160) := by
    rcases streaming.size with hd | fullHd | uhd
    · rw [if_pos hd] at highest
      cases highest
    · have other : ¬(m.width,m.height) = (1280,720) := by rw [fullHd]; decide
      rw [if_neg other,if_pos fullHd] at highest
      cases highest
    · exact uhd
  have target := streaming.full fast
  obtain ⟨format,codec,pixel,range,_,_⟩ := streaming.toShape
  obtain ⟨f,c,w,h,r,b,p,full⟩ := m
  obtain ⟨rfl,rfl⟩ := Prod.mk.inj sized
  dsimp only at format codec pixel range fast
  subst format codec pixel range fast
  change b.toNat = hevcTargetKbps 3840 2160 60 at target
  have rate : b.toNat = (194400 : UInt32).toNat := target.trans (by decide)
  rw [UInt32.toNat_inj.mp rate]
  rfl

def streamingWell : Telemetry := ⟨0,1.0,.unplugged,.nominal,0,0,0,0,0⟩

end ClearCam.Adaptive
