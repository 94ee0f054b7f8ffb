import ClearCam.Adaptive.Adaptation

/-! The modes the adaptation loop can reach from the default 1080p30 mode, and
what each rung of the two ladders does to the bandwidth demanded. -/
namespace ClearCam.Adaptive
open ClearCam.Protocol ClearCam.Library AdaptationState

structure Shape (m : Mode) : Prop where
  format : m.format = .encoded
  codec : m.codec = .hevc
  pixelFormat : m.pixelFormat = .nv12
  fullRange : m.fullRange = true
  size : (m.width,m.height) = (1280,720) ∨ (m.width,m.height) = (1920,1080) ∨
    (m.width,m.height) = (3840,2160)
  fps : m.fps = 30 ∨ m.fps = 60

def hevcTarget (m : Mode) : Nat := hevcTargetKbps m.width.toNat m.height.toNat m.fps.toNat

/-- A reachable mode: a canonical shape, a bitrate between the floor and the
target of that shape, and the full target at 60 fps. -/
structure Streaming (m : Mode) : Prop extends Shape m where
  floor : 750 ≤ m.bitrateKbps.toNat
  ceiling : m.bitrateKbps.toNat ≤ hevcTarget m
  full : m.fps = 60 → m.bitrateKbps.toNat = hevcTarget m

theorem default_streaming : Streaming Mode.defaultStreaming1080p30 := by
  refine ⟨⟨rfl,rfl,rfl,rfl,by decide,by decide⟩,by decide,by decide,by decide⟩

theorem hevcTarget_bounds (m : Mode) (shape : Shape m) :
    12000 ≤ hevcTarget m ∧ hevcTarget m ≤ 194400 := by
  obtain ⟨format,codec,pixel,range,size,fps⟩ := shape
  obtain ⟨f,c,w,h,r,b,p,full⟩ := m
  simp only [Prod.mk.injEq] at size
  dsimp only at fps
  rcases size with ⟨rfl,rfl⟩ | ⟨rfl,rfl⟩ | ⟨rfl,rfl⟩ <;> rcases fps with rfl | rfl <;>
    simp only [hevcTarget] <;> decide

theorem encodedTarget_shape (m : Mode) (shape : Shape m) :
    (encodedTarget m).toNat = hevcTarget m := by
  have bounds := hevcTarget_bounds m shape
  have small : hevcTarget m < 2^32 := by omega
  simp only [encodedTarget,shape.codec]
  rw [← hevcTarget,if_pos small]
  exact UInt32.toNat_ofNat_of_lt small

theorem retarget_streaming (m : Mode) (shape : Shape m) :
    Streaming {m with bitrateKbps := encodedTarget m} := by
  have target := encodedTarget_shape m shape
  have bounds := hevcTarget_bounds m shape
  have same : hevcTarget {m with bitrateKbps := encodedTarget m} = hevcTarget m := rfl
  refine ⟨⟨shape.format,shape.codec,shape.pixelFormat,shape.fullRange,shape.size,shape.fps⟩,?_,?_,?_⟩
  · show 750 ≤ (encodedTarget m).toNat
    omega
  · show (encodedTarget m).toNat ≤ _
    omega
  · intro _
    change (encodedTarget m).toNat = _
    omega

theorem cut_toNat (m : Mode) (reachable : Streaming m) :
    (m.bitrateKbps * 3 / 4).toNat = m.bitrateKbps.toNat * 3 / 4 := by
  have ceiling := reachable.ceiling
  have bounds := hevcTarget_bounds m reachable.toShape
  exact cut_toNat_of_small m.bitrateKbps (by omega)

inductive LowerRung (m : Mode) : Mode → Prop where
  | rate (fps : m.fps = 60) : LowerRung m {m with fps := 30, bitrateKbps := encodedTarget {m with fps := 30}}
  | bitrate (fps : m.fps = 30) (above : 1000 < m.bitrateKbps.toNat) :
      LowerRung m {m with bitrateKbps := m.bitrateKbps * 3 / 4}
  | size (fps : m.fps = 30) (low : m.bitrateKbps.toNat ≤ 1000) (w h : UInt16)
      (smaller : (w,h) = (1920,1080) ∨ (w,h) = (1280,720)) :
      LowerRung m {m with width := w, height := h, bitrateKbps := encodedTarget {m with width := w, height := h}}

theorem nextLower_rung (m next : Mode) (reachable : Streaming m) (lower : nextLower m = some next) :
    LowerRung m next := by
  have encoded := reachable.format
  unfold nextLower at lower
  rcases reachable.fps with fps | fps
  · have slow : ¬ (30 : UInt16) < m.fps := by rw [fps]; decide
    by_cases above : 1000 < m.bitrateKbps
    · rw [if_neg slow,if_pos ⟨encoded,above⟩,Option.some.injEq] at lower
      subst next
      exact .bitrate fps (by simpa [UInt32.lt_iff_toNat_lt] using above)
    · have low : m.bitrateKbps.toNat ≤ 1000 := by
        simpa [UInt32.lt_iff_toNat_lt] using above
      have compressed : ¬ m.format = .raw := by rw [encoded]; decide
      rw [if_neg slow,if_neg (fun both => above both.2),if_neg compressed] at lower
      obtain ⟨size,chosen,rfl⟩ := Option.map_eq_some_iff.mp lower
      dsimp only
      rw [if_pos encoded]
      refine .size fps low size.1 size.2 ?_
      split at chosen
      · cases chosen; exact Or.inl rfl
      · split at chosen
        · cases chosen; exact Or.inr rfl
        · cases chosen
  · have fast : (30 : UInt16) < m.fps := by rw [fps]; decide
    rw [if_pos fast] at lower
    dsimp only at lower
    rw [if_pos encoded,Option.some.injEq] at lower
    subst next
    exact .rate fps

inductive HigherRung (m : Mode) : Mode → Prop where
  | rate (fps : m.fps = 30) : HigherRung m {m with fps := 60, bitrateKbps := encodedTarget {m with fps := 60}}
  | size (fps : m.fps = 60) (w h : UInt16)
      (larger : (m.width,m.height) = (1280,720) ∧ (w,h) = (1920,1080) ∨
        (m.width,m.height) = (1920,1080) ∧ (w,h) = (3840,2160)) :
      HigherRung m {m with width := w, height := h, bitrateKbps := encodedTarget {m with width := w, height := h}}

theorem nextHigher_rung (m next : Mode) (reachable : Streaming m) (higher : nextHigher m = some next) :
    HigherRung m next := by
  have encoded := reachable.format
  unfold nextHigher at higher
  rcases reachable.fps with fps | fps
  · rw [if_pos fps] at higher
    dsimp only at higher
    rw [if_pos encoded,Option.some.injEq] at higher
    subst next
    exact .rate fps
  · have fast : ¬ m.fps = 30 := by rw [fps]; decide
    rw [if_neg fast] at higher
    obtain ⟨size,chosen,rfl⟩ := Option.map_eq_some_iff.mp higher
    dsimp only
    rw [if_pos encoded]
    refine .size fps size.1 size.2 ?_
    split at chosen
    next at720 => cases chosen; exact Or.inl ⟨at720,rfl⟩
    next =>
      split at chosen
      next at1080 => cases chosen; exact Or.inr ⟨at1080,rfl⟩
      next => cases chosen

theorem shape_fps (m : Mode) (shape : Shape m) (fps : UInt16) (canonical : fps = 30 ∨ fps = 60) :
    Shape {m with fps := fps} :=
  ⟨shape.format,shape.codec,shape.pixelFormat,shape.fullRange,shape.size,canonical⟩

theorem shape_size (m : Mode) (shape : Shape m) (w h : UInt16)
    (canonical : (w,h) = (1280,720) ∨ (w,h) = (1920,1080) ∨ (w,h) = (3840,2160)) :
    Shape {m with width := w, height := h} :=
  ⟨shape.format,shape.codec,shape.pixelFormat,shape.fullRange,canonical,shape.fps⟩

theorem LowerRung.streaming {m next : Mode} (rung : LowerRung m next) (reachable : Streaming m) :
    Streaming next := by
  cases rung with
  | rate fps => exact retarget_streaming _ (shape_fps m reachable.toShape 30 (Or.inl rfl))
  | bitrate fps above =>
    have cut := cut_toNat m reachable
    have ceiling := reachable.ceiling
    have shape := reachable.toShape
    refine ⟨⟨shape.format,shape.codec,shape.pixelFormat,shape.fullRange,shape.size,shape.fps⟩,?_,?_,?_⟩
    · change 750 ≤ (m.bitrateKbps * 3 / 4).toNat
      omega
    · change (m.bitrateKbps * 3 / 4).toNat ≤ hevcTarget m
      omega
    · intro sixty
      have different : ¬ m.fps = 60 := by rw [fps]; decide
      exact absurd sixty different
  | size fps low w h smaller =>
    exact retarget_streaming _ (shape_size m reachable.toShape w h (by tauto))

theorem HigherRung.streaming {m next : Mode} (rung : HigherRung m next) (reachable : Streaming m) :
    Streaming next := by
  cases rung with
  | rate fps => exact retarget_streaming _ (shape_fps m reachable.toShape 60 (Or.inr rfl))
  | size fps w h larger => exact retarget_streaming _ (shape_size m reachable.toShape w h (by tauto))

theorem hevcTarget_rate (m : Mode) (shape : Shape m) :
    hevcTarget {m with fps := 30} < hevcTarget {m with fps := 60} := by
  obtain ⟨f,c,w,h,r,b,p,full⟩ := m
  have size := shape.size
  simp only [Prod.mk.injEq] at size
  rcases size with ⟨rfl,rfl⟩ | ⟨rfl,rfl⟩ | ⟨rfl,rfl⟩ <;> simp only [hevcTarget] <;> decide

theorem HigherRung.increases {m next : Mode} (rung : HigherRung m next) (reachable : Streaming m) :
    m.bitrateKbps.toNat < next.bitrateKbps.toNat := by
  have ceiling := reachable.ceiling
  cases rung with
  | rate fps =>
    have target := encodedTarget_shape _ (shape_fps m reachable.toShape 60 (Or.inr rfl))
    have raised := hevcTarget_rate m reachable.toShape
    have same : hevcTarget m = hevcTarget {m with fps := 30} := by simp only [hevcTarget,fps]
    change _ < (encodedTarget {m with fps := 60}).toNat
    omega
  | size fps w h larger =>
    have target := encodedTarget_shape _ (shape_size m reachable.toShape w h (by tauto))
    change _ < (encodedTarget {m with width := w, height := h}).toNat
    have raised : hevcTarget m < hevcTarget {m with width := w, height := h} := by
      obtain ⟨f,c,width,height,r,b,p,full⟩ := m
      dsimp only at fps
      simp only [Prod.mk.injEq] at larger
      subst fps
      rcases larger with ⟨⟨rfl,rfl⟩,rfl,rfl⟩ | ⟨⟨rfl,rfl⟩,rfl,rfl⟩ <;> simp only [hevcTarget] <;> decide
    omega

theorem observe_streaming (s : AdaptationState) (x : Sample) (reachable : Streaming s.current) :
    Streaming (s.observe x).1.current := by
  rcases call : s.observe x with ⟨after,action⟩
  cases observed_of_eq s after x action call with
  | held | floor | settled => exact reachable
  | down next congested elapsed lower =>
    exact (nextLower_rung s.current next reachable lower).streaming reachable
  | up next stable run elapsed higher =>
    exact (nextHigher_rung s.current next reachable higher).streaming reachable

theorem runs_streaming (startAt : Nat) (samples : List Sample) :
    ∀ e ∈ runs Mode.defaultStreaming1080p30 startAt samples,
      Streaming e.before.current ∧ Streaming e.after.current :=
  Transducer.trace_invariant observe (fun s => Streaming s.current) observe_streaming _ samples
    default_streaming

/-- The reachable-mode invariant of the loop. In every state of every run from the
default mode the mode in force is a canonical HEVC mode between the floor and its
target; a step carries exactly the mode it puts in force, a step up raises the
bitrate, and no action means no change. -/
theorem adaptation_reachable_modes (startAt : Nat) (samples : List Sample) :
    Streaming (Transducer.stateAfter observe (newAt Mode.defaultStreaming1080p30 startAt) samples).current ∧
    ∀ e ∈ runs Mode.defaultStreaming1080p30 startAt samples,
      Streaming e.before.current ∧ Streaming e.after.current ∧
      (∀ mode, e.output = .stepUp mode →
        e.after.current = mode ∧ e.before.current.bitrateKbps < mode.bitrateKbps) ∧
      (∀ mode, e.output = .stepDown mode → e.after.current = mode) ∧
      (e.output = .none → e.after.current = e.before.current) := by
  refine ⟨?_,?_⟩
  · exact Transducer.stateAfter_invariant observe (fun s => Streaming s.current) observe_streaming _
      samples default_streaming
  · intro e member
    obtain ⟨before,after⟩ := runs_streaming startAt samples e member
    refine ⟨before,after,?_⟩
    have observed := runs_observed _ startAt samples e member
    obtain ⟨s,x,action,s'⟩ := e
    dsimp only at before observed ⊢
    cases observed with
    | held | floor | settled => simp
    | down next congested elapsed lower => simp
    | up next stable run elapsed higher =>
      have raised := (nextHigher_rung s.current next before higher).increases before
      simpa [UInt32.lt_iff_toNat_lt] using raised

/-- On a reachable mode a step down lightens the load exactly on the frame-rate
and bitrate rungs; the resolution rung starts from at most 1000 kbps and resets
the bitrate to a target of at least 12000. -/
theorem LowerRung.lightens_iff {m next : Mode} (rung : LowerRung m next) (reachable : Streaming m) :
    demandKbps next < demandKbps m ↔ 30 < m.fps ∨ 1000 < m.bitrateKbps := by
  have demand : demandKbps m = m.bitrateKbps.toNat := by simp only [demandKbps,reachable.format]
  have after : demandKbps next = next.bitrateKbps.toNat := by
    simp only [demandKbps,(rung.streaming reachable).format]
  have sixty : (30 : UInt16) < m.fps ↔ m.fps = 60 := by
    rcases reachable.fps with fps | fps <;> rw [fps] <;> decide
  have above : (1000 : UInt32) < m.bitrateKbps ↔ 1000 < m.bitrateKbps.toNat := by
    simp [UInt32.lt_iff_toNat_lt]
  rw [demand,after,sixty,above]
  cases rung with
  | rate fps =>
    have target := encodedTarget_shape _ (shape_fps m reachable.toShape 30 (Or.inl rfl))
    have raised := hevcTarget_rate m reachable.toShape
    have full := reachable.full fps
    have same : hevcTarget m = hevcTarget {m with fps := 60} := by simp only [hevcTarget,fps]
    have lighter : (encodedTarget {m with fps := 30}).toNat < m.bitrateKbps.toNat := by omega
    exact ⟨fun _ => Or.inl fps,fun _ => lighter⟩
  | bitrate fps above =>
    have cut := cut_toNat m reachable
    have lighter : (m.bitrateKbps * 3 / 4).toNat < m.bitrateKbps.toNat := by omega
    exact ⟨fun _ => Or.inr above,fun _ => lighter⟩
  | size fps low w h smaller =>
    have shape := shape_size m reachable.toShape w h (by tauto)
    have target := encodedTarget_shape _ shape
    have bounds := hevcTarget_bounds _ shape
    have slow : ¬ m.fps = 60 := by rw [fps]; decide
    have heavier : ¬ (encodedTarget {m with width := w, height := h}).toNat < m.bitrateKbps.toNat := by
      omega
    constructor
    · intro lighter
      exact absurd lighter heavier
    · intro given
      rcases given with fast | high
      · exact absurd fast slow
      · omega

/-- Along every run from the default mode, a step down asks less bandwidth than the
mode in force before exactly when that mode still had frames or bitrate to give up. -/
theorem adaptation_stepDown_lightens_iff (startAt : Nat) (samples : List Sample)
    (e : Transducer.Entry AdaptationState Sample Action) (next : Mode)
    (member : e ∈ runs Mode.defaultStreaming1080p30 startAt samples)
    (stepped : e.output = .stepDown next) :
    demandKbps next < demandKbps e.before.current ↔
      30 < e.before.current.fps ∨ 1000 < e.before.current.bitrateKbps := by
  have reachable := (runs_streaming startAt samples e member).1
  have observed := runs_observed _ startAt samples e member
  obtain ⟨s,x,action,s'⟩ := e
  dsimp only at stepped reachable observed ⊢
  subst stepped
  cases observed with
  | down _ congested elapsed lower =>
    exact (nextLower_rung s.current next reachable lower).lightens_iff reachable

def backlogged (count : Nat) : List Sample :=
  (List.range count).map fun i =>
    ⟨⟨0,1.0,.unplugged,.nominal,0,0,0,1,0⟩,0.0,2 * (i + 1) * second⟩

theorem backlogged_first_step_lighter :
    demandKbps {Mode.defaultStreaming1080p30 with bitrateKbps := 22500} <
      demandKbps Mode.defaultStreaming1080p30 :=
  (adaptation_stepDown_lightens_iff 0 (backlogged 1)
    ((runs Mode.defaultStreaming1080p30 0 (backlogged 1)).get ⟨0,by decide⟩)
    {Mode.defaultStreaming1080p30 with bitrateKbps := 22500}
    (List.get_mem _ _) (by decide +kernel)).mpr (Or.inr (by decide +kernel))

/-- The thirteenth step of a backlogged phone drops 1080p at 949 kbps to 720p at
12000 kbps. -/
theorem backlogged_thirteenth_step_heavier :
    ∃ e next, e ∈ runs Mode.defaultStreaming1080p30 0 (backlogged 13) ∧ e.output = .stepDown next ∧
      demandKbps e.before.current = 949 ∧ demandKbps next = 12000 ∧
      ¬ demandKbps next < demandKbps e.before.current :=
  ⟨(runs Mode.defaultStreaming1080p30 0 (backlogged 13)).get ⟨12,by decide⟩,
    {Mode.defaultStreaming1080p30 with width := 1280, height := 720, bitrateKbps := 12000},
    List.get_mem _ _,by decide +kernel,by decide +kernel,by decide +kernel,by decide +kernel⟩

theorem demand_streaming (m : Mode) (reachable : Streaming m) : demandKbps m = m.bitrateKbps.toNat := by
  simp only [demandKbps,reachable.format]

/-- The ladder up from the rung below: it takes the frame rate first, and leads back no further than
where the way down began only if that way was a cut of the frame rate. -/
theorem LowerRung.recovers_iff {m lower higher : Mode} (down : LowerRung m lower) (up : HigherRung lower higher)
    (reachable : Streaming m) : demandKbps higher ≤ demandKbps m ↔ 30 < m.fps := by
  have below := down.streaming reachable
  rw [demand_streaming m reachable,demand_streaming higher (up.streaming below)]
  have raised := up.increases below
  cases down with
  | rate fps =>
    have fast : (30 : UInt16) < m.fps := by rw [fps]; decide
    refine iff_of_true ?_ fast
    cases up with
    | rate _ =>
      -- back at 60 fps with the full target, which is what a reachable mode has there
      have target := encodedTarget_shape {m with fps := 60} (shape_fps m reachable.toShape 60 (Or.inr rfl))
      have full := reachable.full fps
      have same : hevcTarget m = hevcTarget {m with fps := 60} := by simp only [hevcTarget,fps]
      change (encodedTarget {m with fps := 60}).toNat ≤ m.bitrateKbps.toNat
      omega
    | size fast => cases fast
  | bitrate fps above =>
    have slow : ¬(30 : UInt16) < m.fps := by rw [fps]; decide
    refine iff_of_false ?_ slow
    have ceiling := reachable.ceiling
    have rate := hevcTarget_rate m reachable.toShape
    have same : hevcTarget m = hevcTarget {m with fps := 30} := by simp only [hevcTarget,fps]
    cases up with
    | rate _ =>
      have target := encodedTarget_shape {m with fps := 60} (shape_fps m reachable.toShape 60 (Or.inr rfl))
      change ¬(encodedTarget {m with fps := 60}).toNat ≤ m.bitrateKbps.toNat
      omega
    | size fast =>
      rw [fps] at fast
      cases fast
  | size fps low w h smaller =>
    have slow : ¬(30 : UInt16) < m.fps := by rw [fps]; decide
    refine iff_of_false ?_ slow
    have shape := shape_size m reachable.toShape w h (by tauto)
    have target := encodedTarget_shape _ shape
    have bounds := hevcTarget_bounds _ shape
    change (encodedTarget {m with width := w, height := h}).toNat < higher.bitrateKbps.toNat at raised
    omega

/-- In every state that a run from the default mode reaches: where the rung below leads up again, it
leads no further than the mode that was left just when that mode had more than 30 frames a second. -/
theorem step_up_undoes_step_down_iff (startAt : Nat) (samples : List Sample) (lower higher : Mode)
    (down : nextLower (Transducer.stateAfter observe (newAt Mode.defaultStreaming1080p30 startAt) samples).current =
      some lower) (up : nextHigher lower = some higher) :
    demandKbps higher ≤
        demandKbps (Transducer.stateAfter observe (newAt Mode.defaultStreaming1080p30 startAt) samples).current ↔
      30 < (Transducer.stateAfter observe (newAt Mode.defaultStreaming1080p30 startAt) samples).current.fps := by
  have reachable := Transducer.stateAfter_invariant observe (fun s => Streaming s.current) observe_streaming
    (newAt Mode.defaultStreaming1080p30 startAt) samples default_streaming
  have rung := nextLower_rung _ lower reachable down
  exact rung.recovers_iff (nextHigher_rung lower higher (rung.streaming reachable) up) reachable

/-- Four stable samples, two seconds apart, take the default mode to 60 fps. -/
def steady : List Sample :=
  (List.range 4).map fun i => ⟨⟨0,1.0,.unplugged,.nominal,0,0,0,0,0⟩,0.0,2 * (i + 1) * second⟩

theorem steady_recovers :
    (Transducer.stateAfter observe (newAt Mode.defaultStreaming1080p30 0) steady).current =
      {Mode.defaultStreaming1080p30 with fps := 60, bitrateKbps := 50000} ∧
    demandKbps {Mode.defaultStreaming1080p30 with fps := 60, bitrateKbps := 50000} ≤
      demandKbps (Transducer.stateAfter observe (newAt Mode.defaultStreaming1080p30 0) steady).current := by
  have reached : (Transducer.stateAfter observe (newAt Mode.defaultStreaming1080p30 0) steady).current =
      {Mode.defaultStreaming1080p30 with fps := 60, bitrateKbps := 50000} := by decide +kernel
  refine ⟨reached,?_⟩
  refine (step_up_undoes_step_down_iff 0 steady Mode.defaultStreaming1080p30 _ ?_ (by decide +kernel)).mpr ?_
  · rw [reached]
    decide +kernel
  · rw [reached]
    decide

/-- From the default mode itself the bitrate is cut to 22500 kbps, and the step up asks for 50000. -/
theorem default_overshoots :
    (Transducer.stateAfter observe (newAt Mode.defaultStreaming1080p30 0) []).current = Mode.defaultStreaming1080p30 ∧
    nextLower Mode.defaultStreaming1080p30 = some {Mode.defaultStreaming1080p30 with bitrateKbps := 22500} ∧
    nextHigher {Mode.defaultStreaming1080p30 with bitrateKbps := 22500} =
      some {Mode.defaultStreaming1080p30 with fps := 60, bitrateKbps := 50000} ∧
    ¬demandKbps {Mode.defaultStreaming1080p30 with fps := 60, bitrateKbps := 50000} ≤
      demandKbps Mode.defaultStreaming1080p30 := by
  exact ⟨rfl,by decide +kernel,by decide +kernel,by decide +kernel⟩

end ClearCam.Adaptive
