import ClearCam.Adaptive.CameraModes
import ClearCam.Adaptive.Speedtest
import ClearCam.Media.Pipeline
import ClearCam.Session.ControlPlane

/-! `AppHandle::run_speedtest`: what it measures of the arrivals that the counter holds after the ramp,
and what it recommends for the cameras of the snapshot. -/
namespace ClearCam.App
open ClearCam.Protocol ClearCam.Adaptive ClearCam.Session
open ClearCam.Media (SpeedtestArrival SpeedTestCounter)

def defaultIphoneCaps : List AvailableMode :=
  [⟨1280,720,30,everyFormat⟩,⟨1280,720,60,everyFormat⟩,⟨1920,1080,30,everyFormat⟩,⟨1920,1080,60,everyFormat⟩]

def cameraMode (c : CameraEntry) : AvailableMode := ⟨c.maxWidth,c.maxHeight,c.maxFps,everyFormat⟩

def cameraCaps (cameras : List CameraEntry) : List AvailableMode :=
  if cameras.isEmpty then defaultIphoneCaps else cameras.map cameraMode

structure SpeedtestOutcome where
  measurement : Measurement
  recommended : Mode

def sessionCameras (snap : SessionSnapshot) : List CameraEntry := (snap.device.map DeviceSnapshot.cameras).getD []

/-- The sender, which may fail, what the counter holds at first, and what is recorded up to the second drain. -/
structure Ramp where
  send : ControlMessage → Except String Unit
  counter : SpeedTestCounter
  recorded : List SpeedtestArrival

def Ramp.arrivals (ramp : Ramp) : List SpeedtestArrival :=
  let (_,counter) := SpeedTestCounter.drain ramp.counter
  (SpeedTestCounter.drain (ramp.recorded.foldl SpeedTestCounter.record counter)).1

def observations (plan : SpeedtestPlan) (arrivals : List SpeedtestArrival) : List (StepObservation Float) :=
  plan.stepsKbps.mapIdx fun i targetKbps =>
    ⟨targetKbps,SpeedTestCounter.bytesForStep arrivals (UInt32.ofNat i),plan.stepDuration,0.0⟩

def speedtestStart (plan : SpeedtestPlan) : ControlMessage :=
  let maxKbps := plan.stepsKbps.getLast?.getD 800000
  .speedtestStart ⟨"ramp-1",maxKbps.toUInt32,UInt32.ofNat (plan.totalDuration / 10 ^ 6),.ramp⟩

/-- The ramp takes the live path; without one the last telemetry stands in for the goodput. -/
def runSpeedtest (snap : SessionSnapshot) (ramp : Option Ramp) : Except String SpeedtestOutcome :=
  let caps := cameraCaps (sessionCameras snap)
  match ramp with
  | some ramp =>
    let plan := SpeedtestPlan.defaultRamp
    match ramp.send (speedtestStart plan) with
    | .error e => .error ("send SPEEDTEST_START: " ++ e)
    | .ok () =>
      let measurement := evaluate (observations plan ramp.arrivals) 0.0
      .ok ⟨measurement,selectMode measurement caps .wiFi UserLimits.none⟩
  | none =>
    let goodputMbps := match snap.lastTelemetry with
      | some t => Float.ofNat t.sentBitrateKbps.toNat / 1000.0
      | none => 50.0
    let measurement := ⟨floatMax goodputMbps 10.0,5.0,1.0,0.0⟩
    .ok ⟨measurement,selectMode measurement caps .wiFi UserLimits.none⟩

theorem cameraCaps_everyFormat (cameras : List CameraEntry) : EveryFormat (cameraCaps cameras) := by
  intro m listed
  unfold cameraCaps at listed
  split at listed
  · simp only [defaultIphoneCaps,List.mem_cons,List.not_mem_nil,or_false] at listed
    rcases listed with rfl | rfl | rfl | rfl <;> rfl
  · obtain ⟨c,_,rfl⟩ := List.mem_map.mp listed
    rfl

theorem runSpeedtest_recommends (snap : SessionSnapshot) (ramp : Option Ramp) (outcome : SpeedtestOutcome)
    (ran : runSpeedtest snap ramp = .ok outcome) :
    outcome.recommended =
      selectMode outcome.measurement (cameraCaps (sessionCameras snap)) .wiFi UserLimits.none := by
  unfold runSpeedtest at ran
  cases ramp with
  | none =>
    cases ran
    rfl
  | some ramp =>
    simp only at ran
    split at ran
    · cases ran
    · cases ran
      rfl

section Cameras

def defaultSize (usable : UInt64) : ℕ ×ₗ ℕ :=
  if usable < 20000 then toLex (1280 * 720,30)
  else if usable < 30000 then toLex (1280 * 720,60)
  else if usable < 50000 then toLex (1920 * 1080,30)
  else toLex (1920 * 1080,60)

theorem selected_largest (usable : UInt64) (caps : List AvailableMode) (every : EveryFormat caps) (m : AvailableMode)
    (listed : m ∈ caps) (fits : Fits usable m)
    (largest : ∀ other ∈ caps, Fits usable other → entrySize other ≤ entrySize m) :
    modeSize (selectUsable usable caps .wiFi UserLimits.none) = entrySize m := by
  apply (selected_size usable caps .wiFi every ⟨m,listed,fits⟩).unique
  refine ⟨⟨m,⟨listed,fits⟩,rfl⟩,?_⟩
  intro size member
  obtain ⟨other,⟨inside,otherFits⟩,rfl⟩ := member
  exact largest other inside otherFits

theorem default_every : EveryFormat defaultIphoneCaps := cameraCaps_everyFormat []

theorem default_fits (usable : UInt64) (P : AvailableMode → Prop)
    (hd30 : 12000 ≤ usable.toNat → P ⟨1280,720,30,everyFormat⟩) (hd60 : 20000 ≤ usable.toNat → P ⟨1280,720,60,everyFormat⟩)
    (full30 : 30000 ≤ usable.toNat → P ⟨1920,1080,30,everyFormat⟩)
    (full60 : 50000 ≤ usable.toNat → P ⟨1920,1080,60,everyFormat⟩) :
    ∀ m ∈ defaultIphoneCaps, Fits usable m → P m := by
  intro m listed fits
  simp only [defaultIphoneCaps,List.mem_cons,List.not_mem_nil,or_false] at listed
  rcases listed with rfl | rfl | rfl | rfl
  · exact hd30 fits
  · exact hd60 fits
  · exact full30 fits
  · exact full60 fits

theorem default_sizes : entrySize ⟨1280,720,30,everyFormat⟩ < entrySize ⟨1280,720,60,everyFormat⟩ ∧
    entrySize ⟨1280,720,60,everyFormat⟩ < entrySize ⟨1920,1080,30,everyFormat⟩ ∧
    entrySize ⟨1920,1080,30,everyFormat⟩ < entrySize ⟨1920,1080,60,everyFormat⟩ := by
  decide

theorem default_selected (usable : UInt64) :
    modeSize (selectUsable usable defaultIphoneCaps .wiFi UserLimits.none) = defaultSize usable := by
  obtain ⟨first,second,third⟩ := default_sizes
  have hd60Limit : usable < 20000 ↔ usable.toNat < 20000 := UInt64.lt_iff_toNat_lt
  have full30Limit : usable < 30000 ↔ usable.toNat < 30000 := UInt64.lt_iff_toNat_lt
  have full60Limit : usable < 50000 ↔ usable.toNat < 50000 := UInt64.lt_iff_toNat_lt
  unfold defaultSize
  by_cases hd60 : usable.toNat < 20000
  · rw [if_pos (hd60Limit.mpr hd60)]
    by_cases hd30 : 12000 ≤ usable.toNat
    · apply selected_largest usable defaultIphoneCaps default_every ⟨1280,720,30,everyFormat⟩ (by simp [defaultIphoneCaps]) hd30
      apply default_fits
      · exact fun _ => le_refl _
      · omega
      · omega
      · omega
    · have none : ¬∃ m ∈ defaultIphoneCaps, Fits usable m := by
        intro ⟨m,listed,fits⟩
        exact default_fits usable (fun _ => False) hd30 (by omega) (by omega) (by omega) m listed fits
      rw [selected_fallback usable defaultIphoneCaps .wiFi default_every none]
      rfl
  rw [if_neg (mt hd60Limit.mp hd60)]
  by_cases full30 : usable.toNat < 30000
  · rw [if_pos (full30Limit.mpr full30)]
    apply selected_largest usable defaultIphoneCaps default_every ⟨1280,720,60,everyFormat⟩ (by simp [defaultIphoneCaps])
      (Nat.le_of_not_lt hd60)
    apply default_fits
    · exact fun _ => first.le
    · exact fun _ => le_refl _
    · omega
    · omega
  rw [if_neg (mt full30Limit.mp full30)]
  by_cases full60 : usable.toNat < 50000
  · rw [if_pos (full60Limit.mpr full60)]
    apply selected_largest usable defaultIphoneCaps default_every ⟨1920,1080,30,everyFormat⟩ (by simp [defaultIphoneCaps])
      (Nat.le_of_not_lt full30)
    apply default_fits
    · exact fun _ => (first.trans second).le
    · exact fun _ => second.le
    · exact fun _ => le_refl _
    · omega
  rw [if_neg (mt full60Limit.mp full60)]
  apply selected_largest usable defaultIphoneCaps default_every ⟨1920,1080,60,everyFormat⟩ (by simp [defaultIphoneCaps])
    (Nat.le_of_not_lt full60)
  apply default_fits
  · exact fun _ => (first.trans (second.trans third)).le
  · exact fun _ => (second.trans third).le
  · exact fun _ => third.le
  · exact fun _ => le_refl _

theorem cameras_selected_iff (usable : UInt64) (cameras : List CameraEntry) (size : ℕ ×ₗ ℕ) :
    size ≤ modeSize (selectUsable usable (cameras.map cameraMode) .wiFi UserLimits.none) ↔
      (∃ c ∈ cameras, Fits usable (cameraMode c) ∧ size ≤ entrySize (cameraMode c)) ∨
        (∀ c ∈ cameras, ¬Fits usable (cameraMode c)) ∧ size ≤ toLex (1280 * 720,30) := by
  have every : EveryFormat (cameras.map cameraMode) := by
    intro m listed
    obtain ⟨c,_,rfl⟩ := List.mem_map.mp listed
    rfl
  by_cases some : ∃ m ∈ cameras.map cameraMode, Fits usable m
  · obtain ⟨⟨best,⟨listed,fits⟩,same⟩,greatest⟩ := selected_size usable (cameras.map cameraMode) .wiFi every some
    obtain ⟨c,member,rfl⟩ := List.mem_map.mp listed
    constructor
    · intro below
      rw [← same] at below
      exact .inl ⟨c,member,fits,below⟩
    · intro condition
      rcases condition with ⟨other,inside,otherFits,below⟩ | ⟨none,_⟩
      · exact le_trans below (greatest ⟨cameraMode other,⟨List.mem_map_of_mem inside,otherFits⟩,rfl⟩)
      · exact absurd fits (none c member)
  · have none : ∀ c ∈ cameras, ¬Fits usable (cameraMode c) := by
      intro c member fits
      exact some ⟨cameraMode c,List.mem_map_of_mem member,fits⟩
    rw [selected_fallback usable (cameras.map cameraMode) .wiFi every some]
    constructor
    · intro below
      exact .inr ⟨none,below⟩
    · intro condition
      rcases condition with ⟨c,member,fits,_⟩ | ⟨_,below⟩
      · exact absurd fits (none c member)
      · exact below

theorem defaultSize_least (usable : UInt64) : defaultSize usable ≤ toLex (1280 * 720,30) ↔ usable < 20000 := by
  unfold defaultSize
  split
  · exact iff_of_true (le_refl _) ‹_›
  split
  · exact iff_of_false (by decide) ‹_›
  split
  · exact iff_of_false (by decide) ‹_›
  · exact iff_of_false (by decide) ‹_›

/-- The largest mode of each camera against the four standard modes, at one goodput: the cameras lead
to no less when the target of one that is large enough is usable, or when no target is and the standard
modes lead to no more than the fallback. -/
theorem known_cameras_iff (snap bare : SessionSnapshot) (ramp bareRamp : Option Ramp) (known unknown : SpeedtestOutcome)
    (ran : runSpeedtest snap ramp = .ok known) (bareRan : runSpeedtest bare bareRamp = .ok unknown)
    (empty : sessionCameras bare = []) (goodput : unknown.measurement.goodputMbps = known.measurement.goodputMbps)
    (full : ∃ c ∈ sessionCameras snap, 1920 ≤ c.maxWidth ∧ 1080 ≤ c.maxHeight ∧ 60 ≤ c.maxFps) :
    let usable := usableKbps known.measurement
    modeSize unknown.recommended ≤ modeSize known.recommended ↔
      (∃ c ∈ sessionCameras snap, Fits usable (cameraMode c) ∧ defaultSize usable ≤ entrySize (cameraMode c)) ∨
        (∀ c ∈ sessionCameras snap, ¬Fits usable (cameraMode c)) ∧ usable < 20000 := by
  intro usable
  have same : usableKbps unknown.measurement = usable :=
    congrArg (fun goodputMbps : Float => (goodputMbps * 1000.0 * headroom).toUInt64) goodput
  have standard : modeSize unknown.recommended = defaultSize usable := by
    rw [runSpeedtest_recommends bare bareRamp unknown bareRan,selectMode,same,empty]
    exact default_selected usable
  have listed : cameraCaps (sessionCameras snap) = (sessionCameras snap).map cameraMode := by
    obtain ⟨c,member,_⟩ := full
    apply if_neg
    rw [List.isEmpty_iff]
    exact List.ne_nil_of_mem member
  rw [standard,runSpeedtest_recommends snap ramp known ran,selectMode,listed,cameras_selected_iff,defaultSize_least]

def backCamera (width height : UInt16) : CameraEntry := ⟨"wide","Wide",.back,width,height,60,["nv12","hevc"]⟩

def sessionWith (transport : TransportTag) (cameras : List CameraEntry) : SessionSnapshot :=
  ⟨.ready (some transport),some ⟨"iPhone15,3","17.5",true,0.8,cameras⟩,none⟩

/-- As many raw 720p frames in each step as its target needs. -/
def ramp (steps : Nat) : Ramp :=
  ⟨fun _ => .ok (),[],(List.range steps).flatMap fun i => List.replicate (3 * 2 ^ i) ⟨UInt32.ofNat i,1382400⟩⟩

theorem known_cameras_full_hd : ∃ known unknown,
    runSpeedtest (sessionWith .wifi [backCamera 1920 1080]) (some (ramp 2)) = .ok known ∧
    runSpeedtest (sessionWith .wifi []) (some (ramp 2)) = .ok unknown ∧
    modeSize unknown.recommended ≤ modeSize known.recommended :=
  ⟨_,_,rfl,rfl,(known_cameras_iff (sessionWith .wifi [backCamera 1920 1080]) (sessionWith .wifi []) (some (ramp 2))
    (some (ramp 2)) _ _ rfl rfl rfl rfl ⟨_,List.mem_singleton_self _,by decide⟩).mpr
      (.inl ⟨_,List.mem_singleton_self _,by decide +kernel,by decide +kernel⟩)⟩

/-- At 50 Mbit/s a camera known by its whole sensor leads to the fallback, an unknown one to 1080p30. -/
theorem known_sensor_recommends_less : ∃ known unknown,
    runSpeedtest (sessionWith .wifi [backCamera 4032 3024]) (some (ramp 1)) = .ok known ∧
    runSpeedtest (sessionWith .wifi []) (some (ramp 1)) = .ok unknown ∧
    unknown.measurement = known.measurement ∧
    known.recommended = safeFallback ∧ modeSize unknown.recommended = toLex (1920 * 1080,30) ∧
    ¬modeSize unknown.recommended ≤ modeSize known.recommended :=
  ⟨_,_,rfl,rfl,rfl,by decide +kernel,by decide +kernel,by decide +kernel⟩

end Cameras

section Counted

theorem arrivals_recorded (ramp : Ramp) : ramp.arrivals = ramp.recorded := by
  have appended : ∀ (counter : SpeedTestCounter) (recorded : List SpeedtestArrival),
      recorded.foldl SpeedTestCounter.record counter = counter ++ recorded := by
    intro counter recorded
    induction recorded generalizing counter with
    | nil => exact (List.append_nil counter).symm
    | cons arrival recorded ih =>
      rw [List.foldl_cons,ih,SpeedTestCounter.record,List.append_assoc,List.singleton_append]
  exact appended [] ramp.recorded

def bytesOfStep (arrivals : List SpeedtestArrival) (i : Nat) : Nat :=
  ((arrivals.filter fun a => a.stepIndex.toNat = i).map SpeedtestArrival.payloadBytes).sum

theorem bytesForStep_eq (arrivals : List SpeedtestArrival) (i : Nat) (small : i < 2 ^ 32) :
    SpeedTestCounter.bytesForStep arrivals (UInt32.ofNat i) = bytesOfStep arrivals i % 2 ^ 64 := by
  have same : ∀ a : SpeedtestArrival, a.stepIndex = UInt32.ofNat i ↔ a.stepIndex.toNat = i := by
    intro a
    rw [← UInt32.toNat_inj,UInt32.toNat_ofNat_of_lt' small]
  unfold SpeedTestCounter.bytesForStep bytesOfStep
  simp only [same]

theorem steps_share (arrivals : List SpeedtestArrival) (steps : Nat) :
    ((List.range steps).map (bytesOfStep arrivals)).sum =
      ((arrivals.filter fun a => a.stepIndex.toNat < steps).map SpeedtestArrival.payloadBytes).sum := by
  have next : ∀ i : Nat, ((arrivals.filter fun a => a.stepIndex.toNat < i + 1).map SpeedtestArrival.payloadBytes).sum =
      ((arrivals.filter fun a => a.stepIndex.toNat < i).map SpeedtestArrival.payloadBytes).sum + bytesOfStep arrivals i := by
    intro i
    unfold bytesOfStep
    induction arrivals with
    | nil => rfl
    | cons a arrivals ih =>
      simp only [List.filter_cons,decide_eq_true_eq]
      rcases Nat.lt_trichotomy a.stepIndex.toNat i with below | same | above
      · rw [if_pos (by omega),if_pos below,if_neg (by omega),List.map_cons,List.map_cons,List.sum_cons,List.sum_cons,ih]
        omega
      · rw [if_pos (by omega),if_neg (by omega),if_pos same,List.map_cons,List.map_cons,List.sum_cons,List.sum_cons,ih]
        omega
      · rw [if_neg (by omega),if_neg (by omega),if_neg (by omega)]
        exact ih
  induction steps with
  | zero =>
    rw [List.range_zero,List.map_nil,List.sum_nil]
    have none : (arrivals.filter fun a => a.stepIndex.toNat < 0) = [] :=
      List.filter_eq_nil_iff.mpr fun a _ => by simp
    rw [none]
    rfl
  | succ steps ih =>
    rw [List.range_succ,List.map_append,List.sum_append,ih,next]
    rfl

theorem bytesOfStep_perm (arrivals other : List SpeedtestArrival) (same : arrivals.Perm other) (i : Nat) :
    bytesOfStep arrivals i = bytesOfStep other i :=
  ((same.filter _).map _).sum_eq

/-- Step for step the bytes that it carried, all that belong to a step, in whatever order. -/
structure Counted (plan : SpeedtestPlan) (arrivals : List SpeedtestArrival) : Prop where
  steps : (observations plan arrivals).map StepObservation.receivedBytes =
    (List.range plan.stepsKbps.length).map (bytesOfStep arrivals)
  total : ((observations plan arrivals).map StepObservation.receivedBytes).sum =
    ((arrivals.filter fun a => a.stepIndex.toNat < plan.stepsKbps.length).map SpeedtestArrival.payloadBytes).sum
  order : ∀ other, arrivals.Perm other → observations plan other = observations plan arrivals

variable (plan : SpeedtestPlan) (small : plan.stepsKbps.length ≤ 2 ^ 32) (arrivals : List SpeedtestArrival)
include small

theorem received_eq : (observations plan arrivals).map StepObservation.receivedBytes =
    (List.range plan.stepsKbps.length).map fun i => bytesOfStep arrivals i % 2 ^ 64 := by
  apply List.ext_getElem
  · simp [observations]
  · intro i inside _
    have step : i < plan.stepsKbps.length := by simpa [observations] using inside
    have same := bytesForStep_eq arrivals i (Nat.lt_of_lt_of_le step small)
    simpa [observations] using same

theorem observations_perm (other : List SpeedtestArrival) (same : arrivals.Perm other) :
    observations plan other = observations plan arrivals := by
  apply List.ext_getElem
  · simp [observations]
  · intro i inside _
    have step : i < plan.stepsKbps.length := by simpa [observations] using inside
    have bytes : SpeedTestCounter.bytesForStep other (UInt32.ofNat i) = SpeedTestCounter.bytesForStep arrivals (UInt32.ofNat i) := by
      rw [bytesForStep_eq other i (Nat.lt_of_lt_of_le step small),
        bytesForStep_eq arrivals i (Nat.lt_of_lt_of_le step small),bytesOfStep_perm arrivals other same i]
    simp [observations,bytes]

theorem counted_iff : Counted plan arrivals ↔ ∀ i < plan.stepsKbps.length, bytesOfStep arrivals i < 2 ^ 64 := by
  constructor
  · intro counted i inside
    have steps := counted.steps
    rw [received_eq plan small,List.map_inj_left] at steps
    rw [← steps i (List.mem_range.mpr inside)]
    exact Nat.mod_lt _ (by decide)
  · intro fits
    have steps : (observations plan arrivals).map StepObservation.receivedBytes =
        (List.range plan.stepsKbps.length).map (bytesOfStep arrivals) := by
      rw [received_eq plan small,List.map_inj_left]
      intro i member
      exact Nat.mod_eq_of_lt (fits i (List.mem_range.mp member))
    exact ⟨steps,steps ▸ steps_share arrivals _,observations_perm plan small arrivals⟩

end Counted

/-- The class of the link under a session's tag. -/
inductive RunsOn : TransportTag → TransportClass → Prop where
  | wifi : RunsOn .wifi .wiFi
  | usb2 : RunsOn .usb .usb2
  | usb3 : RunsOn .usb .usb3

/-- The recommendation is the one for the link itself, except where a raw mode would win on USB. -/
theorem runSpeedtest_computes_iff (snap : SessionSnapshot) (ramp : Ramp) (tag : TransportTag) (transport : TransportClass)
    (runs : RunsOn tag transport) (sent : ramp.send (speedtestStart SpeedtestPlan.defaultRamp) = .ok ()) :
    let plan := SpeedtestPlan.defaultRamp
    let caps := cameraCaps (sessionCameras snap)
    let measurement := evaluate (observations plan ramp.recorded) 0.0
    (Counted plan ramp.recorded ∧
      runSpeedtest snap (some ramp) = .ok ⟨measurement,selectMode measurement caps transport UserLimits.none⟩) ↔
    (∀ i < 5, bytesOfStep ramp.recorded i < 2 ^ 64) ∧
      (tag = .wifi ∨ ¬RawDecides (usableKbps measurement) caps transport) := by
  intro plan caps measurement
  have ran : runSpeedtest snap (some ramp) = .ok ⟨measurement,selectMode measurement caps .wiFi UserLimits.none⟩ := by
    unfold runSpeedtest
    simp only [sent,arrivals_recorded]
    rfl
  have chosen : runSpeedtest snap (some ramp) =
      .ok ⟨measurement,selectMode measurement caps transport UserLimits.none⟩ ↔
      ¬RawDecides (usableKbps measurement) caps transport := by
    rw [ran,Except.ok.injEq,SpeedtestOutcome.mk.injEq,and_iff_right rfl]
    exact selected_same_iff (usableKbps measurement) caps transport (cameraCaps_everyFormat _)
  rw [counted_iff plan (by decide),chosen]
  apply and_congr_right
  intro _
  constructor
  · exact .inr
  · intro condition
    rcases condition with onWiFi | settled
    · rw [onWiFi] at runs
      cases runs
      exact rawDecides_wiFi _ _
    · exact settled

def hdCamera : CameraEntry := ⟨"front","TrueDepth",.front,1280,720,30,["nv12"]⟩

theorem runSpeedtest_computes_usb2 :
    let measurement := evaluate (observations SpeedtestPlan.defaultRamp (ramp 4).recorded) 0.0
    Counted SpeedtestPlan.defaultRamp (ramp 4).recorded ∧
      runSpeedtest (sessionWith .usb [hdCamera]) (some (ramp 4)) =
        .ok ⟨measurement,selectMode measurement (cameraCaps [hdCamera]) .usb2 UserLimits.none⟩ := by
  have bytes : ∀ i < 5, bytesOfStep (ramp 4).recorded i < 2 ^ 64 := by decide +kernel
  have settled : ¬RawDecides (usableKbps (evaluate (observations SpeedtestPlan.defaultRamp (ramp 4).recorded) 0.0))
      (cameraCaps (sessionCameras (sessionWith .usb [hdCamera]))) .usb2 := by
    unfold RawDecides
    decide +kernel
  have computes := runSpeedtest_computes_iff (sessionWith .usb [hdCamera]) (ramp 4) .usb .usb2 .usb2 rfl
  exact computes.mpr ⟨bytes,.inr settled⟩

/-- At 800 Mbit/s over USB the phone could send raw 720p30; the recommendation is still encoded. -/
theorem usb_session_encoded :
    ((runSpeedtest (sessionWith .usb [hdCamera]) (some (ramp 5))).toOption.map fun outcome =>
      (outcome.recommended.format,
        (selectMode outcome.measurement (cameraCaps [hdCamera]) .usb2 UserLimits.none).format,
        (selectMode outcome.measurement (cameraCaps [hdCamera]) .usb3 UserLimits.none).format)) =
      some (.encoded,.raw,.raw) := by
  decide +kernel

end ClearCam.App
