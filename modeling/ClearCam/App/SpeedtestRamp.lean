import ClearCam.Adaptive.FrameBudget
import ClearCam.App.SpeedtestTiming
import Mathlib.Data.List.TakeWhile
import Mathlib.Tactic.IntervalCases

/-! `speedtest_ramp`, the phone's side of the ramp, against the evaluation of what the desktop records. -/
namespace ClearCam.App
open ClearCam.Adaptive
open ClearCam.Media (Flags MediaFrame SpeedtestArrival speedtestSeqBase)

def fillerFrame (nowUsec : Nat → Nat → UInt64) (width height : UInt16) (stepIndex j : Nat) : MediaFrame :=
  let buf := List.replicate (width.toNat * height.toNat * 3 / 2) 0x80
  let stepSeq := speedtestSeqBase + UInt32.ofNat stepIndex
  ⟨⟨.video,Flags.empty,.raw,width,height,stepSeq,nowUsec stepIndex j,UInt32.ofNat buf.length⟩,buf⟩

def stepFrames (nowUsec : Nat → Nat → UInt64) (width height : UInt16) (stepDuration : Nat) (targetKbps : UInt64)
    (stepIndex : Nat) : List MediaFrame :=
  let frames := framesPerStepForTarget targetKbps width.toUInt32 height.toUInt32 (UInt64.ofNat (stepDuration / 10 ^ 6))
  (List.range frames.toNat).map (fillerFrame nowUsec width height stepIndex)

def rampFrames (nowUsec : Nat → Nat → UInt64) (width height : UInt16) : List MediaFrame :=
  let plan := SpeedtestPlan.defaultRamp
  plan.stepsKbps.zipIdx.flatMap fun step => stepFrames nowUsec width height plan.stepDuration step.1 step.2

/-- The ramp ends at the first write that fails. -/
def speedtestRamp (write : MediaFrame → Bool) (nowUsec : Nat → Nat → UInt64) (width height : UInt16) :
    List MediaFrame :=
  (rampFrames nowUsec width height).takeWhile write

def ofStep (i : Nat) (arrivals : List SpeedtestArrival) : List SpeedtestArrival :=
  arrivals.filter fun a => a.stepIndex.toNat = i

/-- What the counter notes of the ramp on a link that takes every frame. -/
def perfectArrivals (nowUsec : Nat → Nat → UInt64) (width height : UInt16) : List SpeedtestArrival :=
  (speedtestRamp (fun _ => true) nowUsec width height).filterMap Media.arrival

theorem bytesOfStep_flatMap {α : Type} (items : List α) (f : α → List SpeedtestArrival) (i : Nat) :
    bytesOfStep (items.flatMap f) i = (items.map fun a => bytesOfStep (f a) i).sum := by
  induction items with
  | nil => rfl
  | cons a items ih =>
    rw [List.flatMap_cons,List.map_cons,List.sum_cons,← ih]
    unfold bytesOfStep
    rw [List.filter_append,List.map_append,List.sum_append]

theorem bytesOfStep_replicate (n j bytes i : Nat) (small : j < 2 ^ 32) :
    bytesOfStep (List.replicate n ⟨UInt32.ofNat j,bytes⟩) i = if j = i then n * bytes else 0 := by
  have index : (UInt32.ofNat j).toNat = j := UInt32.toNat_ofNat_of_lt' small
  unfold bytesOfStep
  rw [List.filter_replicate]
  simp only [index,decide_eq_true_eq]
  split
  · rw [List.map_replicate,List.sum_replicate_nat]
  · rfl

theorem fillerFrame_arrival (nowUsec : Nat → Nat → UInt64) (width height : UInt16) (i j : Nat) (inside : i < 5) :
    Media.arrival (fillerFrame nowUsec width height i j) =
      some ⟨UInt32.ofNat i,width.toNat * height.toNat * 3 / 2⟩ := by
  have marked : ∀ i < 5, speedtestSeqBase + UInt32.ofNat i ≥ 0xFFFF0000 ∧
      speedtestSeqBase + UInt32.ofNat i - 0xFFFF0000 = UInt32.ofNat i := by decide
  obtain ⟨marker,index⟩ := marked i inside
  have noted : Media.arrival (fillerFrame nowUsec width height i j) =
      some ⟨speedtestSeqBase + UInt32.ofNat i - 0xFFFF0000,
        (List.replicate (width.toNat * height.toNat * 3 / 2) (0x80 : UInt8)).length⟩ := if_pos marker
  rw [noted,index,List.length_replicate]

theorem stepFrames_arrivals (nowUsec : Nat → Nat → UInt64) (width height : UInt16) (stepDuration : Nat)
    (targetKbps : UInt64) (i : Nat) (inside : i < 5) :
    (stepFrames nowUsec width height stepDuration targetKbps i).filterMap Media.arrival =
      List.replicate (framesPerStepForTarget targetKbps width.toUInt32 height.toUInt32
        (UInt64.ofNat (stepDuration / 10 ^ 6))).toNat ⟨UInt32.ofNat i,width.toNat * height.toNat * 3 / 2⟩ := by
  have noted : Media.arrival ∘ fillerFrame nowUsec width height i =
      some ∘ fun _ => ⟨UInt32.ofNat i,width.toNat * height.toNat * 3 / 2⟩ :=
    funext fun j => fillerFrame_arrival nowUsec width height i j inside
  unfold stepFrames
  rw [List.filterMap_map,noted,List.filterMap_eq_map,List.map_const',List.length_range]

theorem perfectArrivals_bytes (nowUsec : Nat → Nat → UInt64) (width height : UInt16) (i : Nat) (inside : i < 5) :
    bytesOfStep (perfectArrivals nowUsec width height) i =
      (framesPerStepForTarget (UInt64.ofNat (50000 * 2 ^ i)) width.toUInt32 height.toUInt32 500).toNat *
        (width.toNat * height.toNat * 3 / 2) := by
  have all : (rampFrames nowUsec width height).takeWhile (fun _ => true) = rampFrames nowUsec width height :=
    List.takeWhile_eq_self_iff.mpr fun _ _ => rfl
  unfold perfectArrivals speedtestRamp
  rw [all,rampFrames,List.filterMap_flatMap,bytesOfStep_flatMap]
  have each : ∀ step ∈ SpeedtestPlan.defaultRamp.stepsKbps.zipIdx,
      bytesOfStep ((stepFrames nowUsec width height SpeedtestPlan.defaultRamp.stepDuration step.1 step.2).filterMap
        Media.arrival) i = if step.2 = i then
          (framesPerStepForTarget step.1 width.toUInt32 height.toUInt32 500).toNat *
            (width.toNat * height.toNat * 3 / 2) else 0 := by
    intro step member
    have index : step.2 < 5 := List.snd_lt_of_mem_zipIdx member
    rw [stepFrames_arrivals nowUsec width height _ step.1 step.2 index,bytesOfStep_replicate _ _ _ _ (by omega)]
    rfl
  rw [List.map_congr_left each]
  interval_cases i <;> simp [SpeedtestPlan.defaultRamp,defaultRampKbps]

theorem ofStep_bytes (arrivals other : List SpeedtestArrival) (i : Nat) (same : (ofStep i arrivals).Perm (ofStep i other)) :
    bytesOfStep arrivals i = bytesOfStep other i :=
  (same.map _).sum_eq

/-- A frame that is larger than the step is sent once all the same. -/
theorem stepBytes_small (pixels scale : Nat) (area : pixels ≤ 65535 * 65535) (steps : scale ≤ 16) :
    max 1 (25000000 * scale / (pixels * 12)) * (pixels * 3 / 2) < 2 ^ 64 := by
  have fits := Nat.div_mul_le_self (25000000 * scale) (pixels * 12)
  rcases Nat.le_total 1 (25000000 * scale / (pixels * 12)) with one | none
  · rw [Nat.max_eq_right one]
    have less : 25000000 * scale / (pixels * 12) * (pixels * 3 / 2) ≤ 25000000 * scale / (pixels * 12) * (pixels * 12) :=
      Nat.mul_le_mul_left _ (by omega)
    omega
  · rw [Nat.max_eq_left none]
    omega

/-- On a link that loses nothing a step counts, unless a frame is a single pixel or whole frames leave
too much of the step's bits out. -/
theorem perfect_step_counts_iff (nowUsec : Nat → Nat → UInt64) (width height : UInt16) (wide : 1 ≤ width)
    (tall : 1 ≤ height) (i : Nat) (inside : i < 5) (arrivals : List SpeedtestArrival)
    (recorded : (ofStep i arrivals).Perm (ofStep i (perfectArrivals nowUsec width height))) :
    let pixels := width.toNat * height.toNat
    (∃ o, (observations SpeedtestPlan.defaultRamp arrivals)[i]? = some o ∧ (fitsThroughput o && rttOk 0.0 o) = true) ↔
      pixels ≠ 1 ∧ ∀ k, 1 ≤ k → k ≤ 5 → ¬FallsShort (2 ^ i) pixels k := by
  intro pixels
  have shown : 0 < pixels :=
    Nat.mul_pos (Nat.lt_of_lt_of_le Nat.one_pos (UInt16.le_iff_toNat_le.mp wide))
      (Nat.lt_of_lt_of_le Nat.one_pos (UInt16.le_iff_toNat_le.mp tall))
  have area : pixels ≤ 65535 * 65535 :=
    Nat.mul_le_mul (Nat.le_of_lt_succ width.toNat_lt) (Nat.le_of_lt_succ height.toNat_lt)
  have scale : 2 ^ i ≤ 2 ^ 4 := Nat.pow_le_pow_right (by decide) (by omega)
  have bytes : bytesOfStep arrivals i = max 1 (25000000 * 2 ^ i / (pixels * 12)) * (pixels * 3 / 2) := by
    rw [ofStep_bytes arrivals _ i recorded,perfectArrivals_bytes nowUsec width height i inside,
      framesPerStep_toNat width height shown i inside]
  have enough : 2656250 * 2 ^ i ≤ bytesOfStep arrivals i % 2 ^ 64 ↔
      pixels ≠ 1 ∧ ∀ k, 1 ≤ k → k ≤ 5 → ¬FallsShort (2 ^ i) pixels k := by
    rw [Nat.mod_eq_of_lt (by rw [bytes]; exact stepBytes_small pixels _ area scale),bytes]
    exact whole_frames_iff _ pixels (Nat.two_pow_pos i) shown
  have counted := (observed_sustained_iff arrivals i inside).trans enough
  constructor
  · intro ⟨o,isStep,sustained⟩
    have same := isStep.symm.trans (observed arrivals i inside)
    rw [Option.some.injEq] at same
    subst same
    exact counted.mp sustained
  · intro condition
    exact ⟨_,observed arrivals i inside,counted.mpr condition⟩

/-- 720p at 100 Mbit/s: four frames of the four and a half that the step has room for. -/
theorem perfect_step_counts_hd :
    let arrivals := perfectArrivals (fun _ _ => 0) 1280 720
    ∃ o, (observations SpeedtestPlan.defaultRamp arrivals)[1]? = some o ∧
      (fitsThroughput o && rttOk 0.0 o) = true := by
  intro arrivals
  apply (perfect_step_counts_iff (fun _ _ => 0) 1280 720 (by decide) (by decide) 1 (by decide) arrivals (.refl _)).mpr
  refine ⟨by decide,?_⟩
  intro k one five short
  have pixels : (1280 : UInt16).toNat * (720 : UInt16).toNat = 921600 := rfl
  rw [FallsShort,pixels] at short
  omega

/-- Two frames of 1024 by 768 are 75% of the first step, and a third has no room. -/
theorem xga_step_not_counted :
    let arrivals := perfectArrivals (fun _ _ => 0) 1024 768
    bytesOfStep arrivals 0 = 2 * 1179648 ∧
      ∃ o, (observations SpeedtestPlan.defaultRamp arrivals)[0]? = some o ∧ o.targetKbps = 50000 ∧
        o.measuredKbps = 37748 ∧ (fitsThroughput o && rttOk 0.0 o) = false := by
  intro arrivals
  have frames : (framesPerStepForTarget (UInt64.ofNat (50000 * 2 ^ 0)) (1024 : UInt16).toUInt32 (768 : UInt16).toUInt32 500).toNat = 2 := by
    decide
  have bytes : bytesOfStep arrivals 0 = 2 * 1179648 := by
    rw [perfectArrivals_bytes _ _ _ 0 (by decide),frames]
    rfl
  refine ⟨bytes,_,observed arrivals 0 (by decide),rfl,?_,?_⟩
  · rw [bytes]
    decide +kernel
  · rw [bytes]
    decide +kernel

end ClearCam.App
