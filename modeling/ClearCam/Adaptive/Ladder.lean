import ClearCam.Adaptive.Tables
import Mathlib.Tactic.Ring

/-! The step-down ladder from any mode to its end. The arithmetic of a step is checked here, where
`nextLower` lets it wrap; `none` is an overflow. -/
namespace ClearCam.Adaptive
open ClearCam.Protocol

def checkedMul (bits a b : Nat) : Option Nat := if a * b < 2 ^ bits then some (a * b) else none

def hevcTargetChecked (width height fps : Nat) : Option Nat :=
  if (width,height,fps) = (1280,720,30) then some 12000
  else if (width,height,fps) = (1280,720,60) then some 20000
  else if (width,height,fps) = (1920,1080,30) then some 30000
  else if (width,height,fps) = (1920,1080,60) then some 50000
  else if (width,height,fps) = (3840,2160,30) then some 90000
  else do
    let area ← checkedMul 64 width height
    let product ← checkedMul 64 area fps
    return product / 2560

def encodedTargetChecked (m : Mode) : Option UInt32 := do
  let hevc ← hevcTargetChecked m.width.toNat m.height.toNat m.fps.toNat
  let target ← match m.codec with
    | .hevc | .none => some hevc
    | .h264 => (checkedMul 64 hevc 8).map fun product => product / 5
  return if target < 2 ^ 32 then UInt32.ofNat target else 4294967295

def retargetChecked (m : Mode) : Option Mode := do
  if m.format = .encoded then return {m with bitrateKbps := ← encodedTargetChecked m} else return m

def nextLowerChecked (m : Mode) : Option (Option Mode) := do
  if 30 < m.fps then return some (← retargetChecked {m with fps := 30})
  else if m.format = .encoded ∧ 1000 < m.bitrateKbps then
    let product ← checkedMul 32 m.bitrateKbps.toNat 3
    return some {m with bitrateKbps := UInt32.ofNat (product / 4)}
  else if m.format = .raw then
    let next := {m with format := .encoded, codec := .hevc}
    return some {next with bitrateKbps := ← encodedTargetChecked next}
  else if (m.width,m.height) = (3840,2160) then
    return some (← retargetChecked {m with width := 1920, height := 1080})
  else if (m.width,m.height) = (1920,1080) then
    return some (← retargetChecked {m with width := 1280, height := 720})
  else return none

/-- The modes that iterating `next_lower` passes, `m` first. -/
def ladder : Nat → Mode → Option (List Mode)
  | 0,_ => none
  | fuel + 1,m => do
    match ← nextLowerChecked m with
    | none => return [m]
    | some next => return m :: (← ladder fuel next)

def Cuttable (m : Mode) : Prop := m.bitrateKbps.toNat ≤ (2 ^ 32 - 1) / 3

theorem hevcTargetChecked_eq (w h fps : Nat) (smallW : w < 2 ^ 16) (smallH : h < 2 ^ 16) (smallFps : fps < 2 ^ 16) :
    hevcTargetChecked w h fps = some (hevcTargetKbps w h fps) := by
  have area : w * h < 2 ^ 16 * 2 ^ 16 := Nat.mul_lt_mul'' smallW smallH
  have product : w * h * fps < 2 ^ 16 * 2 ^ 16 * 2 ^ 16 := Nat.mul_lt_mul'' area smallFps
  have fitsArea : checkedMul 64 w h = some (w * h) := if_pos (by omega)
  have fitsProduct : checkedMul 64 (w * h) fps = some (w * h * fps) := if_pos (by omega)
  unfold hevcTargetChecked hevcTargetKbps
  rw [fitsArea]
  change (if _ then _ else if _ then _ else if _ then _ else if _ then _ else if _ then _ else
    (checkedMul 64 (w * h) fps).bind _) = _
  rw [fitsProduct]
  split
  · rfl
  split
  · rfl
  split
  · rfl
  split
  · rfl
  split <;> rfl

theorem hevcTarget_le (w h fps : Nat) : hevcTargetKbps w h fps ≤ 90000 + w * h * fps / 2560 := by
  unfold hevcTargetKbps
  split
  · omega
  split
  · omega
  split
  · omega
  split
  · omega
  split <;> omega

theorem hevcTarget_size (m : Mode) (most : Nat) (fps : m.fps.toNat ≤ most) :
    hevcTargetKbps m.width.toNat m.height.toNat m.fps.toNat ≤ 90000 + 2 ^ 16 * 2 ^ 16 * most / 2560 := by
  have smallW := m.width.toNat_lt
  have smallH := m.height.toNat_lt
  have area : m.width.toNat * m.height.toNat < 2 ^ 16 * 2 ^ 16 := Nat.mul_lt_mul'' smallW smallH
  have product : m.width.toNat * m.height.toNat * m.fps.toNat ≤ 2 ^ 16 * 2 ^ 16 * most :=
    Nat.mul_le_mul (Nat.le_of_lt area) fps
  calc hevcTargetKbps m.width.toNat m.height.toNat m.fps.toNat ≤
        90000 + m.width.toNat * m.height.toNat * m.fps.toNat / 2560 := hevcTarget_le _ _ _
    _ ≤ 90000 + 2 ^ 16 * 2 ^ 16 * most / 2560 := Nat.add_le_add_left (Nat.div_le_div_right product) _

theorem encodedTargetChecked_eq (m : Mode) : encodedTargetChecked m = some (encodedTarget m) := by
  have small := hevcTarget_size m (2 ^ 16) (Nat.le_of_lt m.fps.toNat_lt)
  have hevc := hevcTargetChecked_eq m.width.toNat m.height.toNat m.fps.toNat m.width.toNat_lt m.height.toNat_lt
    m.fps.toNat_lt
  have h264 : checkedMul 64 (hevcTargetKbps m.width.toNat m.height.toNat m.fps.toNat) 8 =
      some (hevcTargetKbps m.width.toNat m.height.toNat m.fps.toNat * 8) := if_pos (by omega)
  unfold encodedTargetChecked encodedTarget
  rw [hevc]
  cases m.codec with
  | h264 =>
    change ((checkedMul 64 _ 8).map fun product => product / 5).bind _ = _
    rw [h264]
    rfl
  | _ => rfl

theorem encodedTarget_cuttable (m : Mode) (slow : m.fps ≤ 30) : (encodedTarget m).toNat ≤ (2 ^ 32 - 1) / 3 := by
  have slow : m.fps.toNat ≤ 30 := UInt16.le_iff_toNat_le.mp slow
  have small := hevcTarget_size m 30 slow
  have bound : ∀ target, target ≤ hevcTargetKbps m.width.toNat m.height.toNat m.fps.toNat * 8 / 5 →
      (if target < 2 ^ 32 then UInt32.ofNat target else 4294967295).toNat ≤ (2 ^ 32 - 1) / 3 := by
    intro target below
    have fits : target < 2 ^ 32 := by omega
    rw [if_pos fits,UInt32.toNat_ofNat_of_lt' fits]
    omega
  have hevc : hevcTargetKbps m.width.toNat m.height.toNat m.fps.toNat ≤
      hevcTargetKbps m.width.toNat m.height.toNat m.fps.toNat * 8 / 5 := by omega
  unfold encodedTarget
  cases m.codec with
  | h264 => exact bound _ (Nat.le_refl _)
  | _ => exact bound _ hevc

inductive Lowered (m : Mode) : Mode → Prop where
  | rate (fast : 30 < m.fps) (bitrate : UInt32)
      (encoded : m.format = .encoded → bitrate = encodedTarget {m with fps := 30})
      (raw : m.format = .raw → bitrate = m.bitrateKbps) :
      Lowered m {m with fps := 30, bitrateKbps := bitrate}
  | cut (slow : m.fps ≤ 30) (encoded : m.format = .encoded) (above : 1000 < m.bitrateKbps) :
      Lowered m {m with bitrateKbps := m.bitrateKbps * 3 / 4}
  | encode (slow : m.fps ≤ 30) (raw : m.format = .raw) :
      Lowered m {m with
        format := .encoded
        codec := .hevc
        bitrateKbps := encodedTarget {m with format := .encoded, codec := .hevc}}
  | shrink (slow : m.fps ≤ 30) (encoded : m.format = .encoded) (low : m.bitrateKbps ≤ 1000) (w h : UInt16)
      (size : (m.width,m.height) = (3840,2160) ∧ (w,h) = (1920,1080) ∨
        (m.width,m.height) = (1920,1080) ∧ (w,h) = (1280,720)) :
      Lowered m {m with width := w, height := h, bitrateKbps := encodedTarget {m with width := w, height := h}}

structure Lowest (m : Mode) : Prop where
  encoded : m.format = .encoded
  slow : m.fps ≤ 30
  low : m.bitrateKbps ≤ 1000
  notUhd : (m.width,m.height) ≠ (3840,2160)
  notFullHd : (m.width,m.height) ≠ (1920,1080)

theorem nextLower_cases (m : Mode) : (∃ next, nextLower m = some next ∧ Lowered m next) ∨
    nextLower m = none ∧ Lowest m := by
  have formats : m.format = .encoded ∨ m.format = .raw := by cases m.format <;> simp
  unfold nextLower
  by_cases fast : 30 < m.fps
  · rw [if_pos fast]
    rcases formats with encoded | raw
    · refine .inl ⟨_,congrArg some (if_pos encoded),?_⟩
      exact .rate fast _ (fun _ => rfl) fun raw => by rw [encoded] at raw; cases raw
    · have other : m.format ≠ .encoded := by rw [raw]; decide
      refine .inl ⟨_,congrArg some (if_neg other),?_⟩
      exact .rate fast m.bitrateKbps (fun encoded => absurd encoded other) fun _ => rfl
  · have slow := UInt16.not_lt.mp fast
    rw [if_neg fast]
    rcases formats with encoded | raw
    · by_cases above : 1000 < m.bitrateKbps
      · rw [if_pos ⟨encoded,above⟩]
        exact .inl ⟨_,rfl,.cut slow encoded above⟩
      · have low := UInt32.not_lt.mp above
        have notRaw : m.format ≠ .raw := by rw [encoded]; decide
        rw [if_neg (fun both => above both.2),if_neg notRaw]
        by_cases uhd : (m.width,m.height) = (3840,2160)
        · rw [if_pos uhd]
          refine .inl ⟨_,congrArg some (if_pos encoded),?_⟩
          exact .shrink slow encoded low 1920 1080 (.inl ⟨uhd,rfl⟩)
        · rw [if_neg uhd]
          by_cases fullHd : (m.width,m.height) = (1920,1080)
          · rw [if_pos fullHd]
            refine .inl ⟨_,congrArg some (if_pos encoded),?_⟩
            exact .shrink slow encoded low 1280 720 (.inr ⟨fullHd,rfl⟩)
          · rw [if_neg fullHd]
            exact .inr ⟨rfl,encoded,slow,low,uhd,fullHd⟩
    · have other : ¬(m.format = .encoded ∧ 1000 < m.bitrateKbps) := by
        intro both
        rw [raw] at both
        cases both.1
      rw [if_neg other,if_pos raw]
      exact .inl ⟨_,rfl,.encode slow raw⟩

theorem retargetChecked_eq (m : Mode) : retargetChecked m =
    some (if m.format = .encoded then {m with bitrateKbps := encodedTarget m} else m) := by
  unfold retargetChecked
  rw [encodedTargetChecked_eq]
  split <;> rfl

theorem nextLowerChecked_eq (m : Mode) (cuttable : Cuttable m) : nextLowerChecked m = some (nextLower m) := by
  have fits : m.bitrateKbps.toNat * 3 < 2 ^ 32 := by
    unfold Cuttable at cuttable
    omega
  have product : checkedMul 32 m.bitrateKbps.toNat 3 = some (m.bitrateKbps.toNat * 3) := if_pos fits
  have cut : UInt32.ofNat (m.bitrateKbps.toNat * 3 / 4) = m.bitrateKbps * 3 / 4 := by
    rw [← cut_toNat_of_small m.bitrateKbps fits,UInt32.ofNat_toNat]
  unfold nextLowerChecked nextLower
  simp only [retargetChecked_eq,encodedTargetChecked_eq,product]
  by_cases fast : 30 < m.fps
  · rw [if_pos fast,if_pos fast]
    rfl
  · rw [if_neg fast,if_neg fast]
    by_cases above : m.format = .encoded ∧ 1000 < m.bitrateKbps
    · rw [if_pos above,if_pos above,← cut]
      rfl
    · rw [if_neg above,if_neg above]
      by_cases raw : m.format = .raw
      · rw [if_pos raw,if_pos raw]
        rfl
      · rw [if_neg raw,if_neg raw]
        by_cases uhd : (m.width,m.height) = (3840,2160)
        · rw [if_pos uhd,if_pos uhd]
          rfl
        · rw [if_neg uhd,if_neg uhd]
          by_cases fullHd : (m.width,m.height) = (1920,1080)
          · rw [if_pos fullHd,if_pos fullHd]
            rfl
          · rw [if_neg fullHd,if_neg fullHd]
            rfl

theorem Lowered.cuttable {m next : Mode} (lowered : Lowered m next) (cuttable : Cuttable m) : Cuttable next := by
  cases lowered with
  | rate fast bitrate encoded raw =>
    have formats : m.format = .encoded ∨ m.format = .raw := by cases m.format <;> simp
    unfold Cuttable
    rcases formats with isEncoded | isRaw
    · rw [encoded isEncoded]
      exact encodedTarget_cuttable {m with fps := 30} (UInt16.le_refl 30)
    · rw [raw isRaw]
      exact cuttable
  | cut slow encoded above =>
    unfold Cuttable at cuttable ⊢
    rw [cut_toNat_of_small m.bitrateKbps (by omega)]
    omega
  | encode slow raw => exact encodedTarget_cuttable {m with format := .encoded, codec := .hevc} slow
  | shrink slow encoded low w h size => exact encodedTarget_cuttable {m with width := w, height := h} slow

/-- How many steps other than cuts the ladder has left. -/
def landings (m : Mode) : Nat :=
  (if (m.width,m.height) = (3840,2160) then 2 else if (m.width,m.height) = (1920,1080) then 1 else 0) +
    (if m.format = .raw then 1 else 0) + if 30 < m.fps then 1 else 0

/-- A cut keeps the landings and lowers the bitrate; every other step uses a landing up. -/
def height (m : Mode) : Nat := landings m * 2 ^ 32 + m.bitrateKbps.toNat

theorem height_lt (m next : Mode) (fewer : landings next < landings m) : height next < height m := by
  have bitrate := next.bitrateKbps.toNat_lt
  unfold height
  omega

theorem Lowered.height_lt {m next : Mode} (lowered : Lowered m next) (cuttable : Cuttable m) :
    height next < height m := by
  cases lowered with
  | rate fast bitrate encoded raw =>
    apply Adaptive.height_lt
    have slower : ¬(30 : UInt16) < 30 := by decide
    simp only [landings,if_pos fast,if_neg slower]
    omega
  | cut slow encoded above =>
    have above : 1000 < m.bitrateKbps.toNat := UInt32.lt_iff_toNat_lt.mp above
    have product : m.bitrateKbps.toNat * 3 < 2 ^ 32 := by
      unfold Cuttable at cuttable
      omega
    change landings m * 2 ^ 32 + (m.bitrateKbps * 3 / 4).toNat < landings m * 2 ^ 32 + m.bitrateKbps.toNat
    rw [cut_toNat_of_small m.bitrateKbps product]
    omega
  | encode slow raw =>
    apply Adaptive.height_lt
    have other : ¬FormatKind.encoded = FormatKind.raw := by decide
    simp only [landings,if_pos raw,if_neg other]
    omega
  | shrink slow encoded low w h size =>
    apply Adaptive.height_lt
    rcases size with ⟨before,after⟩ | ⟨before,after⟩
    · simp only [landings,before,after]
      simp
    · simp only [landings,before,after]
      simp

/-- Nothing that must not rise does, and what is encoded stays so. -/
structure NoHigher (m next : Mode) : Prop where
  width : next.width ≤ m.width
  height : next.height ≤ m.height
  fps : next.fps ≤ m.fps
  encoded : m.format = .encoded → next.format = .encoded

theorem NoHigher.trans {a b c : Mode} (first : NoHigher a b) (second : NoHigher b c) : NoHigher a c :=
  ⟨UInt16.le_trans second.width first.width,UInt16.le_trans second.height first.height,
    UInt16.le_trans second.fps first.fps,fun encoded => second.encoded (first.encoded encoded)⟩

theorem Lowered.noHigher {m next : Mode} (lowered : Lowered m next) : NoHigher m next := by
  have w := UInt16.le_refl m.width
  have h := UInt16.le_refl m.height
  have f := UInt16.le_refl m.fps
  cases lowered with
  | rate fast bitrate encoded raw => exact ⟨w,h,UInt16.le_of_lt fast,id⟩
  | cut slow encoded above => exact ⟨w,h,f,id⟩
  | encode slow raw => exact ⟨w,h,f,fun _ => rfl⟩
  | shrink slow encoded low w' h' size =>
    refine ⟨?_,?_,f,id⟩
    all_goals
      simp only [Prod.mk.injEq] at size
      rcases size with ⟨before,after⟩ | ⟨before,after⟩
      · simp only [before,after]
        decide
      · simp only [before,after]
        decide

/-- From any mode whose bitrate can be cut the ladder is walked without overflow to its bottom, and nothing
rises on the way. -/
theorem ladder_ends (m : Mode) (cuttable : Cuttable m) : ∃ passed final,
    ladder (height m + 1) m = some (passed ++ [final]) ∧ Lowest final ∧ (passed ++ [final]).Pairwise NoHigher := by
  suffices walked : ∀ fuel m, height m < fuel → Cuttable m → ∃ passed final,
      ladder fuel m = some (passed ++ [final]) ∧ Lowest final ∧ (passed ++ [final]).Pairwise NoHigher ∧
        ∀ later ∈ passed ++ [final], later = m ∨ NoHigher m later by
    obtain ⟨passed,final,reached,lowest,falling,_⟩ := walked (height m + 1) m (Nat.lt_succ_self _) cuttable
    exact ⟨passed,final,reached,lowest,falling⟩
  intro fuel
  induction fuel with
  | zero => intro m enough; exact absurd enough (Nat.not_lt_zero _)
  | succ fuel ih =>
    intro m enough cuttable
    have step := nextLowerChecked_eq m cuttable
    rcases nextLower_cases m with ⟨next,lower,lowered⟩ | ⟨lower,lowest⟩
    · have fuelLeft : height next < fuel := by
        have fell := lowered.height_lt cuttable
        omega
      obtain ⟨passed,final,reached,lowest,falling,below⟩ := ih next fuelLeft (lowered.cuttable cuttable)
      have under : ∀ later ∈ passed ++ [final], NoHigher m later := by
        intro later inside
        rcases below later inside with same | lower
        · rw [same]
          exact lowered.noHigher
        · exact lowered.noHigher.trans lower
      refine ⟨m :: passed,final,?_,lowest,List.pairwise_cons.mpr ⟨under,falling⟩,?_⟩
      · rw [ladder,step,lower]
        change (ladder fuel next).bind _ = _
        rw [reached]
        rfl
      · intro later inside
        rcases List.mem_cons.mp inside with same | inside
        · exact .inl same
        · exact .inr (under later inside)
    · refine ⟨[],m,?_,lowest,List.pairwise_singleton _ _,?_⟩
      · rw [ladder,step,lower]
        rfl
      · intro later inside
        exact .inl (List.mem_singleton.mp inside)

theorem ladder_ends_raw_uhd : Cuttable ⟨.raw,.none,3840,2160,60,0,.nv12,true⟩ ∧ ∃ passed final,
    ladder (height ⟨.raw,.none,3840,2160,60,0,.nv12,true⟩ + 1) ⟨.raw,.none,3840,2160,60,0,.nv12,true⟩ =
      some (passed ++ [final]) ∧ Lowest final ∧ (passed ++ [final]).Pairwise NoHigher := by
  have cuttable : Cuttable ⟨.raw,.none,3840,2160,60,0,.nv12,true⟩ := Nat.zero_le _
  exact ⟨cuttable,ladder_ends _ cuttable⟩

end ClearCam.Adaptive
