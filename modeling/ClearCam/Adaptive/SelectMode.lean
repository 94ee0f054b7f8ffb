import ClearCam.Adaptive.Tables
import Mathlib.Data.List.MinMax
import Mathlib.Data.Prod.Lex

/-! Mode selection from a measurement. The candidates are collected entry by entry and ranked
by area, frame rate and format; what the ranking is meant to find is stated apart from the loop. -/
namespace ClearCam.Adaptive
open ClearCam.Protocol

structure Measurement where
  goodputMbps : Float
  rttMs : Float
  jitterMs : Float
  lossPct : Float

inductive TransportClass where
  | wiFi | usb2 | usb3
  deriving DecidableEq

def TransportClass.rawCeilingKbps : TransportClass → Nat
  | .wiFi => 0
  | .usb2 => 480000
  | .usb3 => 5000000

structure UserLimits where
  maxWidth : Option UInt16
  maxHeight : Option UInt16
  maxFps : Option UInt16
  preferRaw : Bool
  deriving DecidableEq

structure AvailableMode where
  width : UInt16
  height : UInt16
  fps : UInt16
  caps : List Capability
  deriving DecidableEq

def AvailableMode.supports (m : AvailableMode) (cap : Capability) : Bool := m.caps.any (· = cap)

def headroom : Float := 0.70

inductive FormatPref where
  | raw | encoded
  deriving DecidableEq

def FormatPref.weight : FormatPref → Nat
  | .raw => 1
  | .encoded => 0

structure Candidate where
  mode : Mode
  resArea : Nat
  fps : UInt16
  pref : FormatPref
  deriving DecidableEq

def exceeds (value : UInt16) : Option UInt16 → Bool
  | some limit => value > limit
  | none => false

/-- The entry is passed over by one of the three `continue`s. -/
def UserLimits.skips (limits : UserLimits) (m : AvailableMode) : Bool :=
  exceeds m.width limits.maxWidth || exceeds m.height limits.maxHeight || exceeds m.fps limits.maxFps

def rawCandidate (usableKbps : UInt64) (transport : TransportClass) (m : AvailableMode) : List Candidate :=
  if m.supports .rawNv12 then
    let rawKbps := rawBitrateKbps m.width.toNat m.height.toNat m.fps.toNat
    if rawKbps ≤ usableKbps.toNat ∧ rawKbps ≤ transport.rawCeilingKbps then
      [⟨⟨.raw,.none,m.width,m.height,m.fps,0,.nv12,true⟩,m.width.toNat * m.height.toNat,m.fps,.raw⟩]
    else []
  else []

def encodedCodec (m : AvailableMode) : Option CodecName :=
  if m.supports .hevc then some .hevc
  else if m.supports .h264 then some .h264
  else none

/-- `u32::try_from(target).unwrap_or(u32::MAX)`. -/
def saturatedKbps (target : Nat) : UInt32 := if target < 2^32 then UInt32.ofNat target else 4294967295

def encodedCandidate (usableKbps : UInt64) (m : AvailableMode) : List Candidate :=
  match encodedCodec m with
  | some codec =>
    let target := hevcTargetKbps m.width.toNat m.height.toNat m.fps.toNat
    let target := match codec with
      | .hevc => target
      | .h264 => target * 8 / 5
      | .none => target
    if target ≤ usableKbps.toNat then
      [⟨⟨.encoded,codec,m.width,m.height,m.fps,saturatedKbps target,.nv12,true⟩,
        m.width.toNat * m.height.toNat,m.fps,.encoded⟩]
    else []
  | none => []

def candidates (usableKbps : UInt64) (caps : List AvailableMode) (transport : TransportClass)
    (limits : UserLimits) : List Candidate :=
  caps.flatMap fun m =>
    if limits.skips m then [] else rawCandidate usableKbps transport m ++ encodedCandidate usableKbps m

def Candidate.key (c : Candidate) : ℕ ×ₗ ℕ ×ₗ ℕ := toLex (c.resArea,toLex (c.fps.toNat,c.pref.weight))

def safeFallback : Mode := ⟨.encoded,.h264,1280,720,30,12000 * 8 / 5,.nv12,true⟩

/-- The candidate whose mode is selected: `max_by_key` gives the last of the greatest, `argmax` the first. -/
def chosen (usableKbps : UInt64) (caps : List AvailableMode) (transport : TransportClass)
    (limits : UserLimits) : Option Candidate :=
  let found := candidates usableKbps caps transport limits
  let found := if limits.preferRaw && found.any (·.pref = .raw) then found.filter (·.pref = .raw) else found
  found.reverse.argmax Candidate.key

def selectUsable (usableKbps : UInt64) (caps : List AvailableMode) (transport : TransportClass)
    (limits : UserLimits) : Mode :=
  (chosen usableKbps caps transport limits).elim safeFallback Candidate.mode

/-- A cast from `f64` truncates and saturates, as `toUInt64` does. -/
def usableKbps (measurement : Measurement) : UInt64 := (measurement.goodputMbps * 1000.0 * headroom).toUInt64

def selectMode (measurement : Measurement) (caps : List AvailableMode) (transport : TransportClass)
    (limits : UserLimits) : Mode :=
  selectUsable (usableKbps measurement) caps transport limits

inductive Choice where
  | raw (entry : AvailableMode)
  | encoded (entry : AvailableMode) (codec : CodecName)

namespace Choice

def entry : Choice → AvailableMode
  | .raw entry | .encoded entry _ => entry

def isRaw : Choice → Prop
  | .raw _ => True
  | .encoded _ _ => False

/-- The bandwidth that the choice asks for: 8/5 of the HEVC target under H.264. -/
def targetKbps : Choice → Nat
  | .raw m => rawBitrateKbps m.width.toNat m.height.toNat m.fps.toNat
  | .encoded m .h264 => h264TargetKbps m.width.toNat m.height.toNat m.fps.toNat
  | .encoded m _ => hevcTargetKbps m.width.toNat m.height.toNat m.fps.toNat

def mode : Choice → Mode
  | .raw m => ⟨.raw,.none,m.width,m.height,m.fps,0,.nv12,true⟩
  | .encoded m codec =>
    ⟨.encoded,codec,m.width,m.height,m.fps,saturatedKbps (Choice.encoded m codec).targetKbps,.nv12,true⟩

/-- Area, then frame rate, then raw over encoded. -/
def rank (choice : Choice) : ℕ ×ₗ ℕ ×ₗ ℕ :=
  let m := choice.entry
  toLex (m.width.toNat * m.height.toNat,toLex (m.fps.toNat,match choice with
    | .raw _ => 1
    | .encoded _ _ => 0))

end Choice

structure UserLimits.Admits (limits : UserLimits) (width height fps : UInt16) : Prop where
  width : ∀ most, limits.maxWidth = some most → width ≤ most
  height : ∀ most, limits.maxHeight = some most → height ≤ most
  fps : ∀ most, limits.maxFps = some most → fps ≤ most

/-- The entry supports the choice, and H.264 is chosen only where HEVC is not supported. -/
def Choice.Supported : Choice → Prop
  | .raw m => .rawNv12 ∈ m.caps
  | .encoded m codec => codec = .hevc ∧ .hevc ∈ m.caps ∨ codec = .h264 ∧ .hevc ∉ m.caps ∧ .h264 ∈ m.caps

structure Choice.Feasible (usableKbps : UInt64) (caps : List AvailableMode) (transport : TransportClass)
    (limits : UserLimits) (choice : Choice) : Prop where
  listed : choice.entry ∈ caps
  admitted : limits.Admits choice.entry.width choice.entry.height choice.entry.fps
  supported : choice.Supported
  usable : choice.targetKbps ≤ usableKbps.toNat
  ceiling : choice.isRaw → choice.targetKbps ≤ transport.rawCeilingKbps

def Choice.candidate (choice : Choice) : Candidate :=
  ⟨choice.mode,choice.entry.width.toNat * choice.entry.height.toNat,choice.entry.fps,match choice with
    | .raw _ => .raw
    | .encoded _ _ => .encoded⟩

theorem candidate_key (choice : Choice) : choice.candidate.key = choice.rank := by
  cases choice with
  | raw m => rfl
  | encoded m codec => rfl

theorem candidate_raw (choice : Choice) : choice.candidate.pref = .raw ↔ choice.isRaw := by
  cases choice with
  | raw m => exact iff_of_true rfl trivial
  | encoded m codec => exact iff_of_false nofun id

theorem supports_iff (m : AvailableMode) (cap : Capability) : m.supports cap = true ↔ cap ∈ m.caps := by
  simp [AvailableMode.supports]

theorem exceeds_iff (value : UInt16) (limit : Option UInt16) :
    exceeds value limit = false ↔ ∀ most, limit = some most → value ≤ most := by
  cases limit with
  | none => simp [exceeds]
  | some most => simp [exceeds]

theorem skips_iff (limits : UserLimits) (m : AvailableMode) :
    limits.skips m = false ↔ limits.Admits m.width m.height m.fps := by
  simp only [UserLimits.skips,Bool.or_eq_false_iff,exceeds_iff]
  constructor
  · intro ⟨⟨width,height⟩,fps⟩
    exact ⟨width,height,fps⟩
  · intro admits
    exact ⟨⟨admits.width,admits.height⟩,admits.fps⟩

theorem encodedCodec_iff (m : AvailableMode) (codec : CodecName) :
    encodedCodec m = some codec ↔ (Choice.encoded m codec).Supported := by
  unfold encodedCodec Choice.Supported
  by_cases hevc : .hevc ∈ m.caps
  · rw [if_pos ((supports_iff m .hevc).mpr hevc)]
    simp [hevc,eq_comm]
  · rw [if_neg (fun supported => hevc ((supports_iff m .hevc).mp supported))]
    by_cases h264 : .h264 ∈ m.caps
    · rw [if_pos ((supports_iff m .h264).mpr h264)]
      simp [hevc,h264,eq_comm]
    · rw [if_neg (fun supported => h264 ((supports_iff m .h264).mp supported))]
      simp [hevc,h264]

theorem mem_rawCandidate (usable : UInt64) (transport : TransportClass) (m : AvailableMode) (c : Candidate) :
    c ∈ rawCandidate usable transport m ↔ c = (Choice.raw m).candidate ∧ (Choice.raw m).Supported ∧
      (Choice.raw m).targetKbps ≤ usable.toNat ∧ (Choice.raw m).targetKbps ≤ transport.rawCeilingKbps := by
  have supports : m.supports .rawNv12 = true ↔ (Choice.raw m).Supported := supports_iff m .rawNv12
  unfold rawCandidate
  split
  · next supported =>
    have supported := supports.mp supported
    dsimp only
    split
    · next fits =>
      rw [List.mem_singleton]
      exact ⟨fun same => ⟨same,supported,fits⟩,fun both => both.1⟩
    · next misfits => exact iff_of_false List.not_mem_nil (fun all => misfits all.2.2)
  · next unsupported => exact iff_of_false List.not_mem_nil (fun all => unsupported (supports.mpr all.2.1))

theorem encodedCandidate_eq (usable : UInt64) (m : AvailableMode) (codec : CodecName)
    (chosen : encodedCodec m = some codec) : encodedCandidate usable m =
      if (Choice.encoded m codec).targetKbps ≤ usable.toNat then [(Choice.encoded m codec).candidate] else [] := by
  simp only [encodedCandidate,chosen]
  cases codec <;> rfl

theorem mem_encodedCandidate (usable : UInt64) (m : AvailableMode) (c : Candidate) :
    c ∈ encodedCandidate usable m ↔ ∃ codec, c = (Choice.encoded m codec).candidate ∧
      (Choice.encoded m codec).Supported ∧ (Choice.encoded m codec).targetKbps ≤ usable.toNat := by
  constructor
  · intro member
    cases chosen : encodedCodec m with
    | none =>
      simp only [encodedCandidate,chosen] at member
      cases member
    | some codec =>
      rw [encodedCandidate_eq usable m codec chosen] at member
      split at member
      · next fits => exact ⟨codec,List.mem_singleton.mp member,(encodedCodec_iff m codec).mp chosen,fits⟩
      · cases member
  · intro ⟨codec,same,supported,fits⟩
    rw [encodedCandidate_eq usable m codec ((encodedCodec_iff m codec).mpr supported),if_pos fits]
    exact List.mem_singleton.mpr same

/-- The loop collects just the feasible choices. -/
theorem mem_candidates (usable : UInt64) (caps : List AvailableMode) (transport : TransportClass)
    (limits : UserLimits) (c : Candidate) :
    c ∈ candidates usable caps transport limits ↔
      ∃ choice : Choice, choice.Feasible usable caps transport limits ∧ c = choice.candidate := by
  unfold candidates
  rw [List.mem_flatMap]
  constructor
  · intro ⟨m,listed,member⟩
    split at member
    · cases member
    · next kept =>
      have admitted := (skips_iff limits m).mp (Bool.eq_false_iff.mpr kept)
      rcases List.mem_append.mp member with raw | encoded
      · obtain ⟨same,supported,fits,ceiling⟩ := (mem_rawCandidate usable transport m c).mp raw
        exact ⟨.raw m,⟨listed,admitted,supported,fits,fun _ => ceiling⟩,same⟩
      · obtain ⟨codec,same,supported,fits⟩ := (mem_encodedCandidate usable m c).mp encoded
        exact ⟨.encoded m codec,⟨listed,admitted,supported,fits,nofun⟩,same⟩
  · intro ⟨choice,feasible,same⟩
    refine ⟨choice.entry,feasible.listed,?_⟩
    rw [if_neg (by rw [(skips_iff limits choice.entry).mpr feasible.admitted]; exact Bool.false_ne_true),
      List.mem_append]
    cases choice with
    | raw m =>
      exact .inl ((mem_rawCandidate usable transport m c).mpr
        ⟨same,feasible.supported,feasible.usable,feasible.ceiling trivial⟩)
    | encoded m codec =>
      exact .inr ((mem_encodedCandidate usable m c).mpr ⟨codec,same,feasible.supported,feasible.usable⟩)

/-- The choices among which the best is sought: the raw ones alone if these are preferred and there is
a feasible one. -/
def Choice.Considered (usableKbps : UInt64) (caps : List AvailableMode) (transport : TransportClass)
    (limits : UserLimits) (choice : Choice) : Prop :=
  choice.Feasible usableKbps caps transport limits ∧
    (limits.preferRaw = true → (∃ other : Choice, other.Feasible usableKbps caps transport limits ∧ other.isRaw) →
      choice.isRaw)

/-- What the ranking is run on is what is to be considered. -/
theorem mem_considered (usable : UInt64) (caps : List AvailableMode) (transport : TransportClass)
    (limits : UserLimits) (c : Candidate) :
    (c ∈ if limits.preferRaw && (candidates usable caps transport limits).any (·.pref = .raw) then
        (candidates usable caps transport limits).filter (·.pref = .raw) else candidates usable caps transport limits) ↔
      ∃ choice : Choice, choice.Considered usable caps transport limits ∧ c = choice.candidate := by
  have someRaw : (candidates usable caps transport limits).any (·.pref = .raw) = true ↔
      ∃ other : Choice, other.Feasible usable caps transport limits ∧ other.isRaw := by
    rw [List.any_eq_true]
    constructor
    · intro ⟨found,member,raw⟩
      obtain ⟨other,feasible,rfl⟩ := (mem_candidates usable caps transport limits found).mp member
      exact ⟨other,feasible,(candidate_raw other).mp (of_decide_eq_true raw)⟩
    · intro ⟨other,feasible,raw⟩
      exact ⟨other.candidate,(mem_candidates usable caps transport limits _).mpr ⟨other,feasible,rfl⟩,
        decide_eq_true ((candidate_raw other).mpr raw)⟩
  split
  · next preferred =>
    obtain ⟨prefers,some⟩ := Bool.and_eq_true_iff.mp preferred
    have exists_raw := someRaw.mp some
    rw [List.mem_filter,mem_candidates]
    constructor
    · intro ⟨⟨choice,feasible,same⟩,raw⟩
      rw [same] at raw
      exact ⟨choice,⟨feasible,fun _ _ => (candidate_raw choice).mp (of_decide_eq_true raw)⟩,same⟩
    · intro ⟨choice,⟨feasible,raw⟩,same⟩
      rw [same]
      exact ⟨⟨choice,feasible,rfl⟩,decide_eq_true ((candidate_raw choice).mpr (raw prefers exists_raw))⟩
  · next indifferent =>
    rw [mem_candidates]
    constructor
    · intro ⟨choice,feasible,same⟩
      refine ⟨choice,⟨feasible,?_⟩,same⟩
      intro prefers raw
      exact absurd (Bool.and_eq_true_iff.mpr ⟨prefers,someRaw.mpr raw⟩) indifferent
    · intro ⟨choice,considered,same⟩
      exact ⟨choice,considered.1,same⟩

/-- Where nothing is feasible nothing is considered, and conversely. -/
theorem considered_of_feasible (usable : UInt64) (caps : List AvailableMode) (transport : TransportClass)
    (limits : UserLimits) (feasible : ∃ choice : Choice, choice.Feasible usable caps transport limits) :
    ∃ choice : Choice, choice.Considered usable caps transport limits := by
  by_cases raw : ∃ other : Choice, other.Feasible usable caps transport limits ∧ other.isRaw
  · obtain ⟨other,feasible,isRaw⟩ := raw
    exact ⟨other,feasible,fun _ _ => isRaw⟩
  · obtain ⟨choice,feasible⟩ := feasible
    exact ⟨choice,feasible,fun _ some => absurd some raw⟩

/-- The last of the greatest by a key, if there is any. -/
theorem argmax_reverse (l : List Candidate) (some : l ≠ []) :
    ∃ best ∈ l, l.reverse.argmax Candidate.key = .some best ∧ ∀ other ∈ l, other.key ≤ best.key := by
  cases found : l.reverse.argmax Candidate.key with
  | none => exact absurd (List.reverse_eq_nil_iff.mp (List.argmax_eq_none.mp found)) some
  | some best =>
    refine ⟨best,List.mem_reverse.mp (List.argmax_mem found),rfl,?_⟩
    intro other member
    exact List.le_of_mem_argmax (List.mem_reverse.mpr member) found

/-- The result is read off the greatest of what is to be considered. -/
theorem selectUsable_eq (usable : UInt64) (caps : List AvailableMode) (transport : TransportClass)
    (limits : UserLimits) : ∃ found : List Candidate,
      (∀ c, c ∈ found ↔ ∃ choice : Choice, choice.Considered usable caps transport limits ∧ c = choice.candidate) ∧
        selectUsable usable caps transport limits =
          (found.reverse.argmax Candidate.key).elim safeFallback Candidate.mode :=
  ⟨_,mem_considered usable caps transport limits,rfl⟩

theorem selectUsable_best (usable : UInt64) (caps : List AvailableMode) (transport : TransportClass)
    (limits : UserLimits) (feasible : ∃ choice : Choice, choice.Feasible usable caps transport limits) :
    ∃ best : Choice, best.Considered usable caps transport limits ∧
      selectUsable usable caps transport limits = best.mode ∧
      ∀ other : Choice, other.Considered usable caps transport limits → other.rank ≤ best.rank := by
  obtain ⟨found,considered,result⟩ := selectUsable_eq usable caps transport limits
  obtain ⟨choice,first⟩ := considered_of_feasible usable caps transport limits feasible
  have some : found ≠ [] := List.ne_nil_of_mem ((considered _).mpr ⟨choice,first,rfl⟩)
  obtain ⟨c,member,chosen,greatest⟩ := argmax_reverse found some
  obtain ⟨best,among,rfl⟩ := (considered c).mp member
  refine ⟨best,among,?_,?_⟩
  · rw [result,chosen]
    rfl
  · intro other also
    have below := greatest _ ((considered _).mpr ⟨other,also,rfl⟩)
    rw [candidate_key,candidate_key] at below
    exact below

theorem selectUsable_fallback (usable : UInt64) (caps : List AvailableMode) (transport : TransportClass)
    (limits : UserLimits) (infeasible : ¬∃ choice : Choice, choice.Feasible usable caps transport limits) :
    selectUsable usable caps transport limits = safeFallback := by
  obtain ⟨found,considered,result⟩ := selectUsable_eq usable caps transport limits
  have none : found = [] := by
    rw [List.eq_nil_iff_forall_not_mem]
    intro c member
    obtain ⟨choice,among,_⟩ := (considered c).mp member
    exact infeasible ⟨choice,among.1⟩
  rw [result,none]
  rfl

/-- The selected mode is that of a greatest choice to be considered, or the fallback if no choice is
feasible. -/
theorem select_mode_argmax (usable : UInt64) (caps : List AvailableMode) (transport : TransportClass)
    (limits : UserLimits) :
    ((∃ choice : Choice, choice.Feasible usable caps transport limits) →
      ∃ best : Choice, best.Considered usable caps transport limits ∧
        selectUsable usable caps transport limits = best.mode ∧
        ∀ other : Choice, other.Considered usable caps transport limits → other.rank ≤ best.rank) ∧
    ((¬∃ choice : Choice, choice.Feasible usable caps transport limits) →
      selectUsable usable caps transport limits = safeFallback) :=
  ⟨selectUsable_best usable caps transport limits,selectUsable_fallback usable caps transport limits⟩

theorem choice_admitted (usable : UInt64) (caps : List AvailableMode) (transport : TransportClass)
    (limits : UserLimits) (choice : Choice) (feasible : choice.Feasible usable caps transport limits) :
    limits.Admits choice.mode.width choice.mode.height choice.mode.fps := by
  cases choice with
  | raw m => exact feasible.admitted
  | encoded m codec => exact feasible.admitted

/-- The limits are kept just where some choice is feasible, or the fallback happens to keep them. -/
theorem user_limits_kept_iff (measurement : Measurement) (caps : List AvailableMode) (transport : TransportClass)
    (limits : UserLimits) :
    (limits.Admits (selectMode measurement caps transport limits).width
      (selectMode measurement caps transport limits).height (selectMode measurement caps transport limits).fps) ↔
    (∃ choice : Choice, choice.Feasible (usableKbps measurement) caps transport limits) ∨
      limits.Admits 1280 720 30 := by
  unfold selectMode
  by_cases feasible : ∃ choice : Choice, choice.Feasible (usableKbps measurement) caps transport limits
  · obtain ⟨best,considered,same,_⟩ := selectUsable_best _ caps transport limits feasible
    rw [same]
    exact iff_of_true (choice_admitted _ caps transport limits best considered.1) (.inl feasible)
  · rw [selectUsable_fallback _ caps transport limits feasible]
    exact ⟨.inr,fun kept => kept.resolve_left feasible⟩

def vgaListing : List AvailableMode := [⟨640,480,30,[.h264]⟩]

def vgaLimits : UserLimits := ⟨some 640,some 480,some 30,false⟩

/-- The one entry within the limits needs 5760 kbps; the fallback has 720 lines. -/
theorem fallback_above_limits :
    selectMode ⟨0.5,5.0,1.0,0.0⟩ vgaListing .wiFi vgaLimits = safeFallback ∧
    ¬vgaLimits.Admits (selectMode ⟨0.5,5.0,1.0,0.0⟩ vgaListing .wiFi vgaLimits).width
      (selectMode ⟨0.5,5.0,1.0,0.0⟩ vgaListing .wiFi vgaLimits).height
      (selectMode ⟨0.5,5.0,1.0,0.0⟩ vgaListing .wiFi vgaLimits).fps := by
  have fallback : selectMode ⟨0.5,5.0,1.0,0.0⟩ vgaListing .wiFi vgaLimits = safeFallback := by decide +kernel
  refine ⟨fallback,?_⟩
  rw [fallback]
  intro admits
  exact absurd (admits.height 480 rfl) (by decide)

end ClearCam.Adaptive
