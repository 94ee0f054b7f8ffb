import ClearCam.Adaptive.Ranking
import Mathlib.Tactic.Ring

/-! Mode selection where every entry supports both codecs and raw, and no limits are set. The entries
whose HEVC target is usable decide the size; the transport class only decides whether it goes raw. -/
namespace ClearCam.Adaptive
open ClearCam.Protocol

def UserLimits.none : UserLimits := ⟨Option.none,Option.none,Option.none,false⟩

def everyFormat : List Capability := [.hevc,.h264,.rawNv12]

def EveryFormat (caps : List AvailableMode) : Prop := ∀ m ∈ caps, m.caps = everyFormat

def hevcKbps (m : AvailableMode) : Nat := hevcTargetKbps m.width.toNat m.height.toNat m.fps.toNat

def rawKbps (m : AvailableMode) : Nat := rawBitrateKbps m.width.toNat m.height.toNat m.fps.toNat

def entrySize (m : AvailableMode) : ℕ ×ₗ ℕ := toLex (m.width.toNat * m.height.toNat,m.fps.toNat)

def modeSize (m : Mode) : ℕ ×ₗ ℕ := toLex (m.width.toNat * m.height.toNat,m.fps.toNat)

def Fits (usable : UInt64) (m : AvailableMode) : Prop := hevcKbps m ≤ usable.toNat

instance (usable : UInt64) (m : AvailableMode) : Decidable (Fits usable m) :=
  inferInstanceAs (Decidable (hevcKbps m ≤ usable.toNat))

theorem hevc_le_raw (w h fps : Nat) : hevcTargetKbps w h fps ≤ rawBitrateKbps w h fps := by
  have general : w * h * fps / 2560 ≤ rawBitrateKbps w h fps := by
    have planes : w * h ≤ w * h * 3 / 2 := by omega
    have pixels : w * h * fps * 8 ≤ w * h * 3 / 2 * 8 * fps := by
      calc w * h * fps * 8 = w * h * (8 * fps) := by ring
        _ ≤ w * h * 3 / 2 * (8 * fps) := Nat.mul_le_mul_right _ planes
        _ = w * h * 3 / 2 * 8 * fps := by ring
    unfold rawBitrateKbps
    omega
  have table : ∀ w' h' fps' kbps, (w,h,fps) = (w',h',fps') → kbps ≤ rawBitrateKbps w' h' fps' →
      kbps ≤ rawBitrateKbps w h fps := by
    intro w' h' fps' kbps same below
    simp only [Prod.mk.injEq] at same
    obtain ⟨rfl,rfl,rfl⟩ := same
    exact below
  unfold hevcTargetKbps
  split
  · exact table _ _ _ _ ‹_› (by decide)
  split
  · exact table _ _ _ _ ‹_› (by decide)
  split
  · exact table _ _ _ _ ‹_› (by decide)
  split
  · exact table _ _ _ _ ‹_› (by decide)
  split
  · exact table _ _ _ _ ‹_› (by decide)
  exact general

theorem admits_none (w h fps : UInt16) : UserLimits.none.Admits w h fps := ⟨nofun,nofun,nofun⟩

variable (usable : UInt64) (caps : List AvailableMode) (transport : TransportClass)

theorem considered_iff_feasible (choice : Choice) : choice.Considered usable caps transport UserLimits.none ↔
    choice.Feasible usable caps transport UserLimits.none := by
  refine ⟨And.left,fun feasible => ⟨feasible,?_⟩⟩
  intro prefers
  cases prefers

theorem raw_feasible_iff (every : EveryFormat caps) (m : AvailableMode) :
    (Choice.raw m).Feasible usable caps transport UserLimits.none ↔
      m ∈ caps ∧ rawKbps m ≤ usable.toNat ∧ rawKbps m ≤ transport.rawCeilingKbps := by
  constructor
  · intro feasible
    exact ⟨feasible.listed,feasible.usable,feasible.ceiling trivial⟩
  · intro ⟨listed,fits,ceiling⟩
    refine ⟨listed,admits_none _ _ _,?_,fits,fun _ => ceiling⟩
    change Capability.rawNv12 ∈ m.caps
    rw [every m listed]
    decide

theorem encoded_feasible_iff (every : EveryFormat caps) (m : AvailableMode) (codec : CodecName) :
    (Choice.encoded m codec).Feasible usable caps transport UserLimits.none ↔
      codec = .hevc ∧ m ∈ caps ∧ Fits usable m := by
  constructor
  · intro feasible
    have supported := feasible.supported
    have hevc : Capability.hevc ∈ m.caps := by
      rw [every m feasible.listed]
      decide
    rcases supported with ⟨same,_⟩ | ⟨_,absent,_⟩
    · subst same
      exact ⟨rfl,feasible.listed,feasible.usable⟩
    · exact absurd hevc absent
  · intro ⟨same,listed,fits⟩
    subst same
    refine ⟨listed,admits_none _ _ _,.inl ⟨rfl,?_⟩,fits,nofun⟩
    rw [every m listed]
    decide

theorem feasible_fits (every : EveryFormat caps) (choice : Choice)
    (feasible : choice.Feasible usable caps transport UserLimits.none) :
    choice.entry ∈ caps ∧ Fits usable choice.entry := by
  cases choice with
  | raw m => exact ⟨feasible.listed,Nat.le_trans (hevc_le_raw _ _ _) feasible.usable⟩
  | encoded m codec => exact ((encoded_feasible_iff usable caps transport every m codec).mp feasible).2

theorem some_feasible_iff (every : EveryFormat caps) :
    (∃ choice : Choice, choice.Feasible usable caps transport UserLimits.none) ↔ ∃ m ∈ caps, Fits usable m := by
  constructor
  · intro ⟨choice,feasible⟩
    exact ⟨choice.entry,feasible_fits usable caps transport every choice feasible⟩
  · intro ⟨m,listed,fits⟩
    exact ⟨.encoded m .hevc,(encoded_feasible_iff usable caps transport every m .hevc).mpr ⟨rfl,listed,fits⟩⟩

theorem size_le_of_rank_le (a b c a' b' c' : ℕ)
    (below : (toLex (a,toLex (b,c)) : ℕ ×ₗ ℕ ×ₗ ℕ) ≤ toLex (a',toLex (b',c'))) :
    (toLex (a,b) : ℕ ×ₗ ℕ) ≤ toLex (a',b') := by
  simp only [Prod.Lex.toLex_le_toLex] at below ⊢
  omega

theorem rank_lt_of_size_lt (a b c a' b' c' : ℕ) (below : (toLex (a,b) : ℕ ×ₗ ℕ) < toLex (a',b')) :
    (toLex (a,toLex (b,c)) : ℕ ×ₗ ℕ ×ₗ ℕ) < toLex (a',toLex (b',c')) := by
  simp only [Prod.Lex.toLex_lt_toLex] at below ⊢
  omega

/-- The size of the selected mode is the greatest of those that fit, whatever the transport. -/
theorem selected_size (every : EveryFormat caps) (some : ∃ m ∈ caps, Fits usable m) :
    IsGreatest (entrySize '' {m | m ∈ caps ∧ Fits usable m})
      (modeSize (selectUsable usable caps transport UserLimits.none)) := by
  obtain ⟨best,considered,same,greatest⟩ := selectUsable_best usable caps transport UserLimits.none
    ((some_feasible_iff usable caps transport every).mpr some)
  have size : modeSize best.mode = entrySize best.entry := by
    cases best with
    | raw m => rfl
    | encoded m codec => rfl
  rw [same,size]
  constructor
  · exact ⟨best.entry,feasible_fits usable caps transport every best considered.1,rfl⟩
  · intro size member
    obtain ⟨m,⟨listed,fits⟩,rfl⟩ := member
    have below := greatest (.encoded m .hevc) ((considered_iff_feasible usable caps transport _).mpr
      ((encoded_feasible_iff usable caps transport every m .hevc).mpr ⟨rfl,listed,fits⟩))
    exact size_le_of_rank_le _ _ _ _ _ _ below

theorem selected_fallback (every : EveryFormat caps) (none : ¬∃ m ∈ caps, Fits usable m) :
    selectUsable usable caps transport UserLimits.none = safeFallback :=
  selectUsable_fallback usable caps transport UserLimits.none fun some =>
    none ((some_feasible_iff usable caps transport every).mp some)

/-- Raw would be chosen on `transport` and is not on Wi-Fi: the greatest entries that fit have a raw
bitrate, and the link and the transport both carry it. -/
def RawDecides : Prop :=
  ∃ m ∈ caps, Fits usable m ∧ (∀ other ∈ caps, Fits usable other → entrySize other ≤ entrySize m) ∧
    0 < rawKbps m ∧ rawKbps m ≤ usable.toNat ∧ rawKbps m ≤ transport.rawCeilingKbps

theorem rawDecides_wiFi : ¬RawDecides usable caps .wiFi := by
  intro ⟨m,_,_,_,positive,_,ceiling⟩
  exact absurd positive (Nat.not_lt.mpr ceiling)

section Argmax

variable {α κ : Type} [LinearOrder κ]

theorem argmax_eq_head_filter (l : List α) (key : α → κ) (top : κ) (bound : ∀ a ∈ l, key a ≤ top)
    (some : ∃ a ∈ l, key a = top) : l.argmax key = (l.filter fun a => decide (key a = top)).head? := by
  induction l with
  | nil =>
    obtain ⟨a,member,_⟩ := some
    cases member
  | cons a l ih =>
    have boundTail : ∀ b ∈ l, key b ≤ top := fun b inside => bound b (List.mem_cons_of_mem a inside)
    rw [List.argmax_cons]
    by_cases first : key a = top
    · rw [List.filter_cons,if_pos (decide_eq_true first),List.head?_cons]
      cases rest : l.argmax key with
      | none => rfl
      | some c =>
        have below : ¬key a < key c := by
          rw [first]
          exact not_lt.mpr (boundTail c (List.argmax_mem rest))
        exact if_neg below
    · rw [List.filter_cons,if_neg (by simpa using first)]
      obtain ⟨b,member,greatest⟩ := some
      rcases List.mem_cons.mp member with same | later
      · rw [same] at greatest
        exact absurd greatest first
      · rw [← ih boundTail ⟨b,later,greatest⟩]
        cases rest : l.argmax key with
        | none =>
          rw [List.argmax_eq_none.mp rest] at later
          cases later
        | some c =>
          have reaches : top ≤ key c := by
            rw [← greatest]
            exact List.le_of_mem_argmax later rest
          have above : key a < key c := lt_of_lt_of_le (lt_of_le_of_ne (bound a List.mem_cons_self) first) reaches
          exact if_pos above

theorem argmax_congr (l l' : List α) (key : α → κ) (top : κ) (bound : ∀ a ∈ l, key a ≤ top)
    (bound' : ∀ a ∈ l', key a ≤ top) (some : ∃ a ∈ l, key a = top)
    (same : (l.filter fun a => decide (key a = top)) = l'.filter fun a => decide (key a = top)) :
    l.argmax key = l'.argmax key := by
  obtain ⟨a,member,greatest⟩ := some
  have also : a ∈ l'.filter fun a => decide (key a = top) := by
    rw [← same]
    exact List.mem_filter.mpr ⟨member,decide_eq_true greatest⟩
  rw [argmax_eq_head_filter l key top bound ⟨a,member,greatest⟩,same,
    argmax_eq_head_filter l' key top bound' ⟨a,(List.mem_filter.mp also).1,greatest⟩]

end Argmax

theorem candidates_none : candidates usable caps transport UserLimits.none =
    caps.flatMap fun m => rawCandidate usable transport m ++ encodedCandidate usable m := rfl

theorem rawKbps_of_size (m other : AvailableMode) (same : entrySize m = entrySize other) :
    rawKbps m = rawKbps other := by
  simp only [entrySize,toLex_inj,Prod.mk.injEq] at same
  obtain ⟨area,fps⟩ := same
  simp only [rawKbps,rawBitrateKbps,area,fps]

/-- A raw choice that Wi-Fi refuses ranks below the best there, unless raw decides. -/
theorem raw_below (every : EveryFormat caps) (best : Choice)
    (greatest : ∀ other : Choice, other.Feasible usable caps .wiFi UserLimits.none → other.rank ≤ best.rank)
    (settled : ¬RawDecides usable caps transport) (m : AvailableMode) (listed : m ∈ caps) (some : 0 < rawKbps m)
    (carried : rawKbps m ≤ usable.toNat) (ceiling : rawKbps m ≤ transport.rawCeilingKbps) :
    (Choice.raw m).rank < best.rank := by
  have fits : Fits usable m := Nat.le_trans (hevc_le_raw _ _ _) carried
  have larger : ∃ other ∈ caps, Fits usable other ∧ ¬entrySize other ≤ entrySize m := by
    by_contra none
    apply settled
    refine ⟨m,listed,fits,?_,some,carried,ceiling⟩
    intro other inside otherFits
    by_contra above
    exact none ⟨other,inside,otherFits,above⟩
  obtain ⟨other,inside,otherFits,above⟩ := larger
  have feasible := (encoded_feasible_iff usable caps .wiFi every other .hevc).mpr ⟨rfl,inside,otherFits⟩
  have below : (Choice.raw m).rank < (Choice.encoded other .hevc).rank :=
    rank_lt_of_size_lt _ _ _ _ _ _ (not_le.mp above)
  exact lt_of_lt_of_le below (greatest _ feasible)

theorem feasible_below (every : EveryFormat caps) (best : Choice)
    (greatest : ∀ other : Choice, other.Feasible usable caps .wiFi UserLimits.none → other.rank ≤ best.rank)
    (settled : ¬RawDecides usable caps transport) (choice : Choice)
    (feasible : choice.Feasible usable caps transport UserLimits.none) : choice.rank ≤ best.rank := by
  cases choice with
  | encoded m codec =>
    apply greatest
    exact (encoded_feasible_iff usable caps .wiFi every m codec).mpr
      ((encoded_feasible_iff usable caps transport every m codec).mp feasible)
  | raw m =>
    obtain ⟨listed,carried,ceiling⟩ := (raw_feasible_iff usable caps transport every m).mp feasible
    rcases Nat.eq_zero_or_pos (rawKbps m) with none | some
    · apply greatest
      exact (raw_feasible_iff usable caps .wiFi every m).mpr ⟨listed,carried,Nat.le_of_eq none⟩
    · exact le_of_lt (raw_below usable caps transport every best greatest settled m listed some carried ceiling)

theorem top_candidates (every : EveryFormat caps) (best : Choice)
    (greatest : ∀ other : Choice, other.Feasible usable caps .wiFi UserLimits.none → other.rank ≤ best.rank)
    (settled : ¬RawDecides usable caps transport) :
    ((candidates usable caps .wiFi UserLimits.none).filter fun c => decide (c.key = best.rank)) =
      (candidates usable caps transport UserLimits.none).filter fun c => decide (c.key = best.rank) := by
  rw [candidates_none,candidates_none,List.filter_flatMap,List.filter_flatMap]
  apply List.flatMap_congr
  intro m listed
  rw [List.filter_append,List.filter_append]
  congr 1
  have supported : m.supports .rawNv12 = true := by
    rw [supports_iff,every m listed]
    decide
  have onWiFi : rawCandidate usable .wiFi m = if rawKbps m ≤ usable.toNat ∧ rawKbps m ≤ 0 then
      [(Choice.raw m).candidate] else [] := if_pos supported
  have onOther : rawCandidate usable transport m = if rawKbps m ≤ usable.toNat ∧
      rawKbps m ≤ transport.rawCeilingKbps then [(Choice.raw m).candidate] else [] := if_pos supported
  rw [onWiFi,onOther]
  by_cases carried : rawKbps m ≤ usable.toNat ∧ rawKbps m ≤ transport.rawCeilingKbps
  · rw [if_pos carried]
    rcases Nat.eq_zero_or_pos (rawKbps m) with none | some
    · rw [if_pos ⟨carried.1,Nat.le_of_eq none⟩]
    · have below := raw_below usable caps transport every best greatest settled m listed some carried.1 carried.2
      have other : ¬(Choice.raw m).candidate.key = best.rank := by
        rw [candidate_key]
        exact ne_of_lt below
      rw [if_neg (fun both => absurd some (Nat.not_lt.mpr both.2)),List.filter_cons,if_neg (by simpa using other)]
  · have neither : ¬(rawKbps m ≤ usable.toNat ∧ rawKbps m ≤ 0) := by
      intro both
      exact carried ⟨both.1,Nat.le_trans both.2 (Nat.zero_le _)⟩
    rw [if_neg carried,if_neg neither]

theorem selected_same (every : EveryFormat caps) (settled : ¬RawDecides usable caps transport) :
    selectUsable usable caps .wiFi UserLimits.none = selectUsable usable caps transport UserLimits.none := by
  by_cases some : ∃ m ∈ caps, Fits usable m
  · obtain ⟨best,considered,_,highest⟩ := selectUsable_best usable caps .wiFi UserLimits.none
      ((some_feasible_iff usable caps .wiFi every).mpr some)
    have greatest : ∀ other : Choice, other.Feasible usable caps .wiFi UserLimits.none → other.rank ≤ best.rank :=
      fun other feasible => highest other ((considered_iff_feasible usable caps .wiFi other).mpr feasible)
    have bound : ∀ class' : TransportClass, (∀ choice : Choice,
        choice.Feasible usable caps class' UserLimits.none → choice.rank ≤ best.rank) →
        ∀ c ∈ (candidates usable caps class' UserLimits.none).reverse, c.key ≤ best.rank := by
      intro class' below c member
      obtain ⟨choice,feasible,rfl⟩ :=
        (mem_candidates usable caps class' UserLimits.none c).mp (List.mem_reverse.mp member)
      rw [candidate_key]
      exact below choice feasible
    have chosen : (candidates usable caps .wiFi UserLimits.none).reverse.argmax Candidate.key =
        (candidates usable caps transport UserLimits.none).reverse.argmax Candidate.key := by
      apply argmax_congr _ _ Candidate.key best.rank (bound .wiFi greatest)
        (bound transport (feasible_below usable caps transport every best greatest settled))
      · refine ⟨best.candidate,?_,candidate_key best⟩
        exact List.mem_reverse.mpr ((mem_candidates usable caps .wiFi UserLimits.none _).mpr ⟨best,considered.1,rfl⟩)
      · rw [List.filter_reverse,List.filter_reverse,
          top_candidates usable caps transport every best greatest settled]
    change (((candidates usable caps .wiFi UserLimits.none).reverse.argmax Candidate.key).elim safeFallback
      Candidate.mode) = _
    rw [chosen]
    rfl
  · rw [selected_fallback usable caps .wiFi every some,selected_fallback usable caps transport every some]

/-- Where raw decides, the transport selects a raw mode and Wi-Fi an encoded one. -/
theorem selected_differs (every : EveryFormat caps) (decides : RawDecides usable caps transport) :
    selectUsable usable caps .wiFi UserLimits.none ≠ selectUsable usable caps transport UserLimits.none := by
  obtain ⟨m,listed,fits,largest,some,carried,ceiling⟩ := decides
  intro same
  have onWiFi := selected_isGreatest usable caps .wiFi UserLimits.none
    ((some_feasible_iff usable caps .wiFi every).mpr ⟨m,listed,fits⟩)
  have onOther := selected_isGreatest usable caps transport UserLimits.none
    ((some_feasible_iff usable caps transport every).mpr ⟨m,listed,fits⟩)
  have raw : (Choice.raw m).Feasible usable caps transport UserLimits.none :=
    (raw_feasible_iff usable caps transport every m).mpr ⟨listed,carried,ceiling⟩
  have atLeast := onOther.2 ⟨.raw m,(considered_iff_feasible usable caps transport _).mpr raw,rfl⟩
  obtain ⟨choice,considered,rank⟩ := onWiFi.1
  rw [← same,← rank] at atLeast
  have fitting := feasible_fits usable caps .wiFi every choice considered.1
  have below := largest choice.entry fitting.1 fitting.2
  cases choice with
  | raw other =>
    have size : entrySize m = entrySize other := le_antisymm (size_le_of_rank_le _ _ _ _ _ _ atLeast) below
    have refused := ((raw_feasible_iff usable caps .wiFi every other).mp considered.1).2.2
    rw [← rawKbps_of_size m other size] at refused
    exact absurd some (Nat.not_lt.mpr refused)
  | encoded other codec =>
    have size : entrySize m = entrySize other := le_antisymm (size_le_of_rank_le _ _ _ _ _ _ atLeast) below
    simp only [entrySize,toLex_inj,Prod.mk.injEq] at size
    simp only [Choice.rank,Choice.entry,size.1,size.2,Prod.Lex.toLex_le_toLex] at atLeast
    omega

/-- The class handed to `select_mode` makes a difference just where raw decides. -/
theorem selected_same_iff (every : EveryFormat caps) :
    selectUsable usable caps .wiFi UserLimits.none = selectUsable usable caps transport UserLimits.none ↔
      ¬RawDecides usable caps transport :=
  ⟨fun same decides => selected_differs usable caps transport every decides same,
    selected_same usable caps transport every⟩

end ClearCam.Adaptive
