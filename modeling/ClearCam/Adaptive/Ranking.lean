import ClearCam.Adaptive.SelectMode
import Mathlib.Order.Bounds.Basic

/-! The rank of the selected mode as the greatest of a set, and how it follows the set when the
link or the list of entries changes. -/
namespace ClearCam.Adaptive
open ClearCam.Protocol

def modeRank (m : Mode) : ℕ ×ₗ ℕ ×ₗ ℕ :=
  toLex (m.width.toNat * m.height.toNat,toLex (m.fps.toNat,if m.format = .raw then 1 else 0))

theorem choice_modeRank (choice : Choice) : modeRank choice.mode = choice.rank := by
  cases choice with
  | raw m => rfl
  | encoded m codec => rfl

variable (usable : UInt64) (caps : List AvailableMode) (transport : TransportClass) (limits : UserLimits)

def consideredRanks : Set (ℕ ×ₗ ℕ ×ₗ ℕ) :=
  Choice.rank '' {choice | choice.Considered usable caps transport limits}

theorem chosen_none_iff : chosen usable caps transport limits = none ↔
    ¬∃ choice : Choice, choice.Considered usable caps transport limits := by
  unfold chosen
  rw [List.argmax_eq_none,List.reverse_eq_nil_iff,List.eq_nil_iff_forall_not_mem]
  constructor
  · intro none some
    obtain ⟨choice,considered⟩ := some
    exact none _ ((mem_considered usable caps transport limits _).mpr ⟨choice,considered,rfl⟩)
  · intro none c member
    obtain ⟨choice,considered,_⟩ := (mem_considered usable caps transport limits c).mp member
    exact none ⟨choice,considered⟩

theorem chosen_isSome_iff : (∃ c, chosen usable caps transport limits = some c) ↔
    ∃ choice : Choice, choice.Feasible usable caps transport limits := by
  rw [← Option.ne_none_iff_exists',ne_eq,chosen_none_iff,not_not]
  constructor
  · intro some
    obtain ⟨choice,considered⟩ := some
    exact ⟨choice,considered.1⟩
  · exact considered_of_feasible usable caps transport limits

theorem selected_isGreatest (feasible : ∃ choice : Choice, choice.Feasible usable caps transport limits) :
    IsGreatest (consideredRanks usable caps transport limits)
      (modeRank (selectUsable usable caps transport limits)) := by
  obtain ⟨best,considered,same,greatest⟩ := selectUsable_best usable caps transport limits feasible
  rw [same,choice_modeRank]
  constructor
  · exact ⟨best,considered,rfl⟩
  · intro rank member
    obtain ⟨other,also,rfl⟩ := member
    exact greatest other also

theorem feasible_mono (u1 u2 : UInt64) (c1 c2 : List AvailableMode) (faster : u1 ≤ u2) (listed : ∀ m ∈ c1, m ∈ c2)
    (choice : Choice) (feasible : choice.Feasible u1 c1 transport limits) :
    choice.Feasible u2 c2 transport limits :=
  ⟨listed _ feasible.listed,feasible.admitted,feasible.supported,
    Nat.le_trans feasible.usable (UInt64.le_iff_toNat_le.mp faster),feasible.ceiling⟩

theorem feasible_congr (c1 c2 : List AvailableMode) (same : ∀ m, m ∈ c1 ↔ m ∈ c2) (choice : Choice) :
    choice.Feasible usable c1 transport limits ↔ choice.Feasible usable c2 transport limits := by
  constructor
  · exact feasible_mono transport limits usable usable c1 c2 (UInt64.le_refl _) (fun m => (same m).mp) choice
  · exact feasible_mono transport limits usable usable c2 c1 (UInt64.le_refl _) (fun m => (same m).mpr) choice

theorem considered_congr (c1 c2 : List AvailableMode) (same : ∀ m, m ∈ c1 ↔ m ∈ c2) (choice : Choice) :
    choice.Considered usable c1 transport limits ↔ choice.Considered usable c2 transport limits := by
  unfold Choice.Considered
  simp only [feasible_congr usable transport limits c1 c2 same]

theorem consideredRanks_mono (u1 u2 : UInt64) (c1 c2 : List AvailableMode) (faster : u1 ≤ u2)
    (listed : ∀ m ∈ c1, m ∈ c2) (indifferent : limits.preferRaw = false) :
    consideredRanks u1 c1 transport limits ⊆ consideredRanks u2 c2 transport limits := by
  apply Set.image_mono
  intro choice considered
  refine ⟨feasible_mono transport limits u1 u2 c1 c2 faster listed choice considered.1,?_⟩
  intro prefers
  rw [indifferent] at prefers
  cases prefers

theorem modeRank_congr (c1 c2 : List AvailableMode) (same : ∀ m, m ∈ c1 ↔ m ∈ c2) :
    modeRank (selectUsable usable c1 transport limits) = modeRank (selectUsable usable c2 transport limits) := by
  have ranks : consideredRanks usable c1 transport limits = consideredRanks usable c2 transport limits := by
    apply congrArg (Set.image Choice.rank)
    ext choice
    exact considered_congr usable transport limits c1 c2 same choice
  have feasible := exists_congr (feasible_congr usable transport limits c1 c2 same)
  by_cases some : ∃ choice : Choice, choice.Feasible usable c1 transport limits
  · have first := selected_isGreatest usable c1 transport limits some
    have second := selected_isGreatest usable c2 transport limits (feasible.mp some)
    rw [ranks] at first
    exact first.unique second
  · rw [selectUsable_fallback usable c1 transport limits some,
      selectUsable_fallback usable c2 transport limits (fun other => some (feasible.mpr other))]

/-- A faster link with more to choose from never ranks lower, and neither the order of the entries nor
their number matters. -/
theorem select_mode_monotone :
    (∀ u1 u2 c1 c2, limits.preferRaw = false → u1 ≤ u2 → (∀ m ∈ c1, m ∈ c2) →
      (∃ c, chosen u1 c1 transport limits = some c) →
        (∃ c, chosen u2 c2 transport limits = some c) ∧
        modeRank (selectUsable u1 c1 transport limits) ≤ modeRank (selectUsable u2 c2 transport limits)) ∧
    (∀ u c1 c2, (∀ m, m ∈ c1 ↔ m ∈ c2) →
      ((∃ c, chosen u c1 transport limits = some c) ↔ ∃ c, chosen u c2 transport limits = some c) ∧
      modeRank (selectUsable u c1 transport limits) = modeRank (selectUsable u c2 transport limits)) := by
  constructor
  · intro u1 u2 c1 c2 indifferent faster listed selected
    rw [chosen_isSome_iff] at selected ⊢
    obtain ⟨choice,feasible⟩ := selected
    have wider := feasible_mono transport limits u1 u2 c1 c2 faster listed choice feasible
    refine ⟨⟨choice,wider⟩,?_⟩
    apply IsGreatest.mono (selected_isGreatest u1 c1 transport limits ⟨choice,feasible⟩)
      (selected_isGreatest u2 c2 transport limits ⟨choice,wider⟩)
    exact consideredRanks_mono transport limits u1 u2 c1 c2 faster listed indifferent
  · intro u c1 c2 same
    rw [chosen_isSome_iff,chosen_isSome_iff]
    exact ⟨exists_congr (feasible_congr u transport limits c1 c2 same),
      modeRank_congr u transport limits c1 c2 same⟩

theorem select_mode_monotone_hd :
    (∃ c, chosen 12000 [⟨1280,720,30,[.hevc]⟩] .wiFi ⟨none,none,none,false⟩ = some c) ∧
    (∃ c, chosen 60000 [⟨1920,1080,30,[.hevc]⟩,⟨1280,720,30,[.hevc]⟩] .wiFi ⟨none,none,none,false⟩ = some c) ∧
    modeRank (selectUsable 12000 [⟨1280,720,30,[.hevc]⟩] .wiFi ⟨none,none,none,false⟩) ≤
      modeRank (selectUsable 60000 [⟨1920,1080,30,[.hevc]⟩,⟨1280,720,30,[.hevc]⟩] .wiFi ⟨none,none,none,false⟩) := by
  have selected : ∃ c, chosen 12000 [⟨1280,720,30,[.hevc]⟩] .wiFi ⟨none,none,none,false⟩ = some c := by
    rw [chosen_isSome_iff]
    refine ⟨.encoded ⟨1280,720,30,[.hevc]⟩ .hevc,⟨by simp [Choice.entry],?_,.inl ⟨rfl,by simp⟩,by decide,nofun⟩⟩
    exact ⟨nofun,nofun,nofun⟩
  exact ⟨selected,(select_mode_monotone .wiFi ⟨none,none,none,false⟩).1 12000 60000 _ _ rfl (by decide)
    (fun m listed => List.mem_cons_of_mem _ listed) selected⟩

end ClearCam.Adaptive
