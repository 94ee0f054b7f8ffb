import ClearCam.Adaptive.CameraModes

/-! When the selected mode is raw. A raw mode needs a bitrate within the ceiling of the transport, and
the ceiling of Wi-Fi is zero; but a bitrate is counted in whole kilobits. -/
namespace ClearCam.Adaptive
open ClearCam.Protocol

variable (usable : UInt64) (caps : List AvailableMode) (transport : TransportClass) (limits : UserLimits)

/-- The raw choice is preferred, or no feasible encoded one is larger. -/
def RawWins (m : AvailableMode) : Prop :=
  limits.preferRaw = true ∨ ∀ other codec, (Choice.encoded other codec).Feasible usable caps transport limits →
    entrySize other ≤ entrySize m

theorem selected_raw_wins (raw : (selectUsable usable caps transport limits).format = .raw) :
    ∃ m, (Choice.raw m).Feasible usable caps transport limits ∧ RawWins usable caps transport limits m := by
  by_cases some : ∃ choice : Choice, choice.Feasible usable caps transport limits
  · obtain ⟨best,considered,same,greatest⟩ := selectUsable_best usable caps transport limits some
    rw [same] at raw
    cases best with
    | encoded m codec => cases raw
    | raw m =>
      refine ⟨m,considered.1,?_⟩
      cases prefers : limits.preferRaw with
      | true => exact .inl prefers
      | false =>
        right
        intro other codec feasible
        have also : (Choice.encoded other codec).Considered usable caps transport limits := by
          refine ⟨feasible,?_⟩
          intro preferred
          rw [prefers] at preferred
          cases preferred
        exact size_le_of_rank_le _ _ _ _ _ _ (greatest _ also)
  · rw [selectUsable_fallback usable caps transport limits some] at raw
    cases raw

theorem selected_raw_of_wins (m : AvailableMode) (feasible : (Choice.raw m).Feasible usable caps transport limits)
    (wins : RawWins usable caps transport limits m) : (selectUsable usable caps transport limits).format = .raw := by
  obtain ⟨best,considered,same,greatest⟩ := selectUsable_best usable caps transport limits ⟨_,feasible⟩
  rw [same]
  cases best with
  | raw other => rfl
  | encoded other codec =>
    rcases wins with prefers | largest
    · exact (considered.2 prefers ⟨_,feasible,trivial⟩).elim
    · have rank := greatest (.raw m) ⟨feasible,fun _ _ => trivial⟩
      have size := largest other codec considered.1
      simp only [Choice.rank,Choice.entry,entrySize,Prod.Lex.toLex_le_toLex] at rank size
      omega

theorem selected_raw_iff : (selectUsable usable caps transport limits).format = .raw ↔
    ∃ m, (Choice.raw m).Feasible usable caps transport limits ∧ RawWins usable caps transport limits m := by
  constructor
  · exact selected_raw_wins usable caps transport limits
  · intro ⟨m,feasible,wins⟩
    exact selected_raw_of_wins usable caps transport limits m feasible wins

def BelowKilobit (m : AvailableMode) : Prop :=
  m.width.toNat * m.height.toNat * 3 / 2 * 8 * m.fps.toNat < 1000

theorem raw_feasible_wiFi_iff (m : AvailableMode) : (Choice.raw m).Feasible usable caps .wiFi limits ↔
    m ∈ caps ∧ limits.Admits m.width m.height m.fps ∧ .rawNv12 ∈ m.caps ∧ BelowKilobit m := by
  have small : (Choice.raw m).targetKbps = 0 ↔ BelowKilobit m := Nat.div_eq_zero_iff_lt (by decide)
  constructor
  · intro feasible
    have ceiling : (Choice.raw m).targetKbps ≤ 0 := feasible.ceiling trivial
    exact ⟨feasible.listed,feasible.admitted,feasible.supported,small.mp (Nat.le_zero.mp ceiling)⟩
  · intro ⟨listed,admitted,supported,below⟩
    have none := small.mpr below
    exact ⟨listed,admitted,supported,by rw [none]; exact Nat.zero_le _,fun _ => by rw [none]; exact Nat.zero_le _⟩

/-- Raw is left out on Wi-Fi but for an entry below a kilobit, where it is preferred or the largest. -/
theorem wiFi_selects_encoded_iff (measurement : Measurement) :
    (selectMode measurement caps .wiFi limits).format ≠ .raw ↔
      ∀ m ∈ caps, limits.Admits m.width m.height m.fps → .rawNv12 ∈ m.caps → BelowKilobit m →
        limits.preferRaw = false ∧ ∃ other codec,
          (Choice.encoded other codec).Feasible (usableKbps measurement) caps .wiFi limits ∧
            entrySize m < entrySize other := by
  have loses : ∀ m, ¬RawWins (usableKbps measurement) caps .wiFi limits m ↔
      limits.preferRaw = false ∧ ∃ other codec,
        (Choice.encoded other codec).Feasible (usableKbps measurement) caps .wiFi limits ∧
          entrySize m < entrySize other := by
    intro m
    unfold RawWins
    push Not
    rw [ne_eq,Bool.not_eq_true]
  unfold selectMode
  rw [ne_eq,selected_raw_iff,not_exists]
  constructor
  · intro never m listed admitted supported below
    refine (loses m).mp fun wins => never m ⟨?_,wins⟩
    exact (raw_feasible_wiFi_iff _ caps limits m).mpr ⟨listed,admitted,supported,below⟩
  · intro beaten m ⟨feasible,wins⟩
    obtain ⟨listed,admitted,supported,below⟩ := (raw_feasible_wiFi_iff _ caps limits m).mp feasible
    exact (loses m).mpr (beaten m listed admitted supported below) wins

/-- 96 bytes a second make 768 bits, which count as none. -/
theorem thumbnail_raw_on_wiFi : (selectMode ⟨50.0,5.0,1.0,0.0⟩ [⟨8,8,1,everyFormat⟩] .wiFi UserLimits.none).format = .raw ∧
    (selectMode ⟨50.0,5.0,1.0,0.0⟩ [⟨1920,1080,30,everyFormat⟩,⟨8,8,1,everyFormat⟩] .wiFi
      ⟨none,none,none,true⟩).format = .raw := by
  decide +kernel

end ClearCam.Adaptive
