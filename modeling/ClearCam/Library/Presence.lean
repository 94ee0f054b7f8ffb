import Mathlib.Data.Finset.Basic
import Mathlib.Data.Finset.SDiff
import Mathlib.Data.Finset.Dedup
import Mathlib.Data.Finset.Lattice.Lemmas
import ClearCam.Library.Transition

/-! Reports of what comes and goes. A list of changes tells who is present in the end; it is orderly
if nothing arrives that is there and nothing leaves that is not. -/
namespace ClearCam.Library

inductive Change (K : Type) where
  | arrived (key : K)
  | left (key : K)
  deriving DecidableEq

namespace Change

variable {K : Type} [DecidableEq K]

def key : Change K → K
  | arrived key | left key => key

def arrives : Change K → Bool
  | arrived _ => true
  | left _ => false

def apply (s : Finset K) : Change K → Finset K
  | arrived key => insert key s
  | left key => s.erase key

def after (s : Finset K) (changes : List (Change K)) : Finset K := changes.foldl apply s

def Orderly : Finset K → List (Change K) → Prop
  | _, [] => True
  | s, change :: rest => (change.arrives = true ↔ change.key ∉ s) ∧ Orderly (change.apply s) rest

def about (key : K) (changes : List (Change K)) : List Bool :=
  changes.filterMap fun change => if change.key = key then some change.arrives else none

def Alternates : Bool → List Bool → Prop
  | _, [] => True
  | next, report :: rest => report = next ∧ Alternates (!next) rest

theorem after_append (s : Finset K) (xs ys : List (Change K)) : after s (xs ++ ys) = after (after s xs) ys :=
  List.foldl_append

theorem orderly_append (s : Finset K) (xs ys : List (Change K)) :
    Orderly s (xs ++ ys) ↔ Orderly s xs ∧ Orderly (after s xs) ys := by
  induction xs generalizing s with
  | nil => exact (iff_of_eq (true_and _)).symm
  | cons change rest ih =>
    change (_ ∧ Orderly (change.apply s) (rest ++ ys)) ↔ (_ ∧ Orderly (change.apply s) rest) ∧ _
    rw [ih,and_assoc]
    rfl

theorem apply_other (s : Finset K) (change : Change K) (k : K) (other : change.key ≠ k) :
    k ∈ change.apply s ↔ k ∈ s := by
  cases change with
  | arrived own => simp [apply,Ne.symm (show own ≠ k from other)]
  | left own => simp [apply,Ne.symm (show own ≠ k from other)]

theorem apply_own (s : Finset K) (change : Change K) : change.key ∈ change.apply s ↔ change.arrives = true := by
  cases change with
  | arrived own => simp [apply,key,arrives]
  | left own => simp [apply,key,arrives]

/-- Reports are orderly just when those of each key alternate. -/
theorem orderly_iff (s : Finset K) (changes : List (Change K)) :
    Orderly s changes ↔ ∀ k, Alternates (decide (k ∉ s)) (about k changes) := by
  induction changes generalizing s with
  | nil => exact iff_of_true trivial (fun _ => trivial)
  | cons change rest ih =>
    have own : about change.key (change :: rest) = change.arrives :: about change.key rest := by simp [about]
    have next : change.arrives = decide (change.key ∉ s) →
        (!decide (change.key ∉ s)) = decide (change.key ∉ change.apply s) := by
      intro same
      rw [← same]
      by_cases arrives : change.arrives = true
      · simp [apply_own,arrives]
      · simp [apply_own,arrives]
    have others (k : K) (other : change.key ≠ k) : about k (change :: rest) = about k rest := by simp [about,other]
    change (_ ∧ Orderly (change.apply s) rest) ↔ _
    rw [ih]
    constructor
    · intro ⟨orderly,later⟩ k
      by_cases same : change.key = k
      · obtain rfl := same
        have report : change.arrives = decide (change.key ∉ s) := by
          rw [Bool.eq_iff_iff,orderly,decide_eq_true_iff]
        rw [own]
        exact ⟨report,by rw [next report]; exact later change.key⟩
      · rw [others k same]
        have kept := later k
        rw [decide_eq_decide.mpr (not_congr (apply_other s change k same))] at kept
        exact kept
    · intro every
      have first := every change.key
      rw [own] at first
      refine ⟨by rw [first.1,decide_eq_true_iff],?_⟩
      intro k
      by_cases same : change.key = k
      · obtain rfl := same
        rw [← next first.1]
        exact first.2
      · have kept := every k
        rw [others k same] at kept
        rw [decide_eq_decide.mpr (not_congr (apply_other s change k same))]
        exact kept

theorem arrivals_after (keys : List K) (s : Finset K) : after s (keys.map arrived) = s ∪ keys.toFinset := by
  induction keys generalizing s with
  | nil => simp [after]
  | cons key rest ih =>
    change after (insert key s) (rest.map arrived) = _
    rw [ih,List.toFinset_cons,Finset.insert_union,Finset.union_insert]

theorem departures_after (keys : List K) (s : Finset K) : after s (keys.map left) = s \ keys.toFinset := by
  induction keys generalizing s with
  | nil => simp [after]
  | cons key rest ih =>
    change after (s.erase key) (rest.map left) = _
    rw [ih]
    ext k
    simp only [Finset.mem_sdiff,Finset.mem_erase,List.toFinset_cons,Finset.mem_insert]
    tauto

theorem arrivals_orderly (keys : List K) (s : Finset K) (distinct : keys.Nodup) (absent : ∀ key ∈ keys, key ∉ s) :
    Orderly s (keys.map arrived) := by
  induction keys generalizing s with
  | nil => trivial
  | cons key rest ih =>
    obtain ⟨fresh,distinct⟩ := List.nodup_cons.mp distinct
    refine ⟨iff_of_true rfl (absent key List.mem_cons_self),ih (insert key s) distinct ?_⟩
    intro other member
    rw [Finset.mem_insert,not_or]
    exact ⟨fun same => fresh (same ▸ member),absent other (List.mem_cons_of_mem key member)⟩

theorem departures_orderly (keys : List K) (s : Finset K) (distinct : keys.Nodup) (there : ∀ key ∈ keys, key ∈ s) :
    Orderly s (keys.map left) := by
  induction keys generalizing s with
  | nil => trivial
  | cons key rest ih =>
    obtain ⟨fresh,distinct⟩ := List.nodup_cons.mp distinct
    refine ⟨iff_of_false Bool.false_ne_true (not_not_intro (there key List.mem_cons_self)),
      ih (s.erase key) distinct ?_⟩
    intro other member
    rw [Finset.mem_erase]
    exact ⟨fun same => fresh (same ▸ member),there other (List.mem_cons_of_mem key member)⟩

def Unmatched (changes : List (Change K)) (k : K) : Prop := changes.count (left k) < changes.count (arrived k)

instance (changes : List (Change K)) (k : K) : Decidable (Unmatched changes k) :=
  inferInstanceAs (Decidable (changes.count (left k) < changes.count (arrived k)))

/-- Every departure has an arrival of its own before it. -/
def Covered (changes : List (Change K)) : Prop :=
  ∀ before after k, changes = before ++ left k :: after → Unmatched before k

theorem covered_nil : Covered ([] : List (Change K)) := by
  intro before after k split
  simp at split

theorem covered_concat (changes : List (Change K)) (change : Change K) : Covered (changes ++ [change]) ↔
    Covered changes ∧ ∀ k, change = left k → Unmatched changes k := by
  constructor
  · intro covered
    refine ⟨?_,?_⟩
    · intro before after k split
      exact covered before (after ++ [change]) k (by rw [split,List.append_assoc,List.cons_append])
    · intro k same
      exact covered changes [] k (by rw [same])
  · intro ⟨covered,last⟩ before after k split
    rcases (split_concat changes before after change (left k)).mp split with ⟨rfl,same,_⟩ | ⟨rest,_,earlier⟩
    · exact last k same.symm
    · exact covered before rest k earlier

theorem covered_count (changes : List (Change K)) (covered : Covered changes) (k : K) :
    changes.count (left k) ≤ changes.count (arrived k) := by
  induction changes using List.reverseRecOn with
  | nil => exact Nat.le_refl 0
  | append_singleton front change ih =>
    obtain ⟨earlier,last⟩ := (covered_concat front change).mp covered
    have bound := ih earlier
    rw [List.count_append,List.count_append]
    by_cases leaves : change = left k
    · have open_before : front.count (left k) < front.count (arrived k) := last k leaves
      obtain rfl := leaves
      rw [List.count_singleton_self]
      omega
    · have stays : [change].count (left k) = 0 :=
        List.count_eq_zero.mpr (fun member => leaves (List.mem_singleton.mp member).symm)
      omega

/-- A key that has not left since it arrived is unmatched. -/
theorem unmatched_since (before after : List (Change K)) (k : K)
    (covered : Covered (before ++ arrived k :: after)) (stays : left k ∉ after) :
    Unmatched (before ++ arrived k :: after) k := by
  have earlier : Covered before := by
    intro front back k split
    exact covered front (back ++ arrived _ :: after) k (by rw [split,List.append_assoc,List.cons_append])
  have bound := covered_count before earlier k
  unfold Unmatched
  rw [List.count_append,List.count_append,List.count_cons_self,List.count_cons_of_ne (by simp),
    List.count_eq_zero.mpr stays]
  omega

end Change
end ClearCam.Library
