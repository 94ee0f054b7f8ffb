import ClearCam.Library.Transducer

/-! Progress by the clock. A transducer whose inputs carry times has stages left to go through; the stage at hand
ends by its deadline, and every later one a fixed time after the one before it. -/
namespace ClearCam.Library

/-- From `a` the partial function can be followed at most `n` times. -/
def Ends {α : Type*} (next : α → Option α) : Nat → α → Prop
  | 0, a => next a = none
  | n + 1, a => ∀ b, next a = some b → Ends next n b

theorem Ends.more {α : Type*} {next : α → Option α} {n : Nat} {a : α} (ends : Ends next n a) : Ends next (n + 1) a := by
  induction n generalizing a with
  | zero =>
    intro b found
    exact nomatch ends.symm.trans found
  | succ n ih =>
    intro b found
    exact ih (ends b found)

theorem Ends.mono {α : Type*} {next : α → Option α} {n k : Nat} {a : α} (ends : Ends next n a) (le : n ≤ k) :
    Ends next k a := by
  induction le with
  | refl => exact ends
  | step _ ih => exact ih.more

theorem Ends.of_none {α : Type*} {next : α → Option α} {a : α} (n : Nat) (last : next a = none) : Ends next n a :=
  mono (n := 0) last (Nat.zero_le n)

namespace Transducer

variable {State Input Output : Type*} (step : State → Input → State × Output) (clock : Input → Nat)

/-- Time does not run backwards, and no two inputs are more than `gap` apart. -/
def Spaced (gap : Nat) : Nat → List Input → Prop
  | _, [] => True
  | last, x :: xs => last ≤ clock x ∧ clock x ≤ last + gap ∧ Spaced gap (clock x) xs

instance (gap : Nat) : ∀ last xs, Decidable (Spaced clock gap last xs)
  | _, [] => .isTrue trivial
  | last, x :: xs =>
    have : Decidable (Spaced clock gap (clock x) xs) := instDecidableSpaced gap (clock x) xs
    inferInstanceAs (Decidable (last ≤ clock x ∧ clock x ≤ last + gap ∧ Spaced clock gap (clock x) xs))

def lastTime (last : Nat) (xs : List Input) : Nat := xs.foldl (fun _ x => clock x) last

theorem spaced_append (gap last : Nat) (xs ys : List Input) :
    Spaced clock gap last (xs ++ ys) ↔ Spaced clock gap last xs ∧ Spaced clock gap (lastTime clock last xs) ys := by
  induction xs generalizing last with
  | nil => exact iff_of_eq (true_and _).symm
  | cons x xs ih =>
    simp only [List.cons_append,Spaced,ih,and_assoc]
    rfl

theorem lastTime_append (last : Nat) (xs ys : List Input) :
    lastTime clock last (xs ++ ys) = lastTime clock (lastTime clock last xs) ys := List.foldl_append

/-- `Due n s last deadline` says that after an input at `last` there are `n` stages left, and the next ends by
`deadline`. -/
theorem stateAfter_due (gap period : Nat) (Allowed : Input → Prop) (Due : Nat → State → Nat → Nat → Prop)
    (pending : ∀ n s last deadline, Due (n + 1) s last deadline → last ≤ deadline)
    (goes : ∀ n s last deadline x, Due (n + 1) s last deadline → Allowed x → last ≤ clock x → clock x ≤ last + gap →
      Due (n + 1) (step s x).1 (clock x) deadline ∨ Due n (step s x).1 (clock x) (deadline + period))
    (rests : ∀ s last deadline x, Due 0 s last deadline → Allowed x → last ≤ clock x → clock x ≤ last + gap →
      Due 0 (step s x).1 (clock x) deadline)
    (n : Nat) (s : State) (last deadline : Nat) (xs : List Input) (due : Due n s last deadline)
    (spaced : Spaced clock gap last xs) (allowed : ∀ x ∈ xs, Allowed x)
    (late : ∀ m, n = m + 1 → deadline + m * period < lastTime clock last xs) :
    ∃ passed, Due 0 (stateAfter step s xs) (lastTime clock last xs) passed := by
  induction xs generalizing n s last deadline with
  | nil =>
    cases n with
    | zero => exact ⟨deadline,due⟩
    | succ n =>
      have early := pending n s last deadline due
      have passed : deadline + n * period < last := late n rfl
      omega
  | cons x xs ih =>
    obtain ⟨forward,soon,spaced⟩ := spaced
    have here := allowed x List.mem_cons_self
    have rest := fun y member => allowed y (List.mem_cons_of_mem x member)
    cases n with
    | zero => exact ih 0 _ _ deadline (rests s last deadline x due here forward soon) spaced rest late
    | succ n =>
      rcases goes n s last deadline x due here forward soon with still | next
      · exact ih (n + 1) _ _ deadline still spaced rest late
      · refine ih n _ _ (deadline + period) next spaced rest ?_
        intro m stages
        have passed : deadline + n * period < lastTime clock (clock x) xs := late n rfl
        rw [stages,Nat.succ_mul,Nat.add_comm (m * period),← Nat.add_assoc] at passed
        exact passed

end Transducer
end ClearCam.Library
