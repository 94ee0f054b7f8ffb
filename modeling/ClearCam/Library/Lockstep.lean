import Mathlib.Logic.Basic

/-! Rules for stateful, failing programs. Two of them are in lockstep when from related
states both return related values or both fail with the same error, and the states
stay related; the rules follow the program text, so that two copies of a function are
compared statement by statement. A second set of rules bounds what one program returns. -/
namespace ClearCam.Library

variable {ε σ τ α β γ δ : Type}

def Lockstep (R : σ → τ → Prop) (A : α → β → Prop) (x : EStateM ε σ α) (y : EStateM ε τ β) : Prop :=
  ∀ s t, R s t → match x.run s, y.run t with
    | .ok a s', .ok b t' => A a b ∧ R s' t'
    | .error e s', .error e' t' => e = e' ∧ R s' t'
    | _, _ => False

namespace Lockstep

variable {R : σ → τ → Prop} {A : α → β → Prop} {B : γ → δ → Prop}

theorem pure (a : α) (b : β) (related : A a b) :
    Lockstep R A (Pure.pure a : EStateM ε σ α) (Pure.pure b : EStateM ε τ β) :=
  fun _ _ start => ⟨related,start⟩

theorem bind {x : EStateM ε σ α} {y : EStateM ε τ β} {f : α → EStateM ε σ γ} {g : β → EStateM ε τ δ}
    (first : Lockstep R A x y) (next : ∀ a b, A a b → Lockstep R B (f a) (g b)) :
    Lockstep R B (x >>= f) (y >>= g) := by
  intro s t start
  have head := first s t start
  rw [EStateM.run_bind,EStateM.run_bind]
  cases left : x.run s with
  | ok a s' =>
    cases right : y.run t with
    | ok b t' =>
      rw [left,right] at head
      exact next a b head.1 s' t' head.2
    | error e t' => rw [left,right] at head; exact head.elim
  | error e s' =>
    cases right : y.run t with
    | ok b t' => rw [left,right] at head; exact head.elim
    | error e' t' => rw [left,right] at head; exact head

theorem fail (error : ε)
    (f : γ → EStateM ε σ α) (g : δ → EStateM ε τ β) :
    Lockstep R A ((MonadExcept.throw error : EStateM ε σ γ) >>= f)
      ((MonadExcept.throw error : EStateM ε τ δ) >>= g) :=
  fun _ _ start => ⟨rfl,start⟩

end Lockstep

/-- Every value the program returns meets `P`, whatever state it starts in. -/
def Returns (x : EStateM ε σ α) (P : α → Prop) : Prop := ∀ s a s', x.run s = .ok a s' → P a

namespace Returns

variable {P : α → Prop}

theorem pure (a : α) (holds : P a) : Returns (Pure.pure a : EStateM ε σ α) P := by
  intro s b s' returned
  cases returned
  exact holds

theorem bind {x : EStateM ε σ β} {f : β → EStateM ε σ α} (next : ∀ b, Returns (f b) P) :
    Returns (x >>= f) P := by
  intro s a s' returned
  rw [EStateM.run_bind] at returned
  cases first : x.run s with
  | ok b t =>
    rw [first] at returned
    exact next b t a s' returned
  | error e t =>
    rw [first] at returned
    cases returned

theorem fail (error : ε) (f : β → EStateM ε σ α) :
    Returns ((MonadExcept.throw error : EStateM ε σ β) >>= f) P := by
  intro s a s' returned
  cases returned

end Returns
end ClearCam.Library
