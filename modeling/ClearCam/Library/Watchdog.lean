import ClearCam.Library.Transition

/-! A watchdog: a party that asks its peer for a sign of life again and again, and gives the peer up when a
check finds that the last sign is too long ago. Times are natural numbers of any unit. -/
namespace ClearCam.Library

/-- The last sign of life, the last check, and the first check since that sign. -/
structure Watchdog where
  heard : Nat
  checked : Nat
  asked : Option Nat
  deriving DecidableEq

inductive Watch where
  | check (now : Nat)
  | hear (now : Nat)
  deriving DecidableEq

def Watch.now : Watch → Nat
  | .check now | .hear now => now

namespace Watchdog

def start (now : Nat) : Watchdog := ⟨now,now,none⟩

def next (dog : Watchdog) : Watch → Watchdog
  | .check now => ⟨dog.heard,now,some (dog.asked.getD now)⟩
  | .hear now => ⟨now,dog.checked,none⟩

/-- Time does not run backwards, and the next check is at most `gap` after the last. -/
def Punctual (gap : Nat) (dog : Watchdog) (watch : Watch) : Prop :=
  dog.heard ≤ watch.now ∧ dog.checked ≤ watch.now ∧ watch.now ≤ dog.checked + gap

/-- The peer gives its sign at most `delay` after it was asked. -/
def Answered (delay : Nat) (dog : Watchdog) (watch : Watch) : Prop :=
  ∀ asked, dog.asked = some asked → watch.now ≤ asked + delay

instance (gap : Nat) (dog : Watchdog) (watch : Watch) : Decidable (Punctual gap dog watch) :=
  inferInstanceAs (Decidable (_ ∧ _ ∧ _))

instance (delay : Nat) (dog : Watchdog) (watch : Watch) : Decidable (Answered delay dog watch) :=
  inferInstanceAs (Decidable (∀ asked ∈ dog.asked, watch.now ≤ asked + delay))

/-- A check that finds the peer alive. -/
def Alive (limit : Nat) (dog : Watchdog) : Watch → Prop
  | .check now => now - dog.heard ≤ limit
  | .hear _ => True

theorem Alive.mono {limit more : Nat} {dog : Watchdog} {watch : Watch} (alive : Alive limit dog watch)
    (le : limit ≤ more) : Alive more dog watch := by
  cases watch with
  | hear now => trivial
  | check now => exact Nat.le_trans alive le

/-- The first check since the last sign came in time. -/
structure Fresh (gap : Nat) (dog : Watchdog) : Prop where
  idle : dog.asked = none → dog.checked ≤ dog.heard
  asked : ∀ asked, dog.asked = some asked → asked ≤ dog.heard + gap

theorem start_fresh (gap now : Nat) : (start now).Fresh gap := by
  refine ⟨fun _ => Nat.le_refl _,?_⟩
  intro asked none
  cases none

theorem next_fresh (gap : Nat) (dog : Watchdog) (watch : Watch) (fresh : dog.Fresh gap)
    (punctual : Punctual gap dog watch) : (dog.next watch).Fresh gap := by
  obtain ⟨_,forward,soon⟩ := punctual
  cases watch with
  | hear now =>
    refine ⟨fun _ => forward,?_⟩
    intro asked none
    cases none
  | check now =>
    refine ⟨(fun absent => nomatch absent),?_⟩
    intro asked first
    cases before : dog.asked with
    | some earlier =>
      have same : asked = earlier := by simpa [next,before] using first.symm
      rw [same]
      exact fresh.asked earlier before
    | none =>
      have same : asked = now := by simpa [next,before] using first.symm
      have idle := fresh.idle before
      change asked ≤ dog.heard + gap
      simp only [Watch.now] at soon
      omega

/-- A peer that answers in time is alive at every check. -/
theorem fresh_alive (gap delay : Nat) (dog : Watchdog) (watch : Watch) (fresh : dog.Fresh gap)
    (punctual : Punctual gap dog watch) (answered : Answered delay dog watch) : Alive (gap + delay) dog watch := by
  cases watch with
  | hear now => trivial
  | check now =>
    change now - dog.heard ≤ gap + delay
    have soon : now ≤ dog.checked + gap := punctual.2.2
    cases asked : dog.asked with
    | none =>
      have idle := fresh.idle asked
      omega
    | some first =>
      have early := fresh.asked first asked
      have prompt : now ≤ first + delay := answered first asked
      omega

/-- While every check passes, the last check is not past the limit. -/
theorem next_checked (limit : Nat) (dog : Watchdog) (watch : Watch) (forward : dog.checked ≤ watch.now)
    (alive : Alive limit dog watch) : (dog.next watch).checked ≤ (dog.next watch).heard + limit := by
  cases watch with
  | hear now =>
    change dog.checked ≤ now + limit
    exact Nat.le_add_right_of_le forward
  | check now =>
    change now ≤ dog.heard + limit
    have passes : now - dog.heard ≤ limit := alive
    omega

def step (dog : Watchdog) (watch : Watch) : Option Watchdog := some (dog.next watch)

/-- The sign and the checks of a whole run, in order. -/
def after (dog : Watchdog) (watches : List Watch) : Watchdog := watches.foldl next dog

theorem after_append (dog : Watchdog) (early late : List Watch) :
    dog.after (early ++ late) = (dog.after early).after late := by
  exact List.foldl_append

end Watchdog
end ClearCam.Library
