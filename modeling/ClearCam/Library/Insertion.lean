import Mathlib.Data.List.Basic

/-! Two runs of one receiver, with and without some inserted inputs. A receiver that has
stopped takes no further input; what it does with an input is what can be observed after it. -/
namespace ClearCam.Library

structure Receiver (σ ι ω : Type) where
  step : σ → ι → σ
  stopped : σ → Bool
  observe : σ → ω

inductive Item (ι : Type) where
  | kept (input : ι)
  | inserted (input : ι)

namespace Receiver

variable {σ ι ω : Type} (receiver : Receiver σ ι ω)

def advance (s : σ) (input : ι) : σ := if receiver.stopped s then s else receiver.step s input

def final : σ → List (Item ι) → σ
  | s, [] => s
  | s, .kept input :: items => final (receiver.advance s input) items
  | s, .inserted input :: items => final (receiver.advance s input) items

/-- What is done with each kept input, and nothing for one that finds the receiver stopped. -/
def trace : σ → List (Item ι) → List (Option ω)
  | _, [] => []
  | s, .kept input :: items =>
    (if receiver.stopped s then none else some (receiver.observe (receiver.step s input))) ::
      trace (receiver.advance s input) items
  | s, .inserted input :: items => trace (receiver.advance s input) items

def withoutInserted : List (Item ι) → List (Item ι)
  | [] => []
  | .kept input :: items => .kept input :: withoutInserted items
  | .inserted _ :: items => withoutInserted items

/-- The insertions change nothing: not what is done with any other input, not what can be
observed at the end, and not whether the receiver is still there. -/
def Unaffected (s : σ) (items : List (Item ι)) : Prop :=
  receiver.trace s items = receiver.trace s (withoutInserted items) ∧
  receiver.observe (receiver.final s items) = receiver.observe (receiver.final s (withoutInserted items)) ∧
  receiver.stopped (receiver.final s items) = receiver.stopped (receiver.final s (withoutInserted items))

/-- Every insertion finds a receiver that the kept inputs before it have stopped. -/
def OnlyAfterEnd : σ → List (Item ι) → Prop
  | _, [] => True
  | s, .kept input :: items => OnlyAfterEnd (receiver.advance s input) items
  | s, .inserted _ :: items => receiver.stopped s = true ∧ OnlyAfterEnd s items

theorem advance_stopped (s : σ) (input : ι) (stopped : receiver.stopped s = true) : receiver.advance s input = s :=
  if_pos stopped

theorem final_stopped (s : σ) (items : List (Item ι)) (stopped : receiver.stopped s = true) :
    receiver.final s items = s := by
  induction items with
  | nil => rfl
  | cons item items ih =>
    cases item with
    | kept input => rw [final,receiver.advance_stopped s input stopped,ih]
    | inserted input => rw [final,receiver.advance_stopped s input stopped,ih]

/-- A stopped receiver does nothing with any input, and one that runs does something with the
next: the two leave different traces, unless there is no kept input to tell them apart. -/
theorem trace_apart (s t : σ) (items : List (Item ι)) (stopped : receiver.stopped s = true)
    (running : receiver.stopped t = false)
    (same : receiver.trace s items = receiver.trace t (withoutInserted items)) :
    withoutInserted items = [] := by
  induction items with
  | nil => rfl
  | cons item items ih =>
    cases item with
    | kept input => simp [withoutInserted,trace,stopped,running] at same
    | inserted input =>
      rw [trace,receiver.advance_stopped s input stopped] at same
      exact ih same

/-- Inputs that end a running receiver go unnoticed exactly when they come too late to. -/
theorem unaffected_iff (s : σ) (items : List (Item ι))
    (ends : ∀ input, .inserted input ∈ items → ∀ s, receiver.stopped s = false →
      receiver.stopped (receiver.step s input) = true) :
    receiver.Unaffected s items ↔ receiver.OnlyAfterEnd s items := by
  induction items generalizing s with
  | nil => simp [Unaffected,OnlyAfterEnd,withoutInserted]
  | cons item items ih =>
    have later : ∀ input, .inserted input ∈ items → ∀ s, receiver.stopped s = false →
        receiver.stopped (receiver.step s input) = true := by
      intro input member
      exact ends input (List.mem_cons_of_mem item member)
    cases item with
    | kept input =>
      rw [OnlyAfterEnd,← ih _ later]
      simp [Unaffected,withoutInserted,trace,final]
    | inserted input =>
      cases running : receiver.stopped s with
      | true =>
        have stays := receiver.advance_stopped s input running
        simp only [OnlyAfterEnd,running,true_and,← ih s later]
        simp only [Unaffected,withoutInserted,trace,final,stays]
      | false =>
        have moves : receiver.advance s input = receiver.step s input := by simp [advance,running]
        have ended := ends input List.mem_cons_self s running
        simp only [OnlyAfterEnd,running,Bool.false_eq_true,false_and,iff_false]
        intro unaffected
        obtain ⟨traces,_,ends⟩ := unaffected
        simp only [withoutInserted,trace,final,moves] at traces ends
        have nothing := receiver.trace_apart _ s items ended running traces
        rw [receiver.final_stopped _ items ended,ended,nothing,final,running] at ends
        cases ends

end Receiver

end ClearCam.Library
