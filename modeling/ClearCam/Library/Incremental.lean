import Mathlib.Data.List.Basic

/-! Decoding a stream that arrives in pieces: items are split off the front of a buffer as
long as one is complete. -/
namespace ClearCam.Library

/-- A decoder of the front of a buffer. An item comes with the number of elements it takes,
which is never zero, and it stays the item when more input follows; `ok none` asks for
more. -/
structure Splitter (α ε β : Type) where
  next : List α → Except ε (Option (β × Nat))
  advances : ∀ buf item n, next buf = .ok (some (item,n)) → 0 < n ∧ n ≤ buf.length
  item_stable : ∀ buf more item n, next buf = .ok (some (item,n)) → next (buf ++ more) = .ok (some (item,n))

namespace Splitter

variable {α ε β : Type} (splitter : Splitter α ε β)

/-- Emits the complete items and keeps what is left. -/
def drain (buf : List α) : List β × List α :=
  match _found : splitter.next buf with
  | .ok (some (item,n)) =>
    let (items,rest) := drain (buf.drop n)
    (item :: items,rest)
  | _ => ([],buf)
termination_by buf.length
decreasing_by
  obtain ⟨positive,inside⟩ := splitter.advances buf item n _found
  rw [List.length_drop]
  omega

theorem drain_item (buf : List α) (item : β) (n : Nat) (found : splitter.next buf = .ok (some (item,n))) :
    splitter.drain buf = (item :: (splitter.drain (buf.drop n)).1,(splitter.drain (buf.drop n)).2) := by
  rw [drain]
  split
  · next other m same =>
    rw [found] at same
    cases same
    rfl
  · next other => exact absurd found (other item n)

theorem drain_stop (buf : List α) (stopped : ∀ item n, splitter.next buf ≠ .ok (some (item,n))) :
    splitter.drain buf = ([],buf) := by
  rw [drain]
  split
  · next item n found => exact absurd found (stopped item n)
  · rfl

/-- Draining early loses nothing: the items found so far, then those of the rest and the
new input. -/
theorem drain_append (buf more : List α) :
    splitter.drain (buf ++ more) =
      ((splitter.drain buf).1 ++ (splitter.drain ((splitter.drain buf).2 ++ more)).1,
        (splitter.drain ((splitter.drain buf).2 ++ more)).2) := by
  induction size : buf.length using Nat.strongRecOn generalizing buf with
  | ind size ih =>
    subst size
    by_cases stopped : ∀ item n, splitter.next buf ≠ .ok (some (item,n))
    · rw [splitter.drain_stop buf stopped]
      rfl
    · push Not at stopped
      obtain ⟨item,n,found⟩ := stopped
      obtain ⟨positive,inside⟩ := splitter.advances buf item n found
      have shorter : (buf.drop n).length < buf.length := by
        rw [List.length_drop]
        omega
      have later := ih (buf.drop n).length shorter (buf.drop n) rfl
      rw [splitter.drain_item _ item n (splitter.item_stable buf more item n found),
        List.drop_append_of_le_length inside,later,splitter.drain_item buf item n found]
      rfl

theorem drain_rest (buf : List α) : splitter.drain (splitter.drain buf).2 = ([],(splitter.drain buf).2) := by
  have twice := splitter.drain_append buf []
  rw [List.append_nil,List.append_nil] at twice
  have items := congrArg Prod.fst twice
  have rest := congrArg Prod.snd twice
  apply Prod.ext
  · exact List.self_eq_append_right.mp items
  · exact rest.symm

/-- One arrival: the chunk is appended to what was left, and the complete items are emitted. -/
def arrive (state : List β × List α) (chunk : List α) : List β × List α :=
  let (items,rest) := splitter.drain (state.2 ++ chunk)
  (state.1 ++ items,rest)

/-- The cuts of a stream do not matter. -/
theorem arrive_chunks (emitted : List β) (buf : List α) (chunks : List (List α))
    (drained : splitter.drain buf = ([],buf)) :
    chunks.foldl splitter.arrive (emitted,buf) =
      (emitted ++ (splitter.drain (buf ++ chunks.flatten)).1,(splitter.drain (buf ++ chunks.flatten)).2) := by
  induction chunks generalizing emitted buf with
  | nil => simp [drained]
  | cons chunk chunks ih =>
    have rest := splitter.drain_rest (buf ++ chunk)
    rw [List.foldl_cons,List.flatten_cons,← List.append_assoc,splitter.drain_append (buf ++ chunk)]
    change chunks.foldl splitter.arrive (emitted ++ (splitter.drain (buf ++ chunk)).1,
      (splitter.drain (buf ++ chunk)).2) = _
    rw [ih _ _ rest,List.append_assoc]

end Splitter

end ClearCam.Library
