import Mathlib.Data.List.Basic

/-! A stream of frames that is taken up at any of its bytes. -/
namespace ClearCam.Library

/-- What is left of a stream of frames from any of its bytes on. -/
inductive Remains {Message Byte : Type*} (frame : Message → List Byte) : List Message → List Byte → Prop where
  | between (later : List Message) : Remains frame later (later.flatMap frame)
  | within (m : Message) (later : List Message) (front rest : List Byte) (cut : frame m = front ++ rest)
      (entered : front ≠ []) (unfinished : rest ≠ []) : Remains frame (m :: later) (rest ++ later.flatMap frame)

theorem remains_drop {Message Byte : Type*} (frame : Message → List Byte) (later : List Message) (n : Nat) :
    ∃ skipped kept, later = skipped ++ kept ∧ Remains frame kept ((later.flatMap frame).drop n) := by
  induction later generalizing n with
  | nil => exact ⟨[],[],rfl,by rw [List.flatMap_nil,List.drop_nil]; exact .between []⟩
  | cons m later ih =>
    rw [List.flatMap_cons]
    by_cases none_taken : n = 0
    · rw [none_taken,List.drop_zero,← List.flatMap_cons]
      exact ⟨[],m :: later,rfl,.between (m :: later)⟩
    · by_cases inside : n < (frame m).length
      · refine ⟨[],m :: later,rfl,?_⟩
        rw [List.drop_append_of_le_length (Nat.le_of_lt inside)]
        refine .within m later ((frame m).take n) ((frame m).drop n) (List.take_append_drop n (frame m)).symm ?_ ?_
        · intro empty
          have length := congrArg List.length empty
          rw [List.length_take,List.length_nil] at length
          omega
        · intro empty
          have length := congrArg List.length empty
          rw [List.length_drop,List.length_nil] at length
          omega
      · obtain ⟨skipped,kept,rfl,remains⟩ := ih (n - (frame m).length)
        refine ⟨m :: skipped,kept,rfl,?_⟩
        rw [List.drop_append,List.drop_eq_nil_of_le (Nat.le_of_not_lt inside),List.nil_append]
        exact remains

/-- Bytes are lost, and the frames they were of. -/
theorem Remains.drop {Message Byte : Type*} {frame : Message → List Byte} {later : List Message} {stream : List Byte}
    (remains : Remains frame later stream) (n : Nat) :
    ∃ skipped kept, later = skipped ++ kept ∧ Remains frame kept (stream.drop n) := by
  cases remains with
  | between => exact remains_drop frame later n
  | within m later front rest cut entered unfinished =>
    by_cases inside : n < rest.length
    · refine ⟨[],m :: later,rfl,?_⟩
      rw [List.drop_append_of_le_length (Nat.le_of_lt inside)]
      refine .within m later (front ++ rest.take n) (rest.drop n) ?_ ?_ ?_
      · rw [cut,List.append_assoc,List.take_append_drop]
      · intro empty
        exact entered (List.append_eq_nil_iff.mp empty).1
      · intro empty
        have length := congrArg List.length empty
        rw [List.length_drop,List.length_nil] at length
        omega
    · obtain ⟨skipped,kept,rfl,remains⟩ := remains_drop frame later (n - rest.length)
      refine ⟨m :: skipped,kept,rfl,?_⟩
      rw [List.drop_append,List.drop_eq_nil_of_le (Nat.le_of_not_lt inside),List.nil_append]
      exact remains

end ClearCam.Library
