import ClearCam.Library.Transition

/-! Two parties on one reliable connection. A party is a partial transition system that reads
messages and keeps a record of what it has written; the connection hands each of them, in order and
at any later time, what the other has written. -/
namespace ClearCam.Library

structure Party (State Event In Out : Type) where
  step : State → Event → Option State
  reads : Event → Option In
  wrote : State → List Out
  appends : ∀ s event s', step s event = some s' → wrote s <+: wrote s'

namespace Party

variable {State Event In Out : Type} (party : Party State Event In Out)

/-- How far into the other party's record a party has read after an event, if it can take the event. -/
def advance [DecidableEq In] (stream : List In) (read : Nat) (event : Event) : Option Nat :=
  match party.reads event with
  | none => some read
  | some message => if stream[read]? = some message then some (read + 1) else none

/-- What a party has read in a run of its own. -/
def heard (events : List Event) : List In := events.filterMap party.reads

theorem heard_append (before after : List Event) :
    party.heard (before ++ after) = party.heard before ++ party.heard after := by
  exact List.filterMap_append

theorem advance_heard [DecidableEq In] (stream : List In) (read next : Nat) (event : Event)
    (inside : read ≤ stream.length) (advanced : party.advance stream read event = some next) :
    next ≤ stream.length ∧ stream.take next = stream.take read ++ party.heard [event] := by
  unfold advance at advanced
  cases reads : party.reads event with
  | none =>
    rw [reads] at advanced
    obtain rfl := Option.some.inj advanced
    refine ⟨inside,?_⟩
    simp [heard,reads]
  | some message =>
    simp only [reads] at advanced
    split at advanced
    · next found =>
      obtain rfl := Option.some.inj advanced
      obtain ⟨bound,_⟩ := List.getElem?_eq_some_iff.mp found
      refine ⟨bound,?_⟩
      rw [List.take_add_one,found]
      simp [heard,reads]
    · cases advanced

end Party

/-- A connection: its two parties, and how much of the other's record each has read. -/
structure Duplex (A B : Type) where
  left : A
  right : B
  leftRead : Nat
  rightRead : Nat

inductive Duplex.Turn (E F : Type) where
  | left (event : E)
  | right (event : F)
  deriving DecidableEq

namespace Duplex

variable {A B E F M N : Type} (P : Party A E N M) (Q : Party B F M N)

def start (left : A) (right : B) : Duplex A B := ⟨left,right,0,0⟩

def lefts (turns : List (Turn E F)) : List E := turns.filterMap fun
  | .left event => some event
  | .right _ => none

def rights (turns : List (Turn E F)) : List F := turns.filterMap fun
  | .left _ => none
  | .right event => some event

@[simp] theorem lefts_append (before after : List (Turn E F)) :
    lefts (before ++ after) = lefts before ++ lefts after := List.filterMap_append

@[simp] theorem rights_append (before after : List (Turn E F)) :
    rights (before ++ after) = rights before ++ rights after := List.filterMap_append

/-- A run of a connection is a run of each party by itself, and what a party has read is the front of
what the other has written. -/
structure Projects (left : A) (right : B) (link : Duplex A B) (turns : List (Turn E F)) : Prop where
  left : exec P.step left (lefts turns) = some link.left
  right : exec Q.step right (rights turns) = some link.right
  leftInside : link.leftRead ≤ (Q.wrote link.right).length
  rightInside : link.rightRead ≤ (P.wrote link.left).length
  leftHeard : P.heard (lefts turns) = (Q.wrote link.right).take link.leftRead
  rightHeard : Q.heard (rights turns) = (P.wrote link.left).take link.rightRead

variable [DecidableEq M] [DecidableEq N]

def step (link : Duplex A B) : Turn E F → Option (Duplex A B)
  | .left event => do
    let read ← P.advance (Q.wrote link.right) link.leftRead event
    let left ← P.step link.left event
    return {link with left := left, leftRead := read}
  | .right event => do
    let read ← Q.advance (P.wrote link.left) link.rightRead event
    let right ← Q.step link.right event
    return {link with right := right, rightRead := read}

theorem step_left (link after : Duplex A B) (event : E) (taken : step P Q link (.left event) = some after) :
    ∃ read left, P.advance (Q.wrote link.right) link.leftRead event = some read ∧
      P.step link.left event = some left ∧ after = {link with left := left, leftRead := read} := by
  obtain ⟨read,advanced,taken⟩ := Option.bind_eq_some_iff.mp taken
  obtain ⟨left,stepped,taken⟩ := Option.bind_eq_some_iff.mp taken
  exact ⟨read,left,advanced,stepped,(Option.some.inj taken).symm⟩

theorem step_right (link after : Duplex A B) (event : F) (taken : step P Q link (.right event) = some after) :
    ∃ read right, Q.advance (P.wrote link.left) link.rightRead event = some read ∧
      Q.step link.right event = some right ∧ after = {link with right := right, rightRead := read} := by
  obtain ⟨read,advanced,taken⟩ := Option.bind_eq_some_iff.mp taken
  obtain ⟨right,stepped,taken⟩ := Option.bind_eq_some_iff.mp taken
  exact ⟨read,right,advanced,stepped,(Option.some.inj taken).symm⟩

theorem step_projects (left : A) (right : B) (link after : Duplex A B) (turns : List (Turn E F))
    (turn : Turn E F) (projects : Projects P Q left right link turns)
    (taken : step P Q link turn = some after) : Projects P Q left right after (turns ++ [turn]) := by
  cases turn with
  | left event =>
    obtain ⟨read,left',advanced,stepped,rfl⟩ := step_left P Q link after event taken
    obtain ⟨inside,heard⟩ := P.advance_heard _ _ _ event projects.leftInside advanced
    have grown := P.appends _ _ _ stepped
    have kept : (P.wrote left').take link.rightRead = (P.wrote link.left).take link.rightRead := by
      obtain ⟨more,same⟩ := grown
      rw [← same,List.take_append_of_le_length projects.rightInside]
    have same : lefts (turns ++ [.left event]) = lefts turns ++ [event] := lefts_append turns [.left event]
    have others : rights (turns ++ [.left event]) = rights turns := by
      rw [rights_append]
      exact List.append_nil _
    refine ⟨?_,?_,inside,Nat.le_trans projects.rightInside grown.length_le,?_,?_⟩
    · rw [same,exec_append,projects.left,Option.bind_some,exec,stepped]
      rfl
    · rw [others]
      exact projects.right
    · rw [same,P.heard_append,projects.leftHeard]
      exact heard.symm
    · rw [others,projects.rightHeard,← kept]
  | right event =>
    obtain ⟨read,right',advanced,stepped,rfl⟩ := step_right P Q link after event taken
    obtain ⟨inside,heard⟩ := Q.advance_heard _ _ _ event projects.rightInside advanced
    have grown := Q.appends _ _ _ stepped
    have kept : (Q.wrote right').take link.leftRead = (Q.wrote link.right).take link.leftRead := by
      obtain ⟨more,same⟩ := grown
      rw [← same,List.take_append_of_le_length projects.leftInside]
    have same : rights (turns ++ [.right event]) = rights turns ++ [event] := rights_append turns [.right event]
    have others : lefts (turns ++ [.right event]) = lefts turns := by
      rw [lefts_append]
      exact List.append_nil _
    refine ⟨?_,?_,Nat.le_trans projects.leftInside grown.length_le,inside,?_,?_⟩
    · rw [others]
      exact projects.left
    · rw [same,exec_append,projects.right,Option.bind_some,exec,stepped]
      rfl
    · rw [others,projects.leftHeard,← kept]
    · rw [same,Q.heard_append,projects.rightHeard]
      exact heard.symm

theorem run_projects (left : A) (right : B) (link : Duplex A B) (turns : List (Turn E F))
    (run : exec (step P Q) (start left right) turns = some link) : Projects P Q left right link turns := by
  refine exec_history (step P Q) (fun _ _ => True) (Projects P Q left right) ?_ turns (start left right) link [] ?_
    (along_trivial (step P Q) turns _) run
  · intro before history turn after projects _ taken
    exact step_projects P Q left right before after history turn projects taken
  · exact ⟨rfl,rfl,Nat.zero_le _,Nat.zero_le _,rfl,rfl⟩

theorem run_grows (link last : Duplex A B) (turns : List (Turn E F)) (run : exec (step P Q) link turns = some last) :
    P.wrote link.left <+: P.wrote last.left ∧ Q.wrote link.right <+: Q.wrote last.right := by
  refine exec_kept (step P Q) (fun r => P.wrote link.left <+: P.wrote r.left ∧ Q.wrote link.right <+: Q.wrote r.right)
    turns ?_ link last ⟨List.prefix_rfl,List.prefix_rfl⟩ run
  intro before turn after _ kept taken
  cases turn with
  | left event =>
    obtain ⟨_,left,_,stepped,rfl⟩ := step_left P Q before after event taken
    exact ⟨kept.1.trans (P.appends _ _ _ stepped),kept.2⟩
  | right event =>
    obtain ⟨_,right,_,stepped,rfl⟩ := step_right P Q before after event taken
    exact ⟨kept.1,kept.2.trans (Q.appends _ _ _ stepped)⟩

end Duplex
end ClearCam.Library
