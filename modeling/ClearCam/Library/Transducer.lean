import Mathlib.Data.List.Basic

/-! Deterministic transducers: a state, one output for each input. A trace keeps
every call with the state it found and the state it left, so that a statement
about "the k-th call" is a statement about one entry of a list. -/
namespace ClearCam.Library.Transducer

variable {State Input Output : Type*}

structure Entry (State Input Output : Type*) where
  before : State
  input : Input
  output : Output
  after : State

def entry (step : State → Input → State × Output) (s : State) (x : Input) : Entry State Input Output :=
  ⟨s,x,(step s x).2,(step s x).1⟩

def stateAfter (step : State → Input → State × Output) (s : State) (xs : List Input) : State :=
  xs.foldl (fun s x => (step s x).1) s

def trace (step : State → Input → State × Output) : State → List Input → List (Entry State Input Output)
  | _, [] => []
  | s, x :: xs => entry step s x :: trace step (step s x).1 xs

variable (step : State → Input → State × Output)

@[simp] theorem trace_length (s : State) (xs : List Input) : (trace step s xs).length = xs.length := by
  induction xs generalizing s with
  | nil => rfl
  | cons x xs ih => simp [trace,ih]

@[simp] theorem stateAfter_nil (s : State) : stateAfter step s [] = s := rfl

@[simp] theorem stateAfter_cons (s : State) (x : Input) (xs : List Input) :
    stateAfter step s (x :: xs) = stateAfter step (step s x).1 xs := rfl

theorem stateAfter_append (s : State) (xs ys : List Input) :
    stateAfter step s (xs ++ ys) = stateAfter step (stateAfter step s xs) ys := by
  simp [stateAfter]

theorem trace_append (s : State) (xs ys : List Input) :
    trace step s (xs ++ ys) = trace step s xs ++ trace step (stateAfter step s xs) ys := by
  induction xs generalizing s with
  | nil => rfl
  | cons x xs ih => simp [trace,ih]

theorem trace_take (s : State) (xs : List Input) (n : Nat) :
    (trace step s xs).take n = trace step s (xs.take n) := by
  induction xs generalizing s n with
  | nil => simp [trace]
  | cons x xs ih =>
    cases n with
    | zero => rfl
    | succ n => simp [trace,ih]

theorem trace_drop (s : State) (xs : List Input) (n : Nat) :
    (trace step s xs).drop n = trace step (stateAfter step s (xs.take n)) (xs.drop n) := by
  induction xs generalizing s n with
  | nil => simp [trace]
  | cons x xs ih =>
    cases n with
    | zero => rfl
    | succ n => simp [trace,ih]

theorem trace_getElem? (s : State) (xs : List Input) (k : Nat) :
    (trace step s xs)[k]? = xs[k]?.map (entry step (stateAfter step s (xs.take k))) := by
  induction xs generalizing s k with
  | nil => simp [trace]
  | cons x xs ih =>
    cases k with
    | zero => simp [trace]
    | succ k => simp [trace,ih]

/-- The j-th call leaves a state from which the calls strictly between lead to the
state the k-th call finds. -/
theorem trace_between (s : State) (xs : List Input) (j k : Nat) (a b : Entry State Input Output)
    (order : j < k) (first : (trace step s xs)[j]? = some a) (second : (trace step s xs)[k]? = some b) :
    ∃ middle, b.before = stateAfter step a.after middle ∧ middle.length = k - 1 - j ∧
      ((trace step s xs).take k).drop (j+1) = trace step a.after middle := by
  rw [trace_getElem?] at first second
  obtain ⟨x,present,rfl⟩ := Option.map_eq_some_iff.mp first
  obtain ⟨y,later,rfl⟩ := Option.map_eq_some_iff.mp second
  obtain ⟨bound,rfl⟩ := List.getElem?_eq_some_iff.mp present
  obtain ⟨limit,rfl⟩ := List.getElem?_eq_some_iff.mp later
  have left : stateAfter step s ((xs.take k).take (j+1)) =
      (step (stateAfter step s (xs.take j)) xs[j]).1 := by
    rw [List.take_take,Nat.min_eq_left (by omega : j+1 ≤ k),List.take_add_one,
      List.getElem?_eq_getElem bound,stateAfter_append]
    rfl
  refine ⟨(xs.take k).drop (j+1),?_,?_,?_⟩
  · change stateAfter step s (xs.take k) = stateAfter step (step _ _).1 _
    conv_lhs => rw [← List.take_append_drop (j+1) (xs.take k)]
    rw [stateAfter_append,left]
  · simp
    omega
  · rw [trace_take,trace_drop,left]
    rfl

theorem stateAfter_invariant (inv : State → Prop) (keeps : ∀ s x, inv s → inv (step s x).1)
    (s : State) (xs : List Input) (initial : inv s) : inv (stateAfter step s xs) := by
  induction xs generalizing s with
  | nil => exact initial
  | cons x xs ih => exact ih (step s x).1 (keeps s x initial)

theorem trace_mem (s : State) (xs : List Input) (e : Entry State Input Output)
    (member : e ∈ trace step s xs) : ∃ ys x, e = entry step (stateAfter step s ys) x := by
  obtain ⟨k,found⟩ := List.getElem?_of_mem member
  rw [trace_getElem?] at found
  obtain ⟨x,_,rfl⟩ := Option.map_eq_some_iff.mp found
  exact ⟨xs.take k,x,rfl⟩

theorem trace_invariant (inv : State → Prop) (keeps : ∀ s x, inv s → inv (step s x).1)
    (s : State) (xs : List Input) (initial : inv s) :
    ∀ e ∈ trace step s xs, inv e.before ∧ inv e.after := by
  intro e member
  obtain ⟨ys,x,rfl⟩ := trace_mem step s xs e member
  have reached := stateAfter_invariant step inv keeps s ys initial
  exact ⟨reached,keeps _ x reached⟩

theorem trace_entry (s : State) (xs : List Input) :
    ∀ e ∈ trace step s xs, e = entry step e.before e.input := by
  intro e member
  obtain ⟨ys,x,rfl⟩ := trace_mem step s xs e member
  rfl

/-- Times that keep a gap from one to the next keep it cumulatively: any n of them,
in order, span n-1 gaps. -/
theorem spaced_span (gap : Nat) (times chosen : List Nat) (spaced : times.Pairwise (fun a b => a + gap ≤ b))
    (sub : chosen.Sublist times) (first last : Nat) (head : chosen.head? = some first)
    (final : chosen.getLast? = some last) : first + gap * (chosen.length - 1) ≤ last := by
  have ordered := spaced.sublist sub
  clear sub spaced
  induction chosen generalizing first with
  | nil => simp at head
  | cons a rest ih =>
    have same : a = first := by simpa using head
    subst same
    cases rest with
    | nil =>
      have same : a = last := by simpa using final
      simp [same]
    | cons b rest =>
      obtain ⟨front,tail⟩ := List.pairwise_cons.mp ordered
      have gapped := front b (by simp)
      have rest := ih b rfl (by simpa using final) tail
      simp only [List.length_cons,Nat.add_sub_cancel] at rest ⊢
      rw [Nat.mul_succ]
      omega

end ClearCam.Library.Transducer
