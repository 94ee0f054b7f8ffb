import Mathlib.Data.List.Basic

/-! Partial labelled transition systems. A step that is not enabled gives nothing;
an execution is a list of labels, each enabled in the state it is taken in. -/
namespace ClearCam.Library

variable {State Label : Type}

def exec (step : State → Label → Option State) : State → List Label → Option State
  | s, [] => some s
  | s, label :: rest => (step s label).bind fun s' => exec step s' rest

/-- Every label of the execution meets `P` in the state it is taken in. -/
def Along (step : State → Label → Option State) (P : State → Label → Prop) : State → List Label → Prop
  | _, [] => True
  | s, label :: rest => P s label ∧ ∀ s', step s label = some s' → Along step P s' rest

instance decidableAlong (step : State → Label → Option State) (P : State → Label → Prop)
    [∀ s label, Decidable (P s label)] : (s : State) → (labels : List Label) →
    Decidable (Along step P s labels)
  | _, [] => .isTrue trivial
  | s, label :: rest =>
    match taken : step s label with
    | none => decidable_of_iff (P s label) (by simp [Along,taken])
    | some s' =>
      have := decidableAlong step P s' rest
      decidable_of_iff (P s label ∧ Along step P s' rest) (by simp [Along,taken])

theorem split_concat {α : Type} (xs before after : List α) (x item : α) :
    xs ++ [x] = before ++ item :: after ↔
      (before = xs ∧ item = x ∧ after = []) ∨ ∃ rest, after = rest ++ [x] ∧ xs = before ++ item :: rest := by
  constructor
  · intro split
    rcases List.eq_nil_or_concat after with rfl | ⟨rest,last,rfl⟩
    · obtain ⟨same,items⟩ := List.append_inj' split rfl
      exact Or.inl ⟨same.symm,(List.cons.inj items).1.symm,rfl⟩
    · have apart : xs ++ [x] = (before ++ item :: rest) ++ [last] := by
        rw [split,List.concat_eq_append,List.append_assoc,List.cons_append]
      obtain ⟨same,lasts⟩ := List.append_inj' apart rfl
      obtain rfl := (List.cons.inj lasts).1
      exact Or.inr ⟨rest,List.concat_eq_append,same⟩
  · intro either
    rcases either with ⟨rfl,rfl,rfl⟩ | ⟨rest,rfl,rfl⟩
    · rfl
    · rw [List.append_assoc,List.cons_append]

theorem exists_split_concat {α : Type} (xs : List α) (x : α) (P : List α → α → Prop) :
    (∃ before item after, xs ++ [x] = before ++ item :: after ∧ P before item) ↔
      (∃ before item after, xs = before ++ item :: after ∧ P before item) ∨ P xs x := by
  constructor
  · intro ⟨before,item,after,split,holds⟩
    rcases (split_concat xs before after x item).mp split with ⟨rfl,rfl,_⟩ | ⟨rest,_,earlier⟩
    · exact Or.inr holds
    · exact Or.inl ⟨before,item,rest,earlier,holds⟩
  · intro either
    rcases either with ⟨before,item,after,split,holds⟩ | holds
    · exact ⟨before,item,after ++ [x],by rw [split,List.append_assoc,List.cons_append],holds⟩
    · exact ⟨xs,x,[],rfl,holds⟩

variable (step : State → Label → Option State)

theorem exec_cons (s t : State) (label : Label) (rest : List Label) :
    exec step s (label :: rest) = some t ↔ ∃ s', step s label = some s' ∧ exec step s' rest = some t := by
  exact Option.bind_eq_some_iff

theorem exec_append (s : State) (first second : List Label) :
    exec step s (first ++ second) = (exec step s first).bind fun t => exec step t second := by
  induction first generalizing s with
  | nil => rfl
  | cons label rest ih =>
    simp only [List.cons_append,exec,Option.bind_assoc]
    congr 1
    funext s'
    exact ih s'

/-- The invariant rule. The step lemma may use that the label is one of the run's and
the condition it was taken under. -/
theorem exec_invariant (P : State → Label → Prop) (Inv : State → Prop) (labels : List Label)
    (preserved : ∀ s label s', label ∈ labels → Inv s → P s label → step s label = some s' → Inv s')
    (s t : State) (holds : Inv s) (along : Along step P s labels) (run : exec step s labels = some t) :
    Inv t := by
  induction labels generalizing s with
  | nil =>
    obtain rfl : s = t := by simpa [exec] using run
    exact holds
  | cons label rest ih =>
    obtain ⟨s',taken,later⟩ := (exec_cons step s t label rest).mp run
    have kept := preserved s label s' List.mem_cons_self holds along.1 taken
    refine ih ?_ s' kept (along.2 s' taken) later
    intro a other b member
    exact preserved a other b (List.mem_cons_of_mem label member)

theorem along_and (P Q : State → Label → Prop) (labels : List Label) (s : State)
    (left : Along step P s labels) (right : Along step Q s labels) :
    Along step (fun s label => P s label ∧ Q s label) s labels := by
  induction labels generalizing s with
  | nil => trivial
  | cons label rest ih =>
    exact ⟨⟨left.1,right.1⟩,fun s' taken => ih s' (left.2 s' taken) (right.2 s' taken)⟩

theorem along_iff (P : State → Label → Prop) (labels : List Label) (s : State) :
    Along step P s labels ↔ ∀ before label after t, labels = before ++ label :: after →
      exec step s before = some t → P t label := by
  induction labels generalizing s with
  | nil =>
    refine iff_of_true trivial ?_
    intro before label after t split
    simp at split
  | cons first rest ih =>
    constructor
    · intro along before label after t split run
      cases before with
      | nil =>
        obtain ⟨rfl,_⟩ := List.cons.inj split
        obtain rfl : s = t := by simpa [exec] using run
        exact along.1
      | cons head before =>
        obtain ⟨rfl,later⟩ := List.cons.inj split
        obtain ⟨s',taken,tail⟩ := (exec_cons step s t first before).mp run
        exact (ih s').mp (along.2 s' taken) before label after t later tail
    · intro every
      refine ⟨every [] first rest s rfl rfl,?_⟩
      intro s' taken
      apply (ih s').mpr
      intro before label after t split run
      refine every (first :: before) label after t (by rw [split,List.cons_append]) ?_
      exact (exec_cons step s t first before).mpr ⟨s',taken,run⟩

theorem along_trivial (labels : List Label) (s : State) : Along step (fun _ _ => True) s labels := by
  rw [along_iff]
  intros
  trivial

theorem along_snoc (P : State → Label → Prop) (labels : List Label) (label : Label) (s t : State)
    (run : exec step s labels = some t) :
    Along step P s (labels ++ [label]) ↔ Along step P s labels ∧ P t label := by
  induction labels generalizing s with
  | nil =>
    obtain rfl : s = t := by simpa [exec] using run
    exact ⟨fun along => ⟨trivial,along.1⟩,fun both => ⟨both.2,fun _ _ => trivial⟩⟩
  | cons first rest ih =>
    obtain ⟨s',taken,later⟩ := (exec_cons step s t first rest).mp run
    simp only [List.cons_append,Along,taken,Option.some.injEq,forall_eq',ih s' later]
    exact and_assoc.symm

/-- The invariant rule for what every step keeps. -/
theorem exec_kept (Inv : State → Prop) (labels : List Label)
    (kept : ∀ s label s', label ∈ labels → Inv s → step s label = some s' → Inv s')
    (s t : State) (holds : Inv s) (run : exec step s labels = some t) : Inv t := by
  refine exec_invariant step (fun _ _ => True) Inv labels ?_ s t holds (along_trivial step labels s) run
  intro before label after member still _ taken
  exact kept before label after member still taken

/-- The progress rule: where every step is enabled and keeps the invariant, so is every execution. -/
theorem exec_progress (Inv : State → Prop)
    (progress : ∀ s label, Inv s → ∃ s', step s label = some s' ∧ Inv s') (labels : List Label) (s : State)
    (holds : Inv s) : ∃ t, exec step s labels = some t ∧ Inv t := by
  induction labels generalizing s with
  | nil => exact ⟨s,rfl,holds⟩
  | cons label rest ih =>
    obtain ⟨s',taken,kept⟩ := progress s label holds
    obtain ⟨t,run,ends⟩ := ih s' kept
    exact ⟨t,(exec_cons step s t label rest).mpr ⟨s',taken,run⟩,ends⟩

/-- Two conditions that agree on every step from an invariant state agree along every execution. The
invariant need only be kept where the first is met. -/
theorem along_congr (Inv : State → Prop) (P Q : State → Label → Prop)
    (kept : ∀ s label s', Inv s → P s label → step s label = some s' → Inv s')
    (same : ∀ s label s', Inv s → step s label = some s' → (P s label ↔ Q s label)) (labels : List Label)
    (s t : State) (initially : Inv s) (run : exec step s labels = some t) :
    Along step P s labels ↔ Along step Q s labels := by
  induction labels generalizing s with
  | nil => exact Iff.rfl
  | cons label rest ih =>
    obtain ⟨s',taken,later⟩ := (exec_cons step s t label rest).mp run
    have head := same s label s' initially taken
    simp only [Along,taken,Option.some.injEq,forall_eq']
    constructor
    · intro along
      exact ⟨head.mp along.1,(ih s' (kept s label s' initially along.1 taken) later).mp along.2⟩
    · intro along
      have first := head.mpr along.1
      exact ⟨first,(ih s' (kept s label s' initially first taken) later).mpr along.2⟩

theorem along_append_left (P : State → Label → Prop) (before after : List Label) (s : State)
    (along : Along step P s (before ++ after)) : Along step P s before := by
  rw [along_iff] at along ⊢
  intro earlier label later t split
  exact along earlier label (later ++ after) t (by rw [split,List.append_assoc,List.cons_append])

theorem along_append_right (P : State → Label → Prop) (before after : List Label) (s t : State)
    (along : Along step P s (before ++ after)) (run : exec step s before = some t) : Along step P t after := by
  rw [along_iff] at along ⊢
  intro earlier label later r split reached
  refine along (before ++ earlier) label later r (by rw [split,List.append_assoc]) ?_
  rw [exec_append,run]
  exact reached

theorem along_append (P : State → Label → Prop) (before after : List Label) (s t : State)
    (run : exec step s before = some t) :
    Along step P s (before ++ after) ↔ Along step P s before ∧ Along step P t after := by
  constructor
  · intro along
    exact ⟨along_append_left step P before after s along,along_append_right step P before after s t along run⟩
  · intro both
    induction before generalizing s with
    | nil =>
      obtain rfl : s = t := by simpa [exec] using run
      exact both.2
    | cons label rest ih =>
      obtain ⟨s',taken,later⟩ := (exec_cons step s t label rest).mp run
      refine ⟨both.1.1,?_⟩
      intro other same
      obtain rfl : s' = other := Option.some.inj (taken.symm.trans same)
      exact ih s' later ⟨both.1.2 s' taken,both.2⟩

/-- The invariant rule for invariants that relate the state to the labels taken so far. -/
theorem exec_history (P : State → Label → Prop) (Inv : State → List Label → Prop)
    (preserved : ∀ s history label s', Inv s history → P s label → step s label = some s' →
      Inv s' (history ++ [label]))
    (labels : List Label) (s t : State) (history : List Label) (holds : Inv s history)
    (along : Along step P s labels) (run : exec step s labels = some t) : Inv t (history ++ labels) := by
  induction labels generalizing s history with
  | nil =>
    obtain rfl : s = t := by simpa [exec] using run
    rw [List.append_nil]
    exact holds
  | cons label rest ih =>
    obtain ⟨s',taken,later⟩ := (exec_cons step s t label rest).mp run
    have kept := preserved s history label s' holds along.1 taken
    rw [List.append_cons]
    exact ih s' (history ++ [label]) kept (along.2 s' taken) later

/-- The exactness rule: where a step keeps `Good` just when it meets `P`, an execution stays good in
every state it reaches just when all of its steps meet `P`. -/
theorem reached_iff_along (Inv Good : State → Prop) (P : State → Label → Prop)
    (kept : ∀ s label s', Inv s → step s label = some s' → Inv s')
    (exact : ∀ s label s', Inv s → Good s → step s label = some s' → (Good s' ↔ P s label))
    (labels : List Label) (s t : State) (initially : Inv s) (good : Good s)
    (run : exec step s labels = some t) :
    (∀ before after r, labels = before ++ after → exec step s before = some r → Good r) ↔
      Along step P s labels := by
  induction labels generalizing s with
  | nil =>
    refine iff_of_true ?_ trivial
    intro before after r split reached
    obtain ⟨rfl,_⟩ := List.append_eq_nil_iff.mp split.symm
    obtain rfl : s = r := by simpa [exec] using reached
    exact good
  | cons label rest ih =>
    obtain ⟨s',taken,later⟩ := (exec_cons step s t label rest).mp run
    have step_exact := exact s label s' initially good taken
    constructor
    · intro every
      have next : Good s' := every [label] rest s' rfl ((exec_cons step s s' label []).mpr ⟨s',taken,rfl⟩)
      refine ⟨step_exact.mp next,?_⟩
      intro other same
      obtain rfl : s' = other := Option.some.inj (taken.symm.trans same)
      refine (ih s' (kept s label s' initially taken) next later).mp ?_
      intro before after r split reached
      exact every (label :: before) after r (by rw [split,List.cons_append])
        ((exec_cons step s r label before).mpr ⟨s',taken,reached⟩)
    · intro along before after r split reached
      have next : Good s' := step_exact.mpr along.1
      cases before with
      | nil =>
        obtain rfl : s = r := by simpa [exec] using reached
        exact good
      | cons head before =>
        obtain ⟨rfl,tail⟩ := List.cons.inj split
        obtain ⟨other,same,reached⟩ := (exec_cons step s r label before).mp reached
        obtain rfl : s' = other := Option.some.inj (taken.symm.trans same)
        exact (ih s' (kept s label s' initially taken) next later).mpr (along.2 s' taken) before after r tail reached

/-- The simulation rule: what a fold over the labels tracks. -/
theorem exec_simulated {α : Type} (R : State → α → Prop) (next : α → Label → α)
    (simulated : ∀ s a label s', R s a → step s label = some s' → R s' (next a label))
    (labels : List Label) (s t : State) (a : α) (related : R s a) (run : exec step s labels = some t) :
    R t (labels.foldl next a) := by
  induction labels generalizing s a with
  | nil =>
    obtain rfl : s = t := by simpa [exec] using run
    exact related
  | cons label rest ih =>
    obtain ⟨s',taken,later⟩ := (exec_cons step s t label rest).mp run
    exact ih s' (next a label) (simulated s a label s' related taken) later

end ClearCam.Library
