import ClearCam.Library.Transition
import Mathlib.Data.List.Nodup

/-! The phone's `TransportListener` and the dials it listens to. The listener pairs what its two
ports accept by arrival alone; a stream stands here for the dial that opened it. -/
namespace ClearCam.Ios
open ClearCam.Library

structure InboundPair where
  control : Nat
  media : Nat
  deriving DecidableEq

/-- The actor's queues, and the pairs it has resumed its callers with, oldest first. -/
structure TransportListener where
  pendingControl : List Nat
  pendingMedia : List Nat
  sessionContinuations : List Nat
  delivered : List (Nat × InboundPair)
  deriving DecidableEq

namespace TransportListener

def tryMatchFrom (delivered : List (Nat × InboundPair)) : List Nat → List Nat → List Nat → TransportListener
  | continuation :: continuations, control :: controls, media :: medias =>
    tryMatchFrom (delivered ++ [(continuation,⟨control,media⟩)]) continuations controls medias
  | continuations, controls, medias => ⟨controls,medias,continuations,delivered⟩

def tryMatch (listener : TransportListener) : TransportListener :=
  tryMatchFrom listener.delivered listener.sessionContinuations listener.pendingControl listener.pendingMedia

def appendContinuation (listener : TransportListener) (continuation : Nat) : TransportListener :=
  {listener with sessionContinuations := listener.sessionContinuations ++ [continuation]}.tryMatch

def acceptControl (listener : TransportListener) (stream : Nat) : TransportListener :=
  {listener with pendingControl := listener.pendingControl ++ [stream]}.tryMatch

def acceptMedia (listener : TransportListener) (stream : Nat) : TransportListener :=
  {listener with pendingMedia := listener.pendingMedia ++ [stream]}.tryMatch

def controls (listener : TransportListener) : List Nat :=
  listener.delivered.map (fun entry => entry.2.control) ++ listener.pendingControl

def medias (listener : TransportListener) : List Nat :=
  listener.delivered.map (fun entry => entry.2.media) ++ listener.pendingMedia

def calls (listener : TransportListener) : List Nat :=
  listener.delivered.map (fun entry => entry.1) ++ listener.sessionContinuations

/-- Matching moves streams from the queues to the pairs, in order, and loses none. -/
theorem tryMatchFrom_queues (delivered : List (Nat × InboundPair)) (continuations controls medias : List Nat) :
    let matched := tryMatchFrom delivered continuations controls medias
    matched.controls = delivered.map (fun entry => entry.2.control) ++ controls ∧
      matched.medias = delivered.map (fun entry => entry.2.media) ++ medias ∧
      matched.calls = delivered.map (fun entry => entry.1) ++ continuations := by
  induction continuations generalizing delivered controls medias with
  | nil => exact ⟨rfl,rfl,rfl⟩
  | cons continuation continuations ih =>
    cases controls with
    | nil => exact ⟨rfl,rfl,rfl⟩
    | cons control controls =>
      cases medias with
      | nil => exact ⟨rfl,rfl,rfl⟩
      | cons media medias =>
        have rest := ih (delivered ++ [(continuation,⟨control,media⟩)]) controls medias
        simp only [List.map_append,List.map_cons,List.map_nil,List.append_assoc,List.singleton_append] at rest
        exact rest

/-- Nothing is left waiting that could have been matched. -/
theorem tryMatchFrom_drained (delivered : List (Nat × InboundPair)) (continuations controls medias : List Nat) :
    let matched := tryMatchFrom delivered continuations controls medias
    matched.sessionContinuations = [] ∨ matched.pendingControl = [] ∨ matched.pendingMedia = [] := by
  induction continuations generalizing delivered controls medias with
  | nil => exact .inl rfl
  | cons continuation continuations ih =>
    cases controls with
    | nil => exact .inr (.inl rfl)
    | cons control controls =>
      cases medias with
      | nil => exact .inr (.inr rfl)
      | cons media medias => exact ih _ controls medias

theorem acceptControl_queues (listener : TransportListener) (stream : Nat) :
    (listener.acceptControl stream).controls = listener.controls ++ [stream] ∧
      (listener.acceptControl stream).medias = listener.medias ∧
      (listener.acceptControl stream).calls = listener.calls := by
  have queues := tryMatchFrom_queues listener.delivered listener.sessionContinuations
    (listener.pendingControl ++ [stream]) listener.pendingMedia
  rw [← List.append_assoc] at queues
  exact queues

theorem acceptMedia_queues (listener : TransportListener) (stream : Nat) :
    (listener.acceptMedia stream).controls = listener.controls ∧
      (listener.acceptMedia stream).medias = listener.medias ++ [stream] ∧
      (listener.acceptMedia stream).calls = listener.calls := by
  have queues := tryMatchFrom_queues listener.delivered listener.sessionContinuations
    listener.pendingControl (listener.pendingMedia ++ [stream])
  rw [← List.append_assoc (listener.delivered.map fun entry => entry.2.media)] at queues
  exact queues

theorem appendContinuation_queues (listener : TransportListener) (continuation : Nat) :
    (listener.appendContinuation continuation).controls = listener.controls ∧
      (listener.appendContinuation continuation).medias = listener.medias ∧
      (listener.appendContinuation continuation).calls = listener.calls ++ [continuation] := by
  have queues := tryMatchFrom_queues listener.delivered (listener.sessionContinuations ++ [continuation])
    listener.pendingControl listener.pendingMedia
  rw [← List.append_assoc (listener.delivered.map fun entry => entry.1)] at queues
  exact queues

def Drained (listener : TransportListener) : Prop :=
  listener.sessionContinuations = [] ∨ listener.pendingControl = [] ∨ listener.pendingMedia = []

theorem tryMatch_drained (listener : TransportListener) : listener.tryMatch.Drained := by
  exact tryMatchFrom_drained _ _ _ _

/-- Pair by pair: the callback of one port with the callback of the other that ran as the same one in
its order, as far as calls are there to take them. -/
theorem delivered_iff (listener : TransportListener) (drained : listener.Drained) (P : Nat → Nat → Prop) :
    (∀ entry ∈ listener.delivered, P entry.2.control entry.2.media) ↔
      ∀ (i : Nat) (control media : Nat), i < listener.calls.length → listener.controls[i]? = some control →
        listener.medias[i]? = some media → P control media := by
  constructor
  · intro every i control media called first second
    rw [calls,List.length_append,List.length_map] at called
    rw [controls] at first
    rw [medias] at second
    have inside : i < listener.delivered.length := by
      by_contra beyond
      have one := (List.getElem?_eq_some_iff.mp first).1
      have two := (List.getElem?_eq_some_iff.mp second).1
      rw [List.length_append,List.length_map] at one two
      rcases drained with empty | empty | empty
      · rw [empty,List.length_nil] at called
        omega
      · rw [empty,List.length_nil] at one
        omega
      · rw [empty,List.length_nil] at two
        omega
    rw [List.getElem?_append_left (by rwa [List.length_map]),List.getElem?_map,
      List.getElem?_eq_getElem inside,Option.map_some,Option.some.injEq] at first second
    rw [← first,← second]
    exact every _ (List.getElem_mem inside)
  · intro agree entry member
    obtain ⟨i,inside,found⟩ := List.mem_iff_getElem.mp member
    refine agree i _ _ ?_ ?_ ?_
    · rw [calls,List.length_append,List.length_map]
      omega
    · rw [controls,List.getElem?_append_left (by rwa [List.length_map]),List.getElem?_map,
        List.getElem?_eq_getElem inside,found]
      rfl
    · rw [medias,List.getElem?_append_left (by rwa [List.length_map]),List.getElem?_map,
        List.getElem?_eq_getElem inside,found]
      rfl

end TransportListener

/-- The desktop's dials, one after the other, and the connections whose callbacks are still to run:
those of dials that are whole or under way, and the control connections of failed ones. -/
structure Dials where
  next : Nat
  dialing : Option Nat
  controlArriving : List Nat
  mediaArriving : List Nat
  stale : List Nat
  listener : TransportListener
  deriving DecidableEq

inductive DialLabel where
  | openControl
  | openMedia
  | failMedia
  | acceptControl (dial : Nat)
  | acceptStale (dial : Nat)
  | acceptMedia (dial : Nat)
  | nextSession (continuation : Nat)
  deriving DecidableEq

namespace Dials

def start : Dials := ⟨0,none,[],[],[],⟨[],[],[],[]⟩⟩

/-- `open_pair` and the listener's callbacks. The callbacks run in any order. -/
def step (s : Dials) : DialLabel → Option Dials
  | .openControl =>
    match s.dialing with
    | none => some {s with
        next := s.next + 1
        dialing := some s.next
        controlArriving := s.controlArriving ++ [s.next]}
    | some _ => none
  | .openMedia =>
    match s.dialing with
    | some dial => some {s with dialing := none, mediaArriving := s.mediaArriving ++ [dial]}
    | none => none
  | .failMedia =>
    match s.dialing with
    | some dial => some {s with
        dialing := none
        controlArriving := s.controlArriving.erase dial
        stale := s.stale ++ s.controlArriving.filter (· = dial)}
    | none => none
  | .acceptControl dial =>
    if dial ∈ s.controlArriving then some {s with
      controlArriving := s.controlArriving.erase dial
      listener := s.listener.acceptControl dial}
    else none
  | .acceptStale dial =>
    if dial ∈ s.stale then some {s with
      stale := s.stale.erase dial
      listener := s.listener.acceptControl dial}
    else none
  | .acceptMedia dial =>
    if dial ∈ s.mediaArriving then some {s with
      mediaArriving := s.mediaArriving.erase dial
      listener := s.listener.acceptMedia dial}
    else none
  | .nextSession continuation => some {s with listener := s.listener.appendContinuation continuation}

end Dials

inductive Dialed (s : Dials) : DialLabel → Dials → Prop where
  | controlOpened (idle : s.dialing = none) : Dialed s .openControl {s with
      next := s.next + 1
      dialing := some s.next
      controlArriving := s.controlArriving ++ [s.next]}
  | mediaOpened (dial : Nat) (under : s.dialing = some dial) :
      Dialed s .openMedia {s with dialing := none, mediaArriving := s.mediaArriving ++ [dial]}
  | mediaFailed (dial : Nat) (under : s.dialing = some dial) : Dialed s .failMedia {s with
      dialing := none
      controlArriving := s.controlArriving.erase dial
      stale := s.stale ++ s.controlArriving.filter (· = dial)}
  | controlAccepted (dial : Nat) (arriving : dial ∈ s.controlArriving) : Dialed s (.acceptControl dial) {s with
      controlArriving := s.controlArriving.erase dial
      listener := s.listener.acceptControl dial}
  | staleAccepted (dial : Nat) (arriving : dial ∈ s.stale) : Dialed s (.acceptStale dial) {s with
      stale := s.stale.erase dial
      listener := s.listener.acceptControl dial}
  | mediaAccepted (dial : Nat) (arriving : dial ∈ s.mediaArriving) : Dialed s (.acceptMedia dial) {s with
      mediaArriving := s.mediaArriving.erase dial
      listener := s.listener.acceptMedia dial}
  | called (continuation : Nat) : Dialed s (.nextSession continuation)
      {s with listener := s.listener.appendContinuation continuation}

theorem step_dialed (s s' : Dials) (label : DialLabel) (taken : s.step label = some s') : Dialed s label s' := by
  cases label with
  | nextSession continuation =>
    obtain rfl := Option.some.inj taken
    exact .called continuation
  | openControl =>
    rw [Dials.step] at taken
    split at taken
    · next idle =>
      obtain rfl := Option.some.inj taken
      exact .controlOpened idle
    · cases taken
  | openMedia =>
    rw [Dials.step] at taken
    split at taken
    · next dial under =>
      obtain rfl := Option.some.inj taken
      exact .mediaOpened dial under
    · cases taken
  | failMedia =>
    rw [Dials.step] at taken
    split at taken
    · next dial under =>
      obtain rfl := Option.some.inj taken
      exact .mediaFailed dial under
    · cases taken
  | acceptControl dial =>
    obtain ⟨arriving,same⟩ := Option.ite_none_right_eq_some.mp taken
    obtain rfl := Option.some.inj same
    exact .controlAccepted dial arriving
  | acceptStale dial =>
    obtain ⟨arriving,same⟩ := Option.ite_none_right_eq_some.mp taken
    obtain rfl := Option.some.inj same
    exact .staleAccepted dial arriving
  | acceptMedia dial =>
    obtain ⟨arriving,same⟩ := Option.ite_none_right_eq_some.mp taken
    obtain rfl := Option.some.inj same
    exact .mediaAccepted dial arriving

/-- The callbacks of the control port that a run has run, in their order. -/
def controlCallbacks (labels : List DialLabel) : List Nat := labels.filterMap fun
  | .acceptControl dial | .acceptStale dial => some dial
  | _ => none

def mediaCallbacks (labels : List DialLabel) : List Nat := labels.filterMap fun
  | .acceptMedia dial => some dial
  | _ => none

def sessionCalls (labels : List DialLabel) : List Nat := labels.filterMap fun
  | .nextSession continuation => some continuation
  | _ => none

/-- The listener has seen the run's callbacks, and nothing else. -/
structure Heard (s : Dials) (labels : List DialLabel) : Prop where
  controls : s.listener.controls = controlCallbacks labels
  medias : s.listener.medias = mediaCallbacks labels
  calls : s.listener.calls = sessionCalls labels
  drained : s.listener.Drained

theorem Heard.turn (s s' : Dials) (labels : List DialLabel) (label : DialLabel) (heard : Heard s labels)
    (control media call : List Nat)
    (queues : s'.listener.controls = s.listener.controls ++ control ∧
      s'.listener.medias = s.listener.medias ++ media ∧ s'.listener.calls = s.listener.calls ++ call)
    (labelled : controlCallbacks [label] = control ∧ mediaCallbacks [label] = media ∧ sessionCalls [label] = call)
    (drained : s'.listener.Drained) : Heard s' (labels ++ [label]) := by
  obtain ⟨rfl,rfl,rfl⟩ := labelled
  refine ⟨?_,?_,?_,drained⟩
  · rw [queues.1,heard.controls,controlCallbacks,controlCallbacks,controlCallbacks,List.filterMap_append]
  · rw [queues.2.1,heard.medias,mediaCallbacks,mediaCallbacks,mediaCallbacks,List.filterMap_append]
  · rw [queues.2.2,heard.calls,sessionCalls,sessionCalls,sessionCalls,List.filterMap_append]

theorem step_heard (s s' : Dials) (labels : List DialLabel) (label : DialLabel) (heard : Heard s labels)
    (taken : s.step label = some s') : Heard s' (labels ++ [label]) := by
  have aside (after : Dials) (same : after.listener = s.listener)
      (labelled : controlCallbacks [label] = [] ∧ mediaCallbacks [label] = [] ∧ sessionCalls [label] = []) :
      Heard after (labels ++ [label]) := by
    refine heard.turn s after labels label [] [] [] ?_ labelled ?_
    · rw [same,List.append_nil,List.append_nil,List.append_nil]
      exact ⟨rfl,rfl,rfl⟩
    · rw [same]
      exact heard.drained
  cases step_dialed s s' label taken with
  | controlOpened | mediaOpened | mediaFailed => exact aside _ rfl ⟨rfl,rfl,rfl⟩
  | controlAccepted dial arriving | staleAccepted dial arriving =>
    obtain ⟨controls,medias,calls⟩ := s.listener.acceptControl_queues dial
    refine heard.turn s _ labels _ [dial] [] [] ?_ ⟨rfl,rfl,rfl⟩ (TransportListener.tryMatch_drained _)
    rw [List.append_nil,List.append_nil]
    exact ⟨controls,medias,calls⟩
  | mediaAccepted dial arriving =>
    obtain ⟨controls,medias,calls⟩ := s.listener.acceptMedia_queues dial
    refine heard.turn s _ labels _ [] [dial] [] ?_ ⟨rfl,rfl,rfl⟩ (TransportListener.tryMatch_drained _)
    rw [List.append_nil,List.append_nil]
    exact ⟨controls,medias,calls⟩
  | called continuation =>
    obtain ⟨controls,medias,calls⟩ := s.listener.appendContinuation_queues continuation
    refine heard.turn s _ labels _ [] [] [continuation] ?_ ⟨rfl,rfl,rfl⟩ (TransportListener.tryMatch_drained _)
    rw [List.append_nil,List.append_nil]
    exact ⟨controls,medias,calls⟩

/-- A dial whose media port fails has not been seen by the listener and never will be, and each port's
callbacks run in the order of the dials. -/
def InOrder (s : Dials) : DialLabel → Prop
  | .failMedia => ∀ dial ∈ s.dialing, dial ∈ s.controlArriving
  | .acceptStale _ => False
  | .acceptControl dial => s.controlArriving.head? = some dial
  | .acceptMedia dial => s.mediaArriving.head? = some dial
  | _ => True

/-- The dials that have opened both ports are, in their order, those whose media the listener has and
those whose media is on its way; the dial under way comes after them. -/
structure InStep (s : Dials) (opened : List Nat) : Prop where
  distinct : (opened ++ s.dialing.toList).Nodup
  earlier : ∀ dial ∈ opened ++ s.dialing.toList, dial < s.next
  controls : opened ++ s.dialing.toList = s.listener.controls ++ s.controlArriving
  medias : opened = s.listener.medias ++ s.mediaArriving

theorem erase_head (items : List Nat) (item : Nat) (first : items.head? = some item) :
    items = item :: items.erase item := by
  obtain ⟨rest,rfl⟩ := List.head?_eq_some_iff.mp first
  rw [List.erase_cons_head]

/-- The dial under way is the last whose control connection is on its way. -/
theorem erase_last (opened seen arriving : List Nat) (dial : Nat) (distinct : (opened ++ [dial]).Nodup)
    (whole : opened ++ [dial] = seen ++ arriving) (member : dial ∈ arriving) :
    opened = seen ++ arriving.erase dial := by
  rcases List.eq_nil_or_concat arriving with rfl | ⟨init,last,rfl⟩
  · cases member
  · rw [List.concat_eq_append,← List.append_assoc] at whole
    obtain ⟨rfl,same⟩ := List.append_inj' whole rfl
    obtain rfl : dial = last := by simpa using same
    have absent : dial ∉ init := by
      intro early
      rw [List.nodup_append] at distinct
      exact distinct.2.2 dial (List.mem_append_right _ early) dial List.mem_cons_self rfl
    rw [List.concat_eq_append,List.erase_append_right _ absent,List.erase_cons_head,List.append_nil]

theorem step_inStep (s s' : Dials) (label : DialLabel) (opened : List Nat) (inStep : InStep s opened)
    (ordered : InOrder s label) (taken : s.step label = some s') : ∃ opened', InStep s' opened' := by
  have ⟨distinct,earlier,controls,medias⟩ := inStep
  cases step_dialed s s' label taken with
  | controlOpened idle =>
    rw [idle,Option.toList_none,List.append_nil] at distinct earlier controls
    refine ⟨opened,?_,?_,?_,medias⟩
    · refine List.nodup_append.mpr ⟨distinct,List.nodup_singleton _,?_⟩
      intro dial old fresh single same
      rw [Option.mem_toList] at single
      obtain rfl := Option.some.inj single
      exact absurd (earlier dial old) (by omega)
    · intro dial member
      rcases List.mem_append.mp member with old | new
      · exact Nat.lt_succ_of_lt (earlier dial old)
      · obtain rfl := Option.some.inj (Option.mem_toList.mp new)
        exact Nat.lt_succ_self _
    · change opened ++ [s.next] = s.listener.controls ++ (s.controlArriving ++ [s.next])
      rw [controls,List.append_assoc]
  | mediaOpened dial under =>
    rw [under,Option.toList_some] at distinct earlier controls
    refine ⟨opened ++ [dial],?_,?_,?_,?_⟩
    · change (opened ++ [dial] ++ []).Nodup
      rw [List.append_nil]
      exact distinct
    · change ∀ other ∈ opened ++ [dial] ++ [], other < s.next
      rw [List.append_nil]
      exact earlier
    · change opened ++ [dial] ++ [] = s.listener.controls ++ s.controlArriving
      rw [List.append_nil]
      exact controls
    · change opened ++ [dial] = s.listener.medias ++ (s.mediaArriving ++ [dial])
      rw [medias,List.append_assoc]
  | mediaFailed dial under =>
    have unseen := ordered dial under
    rw [under,Option.toList_some] at distinct earlier controls
    refine ⟨opened,?_,?_,?_,medias⟩
    · change (opened ++ []).Nodup
      rw [List.append_nil]
      exact (List.nodup_append.mp distinct).1
    · change ∀ other ∈ opened ++ [], other < s.next
      rw [List.append_nil]
      intro other member
      exact earlier other (List.mem_append_left _ member)
    · change opened ++ [] = s.listener.controls ++ s.controlArriving.erase dial
      rw [List.append_nil]
      exact erase_last opened _ _ dial distinct controls unseen
  | controlAccepted dial arriving =>
    obtain ⟨seen,same,_⟩ := s.listener.acceptControl_queues dial
    refine ⟨opened,distinct,earlier,?_,?_⟩
    · change opened ++ s.dialing.toList = (s.listener.acceptControl dial).controls ++ s.controlArriving.erase dial
      rw [seen,List.append_assoc,List.singleton_append,← erase_head _ _ ordered]
      exact controls
    · change opened = (s.listener.acceptControl dial).medias ++ s.mediaArriving
      rw [same]
      exact medias
  | staleAccepted dial arriving => exact ordered.elim
  | mediaAccepted dial arriving =>
    obtain ⟨same,seen,_⟩ := s.listener.acceptMedia_queues dial
    refine ⟨opened,distinct,earlier,?_,?_⟩
    · change opened ++ s.dialing.toList = (s.listener.acceptMedia dial).controls ++ s.controlArriving
      rw [same]
      exact controls
    · change opened = (s.listener.acceptMedia dial).medias ++ s.mediaArriving.erase dial
      rw [seen,List.append_assoc,List.singleton_append,← erase_head _ _ ordered]
      exact medias
  | called continuation =>
    obtain ⟨same,kept,_⟩ := s.listener.appendContinuation_queues continuation
    refine ⟨opened,distinct,earlier,?_,?_⟩
    · change opened ++ s.dialing.toList = (s.listener.appendContinuation continuation).controls ++ s.controlArriving
      rw [same]
      exact controls
    · change opened = (s.listener.appendContinuation continuation).medias ++ s.mediaArriving
      rw [kept]
      exact medias

/-- Both halves of the pairs are the same first dials, in their order. -/
theorem InStep.pairs (s : Dials) (opened : List Nat) (inStep : InStep s opened) :
    ∀ entry ∈ s.listener.delivered, entry.2.control = entry.2.media := by
  have controls := inStep.controls
  rw [inStep.medias,TransportListener.controls,TransportListener.medias] at controls
  simp only [List.append_assoc] at controls
  have same := List.append_inj_left controls (by rw [List.length_map,List.length_map])
  exact List.map_inj_left.mp same.symm

/-- Every pair is of one dial just when, position by position as far as there are calls, the callbacks
of the two ports are; and they are in every run whose callbacks keep the order of the dials and never
see half a dial. -/
theorem listener_pairs_iff (labels : List DialLabel) (s : Dials) (run : exec Dials.step .start labels = some s) :
    ((∀ entry ∈ s.listener.delivered, entry.2.control = entry.2.media) ↔
      ∀ (i : Nat) (control media : Nat), i < (sessionCalls labels).length →
        (controlCallbacks labels)[i]? = some control → (mediaCallbacks labels)[i]? = some media →
        control = media) ∧
    (Along Dials.step InOrder .start labels →
      ∀ entry ∈ s.listener.delivered, entry.2.control = entry.2.media) := by
  constructor
  · have heard : Heard s labels := by
      refine exec_history Dials.step (fun _ _ => True) Heard ?_ labels .start s [] ⟨rfl,rfl,rfl,.inl rfl⟩
        (along_trivial Dials.step labels .start) run
      intro before history label after heard _ taken
      exact step_heard before after history label heard taken
    rw [← heard.controls,← heard.medias,← heard.calls]
    exact s.listener.delivered_iff heard.drained (· = ·)
  · intro ordered
    have inStep : ∃ opened, InStep s opened := by
      refine exec_invariant Dials.step InOrder (fun s => ∃ opened, InStep s opened) labels ?_ .start s ?_ ordered run
      · intro before label after _ kept condition taken
        obtain ⟨opened,inStep⟩ := kept
        exact step_inStep before after label opened inStep condition taken
      · exact ⟨[],List.nodup_nil,fun _ member => (by cases member),rfl,rfl⟩
    obtain ⟨opened,inStep⟩ := inStep
    exact inStep.pairs s opened

instance decidableInOrder (s : Dials) (label : DialLabel) : Decidable (InOrder s label) :=
  match label with
  | .failMedia => inferInstanceAs (Decidable (∀ dial ∈ s.dialing, dial ∈ s.controlArriving))
  | .acceptStale _ => .isFalse id
  | .acceptControl dial => inferInstanceAs (Decidable (s.controlArriving.head? = some dial))
  | .acceptMedia dial => inferInstanceAs (Decidable (s.mediaArriving.head? = some dial))
  | .openControl | .openMedia | .nextSession _ => .isTrue trivial

def twoDials : List DialLabel :=
  [.nextSession 0,.openControl,.openMedia,.acceptMedia 0,.openControl,.acceptControl 0,.acceptControl 1,.openMedia,
    .acceptMedia 1,.nextSession 1]

theorem twoDials_paired :
    exec Dials.step .start twoDials = some ⟨2,none,[],[],[],⟨[],[],[],[(0,⟨0,0⟩),(1,⟨1,1⟩)]⟩⟩ ∧
    ∀ entry ∈ [(0,InboundPair.mk 0 0),(1,InboundPair.mk 1 1)], entry.2.control = entry.2.media := by
  have run : exec Dials.step .start twoDials = some ⟨2,none,[],[],[],⟨[],[],[],[(0,⟨0,0⟩),(1,⟨1,1⟩)]⟩⟩ := rfl
  exact ⟨run,(listener_pairs_iff twoDials _ run).2 (by decide)⟩

/-- The first dial loses its media port after the phone has taken its control connection. -/
def halfDial : List DialLabel :=
  [.openControl,.acceptControl 0,.failMedia,.openControl,.openMedia,.acceptControl 1,.acceptMedia 1,.nextSession 0]

theorem halfDial_mixed :
    exec Dials.step .start halfDial = some ⟨2,none,[],[],[],⟨[1],[],[],[(0,⟨0,1⟩)]⟩⟩ ∧
    ¬∀ entry ∈ [((0 : Nat),InboundPair.mk 0 1)], entry.2.control = entry.2.media := by
  exact ⟨rfl,by decide⟩

end ClearCam.Ios
