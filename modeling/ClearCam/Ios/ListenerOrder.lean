import ClearCam.Ios.Listener
import Mathlib.Data.List.Induction

/-! What the listener makes of its arrivals alone, in whatever order the two ports and the callers of
`nextSession` come: the k-th call gets the k-th stream of each port. -/
namespace ClearCam.Ios

/-- A call of the actor that changes its queues. -/
inductive Arrival where
  | control (stream : Nat)
  | media (stream : Nat)
  | nextSession (continuation : Nat)
  -- the hook of the tests, which brings both streams at once
  | inject (control media : Nat)
  deriving DecidableEq

namespace TransportListener

def idle : TransportListener := ⟨[],[],[],[]⟩

def inject (listener : TransportListener) (control media : Nat) : TransportListener :=
  {listener with
    pendingControl := listener.pendingControl ++ [control]
    pendingMedia := listener.pendingMedia ++ [media]}.tryMatch

def receive (listener : TransportListener) : Arrival → TransportListener
  | .control stream => listener.acceptControl stream
  | .media stream => listener.acceptMedia stream
  | .nextSession continuation => listener.appendContinuation continuation
  | .inject control media => listener.inject control media

def after (arrivals : List Arrival) : TransportListener := arrivals.foldl receive idle

theorem inject_queues (listener : TransportListener) (control media : Nat) :
    (listener.inject control media).controls = listener.controls ++ [control] ∧
      (listener.inject control media).medias = listener.medias ++ [media] ∧
      (listener.inject control media).calls = listener.calls := by
  have queues := tryMatchFrom_queues listener.delivered listener.sessionContinuations
    (listener.pendingControl ++ [control]) (listener.pendingMedia ++ [media])
  rw [← List.append_assoc,← List.append_assoc (listener.delivered.map fun entry => entry.2.media)] at queues
  exact queues

end TransportListener

def Arrival.controls : Arrival → List Nat
  | .control stream | .inject stream _ => [stream]
  | _ => []

def Arrival.medias : Arrival → List Nat
  | .media stream | .inject _ stream => [stream]
  | _ => []

def Arrival.calls : Arrival → List Nat
  | .nextSession continuation => [continuation]
  | _ => []

open TransportListener

/-- All that has arrived is in a pair or in a queue, in its order. -/
structure Kept (arrivals : List Arrival) (listener : TransportListener) : Prop where
  controls : listener.controls = arrivals.flatMap Arrival.controls
  medias : listener.medias = arrivals.flatMap Arrival.medias
  calls : listener.calls = arrivals.flatMap Arrival.calls
  drained : listener.Drained

theorem receive_queues (listener : TransportListener) (arrival : Arrival) :
    (listener.receive arrival).controls = listener.controls ++ arrival.controls ∧
      (listener.receive arrival).medias = listener.medias ++ arrival.medias ∧
      (listener.receive arrival).calls = listener.calls ++ arrival.calls := by
  cases arrival with
  | control stream =>
    obtain ⟨controls,medias,calls⟩ := listener.acceptControl_queues stream
    exact ⟨controls,medias.trans (List.append_nil _).symm,calls.trans (List.append_nil _).symm⟩
  | media stream =>
    obtain ⟨controls,medias,calls⟩ := listener.acceptMedia_queues stream
    exact ⟨controls.trans (List.append_nil _).symm,medias,calls.trans (List.append_nil _).symm⟩
  | nextSession continuation =>
    obtain ⟨controls,medias,calls⟩ := listener.appendContinuation_queues continuation
    exact ⟨controls.trans (List.append_nil _).symm,medias.trans (List.append_nil _).symm,calls⟩
  | inject control media =>
    obtain ⟨controls,medias,calls⟩ := listener.inject_queues control media
    exact ⟨controls,medias,calls.trans (List.append_nil _).symm⟩

theorem receive_drained (listener : TransportListener) (arrival : Arrival) : (listener.receive arrival).Drained := by
  cases arrival with
  | control stream => exact tryMatch_drained _
  | media stream => exact tryMatch_drained _
  | nextSession continuation => exact tryMatch_drained _
  | inject control media => exact tryMatch_drained _

theorem Kept.receive {arrivals : List Arrival} {listener : TransportListener} (kept : Kept arrivals listener)
    (arrival : Arrival) : Kept (arrivals ++ [arrival]) (listener.receive arrival) := by
  obtain ⟨controls,medias,calls⟩ := receive_queues listener arrival
  refine ⟨?_,?_,?_,receive_drained listener arrival⟩
  · rw [controls,kept.controls,List.flatMap_append,List.flatMap_singleton]
  · rw [medias,kept.medias,List.flatMap_append,List.flatMap_singleton]
  · rw [calls,kept.calls,List.flatMap_append,List.flatMap_singleton]

theorem after_kept (arrivals : List Arrival) : Kept arrivals (after arrivals) := by
  induction arrivals using List.reverseRecOn with
  | nil => exact ⟨rfl,rfl,rfl,.inl rfl⟩
  | append_singleton arrivals arrival ih =>
    have next : after (arrivals ++ [arrival]) = (after arrivals).receive arrival := List.foldl_concat ..
    rw [next]
    exact ih.receive arrival

/-- Three sequences taken together, position by position, as far as all of them go. -/
def pairings (calls controls medias : List Nat) : List (Nat × InboundPair) :=
  calls.zip (List.zipWith InboundPair.mk controls medias)

theorem pairings_append (calls controls medias calls' controls' medias' : List Nat)
    (sameControls : calls.length = controls.length) (sameMedias : controls.length = medias.length) :
    pairings (calls ++ calls') (controls ++ controls') (medias ++ medias') =
      pairings calls controls medias ++ pairings calls' controls' medias' := by
  unfold pairings
  rw [List.zipWith_append sameMedias,List.zip_append]
  rw [List.length_zipWith,← sameMedias,Nat.min_self]
  exact sameControls

theorem pairings_delivered (delivered : List (Nat × InboundPair)) :
    pairings (delivered.map fun entry => entry.1) (delivered.map fun entry => entry.2.control)
      (delivered.map fun entry => entry.2.media) = delivered := by
  induction delivered with
  | nil => rfl
  | cons entry delivered ih => exact congrArg (entry :: ·) ih

/-- Once a queue is empty the pairs are all that can be paired. -/
theorem delivered_eq (listener : TransportListener) (drained : listener.Drained) :
    listener.delivered = pairings listener.calls listener.controls listener.medias := by
  have rest : pairings listener.sessionContinuations listener.pendingControl listener.pendingMedia = [] := by
    unfold pairings
    rcases drained with none | none | none
    · rw [none,List.zip_nil_left]
    · rw [none,List.zipWith_nil_left,List.zip_nil_right]
    · rw [none,List.zipWith_nil_right,List.zip_nil_right]
  rw [calls,controls,medias,pairings_append,pairings_delivered,rest,List.append_nil]
  · rw [List.length_map,List.length_map]
  · rw [List.length_map,List.length_map]

theorem pairings_getElem (calls controls medias : List Nat) (k : Nat) (entry : Nat × InboundPair) :
    (pairings calls controls medias)[k]? = some entry ↔
      calls[k]? = some entry.1 ∧ controls[k]? = some entry.2.control ∧ medias[k]? = some entry.2.media := by
  unfold pairings
  rw [List.getElem?_zip_eq_some,List.getElem?_zipWith_eq_some]
  apply and_congr_right
  intro _
  constructor
  · intro ⟨control,media,first,second,same⟩
    rw [← same]
    exact ⟨first,second⟩
  · intro ⟨first,second⟩
    exact ⟨_,_,first,second,rfl⟩

theorem pairings_prefix (calls controls medias calls' controls' medias' : List Nat) :
    pairings calls controls medias <+: pairings (calls ++ calls') (controls ++ controls') (medias ++ medias') := by
  rw [List.prefix_iff_getElem?]
  intro k inside
  obtain ⟨call,control,media⟩ := (pairings_getElem calls controls medias k _).mp (List.getElem?_eq_getElem inside)
  rw [pairings_getElem]
  have stays : ∀ (items more : List Nat) (item : Nat), items[k]? = some item → (items ++ more)[k]? = some item := by
    intro items more item found
    rw [List.getElem?_append_left (List.getElem?_eq_some_iff.mp found).1]
    exact found
  exact ⟨stays _ _ _ call,stays _ _ _ control,stays _ _ _ media⟩

/-- The k-th call is resumed once the k-th streams are there, with these and for good; what is not in a
pair waits in its order, and never on all three sides. -/
theorem listener_pairs_in_order (arrivals : List Arrival) :
    let calls := arrivals.flatMap Arrival.calls
    let controls := arrivals.flatMap Arrival.controls
    let medias := arrivals.flatMap Arrival.medias
    (∀ (k : Nat) (entry : Nat × InboundPair), (after arrivals).delivered[k]? = some entry ↔
      calls[k]? = some entry.1 ∧ controls[k]? = some entry.2.control ∧ medias[k]? = some entry.2.media) ∧
    (calls = (after arrivals).delivered.map (fun entry => entry.1) ++ (after arrivals).sessionContinuations ∧
      controls = (after arrivals).delivered.map (fun entry => entry.2.control) ++ (after arrivals).pendingControl ∧
      medias = (after arrivals).delivered.map (fun entry => entry.2.media) ++ (after arrivals).pendingMedia) ∧
    (after arrivals).Drained ∧
    ∀ later, (after arrivals).delivered <+: (after (arrivals ++ later)).delivered := by
  intro calls controls medias
  have kept := after_kept arrivals
  have paired : (after arrivals).delivered = pairings calls controls medias := by
    rw [delivered_eq _ kept.drained,kept.calls,kept.controls,kept.medias]
  refine ⟨?_,⟨kept.calls.symm,kept.controls.symm,kept.medias.symm⟩,kept.drained,?_⟩
  · intro k entry
    rw [paired]
    exact pairings_getElem calls controls medias k entry
  · intro later
    have also := after_kept (arrivals ++ later)
    rw [paired,delivered_eq _ also.drained,also.calls,also.controls,also.medias,List.flatMap_append,
      List.flatMap_append,List.flatMap_append]
    exact pairings_prefix _ _ _ _ _ _

end ClearCam.Ios
