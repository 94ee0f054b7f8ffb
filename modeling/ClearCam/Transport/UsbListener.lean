import Mathlib.Logic.Function.Basic
import ClearCam.Transport.UsbPolling

/-! The event loop of `IdeviceConductor::subscribe`: what usbmuxd's listen stream says, passed on with
the udid of each device that goes. -/
namespace ClearCam.Transport.Usb
open ClearCam.Library

/-- idevice's connection type; the address and the text that two of its cases carry are not read. -/
inductive Connection where
  | usb | network | unknown
  deriving DecidableEq

structure UsbmuxdDevice where
  deviceId : UInt32
  udid : String
  connectionType : Connection
  deriving DecidableEq

inductive ListenItem where
  | connected (dev : UsbmuxdDevice)
  | disconnected (id : UInt32)
  | error
  deriving DecidableEq

def mapDevice (d : UsbmuxdDevice) : UsbDevice :=
  let connection := match d.connectionType with
    | .usb => .usb
    | .network | .unknown => .network
  ⟨d.deviceId,d.udid,connection,none⟩

structure Listener where
  known : UInt32 → Option String
  sent : List UsbEvent
  returned : Bool

def Listener.start : Listener := ⟨fun _ => none,[],false⟩

/-- `tx.send`, which fails where the receiver was dropped; the loop then returns. -/
def Listener.send (s : Listener) (event : UsbEvent) (receiving : Bool) : Listener :=
  if receiving then { s with sent := s.sent ++ [event] } else { s with returned := true }

/-- One turn of the loop, with whether the receiver is still there. -/
def Listener.hear (s : Listener) (label : ListenItem × Bool) : Option Listener :=
  if s.returned then none
  else
    match label.1 with
    | .connected dev =>
      let mapped := mapDevice dev
      if mapped.connection = .usb then
        some (({ s with known := Function.update s.known mapped.id (some mapped.udid) } : Listener).send
          (.connected mapped) label.2)
      else some s
    | .disconnected id =>
      let udid := (s.known id).getD ""
      some (({ s with known := Function.update s.known id none } : Listener).send (.lost id udid) label.2)
    | .error => some { s with returned := true }

def changes (sent : List UsbEvent) : List (Change (UInt32 × String)) := sent.map UsbEvent.change

/-- No `Connected` with the id is out. -/
def NeverAnnounced (sent : List UsbEvent) (id : UInt32) : Prop := ∀ dev, .connected dev ∈ sent → dev.id ≠ id

/-- What one item is to do to the events: no `Lost` without an unmatched `Connected` of its id and udid,
one `Lost` for an announced device that goes, none for a device never announced. -/
structure WellFormed (s : Listener) (label : ListenItem × Bool) (s' : Listener) : Prop where
  covered : Change.Covered (changes s'.sent)
  announced : ∀ id udid, label = (.disconnected id,true) → Change.Unmatched (changes s.sent) (id,udid) →
    ∃ owner, Change.Unmatched (changes s.sent) (id,owner) ∧ s'.sent = s.sent ++ [.lost id owner]
  filtered : ∀ dev, label.1 = .connected dev → dev.connectionType ≠ .usb → s'.sent = s.sent
  unannounced : ∀ id, label.1 = .disconnected id → NeverAnnounced s.sent id → s'.sent = s.sent

/-- A disconnect that is passed on is of a device the loop still knows, or finds an unmatched `Connected`
with its id and no udid. -/
def Attributed (s : Listener) : ListenItem × Bool → Prop
  | (.disconnected id,true) => s.known id ≠ none ∨ Change.Unmatched (changes s.sent) (id,"")
  | _ => True

instance (s : Listener) (label : ListenItem × Bool) : Decidable (Attributed s label) :=
  match label with
  | (.disconnected id,true) =>
    inferInstanceAs (Decidable (s.known id ≠ none ∨ Change.Unmatched (changes s.sent) (id,"")))
  | (.disconnected _,false) => .isTrue trivial
  | (.connected _,_) => .isTrue trivial
  | (.error,_) => .isTrue trivial

/-- While the loop runs, a device that it knows has arrived and has not left since. -/
def Listener.Mirrors (s : Listener) : Prop := s.returned = false → ∀ id udid, s.known id = some udid →
  ∃ before after, changes s.sent = before ++ .arrived (id,udid) :: after ∧ .left (id,udid) ∉ after

theorem changes_concat (sent : List UsbEvent) (event : UsbEvent) :
    changes (sent ++ [event]) = changes sent ++ [event.change] := List.map_append

/-- All that one turn can do: say nothing, announce a device, or report one lost. -/
theorem hear_cases (s s' : Listener) (label : ListenItem × Bool) (taken : s.hear label = some s') :
    (s'.sent = s.sent ∧ (s'.known = s.known ∨ s'.returned = true) ∧ ∀ id, label ≠ (.disconnected id,true)) ∨
    (∃ dev, label = (.connected dev,true) ∧ dev.connectionType = .usb ∧
      s'.known = Function.update s.known dev.deviceId (some dev.udid) ∧
      s'.sent = s.sent ++ [.connected (mapDevice dev)]) ∨
    (∃ id, label = (.disconnected id,true) ∧ s'.known = Function.update s.known id none ∧
      s'.sent = s.sent ++ [.lost id ((s.known id).getD "")]) := by
  obtain ⟨item,receiving⟩ := label
  unfold Listener.hear at taken
  split at taken
  · exact nomatch taken
  · cases item with
    | connected dev =>
      have kind : (mapDevice dev).connection = .usb ↔ dev.connectionType = .usb := by
        unfold mapDevice
        cases dev.connectionType <;> simp
      simp only [kind] at taken
      split at taken
      · rename_i attached
        obtain rfl := Option.some.inj taken
        cases receiving with
        | true => exact Or.inr (Or.inl ⟨dev,rfl,attached,rfl,rfl⟩)
        | false => exact Or.inl ⟨rfl,Or.inr rfl,fun _ => by simp⟩
      · obtain rfl := Option.some.inj taken
        exact Or.inl ⟨rfl,Or.inl rfl,fun _ => by simp⟩
    | disconnected id =>
      obtain rfl := Option.some.inj taken
      cases receiving with
      | true => exact Or.inr (Or.inr ⟨id,rfl,rfl,rfl⟩)
      | false => exact Or.inl ⟨rfl,Or.inr rfl,fun _ => by simp⟩
    | error =>
      obtain rfl := Option.some.inj taken
      exact Or.inl ⟨rfl,Or.inl rfl,fun _ => by simp⟩

theorem hear_running (s s' : Listener) (label : ListenItem × Bool) (taken : s.hear label = some s') :
    s.returned = false := by
  unfold Listener.hear at taken
  split at taken
  · exact nomatch taken
  · rename_i running
    exact Bool.eq_false_of_not_eq_true running

theorem hear_mirrors (s s' : Listener) (label : ListenItem × Bool) (mirrors : s.Mirrors)
    (taken : s.hear label = some s') : s'.Mirrors := by
  have mirrors := mirrors (hear_running s s' label taken)
  intro running id udid known
  have later (change : Change (UInt32 × String)) (other : .left (id,udid) ≠ change) (still : s.known id = some udid)
      (sent : changes s'.sent = changes s.sent ++ [change]) :
      ∃ before after, changes s'.sent = before ++ .arrived (id,udid) :: after ∧ .left (id,udid) ∉ after := by
    obtain ⟨before,after,split,stays⟩ := mirrors id udid still
    refine ⟨before,after ++ [change],by rw [sent,split,List.append_assoc,List.cons_append],?_⟩
    simp [stays,other]
  rcases hear_cases s s' label taken with ⟨quiet,same,_⟩ | ⟨dev,_,_,table,sent⟩ | ⟨gone,_,table,sent⟩
  · rcases same with same | ended
    · rw [quiet]
      exact mirrors id udid (same ▸ known)
    · exact nomatch ended.symm.trans running
  · have sent : changes s'.sent = changes s.sent ++ [.arrived (dev.deviceId,dev.udid)] := by
      rw [sent,changes_concat]
      rfl
    rw [table] at known
    by_cases own : id = dev.deviceId
    · obtain rfl := own
      rw [Function.update_self] at known
      obtain rfl := Option.some.inj known
      exact ⟨changes s.sent,[],sent,List.not_mem_nil⟩
    · rw [Function.update_of_ne own] at known
      exact later _ (by simp) known sent
  · have sent : changes s'.sent = changes s.sent ++ [.left (gone,(s.known gone).getD "")] := by
      rw [sent,changes_concat]
      rfl
    rw [table] at known
    by_cases own : id = gone
    · obtain rfl := own
      rw [Function.update_self] at known
      exact nomatch known
    · rw [Function.update_of_ne own] at known
      refine later _ ?_ known sent
      intro same
      exact own (Prod.ext_iff.mp (Change.left.inj same)).1

/-- A turn leaves every `Lost` covered just when it is of a device the loop can attribute. -/
theorem hear_covered_iff (s s' : Listener) (label : ListenItem × Bool) (mirrors : s.Mirrors)
    (covered : Change.Covered (changes s.sent)) (taken : s.hear label = some s') :
    Change.Covered (changes s'.sent) ↔ Attributed s label := by
  have mirrors := mirrors (hear_running s s' label taken)
  rcases hear_cases s s' label taken with ⟨quiet,_,other⟩ | ⟨dev,rfl,_,_,sent⟩ | ⟨id,rfl,_,sent⟩
  · rw [quiet]
    refine iff_of_true covered ?_
    obtain ⟨item,receiving⟩ := label
    cases item with
    | disconnected id =>
      cases receiving with
      | true => exact absurd rfl (other id)
      | false => trivial
    | connected dev => trivial
    | error => trivial
  · rw [sent,changes_concat]
    refine iff_of_true ((Change.covered_concat _ _).mpr ⟨covered,?_⟩) trivial
    intro k same
    exact nomatch same
  · rw [sent,changes_concat,Change.covered_concat]
    change _ ↔ s.known id ≠ none ∨ Change.Unmatched (changes s.sent) (id,"")
    cases known : s.known id with
    | some udid =>
      refine iff_of_true ⟨covered,?_⟩ (Or.inl (by simp))
      intro k same
      obtain rfl := Change.left.inj same
      obtain ⟨before,after,split,stays⟩ := mirrors id udid known
      rw [split] at covered ⊢
      exact Change.unmatched_since before after (id,udid) covered stays
    | none =>
      constructor
      · intro ⟨_,last⟩
        exact Or.inr (last (id,"") rfl)
      · intro either
        refine ⟨covered,?_⟩
        intro k same
        obtain rfl := Change.left.inj same
        exact either.resolve_left (by simp)

theorem not_neverAnnounced (sent : List UsbEvent) (id : UInt32) (udid : String)
    (unmatched : Change.Unmatched (changes sent) (id,udid)) : ¬ NeverAnnounced sent id := by
  intro never
  have member : Change.arrived (id,udid) ∈ changes sent := List.count_pos_iff.mp (Nat.zero_lt_of_lt unmatched)
  obtain ⟨event,there,change⟩ := List.mem_map.mp member
  cases event with
  | connected dev =>
    obtain ⟨same,_⟩ := Prod.ext_iff.mp (Change.arrived.inj change)
    exact never dev there same
  | lost gone owner => exact nomatch change

theorem hear_wellFormed_iff (s s' : Listener) (label : ListenItem × Bool) (mirrors : s.Mirrors)
    (covered : Change.Covered (changes s.sent)) (taken : s.hear label = some s') :
    WellFormed s label s' ↔ Attributed s label := by
  rw [← hear_covered_iff s s' label mirrors covered taken]
  constructor
  · exact fun right => right.covered
  · intro after
    rcases hear_cases s s' label taken with ⟨quiet,_,other⟩ | ⟨dev,rfl,attached,_,sent⟩ | ⟨id,rfl,_,sent⟩
    · exact ⟨after,fun id _ same _ => absurd same (other id),fun _ _ _ => quiet,fun _ _ _ => quiet⟩
    · refine ⟨after,(fun _ _ same => nomatch same),?_,(fun _ same => nomatch same)⟩
      intro mentioned same elsewhere
      obtain rfl := ListenItem.connected.inj same
      exact absurd attached elsewhere
    · have own : Change.Unmatched (changes s.sent) (id,(s.known id).getD "") := by
        rw [sent,changes_concat] at after
        exact ((Change.covered_concat _ _).mp after).2 _ rfl
      refine ⟨after,?_,(fun _ same => nomatch same),?_⟩
      · intro gone udid same _
        obtain rfl : id = gone := ListenItem.disconnected.inj (Prod.ext_iff.mp same).1
        exact ⟨(s.known id).getD "",own,sent⟩
      · intro gone same never
        obtain rfl := ListenItem.disconnected.inj same
        exact absurd never (not_neverAnnounced s.sent id _ own)

theorem start_mirrors : Listener.start.Mirrors := by
  intro _ id udid known
  exact nomatch known

/-- Every turn of a run reports as it should just when every disconnect of the run can be attributed. -/
theorem events_wellFormed_iff (labels : List (ListenItem × Bool)) (t : Listener)
    (run : exec Listener.hear .start labels = some t) :
    (∀ before label after s s', labels = before ++ label :: after → exec Listener.hear .start before = some s →
        s.hear label = some s' → WellFormed s label s') ↔
      Along Listener.hear Attributed .start labels := by
  have agree := along_congr Listener.hear (fun s => s.Mirrors ∧ Change.Covered (changes s.sent))
    (fun s label => ∀ s', s.hear label = some s' → WellFormed s label s') Attributed
    (fun s label s' holds right taken => ⟨hear_mirrors s s' label holds.1 taken,(right s' taken).covered⟩)
    (fun s label s' holds taken => by
      rw [← hear_wellFormed_iff s s' label holds.1 holds.2 taken]
      constructor
      · exact fun right => right s' taken
      · intro right other same
        obtain rfl := Option.some.inj (taken.symm.trans same)
        exact right)
    labels .start t ⟨start_mirrors,Change.covered_nil⟩ run
  rw [← agree,along_iff]
  constructor
  · intro every before label after s split reached s' taken
    exact every before label after s s' split reached taken
  · intro every before label after s s' split reached taken
    exact every before label after s split reached s' taken

def wiredPhone : UsbmuxdDevice := ⟨1,"A",.usb⟩

def networkPhone : UsbmuxdDevice := ⟨2,"B",.network⟩

def unplugged : List (ListenItem × Bool) := [(.connected wiredPhone,true),(.disconnected 1,true)]

theorem unplugged_wellFormed : ∃ t, exec Listener.hear .start unplugged = some t ∧
    ∀ before label after s s', unplugged = before ++ label :: after → exec Listener.hear .start before = some s →
      s.hear label = some s' → WellFormed s label s' :=
  ⟨_,rfl,(events_wellFormed_iff unplugged _ rfl).mpr (by decide)⟩

/-- A phone that is only on the network goes: its `Lost` has no udid and nothing to end. -/
theorem network_phone_lost : ¬ ∀ (labels : List (ListenItem × Bool)) (t : Listener),
    exec Listener.hear .start labels = some t → Change.Covered (changes t.sent) := by
  intro every
  have covered := every [(.connected networkPhone,true),(.disconnected 2,true)] _ rfl
  have unmatched : Change.Unmatched [] ((2 : UInt32),"") := covered [] [] (2,"") rfl
  exact absurd unmatched (by decide)

end ClearCam.Transport.Usb
