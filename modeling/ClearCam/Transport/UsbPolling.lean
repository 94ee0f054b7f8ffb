import ClearCam.Library.Presence
import ClearCam.Library.Transition

/-! The polling default of `UsbConductor::subscribe`: each successful listing is compared with the one
before it, by device id. -/
namespace ClearCam.Transport.Usb
open ClearCam.Library

inductive ConnectionType where
  | usb | network
  deriving DecidableEq

structure UsbDevice where
  id : UInt32
  udid : String
  connection : ConnectionType
  productId : Option UInt16
  deriving DecidableEq

inductive UsbEvent where
  | connected (dev : UsbDevice)
  | lost (id : UInt32) (udid : String)
  deriving DecidableEq

def UsbDevice.pair (d : UsbDevice) : UInt32 × String := (d.id,d.udid)

/-- What an event says about the pair of its id and udid. -/
def UsbEvent.change : UsbEvent → Change (UInt32 × String)
  | .connected dev => .arrived dev.pair
  | .lost id udid => .left (id,udid)

/-- What `list_devices` returns where it succeeds; ids are distinct within it. -/
structure Listing where
  devices : List UsbDevice
  distinct : (devices.map (·.id)).Nodup

def Listing.usb (listing : Listing) : List UsbDevice := listing.devices.filter (·.connection = .usb)

def listed (devices : List UsbDevice) (id : UInt32) : Bool := devices.any (·.id = id)

def fresh (prev now : List UsbDevice) : List UsbDevice := now.filter fun d => !listed prev d.id

def missing (prev now : List UsbDevice) : List UsbDevice := prev.filter fun p => !listed now p.id

structure Polling where
  prev : List UsbDevice
  sent : List UsbEvent

def Polling.start : Polling := ⟨[],[]⟩

/-- One turn of the loop. `none` is a `list_devices` call that failed. -/
def Polling.poll (s : Polling) : Option Listing → Option Polling
  | none => some s
  | some listing =>
    let now := listing.usb
    some ⟨now,s.sent ++ ((fresh s.prev now).map .connected ++ (missing s.prev now).map fun p => .lost p.id p.udid)⟩

def lastListed (polls : List (Option Listing)) : List UsbDevice :=
  polls.foldl (fun last poll => poll.elim last Listing.usb) []

def pairs (devices : List UsbDevice) : Finset (UInt32 × String) := (devices.map UsbDevice.pair).toFinset

def present (sent : List UsbEvent) : Finset (UInt32 × String) := Change.after ∅ (sent.map UsbEvent.change)

/-- The events leave the listed devices connected, and those of each pair alternate from `Connected`. -/
def Reports (devices : List UsbDevice) (sent : List UsbEvent) : Prop :=
  present sent = pairs devices ∧ ∀ pair, Change.Alternates true (Change.about pair (sent.map UsbEvent.change))

/-- No id of the one list stands for another device in the other. -/
def SameOwners (prev now : List UsbDevice) : Prop := ∀ p ∈ prev, ∀ d ∈ now, p.id = d.id → p.udid = d.udid

instance (prev now : List UsbDevice) : Decidable (SameOwners prev now) :=
  inferInstanceAs (Decidable (∀ p ∈ prev, ∀ d ∈ now, p.id = d.id → p.udid = d.udid))

theorem mem_pairs (devices : List UsbDevice) (id : UInt32) (udid : String) :
    (id,udid) ∈ pairs devices ↔ ∃ d ∈ devices, d.id = id ∧ d.udid = udid := by
  simp [pairs,UsbDevice.pair]

theorem listed_iff (devices : List UsbDevice) (id : UInt32) :
    listed devices id = true ↔ ∃ d ∈ devices, d.id = id := by
  simp [listed]

theorem Listing.usb_distinct (listing : Listing) : (listing.usb.map (·.id)).Nodup :=
  listing.distinct.sublist (List.Sublist.map _ List.filter_sublist)

theorem pair_distinct (devices : List UsbDevice) (distinct : (devices.map (·.id)).Nodup) :
    (devices.map UsbDevice.pair).Nodup := by
  apply List.Nodup.of_map Prod.fst
  rw [List.map_map]
  exact distinct

theorem owner_unique (devices : List UsbDevice) (distinct : (devices.map (·.id)).Nodup) (a b : UsbDevice)
    (left : a ∈ devices) (right : b ∈ devices) (same : a.id = b.id) : a = b :=
  List.inj_on_of_nodup_map distinct left right same

theorem mem_fresh (prev now : List UsbDevice) (id : UInt32) (udid : String) :
    (id,udid) ∈ pairs (fresh prev now) ↔ (id,udid) ∈ pairs now ∧ listed prev id = false := by
  simp only [mem_pairs,fresh,List.mem_filter,Bool.not_eq_true']
  constructor
  · intro ⟨d,⟨member,unknown⟩,same,owner⟩
    exact ⟨⟨d,member,same,owner⟩,same ▸ unknown⟩
  · intro ⟨⟨d,member,same,owner⟩,unknown⟩
    exact ⟨d,⟨member,same.symm ▸ unknown⟩,same,owner⟩

theorem mem_missing (prev now : List UsbDevice) (id : UInt32) (udid : String) :
    (id,udid) ∈ pairs (missing prev now) ↔ (id,udid) ∈ pairs prev ∧ listed now id = false :=
  mem_fresh now prev id udid

/-- What a comparison by id leaves of the last listing and the new one. -/
theorem mem_compared (prev now : List UsbDevice) (id : UInt32) (udid : String) :
    (id,udid) ∈ (pairs prev ∪ pairs (fresh prev now)) \ pairs (missing prev now) ↔
      ((id,udid) ∈ pairs prev ∧ listed now id = true) ∨ ((id,udid) ∈ pairs now ∧ listed prev id = false) := by
  have known (devices : List UsbDevice) (member : (id,udid) ∈ pairs devices) : listed devices id = true := by
    obtain ⟨d,there,same,_⟩ := (mem_pairs devices id udid).mp member
    exact (listed_iff devices id).mpr ⟨d,there,same⟩
  rw [Finset.mem_sdiff,Finset.mem_union,mem_fresh,mem_missing]
  constructor
  · intro ⟨either,kept⟩
    rcases either with before | after
    · exact Or.inl ⟨before,by simpa [before] using kept⟩
    · exact Or.inr after
  · intro either
    rcases either with ⟨before,stays⟩ | ⟨after,new⟩
    · exact ⟨Or.inl before,by simp [stays]⟩
    · exact ⟨Or.inr ⟨after,new⟩,by simp [known now after]⟩

/-- The comparison finds every change just when no id has changed its device. -/
theorem compared_iff (prev now : List UsbDevice) (distinct : (now.map (·.id)).Nodup) :
    (pairs prev ∪ pairs (fresh prev now)) \ pairs (missing prev now) = pairs now ↔ SameOwners prev now := by
  constructor
  · intro exact p before d after same
    have kept : (p.id,p.udid) ∈ pairs now := by
      rw [← exact,mem_compared]
      exact Or.inl ⟨(mem_pairs prev p.id p.udid).mpr ⟨p,before,rfl,rfl⟩,
        (listed_iff now p.id).mpr ⟨d,after,same.symm⟩⟩
    obtain ⟨e,there,id,udid⟩ := (mem_pairs now p.id p.udid).mp kept
    obtain rfl := owner_unique now distinct e d there after (id.trans same)
    exact udid.symm
  · intro owners
    apply Finset.ext
    intro ⟨id,udid⟩
    rw [mem_compared]
    constructor
    · intro either
      rcases either with ⟨before,stays⟩ | ⟨after,_⟩
      · obtain ⟨p,member,rfl,rfl⟩ := (mem_pairs prev id udid).mp before
        obtain ⟨d,after,same⟩ := (listed_iff now p.id).mp stays
        exact (mem_pairs now p.id p.udid).mpr ⟨d,after,same,(owners p member d after same.symm).symm⟩
      · exact after
    · intro after
      by_cases known : listed prev id = true
      · obtain ⟨d,there,rfl,rfl⟩ := (mem_pairs now id udid).mp after
        obtain ⟨p,before,same⟩ := (listed_iff prev d.id).mp known
        exact Or.inl ⟨(mem_pairs prev d.id d.udid).mpr ⟨p,before,same,owners p before d there same⟩,
          (listed_iff now d.id).mpr ⟨d,there,rfl⟩⟩
      · exact Or.inr ⟨after,by simpa using known⟩

theorem reports_iff (devices : List UsbDevice) (sent : List UsbEvent) :
    Reports devices sent ↔ present sent = pairs devices ∧ Change.Orderly ∅ (sent.map UsbEvent.change) := by
  rw [Change.orderly_iff]
  rfl

/-- The events of one successful poll, over what they say. -/
theorem poll_changes (prev now : List UsbDevice) :
    ((fresh prev now).map UsbEvent.connected ++ (missing prev now).map fun p => UsbEvent.lost p.id p.udid).map
        UsbEvent.change =
      ((fresh prev now).map UsbDevice.pair).map Change.arrived ++
        ((missing prev now).map UsbDevice.pair).map Change.left := by
  rw [List.map_append,List.map_map,List.map_map,List.map_map,List.map_map]
  rfl

theorem after_poll (prev now : List UsbDevice) (s : Finset (UInt32 × String)) :
    Change.after s (((fresh prev now).map UsbDevice.pair).map Change.arrived ++
        ((missing prev now).map UsbDevice.pair).map Change.left) =
      (s ∪ pairs (fresh prev now)) \ pairs (missing prev now) := by
  rw [Change.after_append,Change.arrivals_after,Change.departures_after]
  rfl

/-- From a right picture of the last listing, no report of a poll repeats what is known. -/
theorem poll_orderly (prev now : List UsbDevice) (before : (prev.map (·.id)).Nodup)
    (after : (now.map (·.id)).Nodup) :
    Change.Orderly (pairs prev) (((fresh prev now).map UsbDevice.pair).map Change.arrived ++
      ((missing prev now).map UsbDevice.pair).map Change.left) := by
  have narrowed (devices : List UsbDevice) (keep : UsbDevice → Bool) (distinct : (devices.map (·.id)).Nodup) :
      ((devices.filter keep).map UsbDevice.pair).Nodup :=
    (pair_distinct devices distinct).sublist (List.Sublist.map _ List.filter_sublist)
  rw [Change.orderly_append,Change.arrivals_after]
  constructor
  · refine Change.arrivals_orderly _ _ (narrowed now _ after) ?_
    intro ⟨id,udid⟩ member known
    obtain ⟨_,unlisted⟩ := (mem_fresh prev now id udid).mp (List.mem_toFinset.mpr member)
    obtain ⟨p,there,same,_⟩ := (mem_pairs prev id udid).mp known
    have known := (listed_iff prev id).mpr ⟨p,there,same⟩
    rw [unlisted] at known
    exact Bool.false_ne_true known
  · refine Change.departures_orderly _ _ (narrowed prev _ before) ?_
    intro ⟨id,udid⟩ member
    obtain ⟨known,_⟩ := (mem_missing prev now id udid).mp (List.mem_toFinset.mpr member)
    exact Finset.mem_union_left _ known

/-- All that one turn can do: nothing where the listing failed, or the comparison. -/
theorem poll_cases (s s' : Polling) (poll : Option Listing) (taken : s.poll poll = some s') :
    (poll = none ∧ s' = s) ∨ ∃ listing, poll = some listing ∧ s'.prev = listing.usb ∧
      s'.sent = s.sent ++ ((fresh s.prev listing.usb).map UsbEvent.connected ++
        (missing s.prev listing.usb).map fun p => UsbEvent.lost p.id p.udid) := by
  cases poll with
  | none => exact Or.inl ⟨rfl,(Option.some.inj taken).symm⟩
  | some listing =>
    obtain rfl := Option.some.inj taken
    exact Or.inr ⟨listing,rfl,rfl,rfl⟩

/-- One poll keeps the reports right just when it lists no id for another device. -/
theorem poll_reports_iff (s s' : Polling) (poll : Option Listing) (distinct : (s.prev.map (·.id)).Nodup)
    (right : Reports s.prev s.sent) (taken : s.poll poll = some s') :
    Reports s'.prev s'.sent ↔ ∀ listing, poll = some listing → SameOwners s.prev listing.usb := by
  rcases poll_cases s s' poll taken with ⟨rfl,rfl⟩ | ⟨listing,rfl,prev,sent⟩
  · refine iff_of_true right ?_
    intro listing absurd
    exact nomatch absurd
  · obtain ⟨shown,orderly⟩ := (reports_iff s.prev s.sent).mp right
    have later : present (s.sent ++ ((fresh s.prev listing.usb).map UsbEvent.connected ++
        (missing s.prev listing.usb).map fun p => UsbEvent.lost p.id p.udid)) =
        (pairs s.prev ∪ pairs (fresh s.prev listing.usb)) \ pairs (missing s.prev listing.usb) := by
      unfold present at shown ⊢
      rw [List.map_append,poll_changes,Change.after_append,shown,after_poll]
    rw [prev,sent,reports_iff,later,List.map_append,poll_changes,Change.orderly_append,
      compared_iff _ _ listing.usb_distinct]
    constructor
    · intro ⟨owners,_⟩ other same
      obtain rfl := Option.some.inj same
      exact owners
    · intro owners
      refine ⟨owners listing rfl,orderly,?_⟩
      have known : Change.after ∅ (s.sent.map UsbEvent.change) = pairs s.prev := shown
      rw [known]
      exact poll_orderly s.prev listing.usb distinct listing.usb_distinct

theorem poll_distinct (s s' : Polling) (poll : Option Listing) (distinct : (s.prev.map (·.id)).Nodup)
    (taken : s.poll poll = some s') : (s'.prev.map (·.id)).Nodup := by
  rcases poll_cases s s' poll taken with ⟨_,rfl⟩ | ⟨listing,_,prev,_⟩
  · exact distinct
  · rw [prev]
    exact listing.usb_distinct

/-- What the loop compares with is the last listing that succeeded. -/
theorem prev_eq_lastListed (polls : List (Option Listing)) (s : Polling)
    (run : exec Polling.poll .start polls = some s) : s.prev = lastListed polls := by
  refine exec_simulated Polling.poll (fun s last => s.prev = last) _ ?_ polls .start s [] rfl run
  intro s last poll s' same taken
  rcases poll_cases s s' poll taken with ⟨rfl,rfl⟩ | ⟨listing,rfl,prev,_⟩
  · exact same
  · exact prev

theorem polls_run (polls : List (Option Listing)) (s : Polling) : ∃ t, exec Polling.poll s polls = some t := by
  have enabled (s : Polling) (poll : Option Listing) : ∃ s', s.poll poll = some s' ∧ True := by
    cases poll with
    | none => exact ⟨s,rfl,trivial⟩
    | some listing => exact ⟨_,rfl,trivial⟩
  obtain ⟨t,run,_⟩ := exec_progress Polling.poll (fun _ => True) (fun s poll _ => enabled s poll) polls s trivial
  exact ⟨t,run⟩

/-- The reports of a subscription are right after every poll just when no listing has an id of the last
successful one for another device. -/
theorem polling_reports_iff (polls : List (Option Listing)) :
    (∀ before after s, polls = before ++ after → exec Polling.poll .start before = some s →
        Reports (lastListed before) s.sent) ↔
      ∀ before listing after, polls = before ++ some listing :: after →
        SameOwners (lastListed before) listing.usb := by
  obtain ⟨t,run⟩ := polls_run polls .start
  have exact_rule := reached_iff_along Polling.poll (fun s => (s.prev.map (·.id)).Nodup)
    (fun s => Reports s.prev s.sent) (fun s poll => ∀ listing, poll = some listing → SameOwners s.prev listing.usb)
    (fun s poll s' distinct taken => poll_distinct s s' poll distinct taken)
    (fun s poll s' distinct right taken => poll_reports_iff s s' poll distinct right taken)
    polls .start t List.nodup_nil ⟨rfl,fun _ => trivial⟩ run
  rw [along_iff] at exact_rule
  constructor
  · intro right before listing after split
    obtain ⟨s,reached⟩ := polls_run before .start
    rw [← prev_eq_lastListed before s reached]
    refine exact_rule.mp ?_ before (some listing) after s split reached listing rfl
    intro before after s split reached
    rw [prev_eq_lastListed before s reached]
    exact right before after s split reached
  · intro owners before after s split reached
    rw [← prev_eq_lastListed before s reached]
    refine exact_rule.mpr ?_ before after s split reached
    intro before poll after s split reached listing same
    rw [prev_eq_lastListed before s reached]
    exact owners before listing after (same ▸ split)

def phoneA : UsbDevice := ⟨1,"A",.usb,none⟩

def phoneB : UsbDevice := ⟨1,"B",.usb,none⟩

/-- usbmuxd gives the id of a phone that was unplugged to the next one, between two polls. -/
theorem reused_id_unseen : ¬ ∀ (polls : List (Option Listing)) (s : Polling),
    exec Polling.poll .start polls = some s → Reports (lastListed polls) s.sent := by
  intro every
  have reports := every [some ⟨[phoneA],by decide⟩,some ⟨[phoneB],by decide⟩] ⟨[phoneB],[.connected phoneA]⟩ rfl
  have shown : present [.connected phoneA] = pairs [phoneB] := reports.1
  exact absurd shown (by decide)

end ClearCam.Transport.Usb
