import ClearCam.Pairing.Toml
import ClearCam.Library.Transition

/-! The file behind the store of pairing keys, and the sibling that `write_atomically` renames onto
it. A call changes the map in memory, encodes it and replaces the file; any of this can fail, and the
process can die on the way. -/
namespace ClearCam.Pairing
open ClearCam.Library

/-- The destination and the sibling `.tmp` file, each with its text if it exists. -/
structure Disk where
  file : Option String
  tmp : Option String
  deriving DecidableEq

/-- Where a call fails: while encoding, while writing the temporary file, which is left with whatever
text it has by then, or while renaming it. -/
inductive Fault where
  | serialize
  | write (left : Option String)
  | rename
  deriving DecidableEq

def writeAtomically (disk : Disk) (contents : String) : Option Fault → Except PairingStoreError Unit × Disk
  | some (.write left) => (.error .io,{disk with tmp := left})
  | some .rename => (.error .io,{disk with tmp := some contents})
  | _ => (.ok (),⟨some contents,none⟩)

def save (toml : Toml) (disk : Disk) (data : OnDisk) (fault : Option Fault) :
    Except PairingStoreError Unit × Disk :=
  if fault = some .serialize then (.error .tomlSer,disk)
  else writeAtomically disk (toml.toStringPretty data) fault

inductive Call where
  | put (udid : String) (material : PairingMaterial) (pairedAt : String)
  | forget (udid : String)
  deriving DecidableEq

def Call.udid : Call → String
  | .put udid _ _ => udid
  | .forget udid => udid

def Call.apply (data : OnDisk) : Call → OnDisk
  | .put udid material pairedAt => data.insert udid ⟨material.asB64,pairedAt⟩
  | .forget udid => data.erase udid

/-- An open store with the disk it lives on. -/
structure Opened where
  data : OnDisk
  disk : Disk
  deriving DecidableEq

def openAt (toml : Toml) (disk : Disk) : Except PairingStoreError Opened :=
  match disk.file with
  | none => .ok ⟨∅,disk⟩
  | some text =>
    match toml.fromStr text with
    | some data => .ok ⟨data,disk⟩
    | none => .error .tomlDe

def Opened.call (toml : Toml) (store : Opened) (call : Call) (fault : Option Fault) :
    Except PairingStoreError Unit × Opened :=
  match call with
  | .put udid material pairedAt =>
    let (saved,disk) := save toml store.disk (store.data.insert udid ⟨material.asB64,pairedAt⟩) fault
    let (result,data) := PairingStore.put store.data udid material pairedAt saved
    (result,⟨data,disk⟩)
  | .forget udid =>
    let (saved,disk) := save toml store.disk (store.data.erase udid) fault
    let (result,data) := PairingStore.forget store.data udid saved
    (result,⟨data,disk⟩)

theorem Opened.call_eq (toml : Toml) (store : Opened) (call : Call) (fault : Option Fault) :
    store.call toml call fault =
      ((save toml store.disk (call.apply store.data) fault).1,
        ⟨call.apply store.data,(save toml store.disk (call.apply store.data) fault).2⟩) := by
  cases call with
  | put udid material pairedAt => rfl
  | forget udid => rfl

/-- A save fails just where it is made to, and then leaves the destination alone. -/
theorem save_failed (toml : Toml) (disk : Disk) (data : OnDisk) (fault : Fault) :
    (∃ error, (save toml disk data (some fault)).1 = .error error) ∧
      (save toml disk data (some fault)).2.file = disk.file := by
  cases fault with
  | serialize => exact ⟨⟨_,rfl⟩,rfl⟩
  | write left => exact ⟨⟨_,rfl⟩,rfl⟩
  | rename => exact ⟨⟨_,rfl⟩,rfl⟩

theorem save_done (toml : Toml) (disk : Disk) (data : OnDisk) :
    save toml disk data none = (.ok (),⟨some (toml.toStringPretty data),none⟩) := rfl

def Call.key : Call → Option PairingMaterial
  | .put _ material _ => some material
  | .forget _ => none

theorem get_same (a b : OnDisk) (udid : String) (same : Same a b) :
    PairingStore.get a udid = PairingStore.get b udid := by
  rw [PairingStore.get,PairingStore.get,same udid]

theorem get_apply (data : OnDisk) (call : Call) (udid : String) :
    PairingStore.get (call.apply data) udid =
      if call.udid = udid then .ok call.key else PairingStore.get data udid := by
  cases call with
  | put other material pairedAt => exact PairingStore.get_put data udid other material pairedAt (.ok ())
  | forget other => exact PairingStore.get_forget data udid other (.ok ())

/-- The map in memory is what `open_at` would load. -/
def Synced (toml : Toml) (store : Opened) : Prop :=
  ∃ loaded, openAt toml store.disk = .ok loaded ∧ Same loaded.data store.data

theorem openAt_file (toml : Toml) (disk other : Disk) (loaded : Opened) (same : other.file = disk.file)
    (opened : openAt toml disk = .ok loaded) : openAt toml other = .ok ⟨loaded.data,other⟩ := by
  rw [openAt] at opened ⊢
  rw [same]
  cases text : disk.file with
  | none =>
    rw [text] at opened
    obtain rfl := Except.ok.inj opened
    rfl
  | some text' =>
    rw [text] at opened
    simp only at opened ⊢
    cases parsed : toml.fromStr text' with
    | none =>
      rw [parsed] at opened
      cases opened
    | some data =>
      rw [parsed] at opened
      obtain rfl := Except.ok.inj opened
      rfl

/-- A file that a save has completed loads as the map that was saved. -/
theorem openAt_saved (toml : Toml) (roundTrips : toml.RoundTrips) (data : OnDisk) (tmp : Option String) :
    ∃ loaded, openAt toml ⟨some (toml.toStringPretty data),tmp⟩ = .ok loaded ∧ Same loaded.data data := by
  obtain ⟨loaded,parsed,same⟩ := roundTrips data
  refine ⟨⟨loaded,⟨some (toml.toStringPretty data),tmp⟩⟩,?_,same⟩
  simp only [openAt,parsed]

theorem synced_opened (toml : Toml) (disk : Disk) (store : Opened) (opened : openAt toml disk = .ok store) :
    Synced toml store := by
  have same : store.disk = disk := by
    rw [openAt] at opened
    split at opened
    · obtain rfl := Except.ok.inj opened
      rfl
    · split at opened
      · obtain rfl := Except.ok.inj opened
        rfl
      · cases opened
  exact ⟨store,by rw [same]; exact opened,fun _ => rfl⟩

theorem synced_saved (toml : Toml) (roundTrips : toml.RoundTrips) (data : OnDisk) (tmp : Option String) :
    Synced toml ⟨data,⟨some (toml.toStringPretty data),tmp⟩⟩ := by
  exact openAt_saved toml roundTrips data tmp

/-- A store on the file of another is in step with it just when it has the same map. -/
theorem synced_file (toml : Toml) (store after : Opened) (synced : Synced toml store)
    (file : after.disk.file = store.disk.file) : Synced toml after ↔ Same after.data store.data := by
  obtain ⟨loaded,opened,same⟩ := synced
  have reopened := openAt_file toml store.disk after.disk loaded file opened
  constructor
  · intro again
    obtain ⟨other,found,agrees⟩ := again
    obtain rfl := Except.ok.inj (reopened.symm.trans found)
    exact (agrees.symm _ _).trans _ _ _ same
  · intro equal
    exact ⟨_,reopened,same.trans _ _ _ (equal.symm _ _)⟩

def Opened.step (toml : Toml) (store : Opened) (label : Call × Option Fault) : Option Opened :=
  some (store.call toml label.1 label.2).2

/-- What a call is to keep: nothing changes when it fails, and memory and disk agree after it. -/
def AllOrNothing (toml : Toml) (store : Opened) (label : Call × Option Fault) : Prop :=
  ((∃ error, (store.call toml label.1 label.2).1 = .error error) →
    Same (store.call toml label.1 label.2).2.data store.data ∧
      (store.call toml label.1 label.2).2.disk.file = store.disk.file) ∧
  Synced toml (store.call toml label.1 label.2).2

/-- The call does not fail, or has nothing to change in the map. -/
def Harmless (store : Opened) (label : Call × Option Fault) : Prop :=
  label.2.isSome → Same (label.1.apply store.data) store.data

theorem allOrNothing_iff (toml : Toml) (roundTrips : toml.RoundTrips) (store : Opened)
    (label : Call × Option Fault) (synced : Synced toml store) :
    Harmless store label ↔ AllOrNothing toml store label := by
  rcases label with ⟨call,_ | fault⟩
  · rw [AllOrNothing,Opened.call_eq,save_done]
    refine iff_of_true (fun failed => (by cases failed)) ⟨?_,synced_saved toml roundTrips _ none⟩
    intro failed
    obtain ⟨error,failed⟩ := failed
    cases failed
  · obtain ⟨failed,file⟩ := save_failed toml store.disk (call.apply store.data) fault
    have after := synced_file toml store (store.call toml call (some fault)).2 synced (by
      rw [Opened.call_eq]
      exact file)
    rw [AllOrNothing,after,Harmless]
    rw [Opened.call_eq]
    constructor
    · intro harmless
      exact ⟨fun _ => ⟨harmless rfl,file⟩,harmless rfl⟩
    · intro nothing _
      exact nothing.2

/-- Over a whole sequence of calls, each call is all or nothing just when every call that fails would
have changed nothing: the map in memory is changed first and never changed back. -/
theorem calls_all_or_nothing_iff (toml : Toml) (roundTrips : toml.RoundTrips) (disk : Disk) (store : Opened)
    (opened : openAt toml disk = .ok store) (labels : List (Call × Option Fault)) :
    Along (Opened.step toml) (AllOrNothing toml) store labels ↔ Along (Opened.step toml) Harmless store labels := by
  have synced := synced_opened toml disk store opened
  obtain ⟨last,run,_⟩ := exec_progress (Opened.step toml) (fun _ => True) (fun _ _ _ => ⟨_,rfl,trivial⟩) labels
    store trivial
  refine (along_congr (Opened.step toml) (Synced toml) Harmless (AllOrNothing toml) ?_ ?_ labels store last
    synced run).symm
  · intro before label after kept harmless taken
    obtain rfl := Option.some.inj taken
    exact ((allOrNothing_iff toml roundTrips before label kept).mp harmless).2
  · intro before label after kept _
    exact allOrNothing_iff toml roundTrips before label kept

theorem forget_absent (data : OnDisk) (udid : String) (absent : data.lookup udid = none) :
    Same (Call.apply data (.forget udid)) data := by
  intro other
  by_cases here : other = udid
  · subst here
    rw [Call.apply,AList.lookup_erase,absent]
  · exact AList.lookup_erase_ne here

def emptyStore : Opened := ⟨∅,⟨none,none⟩⟩

def pairThenMiss : List (Call × Option Fault) :=
  [(.put "00008110-A" ⟨[1,2,3]⟩ "2026-05-28T20:00:00Z",none),(.forget "00008110-B",some (.write none))]

theorem pairThenMiss_all_or_nothing : openAt pairingsToml ⟨none,none⟩ = .ok emptyStore ∧
    Along (Opened.step pairingsToml) (AllOrNothing pairingsToml) emptyStore pairThenMiss := by
  refine ⟨rfl,(calls_all_or_nothing_iff pairingsToml pairingsToml_roundTrips ⟨none,none⟩ emptyStore rfl _).mpr ?_⟩
  refine ⟨fun failed => (by cases failed),?_⟩
  intro paired taken
  obtain rfl := Option.some.inj taken
  exact ⟨fun _ => forget_absent _ "00008110-B" rfl,fun _ _ => trivial⟩

/-- The rename fails: the caller is told so, and the key is there until the next start. -/
theorem failed_put_kept :
    (emptyStore.call pairingsToml (.put "00008110-A" ⟨[1,2,3]⟩ "2026-05-28T20:00:00Z") (some .rename)).1 = .error .io ∧
    PairingStore.get (emptyStore.call pairingsToml (.put "00008110-A" ⟨[1,2,3]⟩ "2026-05-28T20:00:00Z")
      (some .rename)).2.data "00008110-A" = .ok (some ⟨[1,2,3]⟩) ∧
    ¬Along (Opened.step pairingsToml) (AllOrNothing pairingsToml) emptyStore
      [(.put "00008110-A" ⟨[1,2,3]⟩ "2026-05-28T20:00:00Z",some .rename)] := by
  refine ⟨rfl,?_,?_⟩
  · rw [Opened.call_eq,get_apply]
    rfl
  · intro along
    have same := (along.1.1 ⟨.io,rfl⟩).1 "00008110-A"
    rw [Opened.call_eq] at same
    cases same

/-- Where the process dies inside `write_atomically`. -/
inductive CrashPoint where
  | beforeWrite
  | duringWrite (left : Option String)
  | beforeRename
  | afterRename
  deriving DecidableEq

def crash (disk : Disk) (contents : String) : CrashPoint → Disk
  | .beforeWrite => disk
  | .duringWrite left => {disk with tmp := left}
  | .beforeRename => {disk with tmp := some contents}
  | .afterRename => ⟨some contents,none⟩

inductive StoreEvent where
  | completed (call : Call)
  | crashed (call : Call) (point : CrashPoint)
  deriving DecidableEq

/-- Calls that complete, and calls in which the process dies, to be started again on what the disk
then holds. -/
def Opened.event (toml : Toml) (store : Opened) : StoreEvent → Option Opened
  | .completed call => some (store.call toml call none).2
  | .crashed call point =>
    (openAt toml (crash store.disk (toml.toStringPretty (call.apply store.data)) point)).toOption

/-- The maps that a store can have: a completed call has been made, an interrupted one has or has not. -/
def StoreEvent.outcomes (maps : List OnDisk) : StoreEvent → List OnDisk
  | .completed call => maps.map fun data => call.apply data
  | .crashed call _ => maps ++ maps.map fun data => call.apply data

theorem Call.apply_same (call : Call) (a b : OnDisk) (same : Same a b) : Same (call.apply a) (call.apply b) := by
  intro udid
  cases call with
  | put other material pairedAt =>
    by_cases here : udid = other
    · subst here
      rw [Call.apply,Call.apply,AList.lookup_insert,AList.lookup_insert]
    · rw [Call.apply,Call.apply,AList.lookup_insert_ne here,AList.lookup_insert_ne here]
      exact same udid
  | forget other =>
    by_cases here : udid = other
    · subst here
      rw [Call.apply,Call.apply,AList.lookup_erase,AList.lookup_erase]
    · rw [Call.apply,Call.apply,AList.lookup_erase_ne here,AList.lookup_erase_ne here]
      exact same udid

/-- Whatever an interrupted call leaves on the disk loads, as the map before it or the map after it. -/
theorem crash_recovers (toml : Toml) (roundTrips : toml.RoundTrips) (store : Opened) (synced : Synced toml store)
    (call : Call) (point : CrashPoint) :
    ∃ reopened, openAt toml (crash store.disk (toml.toStringPretty (call.apply store.data)) point) = .ok reopened ∧
      (Same reopened.data store.data ∨ Same reopened.data (call.apply store.data)) := by
  obtain ⟨loaded,opened,same⟩ := synced
  cases point with
  | beforeWrite => exact ⟨loaded,opened,.inl same⟩
  | duringWrite left => exact ⟨_,openAt_file toml store.disk _ loaded rfl opened,.inl same⟩
  | beforeRename => exact ⟨_,openAt_file toml store.disk _ loaded rfl opened,.inl same⟩
  | afterRename =>
    obtain ⟨reopened,read,after⟩ := openAt_saved toml roundTrips (call.apply store.data) none
    exact ⟨reopened,read,.inr after⟩

theorem Opened.event_synced (toml : Toml) (roundTrips : toml.RoundTrips) (store after : Opened) (event : StoreEvent)
    (synced : Synced toml store) (taken : store.event toml event = some after) : Synced toml after := by
  cases event with
  | completed call =>
    obtain rfl := Option.some.inj taken
    rw [Opened.call_eq,save_done]
    exact synced_saved toml roundTrips _ none
  | crashed call point =>
    obtain ⟨reopened,read,_⟩ := crash_recovers toml roundTrips store synced call point
    rw [Opened.event,read] at taken
    obtain rfl := Option.some.inj taken
    exact synced_opened toml _ reopened read

theorem Opened.event_enabled (toml : Toml) (roundTrips : toml.RoundTrips) (store : Opened) (event : StoreEvent)
    (synced : Synced toml store) : ∃ after, store.event toml event = some after ∧ Synced toml after := by
  cases event with
  | completed call => exact ⟨_,rfl,store.event_synced toml roundTrips _ (.completed call) synced rfl⟩
  | crashed call point =>
    obtain ⟨reopened,read,_⟩ := crash_recovers toml roundTrips store synced call point
    exact ⟨reopened,by rw [Opened.event,read]; rfl,synced_opened toml _ reopened read⟩

/-- A store that is in step with its disk has one of these maps. -/
structure Accounted (toml : Toml) (store : Opened) (maps : List OnDisk) : Prop where
  synced : Synced toml store
  possible : ∃ data ∈ maps, Same store.data data

theorem Accounted.event (toml : Toml) (roundTrips : toml.RoundTrips) (store after : Opened) (maps : List OnDisk)
    (event : StoreEvent) (accounted : Accounted toml store maps) (taken : store.event toml event = some after) :
    Accounted toml after (event.outcomes maps) := by
  refine ⟨store.event_synced toml roundTrips after event accounted.synced taken,?_⟩
  obtain ⟨data,member,same⟩ := accounted.possible
  cases event with
  | completed call =>
    obtain rfl := Option.some.inj taken
    rw [Opened.call_eq]
    exact ⟨call.apply data,List.mem_map_of_mem member,call.apply_same _ _ same⟩
  | crashed call point =>
    obtain ⟨reopened,read,before | made⟩ := crash_recovers toml roundTrips store accounted.synced call point
    · rw [Opened.event,read] at taken
      obtain rfl := Option.some.inj taken
      exact ⟨data,List.mem_append_left _ member,before.trans _ _ _ same⟩
    · rw [Opened.event,read] at taken
      obtain rfl := Option.some.inj taken
      exact ⟨call.apply data,List.mem_append_right _ (List.mem_map_of_mem member),
        made.trans _ _ _ (call.apply_same _ _ same)⟩

/-- The last of the calls that is about this device. -/
def lastCall (udid : String) (calls : List Call) : Option Call := calls.reverse.find? fun call => call.udid = udid

theorem get_calls (data : OnDisk) (calls : List Call) (udid : String) :
    PairingStore.get (calls.foldl Call.apply data) udid =
      match lastCall udid calls with
      | some call => .ok call.key
      | none => PairingStore.get data udid := by
  induction calls using List.reverseRecOn with
  | nil => rfl
  | append_singleton calls call ih =>
    rw [List.foldl_append,List.foldl_cons,List.foldl_nil,get_apply,lastCall,List.reverse_append,
      List.reverse_singleton,List.singleton_append,List.find?_cons]
    by_cases here : call.udid = udid
    · simp [here]
    · simp only [here,if_false,decide_false]
      exact ih

theorem exec_completed (toml : Toml) (calls : List Call) (store last : Opened)
    (run : exec (Opened.event toml) store (calls.map .completed) = some last) :
    last.data = calls.foldl Call.apply store.data := by
  induction calls generalizing store with
  | nil =>
    obtain rfl := Option.some.inj run
    rfl
  | cons call rest ih =>
    obtain ⟨next,taken,later⟩ := (exec_cons _ _ _ _ _).mp run
    obtain rfl := Option.some.inj taken
    rw [ih _ later,Opened.call_eq,List.foldl_cons]

/-- However often the process dies, and wherever in a write, the store opens again with the calls that
were completed and, of an interrupted one, all or nothing; and with no crash it has for every device
the key of the last call about it. -/
theorem store_crash_safe (toml : Toml) (roundTrips : toml.RoundTrips) (disk : Disk) (store : Opened)
    (opened : openAt toml disk = .ok store) :
    (∀ events, ∃ last, exec (Opened.event toml) store events = some last ∧
      (∃ data ∈ events.foldl StoreEvent.outcomes [store.data], Same last.data data) ∧
      ∀ (call : Call) (point : CrashPoint), ∃ reopened,
        openAt toml (crash last.disk (toml.toStringPretty (call.apply last.data)) point) = .ok reopened ∧
        (Same reopened.data last.data ∨ Same reopened.data (call.apply last.data))) ∧
    (∀ calls udid, ∃ last reopened, exec (Opened.event toml) store (calls.map .completed) = some last ∧
      openAt toml last.disk = .ok reopened ∧
      PairingStore.get reopened.data udid =
        match lastCall udid calls with
        | some call => .ok call.key
        | none => PairingStore.get store.data udid) := by
  have synced := synced_opened toml disk store opened
  have progress := exec_progress (Opened.event toml) (Synced toml)
    (fun store event synced => store.event_enabled toml roundTrips event synced)
  constructor
  · intro events
    obtain ⟨last,run,here⟩ := progress events store synced
    have accounted : Accounted toml last (events.foldl StoreEvent.outcomes [store.data]) := by
      refine exec_simulated (Opened.event toml) (Accounted toml) StoreEvent.outcomes ?_ events store last _ ?_ run
      · intro before maps event after kept taken
        exact kept.event toml roundTrips before after maps event taken
      · exact ⟨synced,store.data,List.mem_singleton_self _,fun _ => rfl⟩
    exact ⟨last,run,accounted.possible,fun call point => crash_recovers toml roundTrips last here call point⟩
  · intro calls udid
    obtain ⟨last,run,reopened,read,same⟩ := progress (calls.map .completed) store synced
    refine ⟨last,reopened,run,read,?_⟩
    rw [get_same _ _ udid same,exec_completed toml calls store last run,get_calls]

def interrupted : List Call :=
  [.put "00008110-A" ⟨[1,2,3]⟩ "2026-05-28T20:00:00Z",.put "00008110-B" ⟨[4]⟩ "2026-05-28T20:01:00Z",
    .forget "00008110-B"]

/-- One device is paired. The process dies in the write for a second one, and then once its file is renamed. -/
def interruptions : List StoreEvent :=
  [.completed (.put "00008110-A" ⟨[1,2,3]⟩ "2026-05-28T20:00:00Z"),
    .crashed (.put "00008110-B" ⟨[4]⟩ "2026-05-28T20:01:00Z") (.duringWrite (some "[pairings.00008110-B]\npair")),
    .crashed (.put "00008110-B" ⟨[4]⟩ "2026-05-28T20:01:00Z") .afterRename]

/-- The store is opened beside a temporary file that an earlier crash has left. -/
theorem interrupted_crash_safe :
    openAt pairingsToml ⟨none,some "[pairi"⟩ = .ok ⟨∅,⟨none,some "[pairi"⟩⟩ ∧
    (∃ last, exec (Opened.event pairingsToml) ⟨∅,⟨none,some "[pairi"⟩⟩ interruptions = some last ∧
      PairingStore.get last.data "00008110-A" = .ok (some ⟨[1,2,3]⟩) ∧
      (PairingStore.get last.data "00008110-B" = .ok none ∨
        PairingStore.get last.data "00008110-B" = .ok (some ⟨[4]⟩)) ∧
      ∀ (call : Call) (point : CrashPoint), ∃ reopened,
        openAt pairingsToml (crash last.disk (pairingsToml.toStringPretty (call.apply last.data)) point) = .ok reopened ∧
        (Same reopened.data last.data ∨ Same reopened.data (call.apply last.data))) ∧
    ∃ last reopened, exec (Opened.event pairingsToml) ⟨∅,⟨none,some "[pairi"⟩⟩ (interrupted.map .completed) = some last ∧
      openAt pairingsToml last.disk = .ok reopened ∧
      PairingStore.get reopened.data "00008110-A" = .ok (some ⟨[1,2,3]⟩) := by
  have opened : openAt pairingsToml ⟨none,some "[pairi"⟩ = .ok ⟨∅,⟨none,some "[pairi"⟩⟩ := rfl
  obtain ⟨crashes,completes⟩ := store_crash_safe pairingsToml pairingsToml_roundTrips _ _ opened
  refine ⟨opened,?_,?_⟩
  · obtain ⟨last,run,⟨data,member,same⟩,recovers⟩ := crashes interruptions
    have kept : ∀ data ∈ interruptions.foldl StoreEvent.outcomes [∅],
        PairingStore.get data "00008110-A" = .ok (some ⟨[1,2,3]⟩) ∧
        (PairingStore.get data "00008110-B" = .ok none ∨
          PairingStore.get data "00008110-B" = .ok (some ⟨[4]⟩)) := by
      decide
    obtain ⟨first,second⟩ := kept data member
    rw [← get_same _ _ _ same] at first
    rw [← get_same _ _ _ same] at second
    exact ⟨last,run,first,second,recovers⟩
  · obtain ⟨last,reopened,run,read,key⟩ := completes interrupted "00008110-A"
    exact ⟨last,reopened,run,read,key⟩

end ClearCam.Pairing
