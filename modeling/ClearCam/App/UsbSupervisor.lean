import ClearCam.Library.Transition
import ClearCam.Pairing.Store

/-! The two tasks of a `start_usb_supervisor` call: a supervisor, which dials the devices that its bus
subscription reports, and a consumer, which takes what was dialed and owns the supervisor's join
handle. -/
namespace ClearCam.App.Usb
open ClearCam.Library ClearCam.Pairing

def ccpUsbControlPort : Nat := 7000

def ccpUsbMediaPort : Nat := 7001

structure UsbDevice where
  id : Nat
  udid : String
  deriving DecidableEq

inductive UsbEvent where
  | connected (dev : UsbDevice)
  | lost (id : Nat) (udid : String)
  deriving DecidableEq

def UsbEvent.isConnected : UsbEvent → Bool
  | .connected _ => true
  | .lost _ _ => false

structure DialedStreams where
  udid : String
  pairingKeyB64 : Option String
  deriving DecidableEq

/-- Where `UsbSupervisor::run` awaits. -/
inductive Phase where
  | waiting
  | openingControl (dev : UsbDevice)
  | openingMedia (dev : UsbDevice)
  | reading (dev : UsbDevice)
  | sending (dialed : DialedStreams)
  | ended
  deriving DecidableEq

/-- The consumer task: at an await, inside a poll, its future dropped, or run to its end. -/
inductive Consumer where
  | parked | polled | dropped | returned
  deriving DecidableEq

/-- The two tasks of one `start_usb_supervisor` call, the events that wait in the subscription, the
`open_port` calls made and the channel between the tasks. A call that has returned has left them
`stopped`. -/
structure Tasks where
  phase : Phase
  events : List UsbEvent
  closed : Bool
  opened : List (Nat × Nat)
  channel : List DialedStreams
  consumer : Consumer
  aborted : Bool
  stopped : Bool
  deriving DecidableEq

inductive TaskLabel where
  | deliver (event : UsbEvent)
  | close
  | recv
  | controlOpened
  | controlFailed
  | mediaOpened
  | mediaFailed
  | read (data : OnDisk)
  | send
  | wake
  | take
  | yield

namespace Tasks

def spawn : Tasks := ⟨.waiting,[],false,[],[],.parked,false,false⟩

def channelCapacity : Nat := 4

def gone (tasks : Tasks) : Bool := tasks.consumer = .dropped || tasks.consumer = .returned

def abort (tasks : Tasks) : Tasks := {tasks with aborted := true}

def abortSupervisor (tasks : Tasks) : Tasks := {tasks with phase := .ended}

/-- The key that goes with the streams; a store that cannot be read counts as unpaired. -/
def key (data : OnDisk) (udid : String) : Option String :=
  match PairingStore.get data udid with
  | .ok (some material) => some material.asB64
  | .ok none => none
  | .error _ => none

def step (tasks : Tasks) : TaskLabel → Option Tasks
  | .deliver event =>
    if tasks.closed then none
    else if tasks.phase = .ended then some tasks
    else some {tasks with events := tasks.events ++ [event]}
  | .close => some {tasks with closed := true}
  | .recv =>
    match tasks.phase, tasks.events with
    | .waiting, .connected dev :: rest => some {tasks with
        events := rest
        phase := .openingControl dev
        opened := tasks.opened ++ [(dev.id,ccpUsbControlPort)]}
    | .waiting, .lost _ _ :: rest => some {tasks with events := rest}
    | .waiting, [] => if tasks.closed then some {tasks with phase := .ended} else none
    | _, _ => none
  | .controlOpened =>
    match tasks.phase with
    | .openingControl dev => some {tasks with
        phase := .openingMedia dev
        opened := tasks.opened ++ [(dev.id,ccpUsbMediaPort)]}
    | _ => none
  | .controlFailed =>
    match tasks.phase with
    | .openingControl _ => some {tasks with phase := .waiting}
    | _ => none
  | .mediaOpened =>
    match tasks.phase with
    | .openingMedia dev => some {tasks with phase := .reading dev}
    | _ => none
  | .mediaFailed =>
    match tasks.phase with
    | .openingMedia _ => some {tasks with phase := .waiting}
    | _ => none
  | .read data =>
    match tasks.phase with
    | .reading dev => some {tasks with phase := .sending ⟨dev.udid,key data dev.udid⟩}
    | _ => none
  | .send =>
    match tasks.phase with
    | .sending dialed =>
      if tasks.gone then some {tasks with phase := .ended}
      else if tasks.channel.length < channelCapacity then
        some {tasks with phase := .waiting, channel := tasks.channel ++ [dialed]}
      else none
    | _ => none
  -- an aborted task is not polled again; one that is inside a poll runs on to its next await
  | .wake => if tasks.consumer = .parked ∧ tasks.aborted = false then some {tasks with consumer := .polled} else none
  | .take =>
    match tasks.consumer, tasks.channel with
    | .polled, _ :: rest => some {tasks with channel := rest}
    | .polled, [] =>
      if tasks.phase = .ended then some {tasks.abortSupervisor with consumer := .returned} else none
    | _, _ => none
  | .yield =>
    match tasks.consumer, tasks.aborted with
    | .polled, false => some {tasks with consumer := .parked}
    | .polled, true => some {tasks with consumer := .dropped, channel := []}
    | .parked, true => some {tasks with consumer := .dropped, channel := []}
    | _, _ => none

inductive Moves (tasks : Tasks) : TaskLabel → Tasks → Prop where
  | ignored (event : UsbEvent) (ended : tasks.phase = .ended) : Moves tasks (.deliver event) tasks
  | delivered (event : UsbEvent) (running : tasks.phase ≠ .ended) :
      Moves tasks (.deliver event) {tasks with events := tasks.events ++ [event]}
  | unsubscribed : Moves tasks .close {tasks with closed := true}
  | dialed (dev : UsbDevice) (rest : List UsbEvent) (waiting : tasks.phase = .waiting)
      (first : tasks.events = .connected dev :: rest) : Moves tasks .recv {tasks with
        events := rest
        phase := .openingControl dev
        opened := tasks.opened ++ [(dev.id,ccpUsbControlPort)]}
  | lost (id : Nat) (udid : String) (rest : List UsbEvent) (waiting : tasks.phase = .waiting)
      (first : tasks.events = .lost id udid :: rest) : Moves tasks .recv {tasks with events := rest}
  | exhausted (waiting : tasks.phase = .waiting) : Moves tasks .recv {tasks with phase := .ended}
  | controlOpened (dev : UsbDevice) (opening : tasks.phase = .openingControl dev) :
      Moves tasks .controlOpened {tasks with
        phase := .openingMedia dev
        opened := tasks.opened ++ [(dev.id,ccpUsbMediaPort)]}
  | controlFailed (dev : UsbDevice) (opening : tasks.phase = .openingControl dev) :
      Moves tasks .controlFailed {tasks with phase := .waiting}
  | mediaOpened (dev : UsbDevice) (opening : tasks.phase = .openingMedia dev) :
      Moves tasks .mediaOpened {tasks with phase := .reading dev}
  | mediaFailed (dev : UsbDevice) (opening : tasks.phase = .openingMedia dev) :
      Moves tasks .mediaFailed {tasks with phase := .waiting}
  | read (dev : UsbDevice) (data : OnDisk) (reading : tasks.phase = .reading dev) :
      Moves tasks (.read data) {tasks with phase := .sending ⟨dev.udid,key data dev.udid⟩}
  | refused (dialed : DialedStreams) (sending : tasks.phase = .sending dialed) (gone : tasks.gone = true) :
      Moves tasks .send {tasks with phase := .ended}
  | sent (dialed : DialedStreams) (sending : tasks.phase = .sending dialed) (held : tasks.gone = false)
      (room : tasks.channel.length < channelCapacity) :
      Moves tasks .send {tasks with phase := .waiting, channel := tasks.channel ++ [dialed]}
  | woken (parked : tasks.consumer = .parked) (live : tasks.aborted = false) :
      Moves tasks .wake {tasks with consumer := .polled}
  | taken (dialed : DialedStreams) (rest : List DialedStreams) (polled : tasks.consumer = .polled)
      (first : tasks.channel = dialed :: rest) : Moves tasks .take {tasks with channel := rest}
  | returned (polled : tasks.consumer = .polled) (ended : tasks.phase = .ended) :
      Moves tasks .take {tasks.abortSupervisor with consumer := .returned}
  | parked (polled : tasks.consumer = .polled) (live : tasks.aborted = false) :
      Moves tasks .yield {tasks with consumer := .parked}
  | dropped (aborted : tasks.aborted = true) : Moves tasks .yield {tasks with consumer := .dropped, channel := []}

theorem step_moves (tasks next : Tasks) (label : TaskLabel) (taken : tasks.step label = some next) :
    Moves tasks label next := by
  cases label with
  | deliver event =>
    simp only [step] at taken
    split_ifs at taken with _ ended
    · obtain rfl := Option.some.inj taken
      exact .ignored event ended
    · obtain rfl := Option.some.inj taken
      exact .delivered event ended
  | close =>
    obtain rfl := Option.some.inj taken
    exact .unsubscribed
  | recv =>
    simp only [step] at taken
    split at taken
    · next dev rest waiting first =>
      obtain rfl := Option.some.inj taken
      exact .dialed dev rest waiting first
    · next id udid rest waiting first =>
      obtain rfl := Option.some.inj taken
      exact .lost id udid rest waiting first
    · next waiting _ =>
      split_ifs at taken
      obtain rfl := Option.some.inj taken
      exact .exhausted waiting
    · cases taken
  | controlOpened =>
    simp only [step] at taken
    split at taken
    · next dev opening =>
      obtain rfl := Option.some.inj taken
      exact .controlOpened dev opening
    · cases taken
  | controlFailed =>
    simp only [step] at taken
    split at taken
    · next dev opening =>
      obtain rfl := Option.some.inj taken
      exact .controlFailed dev opening
    · cases taken
  | mediaOpened =>
    simp only [step] at taken
    split at taken
    · next dev opening =>
      obtain rfl := Option.some.inj taken
      exact .mediaOpened dev opening
    · cases taken
  | mediaFailed =>
    simp only [step] at taken
    split at taken
    · next dev opening =>
      obtain rfl := Option.some.inj taken
      exact .mediaFailed dev opening
    · cases taken
  | read data =>
    simp only [step] at taken
    split at taken
    · next dev reading =>
      obtain rfl := Option.some.inj taken
      exact .read dev data reading
    · cases taken
  | send =>
    simp only [step] at taken
    split at taken
    · next dialed sending =>
      split_ifs at taken with gone room
      · obtain rfl := Option.some.inj taken
        exact .refused dialed sending gone
      · obtain rfl := Option.some.inj taken
        exact .sent dialed sending (Bool.eq_false_iff.mpr gone) room
    · cases taken
  | wake =>
    simp only [step] at taken
    split_ifs at taken with free
    obtain rfl := Option.some.inj taken
    exact .woken free.1 free.2
  | take =>
    simp only [step] at taken
    split at taken
    · next dialed rest polled first =>
      obtain rfl := Option.some.inj taken
      exact .taken dialed rest polled first
    · next polled _ =>
      split_ifs at taken with ended
      obtain rfl := Option.some.inj taken
      exact .returned polled ended
    · cases taken
  | yield =>
    simp only [step] at taken
    split at taken
    · next polled live =>
      obtain rfl := Option.some.inj taken
      exact .parked polled live
    · next _ aborted =>
      obtain rfl := Option.some.inj taken
      exact .dropped aborted
    · next _ aborted =>
      obtain rfl := Option.some.inj taken
      exact .dropped aborted
    · cases taken

/-- What the supervisor sends next is refused: the receiver is gone, or the channel is full and the
consumer is not polled again. -/
def cut (tasks : Tasks) : Bool :=
  tasks.gone || (tasks.aborted && tasks.consumer = .parked && channelCapacity ≤ tasks.channel.length)

/-- The supervisor has ended, or ends with the send it has before it. -/
def ending (tasks : Tasks) : Bool :=
  match tasks.phase with
  | .ended => true
  | .reading _ | .sending _ => tasks.cut
  | _ => false

def opening (tasks : Tasks) : Bool :=
  match tasks.phase with
  | .openingControl _ => true
  | _ => false

/-- No device waits to be dialed and no dial has its media port still to open. -/
def quiet (tasks : Tasks) : Bool := tasks.events.all (fun event => !event.isConnected) && !tasks.opening

def atRest (tasks : Tasks) : Bool := tasks.ending || tasks.quiet

theorem ending_cases (tasks : Tasks) (ending : tasks.ending = true) :
    tasks.phase = .ended ∨
      ((∃ dev, tasks.phase = .reading dev) ∨ ∃ dialed, tasks.phase = .sending dialed) ∧ tasks.cut = true := by
  unfold Tasks.ending at ending
  split at ending
  · next ended => exact .inl ended
  · next dev reading => exact .inr ⟨.inl ⟨dev,reading⟩,ending⟩
  · next dialed sending => exact .inr ⟨.inr ⟨dialed,sending⟩,ending⟩
  · cases ending

theorem cut_iff (tasks : Tasks) : tasks.cut = true ↔ tasks.consumer = .dropped ∨ tasks.consumer = .returned ∨
    tasks.aborted = true ∧ tasks.consumer = .parked ∧ channelCapacity ≤ tasks.channel.length := by
  simp [cut,gone,or_assoc,and_assoc]

/-- A supervisor that is ending ends without another port, whatever the bus reports. -/
theorem Moves.ending (tasks next : Tasks) (label : TaskLabel) (ending : tasks.ending = true)
    (moves : Moves tasks label next) : next.ending = true ∧ next.opened = tasks.opened := by
  have cases := ending_cases tasks ending
  rw [cut_iff] at cases
  cases moves with
  | ignored event ended => exact ⟨ending,rfl⟩
  | delivered event running => exact ⟨ending,rfl⟩
  | unsubscribed => exact ⟨ending,rfl⟩
  | dialed dev rest waiting first => simp [waiting] at cases
  | lost id udid rest waiting first => simp [waiting] at cases
  | exhausted waiting => exact ⟨rfl,rfl⟩
  | controlOpened dev opening => simp [opening] at cases
  | controlFailed dev opening => simp [opening] at cases
  | mediaOpened dev opening => simp [opening] at cases
  | mediaFailed dev opening => simp [opening] at cases
  | read dev data reading =>
    refine ⟨?_,rfl⟩
    simp only [Tasks.ending,reading] at ending ⊢
    exact ending
  | refused dialed sending gone => exact ⟨rfl,rfl⟩
  | sent dialed sending held room =>
    simp only [Tasks.ending,sending,cut,held] at ending
    simp [Nat.not_le.mpr room] at ending
  | woken parked live =>
    rcases cases with ended | ⟨_,cut⟩
    · simp [Tasks.ending,ended]
    · simp [parked,live] at cut
  | taken dialed rest polled first =>
    rcases cases with ended | ⟨_,cut⟩
    · simp [Tasks.ending,ended]
    · simp [polled] at cut
  | returned polled ended => exact ⟨rfl,rfl⟩
  | parked polled live =>
    rcases cases with ended | ⟨_,cut⟩
    · simp [Tasks.ending,ended]
    · simp [polled] at cut
  | dropped aborted =>
    rcases cases with ended | ⟨⟨dev,reading⟩ | ⟨dialed,sending⟩,_⟩
    · simp [Tasks.ending,ended]
    · simp [Tasks.ending,reading,cut,gone]
    · simp [Tasks.ending,sending,cut,gone]

theorem quiet_iff (tasks : Tasks) :
    tasks.quiet = true ↔ (∀ dev, .connected dev ∉ tasks.events) ∧ ∀ dev, tasks.phase ≠ .openingControl dev := by
  unfold quiet opening
  rw [Bool.and_eq_true,List.all_eq_true]
  refine and_congr ?_ ?_
  · constructor
    · intro none dev member
      cases none _ member
    · intro none event member
      cases event with
      | connected dev => exact absurd member (none dev)
      | lost id udid => rfl
  · cases tasks.phase <;> simp

/-- With nothing to dial, the supervisor opens no port before the bus reports a device. -/
theorem Moves.quiet (tasks next : Tasks) (label : TaskLabel) (quiet : tasks.quiet = true)
    (unreported : ∀ dev, label ≠ .deliver (.connected dev)) (moves : Moves tasks label next) :
    next.quiet = true ∧ next.opened = tasks.opened := by
  rw [quiet_iff] at quiet ⊢
  obtain ⟨none,settled⟩ := quiet
  cases moves with
  | ignored event ended => exact ⟨⟨none,settled⟩,rfl⟩
  | delivered event running =>
    refine ⟨⟨?_,settled⟩,rfl⟩
    intro dev member
    rcases List.mem_append.mp member with earlier | now
    · exact none dev earlier
    · exact unreported dev (by rw [List.mem_singleton.mp now])
  | unsubscribed => exact ⟨⟨none,settled⟩,rfl⟩
  | dialed dev rest waiting first => exact absurd (by rw [first]; exact List.mem_cons_self) (none dev)
  | lost id udid rest waiting first =>
    refine ⟨⟨?_,settled⟩,rfl⟩
    intro dev member
    exact none dev (by rw [first]; exact List.mem_cons_of_mem _ member)
  | exhausted waiting => exact ⟨⟨none,by simp⟩,rfl⟩
  | controlOpened dev opening => exact absurd opening (settled dev)
  | controlFailed dev opening => exact absurd opening (settled dev)
  | mediaOpened dev opening => exact ⟨⟨none,by simp⟩,rfl⟩
  | mediaFailed dev opening => exact ⟨⟨none,by simp⟩,rfl⟩
  | read dev data reading => exact ⟨⟨none,by simp⟩,rfl⟩
  | refused dialed sending gone => exact ⟨⟨none,by simp⟩,rfl⟩
  | sent dialed sending held room => exact ⟨⟨none,by simp⟩,rfl⟩
  | woken parked live => exact ⟨⟨none,settled⟩,rfl⟩
  | taken dialed rest polled first => exact ⟨⟨none,settled⟩,rfl⟩
  | returned polled ended => exact ⟨⟨none,by simp [abortSupervisor]⟩,rfl⟩
  | parked polled live => exact ⟨⟨none,settled⟩,rfl⟩
  | dropped aborted => exact ⟨⟨none,settled⟩,rfl⟩

theorem step_atRest (tasks next : Tasks) (label : TaskLabel) (rest : tasks.atRest = true)
    (unreported : ∀ dev, label ≠ .deliver (.connected dev)) (taken : tasks.step label = some next) :
    next.atRest = true ∧ next.opened = tasks.opened := by
  have moves := step_moves tasks next label taken
  unfold atRest at rest ⊢
  rw [Bool.or_eq_true] at rest ⊢
  rcases rest with ending | quiet
  · obtain ⟨still,same⟩ := moves.ending tasks next label ending
    exact ⟨.inl still,same⟩
  · obtain ⟨still,same⟩ := moves.quiet tasks next label quiet unreported
    exact ⟨.inr still,same⟩

/-- A device that is reported is dialed unless the supervisor is ending. -/
theorem step_reported (tasks next : Tasks) (dev : UsbDevice)
    (taken : tasks.step (.deliver (.connected dev)) = some next) : next.atRest = true ↔ tasks.ending = true := by
  have moves := step_moves tasks next _ taken
  constructor
  · intro rest
    cases moves with
    | ignored _ ended => simp [ending,ended]
    | delivered _ running =>
      unfold atRest at rest
      rw [Bool.or_eq_true] at rest
      rcases rest with ending | quiet
      · exact ending
      · exact absurd (List.mem_append_right _ List.mem_cons_self) (((quiet_iff _).mp quiet).1 dev)
  · intro ending
    unfold atRest
    rw [(moves.ending tasks next _ ending).1,Bool.true_or]

theorem step_opened (tasks next : Tasks) (label : TaskLabel) (rest : tasks.atRest = true)
    (taken : tasks.step label = some next) : next.opened = tasks.opened := by
  by_cases reported : ∃ dev, label = .deliver (.connected dev)
  · obtain ⟨dev,rfl⟩ := reported
    cases step_moves tasks next _ taken with
    | ignored _ ended => rfl
    | delivered _ running => rfl
  · exact (step_atRest tasks next label rest (fun dev same => reported ⟨dev,same⟩) taken).2

theorem step_stopped (tasks next : Tasks) (label : TaskLabel) (taken : tasks.step label = some next) :
    next.stopped = tasks.stopped := by
  cases step_moves tasks next label taken <;> rfl

theorem abort_atRest (tasks : Tasks) (rest : tasks.atRest = true) : tasks.abort.atRest = true := by
  unfold atRest at rest ⊢
  rw [Bool.or_eq_true] at rest ⊢
  rcases rest with ending | quiet
  · left
    rcases ending_cases tasks ending with ended | ⟨awaiting,cut⟩
    · simp [Tasks.ending,abort,ended]
    · have still : tasks.abort.cut = true := by
        rw [cut_iff] at cut ⊢
        rcases cut with dropped | returned | ⟨_,parked,full⟩
        · exact .inl dropped
        · exact .inr (.inl returned)
        · exact .inr (.inr ⟨rfl,parked,full⟩)
      rcases awaiting with ⟨dev,reading⟩ | ⟨dialed,sending⟩
      · simpa [Tasks.ending,abort,reading] using still
      · simpa [Tasks.ending,abort,sending] using still
  · exact .inr quiet

/-- Left to themselves the tasks open no other port. -/
def Silent (tasks : Tasks) : Prop :=
  ∀ steps next, (∀ event, .deliver event ∉ steps) → exec Tasks.step tasks steps = some next →
    next.opened = tasks.opened

theorem silent_of_atRest (tasks : Tasks) (rest : tasks.atRest = true) : tasks.Silent := by
  intro steps next undelivered run
  have kept : next.atRest = true ∧ next.opened = tasks.opened := by
    refine exec_kept Tasks.step (fun now => now.atRest = true ∧ now.opened = tasks.opened) steps ?_ tasks next
      ⟨rest,rfl⟩ run
    intro now label after member still taken
    have unreported : ∀ dev, label ≠ .deliver (.connected dev) := by
      intro dev same
      exact undelivered _ (same ▸ member)
    obtain ⟨rests,same⟩ := step_atRest now after label still.1 unreported taken
    exact ⟨rests,same.trans still.2⟩
  exact kept.2

/-- A step that leads to a supervisor that still dials is one of a supervisor that still dials. -/
theorem not_silent_of_step (tasks next : Tasks) (label : TaskLabel) (own : ∀ event, label ≠ .deliver event)
    (taken : tasks.step label = some next) (same : next.opened = tasks.opened) (dials : ¬next.Silent) :
    ¬tasks.Silent := by
  intro silent
  apply dials
  intro steps last undelivered run
  refine (silent (label :: steps) last ?_ ((exec_cons Tasks.step tasks last label steps).mpr ⟨next,taken,run⟩)).trans
    same.symm
  intro event member
  rcases List.mem_cons.mp member with first | later
  · exact own event first.symm
  · exact undelivered event later

theorem not_silent_of_opened (tasks next : Tasks) (label : TaskLabel) (own : ∀ event, label ≠ .deliver event)
    (taken : tasks.step label = some next) (port : Nat × Nat) (opened : next.opened = tasks.opened ++ [port]) :
    ¬tasks.Silent := by
  intro silent
  have same := silent [label] next (fun event member => own event (List.mem_singleton.mp member).symm)
    ((exec_cons Tasks.step tasks next label []).mpr ⟨next,taken,rfl⟩)
  rw [opened] at same
  simp at same

theorem not_silent_waiting (events : List UsbEvent) (tasks : Tasks) (held : tasks.events = events)
    (waiting : tasks.phase = .waiting) (dev : UsbDevice) (reported : .connected dev ∈ events) :
    ¬tasks.Silent := by
  induction events generalizing tasks with
  | nil => cases reported
  | cons event rest ih =>
    cases event with
    | connected first =>
      exact not_silent_of_opened tasks _ .recv (by simp) (by simp [step,waiting,held]; rfl) (first.id,ccpUsbControlPort) rfl
    | lost id udid =>
      have later : .connected dev ∈ rest := by simpa using reported
      refine not_silent_of_step tasks {tasks with events := rest} .recv (by simp) (by simp [step,waiting,held]) rfl ?_
      exact ih {tasks with events := rest} rfl waiting later

theorem not_silent_room (tasks : Tasks) (dialed : DialedStreams) (sending : tasks.phase = .sending dialed)
    (held : tasks.gone = false) (room : tasks.channel.length < channelCapacity) (dev : UsbDevice)
    (reported : .connected dev ∈ tasks.events) : ¬tasks.Silent := by
  refine not_silent_of_step tasks {tasks with phase := .waiting, channel := tasks.channel ++ [dialed]} .send
    (by simp) (by simp [step,sending,held,room]) rfl ?_
  exact not_silent_waiting tasks.events _ rfl rfl dev reported

theorem not_silent_polled (channel : List DialedStreams) (tasks : Tasks) (within : tasks.channel = channel)
    (dialed : DialedStreams) (sending : tasks.phase = .sending dialed) (polled : tasks.consumer = .polled)
    (dev : UsbDevice) (reported : .connected dev ∈ tasks.events) : ¬tasks.Silent := by
  have held : tasks.gone = false := by simp [gone,polled]
  induction channel generalizing tasks with
  | nil => exact not_silent_room tasks dialed sending held (by rw [within]; decide) dev reported
  | cons first rest ih =>
    by_cases room : tasks.channel.length < channelCapacity
    · exact not_silent_room tasks dialed sending held room dev reported
    · refine not_silent_of_step tasks {tasks with channel := rest} .take (by simp) (by simp [step,polled,within]) rfl ?_
      exact ih {tasks with channel := rest} rfl sending polled reported held

theorem not_silent_sending (tasks : Tasks) (dialed : DialedStreams) (sending : tasks.phase = .sending dialed)
    (uncut : ¬tasks.cut = true) (dev : UsbDevice) (reported : .connected dev ∈ tasks.events) : ¬tasks.Silent := by
  rw [cut_iff,not_or,not_or] at uncut
  obtain ⟨undropped,unreturned,unfinished⟩ := uncut
  by_cases room : tasks.channel.length < channelCapacity
  · exact not_silent_room tasks dialed sending (by simp [gone,undropped,unreturned]) room dev reported
  · cases consumer : tasks.consumer with
    | dropped => exact absurd consumer undropped
    | returned => exact absurd consumer unreturned
    | polled => exact not_silent_polled tasks.channel tasks rfl dialed sending consumer dev reported
    | parked =>
      have live : tasks.aborted = false := by
        rw [Bool.eq_false_iff]
        intro aborted
        exact unfinished ⟨aborted,consumer,Nat.not_lt.mp room⟩
      refine not_silent_of_step tasks {tasks with consumer := .polled} .wake (by simp) (by simp [step,consumer,live]) rfl ?_
      exact not_silent_polled tasks.channel _ rfl dialed sending rfl dev reported

/-- The tasks are at rest just when, left to themselves, they open no other port. -/
theorem atRest_iff (tasks : Tasks) : tasks.atRest = true ↔ tasks.Silent := by
  refine ⟨silent_of_atRest tasks,?_⟩
  contrapose
  intro restless
  unfold atRest at restless
  rw [Bool.or_eq_true,not_or,quiet_iff] at restless
  obtain ⟨lasting,unquiet⟩ := restless
  cases phase : tasks.phase with
  | openingControl dev =>
    exact not_silent_of_opened tasks _ .controlOpened (by simp) (by simp [step,phase]; rfl) (dev.id,ccpUsbMediaPort) rfl
  | ended => exact absurd (by simp [ending,phase]) lasting
  | waiting =>
    obtain ⟨dev,reported⟩ : ∃ dev, .connected dev ∈ tasks.events := by simpa [phase] using unquiet
    exact not_silent_waiting tasks.events tasks rfl phase dev reported
  | openingMedia dialed =>
    obtain ⟨dev,reported⟩ : ∃ dev, .connected dev ∈ tasks.events := by simpa [phase] using unquiet
    refine not_silent_of_step tasks {tasks with phase := .waiting} .mediaFailed (by simp) (by simp [step,phase]) rfl ?_
    exact not_silent_waiting tasks.events _ rfl rfl dev reported
  | reading read =>
    obtain ⟨dev,reported⟩ : ∃ dev, .connected dev ∈ tasks.events := by simpa [phase] using unquiet
    have uncut : ¬tasks.cut = true := by simpa [ending,phase] using lasting
    refine not_silent_of_step tasks {tasks with phase := .sending ⟨read.udid,key ∅ read.udid⟩} (.read ∅) (by simp)
      (by simp [step,phase]) rfl ?_
    exact not_silent_sending _ _ rfl uncut dev reported
  | sending dialed =>
    obtain ⟨dev,reported⟩ : ∃ dev, .connected dev ∈ tasks.events := by simpa [phase] using unquiet
    have uncut : ¬tasks.cut = true := by simpa [ending,phase] using lasting
    exact not_silent_sending tasks dialed phase uncut dev reported

end Tasks

end ClearCam.App.Usb
