import ClearCam.App.UsbSupervisor

/-! What `shutdown` and a second `start_usb_supervisor` leave of the supervisors started before. The slot
holds the handle of the consumer; the supervisor's own handle goes with the consumer's future. -/
namespace ClearCam.App.Usb
open ClearCam.Library

inductive Holder where
  | start (call : Nat)
  | shutdown
  deriving DecidableEq

/-- The app handle: the tasks of every `start_usb_supervisor` call, the calls that await the mutex,
who holds it, and the slot it guards. -/
structure AppHandle where
  tasks : List Tasks
  awaiting : List Nat
  holder : Option Holder
  usbSupervisorTask : Option Nat
  accepting : Bool

inductive Label where
  | startUsbSupervisor
  | lock (call : Nat)
  | replace
  | shutdown
  | takeTask
  | run (call : Nat) (label : TaskLabel)

namespace AppHandle

def start : AppHandle := ⟨[],[],none,none,true⟩

/-- The tasks after the consumer in the slot has been aborted. -/
def abortTask (s : AppHandle) : List Tasks :=
  s.tasks.mapIdx fun call tasks => if s.usbSupervisorTask = some call then tasks.abort else tasks

/-- The tasks that a returning call leaves behind: all but its own. -/
def others (tasks : List Tasks) : Option Nat → List Tasks
  | none => tasks
  | some own => tasks.eraseIdx own

def stopOthers (tasks : List Tasks) (own : Option Nat) : List Tasks :=
  tasks.mapIdx fun call tasks => if own = some call then tasks else {tasks with stopped := true}

def step (s : AppHandle) : Label → Option AppHandle
  | .startUsbSupervisor => some {s with
      tasks := s.tasks ++ [Tasks.spawn]
      awaiting := s.awaiting ++ [s.tasks.length]}
  | .lock call =>
    if call ∈ s.awaiting ∧ s.holder = none then
      some {s with awaiting := s.awaiting.erase call, holder := some (.start call)}
    else none
  | .replace =>
    match s.holder with
    | some (.start call) => some {s with
        tasks := stopOthers s.abortTask (some call)
        usbSupervisorTask := some call
        holder := none}
    | _ => none
  -- a `try_lock` that fails leaves the slot alone
  | .shutdown =>
    match s.holder with
    | none => some {s with accepting := false, holder := some .shutdown}
    | some _ => some {s with accepting := false, tasks := stopOthers s.tasks none}
  | .takeTask =>
    match s.holder with
    | some .shutdown => some {s with
        tasks := stopOthers s.abortTask none
        usbSupervisorTask := none
        holder := none}
    | _ => none
  | .run call label => (s.tasks[call]?).bind fun tasks =>
      (tasks.step label).map fun next => {s with tasks := s.tasks.set call next}

/-- What the calls have stopped opens no other port by itself. -/
def Quiescent (s : AppHandle) : Prop := ∀ tasks ∈ s.tasks, tasks.stopped = true → tasks.Silent

/-- The tasks that a call leaves behind when it returns with this step. -/
def left (s : AppHandle) : Label → List Tasks
  | .replace =>
    match s.holder with
    | some (.start call) => others s.abortTask (some call)
    | _ => []
  | .shutdown =>
    match s.holder with
    | none => []
    | some _ => others s.tasks none
  | .takeTask => others s.abortTask none
  | _ => []

/-- The tasks that this step has the bus report a device to. -/
def told (s : AppHandle) : Label → List Tasks
  | .run call (.deliver (.connected _)) => (s.tasks[call]?).toList
  | _ => []

/-- A call returns only where it leaves supervisors at rest, and the bus reports no device to one that
was left, unless it is ending. -/
def Calm (s : AppHandle) (label : Label) : Prop :=
  (∀ tasks ∈ s.left label, tasks.atRest = true) ∧
    ∀ tasks ∈ s.told label, tasks.stopped = true → tasks.ending = true

instance (s : AppHandle) (label : Label) : Decidable (s.Calm label) := inferInstanceAs (Decidable (_ ∧ _))

inductive Stepped (s : AppHandle) : Label → List Tasks → Prop where
  | spawned : Stepped s .startUsbSupervisor (s.tasks ++ [Tasks.spawn])
  | locked (call : Nat) : Stepped s (.lock call) s.tasks
  | entered (free : s.holder = none) : Stepped s .shutdown s.tasks
  | returned (label : Label) (own : Option Nat) (tasks : List Tasks) (reached : tasks = s.tasks ∨ tasks = s.abortTask)
      (calm : s.Calm label ↔ ∀ t ∈ others tasks own, t.atRest = true) : Stepped s label (stopOthers tasks own)
  | ran (call : Nat) (label : TaskLabel) (before after : Tasks) (held : s.tasks[call]? = some before)
      (taken : before.step label = some after) : Stepped s (.run call label) (s.tasks.set call after)

theorem step_stepped (s s' : AppHandle) (label : Label) (taken : s.step label = some s') :
    Stepped s label s'.tasks := by
  cases label with
  | startUsbSupervisor =>
    obtain rfl := Option.some.inj taken
    exact .spawned
  | lock call =>
    simp only [step] at taken
    split_ifs at taken
    obtain rfl := Option.some.inj taken
    exact .locked call
  | replace =>
    simp only [step] at taken
    split at taken
    · next call held =>
      obtain rfl := Option.some.inj taken
      exact .returned .replace (some call) s.abortTask (.inr rfl) (by simp [Calm,left,told,held])
    · cases taken
  | shutdown =>
    simp only [step] at taken
    split at taken
    · next free =>
      obtain rfl := Option.some.inj taken
      exact .entered free
    · next holder held =>
      obtain rfl := Option.some.inj taken
      exact .returned .shutdown none s.tasks (.inl rfl) (by simp [Calm,left,told,held])
  | takeTask =>
    simp only [step] at taken
    split at taken
    · next held =>
      obtain rfl := Option.some.inj taken
      exact .returned .takeTask none s.abortTask (.inr rfl) (by simp [Calm,left,told])
    · cases taken
  | run call label =>
    obtain ⟨before,held,ran⟩ := Option.bind_eq_some_iff.mp taken
    obtain ⟨after,moved,rfl⟩ := Option.map_eq_some_iff.mp ran
    exact .ran call label before after held moved

def Resting (tasks : List Tasks) : Prop := ∀ t ∈ tasks, t.stopped = true → t.atRest = true

theorem resting_iff (s : AppHandle) : Resting s.tasks ↔ s.Quiescent := by
  constructor
  · intro resting t member stopped
    exact t.atRest_iff.mp (resting t member stopped)
  · intro quiescent t member stopped
    exact t.atRest_iff.mpr (quiescent t member stopped)

theorem getElem?_abortTask (s : AppHandle) (call : Nat) : s.abortTask[call]? =
    (s.tasks[call]?).map fun tasks => if s.usbSupervisorTask = some call then tasks.abort else tasks := by
  exact List.getElem?_mapIdx

theorem getElem?_stopOthers (tasks : List Tasks) (own : Option Nat) (call : Nat) : (stopOthers tasks own)[call]? =
    (tasks[call]?).map fun tasks => if own = some call then tasks else {tasks with stopped := true} := by
  exact List.getElem?_mapIdx

theorem mem_others (tasks : List Tasks) (own : Option Nat) (t : Tasks) :
    t ∈ others tasks own ↔ ∃ call, own ≠ some call ∧ tasks[call]? = some t := by
  cases own with
  | none => simp [others,List.mem_iff_getElem?]
  | some own => simp [others,List.mem_eraseIdx_iff_getElem?,eq_comm]

theorem abortTask_resting (s : AppHandle) (resting : Resting s.tasks) : Resting s.abortTask := by
  intro t member stopped
  obtain ⟨call,held⟩ := List.mem_iff_getElem?.mp member
  rw [getElem?_abortTask] at held
  obtain ⟨before,found,rfl⟩ := Option.map_eq_some_iff.mp held
  have present := List.mem_of_getElem? found
  split_ifs at stopped ⊢
  · exact before.abort_atRest (resting before present stopped)
  · exact resting before present stopped

theorem stopOthers_resting (tasks : List Tasks) (own : Option Nat) (resting : Resting tasks) :
    Resting (stopOthers tasks own) ↔ ∀ t ∈ others tasks own, t.atRest = true := by
  constructor
  · intro every t member
    obtain ⟨call,other,held⟩ := (mem_others tasks own t).mp member
    have stopped : (stopOthers tasks own)[call]? = some {t with stopped := true} := by
      rw [getElem?_stopOthers,held,Option.map_some,if_neg other]
    have rests := every _ (List.mem_of_getElem? stopped) rfl
    exact rests
  · intro every t member stopped
    obtain ⟨call,held⟩ := List.mem_iff_getElem?.mp member
    rw [getElem?_stopOthers] at held
    obtain ⟨before,found,rfl⟩ := Option.map_eq_some_iff.mp held
    split_ifs at stopped ⊢ with same
    · exact resting before (List.mem_of_getElem? found) stopped
    · exact every before ((mem_others tasks own before).mpr ⟨call,same,found⟩)

theorem set_resting (tasks : List Tasks) (call : Nat) (after : Tasks) (resting : Resting tasks)
    (inside : call < tasks.length) :
    Resting (tasks.set call after) ↔ (after.stopped = true → after.atRest = true) := by
  constructor
  · intro every
    exact every after (List.mem_of_getElem? (List.getElem?_set_self inside))
  · intro now t member
    rcases List.mem_or_eq_of_mem_set member with earlier | rfl
    · exact resting t earlier
    · exact now

theorem calm_of_unreported (s : AppHandle) (call : Nat) (label : TaskLabel)
    (unreported : ∀ dev, label ≠ .deliver (.connected dev)) : s.Calm (.run call label) := by
  refine ⟨fun t member => (by cases member),?_⟩
  intro t member
  unfold told at member
  split at member
  · next dev same => exact absurd (Label.run.inj same).2 (unreported dev)
  · cases member

/-- A step leaves everything stopped at rest just when it is calm. -/
theorem step_resting (s s' : AppHandle) (label : Label) (resting : Resting s.tasks)
    (taken : s.step label = some s') : Resting s'.tasks ↔ s.Calm label := by
  have stepped := step_stepped s s' label taken
  generalize s'.tasks = last at stepped
  cases stepped with
  | spawned =>
    refine iff_of_true ?_ (by simp [Calm,left,told])
    intro t member stopped
    rcases List.mem_append.mp member with earlier | new
    · exact resting t earlier stopped
    · obtain rfl := List.mem_singleton.mp new
      cases stopped
  | locked call => exact iff_of_true resting (by simp [Calm,left,told])
  | entered free => exact iff_of_true resting (by simp [Calm,left,told,free])
  | returned _ own tasks reached calm =>
    have before : Resting tasks := by
      rcases reached with rfl | rfl
      · exact resting
      · exact abortTask_resting s resting
    exact (stopOthers_resting tasks own before).trans calm.symm
  | ran call label before after held moved =>
    have inside := (List.getElem?_eq_some_iff.mp held).1
    rw [set_resting s.tasks call after resting inside,before.step_stopped after label moved]
    by_cases reported : ∃ dev, label = .deliver (.connected dev)
    · obtain ⟨dev,rfl⟩ := reported
      rw [before.step_reported after dev moved]
      simp [Calm,left,told,held]
    · have unreported : ∀ dev, label ≠ .deliver (.connected dev) := fun dev same => reported ⟨dev,same⟩
      refine iff_of_true ?_ (s.calm_of_unreported call label unreported)
      intro stopped
      exact (before.step_atRest after label (resting before (List.mem_of_getElem? held) stopped) unreported moved).1

/-- The tasks of a call that have been stopped, and the ports they had opened. -/
def StoppedWith (s : AppHandle) (call : Nat) (ports : List (Nat × Nat)) : Prop :=
  ∃ t, s.tasks[call]? = some t ∧ t.stopped = true ∧ t.opened = ports

/-- A step opens no port for a supervisor that has been stopped and is at rest. -/
theorem step_stoppedWith (s s' : AppHandle) (label : Label) (resting : Resting s.tasks)
    (taken : s.step label = some s') (call : Nat) (ports : List (Nat × Nat)) (kept : s.StoppedWith call ports) :
    s'.StoppedWith call ports := by
  obtain ⟨t,held,stopped,opened⟩ := kept
  have stepped := step_stepped s s' label taken
  unfold StoppedWith
  generalize s'.tasks = last at stepped ⊢
  cases stepped with
  | spawned => exact ⟨t,(List.getElem?_append_left (List.getElem?_eq_some_iff.mp held).1).trans held,stopped,opened⟩
  | locked _ => exact ⟨t,held,stopped,opened⟩
  | entered _ => exact ⟨t,held,stopped,opened⟩
  | returned _ own tasks reached _ =>
    have before : ∃ r, tasks[call]? = some r ∧ r.stopped = true ∧ r.opened = ports := by
      rcases reached with rfl | rfl
      · exact ⟨t,held,stopped,opened⟩
      · rw [getElem?_abortTask,held,Option.map_some]
        split_ifs
        · exact ⟨t.abort,rfl,stopped,opened⟩
        · exact ⟨t,rfl,stopped,opened⟩
    obtain ⟨r,found,still,same⟩ := before
    rw [getElem?_stopOthers,found,Option.map_some]
    split_ifs
    · exact ⟨r,rfl,still,same⟩
    · exact ⟨{r with stopped := true},rfl,rfl,same⟩
  | ran other label before after found moved =>
    by_cases same : other = call
    · obtain rfl := same
      obtain rfl := Option.some.inj (found.symm.trans held)
      have inside := (List.getElem?_eq_some_iff.mp held).1
      refine ⟨after,List.getElem?_set_self inside,(before.step_stopped after label moved).trans stopped,?_⟩
      exact (before.step_opened after label (resting before (List.mem_of_getElem? held) stopped) moved).trans opened
    · exact ⟨t,(List.getElem?_set_ne same).trans held,stopped,opened⟩

theorem start_resting : Resting start.tasks := by
  intro t member
  cases member

/-- In every state that a run reaches the supervisors started before a returned call open no other port
by themselves, just when every step of the run is calm; and then they open none, whatever the bus
reports. -/
theorem stopped_supervisors_silent_iff (labels : List Label) (s : AppHandle)
    (run : exec AppHandle.step start labels = some s) :
    ((∀ before after t, labels = before ++ after → exec AppHandle.step start before = some t → t.Quiescent) ↔
      Along AppHandle.step Calm start labels) ∧
    (Along AppHandle.step Calm start labels → ∀ before after t (call : Nat) (tasks : Tasks),
      labels = before ++ after → exec AppHandle.step start before = some t → t.tasks[call]? = some tasks → tasks.stopped = true →
      ∃ last, s.tasks[call]? = some last ∧ last.opened = tasks.opened) := by
  have exactly := reached_iff_along AppHandle.step (fun _ => True) (fun t => Resting t.tasks) Calm
    (fun _ _ _ _ _ => trivial) (fun t label t' _ resting taken => step_resting t t' label resting taken)
    labels start s trivial start_resting run
  simp only [resting_iff] at exactly
  refine ⟨exactly,?_⟩
  intro calm before after t call tasks split reached held stopped
  subst split
  have resting : Resting t.tasks := (resting_iff t).mpr (exactly.mpr calm before after t rfl reached)
  rw [exec_append,reached] at run
  have kept : Resting s.tasks ∧ s.StoppedWith call tasks.opened := by
    refine exec_invariant AppHandle.step Calm (fun r => Resting r.tasks ∧ r.StoppedWith call tasks.opened) after ?_
      t s ⟨resting,tasks,held,stopped,rfl⟩ (along_append_right AppHandle.step Calm before after start t calm reached) run
    intro r label r' _ still calm taken
    exact ⟨(step_resting r r' label still.1 taken).mpr calm,step_stoppedWith r r' label still.1 taken call _ still.2⟩
  obtain ⟨last,found,_,same⟩ := kept.2
  exact ⟨last,found,same⟩

def started (call : Nat) : List Label := [.startUsbSupervisor,.lock call,.replace]

def served : List Label := ([.deliver (.connected ⟨1,"u"⟩),.recv,.controlOpened,.mediaOpened,.read ∅,.send,.wake,.take,
  .yield] : List TaskLabel).map (.run 0)

/-- Then the supervisor is replaced, its consumer is dropped, and the device is unplugged. -/
def replacedAtRest : List Label :=
  started 0 ++ served ++ started 1 ++ [.run 0 .yield,.run 0 (.deliver (.lost 1 "u")),.run 0 .recv,.shutdown,.takeTask]

def atRestHandle : AppHandle :=
  ⟨[⟨.waiting,[],false,[(1,7000),(1,7001)],[],.dropped,true,true⟩,⟨.waiting,[],false,[],[],.parked,true,true⟩],
    [],none,none,false⟩

theorem replacedAtRest_silent : exec AppHandle.step start replacedAtRest = some atRestHandle ∧
    atRestHandle.Quiescent := by
  have run : exec AppHandle.step start replacedAtRest = some atRestHandle := rfl
  have calm : Along AppHandle.step Calm start replacedAtRest := by decide
  exact ⟨run,(stopped_supervisors_silent_iff replacedAtRest atRestHandle run).1.mpr calm replacedAtRest [] atRestHandle
    (List.append_nil _).symm run⟩

/-- The consumer's future is dropped; then a device is plugged in. -/
def pluggedIn : List Label := ([.yield,.deliver (.connected ⟨1,"u"⟩),.recv,.controlOpened] : List TaskLabel).map (.run 0)

def dialing : Tasks := ⟨.openingMedia ⟨1,"u"⟩,[],false,[(1,7000),(1,7001)],[],.dropped,true,true⟩

theorem stopped_supervisor_dials :
    (exec AppHandle.step start (started 0 ++ [.shutdown,.takeTask])).map (fun s => s.tasks) =
        some [{Tasks.spawn with aborted := true, stopped := true}] ∧
      (exec AppHandle.step start (started 0 ++ [.shutdown,.takeTask] ++ pluggedIn)).map (fun s => s.tasks) = some [dialing] ∧
    (exec AppHandle.step start (started 0 ++ started 1)).map (fun s => s.tasks) =
        some [{Tasks.spawn with aborted := true, stopped := true},Tasks.spawn] ∧
      (exec AppHandle.step start (started 0 ++ started 1 ++ pluggedIn)).map (fun s => s.tasks) =
        some [dialing,Tasks.spawn] := by
  exact ⟨rfl,rfl,rfl,rfl⟩

end AppHandle

end ClearCam.App.Usb
