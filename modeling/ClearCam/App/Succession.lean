import ClearCam.App.Loops
import ClearCam.Session.Snapshot

/-! Sessions that run one after the other over the one snapshot: whose device and whose
telemetry it shows. The snapshot outlives a session, and the next session takes over
what it holds. -/
namespace ClearCam.App
open ClearCam.Protocol ClearCam.Session ClearCam.Library

def Task.isRunning : Task → Bool
  | .running _ => true
  | _ => false

/-- Its control plane has been started, and may have returned since. -/
def Task.begun : Task → Bool
  | .running _ | .returned | .outboundCleared | .done => true
  | _ => false

def AppState.running (app : AppState) (i : Nat) : Bool := (app.task i).any Task.isRunning

def AppState.begun (app : AppState) (i : Nat) : Bool := (app.task i).any Task.begun

def Label.message (i : Nat) : Label → Option ControlMessage
  | .plane j input => if j = i then input.message else none
  | _ => none

def received (i : Nat) (labels : List Label) : List ControlMessage := labels.filterMap (Label.message i)

def Label.starts : Label → Option Nat
  | .start i _ => some i
  | _ => none

/-- The steps of a session's control plane, its start among them. -/
def Label.ofPlane : Label → Bool
  | .start _ _ | .plane _ _ => true
  | _ => false

theorem starts_of_aside (label : Label) (aside : label.ofPlane = false) : label.starts = none := by
  cases label with
  | start i now => cases aside
  | _ => rfl

theorem message_of_aside (label : Label) (i : Nat) (aside : label.ofPlane = false) : label.message i = none := by
  cases label with
  | plane j input => cases aside
  | _ => rfl

theorem setTask_task (app : AppState) (k i : Nat) (before task : Task) (held : app.task k = some before) :
    (app.setTask k task).task i = if k = i then some task else app.task i := by
  obtain ⟨session,found,rfl⟩ := Option.map_eq_some_iff.mp held
  simp only [AppState.task,AppState.setTask,AppState.modify,List.getElem?_modify]
  split
  · rename_i same
    subst same
    simp [found]
  · simp

theorem setMedia_task (app : AppState) (k i : Nat) (media : Media) : (app.setMedia k media).task i = app.task i := by
  simp only [AppState.task,AppState.setMedia,AppState.modify,List.getElem?_modify]
  cases app.sessions[i]? with
  | none => simp
  | some session => split <;> rfl

/-- What a step can do to the running session and to the snapshot: any step but a start or a
control plane's own leaves the running session, the device and the telemetry alone and
does not declare anyone ready. -/
inductive Turn (app next : AppState) (label : Label) : Prop where
  | other (aside : label.ofPlane = false)
      (running : ∀ i plane, next.task i = some (.running plane) ↔ app.task i = some (.running plane))
      (begun : ∀ i, app.begun i = true → next.begun i = true)
      (device : next.channels.snapshot.device = app.channels.snapshot.device)
      (telemetry : next.channels.snapshot.lastTelemetry = app.channels.snapshot.lastTelemetry)
      (state : ∀ transport, next.channels.snapshot.state = .ready transport →
        app.channels.snapshot.state = .ready transport)
  | started (i now : Nat) (transport : TransportTag) (plane : Plane) (same : label = .start i now)
      (spawned : app.task i = some .spawned) (live : plane.returned = false)
      (tasks : ∀ j, next.task j = if i = j then some (.running plane) else app.task j)
      (channels : next.channels = app.channels.broadcast (.ready (some transport)) none none)
  | handled (i : Nat) (input : PlaneInput) (plane after : Plane) (same : label = .plane i input)
      (held : app.task i = some (.running plane))
      (result : plane.handle app.channels input = (next.channels,after))
      (tasks : ∀ j, next.task j =
        if i = j then some (if after.returned then .returned else .running after) else app.task j)

/-- A step of another task that sets the task of a session which is not running. -/
theorem Turn.moved (app next : AppState) (label : Label) (k : Nat) (after : Task)
    (aside : label.ofPlane = false) (resting : app.running k = false ∧ after.isRunning = false)
    (forward : app.begun k = true → after.begun = true)
    (tasks : ∀ i, next.task i = if k = i then some after else app.task i)
    (channels : next.channels = app.channels) : Turn app next label := by
  refine .other aside ?_ ?_ (by rw [channels]) (by rw [channels]) (by rw [channels]; exact fun _ => id)
  · intro i plane
    rw [tasks i]
    by_cases same : k = i
    · subst same
      rw [if_pos rfl]
      constructor
      · intro running
        obtain rfl := Option.some.inj running
        cases resting.2
      · intro running
        rw [AppState.running,running] at resting
        cases resting.1
    · rw [if_neg same]
  · intro i begun
    rw [AppState.begun,tasks i]
    by_cases same : k = i
    · subst same
      rw [if_pos rfl]
      exact forward begun
    · rw [if_neg same]
      exact begun

theorem Turn.unmoved (app next : AppState) (label : Label) (aside : label.ofPlane = false)
    (tasks : ∀ i, next.task i = app.task i)
    (device : next.channels.snapshot.device = app.channels.snapshot.device)
    (telemetry : next.channels.snapshot.lastTelemetry = app.channels.snapshot.lastTelemetry)
    (state : ∀ transport, next.channels.snapshot.state = .ready transport →
      app.channels.snapshot.state = .ready transport) : Turn app next label := by
  refine .other aside ?_ ?_ device telemetry state
  · intro i plane
    rw [tasks i]
  · intro i begun
    rw [AppState.begun,tasks i]
    exact begun

theorem Turn.accepted (app next : AppState) (label : Label) (fresh : Session) (aside : label.ofPlane = false)
    (new : fresh.task = .accepted) (sessions : next.sessions = app.sessions ++ [fresh])
    (channels : next.channels = app.channels) : Turn app next label := by
  have absent : app.task app.sessions.length = none := by simp [AppState.task]
  refine Turn.moved app next label app.sessions.length .accepted aside ?_ ?_ ?_ channels
  · rw [AppState.running,absent]
    exact ⟨rfl,rfl⟩
  · rw [AppState.begun,absent]
    intro begun
    cases begun
  · intro i
    rw [AppState.task,sessions,List.getElem?_append]
    split
    · rename_i inside
      rw [if_neg (by omega)]
      rfl
    · rename_i outside
      by_cases last : app.sessions.length = i
      · subst last
        simp [new]
      · have beyond : app.task i = none := by
          simp only [AppState.task,Option.map_eq_none_iff,List.getElem?_eq_none_iff]
          omega
        rw [if_neg last,beyond,Option.map_eq_none_iff,List.getElem?_eq_none_iff]
        simp
        omega

/-- A step of a loop, which moves the session it has in hand. -/
theorem Turn.inHand (app next : AppState) (label : Label) (k : Nat) (transport : TransportTag) (before after : Task)
    (aside : label.ofPlane = false) (held : app.At transport k before) (waiting : before.inHand = true)
    (resting : after.isRunning = false) (tasks : ∀ i, next.task i = (app.setTask k after).task i)
    (channels : next.channels = app.channels) : Turn app next label := by
  have task := held.task_eq
  have unbegun : app.begun k = false ∧ app.running k = false := by
    rw [AppState.begun,AppState.running,task]
    cases before with
    | accepted | published | counted | withdrawing => exact ⟨rfl,rfl⟩
    | _ => cases waiting
  refine Turn.moved app next label k after aside ⟨unbegun.2,resting⟩ ?_ ?_ channels
  · intro begun
    rw [unbegun.1] at begun
    cases begun
  · intro i
    rw [tasks i]
    exact setTask_task app k i before after task

theorem step_turn (token : String) (app next : AppState) (label : Label) (consistent : Consistent app)
    (taken : app.step token label = some next) : Turn app next label := by
  have stepped := step_stepped token app next label taken
  have ⟨wifi,usb⟩ := consistent
  cases stepped with
  | wifiAccepted | usbAccepted => exact Turn.accepted app _ _ _ rfl rfl rfl rfl
  | wifiPublished socket k pc =>
    exact Turn.inHand app _ _ k .wifi .accepted .spawned rfl (wifi k _ (by rw [pc]; rfl)) rfl rfl
      (fun _ => rfl) rfl
  | handedOver recv socket k binding pc greeted known =>
    exact Turn.unmoved app _ _ rfl (fun i => setMedia_task app k i _) rfl rfl fun _ => id
  | attached k socket delivered =>
    exact Turn.unmoved app _ _ rfl (fun i => setMedia_task app k i _) rfl rfl fun _ => id
  | started k now session found spawned channels plane begun =>
    have task : app.task k = some .spawned := by simp [AppState.task,found,spawned]
    obtain ⟨rfl,rfl⟩ := Prod.mk.inj begun
    exact .started k now session.transport _ rfl task rfl (fun j => setTask_task app k j _ _ task) rfl
  | planeStepped k input plane after channels held handled =>
    exact .handled k input plane after rfl held handled fun j => setTask_task app k j _ _ held
  | outboundCleared k held =>
    refine Turn.moved app _ _ k .outboundCleared rfl ?_ (fun _ => rfl)
      (fun i => setTask_task app k i _ _ held) rfl
    rw [AppState.running,held]
    exact ⟨rfl,rfl⟩
  | speedtestCleared k held =>
    refine Turn.moved app _ _ k .done rfl ?_ (fun _ => rfl)
      (fun i => setTask_task app k i _ _ held) rfl
    rw [AppState.running,held]
    exact ⟨rfl,rfl⟩
  | usbPublished dialed k pc =>
    exact Turn.inHand app _ _ k .usb .accepted .published rfl (usb k _ (by rw [pc]; rfl)) rfl rfl
      (fun _ => rfl) rfl
  | usbCounted dialed k pc =>
    exact Turn.inHand app _ _ k .usb .published .counted rfl (usb k _ (by rw [pc]; rfl)) rfl rfl
      (fun _ => rfl) rfl
  | usbGreeted recv dialed k binding pc greeted =>
    exact Turn.inHand app _ _ k .usb .counted .spawned rfl (usb k _ (by rw [pc]; rfl)) rfl rfl
      (fun i => setMedia_task _ k i _) rfl
  | usbUngreeted recv dialed k error pc failed =>
    exact Turn.inHand app _ _ k .usb .counted .withdrawing rfl (usb k _ (by rw [pc]; rfl)) rfl rfl
      (fun _ => rfl) rfl
  | usbWithdrawn dialed k pc =>
    exact Turn.inHand app _ _ k .usb .withdrawing .abandoned rfl (usb k _ (by rw [pc]; rfl)) rfl rfl
      (fun _ => rfl) rfl
  | controlTaken | wifiRefused | usbTaken | usbSkipped | usbRefused =>
    -- these set the state, and not to ready
    exact Turn.unmoved app _ _ rfl (fun _ => rfl) rfl rfl fun _ shown => (by cases shown)
  | _ => exact Turn.unmoved app _ _ rfl (fun _ => rfl) rfl rfl fun _ => id

/-- A session is started while no other is running. -/
def Alone (app : AppState) (label : Label) : Prop :=
  label.starts.isSome → ∀ session ∈ app.sessions, session.task.isRunning = false

/-- A session is started while the snapshot tells of no device and no telemetry. -/
def Blank (app : AppState) (label : Label) : Prop :=
  label.starts.isSome → app.channels.snapshot.device = none ∧ app.channels.snapshot.lastTelemetry = none

instance (app : AppState) (label : Label) : Decidable (Alone app label) :=
  inferInstanceAs (Decidable (_ → ∀ session ∈ app.sessions, _))

instance (app : AppState) (label : Label) : Decidable (Blank app label) :=
  inferInstanceAs (Decidable (_ → _ ∧ _))

/-- Whenever the state is ready, it is so for a session that is running, and device and telemetry
are missing or made of that session's messages only. -/
def OwnSnapshot (app : AppState) (history : List Label) : Prop :=
  ∀ transport, app.channels.snapshot.state = .ready transport →
    (∃ i, app.running i = true) ∧ ∀ i, app.running i = true →
      (app.channels.snapshot.device = none ∨
        app.channels.snapshot.device = ownDevice (received i history)) ∧
      (app.channels.snapshot.lastTelemetry = none ∨
        app.channels.snapshot.lastTelemetry = ownTelemetry (received i history))

theorem running_iff (app : AppState) (i : Nat) :
    app.running i = true ↔ ∃ plane, app.task i = some (.running plane) := by
  rw [AppState.running]
  cases app.task i with
  | none => simp
  | some task => cases task <;> simp [Task.isRunning]

theorem Alone.none_running (app : AppState) (label : Label) (i : Nat) (alone : Alone app label)
    (start : label.starts = some i) (j : Nat) : ¬app.running j = true := by
  apply Bool.eq_false_iff.mp
  rw [AppState.running,AppState.task]
  cases found : app.sessions[j]? with
  | none => rfl
  | some session => exact alone (by rw [start]; rfl) session (List.mem_of_getElem? found)

theorem received_append (i : Nat) (history : List Label) (label : Label) :
    received i (history ++ [label]) = received i history ++ (label.message i).toList := by
  rw [received,List.filterMap_append]
  cases heard : label.message i with
  | none => simp [received,heard]
  | some message => simp [received,heard]

/-- The invariant of runs in which one session runs at a time. -/
structure Succeeds (app : AppState) (history : List Label) : Prop where
  consistent : Consistent app
  unheard : ∀ i, app.begun i = false → received i history = []
  live : ∀ i plane, app.task i = some (.running plane) → plane.returned = false
  only : ∀ i j, app.running i = true → app.running j = true → i = j
  ready : ∀ transport, app.channels.snapshot.state = .ready transport → ∃ i, app.running i = true

theorem Succeeds.step_unheard (app next : AppState) (history : List Label) (label : Label) (turn : Turn app next label)
    (unheard : ∀ i, app.begun i = false → received i history = []) (i : Nat) (unbegun : next.begun i = false) :
    received i (history ++ [label]) = [] := by
  rw [received_append]
  cases turn with
  | other aside running begun device telemetry state =>
    have before : app.begun i = false := by
      cases was : app.begun i with
      | false => rfl
      | true => rw [begun i was] at unbegun; cases unbegun
    rw [unheard i before,message_of_aside label i aside]
    rfl
  | started k now transport plane same spawned live tasks channels =>
    subst same
    have apart : k ≠ i := by
      intro equal
      rw [AppState.begun,tasks i,if_pos equal] at unbegun
      cases unbegun
    rw [AppState.begun,tasks i,if_neg apart] at unbegun
    rw [unheard i unbegun]
    rfl
  | handled k input plane after same held result tasks =>
    subst same
    have apart : k ≠ i := by
      intro equal
      rw [AppState.begun,tasks i,if_pos equal] at unbegun
      cases ended : after.returned <;> simp [ended,Task.begun] at unbegun
    rw [AppState.begun,tasks i,if_neg apart] at unbegun
    rw [unheard i unbegun,Label.message,if_neg apart]
    rfl

/-- Whoever runs after a step ran before it, or was started by it. -/
theorem Turn.runs (app next : AppState) (label : Label) (turn : Turn app next label) (j : Nat)
    (running : next.running j = true) : app.running j = true ∨ label.starts = some j := by
  rw [running_iff] at running ⊢
  obtain ⟨plane,task⟩ := running
  cases turn with
  | other aside same begun device telemetry state => exact .inl ⟨plane,(same j plane).mp task⟩
  | started k now transport begun same spawned live tasks channels =>
    rw [tasks j] at task
    by_cases equal : k = j
    · subst same
      exact .inr (congrArg some equal)
    · rw [if_neg equal] at task
      exact .inl ⟨plane,task⟩
  | handled k input before after same held result tasks =>
    rw [tasks j] at task
    by_cases equal : k = j
    · subst equal
      exact .inl ⟨before,held⟩
    · rw [if_neg equal] at task
      exact .inl ⟨plane,task⟩

theorem Succeeds.step_live (app next : AppState) (label : Label) (turn : Turn app next label)
    (live : ∀ i plane, app.task i = some (.running plane) → plane.returned = false) (i : Nat) (plane : Plane)
    (task : next.task i = some (.running plane)) : plane.returned = false := by
  cases turn with
  | other aside same begun device telemetry state => exact live i plane ((same i plane).mp task)
  | started k now transport begun same spawned fresh tasks channels =>
    rw [tasks i] at task
    by_cases equal : k = i
    · rw [if_pos equal] at task
      cases task
      exact fresh
    · rw [if_neg equal] at task
      exact live i plane task
  | handled k input before after same held result tasks =>
    rw [tasks i] at task
    by_cases equal : k = i
    · rw [if_pos equal] at task
      cases ended : after.returned with
      | true => simp [ended] at task
      | false =>
        obtain rfl : after = plane := by simpa [ended] using task
        exact ended
    · rw [if_neg equal] at task
      exact live i plane task

theorem Succeeds.step_only (app next : AppState) (label : Label) (turn : Turn app next label)
    (alone : Alone app label) (only : ∀ i j, app.running i = true → app.running j = true → i = j) (i j : Nat)
    (first : next.running i = true) (second : next.running j = true) : i = j := by
  rcases Turn.runs app next label turn i first with before | starts
  · rcases Turn.runs app next label turn j second with also | starts
    · exact only i j before also
    · exact absurd before (alone.none_running app label j starts i)
  · rcases Turn.runs app next label turn j second with also | again
    · exact absurd also (alone.none_running app label i starts j)
    · rw [starts] at again
      exact Option.some.inj again

theorem Succeeds.step_ready (app next : AppState) (history : List Label) (label : Label)
    (succeeds : Succeeds app history) (turn : Turn app next label) (transport : Option TransportTag)
    (shown : next.channels.snapshot.state = .ready transport) : ∃ i, next.running i = true := by
  cases turn with
  | other aside same begun device telemetry state =>
    obtain ⟨i,running⟩ := succeeds.ready transport (state transport shown)
    obtain ⟨plane,task⟩ := (running_iff app i).mp running
    exact ⟨i,(running_iff next i).mpr ⟨plane,(same i plane).mpr task⟩⟩
  | started k now tag plane same spawned live tasks channels =>
    exact ⟨k,(running_iff next k).mpr ⟨plane,by rw [tasks k,if_pos rfl]⟩⟩
  | handled k input before after same held result tasks =>
    have handled := Plane.handle_handled app.channels before input
    rw [result] at handled
    cases ended : after.returned with
    | true => exact absurd shown (handled.ended ended (succeeds.live k before held) transport)
    | false =>
      refine ⟨k,(running_iff next k).mpr ⟨after,?_⟩⟩
      rw [tasks k,if_pos rfl,ended]
      rfl

theorem Succeeds.step (token : String) (app next : AppState) (history : List Label) (label : Label)
    (succeeds : Succeeds app history) (alone : Alone app label) (taken : app.step token label = some next) :
    Succeeds next (history ++ [label]) := by
  have turn := step_turn token app next label succeeds.consistent taken
  exact {
    consistent := step_consistent token app next label succeeds.consistent taken
    unheard := Succeeds.step_unheard app next history label turn succeeds.unheard
    live := Succeeds.step_live app next label turn succeeds.live
    only := Succeeds.step_only app next label turn alone succeeds.only
    ready := succeeds.step_ready app next history label turn}

/-- A session that is started shows only what is its own, which is nothing yet, so the snapshot
it was started over was blank. -/
theorem Succeeds.blank_of_own (app next : AppState) (history : List Label) (label : Label)
    (succeeds : Succeeds app history) (turn : Turn app next label)
    (own : OwnSnapshot next (history ++ [label])) : Blank app label := by
  intro starts
  cases turn with
  | other aside same begun device telemetry state =>
    rw [starts_of_aside label aside] at starts
    cases starts
  | started k now tag plane same spawned live tasks channels =>
    subst same
    have running : next.running k = true := (running_iff next k).mpr ⟨plane,by rw [tasks k,if_pos rfl]⟩
    have unbegun : app.begun k = false := by
      rw [AppState.begun,spawned]
      rfl
    have shown : next.channels.snapshot.state = .ready (some tag) := by
      rw [channels]
      rfl
    have fresh := (own (some tag) shown).2 k running
    rw [received_append,succeeds.unheard k unbegun,channels] at fresh
    exact ⟨or_self_iff.mp fresh.1,or_self_iff.mp fresh.2⟩
  | handled k input plane after same held result tasks =>
    subst same
    cases starts

/-- The running session's own messages account for the device and the telemetry shown. -/
def Accounted (app : AppState) (history : List Label) : Prop :=
  ∀ i, app.running i = true →
    app.channels.snapshot.device = ownDevice (received i history) ∧
    app.channels.snapshot.lastTelemetry = ownTelemetry (received i history)

theorem Accounted.step (token : String) (app next : AppState) (history : List Label) (label : Label)
    (succeeds : Succeeds app history) (accounted : Accounted app history) (alone : Alone app label)
    (blank : Blank app label) (taken : app.step token label = some next) :
    Accounted next (history ++ [label]) := by
  have turn := step_turn token app next label succeeds.consistent taken
  intro i running
  have ran := Turn.runs app next label turn i running
  rw [received_append]
  cases turn with
  | other aside same begun device telemetry state =>
    have before : app.running i = true := by
      rcases ran with before | starts
      · exact before
      · rw [starts_of_aside label aside] at starts
        cases starts
    rw [device,telemetry,message_of_aside label i aside,Option.toList_none,List.append_nil]
    exact accounted i before
  | started k now tag plane same spawned live tasks channels =>
    subst same
    have equal : k = i := by
      rcases ran with before | starts
      · exact absurd before (alone.none_running app _ k rfl i)
      · exact Option.some.inj starts
    have unbegun : app.begun i = false := by
      rw [AppState.begun,← equal,spawned]
      rfl
    obtain ⟨device,telemetry⟩ := blank rfl
    rw [channels,succeeds.unheard i unbegun]
    exact ⟨device,telemetry⟩
  | handled k input before after same held result tasks =>
    subst same
    have first : app.running k = true := (running_iff app k).mpr ⟨before,held⟩
    have equal : k = i := by
      rcases ran with earlier | starts
      · exact succeeds.only k i first earlier
      · cases starts
    subst equal
    have handled := Plane.handle_handled app.channels before input
    rw [result] at handled
    obtain ⟨device,telemetry⟩ := accounted k first
    rw [handled.device,handled.telemetry,device,telemetry,Label.message,if_pos rfl,ownDevice,ownTelemetry,
      ownDevice,ownTelemetry,List.foldl_append,List.foldl_append]
    exact ⟨rfl,rfl⟩

theorem start_succeeds (controlPort mediaPort : UInt16) : Succeeds (.start controlPort mediaPort) [] := by
  refine ⟨start_consistent controlPort mediaPort,fun _ _ => rfl,?_,?_,?_⟩
  · intro i plane task
    cases task
  · intro i j running
    cases running
  · intro transport shown
    cases shown

theorem run_succeeds (token : String) (controlPort mediaPort : UInt16) (labels : List Label) (app : AppState)
    (alone : Along (AppState.step token) Alone (.start controlPort mediaPort) labels)
    (run : exec (AppState.step token) (.start controlPort mediaPort) labels = some app) :
    Succeeds app labels := by
  refine exec_history (AppState.step token) Alone Succeeds ?_ labels _ app [] (start_succeeds _ _) alone run
  intro here history label next succeeds condition taken
  exact succeeds.step token here next history label condition taken

theorem run_accounted (token : String) (controlPort mediaPort : UInt16) (labels : List Label) (app : AppState)
    (alone : Along (AppState.step token) Alone (.start controlPort mediaPort) labels)
    (blank : Along (AppState.step token) Blank (.start controlPort mediaPort) labels)
    (run : exec (AppState.step token) (.start controlPort mediaPort) labels = some app) :
    Accounted app labels := by
  have both := exec_history (AppState.step token) (fun app label => Alone app label ∧ Blank app label)
    (fun app history => Succeeds app history ∧ Accounted app history) ?_ labels _ app []
    ⟨start_succeeds controlPort mediaPort,?_⟩ (along_and _ _ _ labels _ alone blank) run
  · exact both.2
  · intro here history label next kept condition taken
    obtain ⟨succeeds,accounted⟩ := kept
    exact ⟨succeeds.step token here next history label condition.1 taken,
      accounted.step token here next history label succeeds condition.1 condition.2 taken⟩
  · intro i running
    cases running

/-- In a run whose sessions are run one after the other, every state that is ready shows the
running session's own device and telemetry exactly when every session is started over a
snapshot that has none: nothing clears what an earlier session left there. -/
theorem ready_shows_own_session_iff (token : String) (controlPort mediaPort : UInt16) (labels : List Label)
    (last : AppState) (run : exec (AppState.step token) (.start controlPort mediaPort) labels = some last)
    (alone : Along (AppState.step token) Alone (.start controlPort mediaPort) labels) :
    (∀ before after app, labels = before ++ after →
      exec (AppState.step token) (.start controlPort mediaPort) before = some app → OwnSnapshot app before) ↔
    Along (AppState.step token) Blank (.start controlPort mediaPort) labels := by
  constructor
  · intro shows
    rw [along_iff]
    intro before label after app split reached
    rw [split] at alone
    have succeeds := run_succeeds token controlPort mediaPort before app (along_append_left _ _ _ _ _ alone) reached
    obtain ⟨next,taken⟩ : ∃ next, app.step token label = some next := by
      rw [split,exec_append,reached] at run
      obtain ⟨next,taken,_⟩ := (exec_cons _ _ _ _ _).mp run
      exact ⟨next,taken⟩
    have later : exec (AppState.step token) (.start controlPort mediaPort) (before ++ [label]) = some next := by
      rw [exec_append,reached]
      exact (exec_cons _ _ _ _ _).mpr ⟨next,taken,rfl⟩
    apply succeeds.blank_of_own app next before label
    · exact step_turn token app next label succeeds.consistent taken
    · exact shows (before ++ [label]) after next (by rw [split,List.append_assoc]; rfl) later
  · intro blank before after app split reached transport shown
    rw [split] at alone blank
    have alone := along_append_left _ _ _ _ _ alone
    have succeeds := run_succeeds token controlPort mediaPort before app alone reached
    have accounted := run_accounted token controlPort mediaPort before app alone
      (along_append_left _ _ _ _ _ blank) reached
    refine ⟨succeeds.ready transport shown,?_⟩
    intro i running
    obtain ⟨device,telemetry⟩ := accounted i running
    exact ⟨.inr device,.inr telemetry⟩

def oldPhone : DeviceInfo := ⟨"iPhone15,3","18.0",0.9,.charging,.nominal,true⟩

def introduced : List Label :=
  oneSession ++ [.plane 0 (.recv 0 0 none (.ok ⟨3,none,.deviceInfo oldPhone⟩))]

theorem introduced_shows_own_device :
    ∃ app, exec (AppState.step "t") (.start 7000 7001) introduced = some app ∧
      app.channels.snapshot.device = some (.fromDeviceInfo oldPhone) ∧ OwnSnapshot app introduced := by
  refine ⟨_,rfl,rfl,?_⟩
  have own := (ready_shows_own_session_iff "t" 7000 7001 introduced _ rfl (by decide +kernel)).mpr (by decide +kernel)
  exact own introduced [] _ (List.append_nil _).symm rfl

/-- The phone says BYE and another one connects, which has said nothing about itself yet. -/
def succeeded : List Label :=
  introduced ++ [.plane 0 (.recv 0 0 none (.ok ⟨4,none,.bye ⟨"done"⟩⟩)),.clearOutbound 0,.clearSpeedtest 0,
    .connect (.control 1),.wifiTake,.wifiHandshake (pairedWire "t") "b",.wifiPublish,.start 1 0]

theorem next_session_shows_old_device :
    Along (AppState.step "t") Alone (.start 7000 7001) succeeded ∧
    ∃ app, exec (AppState.step "t") (.start 7000 7001) succeeded = some app ∧
      app.channels.snapshot.state = .ready (some .wifi) ∧ app.running 1 = true ∧ received 1 succeeded = [] ∧
      app.channels.snapshot.device = some (.fromDeviceInfo oldPhone) ∧ ¬OwnSnapshot app succeeded := by
  refine ⟨by decide +kernel,_,rfl,rfl,rfl,rfl,rfl,?_⟩
  intro own
  rcases ((own (some .wifi) rfl).2 1 rfl).1 with missing | told
  · cases missing
  · cases told

end ClearCam.App
