import ClearCam.App.Loops

/-! Who owns the two per-session slots. The most recently accepted session should, from
the moment it has written a slot until its control plane returns; any session may
overwrite or clear a slot at its own end, whoever's value is in it. -/
namespace ClearCam.App
open ClearCam.Protocol ClearCam.Session ClearCam.Library

/-- The session's sender has gone into the slot and its control plane has not returned. -/
def Task.holdsOutbound : Task → Bool
  | .published | .counted | .spawned | .running _ => true
  | _ => false

def Session.pipelineStarted (session : Session) : Bool :=
  match session.media with
  | .attached _ => true
  | _ => false

/-- The session's counter has gone into the slot and its session is not over. -/
def Session.holdsCounter (session : Session) : Bool :=
  match session.task with
  | .counted => true
  | .accepted | .published | .spawned | .running _ => session.pipelineStarted
  | _ => false

namespace AppState

def writesOutbound (app : AppState) : Label → Option Nat
  | .wifiPublish => match app.wifi with
    | .publishing _ i => some i
    | _ => none
  | .usbPublish => match app.usb with
    | .publishing _ i => some i
    | _ => none
  | .usbWithdraw => match app.usb with
    | .withdrawing _ i => some i
    | _ => none
  | .clearOutbound i => some i
  | _ => none

def writesSpeedtest (app : AppState) : Label → Option Nat
  | .usbCount => match app.usb with
    | .counting _ i => some i
    | _ => none
  | .usbHello recv => match app.usb, readMediaHello recv with
    | .greeting _ i, .error _ => some i
    | _, _ => none
  | .attach i => some i
  | .clearSpeedtest i => some i
  | _ => none

def Latest (app : AppState) (i : Nat) (session : Session) : Prop :=
  i + 1 = app.sessions.length ∧ app.sessions[i]? = some session

/-- `set_camera`: the session the message is queued for. The receiver is dropped when the
control plane returns or is given up. -/
def setCamera (app : AppState) (cameraId : String) : Except String (Nat × ControlMessage) :=
  match app.outbound with
  | none => .error "no active session"
  | some i => match app.task i with
    | some .returned | some .outboundCleared | some .done | some .abandoned | none =>
      .error "channel closed"
    | some _ => .ok (i,.setCamera ⟨cameraId⟩)

/-- The sender and the counter the ramp of `run_speedtest` uses; without both it falls
back on telemetry. -/
def speedtestTargets (app : AppState) : Option (Nat × Nat) :=
  match app.outbound, app.speedtestCounter with
  | some sender, some counter => some (sender,counter)
  | _, _ => none

end AppState

/-- A slot that the most recently accepted session holds is written for no other. -/
def Orderly (app : AppState) (label : Label) : Prop :=
  ∀ session ∈ app.sessions.getLast?,
    (session.task.holdsOutbound → ∀ i ∈ app.writesOutbound label, i + 1 = app.sessions.length) ∧
    (session.holdsCounter → ∀ i ∈ app.writesSpeedtest label, i + 1 = app.sessions.length)

instance (app : AppState) (label : Label) : Decidable (Orderly app label) :=
  inferInstanceAs (Decidable (∀ session ∈ app.sessions.getLast?, _))

theorem AppState.Latest.getLast (app : AppState) (j : Nat) (session : Session)
    (latest : app.Latest j session) : session ∈ app.sessions.getLast? := by
  obtain ⟨last,found⟩ := latest
  have index : app.sessions.length - 1 = j := by omega
  rw [List.getLast?_eq_getElem?,index]
  exact found

/-- One slot across a step that changes one session: `holds` says who has put a value into it. -/
theorem slot_kept (app next : AppState) (k : Nat) (f : Session → Session) (holds : Session → Bool)
    (before after : Option Nat) (sessions : next.sessions = app.sessions.modify k f)
    (owned : ∀ j session, app.Latest j session → holds session → before = some j)
    (written : after = before ∨ ∀ j session, app.Latest j session → holds session → k = j)
    (moved : ∀ session, app.sessions[k]? = some session → holds (f session) →
      after = some k ∨ holds session ∧ after = before) :
    ∀ j session, next.Latest j session → holds session → after = some j := by
  intro j session latest held
  obtain ⟨last,found⟩ := latest
  rw [sessions] at last found
  obtain ⟨earlier,was,rfl⟩ := modify_session app.sessions k j f session found
  have latest : app.Latest j earlier := ⟨by simpa using last,was⟩
  by_cases same : k = j
  · subst same
    rw [if_pos rfl] at held
    obtain own | ⟨already,kept⟩ := moved earlier was held
    · exact own
    · rw [kept]
      exact owned k earlier latest already
  · rw [if_neg same] at held
    obtain kept | only := written
    · rw [kept]
      exact owned j earlier latest held
    · exact absurd (only j earlier latest held) same

/-- A slot that the most recently accepted session holds has that session's value in it. -/
structure Owned (app : AppState) : Prop where
  outbound : ∀ j session, app.Latest j session → session.task.holdsOutbound → app.outbound = some j
  counter : ∀ j session, app.Latest j session → session.holdsCounter → app.speedtestCounter = some j

theorem Owned.move (app next : AppState) (label : Label) (k : Nat) (f : Session → Session)
    (owned : Owned app) (orderly : Orderly app label) (sessions : next.sessions = app.sessions.modify k f)
    (slot : next.outbound = app.outbound ∨ app.writesOutbound label = some k)
    (meter : next.speedtestCounter = app.speedtestCounter ∨ app.writesSpeedtest label = some k)
    (outbound : ∀ session, app.sessions[k]? = some session → (f session).task.holdsOutbound →
      next.outbound = some k ∨ session.task.holdsOutbound ∧ next.outbound = app.outbound)
    (counter : ∀ session, app.sessions[k]? = some session → (f session).holdsCounter →
      next.speedtestCounter = some k ∨ session.holdsCounter ∧ next.speedtestCounter = app.speedtestCounter) :
    Owned next := by
  constructor
  · apply slot_kept app next k f (fun session => session.task.holdsOutbound) app.outbound next.outbound sessions
      owned.outbound _ outbound
    refine slot.imp_right fun writes j session latest holds => ?_
    have own := (orderly session (latest.getLast app j session)).1 holds k writes
    have last := latest.1
    omega
  · apply slot_kept app next k f Session.holdsCounter app.speedtestCounter next.speedtestCounter sessions
      owned.counter _ counter
    refine meter.imp_right fun writes j session latest holds => ?_
    have own := (orderly session (latest.getLast app j session)).2 holds k writes
    have last := latest.1
    omega

theorem Owned.unchanged (app next : AppState) (owned : Owned app) (sessions : next.sessions = app.sessions)
    (outbound : next.outbound = app.outbound)
    (counter : next.speedtestCounter = app.speedtestCounter) : Owned next := by
  constructor
  · intro j session latest
    rw [outbound]
    exact owned.outbound j session (by rwa [AppState.Latest,sessions] at latest)
  · intro j session latest
    rw [counter]
    exact owned.counter j session (by rwa [AppState.Latest,sessions] at latest)

theorem Owned.accept (app next : AppState) (fresh : Session) (sessions : next.sessions = app.sessions ++ [fresh])
    (task : fresh.task = .accepted) (media : fresh.media = .waiting) : Owned next := by
  have newest (j : Nat) (session : Session) (latest : next.Latest j session) : session = fresh := by
    obtain ⟨last,found⟩ := latest
    rw [sessions] at last found
    have index : j = app.sessions.length := by simpa using last
    rw [index] at found
    simpa using found.symm
  constructor
  · intro j session latest holds
    rw [newest j session latest,task] at holds
    cases holds
  · intro j session latest holds
    rw [newest j session latest,Session.holdsCounter,task,Session.pipelineStarted,media] at holds
    cases holds

theorem step_owned (token : String) (app next : AppState) (label : Label) (consistent : Consistent app)
    (owned : Owned app) (orderly : Orderly app label) (taken : app.step token label = some next) :
    Owned next := by
  have tasked (k : Nat) (task : Task) (session : Session) (held : app.task k = some task)
      (found : app.sessions[k]? = some session) : session.task = task := by
    simpa [AppState.task,found] using held
  have stands (transport : TransportTag) (k : Nat) (task : Task) (session : Session)
      (stood : app.At transport k task) (found : app.sessions[k]? = some session) : session.task = task :=
    tasked k task session stood.task_eq found
  have stepped := step_stepped token app next label taken
  cases stepped with
  | wifiAccepted wire left uuid socket accepted pc ok => exact Owned.accept app _ _ rfl rfl rfl
  | usbAccepted wire left uuid key dialed accepted pc ok => exact Owned.accept app _ _ rfl rfl rfl
  | wifiPublished socket k pc =>
    refine owned.move app _ _ k _ orderly rfl (.inr ?_) (.inl rfl) (fun _ _ _ => .inl rfl) ?_
    · simp [AppState.writesOutbound,pc]
    · intro session found holds
      have task := stands .wifi k .accepted session (consistent.wifi k _ (by rw [pc]; rfl)) found
      refine .inr ⟨?_,rfl⟩
      rw [Session.holdsCounter,task]
      exact holds
  | handedOver recv socket k binding pc greeted known =>
    refine owned.move app _ _ k _ orderly rfl (.inl rfl) (.inl rfl) (fun _ _ holds => .inr ⟨holds,rfl⟩) ?_
    intro session found holds
    refine .inr ⟨?_,rfl⟩
    -- a stream in the channel starts no pipeline, so the counter was held for another reason
    simp only [Session.holdsCounter,Session.pipelineStarted] at holds ⊢
    cases task : session.task with
    | counted => rfl
    | _ => simp [task] at holds
  | attached k socket delivered =>
    exact owned.move app _ _ k _ orderly rfl (.inl rfl) (.inr rfl) (fun _ _ holds => .inr ⟨holds,rfl⟩)
      (fun _ _ _ => .inl rfl)
  | started k now session found spawned channels plane begun =>
    refine owned.move app _ _ k _ orderly rfl (.inl rfl) (.inl rfl) ?_ ?_
    · intro other held _
      obtain rfl : session = other := by simpa [found] using held
      exact .inr ⟨by rw [spawned]; rfl,rfl⟩
    · intro other held holds
      obtain rfl : session = other := by simpa [found] using held
      refine .inr ⟨?_,rfl⟩
      rw [Session.holdsCounter,spawned]
      exact holds
  | planeStepped k input plane after channels held handled =>
    refine owned.move app _ _ k _ orderly rfl (.inl rfl) (.inl rfl) ?_ ?_
    · intro session found _
      exact .inr ⟨by rw [tasked k _ session held found]; rfl,rfl⟩
    · intro session found holds
      refine .inr ⟨?_,rfl⟩
      rw [Session.holdsCounter,tasked k _ session held found]
      cases ended : after.returned with
      | true => simp [Session.holdsCounter,ended] at holds
      | false => simpa [Session.holdsCounter,Session.pipelineStarted,ended] using holds
  | outboundCleared k held =>
    exact owned.move app _ _ k _ orderly rfl (.inr rfl) (.inl rfl) (fun _ _ holds => (by cases holds))
      (fun _ _ holds => (by cases holds))
  | speedtestCleared k held =>
    exact owned.move app _ _ k _ orderly rfl (.inl rfl) (.inr rfl) (fun _ _ holds => (by cases holds))
      (fun _ _ holds => (by cases holds))
  | usbPublished dialed k pc =>
    refine owned.move app _ _ k _ orderly rfl (.inr ?_) (.inl rfl) (fun _ _ _ => .inl rfl) ?_
    · simp [AppState.writesOutbound,pc]
    · intro session found holds
      have task := stands .usb k .accepted session (consistent.usb k _ (by rw [pc]; rfl)) found
      refine .inr ⟨?_,rfl⟩
      rw [Session.holdsCounter,task]
      exact holds
  | usbCounted dialed k pc =>
    refine owned.move app _ _ k _ orderly rfl (.inl rfl) (.inr ?_) ?_ (fun _ _ _ => .inl rfl)
    · simp [AppState.writesSpeedtest,pc]
    · intro session found _
      have task := stands .usb k .published session (consistent.usb k _ (by rw [pc]; rfl)) found
      exact .inr ⟨by rw [task]; rfl,rfl⟩
  | usbGreeted recv dialed k binding pc greeted =>
    refine owned.move app _ _ k _ orderly (List.modify_modify_eq _ _ _ _) (.inl rfl) (.inl rfl) ?_ ?_
    · intro session found _
      have task := stands .usb k .counted session (consistent.usb k _ (by rw [pc]; rfl)) found
      exact .inr ⟨by rw [task]; rfl,rfl⟩
    · intro session found _
      have task := stands .usb k .counted session (consistent.usb k _ (by rw [pc]; rfl)) found
      exact .inr ⟨by rw [Session.holdsCounter,task],rfl⟩
  | usbUngreeted recv dialed k error pc failed =>
    refine owned.move app _ _ k _ orderly rfl (.inl rfl) (.inr ?_) (fun _ _ holds => (by cases holds))
      (fun _ _ holds => (by cases holds))
    simp [AppState.writesSpeedtest,pc,failed]
  | usbWithdrawn dialed k pc =>
    refine owned.move app _ _ k _ orderly rfl (.inr ?_) (.inl rfl) (fun _ _ holds => (by cases holds))
      (fun _ _ holds => (by cases holds))
    simp [AppState.writesOutbound,pc]
  | _ => exact owned.unchanged app _ rfl rfl rfl

/-- In every run whose steps write a slot that the most recently accepted session holds for
that session only, the slots are that session's until its control plane returns, and so
`set_camera` and `run_speedtest` act on it. -/
theorem latest_session_owns_slots (token : String) (controlPort mediaPort : UInt16) (labels : List Label)
    (app : AppState) (i : Nat) (session : Session)
    (orderly : Along (AppState.step token) Orderly (.start controlPort mediaPort) labels)
    (run : exec (AppState.step token) (.start controlPort mediaPort) labels = some app)
    (latest : app.Latest i session) (running : session.task.holdsOutbound) :
    app.outbound = some i ∧ (∀ cameraId, app.setCamera cameraId = .ok (i,.setCamera ⟨cameraId⟩)) ∧
      (session.pipelineStarted → app.speedtestCounter = some i ∧ app.speedtestTargets = some (i,i)) := by
  have inv : Consistent app ∧ Owned app := by
    refine exec_invariant (AppState.step token) Orderly (fun app => Consistent app ∧ Owned app) labels ?_ _ app
      ?_ orderly run
    · intro before label after _ kept condition taken
      rcases kept with ⟨consistent,owned⟩
      exact ⟨step_consistent token before after label consistent taken,
        step_owned token before after label consistent owned condition taken⟩
    · refine ⟨start_consistent controlPort mediaPort,⟨?_,?_⟩⟩
      · intro j first latest
        rcases latest with ⟨last,_⟩
        cases last
      · intro j first latest
        rcases latest with ⟨last,_⟩
        cases last
  have task : app.task i = some session.task := by simp [AppState.task,latest.2]
  have outbound : app.outbound = some i := inv.2.outbound i session latest running
  refine ⟨outbound,?_,?_⟩
  · intro cameraId
    simp only [AppState.setCamera,outbound,task]
    cases stage : session.task with
    | published | counted | spawned | running plane => rfl
    | _ => simp [stage,Task.holdsOutbound] at running
  · intro started
    have counter : app.speedtestCounter = some i := by
      apply inv.2.counter i session latest
      cases stage : session.task with
      | counted => simp [Session.holdsCounter,stage]
      | published | spawned | running plane => simpa [Session.holdsCounter,stage] using started
      | _ => simp [stage,Task.holdsOutbound] at running
    exact ⟨counter,by simp [AppState.speedtestTargets,outbound,counter]⟩

theorem single_session_owns_slots :
    ∃ app, exec (AppState.step "t") (.start 7000 7001) oneSession = some app ∧
      app.outbound = some 0 ∧ (∀ cameraId, app.setCamera cameraId = .ok (0,.setCamera ⟨cameraId⟩)) ∧
      app.speedtestTargets = some (0,0) := by
  have reached : ((exec (AppState.step "t") (.start 7000 7001) oneSession).map fun app =>
      app.sessions.map fun session => (session.task.holdsOutbound,session.pipelineStarted)) =
        some [(true,true)] := by
    decide +kernel
  obtain ⟨app,run,shape⟩ := Option.map_eq_some_iff.mp reached
  obtain ⟨session,single,flags⟩ := List.map_eq_singleton_iff.mp shape
  obtain ⟨running,started⟩ := Prod.mk.inj flags
  have owns := latest_session_owns_slots "t" 7000 7001 oneSession app 0 session (by decide +kernel) run
    ⟨by rw [single]; rfl,by rw [single]; rfl⟩ running
  exact ⟨app,run,owns.1,owns.2.1,(owns.2.2 started).2⟩

/-- A reconnect before the old session is declared dead: the old session's end clears the
slot of the new one. -/
def reconnect : List Label :=
  [.connect (.control 0),.wifiTake,.wifiHandshake (pairedWire "t") "a",.wifiPublish,.start 0 0,
    .connect (.control 1),.wifiTake,.wifiHandshake (pairedWire "t") "b",.wifiPublish,.start 1 0,
    .plane 0 (.recv 0 0 none (.error (.io true))),.clearOutbound 0]

theorem reconnect_loses_outbound :
    ∃ app session, exec (AppState.step "t") (.start 7000 7001) reconnect = some app ∧ app.Latest 1 session ∧
      session.task.holdsOutbound ∧ app.outbound ≠ some 1 ∧
      app.setCamera "back" = .error "no active session" := by
  have reached : ((exec (AppState.step "t") (.start 7000 7001) reconnect).map fun app =>
      (app.sessions.map fun session => session.task.holdsOutbound,app.outbound)) =
        some ([false,true],none) := by
    decide +kernel
  obtain ⟨app,run,shape⟩ := Option.map_eq_some_iff.mp reached
  obtain ⟨tasks,outbound⟩ := Prod.mk.inj shape
  have length : app.sessions.length = 2 := by simpa using congrArg List.length tasks
  have found : app.sessions[1]? = some app.sessions[1] := List.getElem?_eq_getElem (by omega)
  refine ⟨app,app.sessions[1],run,⟨by omega,found⟩,?_,?_,?_⟩
  · have second := congrArg (fun flags => flags[1]?) tasks
    simpa [found] using second
  · simp [outbound]
  · simp [AppState.setCamera,outbound]

end ClearCam.App
