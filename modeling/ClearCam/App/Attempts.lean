import ClearCam.App.Steps

/-! Attempts that do not become a session: what a refused Wi-Fi connection and a dropped pair
of USB streams leave behind. Steps of other tasks may come in between as long as they
leave alone what the attempt is judged by. -/
namespace ClearCam.App
open ClearCam.Session ClearCam.Pairing ClearCam.Library

def KeepsSnapshot (token : String) (app : AppState) (label : Label) : Prop :=
  ∀ next, app.step token label = some next → next.channels.snapshot = app.channels.snapshot

theorem refused_snapshot (token : String) (app next : AppState) (wire left : Wire) (uuid : String)
    (error : SessionError) (refused : (acceptControl token serverCaps uuid).run wire = .error error left)
    (taken : app.step token (.wifiHandshake wire uuid) = some next) :
    next.channels = app.channels.setState (.listening 0 0) := by
  cases step_stepped token app next _ taken with
  | wifiAccepted wire after uuid socket accepted pc ok =>
    rw [ok] at refused
    cases refused
  | wifiRefused wire after uuid socket other pc failed => rfl

/-- A refused control connection leaves the snapshot as it found it exactly when the ports it
publishes, which are not the bound ones, were published already. -/
theorem refused_connection_restores_iff (token : String) (app taken waiting after : AppState) (socket : Nat)
    (rest : List WifiServerEvent) (between : List Label) (wire left : Wire) (uuid : String)
    (error : SessionError) (queued : app.queue = .control socket :: rest)
    (accepted : app.step token .wifiTake = some taken)
    (alone : Along (AppState.step token) (KeepsSnapshot token) taken between)
    (run : exec (AppState.step token) taken between = some waiting)
    (refused : (acceptControl token serverCaps uuid).run wire = .error error left)
    (finished : waiting.step token (.wifiHandshake wire uuid) = some after) :
    after.channels.snapshot = app.channels.snapshot ↔ app.channels.snapshot.state = .listening 0 0 := by
  have entered : taken.channels = app.channels.setState .wifiHandshake := by
    cases step_stepped token app taken _ accepted with
    | controlTaken other later idle found => rfl
    | mediaTaken other later idle found =>
      rw [queued] at found
      cases found
  have kept : waiting.channels.snapshot = taken.channels.snapshot := by
    refine exec_invariant (AppState.step token) (KeepsSnapshot token)
      (fun app => app.channels.snapshot = taken.channels.snapshot) between ?_ taken waiting rfl alone run
    intro here label next _ same keeps step
    rw [keeps next step]
    exact same
  have left := refused_snapshot token waiting after wire left uuid error refused finished
  have shown : after.channels.snapshot = {app.channels.snapshot with state := .listening 0 0} := by
    rw [left,Channels.setState,kept,entered]
    rfl
  rw [shown]
  constructor
  · intro same
    rw [← same]
  · intro lost
    rw [← lost]

def refusedOnce : List Label := [.connect (.control 0),.wifiTake,.wifiHandshake (pairedWire "wrong") "a"]

theorem pairedWire_refused (uuid : String) :
    ∃ error left, (acceptControl "t" serverCaps uuid).run (pairedWire "wrong") = .error error left :=
  ⟨.unauthorized,_,rfl⟩

def portsLost : AppState := {AppState.start 7000 7001 with
  channels := ⟨⟨.listening 0 0,none,none⟩,[]⟩
  queue := [.control 1]
  arrived := [.control 0,.control 1]
  handled := [.control 0]}

theorem second_refusal_restores :
    exec (AppState.step "t") (.start 7000 7001) (refusedOnce ++ [.connect (.control 1)]) = some portsLost ∧
    ∃ after, exec (AppState.step "t") portsLost [.wifiTake,.wifiHandshake (pairedWire "wrong") "b"] = some after ∧
      after.channels.snapshot = portsLost.channels.snapshot := by
  obtain ⟨error,left,refused⟩ := pairedWire_refused "b"
  refine ⟨rfl,_,rfl,?_⟩
  exact (refused_connection_restores_iff "t" portsLost _ _ _ 1 [] [] (pairedWire "wrong") left "b" error rfl rfl
    trivial rfl refused rfl).mpr rfl

/-- A wrong token loses the bound ports, and takes the running session's state away from it. -/
theorem refusal_changes_snapshot :
    (∃ app after, exec (AppState.step "t") (.start 7000 7001) [.connect (.control 0)] = some app ∧
      exec (AppState.step "t") app [.wifiTake,.wifiHandshake (pairedWire "wrong") "a"] = some after ∧
      app.channels.snapshot.state = .listening 7000 7001 ∧
      after.channels.snapshot.state = .listening 0 0 ∧ after.channels.snapshot ≠ app.channels.snapshot) ∧
    (∃ app after, exec (AppState.step "t") (.start 7000 7001) (oneSession ++ [.connect (.control 1)]) = some app ∧
      exec (AppState.step "t") app [.wifiTake,.wifiHandshake (pairedWire "wrong") "a"] = some after ∧
      app.channels.snapshot.state = .ready (some .wifi) ∧
      after.channels.snapshot.state = .listening 0 0 ∧ after.channels.snapshot ≠ app.channels.snapshot) := by
  refine ⟨⟨_,_,rfl,rfl,rfl,rfl,?_⟩,⟨_,_,rfl,rfl,rfl,rfl,?_⟩⟩
  · intro same
    cases congrArg SessionSnapshot.state same
  · intro same
    cases congrArg SessionSnapshot.state same

/-- Dialed streams with the outcome of everything the consumer asks about them. -/
structure UsbAttempt where
  dialed : DialedStreams
  store : OnDisk
  wire : Wire
  uuid : String
  hello : Recv

inductive UsbExit where
  | storeFailed | keyMissing | handshakeFailed | helloFailed | spawned
  deriving DecidableEq

namespace UsbAttempt

def key (attempt : UsbAttempt) : Except PairingStoreError (Option PairingMaterial) :=
  PairingStore.get attempt.store attempt.dialed.udid

def helloExit (attempt : UsbAttempt) : UsbExit :=
  match readMediaHello attempt.hello with
  | .error _ => .helloFailed
  | .ok _ => .spawned

def exit (attempt : UsbAttempt) : UsbExit :=
  match attempt.key with
  | .error _ => .storeFailed
  | .ok none => .keyMissing
  | .ok (some key) =>
    match (acceptControlUsb key.asB64 serverCaps attempt.uuid).run attempt.wire with
    | .error _ _ => .handshakeFailed
    | .ok _ _ => attempt.helloExit

def Serves (attempt : UsbAttempt) : Label → Prop
  | .usbResolve result => result = attempt.key
  | .usbHandshake wire uuid => wire = attempt.wire ∧ uuid = attempt.uuid
  | .usbHello recv => recv = attempt.hello
  | .usbUntrusted | .usbPublish | .usbCount | .usbWithdraw => True
  | _ => False

end UsbAttempt

structure Published where
  state : SessionStateKind
  outbound : Option Nat
  speedtestCounter : Option Nat
  deriving DecidableEq

def AppState.published (app : AppState) : Published :=
  ⟨app.channels.snapshot.state,app.outbound,app.speedtestCounter⟩

def Published.SameSlots (before after : Published) : Prop :=
  after.outbound = before.outbound ∧ after.speedtestCounter = before.speedtestCounter

def Label.usbConsumer : Label → Bool
  | .usbTake _ | .usbResolve _ | .usbUntrusted | .usbHandshake _ _ | .usbPublish | .usbCount | .usbHello _
  | .usbWithdraw => true
  | _ => false

/-- A step of another task, which writes neither the state nor a slot. -/
def KeepsPublished (token : String) (app : AppState) (label : Label) : Prop :=
  label.usbConsumer = false ∧ ∀ next, app.step token label = some next → next.published = app.published

theorem step_usb (token : String) (app next : AppState) (label : Label) (other : label.usbConsumer = false)
    (taken : app.step token label = some next) : next.usb = app.usb := by
  cases step_stepped token app next label taken with
  | usbTaken | usbKeyFound | usbKeyMissing | usbStoreFailed | usbSkipped | usbAccepted | usbRefused | usbPublished
  | usbCounted | usbGreeted | usbUngreeted | usbWithdrawn => cases other
  | _ => rfl

namespace UsbAttempt

/-- What holds while the consumer stands at `usb`, and at its end. -/
def Stage (attempt : UsbAttempt) (before after : Published) : UsbLoop → Prop
  | .resolving _ => after.state = .usbHandshake attempt.dialed.udid ∧ before.SameSlots after
  | .untrusted _ => attempt.exit = .keyMissing ∧ before.SameSlots after
  | .handshaking _ key =>
    (∃ material, attempt.key = .ok (some material) ∧ key = material.asB64) ∧
    after.state = .usbHandshake attempt.dialed.udid ∧ before.SameSlots after
  | .publishing _ _ | .counting _ _ | .greeting _ _ =>
    attempt.exit = attempt.helloExit ∧ after.state = .usbHandshake attempt.dialed.udid
  | .withdrawing _ _ => attempt.exit = .helloFailed ∧ after.state = .usbHandshake attempt.dialed.udid
  | .idle => match attempt.exit with
    | .storeFailed | .helloFailed => after.state = .usbHandshake attempt.dialed.udid
    | .keyMissing | .handshakeFailed => after.state = .idle ∧ before.SameSlots after
    | .spawned => True

end UsbAttempt

theorem UsbAttempt.Stage.step (token : String) (attempt : UsbAttempt) (before : Published) (app next : AppState)
    (label : Label) (stage : attempt.Stage before app.published app.usb) (serves : attempt.Serves label)
    (taken : app.step token label = some next) : attempt.Stage before next.published next.usb := by
  cases step_stepped token app next label taken with
  | usbKeyFound dialed key pc =>
    rw [pc] at stage
    exact ⟨⟨key,serves.symm,rfl⟩,stage⟩
  | usbKeyMissing dialed pc =>
    rw [pc] at stage
    refine ⟨?_,stage.2⟩
    rw [UsbAttempt.exit,← serves]
  | usbStoreFailed dialed error pc =>
    rw [pc] at stage
    have left : attempt.exit = .storeFailed := by rw [UsbAttempt.exit,← serves]
    simp only [UsbAttempt.Stage,left]
    exact stage.1
  | usbSkipped dialed pc =>
    rw [pc] at stage
    obtain ⟨left,slots⟩ := stage
    simp only [UsbAttempt.Stage,left]
    exact ⟨rfl,slots⟩
  | usbAccepted wire left uuid key dialed accepted pc ok =>
    rw [pc] at stage
    obtain ⟨⟨material,found,rfl⟩,stuck,_⟩ := stage
    obtain ⟨rfl,rfl⟩ := serves
    refine ⟨?_,stuck⟩
    simp only [UsbAttempt.exit,found,ok]
  | usbRefused wire left uuid key dialed error pc failed =>
    rw [pc] at stage
    obtain ⟨⟨material,found,rfl⟩,_,slots⟩ := stage
    obtain ⟨rfl,rfl⟩ := serves
    have refused : attempt.exit = .handshakeFailed := by simp only [UsbAttempt.exit,found,failed]
    simp only [UsbAttempt.Stage,refused]
    exact ⟨rfl,slots⟩
  | usbPublished dialed i pc | usbCounted dialed i pc =>
    rw [pc] at stage
    exact stage
  | usbGreeted recv dialed i binding pc greeted =>
    rw [pc] at stage
    obtain rfl := serves
    have left : attempt.exit = .spawned := by rw [stage.1,UsbAttempt.helloExit,greeted]
    simp only [UsbAttempt.Stage,left]
  | usbUngreeted recv dialed i error pc failed =>
    rw [pc] at stage
    obtain rfl := serves
    refine ⟨?_,stage.2⟩
    rw [stage.1,UsbAttempt.helloExit,failed]
  | usbWithdrawn dialed i pc =>
    rw [pc] at stage
    obtain ⟨left,stuck⟩ := stage
    simp only [UsbAttempt.Stage,left]
    exact stuck
  | _ => exact serves.elim

theorem UsbAttempt.Stage.run (token : String) (attempt : UsbAttempt) (app taken after : AppState)
    (labels : List Label) (received : app.step token (.usbTake attempt.dialed) = some taken)
    (along : Along (AppState.step token)
      (fun app label => attempt.Serves label ∨ KeepsPublished token app label) taken labels)
    (run : exec (AppState.step token) taken labels = some after) :
    attempt.Stage app.published after.published after.usb := by
  refine exec_invariant (AppState.step token) _ (fun here => attempt.Stage app.published here.published here.usb)
    labels ?_ taken after ?_ along run
  · intro here label next _ stage allowed step
    rcases allowed with serves | ⟨other,keeps⟩
    · exact stage.step token attempt app.published here next label serves step
    · rw [keeps next step,step_usb token here next label other step]
      exact stage
  · cases step_stepped token app taken _ received with
    | usbTaken dialed idle => exact ⟨rfl,rfl,rfl⟩

/-- The consumer's steps when no other task comes in between. -/
def UsbAttempt.steps (attempt : UsbAttempt) : List Label :=
  .usbResolve attempt.key :: match attempt.exit with
    | .storeFailed => []
    | .keyMissing => [.usbUntrusted]
    | .handshakeFailed => [.usbHandshake attempt.wire attempt.uuid]
    | .helloFailed => [.usbHandshake attempt.wire attempt.uuid,.usbPublish,.usbCount,.usbHello attempt.hello,
        .usbWithdraw]
    | .spawned => [.usbHandshake attempt.wire attempt.uuid,.usbPublish,.usbCount,.usbHello attempt.hello]

theorem UsbAttempt.steps_serve (attempt : UsbAttempt) : ∀ label ∈ attempt.steps, attempt.Serves label := by
  cases left : attempt.exit <;> simp [UsbAttempt.steps,left,UsbAttempt.Serves]

theorem UsbAttempt.steps_end (token : String) (attempt : UsbAttempt) (taken : AppState)
    (pc : taken.usb = .resolving attempt.dialed) :
    ∃ after, exec (AppState.step token) taken attempt.steps = some after ∧ after.usb = .idle := by
  cases stored : attempt.key with
  | error error =>
    have left : attempt.exit = .storeFailed := by simp only [UsbAttempt.exit,stored]
    simp [UsbAttempt.steps,left,stored,exec,AppState.step,AppState.usbResolve,pc]
  | ok found =>
    cases found with
    | none =>
      have left : attempt.exit = .keyMissing := by simp only [UsbAttempt.exit,stored]
      simp [UsbAttempt.steps,left,stored,exec,AppState.step,AppState.usbResolve,AppState.usbUntrusted,pc]
    | some key =>
      cases shaken : (acceptControlUsb key.asB64 serverCaps attempt.uuid).run attempt.wire with
      | error error wire =>
        have left : attempt.exit = .handshakeFailed := by simp only [UsbAttempt.exit,stored,shaken]
        simp [UsbAttempt.steps,left,stored,exec,AppState.step,AppState.usbResolve,AppState.usbHandshake,pc,shaken]
      | ok accepted wire =>
        cases greeted : readMediaHello attempt.hello with
        | error error =>
          have left : attempt.exit = .helloFailed := by
            simp only [UsbAttempt.exit,stored,shaken,UsbAttempt.helloExit,greeted]
          simp [UsbAttempt.steps,left,stored,exec,AppState.step,AppState.usbResolve,AppState.usbHandshake,
            AppState.usbPublish,AppState.usbCount,AppState.usbHello,AppState.usbWithdraw,pc,shaken,greeted]
        | ok binding =>
          have left : attempt.exit = .spawned := by
            simp only [UsbAttempt.exit,stored,shaken,UsbAttempt.helloExit,greeted]
          simp [UsbAttempt.steps,left,stored,exec,AppState.step,AppState.usbResolve,AppState.usbHandshake,
            AppState.usbPublish,AppState.usbCount,AppState.usbHello,pc,shaken,greeted]

/-- The consumer always moves on. If no session came of the streams, the device's handshake
state is gone and the slots are as before exactly when it gave up for want of a key or on
the handshake: the store's error and a missing MEDIA_HELLO leave the state behind. -/
theorem usb_attempt_undone_iff (token : String) (attempt : UsbAttempt) (app taken : AppState)
    (received : app.step token (.usbTake attempt.dialed) = some taken) (unspawned : attempt.exit ≠ .spawned) :
    (∃ labels after, (∀ label ∈ labels, attempt.Serves label) ∧
      exec (AppState.step token) taken labels = some after ∧ after.usb = .idle) ∧
    ∀ labels after,
      Along (AppState.step token) (fun app label => attempt.Serves label ∨ KeepsPublished token app label)
        taken labels →
      exec (AppState.step token) taken labels = some after → after.usb = .idle →
      (after.channels.snapshot.state ≠ .usbHandshake attempt.dialed.udid ∧ after.outbound = app.outbound ∧
        after.speedtestCounter = app.speedtestCounter ↔
        attempt.exit = .keyMissing ∨ attempt.exit = .handshakeFailed) := by
  constructor
  · have pc : taken.usb = .resolving attempt.dialed := by
      cases step_stepped token app taken _ received with
      | usbTaken dialed idle => rfl
    obtain ⟨after,run,idle⟩ := attempt.steps_end token taken pc
    exact ⟨attempt.steps,after,attempt.steps_serve,run,idle⟩
  · intro labels after along run idle
    have stage := UsbAttempt.Stage.run token attempt app taken after labels received along run
    rw [idle] at stage
    cases left : attempt.exit with
    | storeFailed | helloFailed =>
      simp only [UsbAttempt.Stage,left] at stage
      have stuck : after.channels.snapshot.state = .usbHandshake attempt.dialed.udid := stage
      simp [stuck]
    | keyMissing | handshakeFailed =>
      simp only [UsbAttempt.Stage,left] at stage
      obtain ⟨cleared,outbound,counter⟩ := stage
      have released : after.channels.snapshot.state = .idle := cleared
      have sender : after.outbound = app.outbound := outbound
      have meter : after.speedtestCounter = app.speedtestCounter := counter
      simp [released,sender,meter]
    | spawned => exact absurd left unspawned

def pairedUsbWire (key : String) : Wire :=
  .reliable [.envelope ⟨1,none,.hello ⟨1,"ClearCam-iOS/0.1.0",⟨"iPhone15,3","18.0"⟩,"c",[.hevc]⟩⟩,
    .envelope ⟨2,none,.auth (.pairingKey key)⟩]

def attemptWith (store : OnDisk) : UsbAttempt := ⟨⟨"u",10,11⟩,store,pairedUsbWire "AQID","b",.timeout⟩

/-- A phone that was never paired, while a Wi-Fi session owns the slots. -/
theorem unpaired_attempt_undone :
    ∃ app after, exec (AppState.step "t") (.start 7000 7001) oneSession = some app ∧
      exec (AppState.step "t") app [.usbTake ⟨"u",10,11⟩,.usbResolve (.ok none),.usbUntrusted] = some after ∧
      after.channels.snapshot.state ≠ .usbHandshake "u" ∧ after.outbound = app.outbound ∧
      after.speedtestCounter = app.speedtestCounter := by
  have left : (attemptWith ∅).exit = .keyMissing := by decide +kernel
  have reached : ((exec (AppState.step "t") (.start 7000 7001) oneSession).map fun app => app.usb) =
      some .idle := rfl
  obtain ⟨app,run,idle⟩ := Option.map_eq_some_iff.mp reached
  have received : app.step "t" (.usbTake (attemptWith ∅).dialed) = some {app with
      channels := app.channels.setState (.usbHandshake "u")
      usb := .resolving (attemptWith ∅).dialed} := by
    simp only [AppState.step,AppState.usbTake,idle]
    rfl
  have undone := usb_attempt_undone_iff "t" (attemptWith ∅) app _ received (by rw [left]; decide)
  refine ⟨app,_,run,(exec_cons _ _ _ _ _).mpr ⟨_,received,rfl⟩,?_⟩
  refine (undone.2 [.usbResolve (.ok none),.usbUntrusted] _ ?_ rfl rfl).mpr (.inl left)
  exact ⟨.inl rfl,fun _ _ => ⟨.inl trivial,fun _ _ => trivial⟩⟩

/-- An undecodable key leaves the handshake state behind; a phone that sends no MEDIA_HELLO does
too, and costs the running session its slots. -/
theorem failed_attempts_leave_traces :
    (∃ after, exec (AppState.step "t") (.start 7000 7001) (.usbTake ⟨"u",10,11⟩ ::
        (attemptWith (AList.insert "u" ⟨"not base64","2026-01-01"⟩ ∅)).steps) = some after ∧
      after.usb = .idle ∧ after.sessions = [] ∧ after.channels.snapshot.state = .usbHandshake "u") ∧
    (∃ app after, exec (AppState.step "t") (.start 7000 7001) oneSession = some app ∧
      exec (AppState.step "t") app (.usbTake ⟨"u",10,11⟩ ::
        (attemptWith (AList.insert "u" ⟨"AQID","2026-01-01"⟩ ∅)).steps) = some after ∧
      after.usb = .idle ∧ after.task 1 = some .abandoned ∧ after.channels.snapshot.state = .usbHandshake "u" ∧
      app.outbound = some 0 ∧ after.outbound = none ∧
      app.speedtestCounter = some 0 ∧ after.speedtestCounter = none) := by
  constructor
  · exact ⟨_,rfl,rfl,rfl,rfl⟩
  · exact ⟨_,_,rfl,rfl,rfl,rfl,rfl,rfl,rfl,rfl,rfl⟩

end ClearCam.App
