import ClearCam.Library.Transition
import ClearCam.Ios.Pump

/-! The phone's `SessionController` from `connect` to the end of its pump, with `disconnect` running
beside them. A step is what the actor runs from the end of one call it awaits up to the next. -/
namespace ClearCam.Ios
open ClearCam.Library ClearCam.Protocol

inductive SessionState where
  | idle
  | connecting
  | handshaking
  | ready (sessionId : String)
  | reconnecting
  | stopped (reason : String)
  deriving DecidableEq

namespace SessionState

def isReady : SessionState → Bool
  | .ready _ => true
  | _ => false

def isStopped : SessionState → Bool
  | .stopped _ => true
  | _ => false

end SessionState

inductive SessionError where
  | unexpectedMessage (message : String)
  | helloAckMissing
  | authFailed (message : String)
  | transport (description : String)
  | trustDenied
  deriving DecidableEq

/-- What `connect` throws: an error of its own, or what one of its calls threw. -/
inductive Thrown where
  | session (error : SessionError)
  | rethrown (description : String)
  deriving DecidableEq

/-- Where `connect` awaits. -/
inductive Connect where
  | notCalled
  | sendingHello
  | receivingHelloAck
  | sendingAuth
  | receivingAuth
  | sendingMediaHello (sid : String)
  | sendingDeviceInfo (sid : String)
  | sendingCameraList (sid : String) (cameras : List CameraEntry)
  | startingCamera (sid cameraId : String)
  | returned (sid : String)
  | threw (error : Thrown)
  deriving DecidableEq

inductive PumpTask where
  | notStarted | running | cancelled | exited
  deriving DecidableEq

/-- What a controller is made with and `connect` is called with. `cameras` is what the discovery finds,
if one is attached. -/
structure Launch where
  appName : String
  snapshot : DeviceInfo
  cameras : Option (List CameraEntry)
  captureEngine : Bool
  authBody : Auth
  wireToken : String
  sessionCandidate : String

/-- The actor. `core` holds what the pump works on as well: the counter, the active camera and what was
sent on the control channel; it has `returned` when `recv` threw or a BYE arrived. -/
structure SessionController where
  state : SessionState
  sessionId : Option String
  core : Pump
  mediaSent : List ControlEnvelope
  connect : Connect
  pumpTask : PumpTask
  closing : List String

/-- What a call that was awaited comes to, or a call of `disconnect`. -/
inductive SessionEvent where
  | connectCalled
  | sent (outcome : Except String Unit)
  | received (outcome : Except String ControlEnvelope)
  | cameraStarted (outcome : Except String Unit)
  | pumpReceived (outcome : Except String ControlEnvelope) (input : PumpInput)
  | disconnectCalled (reason : String) (byeSent : Bool)
  | disconnectEnded (reason : String)

def clearCamProtocolVersion : UInt32 := 1

def errorCodeRawValue (code : ErrorCode) : String :=
  match Codable.errorCode.toJson code with
  | .str raw => raw
  | _ => ""

def Pump.onReceived (pump : Pump) (outcome : Except String ControlEnvelope) (input : PumpInput) : Pump :=
  match outcome with
  | .error _ => { pump with returned := true }
  | .ok env =>
    match env.body with
    | .ping p => pump.handlePing env.seq p.tsUsec input
    | .setCamera sc => pump.applySetCamera env.seq sc.cameraId input
    | .bye _ => { pump with returned := true }
    | _ => pump

namespace SessionController

def start (launch : Launch) : SessionController where
  state := .idle
  sessionId := none
  core := ⟨0,none,launch.captureEngine,[],[],false,false⟩
  mediaSent := []
  connect := .notCalled
  pumpTask := .notStarted
  closing := []

def rethrow (s : SessionController) (description : String) : SessionController :=
  { s with connect := .threw (.rethrown description) }

def stop (s : SessionController) (reason : String) (error : SessionError) : SessionController :=
  { s with state := .stopped reason, connect := .threw (.session error) }

/-- A control message that `connect` sends: its number is taken whether or not `send` throws. -/
def sendControl (s : SessionController) (body : ControlMessage) (outcome : Except String Unit)
    (next : SessionController → SessionController) : SessionController :=
  match outcome with
  | .ok _ => next { s with core := s.core.send none body true }
  | .error description => { s with core := s.core.send none body false }.rethrow description

/-- The end of `connect`, with `startPump`. -/
def finish (s : SessionController) (sid : String) : SessionController :=
  { s with state := .ready sid, connect := .returned sid, pumpTask := .running }

def onHelloAck (s : SessionController) : Except String ControlEnvelope → SessionController
  | .error description => s.stop ("transport: " ++ description) (.transport description)
  | .ok ack =>
    match ack.body with
    | .helloAck _ => { s with connect := .sendingAuth }
    | .error e => s.stop ("server: " ++ errorCodeRawValue e.code) (.authFailed e.message)
    | _ => s.stop "unexpected reply" (.unexpectedMessage "expected HELLO_ACK")

def onAuthResp (s : SessionController) : Except String ControlEnvelope → SessionController
  | .error description => s.rethrow description
  | .ok authResp =>
    match authResp.body with
    | .authOk ok => { s with sessionId := some ok.sessionId, connect := .sendingMediaHello ok.sessionId }
    | .error e => s.stop ("auth: " ++ errorCodeRawValue e.code) (.authFailed e.message)
    | _ => s.stop "unexpected reply" (.unexpectedMessage "expected AUTH_OK")

def onMediaHelloSent (launch : Launch) (s : SessionController) (sid : String) :
    Except String Unit → SessionController
  | .ok _ => { s with
      mediaSent := s.mediaSent ++ [⟨0,none,.mediaHello ⟨sid,launch.wireToken⟩⟩]
      connect := .sendingDeviceInfo sid}
  | .error description => s.rethrow description

/-- CAMERA_LIST comes next if a discovery is wired. -/
def onDeviceInfoSent (launch : Launch) (sid : String) (s : SessionController) : SessionController :=
  match launch.cameras with
  | some cameras => { s with connect := .sendingCameraList sid cameras }
  | none => s.finish sid

def onCameraListSent (sid : String) (cameras : List CameraEntry) (s : SessionController) : SessionController :=
  match (cameras.find? fun camera => camera.position = .back) <|> cameras.head? with
  | some first =>
    if s.core.captureEngine ∧ s.core.activeCameraId = none then { s with connect := .startingCamera sid first.id }
    else s.finish sid
  | none => s.finish sid

def onCameraStarted (s : SessionController) (sid cameraId : String) : Except String Unit → SessionController
  | .ok _ => { s with core := { s.core with activeCameraId := some cameraId } }.finish sid
  | .error description => s.rethrow description

def onSent (launch : Launch) (s : SessionController) (outcome : Except String Unit) : Option SessionController :=
  match s.connect with
  | .sendingHello =>
    let hello : Hello := {
      protoVer := clearCamProtocolVersion
      app := launch.appName
      device := ⟨launch.snapshot.model,launch.snapshot.osVer⟩
      sessionId := launch.sessionCandidate
      caps := [.hevc,.h264,.rawNv12]}
    some (s.sendControl (.hello hello) outcome fun s => { s with connect := .receivingHelloAck })
  | .sendingAuth =>
    some (s.sendControl (.auth launch.authBody) outcome fun s => { s with connect := .receivingAuth })
  | .sendingMediaHello sid => some (onMediaHelloSent launch s sid outcome)
  | .sendingDeviceInfo sid =>
    some (s.sendControl (.deviceInfo launch.snapshot) outcome (onDeviceInfoSent launch sid))
  | .sendingCameraList sid cameras =>
    some (s.sendControl (.cameraList ⟨cameras⟩) outcome (onCameraListSent sid cameras))
  | _ => none

/-- The pump awaits `recv`, be its task cancelled or not. -/
def pumping (s : SessionController) : Bool :=
  (s.pumpTask = .running || s.pumpTask = .cancelled) && !s.core.returned

def step (launch : Launch) (s : SessionController) : SessionEvent → Option SessionController
  | .connectCalled =>
    -- `.connecting` is overwritten before anything is awaited
    if s.connect = .notCalled then some { s with state := .handshaking, connect := .sendingHello } else none
  | .sent outcome => onSent launch s outcome
  | .received outcome =>
    match s.connect with
    | .receivingHelloAck => some (s.onHelloAck outcome)
    | .receivingAuth => some (s.onAuthResp outcome)
    | _ => none
  | .cameraStarted outcome =>
    match s.connect with
    | .startingCamera sid cameraId => some (s.onCameraStarted sid cameraId outcome)
    | _ => none
  | .pumpReceived outcome input =>
    if s.pumping then
      let core := s.core.onReceived outcome input
      let pumpTask := if s.pumpTask = .cancelled ∧ core.returned = false then .exited else s.pumpTask
      some { s with core := core, pumpTask := pumpTask }
    else none
  | .disconnectCalled reason byeSent => some { s with
      core := s.core.send none (.bye ⟨reason⟩) byeSent
      pumpTask := if s.pumpTask = .running then .cancelled else s.pumpTask
      closing := s.closing ++ [reason]}
  | .disconnectEnded reason =>
    if reason ∈ s.closing then some { s with state := .stopped reason, closing := s.closing.erase reason } else none

end SessionController

/-- The pump of before, once its frame is decoded. -/
theorem onFrame_eq (order : String → String → Bool) (pump : Pump) (input : PumpInput)
    (outcome : Except Unit ControlEnvelope) (decoded : Pump.recv order input.payload = some outcome) :
    pump.onFrame order input = { pump with seq := pump.seq + input.sentByOthers }.onReceived
      (outcome.mapError fun _ => "") input := by
  unfold Pump.onFrame
  rw [decoded]
  cases outcome <;> rfl

/-- The outcome ends the pump: `recv` threw, or a BYE arrived. -/
def endsPump : Except String ControlEnvelope → Bool
  | .error _ => true
  | .ok env =>
    match env.body with
    | .bye _ => true
    | _ => false

/-- What a failure is to leave: a connect that threw has stopped the session, and a session whose pump
has ended is not ready. -/
structure Reflects (s : SessionController) : Prop where
  thrown : ∀ error, s.connect = .threw error → s.state.isStopped = true
  ended : s.core.returned = true → s.state.isReady = false

/-- A call of `connect` throws only where it waits for HELLO_ACK or after a `disconnect`, and the pump
ends only once the session is no longer ready. -/
def Handled (s : SessionController) : SessionEvent → Prop
  | .sent (.error _) | .cameraStarted (.error _) => s.state.isStopped = true
  | .received (.error _) => s.connect = .receivingHelloAck ∨ s.state.isStopped = true
  | .pumpReceived outcome _ => endsPump outcome = true → s.state.isReady = false
  | _ => True

theorem onReceived_returned (pump : Pump) (outcome : Except String ControlEnvelope) (input : PumpInput) :
    (pump.onReceived outcome input).returned = (pump.returned || endsPump outcome) := by
  cases outcome with
  | error description => exact (Bool.or_true pump.returned).symm
  | ok env =>
    cases body : env.body with
    | bye b => simp [Pump.onReceived,endsPump,body]
    | setCamera sc =>
      simp only [Pump.onReceived,endsPump,body,Bool.or_false,Pump.applySetCamera]
      split
      · split <;> rfl
      · rfl
    | _ => simp [Pump.onReceived,endsPump,body,Pump.handlePing,Pump.send]

def Connect.open : Connect → Prop
  | .returned _ | .threw _ => False
  | _ => True

/-- `connect` went on and, if it returned, started the pump. -/
structure Onward (s s' : SessionController) : Prop where
  going : ∀ error, s'.connect ≠ .threw error
  pump : s'.core.returned = s.core.returned
  started : s'.pumpTask = s.pumpTask ∨ ∃ sid, s'.connect = .returned sid

/-- All that one step can do to what a failure is read from. -/
inductive Moves (s : SessionController) (event : SessionEvent) (s' : SessionController) : Prop where
  | onward (under_way : s.connect.open) (onward : Onward s s') (handled : Handled s event)
  | rethrown (under_way : s.connect.open) (description : String) (same : s'.pumpTask = s.pumpTask)
      (pump : s'.core.returned = s.core.returned) (thrown : s'.connect = .threw (.rethrown description))
      (unnoticed : s'.state = s.state) (handled : Handled s event ↔ s.state.isStopped = true)
  | stopped (under_way : s.connect.open) (same : s'.pumpTask = s.pumpTask)
      (pump : s'.core.returned = s.core.returned) (state : s'.state.isStopped = true) (handled : Handled s event)
  | pumped (awaits : s.pumping = true) (connect : s'.connect = s.connect) (state : s'.state = s.state)
      (handled : Handled s event ↔ (s'.core.returned = true → s.state.isReady = false))
  | beside (connect : s'.connect = s.connect) (pump : s'.core.returned = s.core.returned)
      (started : s'.pumpTask = .notStarted ↔ s.pumpTask = .notStarted)
      (state : s'.state = s.state ∨ s'.state.isStopped = true) (handled : Handled s event)

namespace SessionController

theorem open_onward (s s' : SessionController) (awaits : s'.connect.open)
    (pump : s'.core.returned = s.core.returned) (same : s'.pumpTask = s.pumpTask) : Onward s s' := by
  refine ⟨?_,pump,Or.inl same⟩
  intro error thrown
  rw [thrown] at awaits
  exact awaits

theorem finish_onward (s s' : SessionController) (sid : String) (pump : s'.core.returned = s.core.returned) :
    Onward s (s'.finish sid) :=
  ⟨(fun _ absurd => nomatch absurd),pump,Or.inr ⟨sid,rfl⟩⟩

theorem rethrow_moves (s before : SessionController) (event : SessionEvent) (description : String)
    (under_way : before.connect.open) (same : s.pumpTask = before.pumpTask)
    (pump : s.core.returned = before.core.returned) (state : s.state = before.state)
    (handled : Handled before event ↔ before.state.isStopped = true) : Moves before event (s.rethrow description) :=
  .rethrown under_way description same pump rfl state handled

theorem sendControl_moves (s : SessionController) (body : ControlMessage) (outcome : Except String Unit)
    (next : SessionController → SessionController) (under_way : s.connect.open)
    (onward : ∀ sent, Onward s (next { s with core := s.core.send none body sent })) :
    Moves s (.sent outcome) (s.sendControl body outcome next) := by
  cases outcome with
  | ok _ => exact .onward under_way (onward true) trivial
  | error description => exact rethrow_moves _ s _ description under_way rfl rfl rfl Iff.rfl

theorem onSent_moves (launch : Launch) (s s' : SessionController) (outcome : Except String Unit)
    (taken : onSent launch s outcome = some s') : Moves s (.sent outcome) s' := by
  have under_way (at_call : s.connect.open) (body : ControlMessage) (next : SessionController → SessionController)
      (onward : ∀ sent, Onward s (next { s with core := s.core.send none body sent }))
      (done : s.sendControl body outcome next = s') : Moves s (.sent outcome) s' :=
    done ▸ sendControl_moves s body outcome next at_call onward
  unfold onSent at taken
  split at taken
  · rename_i phase
    refine under_way (by rw [phase]; trivial) _ _ ?_ (Option.some.inj taken)
    intro sent
    exact open_onward _ _ trivial rfl rfl
  · rename_i phase
    refine under_way (by rw [phase]; trivial) _ _ ?_ (Option.some.inj taken)
    intro sent
    exact open_onward _ _ trivial rfl rfl
  · rename_i sid phase
    obtain rfl := Option.some.inj taken
    have at_call : s.connect.open := by rw [phase]; trivial
    cases outcome with
    | ok _ => exact .onward at_call (open_onward _ _ trivial rfl rfl) trivial
    | error description => exact rethrow_moves s s _ description at_call rfl rfl rfl Iff.rfl
  · rename_i sid phase
    refine under_way (by rw [phase]; trivial) _ _ ?_ (Option.some.inj taken)
    intro sent
    unfold onDeviceInfoSent
    split
    · exact open_onward _ _ trivial rfl rfl
    · exact finish_onward _ _ sid rfl
  · rename_i sid cameras phase
    refine under_way (by rw [phase]; trivial) _ _ ?_ (Option.some.inj taken)
    intro sent
    unfold onCameraListSent
    split
    · split
      · exact open_onward _ _ trivial rfl rfl
      · exact finish_onward _ _ sid rfl
    · exact finish_onward _ _ sid rfl
  · exact nomatch taken

theorem step_moves (launch : Launch) (s s' : SessionController) (event : SessionEvent)
    (taken : step launch s event = some s') : Moves s event s' := by
  cases event with
  | connectCalled =>
    simp only [step] at taken
    split at taken
    · rename_i phase
      obtain rfl := Option.some.inj taken
      exact .onward (by rw [phase]; trivial) (open_onward _ _ trivial rfl rfl) trivial
    · exact nomatch taken
  | sent outcome => exact onSent_moves launch s s' outcome taken
  | received outcome =>
    simp only [step] at taken
    split at taken
    · rename_i phase
      have at_call : s.connect.open := by rw [phase]; trivial
      obtain rfl := Option.some.inj taken
      cases outcome with
      | error description => exact .stopped at_call rfl rfl rfl (Or.inl phase)
      | ok ack =>
        cases body : ack.body with
        | helloAck _ =>
          simp only [onHelloAck,body]
          exact .onward at_call (open_onward _ _ trivial rfl rfl) trivial
        | _ =>
          simp only [onHelloAck,body]
          exact .stopped at_call rfl rfl rfl trivial
    · rename_i phase
      have at_call : s.connect.open := by rw [phase]; trivial
      obtain rfl := Option.some.inj taken
      cases outcome with
      | error description =>
        refine rethrow_moves s s _ description at_call rfl rfl rfl ?_
        exact or_iff_right (by rw [phase]; exact fun absurd => nomatch absurd)
      | ok authResp =>
        cases body : authResp.body with
        | authOk _ =>
          simp only [onAuthResp,body]
          exact .onward at_call (open_onward _ _ trivial rfl rfl) trivial
        | _ =>
          simp only [onAuthResp,body]
          exact .stopped at_call rfl rfl rfl trivial
    · exact nomatch taken
  | cameraStarted outcome =>
    simp only [step] at taken
    split at taken
    · rename_i sid cameraId phase
      have at_call : s.connect.open := by rw [phase]; trivial
      obtain rfl := Option.some.inj taken
      cases outcome with
      | ok _ => exact .onward at_call (finish_onward _ _ sid rfl) trivial
      | error description => exact rethrow_moves s s _ description at_call rfl rfl rfl Iff.rfl
    · exact nomatch taken
  | pumpReceived outcome input =>
    simp only [step] at taken
    split at taken
    · rename_i awaits
      obtain rfl := Option.some.inj taken
      refine .pumped awaits rfl rfl ?_
      have running : s.core.returned = false := by
        simp only [pumping,Bool.and_eq_true,Bool.not_eq_true'] at awaits
        exact awaits.2
      change (endsPump outcome = true → _) ↔ ((s.core.onReceived outcome input).returned = true → _)
      rw [onReceived_returned,running,Bool.false_or]
    · exact nomatch taken
  | disconnectCalled reason byeSent =>
    obtain rfl := Option.some.inj taken
    refine .beside rfl rfl ?_ (Or.inl rfl) trivial
    change (if s.pumpTask = .running then PumpTask.cancelled else s.pumpTask) = .notStarted ↔ _
    split
    · rename_i running
      rw [running]
      exact iff_of_false (fun absurd => nomatch absurd) (fun absurd => nomatch absurd)
    · exact Iff.rfl
  | disconnectEnded reason =>
    simp only [step] at taken
    split at taken
    · obtain rfl := Option.some.inj taken
      exact .beside rfl rfl Iff.rfl (Or.inr rfl) trivial
    · exact nomatch taken

/-- The pump was started by a `connect` that returned. -/
structure Consistent (s : SessionController) : Prop where
  under_way : s.connect.open → s.pumpTask = .notStarted ∧ s.core.returned = false
  thrown : ∀ error, s.connect = .threw error → s.pumpTask = .notStarted ∧ s.core.returned = false

theorem step_consistent (launch : Launch) (s s' : SessionController) (event : SessionEvent)
    (consistent : s.Consistent) (taken : step launch s event = some s') : s'.Consistent := by
  cases step_moves launch s s' event taken with
  | onward under_way onward handled =>
    obtain ⟨idle,live⟩ := consistent.under_way under_way
    refine ⟨?_,fun error thrown => absurd thrown (onward.going error)⟩
    intro still
    rcases onward.started with same | ⟨sid,returned⟩
    · exact ⟨same.trans idle,onward.pump.trans live⟩
    · rw [returned] at still
      exact still.elim
  | rethrown under_way description same pump thrown unnoticed handled =>
    obtain ⟨idle,live⟩ := consistent.under_way under_way
    exact ⟨fun _ => ⟨same.trans idle,pump.trans live⟩,fun _ _ => ⟨same.trans idle,pump.trans live⟩⟩
  | stopped under_way same pump state handled =>
    obtain ⟨idle,live⟩ := consistent.under_way under_way
    exact ⟨fun _ => ⟨same.trans idle,pump.trans live⟩,fun _ _ => ⟨same.trans idle,pump.trans live⟩⟩
  | pumped awaits connect state handled =>
    have started : s.pumpTask ≠ .notStarted := by
      intro idle
      simp [pumping,idle] at awaits
    refine ⟨?_,?_⟩
    · intro still
      exact absurd (consistent.under_way (connect ▸ still)).1 started
    · intro error thrown
      exact absurd (consistent.thrown error (connect ▸ thrown)).1 started
  | beside connect pump started state handled =>
    refine ⟨?_,?_⟩
    · intro still
      obtain ⟨idle,live⟩ := consistent.under_way (connect ▸ still)
      exact ⟨started.mpr idle,pump.trans live⟩
    · intro error thrown
      obtain ⟨idle,live⟩ := consistent.thrown error (connect ▸ thrown)
      exact ⟨started.mpr idle,pump.trans live⟩

/-- A step leaves the failures reflected just when it is handled. -/
theorem step_reflects_iff (launch : Launch) (s s' : SessionController) (event : SessionEvent)
    (consistent : s.Consistent) (reflects : Reflects s) (taken : step launch s event = some s') :
    Reflects s' ↔ Handled s event := by
  have live (under_way : s.connect.open) (pump : s'.core.returned = s.core.returned) : s'.core.returned = false :=
    pump.trans (consistent.under_way under_way).2
  cases step_moves launch s s' event taken with
  | onward under_way onward handled =>
    refine iff_of_true ⟨fun error thrown => absurd thrown (onward.going error),?_⟩ handled
    intro ended
    exact nomatch (live under_way onward.pump).symm.trans ended
  | rethrown under_way description same pump thrown unnoticed handled =>
    rw [handled]
    constructor
    · intro reflected
      exact unnoticed ▸ reflected.thrown _ thrown
    · intro stopped
      refine ⟨fun _ _ => unnoticed ▸ stopped,?_⟩
      intro ended
      exact nomatch (live under_way pump).symm.trans ended
  | stopped under_way same pump state handled =>
    refine iff_of_true ⟨fun _ _ => state,?_⟩ handled
    intro ended
    exact nomatch (live under_way pump).symm.trans ended
  | pumped awaits connect state handled =>
    rw [handled,← state]
    constructor
    · exact fun reflected => reflected.ended
    · intro ended
      refine ⟨?_,ended⟩
      intro error thrown
      rw [state]
      exact reflects.thrown error (connect ▸ thrown)
  | beside connect pump started state handled =>
    refine iff_of_true ?_ handled
    rcases state with same | stopped
    · refine ⟨?_,?_⟩
      · intro error thrown
        rw [same]
        exact reflects.thrown error (connect ▸ thrown)
      · intro ended
        rw [same]
        exact reflects.ended (pump ▸ ended)
    · refine ⟨fun _ _ => stopped,?_⟩
      intro _
      cases state : s'.state with
      | stopped reason => rfl
      | _ =>
        rw [state] at stopped
        exact nomatch stopped

theorem start_reflects (launch : Launch) : (start launch).Consistent ∧ Reflects (start launch) :=
  ⟨⟨fun _ => ⟨rfl,rfl⟩,fun _ absurd => nomatch absurd⟩,⟨(fun _ absurd => nomatch absurd),fun absurd => nomatch absurd⟩⟩

end SessionController

/-- The state of a session reflects its failures, all the way, just when each of them is handled. -/
theorem failures_reflected_iff (launch : Launch) (events : List SessionEvent) (t : SessionController)
    (run : exec (SessionController.step launch) (.start launch) events = some t) :
    (∀ before after s, events = before ++ after →
        exec (SessionController.step launch) (.start launch) before = some s → Reflects s) ↔
      Along (SessionController.step launch) Handled (.start launch) events := by
  obtain ⟨consistent,reflects⟩ := SessionController.start_reflects launch
  exact reached_iff_along (SessionController.step launch) SessionController.Consistent Reflects Handled
    (fun s event s' consistent taken => SessionController.step_consistent launch s s' event consistent taken)
    (fun s event s' consistent reflects taken =>
      SessionController.step_reflects_iff launch s s' event consistent reflects taken)
    events (.start launch) t consistent reflects run

def samplePhone : Launch where
  appName := "ClearCam-iOS/0.1.0"
  snapshot := ⟨"iPhone15,3","iOS 18.0",1,.unplugged,.nominal,true⟩
  cameras := none
  captureEngine := false
  authBody := .token "secret"
  wireToken := "secret"
  sessionCandidate := "candidate"

/-- The desktop answers HELLO with an error. -/
def refused : List SessionEvent :=
  [.connectCalled,.sent (.ok ()),.received (.ok ⟨0,some 1,.error ⟨.incompatibleVersion,"version mismatch"⟩⟩)]

theorem server_error_reflected : ∃ t, exec (SessionController.step samplePhone) (.start samplePhone) refused = some t ∧
    ∀ before after s, refused = before ++ after →
      exec (SessionController.step samplePhone) (.start samplePhone) before = some s → Reflects s := by
  refine ⟨_,rfl,(failures_reflected_iff samplePhone refused _ rfl).mpr ?_⟩
  exact ⟨trivial,fun _ _ => ⟨trivial,fun _ _ => ⟨trivial,fun _ _ => trivial⟩⟩⟩

/-- The desktop closes the socket instead of answering AUTH: `connect` throws and the session goes on
handshaking. -/
theorem auth_closed_unnoticed : ¬ ∀ (launch : Launch) (events : List SessionEvent) (t : SessionController),
    exec (SessionController.step launch) (.start launch) events = some t → Reflects t := by
  intro every
  have reflects := every samplePhone [.connectCalled,.sent (.ok ()),.received (.ok ⟨0,some 1,.helloAck ⟨1,[]⟩⟩),
    .sent (.ok ()),.received (.error "truncated")] _ rfl
  exact nomatch reflects.thrown _ rfl

end ClearCam.Ios
