import ClearCam.Ios.SessionController
import ClearCam.Library.Duplex

/-! The phone's end of one control connection: its `SessionController`, and the telemetry that a
`TelemetryEmitter` has it send. What a step offers is what it gives to the channel, whether or not the
send succeeds. -/
namespace ClearCam.Ios
open ClearCam.Library ClearCam.Protocol

inductive PhoneEvent where
  | session (event : SessionEvent)
  | telemetry (telemetry : Telemetry) (succeeds : Bool)

def Launch.hello (launch : Launch) : Hello where
  protoVer := clearCamProtocolVersion
  app := launch.appName
  device := ⟨launch.snapshot.model,launch.snapshot.osVer⟩
  sessionId := launch.sessionCandidate
  caps := [.hevc,.h264,.rawNv12]

namespace SessionController

def sendTelemetry (s : SessionController) (telemetry : Telemetry) (succeeds : Bool) : SessionController :=
  { s with core := s.core.send none (.telemetry telemetry) succeeds }

def phoneStep (launch : Launch) (s : SessionController) : PhoneEvent → Option SessionController
  | .session event => step launch s event
  | .telemetry telemetry succeeds => some (s.sendTelemetry telemetry succeeds)

end SessionController

namespace PhoneEvent

def reads : PhoneEvent → Option ControlEnvelope
  | .session (.received (.ok env)) => some env
  | .session (.pumpReceived (.ok env) _) => some env
  | _ => none

/-- What the pump has read; the rest was read by `connect`. -/
def pumped : PhoneEvent → Option (ControlEnvelope × PumpInput)
  | .session (.pumpReceived (.ok env) input) => some (env,input)
  | _ => none

end PhoneEvent

/-- What the pump answers an envelope with. -/
def Pump.answer (captureEngine : Bool) (env : ControlEnvelope) (input : PumpInput) :
    Option (Option UInt64 × ControlMessage) :=
  match env.body with
  | .ping p => some (some env.seq,.pong ⟨input.nowUsec,p.tsUsec⟩)
  | .setCamera sc =>
    if captureEngine && !input.engineSucceeds then none
    else some (some env.seq,.cameraState ⟨sc.cameraId,"raw nv12"⟩)
  | _ => none

def Connect.offers (launch : Launch) : Connect → Option ControlMessage
  | .sendingHello => some (.hello launch.hello)
  | .sendingAuth => some (.auth launch.authBody)
  | .sendingDeviceInfo _ => some (.deviceInfo launch.snapshot)
  | .sendingCameraList _ cameras => some (.cameraList ⟨cameras⟩)
  | _ => none

namespace SessionController

def offers (launch : Launch) (s : SessionController) : PhoneEvent → Option (Option UInt64 × ControlMessage)
  | .session (.sent _) => (s.connect.offers launch).map fun body => (none,body)
  | .session (.pumpReceived (.ok env) input) => Pump.answer s.core.captureEngine env input
  | .session (.disconnectCalled reason _) => some (none,.bye ⟨reason⟩)
  | .telemetry telemetry _ => some (none,.telemetry telemetry)
  | _ => none

def envelope (s : SessionController) (offered : Option UInt64 × ControlMessage) : ControlEnvelope :=
  ⟨s.core.seq + 1,offered.1,offered.2⟩

end SessionController

/-- The camera that the engine, if there is one, is told to switch to. -/
def Pump.switch (captureEngine : Bool) (env : ControlEnvelope) : Option String :=
  match env.body with
  | .setCamera sc => if captureEngine then some sc.cameraId else none
  | _ => none

def SessionController.switches (s : SessionController) : PhoneEvent → Option String
  | .session (.pumpReceived (.ok env) _) => Pump.switch s.core.captureEngine env
  | _ => none

/-- A pump before and after it offers something, or nothing: it is sent, unless the send fails. -/
structure Offers (before after : Pump) (offered : Option (Option UInt64 × ControlMessage)) (switched : Option String)
    (succeeds : Bool) : Prop where
  sent : after.sent = before.sent ++
    if succeeds then (offered.map fun offered => ⟨before.seq + 1,offered.1,offered.2⟩).toList else []
  switches : after.cameraSwitches = before.cameraSwitches ++ switched.toList
  engine : after.captureEngine = before.captureEngine

theorem Pump.send_offers (pump : Pump) (ack : Option UInt64) (body : ControlMessage) (succeeds : Bool) :
    Offers pump (pump.send ack body succeeds) (some (ack,body)) none succeeds := by
  refine ⟨?_,(List.append_nil _).symm,rfl⟩
  cases succeeds with
  | true => rfl
  | false => exact (List.append_nil _).symm

theorem Offers.nothing (before after : Pump) (switched : Option String) (succeeds : Bool)
    (sent : after.sent = before.sent) (switches : after.cameraSwitches = before.cameraSwitches ++ switched.toList)
    (engine : after.captureEngine = before.captureEngine) : Offers before after none switched succeeds := by
  refine ⟨?_,switches,engine⟩
  rw [sent]
  cases succeeds with
  | true => exact (List.append_nil _).symm
  | false => exact (List.append_nil _).symm

theorem Offers.quiet (before after : Pump) (succeeds : Bool) (sent : after.sent = before.sent)
    (switches : after.cameraSwitches = before.cameraSwitches) (engine : after.captureEngine = before.captureEngine) :
    Offers before after none none succeeds :=
  Offers.nothing before after none succeeds sent (switches.trans (List.append_nil _).symm) engine

theorem Pump.onReceived_offers (pump : Pump) (env : ControlEnvelope) (input : PumpInput) :
    Offers pump (pump.onReceived (.ok env) input) (Pump.answer pump.captureEngine env input)
      (Pump.switch pump.captureEngine env) input.sendSucceeds := by
  obtain ⟨seq,ack,body⟩ := env
  obtain ⟨counter,active,captureEngine,sent,switches,returned,crashed⟩ := pump
  cases body with
  | ping p => exact Pump.send_offers _ _ _ _
  | setCamera sc =>
    cases captureEngine with
    | false => exact ⟨(Pump.send_offers _ _ _ _).sent,(List.append_nil _).symm,rfl⟩
    | true =>
      simp only [Pump.onReceived,Pump.applySetCamera,Pump.answer]
      cases input.engineSucceeds with
      | false => exact Offers.nothing _ _ _ _ rfl rfl rfl
      | true => exact ⟨(Pump.send_offers _ _ _ _).sent,rfl,rfl⟩
  | _ => exact Offers.nothing _ _ _ _ rfl (List.append_nil _).symm rfl

def PhoneEvent.succeeds : PhoneEvent → Bool
  | .session (.sent (.error _)) => false
  | .session (.pumpReceived _ input) => input.sendSucceeds
  | .session (.disconnectCalled _ byeSent) => byeSent
  | .telemetry _ succeeds => succeeds
  | _ => true

namespace SessionController

theorem sendControl_offers (s : SessionController) (body : ControlMessage) (outcome : Except String Unit)
    (next : SessionController → SessionController) (core : ∀ s, (next s).core = s.core) :
    Offers s.core (s.sendControl body outcome next).core (some (none,body)) none
      (PhoneEvent.session (.sent outcome)).succeeds := by
  cases outcome with
  | ok _ =>
    rw [sendControl,core]
    exact s.core.send_offers none body true
  | error description => exact s.core.send_offers none body false

theorem onSent_offers (launch : Launch) (s s' : SessionController) (outcome : Except String Unit)
    (taken : onSent launch s outcome = some s') :
    Offers s.core s'.core ((s.connect.offers launch).map fun body => (none,body)) none
      (PhoneEvent.session (.sent outcome)).succeeds := by
  unfold onSent at taken
  cases call : s.connect with
  | sendingHello =>
    rw [call] at taken
    exact Option.some.inj taken ▸ s.sendControl_offers _ outcome _ fun _ => rfl
  | sendingAuth =>
    rw [call] at taken
    exact Option.some.inj taken ▸ s.sendControl_offers _ outcome _ fun _ => rfl
  | sendingMediaHello sid =>
    rw [call] at taken
    obtain rfl := Option.some.inj taken
    cases outcome with
    | ok _ => exact Offers.quiet _ _ _ rfl rfl rfl
    | error description => exact Offers.quiet _ _ _ rfl rfl rfl
  | sendingDeviceInfo sid =>
    rw [call] at taken
    refine Option.some.inj taken ▸ s.sendControl_offers _ outcome _ fun after => ?_
    unfold onDeviceInfoSent
    split
    · rfl
    · rfl
  | sendingCameraList sid cameras =>
    rw [call] at taken
    refine Option.some.inj taken ▸ s.sendControl_offers _ outcome _ fun after => ?_
    unfold onCameraListSent
    split
    · split
      · rfl
      · rfl
    · rfl
  | _ =>
    rw [call] at taken
    cases taken

/-- A step sends just what it offers, if its send succeeds. -/
theorem phoneStep_offers (launch : Launch) (s s' : SessionController) (event : PhoneEvent)
    (taken : phoneStep launch s event = some s') :
    Offers s.core s'.core (s.offers launch event) (s.switches event) event.succeeds := by
  cases event with
  | telemetry telemetry succeeds =>
    obtain rfl := Option.some.inj taken
    exact s.core.send_offers _ _ _
  | session event =>
    cases event with
    | sent outcome => exact onSent_offers launch s s' outcome taken
    | connectCalled =>
      simp only [phoneStep,step] at taken
      split at taken
      · obtain rfl := Option.some.inj taken
        exact Offers.quiet _ _ _ rfl rfl rfl
      · cases taken
    | received outcome =>
      refine Offers.quiet _ _ _ ?_ ?_ ?_
      all_goals
        simp only [phoneStep,step] at taken
        split at taken
        · obtain rfl := Option.some.inj taken
          unfold onHelloAck
          split
          · rfl
          · split
            · rfl
            · rfl
            · rfl
        · obtain rfl := Option.some.inj taken
          unfold onAuthResp
          split
          · rfl
          · split
            · rfl
            · rfl
            · rfl
        · cases taken
    | cameraStarted outcome =>
      simp only [phoneStep,step] at taken
      split at taken
      · obtain rfl := Option.some.inj taken
        cases outcome with
        | ok _ => exact Offers.quiet _ _ _ rfl rfl rfl
        | error description => exact Offers.quiet _ _ _ rfl rfl rfl
      · cases taken
    | pumpReceived outcome input =>
      simp only [phoneStep,step] at taken
      split at taken
      · obtain rfl := Option.some.inj taken
        cases outcome with
        | error description => exact Offers.quiet _ _ _ rfl rfl rfl
        | ok env => exact s.core.onReceived_offers env input
      · cases taken
    | disconnectCalled reason byeSent =>
      obtain rfl := Option.some.inj taken
      exact s.core.send_offers _ _ _
    | disconnectEnded reason =>
      simp only [phoneStep,step] at taken
      split at taken
      · obtain rfl := Option.some.inj taken
        exact Offers.quiet _ _ _ rfl rfl rfl
      · cases taken

end SessionController

/-- How far `connect` has come, by what it has read. -/
inductive Phase where
  | greeting
  | acked
  | granted (sid : String)
  | threw
  deriving DecidableEq

def Connect.phase : Connect → Phase
  | .notCalled | .sendingHello | .receivingHelloAck => .greeting
  | .sendingAuth | .receivingAuth => .acked
  | .sendingMediaHello sid | .sendingDeviceInfo sid | .sendingCameraList sid _ | .startingCamera sid _
  | .returned sid => .granted sid
  | .threw _ => .threw

/-- What a step does to the phase, with what it reads for it. -/
inductive Turned (s : SessionController) (event : PhoneEvent) (s' : SessionController) : Prop where
  | beside (phase : s'.connect.phase = s.connect.phase) (session : s'.sessionId = s.sessionId)
      (unread : event.reads = none)
  | pumped (env : ControlEnvelope) (input : PumpInput) (awaits : s.pumping = true)
      (read : event = .session (.pumpReceived (.ok env) input)) (connect : s'.connect = s.connect)
      (session : s'.sessionId = s.sessionId)
  | acked (ack : ControlEnvelope) (caps : HelloAck) (phase : s.connect.phase = .greeting)
      (read : event = .session (.received (.ok ack))) (body : ack.body = .helloAck caps)
      (after : s'.connect.phase = .acked) (session : s'.sessionId = s.sessionId)
  | granted (resp : ControlEnvelope) (sid : String) (phase : s.connect.phase = .acked)
      (read : event = .session (.received (.ok resp))) (body : resp.body = .authOk ⟨sid⟩)
      (after : s'.connect.phase = .granted sid) (session : s'.sessionId = some sid)
  | threw (under_way : s.connect.open) (after : s'.connect.phase = .threw) (session : s'.sessionId = s.sessionId)
      (read : event.reads = none ∨ ∃ env, event = .session (.received (.ok env)) ∧
        (s.connect.phase = .greeting ∨ s.connect.phase = .acked))

def Connect.hasReturned : Connect → Bool
  | .returned _ => true
  | _ => false

theorem Connect.unreturned (connect : Connect) (under_way : connect.open) : connect.hasReturned = false := by
  cases connect with
  | returned sid => exact under_way.elim
  | _ => rfl

/-- What every step keeps. -/
structure Carried (launch : Launch) (s s' : SessionController) : Prop where
  media : s'.mediaSent = s.mediaSent ∨ ∃ sid, s.connect.phase = .granted sid ∧
    s'.mediaSent = s.mediaSent ++ [⟨0,none,.mediaHello ⟨sid,launch.wireToken⟩⟩]
  listing : ∀ sid cameras, s'.connect = .sendingCameraList sid cameras →
    s.connect = .sendingCameraList sid cameras ∨ launch.cameras = some cameras
  returned : s.connect.hasReturned = true → s'.connect.hasReturned = true

/-- While `connect` is under way there is no return to keep. -/
theorem Connect.open_returned (connect : Connect) (P : Prop) (under_way : connect.open) :
    connect.hasReturned = true → P := by
  intro returned
  rw [connect.unreturned under_way] at returned
  cases returned

namespace SessionController

theorem sendControl_turned (launch : Launch) (s : SessionController) (body : ControlMessage)
    (outcome : Except String Unit) (next : SessionController → SessionController) (under_way : s.connect.open)
    (phase : ∀ s', s'.connect = s.connect → (next s').connect.phase = s.connect.phase)
    (session : ∀ s', (next s').sessionId = s'.sessionId) (media : ∀ s', (next s').mediaSent = s'.mediaSent)
    (listing : ∀ s' sid cameras, (next s').connect = .sendingCameraList sid cameras → launch.cameras = some cameras) :
    Turned s (.session (.sent outcome)) (s.sendControl body outcome next) ∧
      Carried launch s (s.sendControl body outcome next) := by
  cases outcome with
  | ok _ =>
    refine ⟨.beside (phase _ rfl) (session _) rfl,.inl (media _),?_,s.connect.open_returned _ under_way⟩
    intro sid cameras found
    exact .inr (listing _ sid cameras found)
  | error description =>
    refine ⟨.threw under_way rfl rfl (.inl rfl),.inl rfl,?_,s.connect.open_returned _ under_way⟩
    exact fun _ _ found => nomatch found

theorem onSent_turned (launch : Launch) (s s' : SessionController) (outcome : Except String Unit)
    (taken : onSent launch s outcome = some s') :
    Turned s (.session (.sent outcome)) s' ∧ Carried launch s s' := by
  unfold onSent at taken
  cases call : s.connect with
  | sendingHello =>
    rw [call] at taken
    refine Option.some.inj taken ▸ s.sendControl_turned launch _ outcome _ (by rw [call]; trivial) ?_ ?_ ?_ ?_
    · exact fun _ _ => by rw [call]; rfl
    · exact fun _ => rfl
    · exact fun _ => rfl
    · exact fun _ _ _ found => nomatch found
  | sendingAuth =>
    rw [call] at taken
    refine Option.some.inj taken ▸ s.sendControl_turned launch _ outcome _ (by rw [call]; trivial) ?_ ?_ ?_ ?_
    · exact fun _ _ => by rw [call]; rfl
    · exact fun _ => rfl
    · exact fun _ => rfl
    · exact fun _ _ _ found => nomatch found
  | sendingMediaHello sid =>
    rw [call] at taken
    obtain rfl := Option.some.inj taken
    have under_way : s.connect.open := by rw [call]; trivial
    cases outcome with
    | ok _ =>
      refine ⟨.beside (by rw [call]; rfl) rfl rfl,.inr ⟨sid,by rw [call]; rfl,rfl⟩,?_,s.connect.open_returned _ under_way⟩
      exact fun _ _ found => nomatch found
    | error description =>
      exact ⟨.threw under_way rfl rfl (.inl rfl),.inl rfl,(fun _ _ found => nomatch found),s.connect.open_returned _ under_way⟩
  | sendingDeviceInfo sid =>
    rw [call] at taken
    refine Option.some.inj taken ▸ s.sendControl_turned launch _ outcome _ (by rw [call]; trivial) ?_ ?_ ?_ ?_
    · intro after _
      rw [call,onDeviceInfoSent]
      cases launch.cameras <;> rfl
    · intro after
      rw [onDeviceInfoSent]
      cases launch.cameras <;> rfl
    · intro after
      rw [onDeviceInfoSent]
      cases launch.cameras <;> rfl
    · intro after _ cameras found
      rw [onDeviceInfoSent] at found
      cases discovered : launch.cameras with
      | none =>
        rw [discovered] at found
        cases found
      | some others =>
        rw [discovered] at found
        cases found
        rfl
  | sendingCameraList sid cameras =>
    rw [call] at taken
    have shape (after : SessionController) : (onCameraListSent sid cameras after).connect.phase = .granted sid ∧
        (onCameraListSent sid cameras after).sessionId = after.sessionId ∧
        (onCameraListSent sid cameras after).mediaSent = after.mediaSent ∧
        ∀ other listed, (onCameraListSent sid cameras after).connect ≠ .sendingCameraList other listed := by
      unfold onCameraListSent
      split
      · split
        · exact ⟨rfl,rfl,rfl,fun _ _ found => nomatch found⟩
        · exact ⟨rfl,rfl,rfl,fun _ _ found => nomatch found⟩
      · exact ⟨rfl,rfl,rfl,fun _ _ found => nomatch found⟩
    refine Option.some.inj taken ▸ s.sendControl_turned launch _ outcome _ (by rw [call]; trivial) ?_ ?_ ?_ ?_
    · exact fun after _ => (shape after).1.trans (by rw [call]; rfl)
    · exact fun after => (shape after).2.1
    · exact fun after => (shape after).2.2.1
    · exact fun after other listed found => absurd found ((shape after).2.2.2 other listed)
  | _ =>
    rw [call] at taken
    cases taken

/-- A step that leaves the connect, the session and the media channel as they were. -/
theorem beside_turned (launch : Launch) (s s' : SessionController) (event : PhoneEvent)
    (connect : s'.connect = s.connect) (session : s'.sessionId = s.sessionId) (media : s'.mediaSent = s.mediaSent)
    (unread : event.reads = none) : Turned s event s' ∧ Carried launch s s' := by
  refine ⟨.beside (by rw [connect]) session unread,.inl media,?_,?_⟩
  · exact fun _ _ found => .inl (connect ▸ found)
  · exact fun returned => connect ▸ returned

theorem stop_turned (launch : Launch) (s s' : SessionController) (event : PhoneEvent) (error : Thrown)
    (under_way : s.connect.open) (thrown : s'.connect = .threw error) (session : s'.sessionId = s.sessionId)
    (media : s'.mediaSent = s.mediaSent)
    (read : event.reads = none ∨ ∃ env, event = .session (.received (.ok env)) ∧
      (s.connect.phase = .greeting ∨ s.connect.phase = .acked)) : Turned s event s' ∧ Carried launch s s' := by
  refine ⟨.threw under_way (by rw [thrown]; rfl) session read,.inl media,?_,s.connect.open_returned _ under_way⟩
  intro sid cameras found
  rw [thrown] at found
  cases found

theorem onReceived_turned (launch : Launch) (s s' : SessionController) (outcome : Except String ControlEnvelope)
    (taken : step launch s (.received outcome) = some s') :
    Turned s (.session (.received outcome)) s' ∧ Carried launch s s' := by
  simp only [step] at taken
  split at taken
  · next call =>
    have under_way : s.connect.open := by rw [call]; trivial
    have phase : s.connect.phase = .greeting := by rw [call]; rfl
    obtain rfl := Option.some.inj taken
    cases outcome with
    | error description => exact stop_turned launch s _ _ _ under_way rfl rfl rfl (.inl rfl)
    | ok ack =>
      cases body : ack.body with
      | helloAck caps =>
        simp only [onHelloAck,body]
        refine ⟨.acked ack caps phase rfl body rfl rfl,.inl rfl,?_,s.connect.open_returned _ under_way⟩
        intro _ _ found
        cases found
      | _ =>
        simp only [onHelloAck,body]
        exact stop_turned launch s _ _ _ under_way rfl rfl rfl (.inr ⟨ack,rfl,.inl phase⟩)
  · next call =>
    have under_way : s.connect.open := by rw [call]; trivial
    have phase : s.connect.phase = .acked := by rw [call]; rfl
    obtain rfl := Option.some.inj taken
    cases outcome with
    | error description => exact stop_turned launch s _ _ _ under_way rfl rfl rfl (.inl rfl)
    | ok resp =>
      cases body : resp.body with
      | authOk ok =>
        simp only [onAuthResp,body]
        refine ⟨.granted resp ok.sessionId phase rfl body rfl rfl,.inl rfl,?_,s.connect.open_returned _ under_way⟩
        intro _ _ found
        cases found
      | _ =>
        simp only [onAuthResp,body]
        exact stop_turned launch s _ _ _ under_way rfl rfl rfl (.inr ⟨resp,rfl,.inr phase⟩)
  · cases taken

theorem phoneStep_turned (launch : Launch) (s s' : SessionController) (event : PhoneEvent)
    (taken : phoneStep launch s event = some s') : Turned s event s' ∧ Carried launch s s' := by
  cases event with
  | telemetry telemetry succeeds =>
    obtain rfl := Option.some.inj taken
    exact beside_turned launch s _ _ rfl rfl rfl rfl
  | session event =>
    cases event with
    | sent outcome => exact onSent_turned launch s s' outcome taken
    | received outcome => exact onReceived_turned launch s s' outcome taken
    | connectCalled =>
      simp only [phoneStep,step] at taken
      split at taken
      · next call =>
        obtain rfl := Option.some.inj taken
        refine ⟨.beside (by rw [call]; rfl) rfl rfl,.inl rfl,?_,s.connect.open_returned _ (by rw [call]; trivial)⟩
        intro _ _ found
        cases found
      · cases taken
    | cameraStarted outcome =>
      simp only [phoneStep,step] at taken
      split at taken
      · next sid cameraId call =>
        obtain rfl := Option.some.inj taken
        have under_way : s.connect.open := by rw [call]; trivial
        cases outcome with
        | ok _ =>
          refine ⟨.beside (by rw [call]; rfl) rfl rfl,.inl rfl,?_,s.connect.open_returned _ under_way⟩
          intro _ _ found
          cases found
        | error description => exact stop_turned launch s _ _ _ under_way rfl rfl rfl (.inl rfl)
      · cases taken
    | pumpReceived outcome input =>
      simp only [phoneStep,step] at taken
      split at taken
      · next awaits =>
        obtain rfl := Option.some.inj taken
        cases outcome with
        | error description => exact beside_turned launch s _ _ rfl rfl rfl rfl
        | ok env =>
          refine ⟨.pumped env input awaits rfl rfl rfl,.inl rfl,?_,fun returned => returned⟩
          exact fun _ _ found => .inl found
      · cases taken
    | disconnectCalled reason byeSent =>
      obtain rfl := Option.some.inj taken
      exact beside_turned launch s _ _ rfl rfl rfl rfl
    | disconnectEnded reason =>
      simp only [phoneStep,step] at taken
      split at taken
      · obtain rfl := Option.some.inj taken
        exact beside_turned launch s _ _ rfl rfl rfl rfl
      · cases taken

end SessionController

/-- The phone on its control channel. -/
def phone (launch : Launch) : Party SessionController PhoneEvent ControlEnvelope ControlEnvelope where
  step := SessionController.phoneStep launch
  reads := PhoneEvent.reads
  wrote s := s.core.sent
  appends s event s' taken := ⟨_,(SessionController.phoneStep_offers launch s s' event taken).sent.symm⟩

end ClearCam.Ios
