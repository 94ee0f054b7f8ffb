import ClearCam.Session.Handshake

/-! The ControlPlane actor, one handler for each branch of its `select!` loop. The
result of a send is an input of the handler that makes it; the receivers of the
snapshot and event channels stay open. -/
namespace ClearCam.Session
open ClearCam.Protocol ClearCam.Transport

inductive TransportTag where
  | wifi | usb
  deriving DecidableEq

inductive SessionStateKind where
  | idle
  | listening (controlPort mediaPort : UInt16)
  | wifiHandshake
  | usbHandshake (udid : String)
  | ready (transport : Option TransportTag)
  | reconnecting
  | closed (reason : String)
  deriving DecidableEq

structure DeviceSnapshot where
  model : String
  osVer : String
  usb3Capable : Bool
  batteryLevel : Float
  cameras : List CameraEntry
  deriving DecidableEq

def DeviceSnapshot.fromDeviceInfo (info : DeviceInfo) : DeviceSnapshot :=
  ⟨info.model,info.osVer,info.usb3Capable,info.batteryLevel,[]⟩

structure SessionSnapshot where
  state : SessionStateKind
  device : Option DeviceSnapshot
  lastTelemetry : Option Telemetry
  deriving DecidableEq

inductive ControlPlaneEvent where
  | stateChanged (state : SessionStateKind)
  | deviceInfo (device : DeviceSnapshot)
  | telemetry (telemetry : Telemetry)
  | closed (reason : String)
  | usbTrustRequest (udid : String)
  | modeApplied (mode : Mode)
  deriving DecidableEq

structure Channels where
  snapshot : SessionSnapshot
  events : List ControlPlaneEvent
  deriving DecidableEq

def Channels.emit (channels : Channels) (event : ControlPlaneEvent) : Channels :=
  {channels with events := channels.events ++ [event]}

def Channels.broadcast (channels : Channels) (state : SessionStateKind) (device : Option DeviceSnapshot)
    (telemetry : Option Telemetry) : Channels :=
  let snapshot := channels.snapshot
  {channels with snapshot := ⟨state,device <|> snapshot.device,telemetry <|> snapshot.lastTelemetry⟩}.emit
    (.stateChanged state)

def Channels.setState (channels : Channels) (state : SessionStateKind) : Channels :=
  {channels with snapshot := {channels.snapshot with state := state}}

structure Mailbox (α : Type) where
  capacity : Nat
  queued : List α
  deriving DecidableEq

def Mailbox.trySend {α : Type} (mailbox : Mailbox α) (item : α) : Mailbox α :=
  if mailbox.queued.length < mailbox.capacity then {mailbox with queued := mailbox.queued ++ [item]}
  else mailbox

def deadPeerAfter : Nat := 6000000000

/-- One actor: the locals of `run_with_outbound`, what it has written and whether it
has returned. -/
structure Plane where
  transport : TransportTag
  seq : UInt64
  lastRx : Nat
  telemetryTx : Option (Mailbox Telemetry)
  written : List ControlEnvelope
  returned : Bool
  deriving DecidableEq

def Plane.start (channels : Channels) (transport : TransportTag) (now : Nat)
    (telemetryTx : Option (Mailbox Telemetry)) : Channels × Plane :=
  (channels.broadcast (.ready (some transport)) none none,⟨transport,100,now,telemetryTx,[],false⟩)

def Plane.send (plane : Plane) (ack : Option UInt64) (body : ControlMessage)
    (failure : Option TransportError) : Plane :=
  let seq := plane.seq + 1
  {plane with
    seq := seq
    written := if failure.isSome then plane.written else plane.written ++ [⟨seq,ack,body⟩]}

def Plane.disconnect (channels : Channels) (plane : Plane) : Channels × Plane :=
  (channels.broadcast .reconnecting none none,{plane with returned := true})

def Plane.onOutbound (channels : Channels) (plane : Plane) (message : Option ControlMessage)
    (failure : Option TransportError) : Channels × Plane :=
  match message with
  | none => (channels,plane)
  | some body =>
    let plane := plane.send none body failure
    if failure.isSome then plane.disconnect channels else (channels,plane)

def Plane.onTick (channels : Channels) (plane : Plane) (now : Nat) (nowUsec : UInt64)
    (failure : Option TransportError) : Channels × Plane :=
  let plane := plane.send none (.ping ⟨nowUsec⟩) failure
  if failure.isSome then plane.disconnect channels
  else if now - plane.lastRx > deadPeerAfter then plane.disconnect channels
  else (channels,plane)

def Plane.onEnvelope (channels : Channels) (plane : Plane) (nowUsec : UInt64)
    (failure : Option TransportError) (env : ControlEnvelope) : Channels × Plane :=
  match env.body with
  | .ping ping => (channels,plane.send (some env.seq) (.pong ⟨nowUsec,ping.tsUsec⟩) failure)
  | .pong _ => (channels,plane)
  | .deviceInfo info =>
    let device := DeviceSnapshot.fromDeviceInfo info
    ((channels.emit (.deviceInfo device)).broadcast (.ready (some plane.transport)) (some device) none,plane)
  | .cameraList list =>
    let device := channels.snapshot.device.map fun device => {device with cameras := list.cameras}
    let channels := {channels with snapshot := {channels.snapshot with device := device}}
    match device with
    | some device => (channels.emit (.deviceInfo device),plane)
    | none => (channels,plane)
  | .telemetry telemetry =>
    let channels := {channels with snapshot := {channels.snapshot with lastTelemetry := some telemetry}}
    (channels.emit (.telemetry telemetry),
      {plane with telemetryTx := plane.telemetryTx.map (·.trySend telemetry)})
  | .bye bye =>
    ((channels.broadcast (.closed bye.reason) none none).emit (.closed bye.reason),
      {plane with returned := true})
  | .modeApplied applied => (channels.emit (.modeApplied applied.mode),plane)
  | _ => (channels,plane)

def Plane.onRecv (channels : Channels) (plane : Plane) (now : Nat) (nowUsec : UInt64)
    (failure : Option TransportError) (result : Except TransportError ControlEnvelope) :
    Channels × Plane :=
  match result with
  | .ok env => {plane with lastRx := now}.onEnvelope channels nowUsec failure env
  | .error _ => plane.disconnect channels

inductive PlaneInput where
  | outbound (message : Option ControlMessage) (failure : Option TransportError)
  | tick (now : Nat) (nowUsec : UInt64) (failure : Option TransportError)
  | recv (now : Nat) (nowUsec : UInt64) (failure : Option TransportError)
      (result : Except TransportError ControlEnvelope)

def Plane.handle (channels : Channels) (plane : Plane) : PlaneInput → Channels × Plane
  | .outbound message failure => plane.onOutbound channels message failure
  | .tick now nowUsec failure => plane.onTick channels now nowUsec failure
  | .recv now nowUsec failure result => plane.onRecv channels now nowUsec failure result

/-- One turn of the loop, which takes nothing more once it has returned. -/
def Plane.step (s : Channels × Plane) (input : PlaneInput) : Option (Channels × Plane) :=
  if s.2.returned then none else some (s.2.handle s.1 input)

theorem Plane.step_eq (s s' : Channels × Plane) (input : PlaneInput) (taken : Plane.step s input = some s') :
    s.2.returned = false ∧ s' = s.2.handle s.1 input := by
  rw [Plane.step] at taken
  split at taken
  · cases taken
  · next running => exact ⟨by simpa using running,(Option.some.inj taken).symm⟩

/-- A keepalive is sent first; then the plane gives up, or nothing else happens. -/
theorem Plane.onTick_cases (channels : Channels) (plane : Plane) (now : Nat) (nowUsec : UInt64)
    (failure : Option TransportError) :
    plane.onTick channels now nowUsec failure =
        (plane.send none (.ping ⟨nowUsec⟩) failure).disconnect channels ∨
      plane.onTick channels now nowUsec failure = (channels,plane.send none (.ping ⟨nowUsec⟩) failure) := by
  rw [Plane.onTick]
  split
  · exact .inl rfl
  · split
    · exact .inl rfl
    · exact .inr rfl

end ClearCam.Session
