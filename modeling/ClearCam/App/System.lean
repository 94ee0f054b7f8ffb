import ClearCam.Session.ControlPlane
import ClearCam.Pairing.Store
import ClearCam.Library.Transition

/-! The tasks of the desktop app, interleaved: the Wi-Fi accept loop, the USB consumer,
and for each accepted session the task that waits for its media stream and the task
that runs its control plane. A step is what a task does between two points where
another task can observe it. -/
namespace ClearCam.App
open ClearCam.Protocol ClearCam.Transport ClearCam.Session ClearCam.Pairing

inductive WifiServerEvent where
  | control (socket : Nat)
  | media (socket : Nat)
  deriving DecidableEq

structure DialedStreams where
  udid : String
  control : Nat
  media : Nat
  deriving DecidableEq

/-- How far an accepted session has come, up to the end of the task that runs its
control plane. -/
inductive Task where
  | accepted
  -- USB: its sender is in the outbound slot
  | published
  -- USB: its counter is in the speedtest slot, its MEDIA_HELLO is awaited
  | counted
  | spawned
  | running (plane : Plane)
  -- `run_with_outbound` has returned; the slots are still to be cleared
  | returned
  | outboundCleared
  | done
  -- USB: its MEDIA_HELLO failed and its counter is taken back
  | withdrawing
  | abandoned
  deriving DecidableEq

inductive Media where
  | waiting
  | delivered (socket : Nat)
  | attached (socket : Nat)
  deriving DecidableEq

structure Session where
  transport : TransportTag
  control : Nat
  accepted : AcceptedSession
  task : Task
  media : Media
  deriving DecidableEq

inductive WifiLoop where
  | idle
  | handshaking (control : Nat)
  | publishing (control session : Nat)
  | greeting (media : Nat)
  deriving DecidableEq

inductive UsbLoop where
  | idle
  | resolving (dialed : DialedStreams)
  | untrusted (dialed : DialedStreams)
  | handshaking (dialed : DialedStreams) (key : String)
  | publishing (dialed : DialedStreams) (session : Nat)
  | counting (dialed : DialedStreams) (session : Nat)
  | greeting (dialed : DialedStreams) (session : Nat)
  | withdrawing (dialed : DialedStreams) (session : Nat)
  deriving DecidableEq

structure Handover where
  media : Nat
  binding : MediaBinding
  session : Nat
  deriving DecidableEq

/-- A slot holds the index of the session whose sender or counter is in it. `arrived`,
`handled` and `handed` record what the listeners took, what the accept loop is done
with and what it handed over. -/
structure AppState where
  channels : Channels
  outbound : Option Nat
  speedtestCounter : Option Nat
  sessions : List Session
  wifi : WifiLoop
  pending : AList fun _ : String × String => Nat
  usb : UsbLoop
  queue : List WifiServerEvent
  arrived : List WifiServerEvent
  handled : List WifiServerEvent
  handed : List Handover

inductive Label where
  | connect (event : WifiServerEvent)
  | wifiTake
  | wifiHandshake (wire : Wire) (uuid : String)
  | wifiPublish
  | wifiHello (recv : Recv)
  | attach (session : Nat)
  | start (session now : Nat)
  | plane (session : Nat) (input : PlaneInput)
  | clearOutbound (session : Nat)
  | clearSpeedtest (session : Nat)
  | usbTake (dialed : DialedStreams)
  | usbResolve (result : Except PairingStoreError (Option PairingMaterial))
  | usbUntrusted
  | usbHandshake (wire : Wire) (uuid : String)
  | usbPublish
  | usbCount
  | usbHello (recv : Recv)
  | usbWithdraw

def serverCaps : List Capability := [.hevc,.h264,.rawNv12]

def wifiQueueCapacity : Nat := 8

namespace AppState

def start (controlPort mediaPort : UInt16) : AppState where
  channels := ⟨⟨.listening controlPort mediaPort,none,none⟩,[]⟩
  outbound := none
  speedtestCounter := none
  sessions := []
  wifi := .idle
  pending := ∅
  usb := .idle
  queue := []
  arrived := []
  handled := []
  handed := []

def modify (app : AppState) (i : Nat) (f : Session → Session) : AppState :=
  {app with sessions := app.sessions.modify i f}

def setTask (app : AppState) (i : Nat) (task : Task) : AppState :=
  app.modify i fun session => {session with task := task}

def setMedia (app : AppState) (i : Nat) (media : Media) : AppState :=
  app.modify i fun session => {session with media := media}

def task (app : AppState) (i : Nat) : Option Task := app.sessions[i]?.map fun session => session.task

def media (app : AppState) (i : Nat) : Option Media := app.sessions[i]?.map fun session => session.media

def connect (app : AppState) (event : WifiServerEvent) : Option AppState :=
  if event ∈ app.arrived ∨ app.queue.length ≥ wifiQueueCapacity then none
  else some {app with queue := app.queue ++ [event], arrived := app.arrived ++ [event]}

def wifiTake (app : AppState) : Option AppState :=
  match app.wifi, app.queue with
  | .idle, .control socket :: rest => some {app with
      queue := rest
      channels := app.channels.setState .wifiHandshake
      wifi := .handshaking socket}
  | .idle, .media socket :: rest => some {app with queue := rest, wifi := .greeting socket}
  | _, _ => none

def wifiHandshake (expectedToken : String) (app : AppState) (wire : Wire) (uuid : String) :
    Option AppState :=
  match app.wifi with
  | .handshaking socket =>
    match (acceptControl expectedToken serverCaps uuid).run wire with
    | .ok accepted _ => some {app with
        sessions := app.sessions ++ [⟨.wifi,socket,accepted,.accepted,.waiting⟩]
        pending := app.pending.insert (accepted.sessionId,accepted.token) app.sessions.length
        wifi := .publishing socket app.sessions.length}
    | .error _ _ => some {app with
        channels := app.channels.setState (.listening 0 0)
        wifi := .idle
        handled := app.handled ++ [.control socket]}
  | _ => none

def wifiPublish (app : AppState) : Option AppState :=
  match app.wifi with
  | .publishing socket i => some {app.setTask i .spawned with
      outbound := some i
      wifi := .idle
      handled := app.handled ++ [.control socket]}
  | _ => none

def wifiHello (app : AppState) (recv : Recv) : Option AppState :=
  match app.wifi with
  | .greeting socket =>
    let app := {app with wifi := .idle, handled := app.handled ++ [.media socket]}
    match readMediaHello recv with
    | .ok binding =>
      match app.pending.lookup (binding.sessionId,binding.token) with
      | some i => some {app.setMedia i (.delivered socket) with
          pending := app.pending.erase (binding.sessionId,binding.token)
          handed := app.handed ++ [⟨socket,binding,i⟩]}
      | none => some app
    | .error _ => some app
  | _ => none

def attach (app : AppState) (i : Nat) : Option AppState :=
  match app.media i with
  | some (.delivered socket) => some {app.setMedia i (.attached socket) with speedtestCounter := some i}
  | _ => none

def startPlane (app : AppState) (i now : Nat) : Option AppState :=
  match app.sessions[i]? with
  | some ⟨transport,_,_,.spawned,_⟩ =>
    let (channels,plane) := Plane.start app.channels transport now (some ⟨16,[]⟩)
    some {app.setTask i (.running plane) with channels := channels}
  | _ => none

def plane (app : AppState) (i : Nat) (input : PlaneInput) : Option AppState :=
  match app.task i with
  | some (.running plane) =>
    let (channels,plane) := plane.handle app.channels input
    some {app.setTask i (if plane.returned then .returned else .running plane) with channels := channels}
  | _ => none

def clearOutbound (app : AppState) (i : Nat) : Option AppState :=
  if app.task i = some .returned then some {app.setTask i .outboundCleared with outbound := none} else none

def clearSpeedtest (app : AppState) (i : Nat) : Option AppState :=
  if app.task i = some .outboundCleared then some {app.setTask i .done with speedtestCounter := none}
  else none

def usbTake (app : AppState) (dialed : DialedStreams) : Option AppState :=
  match app.usb with
  | .idle => some {app with
      channels := app.channels.setState (.usbHandshake dialed.udid)
      usb := .resolving dialed}
  | _ => none

def usbResolve (app : AppState) (result : Except PairingStoreError (Option PairingMaterial)) :
    Option AppState :=
  match app.usb with
  | .resolving dialed =>
    match result with
    | .ok (some key) => some {app with usb := .handshaking dialed key.asB64}
    | .ok none => some {app with
        channels := app.channels.emit (.usbTrustRequest dialed.udid)
        usb := .untrusted dialed}
    | .error _ => some {app with usb := .idle}
  | _ => none

def usbUntrusted (app : AppState) : Option AppState :=
  match app.usb with
  | .untrusted _ => some {app with channels := app.channels.setState .idle, usb := .idle}
  | _ => none

def usbHandshake (app : AppState) (wire : Wire) (uuid : String) : Option AppState :=
  match app.usb with
  | .handshaking dialed key =>
    match (acceptControlUsb key serverCaps uuid).run wire with
    | .ok accepted _ => some {app with
        sessions := app.sessions ++ [⟨.usb,dialed.control,accepted,.accepted,.waiting⟩]
        usb := .publishing dialed app.sessions.length}
    | .error _ _ => some {app with channels := app.channels.setState .idle, usb := .idle}
  | _ => none

def usbPublish (app : AppState) : Option AppState :=
  match app.usb with
  | .publishing dialed i => some {app.setTask i .published with
      outbound := some i
      usb := .counting dialed i}
  | _ => none

def usbCount (app : AppState) : Option AppState :=
  match app.usb with
  | .counting dialed i => some {app.setTask i .counted with
      speedtestCounter := some i
      usb := .greeting dialed i}
  | _ => none

/-- Any MEDIA_HELLO will do: its contents are not looked at. -/
def usbHello (app : AppState) (recv : Recv) : Option AppState :=
  match app.usb with
  | .greeting dialed i =>
    match readMediaHello recv with
    | .ok _ => some {(app.setTask i .spawned).setMedia i (.attached dialed.media) with usb := .idle}
    | .error _ => some {app.setTask i .withdrawing with
        speedtestCounter := none
        usb := .withdrawing dialed i}
  | _ => none

def usbWithdraw (app : AppState) : Option AppState :=
  match app.usb with
  | .withdrawing _ i => some {app.setTask i .abandoned with outbound := none, usb := .idle}
  | _ => none

def step (expectedToken : String) (app : AppState) : Label → Option AppState
  | .connect event => app.connect event
  | .wifiTake => app.wifiTake
  | .wifiHandshake wire uuid => app.wifiHandshake expectedToken wire uuid
  | .wifiPublish => app.wifiPublish
  | .wifiHello recv => app.wifiHello recv
  | .attach i => app.attach i
  | .start i now => app.startPlane i now
  | .plane i input => app.plane i input
  | .clearOutbound i => app.clearOutbound i
  | .clearSpeedtest i => app.clearSpeedtest i
  | .usbTake dialed => app.usbTake dialed
  | .usbResolve result => app.usbResolve result
  | .usbUntrusted => app.usbUntrusted
  | .usbHandshake wire uuid => app.usbHandshake wire uuid
  | .usbPublish => app.usbPublish
  | .usbCount => app.usbCount
  | .usbHello recv => app.usbHello recv
  | .usbWithdraw => app.usbWithdraw

end AppState

def pairedWire (token : String) : Wire :=
  .reliable [.envelope ⟨1,none,.hello ⟨1,"ClearCam-iOS/0.1.0",⟨"iPhone15,3","18.0"⟩,"c",[.hevc]⟩⟩,
    .envelope ⟨2,none,.auth (.token token)⟩]

def oneSession : List Label :=
  [.connect (.control 0),.wifiTake,.wifiHandshake (pairedWire "t") "a",.wifiPublish,.start 0 0,
    .connect (.media 0),.wifiTake,.wifiHello (.envelope ⟨0,none,.mediaHello ⟨"sess-a","t"⟩⟩),.attach 0]

end ClearCam.App
