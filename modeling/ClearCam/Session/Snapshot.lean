import ClearCam.Session.ControlPlane

/-! What a session's control plane does to the snapshot: the device and the telemetry are those
of its messages, laid over what it found there. -/
namespace ClearCam.Session
open ClearCam.Protocol ClearCam.Transport

def PlaneInput.message : PlaneInput → Option ControlMessage
  | .recv _ _ _ (.ok env) => some env.body
  | _ => none

def deviceAfter (device : Option DeviceSnapshot) : ControlMessage → Option DeviceSnapshot
  | .deviceInfo info => some (.fromDeviceInfo info)
  | .cameraList list => device.map fun device => {device with cameras := list.cameras}
  | _ => device

def telemetryAfter (last : Option Telemetry) : ControlMessage → Option Telemetry
  | .telemetry telemetry => some telemetry
  | _ => last

def ownDevice (messages : List ControlMessage) : Option DeviceSnapshot := messages.foldl deviceAfter none

def ownTelemetry (messages : List ControlMessage) : Option Telemetry := messages.foldl telemetryAfter none

/-- What one input does to the snapshot: the message in it, if there is one, updates device and
telemetry, and a plane that returns on it leaves another state than ready. -/
structure Plane.Handled (channels : Channels) (plane : Plane) (input : PlaneInput)
    (result : Channels × Plane) : Prop where
  device : result.1.snapshot.device = input.message.toList.foldl deviceAfter channels.snapshot.device
  telemetry : result.1.snapshot.lastTelemetry =
    input.message.toList.foldl telemetryAfter channels.snapshot.lastTelemetry
  ended : result.2.returned = true → plane.returned = false →
    ∀ transport, result.1.snapshot.state ≠ .ready transport

theorem Plane.disconnect_handled (channels : Channels) (plane after : Plane) (input : PlaneInput)
    (silent : input.message = none) : Plane.Handled channels plane input (after.disconnect channels) := by
  constructor
  · rw [silent]
    rfl
  · rw [silent]
    rfl
  · intro _ _ transport shown
    cases shown

theorem Plane.unchanged_handled (channels : Channels) (plane after : Plane) (input : PlaneInput)
    (silent : input.message = none) (running : after.returned = plane.returned) :
    Plane.Handled channels plane input (channels,after) := by
  constructor
  · rw [silent]
    rfl
  · rw [silent]
    rfl
  · intro ended live
    rw [running,live] at ended
    cases ended

theorem Plane.onEnvelope_handled (channels : Channels) (plane before : Plane) (now : Nat) (nowUsec : UInt64)
    (failure : Option TransportError) (env : ControlEnvelope) (running : before.returned = plane.returned) :
    Plane.Handled channels plane (.recv now nowUsec failure (.ok env))
      (before.onEnvelope channels nowUsec failure env) := by
  rcases env with ⟨seq,ack,body⟩
  have continues (after : Plane) (result : Channels) (same : after.returned = plane.returned) :
      after.returned = true → plane.returned = false → ∀ transport, result.snapshot.state ≠ .ready transport := by
    intro ended live
    rw [same,live] at ended
    cases ended
  cases body with
  | bye bye =>
    refine ⟨rfl,rfl,?_⟩
    intro _ _ transport shown
    cases shown
  | cameraList list =>
    cases device : channels.snapshot.device with
    | none =>
      simp only [Plane.onEnvelope,device]
      exact ⟨by simp [PlaneInput.message,deviceAfter,device],rfl,continues _ _ running⟩
    | some known =>
      simp only [Plane.onEnvelope,device]
      exact ⟨by simp [PlaneInput.message,deviceAfter,device,Channels.emit],rfl,continues _ _ running⟩
  | deviceInfo info => exact ⟨rfl,rfl,continues _ _ running⟩
  | telemetry telemetry => exact ⟨rfl,rfl,continues _ _ running⟩
  | _ => exact ⟨rfl,rfl,continues _ _ running⟩

theorem Plane.handle_handled (channels : Channels) (plane : Plane) (input : PlaneInput) :
    Plane.Handled channels plane input (plane.handle channels input) := by
  cases input with
  | outbound message failure =>
    cases message with
    | none => exact plane.unchanged_handled channels plane _ rfl rfl
    | some body =>
      cases failure with
      | none => exact plane.unchanged_handled channels _ _ rfl rfl
      | some error => exact plane.disconnect_handled channels _ _ rfl
  | tick now nowUsec failure =>
    rcases plane.onTick_cases channels now nowUsec failure with ended | kept
    · rw [Plane.handle,ended]
      exact plane.disconnect_handled channels _ _ rfl
    · rw [Plane.handle,kept]
      exact plane.unchanged_handled channels _ _ rfl rfl
  | recv now nowUsec failure result =>
    cases result with
    | ok env => exact plane.onEnvelope_handled channels {plane with lastRx := now} now nowUsec failure env rfl
    | error error => exact plane.disconnect_handled channels plane _ rfl

end ClearCam.Session
