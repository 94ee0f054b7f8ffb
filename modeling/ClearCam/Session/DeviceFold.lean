import ClearCam.Library.Transition
import ClearCam.Session.Snapshot
import Mathlib.Data.List.DropRight

/-! The snapshot as a fold of the phone's messages. A `DEVICE_INFO` replaces the whole record, cameras
included, and a `CAMERA_LIST` fills in a record that is there. -/
namespace ClearCam.Session
open ClearCam.Library ClearCam.Protocol

def infoOf : ControlMessage → Option DeviceInfo
  | .deviceInfo info => some info
  | _ => none

def camerasOf : ControlMessage → Option CameraList
  | .cameraList list => some list
  | _ => none

def telemetryOf : ControlMessage → Option Telemetry
  | .telemetry telemetry => some telemetry
  | _ => none

def latest {α : Type} (kind : ControlMessage → Option α) (messages : List ControlMessage) : Option α :=
  (messages.filterMap kind).getLast?

def sinceInfo (messages : List ControlMessage) : List ControlMessage :=
  messages.rtakeWhile fun message => (infoOf message).isNone

def describe (info : DeviceInfo) (list : Option CameraList) : DeviceSnapshot :=
  ⟨info.model,info.osVer,info.usb3Capable,info.batteryLevel,list.elim [] CameraList.cameras⟩

/-- The snapshot tells of the last message of each kind. -/
def Reflects (snapshot : SessionSnapshot) (messages : List ControlMessage) : Prop :=
  (∀ info, latest infoOf messages = some info →
    snapshot.device = some (describe info (latest camerasOf messages))) ∧
  snapshot.lastTelemetry = latest telemetryOf messages

/-- A `CAMERA_LIST` has come since the last `DEVICE_INFO`, or there is none with any camera to lose. -/
def Relisted (messages : List ControlMessage) : Prop :=
  (∃ list, .cameraList list ∈ sinceInfo messages) ∨ (latest camerasOf messages).elim [] CameraList.cameras = []

theorem latest_concat {α : Type} (kind : ControlMessage → Option α) (messages : List ControlMessage)
    (message : ControlMessage) : latest kind (messages ++ [message]) = (kind message).or (latest kind messages) := by
  cases known : kind message with
  | none => simp [latest,known]
  | some found => simp [latest,known]

theorem sinceInfo_concat (messages : List ControlMessage) (message : ControlMessage) :
    sinceInfo (messages ++ [message]) =
      if (infoOf message).isNone then sinceInfo messages ++ [message] else [] := by
  exact List.rtakeWhile_concat _ _ _

/-- The record that the messages leave has the cameras listed since the last `DEVICE_INFO`. -/
theorem ownDevice_eq (messages : List ControlMessage) : ownDevice messages =
    (latest infoOf messages).map fun info => describe info (latest camerasOf (sinceInfo messages)) := by
  induction messages using List.reverseRecOn with
  | nil => rfl
  | append_singleton messages message ih =>
    have fold : ownDevice (messages ++ [message]) = deviceAfter (ownDevice messages) message := by
      simp [ownDevice]
    rw [fold,latest_concat,sinceInfo_concat,ih]
    cases message with
    | deviceInfo info => rfl
    | cameraList list =>
      simp only [infoOf,Option.isNone_none,if_true,Option.none_or,latest_concat,camerasOf,Option.some_or]
      cases latest infoOf messages with
      | none => rfl
      | some info => rfl
    | _ =>
      simp only [infoOf,Option.isNone_none,if_true,Option.none_or,latest_concat,camerasOf]
      rfl

theorem ownTelemetry_eq (messages : List ControlMessage) :
    ownTelemetry messages = latest telemetryOf messages := by
  induction messages using List.reverseRecOn with
  | nil => rfl
  | append_singleton messages message ih =>
    have fold : ownTelemetry (messages ++ [message]) = telemetryAfter (ownTelemetry messages) message := by
      simp [ownTelemetry]
    rw [fold,latest_concat,ih]
    cases message with
    | telemetry telemetry => rfl
    | _ => rfl

/-- The last list since the last `DEVICE_INFO` is the last of all, where there is one. -/
theorem latest_since (messages : List ControlMessage) :
    latest camerasOf messages =
      (latest camerasOf (sinceInfo messages)).or
        (latest camerasOf (messages.rdropWhile fun message => (infoOf message).isNone)) := by
  have whole : messages.rdropWhile (fun message => (infoOf message).isNone) ++ sinceInfo messages = messages :=
    List.rdropWhile_append_rtakeWhile
  conv_lhs => rw [← whole]
  simp [latest,List.getLast?_append]

theorem latest_none {α : Type} (kind : ControlMessage → Option α) (messages : List ControlMessage) :
    latest kind messages = none ↔ ∀ message ∈ messages, kind message = none := by
  simp [latest]

/-- What the fold leaves are the cameras listed last just when these were listed again, if need be. -/
theorem relisted_iff (messages : List ControlMessage) :
    (latest camerasOf (sinceInfo messages)).elim [] CameraList.cameras =
      (latest camerasOf messages).elim [] CameraList.cameras ↔ Relisted messages := by
  have whole := latest_since messages
  cases since : latest camerasOf (sinceInfo messages) with
  | some list =>
    refine iff_of_true ?_ (.inl ?_)
    · rw [whole,since]
      rfl
    · by_contra absent
      have none : latest camerasOf (sinceInfo messages) = none := by
        rw [latest_none]
        intro message member
        cases message with
        | cameraList other => exact absurd ⟨other,member⟩ absent
        | _ => rfl
      rw [since] at none
      cases none
  | none =>
    have absent : ¬∃ list, .cameraList list ∈ sinceInfo messages := by
      intro ⟨list,member⟩
      have unlisted := (latest_none camerasOf _).mp since _ member
      cases unlisted
    constructor
    · intro same
      exact .inr same.symm
    · intro relisted
      exact (relisted.resolve_left absent).symm

def received (inputs : List PlaneInput) : List ControlMessage := inputs.filterMap PlaneInput.message

theorem received_concat (inputs : List PlaneInput) (input : PlaneInput) :
    received (inputs ++ [input]) = received inputs ++ input.message.toList := by
  cases known : input.message with
  | none => simp [received,known]
  | some message => simp [received,known]

theorem run_own (state : SessionStateKind) (events : List ControlPlaneEvent) (transport : TransportTag) (now : Nat)
    (telemetryTx : Option (Mailbox Telemetry)) (inputs : List PlaneInput) (s : Channels × Plane)
    (run : exec Plane.step (Plane.start ⟨⟨state,none,none⟩,events⟩ transport now telemetryTx) inputs = some s) :
    s.1.snapshot.device = ownDevice (received inputs) ∧
      s.1.snapshot.lastTelemetry = ownTelemetry (received inputs) := by
  refine exec_history Plane.step (fun _ _ => True) (fun s history =>
    s.1.snapshot.device = ownDevice (received history) ∧ s.1.snapshot.lastTelemetry = ownTelemetry (received history))
    ?_ inputs _ s [] ⟨rfl,rfl⟩ (along_trivial Plane.step inputs _) run
  intro before history input after own _ taken
  obtain ⟨_,rfl⟩ := Plane.step_eq before after input taken
  have handled := Plane.handle_handled before.1 before.2 input
  rw [handled.device,handled.telemetry,own.1,own.2,received_concat]
  exact ⟨List.foldl_append.symm,List.foldl_append.symm⟩

/-- In every state that a session reaches from an empty snapshot: the telemetry is the last received,
and so is all of the last `DEVICE_INFO`; the cameras are those of the last `CAMERA_LIST` just when it
was sent again after that `DEVICE_INFO`, or has none. -/
theorem snapshot_reflects_iff (state : SessionStateKind) (events : List ControlPlaneEvent) (transport : TransportTag)
    (now : Nat) (telemetryTx : Option (Mailbox Telemetry)) (inputs : List PlaneInput) (s : Channels × Plane)
    (run : exec Plane.step (Plane.start ⟨⟨state,none,none⟩,events⟩ transport now telemetryTx) inputs = some s) :
    (Reflects s.1.snapshot (received inputs) ↔
      latest infoOf (received inputs) = none ∨ Relisted (received inputs)) ∧
    s.1.snapshot.lastTelemetry = latest telemetryOf (received inputs) ∧
    ∀ info, latest infoOf (received inputs) = some info → ∃ list, s.1.snapshot.device = some (describe info list) := by
  obtain ⟨device,telemetry⟩ := run_own state events transport now telemetryTx inputs s run
  rw [ownDevice_eq] at device
  rw [ownTelemetry_eq] at telemetry
  refine ⟨?_,telemetry,?_⟩
  · rw [← relisted_iff,Reflects,device]
    cases known : latest infoOf (received inputs) with
    | none =>
      refine iff_of_true ⟨?_,telemetry⟩ (.inl rfl)
      intro info absent
      cases absent
    | some info =>
      constructor
      · intro reflects
        have same := Option.some.inj (reflects.1 info rfl)
        exact .inr (congrArg DeviceSnapshot.cameras same)
      · intro listed
        have same := listed.resolve_left (Option.some_ne_none info)
        refine ⟨?_,telemetry⟩
        intro other named
        obtain rfl := Option.some.inj named
        rw [Option.map_some,describe,same]
        rfl
  · intro info known
    rw [device,known]
    exact ⟨_,rfl⟩

def phoneInfo (battery : Float) : DeviceInfo := ⟨"iPhone15,3","iOS 18.0",battery,.unplugged,.nominal,true⟩

def phoneCameras : CameraList := ⟨[⟨"back","Back",.back,1920,1080,60,["raw nv12"]⟩]⟩

def heard (messages : List ControlMessage) : List PlaneInput :=
  messages.map fun message => .recv 0 0 none (.ok ⟨0,none,message⟩)

/-- The phone says who it is and lists its camera. -/
def introduced : List PlaneInput := heard [.deviceInfo (phoneInfo 0.9),.cameraList phoneCameras]

def introducedEnd : Channels × Plane :=
  ((exec Plane.step (Plane.start ⟨⟨.idle,none,none⟩,[]⟩ .usb 0 none) introduced).getD
    (Plane.start ⟨⟨.idle,none,none⟩,[]⟩ .usb 0 none))

theorem introduced_reflected :
    exec Plane.step (Plane.start ⟨⟨.idle,none,none⟩,[]⟩ .usb 0 none) introduced = some introducedEnd ∧
    Reflects introducedEnd.1.snapshot (received introduced) := by
  have run : exec Plane.step (Plane.start ⟨⟨.idle,none,none⟩,[]⟩ .usb 0 none) introduced = some introducedEnd := rfl
  refine ⟨run,(snapshot_reflects_iff .idle [] .usb 0 none introduced introducedEnd run).1.mpr (.inr (.inl ?_))⟩
  exact ⟨phoneCameras,List.mem_singleton.mpr rfl⟩

/-- The battery drains and the phone sends its `DEVICE_INFO` again: the camera is gone. -/
def drained : List PlaneInput :=
  heard [.deviceInfo (phoneInfo 0.9),.cameraList phoneCameras,.deviceInfo (phoneInfo 0.8)]

def drainedEnd : Channels × Plane :=
  ((exec Plane.step (Plane.start ⟨⟨.idle,none,none⟩,[]⟩ .usb 0 none) drained).getD
    (Plane.start ⟨⟨.idle,none,none⟩,[]⟩ .usb 0 none))

theorem drained_loses_cameras :
    exec Plane.step (Plane.start ⟨⟨.idle,none,none⟩,[]⟩ .usb 0 none) drained = some drainedEnd ∧
    latest infoOf (received drained) = some (phoneInfo 0.8) ∧
    latest camerasOf (received drained) = some phoneCameras ∧
    drainedEnd.1.snapshot.device = some (describe (phoneInfo 0.8) none) ∧
    ¬Reflects drainedEnd.1.snapshot (received drained) := by
  have shown : drainedEnd.1.snapshot.device = some (describe (phoneInfo 0.8) none) := rfl
  refine ⟨rfl,rfl,rfl,shown,?_⟩
  intro reflects
  have listed := reflects.1 (phoneInfo 0.8) rfl
  rw [shown] at listed
  have cameras := congrArg DeviceSnapshot.cameras (Option.some.inj listed)
  cases cameras

end ClearCam.Session
