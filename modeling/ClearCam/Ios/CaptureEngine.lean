import ClearCam.Ios.Pump

/-! `AVCaptureEngine` on a capture session, under the phone's answer to SET_CAMERA. -/
namespace ClearCam.Ios
open ClearCam.Protocol

structure NSError where
  domain : String
  code : Int
  localizedDescription : String
  deriving DecidableEq

/-- An `AVCaptureSession` by what its calls update: its inputs, by the device each was made of, and how
many times `beginConfiguration` is still to be matched. -/
structure CaptureSession where
  inputs : List String
  nesting : Nat
  videoOutput : Bool
  deriving DecidableEq

namespace CaptureSession

def beginConfiguration (session : CaptureSession) : CaptureSession := { session with nesting := session.nesting + 1 }

def commitConfiguration (session : CaptureSession) : CaptureSession := { session with nesting := session.nesting - 1 }

def removeInput (session : CaptureSession) (input : String) : CaptureSession :=
  { session with inputs := session.inputs.erase input }

def addInput (session : CaptureSession) (input : String) : CaptureSession :=
  { session with inputs := session.inputs ++ [input] }

end CaptureSession

/-- What the devices do: which ids name one, what making an input of one comes to, and what the session
can take. -/
structure Hardware where
  device : String → Bool
  deviceInput : String → Except NSError Unit
  canAddInput : CaptureSession → String → Bool
  canAddOutput : CaptureSession → Bool

namespace AVCaptureEngine

/-- The session is what it was left as when `configure` throws. -/
def configure (hardware : Hardware) (session : CaptureSession) (cameraId : String) (initial : Bool) :
    CaptureSession × Except NSError Unit :=
  if ¬hardware.device cameraId then
    (session,.error ⟨"ClearCam.AVCaptureEngine",1,"camera not found: " ++ cameraId⟩)
  else
    let session := session.beginConfiguration
    let session := session.inputs.foldl CaptureSession.removeInput session
    match hardware.deviceInput cameraId with
    | .error error => (session,.error error)
    | .ok _ =>
      let session := if hardware.canAddInput session cameraId then session.addInput cameraId else session
      let session := if initial ∧ hardware.canAddOutput session then { session with videoOutput := true } else session
      (session.commitConfiguration,.ok ())

def setCamera (hardware : Hardware) (session : CaptureSession) (cameraId : String) :
    CaptureSession × Except NSError Unit :=
  configure hardware session cameraId false

end AVCaptureEngine

structure Phone where
  session : CaptureSession
  pump : Pump

/-- `applySetCamera` with an `AVCaptureEngine` where it has an engine, and what `setCamera` came to. -/
def Phone.applySetCamera (hardware : Hardware) (phone : Phone) (peerSeq : UInt64) (cameraId : String)
    (input : PumpInput) : Phone × Option (Except NSError Unit) :=
  if phone.pump.captureEngine then
    let (session,outcome) := AVCaptureEngine.setCamera hardware phone.session cameraId
    let input := { input with engineSucceeds := outcome.isOk }
    (⟨session,phone.pump.applySetCamera peerSeq cameraId input⟩,some outcome)
  else (⟨phone.session,phone.pump.applySetCamera peerSeq cameraId input⟩,none)

/-- What a switch that throws is to leave alone. -/
structure Unchanged (phone after : Phone) : Prop where
  inputs : after.session.inputs = phone.session.inputs
  matched : after.session.nesting = phone.session.nesting
  active : after.pump.activeCameraId = phone.pump.activeCameraId
  replies : after.pump.sent = phone.pump.sent

/-- A switch that throws changes nothing, and one that returns leaves the requested camera as the only
input. -/
structure Atomic (phone after : Phone) (cameraId : String) (outcome : Option (Except NSError Unit)) : Prop where
  thrown : ∀ error, outcome = some (.error error) → Unchanged phone after
  returned : outcome = some (.ok ()) → after.session.inputs = [cameraId]

/-- The session in the middle of a switch. -/
def CaptureSession.emptied (session : CaptureSession) : CaptureSession :=
  { session with inputs := [], nesting := session.nesting + 1 }

/-- The id names no device, or an input can be made of it and added to the session without inputs. -/
def Switchable (hardware : Hardware) (session : CaptureSession) (cameraId : String) : Prop :=
  hardware.device cameraId = false ∨ (hardware.deviceInput cameraId = .ok () ∧
    hardware.canAddInput session.emptied cameraId = true)

theorem removeInputs_eq (inputs : List String) (session : CaptureSession) (own : session.inputs = inputs) :
    inputs.foldl CaptureSession.removeInput session = { session with inputs := [] } := by
  induction inputs generalizing session with
  | nil => rw [List.foldl_nil,← own]
  | cons input rest ih =>
    have head : (session.removeInput input).inputs = rest := by
      rw [CaptureSession.removeInput,own,List.erase_cons_head]
    rw [List.foldl_cons,ih _ head]
    rfl

theorem emptied_eq (session : CaptureSession) :
    session.beginConfiguration.inputs.foldl CaptureSession.removeInput session.beginConfiguration =
      session.emptied :=
  removeInputs_eq session.inputs session.beginConfiguration rfl

/-- All that `setCamera` can do: find no device, lose the inputs with the configuration open, add the
camera, or end with no input. -/
theorem setCamera_cases (hardware : Hardware) (session : CaptureSession) (cameraId : String) :
    (hardware.device cameraId = false ∧ ∃ error,
      AVCaptureEngine.setCamera hardware session cameraId = (session,.error error)) ∨
    (hardware.device cameraId = true ∧ ∃ error, hardware.deviceInput cameraId = .error error ∧
      AVCaptureEngine.setCamera hardware session cameraId = (session.emptied,.error error)) ∨
    (hardware.device cameraId = true ∧ hardware.deviceInput cameraId = .ok () ∧
      ∃ after, AVCaptureEngine.setCamera hardware session cameraId = (after,.ok ()) ∧
        after.inputs = if hardware.canAddInput session.emptied cameraId then [cameraId] else []) := by
  unfold AVCaptureEngine.setCamera AVCaptureEngine.configure
  simp only [emptied_eq]
  cases device : hardware.device cameraId with
  | false => exact Or.inl ⟨rfl,_,rfl⟩
  | true =>
    cases made : hardware.deviceInput cameraId with
    | error error => exact Or.inr (Or.inl ⟨rfl,error,rfl,rfl⟩)
    | ok _ =>
      refine Or.inr (Or.inr ⟨rfl,rfl,_,rfl,?_⟩)
      cases added : hardware.canAddInput session.emptied cameraId <;> rfl

theorem applySetCamera_failed (pump : Pump) (peerSeq : UInt64) (cameraId : String) (input : PumpInput)
    (engine : pump.captureEngine = true) (failed : input.engineSucceeds = false) :
    (pump.applySetCamera peerSeq cameraId input).activeCameraId = pump.activeCameraId ∧
      (pump.applySetCamera peerSeq cameraId input).sent = pump.sent := by
  simp [Pump.applySetCamera,engine,failed]

/-- A SET_CAMERA is atomic just when its id names no device or the device can be made the only input. -/
theorem camera_switch_atomic_iff (hardware : Hardware) (phone : Phone) (peerSeq : UInt64) (cameraId : String)
    (input : PumpInput) :
    Atomic phone (phone.applySetCamera hardware peerSeq cameraId input).1 cameraId
        (phone.applySetCamera hardware peerSeq cameraId input).2 ↔
      (phone.pump.captureEngine = true → Switchable hardware phone.session cameraId) := by
  cases engine : phone.pump.captureEngine with
  | false =>
    simp only [Phone.applySetCamera,engine,Bool.false_eq_true,if_false,false_imp_iff,iff_true]
    exact ⟨(fun _ absurd => nomatch absurd),fun absurd => nomatch absurd⟩
  | true =>
    simp only [Phone.applySetCamera,engine,if_true,true_imp_iff]
    rcases setCamera_cases hardware phone.session cameraId with ⟨unknown,error,result⟩ |
        ⟨known,error,failed,result⟩ | ⟨known,made,after,result,inputs⟩
    · rw [result]
      obtain ⟨active,sent⟩ := applySetCamera_failed phone.pump peerSeq cameraId
        { input with engineSucceeds := false } engine rfl
      exact iff_of_true ⟨fun _ _ => ⟨rfl,rfl,active,sent⟩,fun absurd => nomatch absurd⟩ (Or.inl unknown)
    · rw [result]
      refine iff_of_false ?_ ?_
      · intro atomic
        exact absurd (atomic.thrown error rfl).matched (Nat.succ_ne_self phone.session.nesting)
      · intro switchable
        rcases switchable with unknown | ⟨made,_⟩
        · exact nomatch known.symm.trans unknown
        · exact nomatch failed.symm.trans made
    · rw [result]
      constructor
      · intro atomic
        refine Or.inr ⟨made,?_⟩
        have only := atomic.returned rfl
        by_cases added : hardware.canAddInput phone.session.emptied cameraId = true
        · exact added
        · have none_left : after.inputs = [] := by rw [inputs,if_neg added]
          exact nomatch none_left.symm.trans only
      · intro switchable
        have added := (switchable.resolve_left (fun unknown => nomatch known.symm.trans unknown)).2
        exact ⟨(fun _ absurd => nomatch absurd),fun _ => inputs.trans (if_pos added)⟩

def busyFront : Hardware where
  device := fun _ => true
  deviceInput := fun id => if id = "front" then .error ⟨"AVFoundationErrorDomain",-11815,"busy"⟩ else .ok ()
  canAddInput := fun _ _ => true
  canAddOutput := fun _ => true

def streamingPhone : Phone := ⟨⟨["wide"],0,true⟩,⟨5,some "wide",true,[],[],false,false⟩⟩

/-- The front camera is taken by another app: the wide one is removed, and the configuration stays open. -/
theorem busy_camera_loses_input : ¬ ∀ (hardware : Hardware) (phone : Phone) (peerSeq : UInt64)
    (cameraId : String) (input : PumpInput),
    Atomic phone (phone.applySetCamera hardware peerSeq cameraId input).1 cameraId
      (phone.applySetCamera hardware peerSeq cameraId input).2 := by
  intro every
  have atomic := every busyFront streamingPhone 9 "front" ⟨none,true,true,0,0⟩
  have kept : ([] : List String) = ["wide"] := (atomic.thrown _ rfl).inputs
  exact absurd kept (by decide)

end ClearCam.Ios
