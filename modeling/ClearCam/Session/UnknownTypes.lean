import ClearCam.Ios.Pump
import ClearCam.Session.ControlPlane

/-! What a control message of an unknown type does to the two receivers. The protocol asks
for it to be ignored. -/
namespace ClearCam.Session
open ClearCam.Library ClearCam.Protocol ClearCam.Transport ClearCam.Ios

/-- An input of the desktop's loop, with an inbound frame given by the JSON value of its
payload. -/
inductive DesktopInput where
  | outbound (message : Option ControlMessage) (failure : Option TransportError)
  | tick (now : Nat) (nowUsec : UInt64) (failure : Option TransportError)
  | frame (now : Nat) (nowUsec : UInt64) (failure : Option TransportError) (payload : Option Json)

def recvFrame (payload : Option Json) : Except TransportError ControlEnvelope :=
  match payload.bind ControlEnvelope.ofJson with
  | some env => .ok env
  | none => .error .json

def DesktopInput.planeInput : DesktopInput → PlaneInput
  | .outbound message failure => .outbound message failure
  | .tick now nowUsec failure => .tick now nowUsec failure
  | .frame now nowUsec failure payload => .recv now nowUsec failure (recvFrame payload)

/-- The control plane as a receiver: the snapshot, the events and what it wrote. -/
def Plane.receiver : Receiver (Channels × Plane) DesktopInput (Channels × List ControlEnvelope) where
  step s input := s.2.handle s.1 input.planeInput
  stopped s := s.2.returned
  observe s := (s.1,s.2.written)

def DesktopInput.IsUnknown : DesktopInput → Prop
  | .frame _ _ _ (some json) => ControlEnvelope.UnknownType json
  | _ => False

def PumpInput.IsUnknown (input : PumpInput) : Prop :=
  ∃ json, input.payload = some json ∧ ControlEnvelope.UnknownType json

theorem Plane.unknown_ends (channels : Channels) (plane : Plane) (input : DesktopInput)
    (unknown : input.IsUnknown) : (plane.handle channels input.planeInput).2.returned = true := by
  cases input with
  | outbound message failure => exact unknown.elim
  | tick now nowUsec failure => exact unknown.elim
  | frame now nowUsec failure payload =>
    cases payload with
    | none => exact unknown.elim
    | some json =>
      have refused : recvFrame (some json) = .error .json := by
        simp only [recvFrame,Option.bind_some,ControlEnvelope.ofJson_unknown json unknown]
      simp only [DesktopInput.planeInput,refused]
      rfl

/-- Either receiver ignores messages of unknown types exactly when it has stopped listening
before they come. -/
theorem unknown_types_ignored_iff (channels : Channels) (plane : Plane) (inputs : List (Item DesktopInput))
    (order : String → String → Bool) (pump : Pump) (frames : List (Item PumpInput))
    (unknownInputs : ∀ input, .inserted input ∈ inputs → input.IsUnknown)
    (unknownFrames : ∀ frame, .inserted frame ∈ frames → PumpInput.IsUnknown frame) :
    (Plane.receiver.Unaffected (channels,plane) inputs ↔ Plane.receiver.OnlyAfterEnd (channels,plane) inputs) ∧
    ((Pump.receiver order).Unaffected pump frames ↔ (Pump.receiver order).OnlyAfterEnd pump frames) := by
  constructor
  · apply Plane.receiver.unaffected_iff
    intro input member s _
    exact Plane.unknown_ends s.1 s.2 input (unknownInputs input member)
  · apply (Pump.receiver order).unaffected_iff
    intro frame member s _
    obtain ⟨json,framed,unknownType⟩ := unknownFrames frame member
    exact Pump.unknown_ends order s frame json framed unknownType

def futureMessage : Json := .obj [("seq",.int 7),("t",.str "FUTURE")]

def pingMessage : Json := ControlEnvelope.toJson ⟨8,none,.ping ⟨5⟩⟩

def byeMessage : Json := ControlEnvelope.toJson ⟨8,none,.bye ⟨"done"⟩⟩

def runningPlane : Plane := ⟨.wifi,100,0,none,[],false⟩

def readyChannels : Channels := ⟨⟨.ready (some .wifi),none,none⟩,[]⟩

def runningPump : Pump := ⟨5,none,false,[],[],false,false⟩

theorem futureMessage_unknown : ControlEnvelope.UnknownType futureMessage :=
  ⟨_,7,"FUTURE",rfl,rfl,rfl,by decide⟩

theorem unknown_types_ignored_after_bye :
    Plane.receiver.Unaffected (readyChannels,runningPlane)
      [.kept (.frame 1 1 none (some byeMessage)),.inserted (.frame 2 2 none (some futureMessage))] ∧
    (Pump.receiver fun _ _ => true).Unaffected runningPump
      [.kept ⟨some byeMessage,true,true,1,0⟩,.inserted ⟨some futureMessage,true,true,1,0⟩] := by
  have ignored := unknown_types_ignored_iff readyChannels runningPlane
    [.kept (.frame 1 1 none (some byeMessage)),.inserted (.frame 2 2 none (some futureMessage))]
    (fun _ _ => true) runningPump
    [.kept ⟨some byeMessage,true,true,1,0⟩,.inserted ⟨some futureMessage,true,true,1,0⟩] ?_ ?_
  · exact ⟨ignored.1.mpr ⟨rfl,trivial⟩,ignored.2.mpr ⟨rfl,trivial⟩⟩
  · intro input member
    obtain rfl : input = .frame 2 2 none (some futureMessage) := by simpa using member
    exact futureMessage_unknown
  · intro frame member
    obtain rfl : frame = ⟨some futureMessage,true,true,1,0⟩ := by simpa using member
    exact ⟨futureMessage,rfl,futureMessage_unknown⟩

/-- A message of an unknown type in front of a `PING`: neither side answers the `PING`. -/
theorem unknown_type_ends_both :
    ¬Plane.receiver.Unaffected (readyChannels,runningPlane)
      [.inserted (.frame 1 1 none (some futureMessage)),.kept (.frame 2 2 none (some pingMessage))] ∧
    ¬(Pump.receiver fun _ _ => true).Unaffected runningPump
      [.inserted ⟨some futureMessage,true,true,1,0⟩,.kept ⟨some pingMessage,true,true,1,0⟩] := by
  constructor
  · intro unaffected
    have traces := unaffected.1
    cases traces
  · intro unaffected
    have traces := unaffected.1
    cases traces

end ClearCam.Session
