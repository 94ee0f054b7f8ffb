import ClearCam.Ios.ControlEnvelope
import ClearCam.Library.Insertion

/-! The loop in which the phone's `SessionController` drains its control channel after the
handshake. A frame is given by the JSON value of its payload, if the payload is JSON. -/
namespace ClearCam.Ios
open ClearCam.Library ClearCam.Protocol

structure Pump where
  seq : UInt64
  activeCameraId : Option String
  captureEngine : Bool
  sent : List ControlEnvelope
  cameraSwitches : List String
  returned : Bool
  crashed : Bool
  deriving DecidableEq

/-- A frame with the outcomes of what handling it calls: whether a send and the capture engine
succeed, the time, and how many messages other tasks of the controller sent before it. -/
structure PumpInput where
  payload : Option Json
  sendSucceeds : Bool
  engineSucceeds : Bool
  nowUsec : UInt64
  sentByOthers : UInt64

namespace Pump

def send (pump : Pump) (ack : Option UInt64) (body : ControlMessage) (succeeds : Bool) : Pump :=
  let seq := pump.seq + 1
  { pump with seq := seq, sent := if succeeds then pump.sent ++ [⟨seq,ack,body⟩] else pump.sent }

def handlePing (pump : Pump) (peerSeq tsUsec : UInt64) (input : PumpInput) : Pump :=
  pump.send (some peerSeq) (.pong ⟨input.nowUsec,tsUsec⟩) input.sendSucceeds

def applySetCamera (pump : Pump) (peerSeq : UInt64) (cameraId : String) (input : PumpInput) : Pump :=
  let switched (pump : Pump) : Pump :=
    { pump with activeCameraId := some cameraId }.send (some peerSeq)
      (.cameraState ⟨cameraId,"raw nv12"⟩) input.sendSucceeds
  if pump.captureEngine then
    let pump := { pump with cameraSwitches := pump.cameraSwitches ++ [cameraId] }
    if input.engineSucceeds then switched pump else pump
  else switched pump

/-- `controlChannel.recv()`; the outer `none` is a trap. -/
def recv (order : String → String → Bool) (payload : Option Json) : Option (Except Unit ControlEnvelope) :=
  match payload with
  | none => some (.error ())
  | some json => (ControlEnvelope.decodeJSON order json).run.map (Except.mapError fun _ => ())

def onFrame (order : String → String → Bool) (pump : Pump) (input : PumpInput) : Pump :=
  let pump := { pump with seq := pump.seq + input.sentByOthers }
  match recv order input.payload with
  | none => { pump with returned := true, crashed := true }
  | some (.error _) => { pump with returned := true }
  | some (.ok env) =>
    match env.body with
    | .ping p => pump.handlePing env.seq p.tsUsec input
    | .setCamera sc => pump.applySetCamera env.seq sc.cameraId input
    | .bye _ => { pump with returned := true }
    | _ => pump

/-- The pump as a receiver: its replies and camera switches are what can be observed. -/
def receiver (order : String → String → Bool) :
    Receiver Pump PumpInput (List ControlEnvelope × Option String × List String) where
  step := onFrame order
  stopped pump := pump.returned
  observe pump := (pump.sent,pump.activeCameraId,pump.cameraSwitches)

end Pump

theorem decodeBody_unknown (t : String) (view : Json.View) (unknown : t ∉ Protocol.ControlMessage.knownTags) :
    decodeBody t view = .error (.unknownType t) := by
  unfold decodeBody
  split
  all_goals first
    | rfl
    | exact absurd (by decide) unknown

/-- An unknown type is an error of `decodeJSON`, or a trap if its `ack` is negative. -/
theorem decodeJSON_unknown (order : String → String → Bool) (json : Json)
    (unknown : Protocol.ControlEnvelope.UnknownType json) :
    (∃ error, (ControlEnvelope.decodeJSON order json).run = some (.error error)) ∨
      (ControlEnvelope.decodeJSON order json).run = none := by
  obtain ⟨members,seq,tag,rfl,seqFound,tagFound,unknown⟩ := unknown
  have seqRead : ControlEnvelope.readUInt64 (Json.getField members "seq") = some (some seq) := by
    rw [seqFound,ControlEnvelope.readUInt64_int]
  simp only [ControlEnvelope.decodeJSON,tagFound,seqRead,decodeBody_unknown tag _ unknown]
  cases ControlEnvelope.readUInt64 (Json.getField members "ack") with
  | none => exact .inr rfl
  | some ack => exact .inl ⟨_,rfl⟩

theorem Pump.unknown_ends (order : String → String → Bool) (pump : Pump) (input : PumpInput) (json : Json)
    (framed : input.payload = some json) (unknown : Protocol.ControlEnvelope.UnknownType json) :
    (pump.onFrame order input).returned = true := by
  simp only [Pump.onFrame,Pump.recv,framed]
  rcases decodeJSON_unknown order json unknown with failed | trapped
  · obtain ⟨error,failed⟩ := failed
    rw [failed]
    rfl
  · rw [trapped]
    rfl

end ClearCam.Ios
