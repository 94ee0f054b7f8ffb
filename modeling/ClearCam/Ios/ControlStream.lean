import ClearCam.Ios.ControlEnvelope
import ClearCam.Ios.ControlFraming

/-! The phone's `ControlStream` over the bytes of a connection, beside the desktop's `read_frame` and
`write_frame`. -/
namespace ClearCam.Ios
open ClearCam.Library ClearCam.Media ClearCam.Protocol ClearCam.Transport

/-- `JSONSerialization`: JSON values as text. An error is its description. -/
structure JsonText where
  data : Json → List UInt8
  jsonObject : List UInt8 → Except String Json
  sortedKeys : String → String → Bool
  describe : ControlEnvelopeError → String

namespace JsonText

/-- `encodeJSON`, or nothing when it throws. -/
def encodeJSON (text : JsonText) (env : ControlEnvelope) : Option Data :=
  (ControlEnvelope.encodeJSON text.sortedKeys env).map fun json => ⟨0,text.data json⟩

/-- `decodeJSON`, or nothing when it traps. -/
def decodeJSON (text : JsonText) (data : Data) : Option (Except String ControlEnvelope) :=
  match text.jsonObject data.bytes with
  | .error description => some (.error description)
  | .ok json => (ControlEnvelope.decodeJSON text.sortedKeys json).run.map (Except.mapError text.describe)

end JsonText

inductive ControlStreamError where
  | io (description : String)
  | truncated
  | oversized (len : UInt32)
  | decode (description : String)
  | cancelled
  deriving DecidableEq

/-- What `send` throws: the encoder's error, or one of its own. -/
inductive SendError where
  | encoding
  | stream (error : ControlStreamError)
  deriving DecidableEq

namespace ControlStream

def maxPayload : UInt32 := ControlFraming.defaultMaxPayload

/-- The bytes that `send` gives to the channel. -/
def send (text : JsonText) (env : ControlEnvelope) : ExceptT SendError Option (List UInt8) := do
  let some payload := text.encodeJSON env | throw .encoding
  if maxPayload.toNat < payload.count then throw (.stream (.oversized (← uint32 payload.count)))
  let frame ← ControlFraming.frame payload
  return frame

/-- `receiveExactly` where `bytes` is all that still arrives. A `Data` of the channel may start at any index. -/
def receiveExactly (startIndex n : Nat) (bytes : List UInt8) : Except ControlStreamError (Data × List UInt8) :=
  if n = 0 then .ok (⟨0,[]⟩,bytes)
  else match readExact n bytes with
    | some (data,rest) => .ok (⟨startIndex,data⟩,rest)
    | none => .error .truncated

def decode (text : JsonText) (body : Data) : ExceptT ControlStreamError Option ControlEnvelope := do
  match ← liftM (text.decodeJSON body) with
  | .ok env => return env
  | .error description => throw (.decode description)

/-- The rest of `recv`, once the length is read. -/
def recvBody (text : JsonText) (startIndex : Nat) (len : UInt32) (rest : List UInt8) :
    ExceptT ControlStreamError Option (ControlEnvelope × List UInt8) := do
  if maxPayload < len then throw (.oversized len)
  let (body,rest) ← if len = 0 then pure (⟨0,[]⟩,rest)
    else ExceptT.mk (some (receiveExactly startIndex len.toNat rest))
  return (← decode text body,rest)

def recv (text : JsonText) (startIndex : Nat) (bytes : List UInt8) :
    ExceptT ControlStreamError Option (ControlEnvelope × List UInt8) := do
  let (header,rest) ← ExceptT.mk (some (receiveExactly startIndex 4 bytes))
  let i := header.startIndex
  let len := joinBE32 (← header.get i) (← header.get (i + 1)) (← header.get (i + 2)) (← header.get (i + 3))
  recvBody text startIndex len rest

/-- What `recv` makes of a `read_frame`. -/
def ofFrame (text : JsonText) : Except TransportError (List UInt8 × List UInt8) →
    Option (Except ControlStreamError (ControlEnvelope × List UInt8))
  | .ok (payload,rest) => (text.decodeJSON ⟨0,payload⟩).map fun outcome =>
    (outcome.mapError ControlStreamError.decode).map fun env => (env,rest)
  | .error (.frameTooLarge len) => some (.error (.oversized (UInt32.ofNat len)))
  | .error _ => some (.error .truncated)

theorem decode_then (text : JsonText) (body : Data) (rest : List UInt8) :
    ExceptT.run (do return (← decode text body,rest)) = ofFrame text (.ok (body.bytes,rest)) := by
  have same : text.decodeJSON ⟨0,body.bytes⟩ = text.decodeJSON body := rfl
  rw [ofFrame,same,decode]
  cases text.decodeJSON body with
  | none => rfl
  | some outcome =>
    cases outcome with
    | ok env => rfl
    | error description => rfl

theorem recvBody_eq (text : JsonText) (startIndex : Nat) (len : UInt32) (rest : List UInt8) :
    (recvBody text startIndex len rest).run =
      if maxPayload < len then some (.error (.oversized len))
      else match readExact len.toNat rest with
        | none => some (.error .truncated)
        | some (payload,rest) => ofFrame text (.ok (payload,rest)) := by
  by_cases large : maxPayload < len
  · simp only [recvBody,if_pos large]
    rfl
  · rw [if_neg large]
    simp only [recvBody,if_neg large]
    by_cases empty : len = 0
    · have nothing : readExact len.toNat rest = some ([],rest) := by
        rw [empty]
        rfl
      rw [nothing,if_pos empty]
      exact decode_then text ⟨0,[]⟩ rest
    · have some_bytes : ¬len.toNat = 0 := fun zero => empty (UInt32.toNat_inj.mp zero)
      simp only [if_neg empty,receiveExactly,if_neg some_bytes]
      cases readExact len.toNat rest with
      | none => rfl
      | some pair => exact decode_then text ⟨startIndex,pair.1⟩ pair.2

theorem recv_eq (text : JsonText) (startIndex : Nat) (bytes : List UInt8) :
    (recv text startIndex bytes).run = ofFrame text (readFrame bytes) := by
  by_cases short : bytes.length < 4
  · have missing : readExact 4 bytes = none := if_pos short
    have alsoMissing : readExact Transport.prefixLen bytes = none := missing
    simp only [recv,receiveExactly,missing,readFrame,alsoMissing]
    rfl
  · have present : readExact 4 bytes = some (bytes.take 4,bytes.drop 4) := if_neg short
    have alsoPresent : readExact Transport.prefixLen bytes = some (bytes.take 4,bytes.drop 4) := present
    have size : (bytes.take 4).length = 4 := by
      rw [List.length_take]
      omega
    have inside (i : Nat) (small : i < 4) : i < (bytes.take 4).length := by omega
    have head : bytes.take 4 = [byteAt (bytes.take 4) 0,byteAt (bytes.take 4) 1,byteAt (bytes.take 4) 2,
        byteAt (bytes.take 4) 3] := by
      have whole := slice_eq (bytes.take 4) 0 4 (by omega)
      rw [slice,List.drop_zero,List.take_of_length_le (Nat.le_of_eq size)] at whole
      exact whole
    have declared := joinBE32_eq (byteAt (bytes.take 4) 0) (byteAt (bytes.take 4) 1) (byteAt (bytes.take 4) 2)
      (byteAt (bytes.take 4) 3)
    rw [← head] at declared
    have four : receiveExactly startIndex 4 bytes = .ok (⟨startIndex,bytes.take 4⟩,bytes.drop 4) := by
      simp only [receiveExactly,present]
      rfl
    have first := (⟨startIndex,bytes.take 4⟩ : Data).get_start (inside 0 (by decide))
    have second := (⟨startIndex,bytes.take 4⟩ : Data).get_add 1 (inside 1 (by decide))
    have third := (⟨startIndex,bytes.take 4⟩ : Data).get_add 2 (inside 2 (by decide))
    have fourth := (⟨startIndex,bytes.take 4⟩ : Data).get_add 3 (inside 3 (by decide))
    have read : recv text startIndex bytes =
        recvBody text startIndex (UInt32.ofNat (beValue (bytes.take 4))) (bytes.drop 4) := by
      simp only [recv,four]
      change (do
        let len := joinBE32 (← (⟨startIndex,bytes.take 4⟩ : Data).get startIndex)
          (← (⟨startIndex,bytes.take 4⟩ : Data).get (startIndex + 1))
          (← (⟨startIndex,bytes.take 4⟩ : Data).get (startIndex + 2))
          (← (⟨startIndex,bytes.take 4⟩ : Data).get (startIndex + 3))
        recvBody text startIndex len (bytes.drop 4) :
          ExceptT ControlStreamError Option (ControlEnvelope × List UInt8)) = _
      simp only [first,second,third,fourth,bind_some_lift,declared]
    have exact_len := declared_eq bytes (Nat.le_of_not_lt short)
    change (UInt32.ofNat (beValue (bytes.take 4))).toNat = beValue (bytes.take 4) at exact_len
    have cap : maxPayload < UInt32.ofNat (beValue (bytes.take 4)) ↔
        Transport.defaultMaxPayload < beValue (bytes.take 4) := by
      rw [UInt32.lt_iff_toNat_lt,exact_len]
      rfl
    rw [read,recvBody_eq,exact_len]
    simp only [readFrame,alsoPresent,gt_iff_lt,cap]
    by_cases large : Transport.defaultMaxPayload < beValue (bytes.take 4)
    · simp only [if_pos large,ofFrame]
    · simp only [if_neg large]
      cases readExact (beValue (bytes.take 4)) (bytes.drop 4) with
      | none => rfl
      | some pair => rfl

/-- What `send` makes of a `write_frame`. An oversized payload of 4 GiB or more traps in the error's own length. -/
def ofWritten (payload : Data) : Except TransportError (List UInt8) → Option (Except SendError (List UInt8))
  | .ok bytes => some (.ok bytes)
  | .error _ => (uint32 payload.count).map fun len => .error (.stream (.oversized len))

theorem ofWritten_ok (payload : Data) (written : Except TransportError (List UInt8)) (bytes : List UInt8)
    (sent : ofWritten payload written = some (.ok bytes)) : written = .ok bytes := by
  cases written with
  | ok frame =>
    cases sent
    rfl
  | error refused =>
    obtain ⟨len,_,other⟩ := Option.map_eq_some_iff.mp sent
    cases other

theorem send_encoded (text : JsonText) (env : ControlEnvelope) (payload : Data)
    (encoded : text.encodeJSON env = some payload) :
    (send text env).run = ofWritten payload (writeFrame payload.bytes) := by
  have same : ControlFraming.frame payload = Transport.frame payload.bytes := ControlFraming.frame_agrees payload
  by_cases large : maxPayload.toNat < payload.count
  · have refused : writeFrame payload.bytes = .error (.frameTooLarge payload.bytes.length) := if_pos large
    simp only [send,encoded,if_pos large,refused,ofWritten]
    cases uint32 payload.count with
    | none => rfl
    | some len => rfl
  · obtain ⟨written,framed⟩ := writeFrame_eq_frame payload.bytes (Nat.le_of_not_lt large)
    simp only [send,encoded,if_neg large,same,framed,written,ofWritten]
    rfl

theorem readFrame_framed (payload rest : List UInt8) (small : payload.length ≤ Transport.defaultMaxPayload) :
    readFrame (framed payload ++ rest) = .ok (payload,rest) := by
  have unframed := tryUnframe_framed payload rest (UInt32.ofNat Transport.defaultMaxPayload) small
  rw [readFrame_eq_tryUnframe,unframed,onClosedStream,List.drop_left' rfl]

/-- The phone's stream is the desktop's, error for error: `send` writes what `write_frame` would, `recv` reads what
`read_frame` would, and each reads what the other has written. -/
theorem control_streams_agree (text : JsonText) :
    (∀ env, (send text env).run =
      match text.encodeJSON env with
      | none => some (.error .encoding)
      | some payload => ofWritten payload (writeFrame payload.bytes)) ∧
    (∀ startIndex bytes, (recv text startIndex bytes).run = ofFrame text (readFrame bytes)) ∧
    (∀ env bytes rest, (send text env).run = some (.ok bytes) →
      ∃ payload, text.encodeJSON env = some payload ∧ readFrame (bytes ++ rest) = .ok (payload.bytes,rest)) ∧
    ∀ json bytes rest startIndex env, writeFrame json = .ok bytes → text.decodeJSON ⟨0,json⟩ = some (.ok env) →
      (recv text startIndex (bytes ++ rest)).run = some (.ok (env,rest)) := by
  have sends : ∀ env, (send text env).run =
      match text.encodeJSON env with
      | none => some (.error .encoding)
      | some payload => ofWritten payload (writeFrame payload.bytes) := by
    intro env
    cases encoded : text.encodeJSON env with
    | none =>
      simp only [send,encoded]
      rfl
    | some payload => exact send_encoded text env payload encoded
  refine ⟨sends,recv_eq text,?_,?_⟩
  · intro env bytes rest sent
    rw [sends] at sent
    cases encoded : text.encodeJSON env with
    | none =>
      rw [encoded] at sent
      cases sent
    | some payload =>
      rw [encoded] at sent
      obtain ⟨small,rfl⟩ := writeFrame_ok payload.bytes bytes (ofWritten_ok payload _ bytes sent)
      exact ⟨payload,rfl,readFrame_framed payload.bytes rest small⟩
  · intro json bytes rest startIndex env written decoded
    obtain ⟨small,rfl⟩ := writeFrame_ok json bytes written
    rw [recv_eq,readFrame_framed json rest small,ofFrame,decoded]
    rfl

def stopEnvelope : ControlEnvelope := ⟨1,none,.stop⟩

def stopText : List UInt8 := "\x7b\"seq\":1,\"t\":\"STOP\"\x7d".toUTF8.data.toList

def stopSerialization : JsonText where
  data _ := stopText
  jsonObject _ := .ok (.obj [("seq",.int 1),("t",.str "STOP")])
  sortedKeys a b := a ≤ b
  describe _ := "notAnObject"

theorem control_streams_agree_stop :
    (send stopSerialization stopEnvelope).run = some (.ok (framed stopText)) ∧
    (∃ payload, stopSerialization.encodeJSON stopEnvelope = some payload ∧
      readFrame (framed stopText ++ [0]) = .ok (payload.bytes,[0])) ∧
    (recv stopSerialization 7 (framed stopText ++ [0])).run = some (.ok (stopEnvelope,[0])) := by
  obtain ⟨sends,_,sent,received⟩ := control_streams_agree stopSerialization
  have encoded : stopSerialization.encodeJSON stopEnvelope = some ⟨0,stopText⟩ := rfl
  have size : stopText.length = 20 := rfl
  have small : stopText.length ≤ Transport.defaultMaxPayload := by
    rw [size]
    decide
  obtain ⟨written,_⟩ := writeFrame_eq_frame stopText small
  have wrote : (send stopSerialization stopEnvelope).run = some (.ok (framed stopText)) := by
    rw [sends,encoded]
    change ofWritten ⟨0,stopText⟩ (writeFrame stopText) = _
    rw [written]
    rfl
  have decoded : stopSerialization.decodeJSON ⟨0,stopText⟩ = some (.ok stopEnvelope) := rfl
  exact ⟨wrote,sent stopEnvelope _ [0] wrote,received stopText _ [0] 7 stopEnvelope written decoded⟩

end ControlStream
end ClearCam.Ios
