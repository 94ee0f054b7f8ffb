import ClearCam.App.Conversation
import ClearCam.Library.Wire
import ClearCam.Session.SelectLoop

/-! The conversation of a phone and a desktop over the bytes of its control connection. -/
namespace ClearCam.App
open ClearCam.Protocol ClearCam.Session ClearCam.Ios ClearCam.Library ClearCam.Transport

/-- The framing of the control channel, read by `read_frame`. -/
def controlFraming (serde : Serde) : Framing UInt8 ControlEnvelope ReadFrame where
  frame env := framed (serde.toVec env)
  start := .start
  needed := ReadFrame.needed
  consumed := ReadFrame.consumed
  feed future bytes := match future.feed bytes with
    | .pending next => .inl next
    | .ready frame => .inr (Loop.decode serde frame).toOption
  Carries env := (serde.toVec env).length ≤ defaultMaxPayload ∧ serde.fromSlice (serde.toVec env) = some env
  Inside env := ReadFrame.Inside (serde.toVec env)
  start_inside env := ReadFrame.start_inside (serde.toVec env)
  start_consumed := rfl
  untouched := ReadFrame.consumed_eq_nil
  asks env future inside := by
    refine ⟨?_,ReadFrame.needed_inside (serde.toVec env) future inside⟩
    cases future with
    | header got =>
      obtain ⟨short,_⟩ := inside
      exact Nat.sub_pos_of_lt short
    | payload len got =>
      obtain ⟨_,short,_⟩ := inside
      exact Nat.sub_pos_of_lt short
  fed env future bytes carries inside asked part := by
    obtain ⟨small,roundTrip⟩ := carries
    obtain ⟨next,fed,kept⟩ | ⟨fed,complete⟩ := ReadFrame.feed_inside _ bytes future inside small asked part
    · exact .inl ⟨next,by rw [fed],kept⟩
    · refine .inr ⟨?_,complete⟩
      rw [fed]
      simp [Loop.decode,Except.bind,roundTrip,Except.toOption]

/-- The branches of the plane's `select!` that drop its `recv`. -/
def dropsRecv : DeskEvent → Bool
  | .turned _ (.tick _ _ _) => true
  | .turned _ (.outbound _ _) => true
  | _ => false

theorem dropsRecv_unread (event : DeskEvent) (drops : dropsRecv event = true) : event.reads = none := by
  cases event with
  | greeted | spawned => cases drops
  | turned channels input => cases input with
    | outbound | tick => rfl
    | recv => cases drops

/-- The phone with its `ControlStream`, whose `recv` nothing drops. -/
def phoneEnd (launch : Launch) (fromDesk : Serde) :
    Endpoint SessionController PhoneEvent ControlEnvelope ControlEnvelope UInt8 ReadFrame where
  party := phone launch
  framing := controlFraming fromDesk
  drops _ := false
  drops_unread _ drops := absurd drops Bool.false_ne_true

/-- The desktop with its own. -/
def deskEnd (terms : Terms) (fromPhone : Serde) :
    Endpoint Desk DeskEvent ControlEnvelope ControlEnvelope UInt8 ReadFrame where
  party := desk terms
  framing := controlFraming fromPhone
  drops := dropsRecv
  drops_unread := dropsRecv_unread

/-- A phone and a desktop, and the bytes between them. -/
abbrev ByteConversation := Wired SessionController Desk ReadFrame ReadFrame UInt8

namespace ByteConversation

abbrev Turn := Wired.Turn PhoneEvent DeskEvent

variable (launch : Launch) (terms : Terms) (fromDesk fromPhone : Serde)

def start : ByteConversation := Wired.start (phoneEnd launch fromDesk) (deskEnd terms fromPhone) (.start launch) .start

def step : ByteConversation → Turn → Option ByteConversation :=
  Wired.step (phoneEnd launch fromDesk) (deskEnd terms fromPhone)

/-- No keepalive tick and no outbound message finds the plane's `recv` inside a frame. -/
def Undisturbed (turns : List Turn) : Prop :=
  Along (step launch terms fromDesk fromPhone)
    (Wired.AtBoundary (phoneEnd launch fromDesk) (deskEnd terms fromPhone))
    (start launch terms fromDesk fromPhone) turns

end ByteConversation

/-- What is written fits a frame and is read back as it was written. -/
def Survives (serde : Serde) (env : ControlEnvelope) : Prop :=
  (serde.toVec env).length ≤ defaultMaxPayload ∧ serde.fromSlice (serde.toVec env) = some env

/-- Over its bytes, in pieces of any size, a conversation comes to the states that it comes to over its messages, and
to no others: as long as the plane's other branches complete between frames. -/
theorem conversation_over_bytes (launch : Launch) (terms : Terms) (fromDesk fromPhone : Serde)
    (turns : List Conversation.Turn) (phone : SessionController) (desk : Desk)
    (toDesk : ∀ env ∈ phone.core.sent, Survives fromPhone env) (toPhone : ∀ env ∈ desk.wrote, Survives fromDesk env) :
    (∃ bytes w, Wired.messages bytes = turns ∧
      exec (ByteConversation.step launch terms fromDesk fromPhone)
        (ByteConversation.start launch terms fromDesk fromPhone) bytes = some w ∧
      ByteConversation.Undisturbed launch terms fromDesk fromPhone bytes ∧
      w.left.state = phone ∧ w.right.state = desk) ↔
    ∃ link, exec (Conversation.step launch terms) (Conversation.start launch) turns = some link ∧
      link.left = phone ∧ link.right = desk := by
  have carried : Wired.Carried (phoneEnd launch fromDesk) (deskEnd terms fromPhone) phone desk := ⟨toDesk,toPhone⟩
  exact Wired.runs_iff (SessionController.start launch) Desk.start phone desk turns carried

def helloText : List UInt8 :=
  ("\x7b\"app\":\"ClearCam-iOS\\/0.1.0\",\"caps\":[\"hevc\",\"h264\",\"raw_nv12\"]," ++
    "\"device\":\x7b\"model\":\"iPhone15,3\",\"osVer\":\"iOS 18.0\"\x7d,\"protoVer\":1,\"seq\":1," ++
    "\"sessionId\":\"candidate\",\"t\":\"HELLO\"\x7d").toUTF8.data.toList

def helloAckText : List UInt8 :=
  ("\x7b\"seq\":0,\"ack\":1,\"t\":\"HELLO_ACK\",\"protoVer\":1," ++
    "\"caps\":[\"hevc\",\"h264\",\"raw_nv12\"]\x7d").toUTF8.data.toList

def helloSerde : Serde := ⟨fun _ => helloText,fun _ => some greetedHello⟩

def helloAckSerde : Serde :=
  ⟨fun _ => helloAckText,fun _ => some (helloAckTo wifiTerms.serverCaps greetedHello samplePhone.hello)⟩

/-- The HELLO of a phone, in pieces of 2, 2, 100 and 71 bytes. -/
def helloInPieces : List ByteConversation.Turn :=
  [.left (.session .connectCalled) 0,.left (.session (.sent (.ok ()))) 0,.pollRight 2,.pollRight 2,.pollRight 100,
    .right (.greeted (.envelope greetedHello) none) 71]

set_option maxRecDepth 8000 in
theorem conversation_over_bytes_hello : ∃ w link,
    exec (ByteConversation.step samplePhone wifiTerms helloAckSerde helloSerde)
      (ByteConversation.start samplePhone wifiTerms helloAckSerde helloSerde) helloInPieces = some w ∧
    exec (Conversation.step samplePhone wifiTerms) (Conversation.start samplePhone)
      (Wired.messages helloInPieces) = some link ∧
    link.left = w.left.state ∧ link.right = w.right.state := by
  have ran : (exec (ByteConversation.step samplePhone wifiTerms helloAckSerde helloSerde)
      (ByteConversation.start samplePhone wifiTerms helloAckSerde helloSerde) helloInPieces).map
        (fun w => (w.left.state.core.sent,w.right.state.wrote)) =
      some ([greetedHello],[helloAckTo wifiTerms.serverCaps greetedHello samplePhone.hello]) := rfl
  obtain ⟨w,run,wrote⟩ := Option.map_eq_some_iff.mp ran
  obtain ⟨sent,answered⟩ := Prod.mk.inj wrote
  have undisturbed : ByteConversation.Undisturbed samplePhone wifiTerms helloAckSerde helloSerde helloInPieces := by
    refine (along_iff _ _ _ _).mpr ?_
    intro before turn after t split _
    have member : turn ∈ helloInPieces := by simp [split]
    simp only [helloInPieces,List.mem_cons,List.not_mem_nil,or_false] at member
    rcases member with rfl | rfl | rfl | rfl | rfl | rfl
    · exact fun drops => absurd drops Bool.false_ne_true
    · exact fun drops => absurd drops Bool.false_ne_true
    · trivial
    · trivial
    · trivial
    · exact fun drops => absurd drops Bool.false_ne_true
  have helloSize : helloText.length = 171 := rfl
  have ackSize : helloAckText.length = 80 := rfl
  have toDesk : ∀ env ∈ w.left.state.core.sent, Survives helloSerde env := by
    rw [sent]
    intro env member
    obtain rfl := List.mem_singleton.mp member
    refine ⟨?_,rfl⟩
    change helloText.length ≤ defaultMaxPayload
    rw [helloSize]
    decide
  have toPhone : ∀ env ∈ w.right.state.wrote, Survives helloAckSerde env := by
    rw [answered]
    intro env member
    obtain rfl := List.mem_singleton.mp member
    refine ⟨?_,rfl⟩
    change helloAckText.length ≤ defaultMaxPayload
    rw [ackSize]
    decide
  obtain ⟨link,linked,left,right⟩ := (conversation_over_bytes samplePhone wifiTerms helloAckSerde helloSerde
    (Wired.messages helloInPieces) _ _ toDesk toPhone).mp ⟨helloInPieces,w,rfl,run,undisturbed,rfl,rfl⟩
  exact ⟨w,link,run,linked,left,right⟩

end ClearCam.App
