import ClearCam.Session.Events
import ClearCam.Session.WireTrace
import ClearCam.Library.Duplex

/-! The desktop's end of one control connection, from the first receive of its handshake to the end of
its control plane. A step of the handshake is one receive with the reply that it makes. -/
namespace ClearCam.Session
open ClearCam.Protocol ClearCam.Transport ClearCam.Library

/-- What a handshake is called with. The transport says which of the two copies runs. -/
structure Terms where
  transport : TransportTag
  expected : String
  serverCaps : List Capability
  uuid : String
  deriving DecidableEq

namespace Terms

def variant (terms : Terms) : Variant :=
  match terms.transport with
  | .wifi => .wifi
  | .usb => .usb

def sessionId (terms : Terms) : String := "sess-" ++ terms.uuid

def accept (terms : Terms) : Handshake AcceptedSession :=
  match terms.transport with
  | .wifi => acceptControl terms.expected terms.serverCaps terms.uuid
  | .usb => acceptControlUsb terms.expected terms.serverCaps terms.uuid

theorem accept_eq (terms : Terms) :
    terms.accept = Session.accept terms.variant terms.expected terms.serverCaps terms.uuid := by
  unfold accept variant
  cases terms.transport with
  | wifi => exact acceptControl_eq _ _ _
  | usb => exact acceptControlUsb_eq _ _ _

end Terms

inductive Stage where
  | awaitingHello
  | awaitingAuth (hello : Hello)
  | accepted (session : AcceptedSession)
  | refused (error : SessionError)
  deriving DecidableEq

def Stage.ended : Stage → Bool
  | .awaitingHello | .awaitingAuth _ => false
  | .accepted _ | .refused _ => true

structure Greeting where
  stage : Stage
  sent : List ControlEnvelope
  deriving DecidableEq

namespace Greeting

def start : Greeting := ⟨.awaitingHello,[]⟩

def refuse (greeting : Greeting) (error : SessionError) : Greeting := {greeting with stage := .refused error}

/-- What follows a reply if its send succeeds. -/
def reply (greeting : Greeting) (env : ControlEnvelope) (failure : Option TransportError) (next : Stage) : Greeting :=
  match failure with
  | some error => greeting.refuse (.transport error)
  | none => ⟨next,greeting.sent ++ [env]⟩

def onHello (terms : Terms) (greeting : Greeting) (failure : Option TransportError) (env : ControlEnvelope) :
    Greeting :=
  match env.body with
  | .hello hello =>
    if hello.protoVer ≠ protoVer then
      greeting.reply (errorTo env ⟨.incompatibleVersion,"proto version mismatch"⟩) failure
        (.refused (.incompatibleProtoVer hello.protoVer protoVer))
    else greeting.reply (helloAckTo terms.serverCaps env hello) failure (.awaitingAuth hello)
  | _ => greeting.reply (errorTo env ⟨.badRequest,"expected HELLO"⟩) failure
      (.refused (.unexpectedMessage "expected HELLO"))

def onAuth (terms : Terms) (hello : Hello) (greeting : Greeting) (failure : Option TransportError)
    (env : ControlEnvelope) : Greeting :=
  match env.body with
  | .auth auth =>
    match terms.variant.credential auth with
    | .error text => greeting.reply (errorTo env ⟨.unauthorized,text⟩) failure (.refused .unauthorized)
    | .ok presented =>
      if presented ≠ terms.expected then
        greeting.reply (errorTo env ⟨.unauthorized,terms.variant.mismatch⟩) failure (.refused .unauthorized)
      else greeting.reply ⟨1,some env.seq,.authOk ⟨terms.sessionId⟩⟩ failure
        (.accepted ⟨terms.sessionId,presented,hello⟩)
  | _ => greeting.reply (errorTo env ⟨.badRequest,"expected AUTH"⟩) failure
      (.refused (.unexpectedMessage "expected AUTH"))

/-- One receive: `failure` is what the send of its reply gives. -/
def receive (terms : Terms) (greeting : Greeting) (failure : Option TransportError) (recv : Recv) : Greeting :=
  match greeting.stage, recv with
  | .awaitingHello, .envelope env => greeting.onHello terms failure env
  | .awaitingAuth hello, .envelope env => greeting.onAuth terms hello failure env
  | .accepted _, _ | .refused _, _ => greeting
  | _, .failed error => greeting.refuse (.transport error)
  | _, .timeout => greeting.refuse .handshakeTimeout

/-- The receives of a whole handshake; a peer that has used up its inbox stays silent. -/
def receiveAll (terms : Terms) (sendResult : Nat → Option TransportError) (greeting : Greeting) :
    List Recv → Greeting
  | [] => greeting.receive terms none .timeout
  | recv :: rest => receiveAll terms sendResult (greeting.receive terms (sendResult greeting.sent.length) recv) rest

theorem receive_ended (terms : Terms) (greeting : Greeting) (failure : Option TransportError) (recv : Recv)
    (ended : greeting.stage.ended = true) : greeting.receive terms failure recv = greeting := by
  unfold receive
  cases stage : greeting.stage with
  | awaitingHello => simp [stage,Stage.ended] at ended
  | awaitingAuth hello => simp [stage,Stage.ended] at ended
  | accepted session => rfl
  | refused error => rfl

theorem receiveAll_ended (terms : Terms) (sendResult : Nat → Option TransportError) (greeting : Greeting)
    (inbox : List Recv) (ended : greeting.stage.ended = true) :
    greeting.receiveAll terms sendResult inbox = greeting := by
  induction inbox with
  | nil => exact greeting.receive_ended terms none .timeout ended
  | cons recv rest ih =>
    rw [receiveAll,greeting.receive_ended terms _ recv ended]
    exact ih

end Greeting

/-- A handshake has ended as the greeting has: in a session or an error, with the same sent. -/
def EndedAs (greeting : Greeting) : EStateM.Result SessionError Wire AcceptedSession → Prop
  | .ok session w => greeting = ⟨.accepted session,w.sent⟩
  | .error error w => greeting = ⟨.refused error,w.sent⟩

theorem EndedAs.all (terms : Terms) (sendResult : Nat → Option TransportError) (greeting : Greeting)
    (inbox : List Recv) (result : EStateM.Result SessionError Wire AcceptedSession)
    (ended : EndedAs greeting result) : EndedAs (greeting.receiveAll terms sendResult inbox) result := by
  have last : greeting.stage.ended = true := by
    cases result with
    | ok session w => exact congrArg (fun greeting : Greeting => greeting.stage.ended) ended
    | error error w => exact congrArg (fun greeting : Greeting => greeting.stage.ended) ended
  rw [greeting.receiveAll_ended terms sendResult inbox last]
  exact ended

theorem bind_send_run {α : Type} (next : Handshake α) (env : ControlEnvelope) (w : Wire) :
    (send env >>= fun _ => next).run w = match w.sendResult w.sent.length with
      | some error => .error (.transport error) w
      | none => next.run {w with sent := w.sent ++ [env]} := by
  rw [EStateM.run_bind]
  cases answer : w.sendResult w.sent.length with
  | some error => simp [send,EStateM.run,answer]
  | none => simp [send,EStateM.run,answer]

/-- A refusal: the reply, then the error if it could be sent. -/
theorem refusal_endedAs (greeting : Greeting) (env : ControlEnvelope) (error : SessionError)
    (next : AcceptedSession → Handshake AcceptedSession) (w : Wire) (sent : w.sent = greeting.sent) :
    EndedAs (greeting.reply env (w.sendResult w.sent.length) (.refused error))
      ((send env >>= fun _ => (throw error : Handshake AcceptedSession) >>= next).run w) := by
  rw [bind_send_run]
  unfold Greeting.reply
  cases w.sendResult w.sent.length with
  | some lost =>
    change greeting.refuse _ = _
    rw [sent]
    rfl
  | none =>
    change (⟨_,_⟩ : Greeting) = ⟨_,_⟩
    rw [sent]

theorem authorise_endedAs (terms : Terms) (hello : Hello) (greeting : Greeting) (env : ControlEnvelope) (auth : Auth)
    (w : Wire) (presents : env.body = .auth auth) (sent : w.sent = greeting.sent) :
    EndedAs (greeting.onAuth terms hello (w.sendResult w.sent.length) env)
      ((authorise terms.variant terms.expected terms.uuid hello env auth).run w) := by
  simp only [Greeting.onAuth,presents,authorise]
  cases terms.variant.credential auth with
  | error text => exact refusal_endedAs greeting _ _ pure w sent
  | ok presented =>
    simp only [pure_bind]
    by_cases wrong : presented ≠ terms.expected
    · rw [if_pos wrong,if_pos wrong]
      exact refusal_endedAs greeting _ _ pure w sent
    · rw [if_neg wrong,if_neg wrong,bind_send_run]
      unfold Greeting.reply
      cases w.sendResult w.sent.length with
      | some lost =>
        change greeting.refuse _ = _
        rw [sent]
        rfl
      | none =>
        change (⟨_,_⟩ : Greeting) = ⟨_,_⟩
        rw [sent]
        rfl

theorem awaitAuth_endedAs (terms : Terms) (hello : Hello) (sent : List ControlEnvelope)
    (sendResult : Nat → Option TransportError) (inbox : List Recv) :
    EndedAs (Greeting.receiveAll terms sendResult ⟨.awaitingAuth hello,sent⟩ inbox)
      ((awaitAuth terms.variant terms.expected terms.uuid hello).run ⟨inbox,sendResult,sent⟩) := by
  match inbox with
  | [] => exact rfl
  | .failed error :: rest => exact EndedAs.all terms sendResult _ rest _ rfl
  | .timeout :: rest => exact EndedAs.all terms sendResult _ rest _ rfl
  | .envelope env :: rest =>
    refine EndedAs.all terms sendResult _ rest _ ?_
    change EndedAs (Greeting.onAuth terms hello ⟨.awaitingAuth hello,sent⟩ (sendResult sent.length) env) _
    cases body : env.body with
    | auth auth =>
      have ran : (awaitAuth terms.variant terms.expected terms.uuid hello).run
          ⟨.envelope env :: rest,sendResult,sent⟩ =
          (authorise terms.variant terms.expected terms.uuid hello env auth).run ⟨rest,sendResult,sent⟩ := by
        simp [awaitAuth,body]
      rw [ran]
      exact authorise_endedAs terms hello _ env auth ⟨rest,sendResult,sent⟩ body rfl
    | _ =>
      simp only [awaitAuth,Greeting.onAuth,EStateM.run_bind,recvTimeout_run,body]
      exact refusal_endedAs _ _ _ pure ⟨rest,sendResult,sent⟩ rfl

/-- The handshake of the source is the greeting that its receives and sends make one by one. -/
theorem accept_endedAs (terms : Terms) (sendResult : Nat → Option TransportError) (inbox : List Recv) :
    EndedAs (Greeting.start.receiveAll terms sendResult inbox) (terms.accept.run ⟨inbox,sendResult,[]⟩) := by
  rw [terms.accept_eq]
  match inbox with
  | [] => exact rfl
  | .failed error :: rest => exact EndedAs.all terms sendResult _ rest _ rfl
  | .timeout :: rest => exact EndedAs.all terms sendResult _ rest _ rfl
  | .envelope env :: rest =>
    change EndedAs (Greeting.receiveAll terms sendResult (Greeting.start.onHello terms (sendResult 0) env) rest) _
    cases body : env.body with
    | hello hello =>
      simp only [accept,Greeting.onHello,EStateM.run_bind,recvTimeout_run,body,pure_bind]
      by_cases version : hello.protoVer ≠ protoVer
      · rw [if_pos version,if_pos version]
        exact EndedAs.all terms sendResult _ rest _ (refusal_endedAs .start _ _ pure ⟨rest,sendResult,[]⟩ rfl)
      · rw [if_neg version,if_neg version,bind_send_run]
        unfold Greeting.reply
        dsimp only [List.length_nil]
        cases sendResult 0 with
        | some lost => exact EndedAs.all terms sendResult _ rest _ rfl
        | none => exact awaitAuth_endedAs terms hello _ sendResult rest
    | _ =>
      simp only [accept,Greeting.onHello,EStateM.run_bind,recvTimeout_run,body]
      exact EndedAs.all terms sendResult _ rest _ (refusal_endedAs .start _ _ pure ⟨rest,sendResult,[]⟩ rfl)

/-- A greeting by what it has read: an accepted one has read this version's HELLO and the expected
credential, a refused one has sent no AUTH_OK. -/
inductive Greeted (terms : Terms) : Greeting → List ControlEnvelope → Prop where
  | awaitingHello : Greeted terms .start []
  | awaitingAuth (helloEnv : ControlEnvelope) (hello : Hello) (greets : helloEnv.body = .hello hello)
      (version : hello.protoVer = protoVer) :
      Greeted terms ⟨.awaitingAuth hello,[helloAckTo terms.serverCaps helloEnv hello]⟩ [helloEnv]
  | accepted (helloEnv authEnv : ControlEnvelope) (hello : Hello) (auth : Auth)
      (greets : helloEnv.body = .hello hello) (version : hello.protoVer = protoVer)
      (presents : authEnv.body = .auth auth) (matched : terms.variant.credential auth = .ok terms.expected) :
      Greeted terms ⟨.accepted ⟨terms.sessionId,terms.expected,hello⟩,
          [helloAckTo terms.serverCaps helloEnv hello,⟨1,some authEnv.seq,.authOk ⟨terms.sessionId⟩⟩]⟩
        [helloEnv,authEnv]
  | refused (error : SessionError) (sent read : List ControlEnvelope)
      (unaccepted : ∀ env ∈ sent, (∃ ack, env.body = .helloAck ack) ∨ ∃ body, env.body = .error body) :
      Greeted terms ⟨.refused error,sent⟩ read

def Recv.envelope? : Recv → Option ControlEnvelope
  | .envelope env => some env
  | _ => none

/-- A greeting that is refused, with its reply or without. -/
theorem Greeted.reply (terms : Terms) (greeting : Greeting) (env : ControlEnvelope) (body : ErrorMsg)
    (failure : Option TransportError) (error : SessionError) (read : List ControlEnvelope)
    (greeted : ∀ env ∈ greeting.sent, ∃ ack, env.body = .helloAck ack) :
    Greeted terms (greeting.reply (errorTo env body) failure (.refused error)) read := by
  unfold Greeting.reply
  cases failure with
  | some lost =>
    refine .refused _ greeting.sent read ?_
    intro env member
    exact .inl (greeted env member)
  | none =>
    refine .refused _ _ read ?_
    intro env member
    rcases List.mem_append.mp member with earlier | last
    · exact .inl (greeted env earlier)
    · obtain rfl := List.mem_singleton.mp last
      exact .inr ⟨body,rfl⟩

theorem Greeting.onHello_greeted (terms : Terms) (failure : Option TransportError) (env : ControlEnvelope) :
    Greeted terms (Greeting.start.onHello terms failure env) [env] := by
  have nothing : ∀ env ∈ Greeting.start.sent, ∃ ack, env.body = .helloAck ack := by
    intro env member
    cases member
  unfold onHello
  cases body : env.body with
  | hello hello =>
    dsimp only
    by_cases version : hello.protoVer ≠ protoVer
    · rw [if_pos version]
      exact Greeted.reply terms .start env _ failure _ _ nothing
    · rw [if_neg version]
      cases failure with
      | some error => exact .refused _ [] _ (fun _ member => by cases member)
      | none => exact .awaitingAuth env hello body (Decidable.not_not.mp version)
  | _ => exact Greeted.reply terms .start env _ failure _ _ nothing

theorem Greeting.onAuth_greeted (terms : Terms) (helloEnv : ControlEnvelope) (hello : Hello)
    (failure : Option TransportError) (env : ControlEnvelope) (greets : helloEnv.body = .hello hello)
    (version : hello.protoVer = protoVer) :
    Greeted terms (Greeting.onAuth terms hello ⟨.awaitingAuth hello,[helloAckTo terms.serverCaps helloEnv hello]⟩
      failure env) [helloEnv,env] := by
  have acked : ∀ env ∈ [helloAckTo terms.serverCaps helloEnv hello], ∃ ack, env.body = .helloAck ack := by
    intro env member
    obtain rfl := List.mem_singleton.mp member
    exact ⟨_,rfl⟩
  unfold onAuth
  cases body : env.body with
  | auth auth =>
    dsimp only
    cases credential : terms.variant.credential auth with
    | error text => exact Greeted.reply terms _ env _ failure _ _ acked
    | ok presented =>
      dsimp only
      by_cases wrong : presented ≠ terms.expected
      · rw [if_pos wrong]
        exact Greeted.reply terms _ env _ failure _ _ acked
      · rw [if_neg wrong]
        obtain rfl := Decidable.not_not.mp wrong
        cases failure with
        | some error => exact .refused _ _ _ (fun env member => .inl (acked env member))
        | none => exact .accepted helloEnv env hello auth greets version body credential
  | _ => exact Greeted.reply terms _ env _ failure _ _ acked

theorem Greeting.receive_greeted (terms : Terms) (greeting : Greeting) (read : List ControlEnvelope)
    (failure : Option TransportError) (recv : Recv) (greeted : Greeted terms greeting read)
    (under_way : greeting.stage.ended = false) :
    Greeted terms (greeting.receive terms failure recv) (read ++ recv.envelope?.toList) := by
  cases greeted with
  | awaitingHello =>
    cases recv with
    | envelope env => exact Greeting.onHello_greeted terms failure env
    | _ => exact .refused _ [] _ (fun _ member => by cases member)
  | awaitingAuth helloEnv hello greets version =>
    cases recv with
    | envelope env => exact Greeting.onAuth_greeted terms helloEnv hello failure env greets version
    | _ =>
      refine .refused _ [helloAckTo terms.serverCaps helloEnv hello] _ ?_
      intro env member
      obtain rfl := List.mem_singleton.mp member
      exact .inl ⟨_,rfl⟩
  | accepted => cases under_way
  | refused => cases under_way

/-- The desktop's end of a connection: in its handshake, or serving the session it accepted. What a
plane has published is recorded apart from the channels, which it shares with other tasks. -/
inductive Desk where
  | handshaking (greeting : Greeting)
  | serving (session : AcceptedSession) (sent : List ControlEnvelope) (plane : Plane)
      (published : List ControlPlaneEvent)

/-- The channels of an event are as the other tasks of the app have left them. -/
inductive DeskEvent where
  | greeted (recv : Recv) (failure : Option TransportError)
  | spawned (channels : Channels) (now : Nat) (telemetryTx : Option (Mailbox Telemetry))
  | turned (channels : Channels) (input : PlaneInput)

namespace Desk

def start : Desk := .handshaking .start

def greeted : Desk → Greeting
  | .handshaking greeting => greeting
  | .serving session sent _ _ => ⟨.accepted session,sent⟩

def written : Desk → List ControlEnvelope
  | .handshaking _ => []
  | .serving _ _ plane _ => plane.written

def published : Desk → List ControlPlaneEvent
  | .handshaking _ => []
  | .serving _ _ _ published => published

/-- The plane has not returned, if there is one yet. -/
def running : Desk → Bool
  | .handshaking _ => true
  | .serving _ _ plane _ => !plane.returned

def wrote (desk : Desk) : List ControlEnvelope := desk.greeted.sent ++ desk.written

def step (terms : Terms) : Desk → DeskEvent → Option Desk
  | .handshaking greeting, .greeted recv failure =>
    if greeting.stage.ended then none else some (.handshaking (greeting.receive terms failure recv))
  | .handshaking ⟨.accepted session,sent⟩, .spawned channels now telemetryTx =>
    let (started,plane) := Plane.start channels terms.transport now telemetryTx
    some (.serving session sent plane (started.events.drop channels.events.length))
  | .serving session sent plane published, .turned channels input =>
    (Plane.step (channels,plane) input).map fun (after,plane) =>
      .serving session sent plane (published ++ after.events.drop channels.events.length)
  | _, _ => none

end Desk

def DeskEvent.reads : DeskEvent → Option ControlEnvelope
  | .greeted (.envelope env) _ => some env
  | .turned _ (.recv _ _ _ (.ok env)) => some env
  | _ => none

/-- What a turn sends may fail to be written. -/
theorem Plane.handle_writes (channels : Channels) (plane : Plane) (input : PlaneInput) :
    ∃ written : Option ControlEnvelope, (plane.handle channels input).2.written = plane.written ++ written.toList ∧
      written ∈ [none,input.sends.map plane.envelope] := by
  have sent (after : Plane) (ack : Option UInt64) (body : ControlMessage) (failure : Option TransportError)
      (same : after.written = plane.written) (counter : after.seq = plane.seq) (sends : input.sends = some (ack,body)) :
      ∃ written : Option ControlEnvelope, (after.send ack body failure).written = plane.written ++ written.toList ∧
        written ∈ [none,input.sends.map plane.envelope] := by
    cases failure with
    | some error => exact ⟨none,same.trans (List.append_nil _).symm,List.mem_cons_self⟩
    | none =>
      refine ⟨some ⟨plane.seq + 1,ack,body⟩,?_,?_⟩
      · simp [Plane.send,same,counter]
      · rw [sends]
        simp [Plane.envelope]
  have unsent (after : Plane) (same : after.written = plane.written) :
      ∃ written : Option ControlEnvelope, after.written = plane.written ++ written.toList ∧
        written ∈ [none,input.sends.map plane.envelope] :=
    ⟨none,same.trans (List.append_nil _).symm,List.mem_cons_self⟩
  cases input with
  | outbound message failure =>
    cases message with
    | none => exact unsent plane rfl
    | some body =>
      simp only [Plane.handle,Plane.onOutbound]
      split
      · exact sent plane none body failure rfl rfl rfl
      · exact sent plane none body failure rfl rfl rfl
  | tick now nowUsec failure =>
    simp only [Plane.handle]
    rcases plane.onTick_cases channels now nowUsec failure with ended | kept
    · rw [ended]
      exact sent plane none _ failure rfl rfl rfl
    · rw [kept]
      exact sent plane none _ failure rfl rfl rfl
  | recv now nowUsec failure result =>
    cases result with
    | error error => exact unsent _ rfl
    | ok env =>
      obtain ⟨seq,ack,body⟩ := env
      cases body with
      | ping ping => exact sent {plane with lastRx := now} (some seq) _ failure rfl rfl rfl
      | cameraList list =>
        simp only [Plane.handle,Plane.onRecv,Plane.onEnvelope]
        split
        · exact unsent _ rfl
        · exact unsent _ rfl
      | _ => exact unsent _ rfl

theorem Greeting.receive_sent (terms : Terms) (greeting : Greeting) (failure : Option TransportError) (recv : Recv) :
    greeting.sent <+: (greeting.receive terms failure recv).sent := by
  have replied (env : ControlEnvelope) (next : Stage) : greeting.sent <+: (greeting.reply env failure next).sent := by
    cases failure with
    | some error => exact List.prefix_refl _
    | none => exact List.prefix_append _ _
  unfold receive onHello onAuth
  repeat' split
  all_goals first
    | exact replied _ _
    | exact List.prefix_refl _

/-- One step of the desktop's end. -/
inductive Desk.Moves (terms : Terms) : Desk → DeskEvent → Desk → Prop where
  | greeted (greeting : Greeting) (recv : Recv) (failure : Option TransportError)
      (under_way : greeting.stage.ended = false) :
      Moves terms (.handshaking greeting) (.greeted recv failure) (.handshaking (greeting.receive terms failure recv))
  | spawned (session : AcceptedSession) (sent : List ControlEnvelope) (channels : Channels) (now : Nat)
      (telemetryTx : Option (Mailbox Telemetry)) :
      Moves terms (.handshaking ⟨.accepted session,sent⟩) (.spawned channels now telemetryTx)
        (.serving session sent (Plane.start channels terms.transport now telemetryTx).2
          [.stateChanged (.ready (some terms.transport))])
  | turned (session : AcceptedSession) (sent : List ControlEnvelope) (plane : Plane)
      (published more : List ControlPlaneEvent) (channels : Channels) (input : PlaneInput)
      (running : plane.returned = false)
      (publishes : (plane.handle channels input).1.events = channels.events ++ more) :
      Moves terms (.serving session sent plane published) (.turned channels input)
        (.serving session sent (plane.handle channels input).2 (published ++ more))

namespace Desk

theorem step_moves (terms : Terms) (desk after : Desk) (event : DeskEvent)
    (taken : step terms desk event = some after) : Moves terms desk event after := by
  unfold step at taken
  split at taken
  · next greeting recv failure =>
    split at taken
    · cases taken
    · next under_way =>
      obtain rfl := Option.some.inj taken
      exact .greeted greeting recv failure (by simpa using under_way)
  · next session sent channels now telemetryTx =>
    obtain rfl := Option.some.inj taken
    have published : (channels.broadcast (.ready (some terms.transport)) none none).events.drop
        channels.events.length = [.stateChanged (.ready (some terms.transport))] := List.drop_left
    rw [published]
    exact .spawned session sent channels now telemetryTx
  · next session sent plane published channels input =>
    obtain ⟨turned,found,rfl⟩ := Option.map_eq_some_iff.mp taken
    obtain ⟨running,rfl⟩ := Plane.step_eq _ _ _ found
    obtain ⟨more,publishes⟩ := plane.handle_publishes channels input
    change Moves terms _ _ (.serving session sent (plane.handle channels input).2
      (published ++ (plane.handle channels input).1.events.drop channels.events.length))
    rw [publishes.events,List.drop_left]
    exact .turned session sent plane published more channels input running publishes.events
  · cases taken

theorem step_appends (terms : Terms) (desk : Desk) (event : DeskEvent) (after : Desk)
    (taken : step terms desk event = some after) : desk.wrote <+: after.wrote := by
  cases step_moves terms desk after event taken with
  | greeted greeting recv failure under_way =>
    simp only [wrote,greeted,written,List.append_nil]
    exact greeting.receive_sent terms failure recv
  | spawned session sent channels now telemetryTx => exact List.prefix_refl _
  | turned session sent plane published more channels input running publishes =>
    obtain ⟨written,same,_⟩ := plane.handle_writes channels input
    simp only [wrote,greeted,Desk.written,same]
    rw [← List.append_assoc]
    exact List.prefix_append _ _

end Desk

/-- The desktop on its control channel. -/
def desk (terms : Terms) : Party Desk DeskEvent ControlEnvelope ControlEnvelope where
  step := Desk.step terms
  reads := DeskEvent.reads
  wrote := Desk.wrote
  appends := Desk.step_appends terms

def deskInputs (events : List DeskEvent) : List PlaneInput := events.filterMap fun
  | .turned _ input => some input
  | _ => none

def PlaneInput.reads : PlaneInput → Option ControlEnvelope
  | .recv _ _ _ (.ok env) => some env
  | _ => none

/-- Where what a plane publishes comes from: its own state, or an envelope it has read. -/
inductive Sourced (transport : TransportTag) (read : List ControlEnvelope) : ControlPlaneEvent → Prop where
  | ready : Sourced transport read (.stateChanged (.ready (some transport)))
  | reconnecting : Sourced transport read (.stateChanged .reconnecting)
  | ended (seq : UInt64) (ack : Option UInt64) (reason : String) (heard : ⟨seq,ack,.bye ⟨reason⟩⟩ ∈ read) :
      Sourced transport read (.stateChanged (.closed reason))
  | closed (seq : UInt64) (ack : Option UInt64) (reason : String) (heard : ⟨seq,ack,.bye ⟨reason⟩⟩ ∈ read) :
      Sourced transport read (.closed reason)
  | deviceInfo (seq : UInt64) (ack : Option UInt64) (info : DeviceInfo) (heard : ⟨seq,ack,.deviceInfo info⟩ ∈ read) :
      Sourced transport read (.deviceInfo (.fromDeviceInfo info))
  | cameras (seq : UInt64) (ack : Option UInt64) (list : CameraList) (device : DeviceSnapshot)
      (heard : ⟨seq,ack,.cameraList list⟩ ∈ read) :
      Sourced transport read (.deviceInfo {device with cameras := list.cameras})
  | telemetry (seq : UInt64) (ack : Option UInt64) (telemetry : Telemetry)
      (heard : ⟨seq,ack,.telemetry telemetry⟩ ∈ read) : Sourced transport read (.telemetry telemetry)
  | modeApplied (seq : UInt64) (ack : Option UInt64) (applied : ModeApplied)
      (heard : ⟨seq,ack,.modeApplied applied⟩ ∈ read) : Sourced transport read (.modeApplied applied.mode)

theorem Sourced.mono (transport : TransportTag) (read more : List ControlEnvelope) (event : ControlPlaneEvent)
    (kept : read ⊆ more) (sourced : Sourced transport read event) : Sourced transport more event := by
  cases sourced with
  | ready => exact .ready
  | reconnecting => exact .reconnecting
  | ended seq ack reason heard => exact .ended seq ack reason (kept heard)
  | closed seq ack reason heard => exact .closed seq ack reason (kept heard)
  | deviceInfo seq ack info heard => exact .deviceInfo seq ack info (kept heard)
  | cameras seq ack list device heard => exact .cameras seq ack list device (kept heard)
  | telemetry seq ack telemetry heard => exact .telemetry seq ack telemetry (kept heard)
  | modeApplied seq ack applied heard => exact .modeApplied seq ack applied (kept heard)

theorem Plane.handle_sourced (channels : Channels) (plane : Plane) (input : PlaneInput)
    (more : List ControlPlaneEvent)
    (publishes : (plane.handle channels input).1.events = channels.events ++ more) :
    ∀ event ∈ more, Sourced plane.transport input.reads.toList event := by
  have nothing (same : (plane.handle channels input).1.events = channels.events) : more = [] := by
    rw [publishes] at same
    exact List.append_right_eq_self.mp same
  have exactly (events : List ControlPlaneEvent)
      (same : (plane.handle channels input).1.events = channels.events ++ events) : more = events := by
    rw [publishes] at same
    exact List.append_cancel_left same
  have disconnected (after : Plane) (same : plane.handle channels input = after.disconnect channels) :
      ∀ event ∈ more, Sourced plane.transport input.reads.toList event := by
    rw [exactly [.stateChanged .reconnecting] (by rw [same]; rfl)]
    intro event member
    obtain rfl := List.mem_singleton.mp member
    exact .reconnecting
  have silent (same : (plane.handle channels input).1.events = channels.events) :
      ∀ event ∈ more, Sourced plane.transport input.reads.toList event := by
    rw [nothing same]
    intro event member
    cases member
  cases input with
  | outbound message failure =>
    cases message with
    | none => exact silent rfl
    | some body =>
      cases failure with
      | none => exact silent rfl
      | some error => exact disconnected _ rfl
  | tick now nowUsec failure =>
    rcases plane.onTick_cases channels now nowUsec failure with ended | kept
    · exact disconnected _ ended
    · exact silent (congrArg (fun after : Channels × Plane => after.1.events) kept)
  | recv now nowUsec failure result =>
    cases result with
    | error error => exact disconnected _ rfl
    | ok env =>
      obtain ⟨seq,ack,body⟩ := env
      cases body with
      | bye bye =>
        rw [exactly [.stateChanged (.closed bye.reason),.closed bye.reason] (by
          simp [Plane.handle,Plane.onRecv,Plane.onEnvelope,Channels.emit,Channels.broadcast])]
        intro event member
        rcases List.mem_cons.mp member with rfl | last
        · exact .ended seq ack bye.reason List.mem_cons_self
        · obtain rfl := List.mem_singleton.mp last
          exact .closed seq ack bye.reason List.mem_cons_self
      | deviceInfo info =>
        rw [exactly [.deviceInfo (.fromDeviceInfo info),.stateChanged (.ready (some plane.transport))] (by
          simp [Plane.handle,Plane.onRecv,Plane.onEnvelope,Channels.emit,Channels.broadcast])]
        intro event member
        rcases List.mem_cons.mp member with rfl | last
        · exact .deviceInfo seq ack info List.mem_cons_self
        · obtain rfl := List.mem_singleton.mp last
          exact .ready
      | cameraList list =>
        cases device : channels.snapshot.device with
        | none => exact silent (by simp [Plane.handle,Plane.onRecv,Plane.onEnvelope,device])
        | some known =>
          rw [exactly [.deviceInfo {known with cameras := list.cameras}] (by
            simp [Plane.handle,Plane.onRecv,Plane.onEnvelope,Channels.emit,device])]
          intro event member
          obtain rfl := List.mem_singleton.mp member
          exact .cameras seq ack list known List.mem_cons_self
      | telemetry telemetry =>
        rw [exactly [.telemetry telemetry] rfl]
        intro event member
        obtain rfl := List.mem_singleton.mp member
        exact .telemetry seq ack telemetry List.mem_cons_self
      | modeApplied applied =>
        rw [exactly [.modeApplied applied.mode] rfl]
        intro event member
        obtain rfl := List.mem_singleton.mp member
        exact .modeApplied seq ack applied List.mem_cons_self
      | _ => exact silent rfl

/-- The messages of a queue that are no keepalive. -/
def commands (bodies : List ControlMessage) : List ControlMessage := bodies.filter fun body => !keepalive body

theorem commands_append (before after : List ControlMessage) :
    commands (before ++ after) = commands before ++ commands after := by
  exact List.filter_append ..

/-- What a turn takes from its queue it writes, or it is the plane's last turn. -/
theorem Plane.handle_commands (channels : Channels) (plane : Plane) (input : PlaneInput) :
    ∃ lost, commands ((plane.handle channels input).2.written.map ControlEnvelope.body) ++ lost =
        commands (plane.written.map ControlEnvelope.body) ++ commands (taken [input]) ∧
      ((plane.handle channels input).2.returned = false → lost = []) := by
  cases input with
  | outbound message failure =>
    cases message with
    | none => exact ⟨[],by simp [Plane.handle,Plane.onOutbound,taken,commands],fun _ => rfl⟩
    | some body =>
      cases failure with
      | none => exact ⟨[],by simp [Plane.handle,Plane.onOutbound,Plane.send,taken,commands],fun _ => rfl⟩
      | some error =>
        refine ⟨commands [body],rfl,?_⟩
        intro running
        cases running
  | tick now nowUsec failure =>
    refine ⟨[],?_,fun _ => rfl⟩
    have sent : commands ((plane.send none (.ping ⟨nowUsec⟩) failure).written.map ControlEnvelope.body) =
        commands (plane.written.map ControlEnvelope.body) := by
      cases failure with
      | none => simp [Plane.send,commands,keepalive]
      | some error => rfl
    rcases plane.onTick_cases channels now nowUsec failure with ended | kept
    · rw [Plane.handle,ended]
      simpa [Plane.disconnect,taken,commands] using sent
    · rw [Plane.handle,kept]
      simpa [taken,commands] using sent
  | recv now nowUsec failure result =>
    refine ⟨[],?_,fun _ => rfl⟩
    have none : commands (taken [PlaneInput.recv now nowUsec failure result]) = [] := rfl
    rw [none,List.append_nil,List.append_nil]
    cases result with
    | error error => rfl
    | ok env =>
      obtain ⟨seq,ack,body⟩ := env
      cases body with
      | ping ping =>
        cases failure with
        | none => simp [Plane.handle,Plane.onRecv,Plane.onEnvelope,Plane.send,commands,keepalive]
        | some error => rfl
      | cameraList list =>
        simp only [Plane.handle,Plane.onRecv,Plane.onEnvelope]
        split
        · rfl
        · rfl
      | _ => rfl

/-- A desktop after a run of its own: what its handshake read and then its plane, what the plane wrote
and what it published. -/
structure Desk.Ran (terms : Terms) (s : Desk) (events : List DeskEvent) : Prop where
  heard : ∃ read, Greeted terms s.greeted read ∧
    (desk terms).heard events = read ++ (deskInputs events).filterMap PlaneInput.reads
  idle : ∀ greeting, s = .handshaking greeting → deskInputs events = []
  written : List.Sublist (s.written.map fun env => (env.ack,env.body)) ((deskInputs events).filterMap PlaneInput.sends)
  asked : ∃ lost, commands (s.written.map ControlEnvelope.body) ++ lost = commands (taken (deskInputs events)) ∧
    (s.running → lost = [])
  transport : ∀ session sent plane published, s = .serving session sent plane published →
    plane.transport = terms.transport
  published : ∀ event ∈ s.published, Sourced terms.transport ((desk terms).heard events) event

namespace Desk

theorem start_ran (terms : Terms) : start.Ran terms [] := by
  refine ⟨⟨[],.awaitingHello,rfl⟩,fun _ _ => rfl,.slnil,⟨[],rfl,fun _ => rfl⟩,?_,?_⟩
  · intro session sent plane published serving
    cases serving
  · intro event member
    cases member

theorem heard_snoc (terms : Terms) (events : List DeskEvent) (event : DeskEvent) :
    (desk terms).heard (events ++ [event]) = (desk terms).heard events ++ event.reads.toList := by
  rw [(desk terms).heard_append]
  cases reads : event.reads <;> simp [Party.heard,desk,reads]

theorem step_ran (terms : Terms) (s after : Desk) (events : List DeskEvent) (event : DeskEvent)
    (ran : s.Ran terms events) (taken : step terms s event = some after) : after.Ran terms (events ++ [event]) := by
  obtain ⟨read,greeted,split⟩ := ran.heard
  cases step_moves terms s after event taken with
  | greeted greeting recv failure under_way =>
    have idle := ran.idle greeting rfl
    have same : deskInputs (events ++ [.greeted recv failure]) = [] := by
      rw [deskInputs,List.filterMap_append,← deskInputs,idle]
      rfl
    have reads : (DeskEvent.greeted recv failure).reads = recv.envelope? := by
      cases recv <;> rfl
    refine ⟨⟨_,greeting.receive_greeted terms read failure recv greeted under_way,?_⟩,fun _ _ => same,?_,?_,?_,?_⟩
    · rw [heard_snoc,split,same,idle,reads]
      simp
    · rw [same]
      exact .slnil
    · rw [same]
      exact ⟨[],rfl,fun _ => rfl⟩
    · intro session sent plane published serving
      cases serving
    · intro event member
      cases member
  | spawned session sent channels now telemetryTx =>
    have idle := ran.idle _ rfl
    have same : deskInputs (events ++ [.spawned channels now telemetryTx]) = [] := by
      rw [deskInputs,List.filterMap_append,← deskInputs,idle]
      rfl
    refine ⟨⟨read,greeted,?_⟩,?_,?_,?_,?_,?_⟩
    · rw [heard_snoc,split,same,idle]
      exact List.append_nil _
    · intro greeting handshaking
      cases handshaking
    · rw [same]
      exact .slnil
    · rw [same]
      exact ⟨[],rfl,fun _ => rfl⟩
    · intro _ _ plane _ serving
      cases serving
      rfl
    · intro event member
      obtain rfl := List.mem_singleton.mp member
      exact .ready
  | turned session sent plane published more channels input running publishes =>
    have grown : deskInputs (events ++ [.turned channels input]) = deskInputs events ++ [input] := by
      rw [deskInputs,List.filterMap_append]
      rfl
    have reads : (DeskEvent.turned channels input).reads = input.reads := by
      rcases input with _ | _ | ⟨now,nowUsec,failure,error | env⟩ <;> rfl
    refine ⟨⟨read,greeted,?_⟩,?_,?_,?_,?_,?_⟩
    · rw [heard_snoc,split,grown,reads,List.filterMap_append,List.append_assoc]
      cases found : input.reads <;> simp [found]
    · intro greeting handshaking
      cases handshaking
    · obtain ⟨written,same,offered⟩ := plane.handle_writes channels input
      rw [grown,List.filterMap_append]
      change List.Sublist ((plane.handle channels input).2.written.map _) _
      rw [same,List.map_append]
      refine ran.written.append ?_
      rcases List.mem_cons.mp offered with rfl | last
      · exact List.nil_sublist _
      · obtain rfl := List.mem_singleton.mp last
        cases sends : input.sends with
        | none => exact List.nil_sublist _
        | some sent => simp [sends,Plane.envelope]
    · obtain ⟨before,kept,still⟩ := ran.asked
      obtain ⟨lost,turned,last⟩ := plane.handle_commands channels input
      obtain rfl : before = [] := still (by simp [Desk.running,running])
      rw [List.append_nil] at kept
      refine ⟨lost,?_,?_⟩
      · rw [grown,taken_append,commands_append,← kept]
        exact turned
      · intro runs
        exact last (by simpa [Desk.running] using runs)
    · intro _ _ _ _ serving
      cases serving
      obtain ⟨_,publishing⟩ := plane.handle_publishes channels input
      exact publishing.transport.trans (ran.transport session sent plane published rfl)
    · intro event member
      rw [heard_snoc,reads]
      rcases List.mem_append.mp member with earlier | later
      · exact (ran.published event earlier).mono terms.transport _ _ event (List.subset_append_left _ _)
      · have sourced := plane.handle_sourced channels input more publishes event later
        rw [ran.transport session sent plane published rfl] at sourced
        exact sourced.mono terms.transport _ _ event (List.subset_append_right _ _)

theorem run_ran (terms : Terms) (s : Desk) (events : List DeskEvent)
    (run : exec (desk terms).step start events = some s) : s.Ran terms events := by
  refine exec_history (desk terms).step (fun _ _ => True) (fun s => s.Ran terms) ?_ events start s [] (start_ran terms)
    (along_trivial (desk terms).step events _) run
  intro before history event after ran _ taken
  exact step_ran terms before after history event ran taken

end Desk
end ClearCam.Session
