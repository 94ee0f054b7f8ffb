import ClearCam.App.Conversation

/-! The handshake of a phone and a desktop between which nothing is lost: it cannot stop half way, it ends
after a bounded number of steps, and both sides come to the same end. -/
namespace ClearCam.App
open ClearCam.Protocol ClearCam.Session ClearCam.Ios ClearCam.Library

/-- A step of the handshake in which no call fails. -/
def Lossless : Conversation.Turn → Prop
  | .left (.session .connectCalled) | .left (.session (.sent (.ok _))) | .left (.session (.received (.ok _)))
  | .left (.session (.cameraStarted (.ok _))) | .right (.greeted (.envelope _) none) => True
  | _ => False

namespace Completion

def helloFrom (launch : Launch) : ControlEnvelope := ⟨1,none,.hello launch.hello⟩

def authFrom (launch : Launch) : ControlEnvelope := ⟨2,none,.auth launch.authBody⟩

def ackTo (launch : Launch) (terms : Terms) : ControlEnvelope :=
  helloAckTo terms.serverCaps (helloFrom launch) launch.hello

def Matches (launch : Launch) (terms : Terms) : Prop := terms.variant.credential launch.authBody = .ok terms.expected

/-- The desktop's handshake by how many of the phone's two messages it has read. -/
def greetingAt (launch : Launch) (terms : Terms) : Nat → Greeting
  | 0 => .start
  | 1 => ⟨.awaitingAuth launch.hello,[ackTo launch terms]⟩
  | _ => Greeting.receive terms ⟨.awaitingAuth launch.hello,[ackTo launch terms]⟩ none (.envelope (authFrom launch))

/-- How the desktop judges the credential. -/
inductive Judged (launch : Launch) (terms : Terms) (greeting : Greeting) : Prop where
  | accepted (matched : Matches launch terms)
      (same : greeting = ⟨.accepted ⟨terms.sessionId,terms.expected,launch.hello⟩,
        [ackTo launch terms,⟨1,some 2,.authOk ⟨terms.sessionId⟩⟩]⟩)
  | refused (unmatched : ¬Matches launch terms) (text : String)
      (same : greeting = ⟨.refused .unauthorized,
        [ackTo launch terms,errorTo (authFrom launch) ⟨.unauthorized,text⟩]⟩)

theorem judged (launch : Launch) (terms : Terms) : Judged launch terms (greetingAt launch terms 2) := by
  simp only [greetingAt,Greeting.receive,Greeting.onAuth,authFrom]
  cases credential : terms.variant.credential launch.authBody with
  | error text =>
    refine .refused ?_ text rfl
    intro matched
    rw [Matches,credential] at matched
    cases matched
  | ok presented =>
    dsimp only
    by_cases wrong : presented ≠ terms.expected
    · rw [if_pos wrong]
      refine .refused ?_ terms.variant.mismatch rfl
      intro matched
      rw [Matches,credential] at matched
      exact wrong (Except.ok.inj matched)
    · rw [if_neg wrong]
      obtain rfl := Decidable.not_not.mp wrong
      exact .accepted credential rfl

theorem greetingAt_length (launch : Launch) (terms : Terms) (n : Nat) (bound : n ≤ 2) :
    (greetingAt launch terms n).sent.length = n := by
  match n, bound with
  | 0, _ => rfl
  | 1, _ => rfl
  | 2, _ =>
    cases judged launch terms with
    | accepted matched same => rw [same]; rfl
    | refused unmatched text same => rw [same]; rfl

/-- The phone by what it has read, at each of its calls. -/
def PhoneAt (launch : Launch) (terms : Terms) (read : Nat) (s : SessionController) : Prop :=
  match s.connect with
  | .notCalled | .sendingHello => read = 0 ∧ s.core.sent = [] ∧ s.core.seq = 0 ∧ s.mediaSent = []
  | .receivingHelloAck => read = 0 ∧ s.core.sent = [helloFrom launch] ∧ s.core.seq = 1 ∧ s.mediaSent = []
  | .sendingAuth => read = 1 ∧ s.core.sent = [helloFrom launch] ∧ s.core.seq = 1 ∧ s.mediaSent = []
  | .receivingAuth => read = 1 ∧ s.core.sent = [helloFrom launch,authFrom launch] ∧ s.mediaSent = []
  | .sendingMediaHello sid => read = 2 ∧ Matches launch terms ∧ sid = terms.sessionId ∧ s.mediaSent = []
  | .sendingDeviceInfo sid | .sendingCameraList sid _ | .startingCamera sid _ =>
    read = 2 ∧ Matches launch terms ∧ sid = terms.sessionId ∧
      s.mediaSent = [⟨0,none,.mediaHello ⟨terms.sessionId,launch.wireToken⟩⟩]
  | .returned sid => read = 2 ∧ Matches launch terms ∧ sid = terms.sessionId ∧
      s.mediaSent = [⟨0,none,.mediaHello ⟨terms.sessionId,launch.wireToken⟩⟩] ∧ s.state = .ready terms.sessionId
  | .threw error => read = 2 ∧ ¬Matches launch terms ∧ s.mediaSent = [] ∧
      s.state = .stopped ("auth: " ++ errorCodeRawValue .unauthorized) ∧ ∃ text, error = .session (.authFailed text)

/-- A handshake in which nothing was lost. -/
structure Exchange (launch : Launch) (terms : Terms) (link : Conversation) : Prop where
  desk : link.right = .handshaking (greetingAt launch terms link.rightRead)
  bound : link.rightRead ≤ 2
  ahead : link.leftRead ≤ link.rightRead
  phone : PhoneAt launch terms link.leftRead link.left

theorem start_exchange (launch : Launch) (terms : Terms) : Exchange launch terms (Conversation.start launch) :=
  ⟨rfl,Nat.zero_le _,Nat.le_refl _,rfl,rfl,rfl,rfl⟩

/-- Until the desktop has read both, the phone has sent at most its two messages. -/
theorem Exchange.front (launch : Launch) (terms : Terms) (link : Conversation)
    (exchange : Exchange launch terms link) (unread : link.rightRead < 2) :
    link.left.core.sent <+: [helloFrom launch,authFrom launch] := by
  have early : link.leftRead ≠ 2 := by
    have := exchange.ahead
    omega
  have phone := exchange.phone
  unfold PhoneAt at phone
  split at phone
  · rw [phone.2.1]
    exact List.nil_prefix
  · rw [phone.2.1]
    exact List.nil_prefix
  · rw [phone.2.1]
    exact List.prefix_append [helloFrom launch] [authFrom launch]
  · rw [phone.2.1]
    exact List.prefix_append [helloFrom launch] [authFrom launch]
  · exact phone.2.1 ▸ List.prefix_refl _
  all_goals exact absurd phone.1 early

theorem getElem?_of_prefix {α : Type} (first second : List α) (front : first <+: second) (n : Nat) (x : α)
    (found : first[n]? = some x) : second[n]? = some x := by
  obtain ⟨rest,rfl⟩ := front
  obtain ⟨inside,_⟩ := List.getElem?_eq_some_iff.mp found
  rw [List.getElem?_append_left inside]
  exact found

theorem right_exchange (launch : Launch) (terms : Terms) (link after : Conversation) (env : ControlEnvelope)
    (exchange : Exchange launch terms link)
    (taken : Conversation.step launch terms link (.right (.greeted (.envelope env) none)) = some after) :
    Exchange launch terms after := by
  obtain ⟨read,right,advanced,stepped,rfl⟩ := Duplex.step_right _ _ link after _ taken
  have found : link.left.core.sent[link.rightRead]? = some env ∧ read = link.rightRead + 1 := by
    simp only [Party.advance,desk,DeskEvent.reads] at advanced
    split at advanced
    · next found => exact ⟨found,(Option.some.inj advanced).symm⟩
    · cases advanced
  obtain ⟨found,rfl⟩ := found
  rw [exchange.desk] at stepped
  have unread : link.rightRead < 2 := by
    by_contra all
    have two : link.rightRead = 2 := by
      have := exchange.bound
      omega
    rw [two] at stepped
    have ended : (greetingAt launch terms 2).stage.ended = true := by
      cases judged launch terms with
      | accepted matched same => rw [same]; rfl
      | refused unmatched text same => rw [same]; rfl
    simp [desk,Desk.step,ended] at stepped
  have message := getElem?_of_prefix _ _ (exchange.front launch terms link unread) _ _ found
  have next : right = .handshaking (greetingAt launch terms (link.rightRead + 1)) := by
    have early : link.rightRead = 0 ∨ link.rightRead = 1 := by omega
    rcases early with number | number
    · rw [number] at message stepped ⊢
      cases message
      exact (Option.some.inj stepped).symm
    · rw [number] at message stepped ⊢
      cases message
      exact (Option.some.inj stepped).symm
  exact ⟨next,unread,Nat.le_succ_of_le exchange.ahead,exchange.phone⟩

/-- What the phone reads next is the desktop's reply of that number. -/
theorem Exchange.reads (launch : Launch) (terms : Terms) (link : Conversation) (env : ControlEnvelope) (read : Nat)
    (exchange : Exchange launch terms link)
    (advanced : (Ios.phone launch).advance link.right.wrote link.leftRead (.session (.received (.ok env))) = some read) :
    read = link.leftRead + 1 ∧ link.leftRead < link.rightRead ∧
      (greetingAt launch terms link.rightRead).sent[link.leftRead]? = some env := by
  simp only [Party.advance,Ios.phone,PhoneEvent.reads] at advanced
  split at advanced
  · next found =>
    have wrote : link.right.wrote = (greetingAt launch terms link.rightRead).sent := by
      rw [exchange.desk]
      exact List.append_nil _
    rw [wrote] at found
    obtain ⟨inside,_⟩ := List.getElem?_eq_some_iff.mp found
    rw [greetingAt_length launch terms _ exchange.bound] at inside
    exact ⟨(Option.some.inj advanced).symm,inside,found⟩
  · cases advanced

/-- The desktop's first reply is its HELLO_ACK. -/
theorem greetingAt_first (launch : Launch) (terms : Terms) (n : Nat) (some_read : 0 < n) (bound : n ≤ 2) :
    (greetingAt launch terms n).sent[0]? = some (ackTo launch terms) := by
  match n, some_read, bound with
  | 1, _, _ => rfl
  | 2, _, _ =>
    cases judged launch terms with
    | accepted matched same => rw [same]; rfl
    | refused unmatched text same => rw [same]; rfl

theorem received_exchange (launch : Launch) (terms : Terms) (link after : Conversation) (env : ControlEnvelope)
    (exchange : Exchange launch terms link)
    (taken : Conversation.step launch terms link (.left (.session (.received (.ok env)))) = some after) :
    Exchange launch terms after := by
  obtain ⟨read,left,advanced,stepped,rfl⟩ := Duplex.step_left _ _ link after _ taken
  obtain ⟨rfl,inside,found⟩ := exchange.reads launch terms link env read advanced
  have at_call := exchange.phone
  change SessionController.step launch link.left (.received (.ok env)) = some left at stepped
  simp only [SessionController.step] at stepped
  split at stepped
  · next call =>
    -- HELLO_ACK is the only first reply
    simp only [PhoneAt,call] at at_call
    obtain ⟨none_read,sent,seq,media⟩ := at_call
    rw [none_read,greetingAt_first launch terms _ (by omega) exchange.bound] at found
    cases found
    obtain rfl := Option.some.inj stepped
    refine ⟨exchange.desk,exchange.bound,inside,?_⟩
    exact ⟨by rw [none_read],sent,seq,media⟩
  · next call =>
    simp only [PhoneAt,call] at at_call
    obtain ⟨one_read,sent,media⟩ := at_call
    have two : link.rightRead = 2 := by
      have := exchange.bound
      omega
    rw [one_read,two] at found
    obtain rfl := Option.some.inj stepped
    refine ⟨exchange.desk,exchange.bound,inside,?_⟩
    cases judged launch terms with
    | accepted matched same =>
      rw [same] at found
      cases found
      exact ⟨by rw [one_read],matched,rfl,media⟩
    | refused unmatched text same =>
      rw [same] at found
      cases found
      exact ⟨by rw [one_read],unmatched,media,rfl,text,rfl⟩
  · cases stepped

/-- A call of the phone that reads nothing. -/
theorem unread_exchange (launch : Launch) (terms : Terms) (link after : Conversation) (event : SessionEvent)
    (exchange : Exchange launch terms link) (unread : (PhoneEvent.session event).reads = none)
    (at_call : ∀ left, SessionController.step launch link.left event = some left →
      PhoneAt launch terms link.leftRead left)
    (taken : Conversation.step launch terms link (.left (.session event)) = some after) :
    Exchange launch terms after := by
  obtain ⟨read,left,advanced,stepped,rfl⟩ := Duplex.step_left _ _ link after _ taken
  have same : read = link.leftRead := by
    simp only [Party.advance,phone,unread] at advanced
    exact (Option.some.inj advanced).symm
  subst same
  exact ⟨exchange.desk,exchange.bound,exchange.ahead,at_call left stepped⟩

theorem sent_phoneAt (launch : Launch) (terms : Terms) (read : Nat) (s left : SessionController) (done : Unit)
    (at_call : PhoneAt launch terms read s)
    (stepped : SessionController.step launch s (.sent (.ok done)) = some left) : PhoneAt launch terms read left := by
  change SessionController.onSent launch s (.ok done) = some left at stepped
  unfold SessionController.onSent at stepped
  cases call : s.connect with
  | sendingHello =>
    rw [call] at stepped
    obtain rfl := Option.some.inj stepped
    simp only [PhoneAt,call] at at_call
    obtain ⟨none_read,sent,seq,media⟩ := at_call
    refine ⟨none_read,?_,?_,media⟩
    · simp [SessionController.sendControl,Pump.send,sent,seq,helloFrom,Launch.hello]
    · simp [SessionController.sendControl,Pump.send,seq]
  | sendingAuth =>
    rw [call] at stepped
    obtain rfl := Option.some.inj stepped
    simp only [PhoneAt,call] at at_call
    obtain ⟨one_read,sent,seq,media⟩ := at_call
    refine ⟨one_read,?_,media⟩
    simp [SessionController.sendControl,Pump.send,sent,seq,authFrom]
  | sendingMediaHello sid =>
    rw [call] at stepped
    obtain rfl := Option.some.inj stepped
    simp only [PhoneAt,call] at at_call
    obtain ⟨both_read,matched,rfl,media⟩ := at_call
    refine ⟨both_read,matched,rfl,?_⟩
    simp [SessionController.onMediaHelloSent,media]
  | sendingDeviceInfo sid =>
    rw [call] at stepped
    obtain rfl := Option.some.inj stepped
    simp only [PhoneAt,call] at at_call
    obtain ⟨both_read,matched,rfl,media⟩ := at_call
    simp only [SessionController.sendControl,SessionController.onDeviceInfoSent]
    split
    · exact ⟨both_read,matched,rfl,media⟩
    · exact ⟨both_read,matched,rfl,media,rfl⟩
  | sendingCameraList sid cameras =>
    rw [call] at stepped
    obtain rfl := Option.some.inj stepped
    simp only [PhoneAt,call] at at_call
    obtain ⟨both_read,matched,rfl,media⟩ := at_call
    simp only [SessionController.sendControl,SessionController.onCameraListSent]
    split
    · split
      · exact ⟨both_read,matched,rfl,media⟩
      · exact ⟨both_read,matched,rfl,media,rfl⟩
    · exact ⟨both_read,matched,rfl,media,rfl⟩
  | _ =>
    rw [call] at stepped
    cases stepped

theorem step_exchange (launch : Launch) (terms : Terms) (link after : Conversation)
    (turn : Conversation.Turn) (lossless : Lossless turn) (exchange : Exchange launch terms link)
    (taken : Conversation.step launch terms link turn = some after) : Exchange launch terms after := by
  unfold Lossless at lossless
  split at lossless
  · refine unread_exchange launch terms link after _ exchange rfl ?_ taken
    intro left stepped
    simp only [SessionController.step] at stepped
    split at stepped
    · next call =>
      obtain rfl := Option.some.inj stepped
      have at_call := exchange.phone
      simp only [PhoneAt,call] at at_call
      exact at_call
    · cases stepped
  · next done =>
    refine unread_exchange launch terms link after _ exchange rfl ?_ taken
    exact fun left => sent_phoneAt launch terms _ _ left done exchange.phone
  · next env => exact received_exchange launch terms link after env exchange taken
  · refine unread_exchange launch terms link after _ exchange rfl ?_ taken
    intro left stepped
    simp only [SessionController.step] at stepped
    split at stepped
    · next sid cameraId call =>
      obtain rfl := Option.some.inj stepped
      have at_call := exchange.phone
      simp only [PhoneAt,call] at at_call
      obtain ⟨both_read,matched,rfl,media⟩ := at_call
      exact ⟨both_read,matched,rfl,media,rfl⟩
    · cases stepped
  · next env => exact right_exchange launch terms link after env exchange taken
  · exact lossless.elim

/-- How far the two have come. -/
def connectRank : Connect → Nat
  | .notCalled => 0
  | .sendingHello => 1
  | .receivingHelloAck => 2
  | .sendingAuth => 3
  | .receivingAuth => 4
  | .sendingMediaHello _ => 5
  | .sendingDeviceInfo _ => 6
  | .sendingCameraList _ _ => 7
  | .startingCamera _ _ => 8
  | .returned _ | .threw _ => 9

def rank (link : Conversation) : Nat := connectRank link.left.connect + link.rightRead

theorem sent_rank (launch : Launch) (s left : SessionController) (done : Unit)
    (stepped : SessionController.step launch s (.sent (.ok done)) = some left) :
    connectRank s.connect < connectRank left.connect := by
  change SessionController.onSent launch s (.ok done) = some left at stepped
  unfold SessionController.onSent at stepped
  cases call : s.connect with
  | sendingDeviceInfo sid =>
    rw [call] at stepped
    obtain rfl := Option.some.inj stepped
    simp only [SessionController.sendControl,SessionController.onDeviceInfoSent]
    split <;> simp [connectRank,SessionController.finish]
  | sendingCameraList sid cameras =>
    rw [call] at stepped
    obtain rfl := Option.some.inj stepped
    simp only [SessionController.sendControl,SessionController.onCameraListSent]
    split
    · split <;> simp [connectRank,SessionController.finish]
    · simp [connectRank,SessionController.finish]
  | sendingHello | sendingAuth | sendingMediaHello =>
    rw [call] at stepped
    obtain rfl := Option.some.inj stepped
    simp [connectRank,SessionController.sendControl,SessionController.onMediaHelloSent]
  | _ =>
    rw [call] at stepped
    cases stepped

theorem received_rank (launch : Launch) (s left : SessionController) (env : ControlEnvelope)
    (stepped : SessionController.step launch s (.received (.ok env)) = some left) :
    connectRank s.connect < connectRank left.connect := by
  simp only [SessionController.step] at stepped
  split at stepped
  · next call =>
    obtain rfl := Option.some.inj stepped
    rw [call,SessionController.onHelloAck]
    split <;> simp [connectRank,SessionController.stop]
  · next call =>
    obtain rfl := Option.some.inj stepped
    rw [call,SessionController.onAuthResp]
    split <;> simp [connectRank,SessionController.stop]
  · cases stepped

theorem step_rank (launch : Launch) (terms : Terms) (link after : Conversation) (turn : Conversation.Turn)
    (lossless : Lossless turn) (taken : Conversation.step launch terms link turn = some after) :
    rank link < rank after := by
  have left_rank (read : Nat) (left : SessionController)
      (more : connectRank link.left.connect < connectRank left.connect) :
      rank link < rank {link with left := left, leftRead := read} := Nat.add_lt_add_right more _
  unfold Lossless at lossless
  split at lossless
  · obtain ⟨read,left,_,stepped,rfl⟩ := Duplex.step_left _ _ link after _ taken
    refine left_rank read left ?_
    change SessionController.step launch link.left .connectCalled = some left at stepped
    simp only [SessionController.step] at stepped
    split at stepped
    · next call =>
      obtain rfl := Option.some.inj stepped
      simp [call,connectRank]
    · cases stepped
  · next done =>
    obtain ⟨read,left,_,stepped,rfl⟩ := Duplex.step_left _ _ link after _ taken
    exact left_rank read left (sent_rank launch link.left left done stepped)
  · next env =>
    obtain ⟨read,left,_,stepped,rfl⟩ := Duplex.step_left _ _ link after _ taken
    exact left_rank read left (received_rank launch link.left left env stepped)
  · obtain ⟨read,left,_,stepped,rfl⟩ := Duplex.step_left _ _ link after _ taken
    refine left_rank read left ?_
    change SessionController.step launch link.left (.cameraStarted (.ok _)) = some left at stepped
    simp only [SessionController.step] at stepped
    split at stepped
    · next sid cameraId call =>
      obtain rfl := Option.some.inj stepped
      simp [call,connectRank,SessionController.onCameraStarted,SessionController.finish]
    · cases stepped
  · next env =>
    obtain ⟨read,right,advanced,_,rfl⟩ := Duplex.step_right _ _ link after _ taken
    have more : read = link.rightRead + 1 := by
      simp only [Party.advance,desk,DeskEvent.reads] at advanced
      split at advanced
      · exact (Option.some.inj advanced).symm
      · cases advanced
    rw [more]
    exact Nat.add_lt_add_left (Nat.lt_succ_self _) _
  · exact lossless.elim

theorem rank_le (launch : Launch) (terms : Terms) (link : Conversation) (exchange : Exchange launch terms link) :
    rank link ≤ 11 := by
  have connect : connectRank link.left.connect ≤ 9 := by
    cases link.left.connect <;> simp [connectRank]
  have := exchange.bound
  unfold rank
  omega

/-- Both sides are at the end that the credential decides. -/
inductive Concluded (launch : Launch) (terms : Terms) (link : Conversation) : Prop where
  | ready (matched : Matches launch terms) (connect : link.left.connect = .returned terms.sessionId)
      (state : link.left.state = .ready terms.sessionId)
      (media : link.left.mediaSent = [⟨0,none,.mediaHello ⟨terms.sessionId,launch.wireToken⟩⟩])
      (stage : link.right.greeted.stage = .accepted ⟨terms.sessionId,terms.expected,launch.hello⟩)
  | refused (unmatched : ¬Matches launch terms) (text : String)
      (connect : link.left.connect = .threw (.session (.authFailed text)))
      (state : link.left.state = .stopped ("auth: " ++ errorCodeRawValue .unauthorized))
      (media : link.left.mediaSent = []) (stage : link.right.greeted.stage = .refused .unauthorized)

/-- A lossless handshake that cannot go on has come to its end. -/
theorem stuck_concluded (launch : Launch) (terms : Terms) (link : Conversation)
    (exchange : Exchange launch terms link)
    (stuck : ∀ turn, Lossless turn → Conversation.step launch terms link turn = none) :
    Concluded launch terms link := by
  have calls (event : SessionEvent) (lossless : Lossless (.left (.session event)))
      (unread : (PhoneEvent.session event).reads = none) : SessionController.step launch link.left event = none := by
    cases stepped : SessionController.step launch link.left event with
    | none => rfl
    | some left =>
      have taken : Conversation.step launch terms link (.left (.session event)) =
          some {link with left := left, leftRead := link.leftRead} := by
        simp [Conversation.step,Duplex.step,Party.advance,phone,unread,SessionController.phoneStep,stepped]
      rw [stuck _ lossless] at taken
      cases taken
  have sends : SessionController.step launch link.left (.sent (.ok ())) = none := calls _ trivial rfl
  -- the phone cannot wait for a reply that is written, nor the desktop for a message that is sent
  have waits (call : link.left.connect = .receivingHelloAck ∨ link.left.connect = .receivingAuth) :
      ¬link.leftRead < link.rightRead := by
    intro behind
    have length := greetingAt_length launch terms link.rightRead exchange.bound
    have wrote : link.right.wrote = (greetingAt launch terms link.rightRead).sent := by
      rw [exchange.desk]
      exact List.append_nil _
    obtain ⟨env,found⟩ : ∃ env, link.right.wrote[link.leftRead]? = some env := by
      rw [wrote]
      exact ⟨_,List.getElem?_eq_getElem (by omega)⟩
    have taken := stuck (.left (.session (.received (.ok env)))) trivial
    rcases call with call | call <;>
      simp [Conversation.step,Duplex.step,Party.advance,phone,PhoneEvent.reads,found,SessionController.phoneStep,
        SessionController.step,call,desk] at taken
  have reads (n : Nat) (number : link.rightRead = n) (unread : n < 2) (env : ControlEnvelope)
      (found : link.left.core.sent[n]? = some env) : False := by
    have taken := stuck (.right (.greeted (.envelope env) none)) trivial
    have under_way : (greetingAt launch terms n).stage.ended = false := by
      have early : n = 0 ∨ n = 1 := by omega
      rcases early with rfl | rfl <;> rfl
    simp [Conversation.step,Duplex.step,Party.advance,desk,DeskEvent.reads,phone,number,found,exchange.desk,Desk.step,
      under_way] at taken
  have both (read : link.leftRead = 2) : link.rightRead = 2 := by
    have := exchange.ahead
    have := exchange.bound
    omega
  have at_call := exchange.phone
  cases call : link.left.connect with
  | notCalled =>
    have called := calls .connectCalled trivial rfl
    simp [SessionController.step,call] at called
  | sendingHello | sendingAuth | sendingMediaHello | sendingDeviceInfo | sendingCameraList =>
    simp [SessionController.step,SessionController.onSent,call] at sends
  | startingCamera sid cameraId =>
    have started := calls (.cameraStarted (.ok ())) trivial rfl
    simp [SessionController.step,call] at started
  | receivingHelloAck =>
    simp only [PhoneAt,call] at at_call
    obtain ⟨none_read,sent,_⟩ := at_call
    have silent : link.rightRead = 0 := by
      have := waits (.inl call)
      omega
    exact (reads 0 silent (by omega) (helloFrom launch) (by rw [sent]; rfl)).elim
  | receivingAuth =>
    simp only [PhoneAt,call] at at_call
    obtain ⟨one_read,sent,_⟩ := at_call
    have silent : link.rightRead = 1 := by
      have := waits (.inr call)
      have := exchange.ahead
      omega
    exact (reads 1 silent (by omega) (authFrom launch) (by rw [sent]; rfl)).elim
  | returned sid =>
    simp only [PhoneAt,call] at at_call
    obtain ⟨read,matched,rfl,media,state⟩ := at_call
    refine .ready matched call state media ?_
    rw [exchange.desk,both read]
    cases judged launch terms with
    | accepted _ same =>
      rw [same]
      rfl
    | refused unmatched => exact absurd matched unmatched
  | threw error =>
    simp only [PhoneAt,call] at at_call
    obtain ⟨read,unmatched,media,state,text,rfl⟩ := at_call
    refine .refused unmatched text call state media ?_
    rw [exchange.desk,both read]
    cases judged launch terms with
    | accepted matched => exact absurd matched unmatched
    | refused _ _ same =>
      rw [same]
      rfl

theorem run_exchange (launch : Launch) (terms : Terms) (turns : List Conversation.Turn)
    (link : Conversation) (lossless : ∀ turn ∈ turns, Lossless turn)
    (run : exec (Conversation.step launch terms) (Conversation.start launch) turns = some link) :
    Exchange launch terms link ∧ turns.length ≤ rank link := by
  refine exec_history (Conversation.step launch terms) (fun _ turn => Lossless turn)
    (fun link taken => Exchange launch terms link ∧ taken.length ≤ rank link) ?_ turns (Conversation.start launch) link
    [] ⟨start_exchange launch terms,Nat.zero_le _⟩ ?_ run
  · intro before history turn after held lossless taken
    have further := step_rank launch terms before after turn lossless taken
    refine ⟨step_exchange launch terms before after turn lossless held.1 taken,?_⟩
    rw [List.length_append,List.length_singleton]
    exact Nat.lt_of_le_of_lt held.2 further
  · rw [along_iff]
    intro before turn after _ split _
    exact lossless turn (by rw [split]; simp)

end Completion

open Completion

/-- A handshake in which no call fails never deadlocks: it is over after at most eleven steps of the two
sides together, and wherever it cannot go on, both are ready with one session or both have refused,
as the credential matches or not. -/
theorem handshake_completes (launch : Launch) (terms : Terms) (turns : List Conversation.Turn)
    (link : Conversation) (lossless : ∀ turn ∈ turns, Lossless turn)
    (run : exec (Conversation.step launch terms) (Conversation.start launch) turns = some link) :
    turns.length ≤ 11 ∧
      ((∀ turn, Lossless turn → Conversation.step launch terms link turn = none) → Concluded launch terms link) := by
  obtain ⟨exchange,counted⟩ := run_exchange launch terms turns link lossless run
  refine ⟨counted.trans (rank_le launch terms link exchange),?_⟩
  exact stuck_concluded launch terms link exchange

def completeTurns : List Conversation.Turn := wifiTurns ++ [.left (.session (.sent (.ok ())))]

theorem handshake_completes_wifi : ∃ link,
    exec (Conversation.step samplePhone wifiTerms) (Conversation.start samplePhone) completeTurns = some link ∧
      Concluded samplePhone wifiTerms link := by
  refine ⟨_,rfl,(handshake_completes samplePhone wifiTerms completeTurns _ ?_ rfl).2 ?_⟩
  · intro turn member
    simp only [completeTurns,wifiTurns,List.cons_append,List.nil_append,List.mem_cons,List.not_mem_nil,or_false] at member
    rcases member with rfl | rfl | rfl | rfl | rfl | rfl | rfl | rfl | rfl <;> trivial
  · intro turn lossless
    unfold Lossless at lossless
    split at lossless
    · rfl
    · rfl
    · rfl
    · rfl
    · next env =>
      refine Option.bind_eq_none_iff.mpr ?_
      intro read _
      rfl
    · exact lossless.elim

end ClearCam.App
