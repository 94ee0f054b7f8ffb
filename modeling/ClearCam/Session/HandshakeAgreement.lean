import ClearCam.Session.Handshake
import ClearCam.Library.Lockstep

/-! Soundness and completeness of the two handshakes, and that the USB copy is the
Wi-Fi copy with the AUTH variants exchanged. -/
namespace ClearCam.Session
open ClearCam.Protocol ClearCam.Library

def Presents (own : String → Auth) (expected : String) (inbox : List Recv)
    (helloEnv : ControlEnvelope) (hello : Hello) (authEnv : ControlEnvelope) : Prop :=
  ∃ rest, inbox = .envelope helloEnv :: .envelope authEnv :: rest ∧ helloEnv.body = .hello hello ∧
    hello.protoVer = protoVer ∧ authEnv.body = .auth (own expected)

/-- The received envelope a failed handshake fails on: a first one that is no HELLO of
this version, or a second one that is not the expected credential. -/
def Culprit (own : String → Auth) (expected : String) (inbox : List Recv) (env : ControlEnvelope) : Prop :=
  (∃ rest, inbox = .envelope env :: rest ∧ ∀ hello, env.body = .hello hello → hello.protoVer ≠ protoVer) ∨
  (∃ helloEnv hello rest, inbox = .envelope helloEnv :: .envelope env :: rest ∧
    helloEnv.body = .hello hello ∧ hello.protoVer = protoVer ∧ env.body ≠ .auth (own expected))

structure HandshakeCorrect (accept : String → List Capability → String → Handshake AcceptedSession)
    (own : String → Auth) : Prop where
  ok_iff : ∀ expected serverCaps uuid inbox,
    (∃ session, (outcome (accept expected serverCaps uuid) inbox).1 = .ok session) ↔
      ∃ helloEnv hello authEnv, Presents own expected inbox helloEnv hello authEnv
  accepted : ∀ expected serverCaps uuid inbox helloEnv hello authEnv,
    Presents own expected inbox helloEnv hello authEnv →
    outcome (accept expected serverCaps uuid) inbox = (.ok ⟨"sess-" ++ uuid,expected,hello⟩,
      [⟨0,some helloEnv.seq,.helloAck ⟨protoVer,serverCaps.filter (· ∈ hello.caps)⟩⟩,
        ⟨1,some authEnv.seq,.authOk ⟨"sess-" ++ uuid⟩⟩])
  refused : ∀ expected serverCaps uuid inbox,
    (¬ ∃ helloEnv hello authEnv, Presents own expected inbox helloEnv hello authEnv) →
    (∃ error, (outcome (accept expected serverCaps uuid) inbox).1 = .error error) ∧
      ∀ env ∈ (outcome (accept expected serverCaps uuid) inbox).2, ∀ body, env.body ≠ .authOk body
  reported : ∀ expected serverCaps uuid inbox env, Culprit own expected inbox env →
    ∃ earlier body, (outcome (accept expected serverCaps uuid) inbox).2 =
      earlier ++ [⟨0,some env.seq,.error body⟩] ∧ ∀ e ∈ earlier, ∀ body, e.body ≠ .error body

/-- One proof for both copies: all the law needs of a variant is which AUTH it takes. -/
theorem accept_correct (v : Variant) (own : String → Auth)
    (takes : ∀ auth presented, v.credential auth = .ok presented ↔ auth = own presented) :
    HandshakeCorrect (accept v) own := by
  have filtered (serverCaps : List Capability) (hello : Hello) :
      (serverCaps.filter fun c => hello.caps.any fun h => h == c) = serverCaps.filter (· ∈ hello.caps) := by
    apply List.filter_congr
    intro c _
    rw [Bool.eq_iff_iff]
    simp
  have granted : ∀ expected serverCaps uuid inbox helloEnv hello authEnv,
      Presents own expected inbox helloEnv hello authEnv →
      outcome (accept v expected serverCaps uuid) inbox = (.ok ⟨"sess-" ++ uuid,expected,hello⟩,
        [⟨0,some helloEnv.seq,.helloAck ⟨protoVer,serverCaps.filter (· ∈ hello.caps)⟩⟩,
          ⟨1,some authEnv.seq,.authOk ⟨"sess-" ++ uuid⟩⟩]) := by
    intro expected serverCaps uuid _ helloEnv hello authEnv presents
    rcases presents with ⟨rest,rfl,greeted,version,presented⟩
    have matched := (takes (own expected) expected).mpr rfl
    rw [accept_granted v expected serverCaps uuid helloEnv authEnv hello _ rest greeted version presented
      matched,helloAckTo,filtered]
  refine ⟨?_,granted,?_,?_⟩
  · intro expected serverCaps uuid inbox
    constructor
    · intro returns
      rcases returns with ⟨session,ok⟩
      generalize result : outcome (accept v expected serverCaps uuid) inbox = pair at ok
      have verdict := accept_verdict v expected serverCaps uuid inbox
      rw [result] at verdict
      cases verdict with
      | accepted helloEnv hello authEnv auth rest greeted version presented matched =>
        rw [(takes auth expected).mp matched] at presented
        exact ⟨helloEnv,hello,authEnv,rest,rfl,greeted,version,presented⟩
      | _ => cases ok
    · intro arrived
      rcases arrived with ⟨helloEnv,hello,authEnv,presents⟩
      rw [granted expected serverCaps uuid inbox helloEnv hello authEnv presents]
      exact ⟨_,rfl⟩
  · intro expected serverCaps uuid inbox absent
    generalize result : outcome (accept v expected serverCaps uuid) inbox = pair
    have verdict := accept_verdict v expected serverCaps uuid inbox
    rw [result] at verdict
    cases verdict with
    | accepted helloEnv hello authEnv auth rest greeted version presented matched =>
      rw [(takes auth expected).mp matched] at presented
      exact absurd ⟨helloEnv,hello,authEnv,rest,rfl,greeted,version,presented⟩ absent
    | _ => exact ⟨⟨_,rfl⟩,by simp [helloAckTo,errorTo]⟩
  · intro expected serverCaps uuid inbox env culprit
    generalize result : outcome (accept v expected serverCaps uuid) inbox = pair
    have verdict := accept_verdict v expected serverCaps uuid inbox
    rw [result] at verdict
    -- the envelope at fault is the one the verdict answers; every other verdict contradicts it
    rcases culprit with ⟨rest,rfl,bad⟩ | ⟨first,greeting,rest,rfl,greeted,version,bad⟩
    · cases verdict with
      | notHello _ _ error body wrong => exact ⟨[],body,rfl,by simp⟩
      | lostHello _ error lost => exact absurd rfl (lost env rest)
      | lostAuth _ hello _ error greeted version lost => exact absurd version (bad hello greeted)
      | notAuth _ hello _ _ error body greeted version wrong => exact absurd version (bad hello greeted)
      | accepted _ hello _ _ _ greeted version => exact absurd version (bad hello greeted)
    · cases verdict with
      | notAuth _ hello _ _ error body _ _ wrong => exact ⟨[_],body,rfl,by simp [helloAckTo]⟩
      | lostHello _ error lost => exact absurd rfl (lost first _)
      | notHello _ _ error body wrong => exact absurd version (wrong greeting greeted)
      | lostAuth _ hello _ error _ _ lost => exact absurd rfl (lost env rest)
      | accepted _ hello _ auth _ _ _ presented matched =>
        rw [(takes auth expected).mp matched] at presented
        exact absurd presented bad

def swapAuth : Auth → Auth
  | .token string => .pairingKey string
  | .pairingKey string => .token string

def swapEnvelope (env : ControlEnvelope) : ControlEnvelope :=
  match env.body with
  | .auth auth => {env with body := .auth (swapAuth auth)}
  | _ => env

def swapRecv : Recv → Recv
  | .envelope env => .envelope (swapEnvelope env)
  | .failed error => .failed error
  | .timeout => .timeout

def eraseText (env : ControlEnvelope) : ControlEnvelope :=
  match env.body with
  | .error body => {env with body := .error {body with message := ""}}
  | _ => env

/-- Streams on which the two copies are to agree: the same future but for the AUTH
variants, the same past but for the texts of the errors. -/
def Swapped (usb wifi : Wire) : Prop :=
  wifi.inbox = usb.inbox.map swapRecv ∧ wifi.sendResult = usb.sendResult ∧
    wifi.sent.map eraseText = usb.sent.map eraseText

theorem recv_lockstep :
    Lockstep Swapped (fun a b => b = swapEnvelope a) recvTimeout recvTimeout := by
  intro usb wifi swapped
  rcases usb with ⟨inbox,results,sent⟩
  rcases wifi with ⟨_,_,sent'⟩
  rcases swapped with ⟨future,answers,past⟩
  dsimp only at future answers past
  subst future answers
  cases inbox with
  | nil => exact ⟨rfl,rfl,rfl,past⟩
  | cons r rest => cases r <;> exact ⟨rfl,rfl,rfl,past⟩

theorem send_lockstep (a b : ControlEnvelope) (same : eraseText b = eraseText a) :
    Lockstep Swapped (fun _ _ => True) (send a) (send b) := by
  intro usb wifi swapped
  rcases usb with ⟨inbox,results,sent⟩
  rcases wifi with ⟨inbox',results',sent'⟩
  rcases swapped with ⟨future,answers,past⟩
  dsimp only at future answers past
  subst future answers
  have length : sent'.length = sent.length := by simpa using congrArg List.length past
  simp only [send,EStateM.run,length]
  cases results' sent.length with
  | some error => exact ⟨rfl,rfl,rfl,past⟩
  | none => exact ⟨trivial,rfl,rfl,by simp [past,same]⟩

theorem refusal_lockstep {α β γ δ : Type} {A : α → β → Prop} (ack : UInt64) (code : ErrorCode)
    (text text' : String) (error : SessionError) (f : γ → Handshake α) (g : δ → Handshake β) :
    Lockstep Swapped A (sendError ack code text >>= fun _ => throw error >>= f)
      (sendError ack code text' >>= fun _ => throw error >>= g) := by
  refine Lockstep.bind (send_lockstep _ _ ?_) fun _ _ _ => Lockstep.fail _ _ _
  rfl

theorem authorise_lockstep (expected uuid : String) (hello : Hello) (a b : ControlEnvelope)
    (auth : Auth) (seq : b.seq = a.seq) :
    Lockstep Swapped (· = ·) (authorise .usb expected uuid hello a auth)
      (authorise .wifi expected uuid hello b (swapAuth auth)) := by
  unfold authorise
  rw [seq]
  cases auth with
  | token string =>
    simp only [Variant.usb,Variant.wifi,swapAuth]
    exact refusal_lockstep _ _ _ _ _ _ _
  | pairingKey string =>
    simp only [Variant.usb,Variant.wifi,swapAuth,pure_bind]
    by_cases wrong : string ≠ expected
    · rw [if_pos wrong,if_pos wrong]
      exact refusal_lockstep _ _ _ _ _ _ _
    · rw [if_neg wrong,if_neg wrong]
      exact (send_lockstep _ _ rfl).bind fun _ _ _ => Lockstep.pure _ _ rfl

theorem awaitAuth_lockstep (expected uuid : String) (hello : Hello) :
    Lockstep Swapped (· = ·) (awaitAuth .usb expected uuid hello) (awaitAuth .wifi expected uuid hello) := by
  refine recv_lockstep.bind ?_
  intro env _ same
  rcases env with ⟨seq,ack,body⟩
  subst same
  cases body with
  | auth auth => exact authorise_lockstep expected uuid hello _ _ auth rfl
  | _ => exact refusal_lockstep _ _ _ _ _ pure pure

theorem accept_lockstep (expected : String) (serverCaps : List Capability) (uuid : String) :
    Lockstep Swapped (· = ·) (accept .usb expected serverCaps uuid) (accept .wifi expected serverCaps uuid) := by
  refine recv_lockstep.bind ?_
  intro env _ same
  rcases env with ⟨seq,ack,body⟩
  subst same
  cases body with
  | hello hello =>
    simp only [swapEnvelope,pure_bind]
    by_cases version : hello.protoVer ≠ protoVer
    · rw [if_pos version,if_pos version]
      exact refusal_lockstep _ _ _ _ _ _ _
    · rw [if_neg version,if_neg version]
      exact (send_lockstep _ _ rfl).bind fun _ _ _ => awaitAuth_lockstep expected uuid hello
  | _ => exact refusal_lockstep _ _ _ _ _ _ _

theorem acceptControl_correct : HandshakeCorrect acceptControl .token := by
  have same : acceptControl = accept .wifi := by
    funext expected serverCaps uuid
    exact acceptControl_eq expected serverCaps uuid
  rw [same]
  apply accept_correct .wifi .token
  intro auth presented
  cases auth <;> simp [Variant.wifi]

theorem acceptControlUsb_correct : HandshakeCorrect acceptControlUsb .pairingKey := by
  have same : acceptControlUsb = accept .usb := by
    funext expected serverCaps uuid
    exact acceptControlUsb_eq expected serverCaps uuid
  rw [same]
  apply accept_correct .usb .pairingKey
  intro auth presented
  cases auth <;> simp [Variant.usb]

theorem accept_returns (v : Variant) (expected : String) (serverCaps : List Capability) (uuid : String) :
    Returns (accept v expected serverCaps uuid) fun session =>
      session.sessionId = "sess-" ++ uuid ∧ session.token = expected := by
  have authorised (hello : Hello) (env : ControlEnvelope) (auth : Auth) :
      Returns (authorise v expected uuid hello env auth) fun session =>
        session.sessionId = "sess-" ++ uuid ∧ session.token = expected := by
    unfold authorise
    cases v.credential auth with
    | error text => exact Returns.bind fun _ => Returns.fail _ _
    | ok presented =>
      simp only [pure_bind]
      by_cases wrong : presented ≠ expected
      · rw [if_pos wrong]
        exact Returns.bind fun _ => Returns.fail _ _
      · rw [if_neg wrong]
        exact Returns.bind fun _ => Returns.pure _ ⟨rfl,Decidable.not_not.mp wrong⟩
  have awaited (hello : Hello) : Returns (awaitAuth v expected uuid hello) fun session =>
      session.sessionId = "sess-" ++ uuid ∧ session.token = expected := by
    refine Returns.bind fun env => ?_
    cases env.body with
    | auth auth => exact authorised hello env auth
    | _ => exact Returns.bind fun _ => Returns.fail _ pure
  refine Returns.bind fun env => ?_
  dsimp only
  cases env.body with
  | hello hello =>
    simp only [pure_bind]
    by_cases version : hello.protoVer ≠ protoVer
    · rw [if_pos version]
      exact Returns.bind fun _ => Returns.fail _ _
    · rw [if_neg version]
      exact Returns.bind fun _ => awaited hello
  | _ => exact Returns.bind fun _ => Returns.fail _ _

/-- Both copies obey the handshake law, each for its own AUTH variant, and stay in step
with each other. -/
theorem handshake_sound_complete_agree :
    HandshakeCorrect acceptControl .token ∧ HandshakeCorrect acceptControlUsb .pairingKey ∧
      ∀ expected serverCaps uuid, Lockstep Swapped (· = ·) (acceptControlUsb expected serverCaps uuid)
        (acceptControl expected serverCaps uuid) := by
  refine ⟨acceptControl_correct,acceptControlUsb_correct,?_⟩
  intro expected serverCaps uuid
  rw [acceptControl_eq,acceptControlUsb_eq]
  exact accept_lockstep expected serverCaps uuid

end ClearCam.Session
