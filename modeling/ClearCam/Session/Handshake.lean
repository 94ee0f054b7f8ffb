import ClearCam.Transport.Framing

/-! The desktop side of the control handshake, over Wi-Fi and over USB. A stream is
what the peer's next receives give, what the next sends answer and what has been
sent so far; both functions are transcribed in full, since they are two copies in
the source. -/
namespace ClearCam.Session
open ClearCam.Protocol ClearCam.Transport

inductive SessionError where
  | transport (error : TransportError)
  | handshakeTimeout
  | unauthorized
  | incompatibleProtoVer (peer localVer : UInt32)
  | unexpectedMessage (text : String)
  | unknownMediaBinding
  | mediaHandshakeTimeout
  | closed (reason : String)
  deriving DecidableEq

structure AcceptedSession where
  sessionId : String
  token : String
  hello : Hello
  deriving DecidableEq

/-- What one `timeout(HANDSHAKE_TIMEOUT, stream.recv())` gives. -/
inductive Recv where
  | envelope (env : ControlEnvelope)
  | failed (error : TransportError)
  | timeout
  deriving DecidableEq

/-- A control stream during the handshake. A peer that has used up its inbox stays
silent; `sendResult n` is the answer of the n-th send. -/
structure Wire where
  inbox : List Recv
  sendResult : Nat → Option TransportError
  sent : List ControlEnvelope

abbrev Handshake := EStateM SessionError Wire

def recvTimeout : Handshake ControlEnvelope := fun w =>
  match w.inbox with
  | [] => .error .handshakeTimeout w
  | .envelope env :: rest => .ok env {w with inbox := rest}
  | .failed error :: rest => .error (.transport error) {w with inbox := rest}
  | .timeout :: rest => .error .handshakeTimeout {w with inbox := rest}

def send (env : ControlEnvelope) : Handshake Unit := fun w =>
  match w.sendResult w.sent.length with
  | some error => .error (.transport error) w
  | none => .ok () {w with sent := w.sent ++ [env]}

def sendError (ack : UInt64) (code : ErrorCode) (message : String) : Handshake Unit :=
  send ⟨0,some ack,.error ⟨code,message⟩⟩

def acceptControl (expectedToken : String) (serverCaps : List Capability) (uuid : String) :
    Handshake AcceptedSession := do
  let helloEnv ← recvTimeout
  let hello ← match helloEnv.body with
    | .hello h => pure h
    | _ => do
      sendError helloEnv.seq .badRequest "expected HELLO"
      throw (.unexpectedMessage "expected HELLO")
  if hello.protoVer ≠ protoVer then
    sendError helloEnv.seq .incompatibleVersion "proto version mismatch"
    throw (.incompatibleProtoVer hello.protoVer protoVer)
  let agreedCaps := serverCaps.filter fun c => hello.caps.any fun h => h == c
  send ⟨0,some helloEnv.seq,.helloAck ⟨protoVer,agreedCaps⟩⟩
  let authEnv ← recvTimeout
  let auth ← match authEnv.body with
    | .auth a => pure a
    | _ => do
      sendError authEnv.seq .badRequest "expected AUTH"
      throw (.unexpectedMessage "expected AUTH")
  let presentedToken ← match auth with
    | .token token => pure token
    | .pairingKey _ => do
      sendError authEnv.seq .unauthorized "bad token"
      throw .unauthorized
  if presentedToken ≠ expectedToken then
    sendError authEnv.seq .unauthorized "bad token"
    throw .unauthorized
  let sessionId := "sess-" ++ uuid
  send ⟨1,some authEnv.seq,.authOk ⟨sessionId⟩⟩
  return ⟨sessionId,presentedToken,hello⟩

def acceptControlUsb (expectedPairingKeyB64 : String) (serverCaps : List Capability) (uuid : String) :
    Handshake AcceptedSession := do
  let helloEnv ← recvTimeout
  let hello ← match helloEnv.body with
    | .hello h => pure h
    | _ => do
      sendError helloEnv.seq .badRequest "expected HELLO"
      throw (.unexpectedMessage "expected HELLO")
  if hello.protoVer ≠ protoVer then
    sendError helloEnv.seq .incompatibleVersion "proto version mismatch"
    throw (.incompatibleProtoVer hello.protoVer protoVer)
  let agreedCaps := serverCaps.filter fun c => hello.caps.any fun h => h == c
  send ⟨0,some helloEnv.seq,.helloAck ⟨protoVer,agreedCaps⟩⟩
  let authEnv ← recvTimeout
  let auth ← match authEnv.body with
    | .auth a => pure a
    | _ => do
      sendError authEnv.seq .badRequest "expected AUTH"
      throw (.unexpectedMessage "expected AUTH")
  let presentedKey ← match auth with
    | .pairingKey pairingKey => pure pairingKey
    | .token _ => do
      sendError authEnv.seq .unauthorized "USB session requires pairingKey, not token"
      throw .unauthorized
  if presentedKey ≠ expectedPairingKeyB64 then
    sendError authEnv.seq .unauthorized "pairing key mismatch"
    throw .unauthorized
  let sessionId := "sess-" ++ uuid
  send ⟨1,some authEnv.seq,.authOk ⟨sessionId⟩⟩
  return ⟨sessionId,presentedKey,hello⟩

structure MediaBinding where
  sessionId : String
  token : String
  deriving DecidableEq

def readMediaHello : Recv → Except SessionError MediaBinding
  | .envelope env => match env.body with
    | .mediaHello hello => .ok ⟨hello.sessionId,hello.token⟩
    | _ => .error (.unexpectedMessage "expected MEDIA_HELLO")
  | .failed error => .error (.transport error)
  | .timeout => .error .mediaHandshakeTimeout

def Wire.reliable (inbox : List Recv) : Wire := ⟨inbox,fun _ => none,[]⟩

def outcome (handshake : Handshake AcceptedSession) (inbox : List Recv) :
    Except SessionError AcceptedSession × List ControlEnvelope :=
  match handshake.run (.reliable inbox) with
  | .ok session w => (.ok session,w.sent)
  | .error error w => (.error error,w.sent)

@[simp] theorem recvTimeout_run (r : Recv) (rest : List Recv) (results : Nat → Option TransportError)
    (sent : List ControlEnvelope) :
    recvTimeout.run ⟨r :: rest,results,sent⟩ = match r with
      | .envelope env => .ok env ⟨rest,results,sent⟩
      | .failed error => .error (.transport error) ⟨rest,results,sent⟩
      | .timeout => .error .handshakeTimeout ⟨rest,results,sent⟩ := by
  cases r <;> rfl

@[simp] theorem send_run (env : ControlEnvelope) (inbox : List Recv) (sent : List ControlEnvelope) :
    (send env).run ⟨inbox,fun _ => none,sent⟩ = .ok () ⟨inbox,fun _ => none,sent ++ [env]⟩ := rfl

@[simp] theorem throw_run {α : Type} (error : SessionError) (w : Wire) :
    (throw error : Handshake α).run w = .error error w := rfl

@[simp] theorem map_send_run {α : Type} (f : Unit → α) (env : ControlEnvelope) (inbox : List Recv)
    (sent : List ControlEnvelope) :
    (f <$> send env).run ⟨inbox,fun _ => none,sent⟩ = .ok (f ()) ⟨inbox,fun _ => none,sent ++ [env]⟩ := rfl

/-- What the two copies do not share: the string an AUTH presents, or the text that
refuses its variant, and the text that refuses a wrong string. -/
structure Variant where
  credential : Auth → Except String String
  mismatch : String

def Variant.wifi : Variant where
  credential
    | .token token => .ok token
    | .pairingKey _ => .error "bad token"
  mismatch := "bad token"

def Variant.usb : Variant where
  credential
    | .pairingKey pairingKey => .ok pairingKey
    | .token _ => .error "USB session requires pairingKey, not token"
  mismatch := "pairing key mismatch"

def authorise (v : Variant) (expected uuid : String) (hello : Hello) (authEnv : ControlEnvelope)
    (auth : Auth) : Handshake AcceptedSession := do
  let presented ← match v.credential auth with
    | .ok presented => pure presented
    | .error text => do
      sendError authEnv.seq .unauthorized text
      throw .unauthorized
  if presented ≠ expected then
    sendError authEnv.seq .unauthorized v.mismatch
    throw .unauthorized
  let sessionId := "sess-" ++ uuid
  send ⟨1,some authEnv.seq,.authOk ⟨sessionId⟩⟩
  return ⟨sessionId,presented,hello⟩

def awaitAuth (v : Variant) (expected uuid : String) (hello : Hello) : Handshake AcceptedSession := do
  let authEnv ← recvTimeout
  match authEnv.body with
  | .auth auth => authorise v expected uuid hello authEnv auth
  | _ => do
    sendError authEnv.seq .badRequest "expected AUTH"
    throw (.unexpectedMessage "expected AUTH")

def accept (v : Variant) (expected : String) (serverCaps : List Capability) (uuid : String) :
    Handshake AcceptedSession := do
  let helloEnv ← recvTimeout
  let hello ← match helloEnv.body with
    | .hello h => pure h
    | _ => do
      sendError helloEnv.seq .badRequest "expected HELLO"
      throw (.unexpectedMessage "expected HELLO")
  if hello.protoVer ≠ protoVer then
    sendError helloEnv.seq .incompatibleVersion "proto version mismatch"
    throw (.incompatibleProtoVer hello.protoVer protoVer)
  let agreedCaps := serverCaps.filter fun c => hello.caps.any fun h => h == c
  send ⟨0,some helloEnv.seq,.helloAck ⟨protoVer,agreedCaps⟩⟩
  awaitAuth v expected uuid hello

theorem acceptControl_eq (expected : String) (serverCaps : List Capability) (uuid : String) :
    acceptControl expected serverCaps uuid = accept .wifi expected serverCaps uuid := by
  unfold acceptControl accept
  refine bind_congr fun helloEnv => ?_
  dsimp only
  cases helloEnv.body with
  | hello hello =>
    dsimp only
    simp only [pure_bind]
    by_cases version : hello.protoVer ≠ protoVer
    · rw [if_pos version,if_pos version]
      rfl
    · rw [if_neg version,if_neg version]
      refine bind_congr fun _ => bind_congr fun authEnv => ?_
      cases authEnv.body with
      | auth auth => cases auth <;> rfl
      | _ => rfl
  | _ => rfl

theorem acceptControlUsb_eq (expected : String) (serverCaps : List Capability) (uuid : String) :
    acceptControlUsb expected serverCaps uuid = accept .usb expected serverCaps uuid := by
  unfold acceptControlUsb accept
  refine bind_congr fun helloEnv => ?_
  dsimp only
  cases helloEnv.body with
  | hello hello =>
    dsimp only
    simp only [pure_bind]
    by_cases version : hello.protoVer ≠ protoVer
    · rw [if_pos version,if_pos version]
      rfl
    · rw [if_neg version,if_neg version]
      refine bind_congr fun _ => bind_congr fun authEnv => ?_
      cases authEnv.body with
      | auth auth => cases auth <;> rfl
      | _ => rfl
  | _ => rfl

def helloAckTo (serverCaps : List Capability) (helloEnv : ControlEnvelope) (hello : Hello) : ControlEnvelope :=
  ⟨0,some helloEnv.seq,.helloAck ⟨protoVer,serverCaps.filter fun c => hello.caps.any fun h => h == c⟩⟩

def errorTo (env : ControlEnvelope) (body : ErrorMsg) : ControlEnvelope := ⟨0,some env.seq,.error body⟩

/-- Everything a handshake on a reliable stream can end in, by what was received. -/
inductive Verdict (v : Variant) (expected : String) (serverCaps : List Capability) (uuid : String) :
    List Recv → Except SessionError AcceptedSession × List ControlEnvelope → Prop where
  | lostHello (inbox : List Recv) (error : SessionError)
      (lost : ∀ env rest, inbox ≠ .envelope env :: rest) :
      Verdict v expected serverCaps uuid inbox (.error error,[])
  | notHello (env : ControlEnvelope) (rest : List Recv) (error : SessionError) (body : ErrorMsg)
      (bad : ∀ hello, env.body = .hello hello → hello.protoVer ≠ protoVer) :
      Verdict v expected serverCaps uuid (.envelope env :: rest) (.error error,[errorTo env body])
  | lostAuth (helloEnv : ControlEnvelope) (hello : Hello) (rest : List Recv) (error : SessionError)
      (greeted : helloEnv.body = .hello hello) (version : hello.protoVer = protoVer)
      (lost : ∀ env later, rest ≠ .envelope env :: later) :
      Verdict v expected serverCaps uuid (.envelope helloEnv :: rest)
        (.error error,[helloAckTo serverCaps helloEnv hello])
  | notAuth (helloEnv : ControlEnvelope) (hello : Hello) (env : ControlEnvelope) (rest : List Recv)
      (error : SessionError) (body : ErrorMsg)
      (greeted : helloEnv.body = .hello hello) (version : hello.protoVer = protoVer)
      (bad : ∀ auth, env.body = .auth auth → v.credential auth ≠ .ok expected) :
      Verdict v expected serverCaps uuid (.envelope helloEnv :: .envelope env :: rest)
        (.error error,[helloAckTo serverCaps helloEnv hello,errorTo env body])
  | accepted (helloEnv : ControlEnvelope) (hello : Hello) (env : ControlEnvelope) (auth : Auth)
      (rest : List Recv) (greeted : helloEnv.body = .hello hello) (version : hello.protoVer = protoVer)
      (presented : env.body = .auth auth) (matched : v.credential auth = .ok expected) :
      Verdict v expected serverCaps uuid (.envelope helloEnv :: .envelope env :: rest)
        (.ok ⟨"sess-" ++ uuid,expected,hello⟩,
          [helloAckTo serverCaps helloEnv hello,⟨1,some env.seq,.authOk ⟨"sess-" ++ uuid⟩⟩])

theorem accept_greeted (v : Variant) (expected : String) (serverCaps : List Capability) (uuid : String)
    (helloEnv : ControlEnvelope) (hello : Hello) (rest : List Recv)
    (greeted : helloEnv.body = .hello hello) (version : hello.protoVer = protoVer) :
    (accept v expected serverCaps uuid).run (.reliable (.envelope helloEnv :: rest)) =
      (awaitAuth v expected uuid hello).run
        ⟨rest,fun _ => none,[helloAckTo serverCaps helloEnv hello]⟩ := by
  simp [accept,Wire.reliable,greeted,version,helloAckTo]

theorem accept_not_hello (v : Variant) (expected : String) (serverCaps : List Capability) (uuid : String)
    (env : ControlEnvelope) (rest : List Recv) (bad : ∀ hello, env.body ≠ .hello hello) :
    outcome (accept v expected serverCaps uuid) (.envelope env :: rest) =
      (.error (.unexpectedMessage "expected HELLO"),[errorTo env ⟨.badRequest,"expected HELLO"⟩]) := by
  obtain ⟨seq,ack,body⟩ := env
  cases body with
  | hello hello => exact absurd rfl (bad hello)
  | _ => rfl

theorem accept_wrong_version (v : Variant) (expected : String) (serverCaps : List Capability)
    (uuid : String) (env : ControlEnvelope) (hello : Hello) (rest : List Recv)
    (greeted : env.body = .hello hello) (version : hello.protoVer ≠ protoVer) :
    outcome (accept v expected serverCaps uuid) (.envelope env :: rest) =
      (.error (.incompatibleProtoVer hello.protoVer protoVer),
        [errorTo env ⟨.incompatibleVersion,"proto version mismatch"⟩]) := by
  simp [outcome,accept,sendError,Wire.reliable,greeted,version,errorTo]

theorem accept_not_auth (v : Variant) (expected : String) (serverCaps : List Capability) (uuid : String)
    (helloEnv env : ControlEnvelope) (hello : Hello) (rest : List Recv)
    (greeted : helloEnv.body = .hello hello) (version : hello.protoVer = protoVer)
    (bad : ∀ auth, env.body ≠ .auth auth) :
    outcome (accept v expected serverCaps uuid) (.envelope helloEnv :: .envelope env :: rest) =
      (.error (.unexpectedMessage "expected AUTH"),
        [helloAckTo serverCaps helloEnv hello,errorTo env ⟨.badRequest,"expected AUTH"⟩]) := by
  rw [outcome,accept_greeted v expected serverCaps uuid helloEnv hello _ greeted version]
  obtain ⟨seq,ack,body⟩ := env
  cases body with
  | auth auth => exact absurd rfl (bad auth)
  | _ => rfl

theorem accept_granted (v : Variant) (expected : String) (serverCaps : List Capability) (uuid : String)
    (helloEnv authEnv : ControlEnvelope) (hello : Hello) (auth : Auth) (rest : List Recv)
    (greeted : helloEnv.body = .hello hello) (version : hello.protoVer = protoVer)
    (presented : authEnv.body = .auth auth) (matched : v.credential auth = .ok expected) :
    outcome (accept v expected serverCaps uuid) (.envelope helloEnv :: .envelope authEnv :: rest) =
      (.ok ⟨"sess-" ++ uuid,expected,hello⟩,
        [helloAckTo serverCaps helloEnv hello,⟨1,some authEnv.seq,.authOk ⟨"sess-" ++ uuid⟩⟩]) := by
  rw [outcome,accept_greeted v expected serverCaps uuid helloEnv hello _ greeted version]
  simp [awaitAuth,authorise,presented,matched]

theorem accept_unauthorized (v : Variant) (expected : String) (serverCaps : List Capability)
    (uuid : String) (helloEnv authEnv : ControlEnvelope) (hello : Hello) (auth : Auth) (rest : List Recv)
    (greeted : helloEnv.body = .hello hello) (version : hello.protoVer = protoVer)
    (presented : authEnv.body = .auth auth) (unmatched : v.credential auth ≠ .ok expected) :
    ∃ body, outcome (accept v expected serverCaps uuid) (.envelope helloEnv :: .envelope authEnv :: rest) =
      (.error .unauthorized,[helloAckTo serverCaps helloEnv hello,errorTo authEnv body]) := by
  rw [outcome,accept_greeted v expected serverCaps uuid helloEnv hello _ greeted version]
  cases credential : v.credential auth with
  | error text =>
    exact ⟨⟨.unauthorized,text⟩,by simp [awaitAuth,authorise,sendError,presented,credential,errorTo]⟩
  | ok given =>
    have wrong : given ≠ expected := fun same => unmatched (by rw [credential,same])
    exact ⟨⟨.unauthorized,v.mismatch⟩,by
      simp [awaitAuth,authorise,sendError,presented,credential,wrong,errorTo]⟩

theorem accept_lost_hello (v : Variant) (expected : String) (serverCaps : List Capability) (uuid : String)
    (inbox : List Recv) (lost : ∀ env rest, inbox ≠ .envelope env :: rest) :
    ∃ error, outcome (accept v expected serverCaps uuid) inbox = (.error error,[]) := by
  match inbox, lost with
  | [], _ => exact ⟨_,rfl⟩
  | .failed error :: rest, _ => exact ⟨_,rfl⟩
  | .timeout :: rest, _ => exact ⟨_,rfl⟩
  | .envelope env :: rest, lost => exact absurd rfl (lost env rest)

theorem accept_lost_auth (v : Variant) (expected : String) (serverCaps : List Capability) (uuid : String)
    (helloEnv : ControlEnvelope) (hello : Hello) (rest : List Recv)
    (greeted : helloEnv.body = .hello hello) (version : hello.protoVer = protoVer)
    (lost : ∀ env later, rest ≠ .envelope env :: later) :
    ∃ error, outcome (accept v expected serverCaps uuid) (.envelope helloEnv :: rest) =
      (.error error,[helloAckTo serverCaps helloEnv hello]) := by
  rw [outcome,accept_greeted v expected serverCaps uuid helloEnv hello _ greeted version]
  match rest, lost with
  | [], _ => exact ⟨_,rfl⟩
  | .failed error :: rest, _ => exact ⟨_,rfl⟩
  | .timeout :: rest, _ => exact ⟨_,rfl⟩
  | .envelope env :: rest, lost => exact absurd rfl (lost env rest)

theorem accept_verdict (v : Variant) (expected : String) (serverCaps : List Capability) (uuid : String)
    (inbox : List Recv) :
    Verdict v expected serverCaps uuid inbox (outcome (accept v expected serverCaps uuid) inbox) := by
  by_cases received : ∃ env rest, inbox = .envelope env :: rest
  · obtain ⟨helloEnv,rest,rfl⟩ := received
    by_cases greeting : ∃ hello, helloEnv.body = .hello hello
    · obtain ⟨hello,greeted⟩ := greeting
      by_cases version : hello.protoVer = protoVer
      · by_cases answered : ∃ env later, rest = .envelope env :: later
        · obtain ⟨authEnv,later,rfl⟩ := answered
          by_cases offered : ∃ auth, authEnv.body = .auth auth
          · obtain ⟨auth,presented⟩ := offered
            by_cases matched : v.credential auth = .ok expected
            · rw [accept_granted v expected serverCaps uuid helloEnv authEnv hello auth later greeted version
                presented matched]
              exact .accepted helloEnv hello authEnv auth later greeted version presented matched
            · obtain ⟨body,refused⟩ := accept_unauthorized v expected serverCaps uuid helloEnv authEnv hello
                auth later greeted version presented matched
              rw [refused]
              refine .notAuth helloEnv hello authEnv later _ body greeted version ?_
              intro other second
              have same : auth = other := by simpa [presented] using second
              rw [← same]
              exact matched
          · rw [accept_not_auth v expected serverCaps uuid helloEnv authEnv hello later greeted version
              (fun auth body => offered ⟨auth,body⟩)]
            exact .notAuth helloEnv hello authEnv later _ _ greeted version
              (fun auth body => absurd ⟨auth,body⟩ offered)
        · have lost : ∀ env later, rest ≠ .envelope env :: later :=
            fun env later same => answered ⟨env,later,same⟩
          obtain ⟨error,ended⟩ := accept_lost_auth v expected serverCaps uuid helloEnv hello rest greeted
            version lost
          rw [ended]
          exact .lostAuth helloEnv hello rest error greeted version lost
      · rw [accept_wrong_version v expected serverCaps uuid helloEnv hello rest greeted version]
        refine .notHello helloEnv rest _ _ ?_
        intro other first
        have same : hello = other := by simpa [greeted] using first
        rw [← same]
        exact version
    · rw [accept_not_hello v expected serverCaps uuid helloEnv rest
        (fun hello body => greeting ⟨hello,body⟩)]
      exact .notHello helloEnv rest _ _ (fun hello body => absurd ⟨hello,body⟩ greeting)
  · have lost : ∀ env rest, inbox ≠ .envelope env :: rest := fun env rest same => received ⟨env,rest,same⟩
    obtain ⟨error,ended⟩ := accept_lost_hello v expected serverCaps uuid inbox lost
    rw [ended]
    exact .lostHello inbox error lost

end ClearCam.Session
