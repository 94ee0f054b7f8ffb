import ClearCam.Pairing.Agreement
import ClearCam.Session.Desk
import ClearCam.Ios.PhoneRun

/-! A phone and a desktop on one control connection, in any interleaving of their steps: what each side
may conclude about the other, and what becomes of the commands and reports between them. -/
namespace ClearCam.App
open ClearCam.Protocol ClearCam.Session ClearCam.Ios ClearCam.Library ClearCam.Pairing

/-- What `connect(credential:)` is called with. -/
inductive AuthCredential where
  | token (token : String)
  | pairingKey (key : PairingKey)

namespace AuthCredential

def wireToken : AuthCredential → String
  | .token t => t
  | .pairingKey k => k.base64NoPad

def authBody : AuthCredential → Auth
  | .token t => .token t
  | .pairingKey k => .pairingKey k.base64NoPad

end AuthCredential

def presenting (launch : Launch) (credential : AuthCredential) : Launch :=
  { launch with authBody := credential.authBody, wireToken := credential.wireToken }

abbrev Conversation := Duplex SessionController Desk

abbrev Conversation.Turn := Duplex.Turn PhoneEvent DeskEvent

namespace Conversation

def start (launch : Launch) : Conversation := Duplex.start (.start launch) .start

def step (launch : Launch) (terms : Terms) : Conversation → Conversation.Turn → Option Conversation :=
  Duplex.step (phone launch) (desk terms)

/-- Both ends after a run of the two, and what each has read of the other's. -/
structure Told (launch : Launch) (terms : Terms) (link : Conversation) (turns : List Conversation.Turn) :
    Prop where
  phone : Ios.Ran launch link.left (Duplex.lefts turns)
  desk : link.right.Ran terms (Duplex.rights turns)
  phoneHeard : (Ios.phone launch).heard (Duplex.lefts turns) = link.right.wrote.take link.leftRead
  deskHeard : (Session.desk terms).heard (Duplex.rights turns) = link.left.core.sent.take link.rightRead

theorem run_told (launch : Launch) (terms : Terms) (turns : List Conversation.Turn) (link : Conversation)
    (run : exec (step launch terms) (start launch) turns = some link) : Told launch terms link turns := by
  have projects := Duplex.run_projects (phone launch) (desk terms) (.start launch) .start link turns run
  exact ⟨SessionController.run_ran launch link.left _ projects.left,Desk.run_ran terms link.right _ projects.right,
    projects.leftHeard,projects.rightHeard⟩

theorem Told.heardByPhone (launch : Launch) (terms : Terms) (link : Conversation)
    (turns : List Conversation.Turn) (told : Told launch terms link turns) :
    (Ios.phone launch).heard (Duplex.lefts turns) <+: link.right.wrote := by
  rw [told.phoneHeard]
  exact List.take_prefix _ _

theorem Told.heardByDesk (launch : Launch) (terms : Terms) (link : Conversation)
    (turns : List Conversation.Turn) (told : Told launch terms link turns) :
    (Session.desk terms).heard (Duplex.rights turns) <+: link.left.core.sent := by
  rw [told.deskHeard]
  exact List.take_prefix _ _

end Conversation

/-- A desktop whose second message is AUTH_OK has accepted a session, and named it there. -/
theorem second_authOk (terms : Terms) (s : Desk) (read : List ControlEnvelope) (ack resp : ControlEnvelope)
    (rest : List ControlEnvelope) (sid : String) (greeted : Greeted terms s.greeted read)
    (wrote : ack :: resp :: rest <+: s.wrote) (body : resp.body = .authOk ⟨sid⟩) :
    sid = terms.sessionId ∧ ∃ session, s.greeted.stage = .accepted session := by
  have unserved (stage : ∀ session, s.greeted.stage ≠ .accepted session) : s.written = [] := by
    cases s with
    | handshaking greeting => rfl
    | serving session sent plane published => exact absurd rfl (stage session)
  unfold Desk.wrote at wrote
  generalize s.greeted = greeting at greeted wrote unserved
  cases greeted with
  | awaitingHello =>
    rw [unserved (fun _ same => by cases same)] at wrote
    have short := wrote.length_le
    simp [Greeting.start] at short
  | awaitingAuth helloEnv hello greets version =>
    rw [unserved (fun _ same => by cases same)] at wrote
    have short := wrote.length_le
    simp at short
  | accepted helloEnv authEnv hello auth greets version presents matched =>
    obtain ⟨more,same⟩ := wrote
    simp only [List.cons_append,List.cons.injEq] at same
    obtain ⟨_,rfl,_⟩ := same
    cases body
    exact ⟨rfl,_,rfl⟩
  | refused error sent read unaccepted =>
    rw [unserved (fun _ same => by cases same),List.append_nil] at wrote
    have member : resp ∈ sent := wrote.subset (by simp)
    rcases unaccepted resp member with ⟨caps,other⟩ | ⟨error,other⟩
    · rw [other] at body
      cases body
    · rw [other] at body
      cases body

/-- What the two ends of a connection agree on. -/
structure Agreed (launch : Launch) (credential : AuthCredential) (terms : Terms) (link : Conversation) : Prop where
  desk : ∀ session, link.right.greeted.stage = .accepted session →
    terms.variant.credential credential.authBody = .ok terms.expected ∧
      session = ⟨terms.sessionId,credential.wireToken,launch.hello⟩
  phone : ∀ sid, link.left.sessionId = some sid →
    sid = terms.sessionId ∧ ∃ session, link.right.greeted.stage = .accepted session
  media : ∀ env ∈ link.left.mediaSent, ∃ session, link.right.greeted.stage = .accepted session ∧
    readMediaHello (.envelope env) = .ok ⟨session.sessionId,session.token⟩

theorem credential_wireToken (terms : Terms) (credential : AuthCredential)
    (matched : terms.variant.credential credential.authBody = .ok terms.expected) :
    credential.wireToken = terms.expected := by
  obtain ⟨transport,expected,serverCaps,uuid⟩ := terms
  cases transport with
  | wifi =>
    cases credential with
    | token token => exact Except.ok.inj matched
    | pairingKey key => cases matched
  | usb =>
    cases credential with
    | token token => cases matched
    | pairingKey key => exact Except.ok.inj matched

/-- In every interleaving of a phone and a desktop, with any sends and receives that fail: a desktop
that accepted did so on this phone's HELLO and credential, a phone that has a session has the one that
was accepted, and the MEDIA_HELLO it sends is the binding of that session. -/
theorem handshake_agreement (launch : Launch) (credential : AuthCredential) (terms : Terms)
    (turns : List Conversation.Turn) (link : Conversation)
    (run : exec (Conversation.step (presenting launch credential) terms)
      (Conversation.start (presenting launch credential)) turns = some link) :
    Agreed launch credential terms link := by
  have told := Conversation.run_told _ terms turns link run
  obtain ⟨read,greeted,split⟩ := told.desk.heard
  have accepts : ∀ session, link.right.greeted.stage = .accepted session →
      terms.variant.credential credential.authBody = .ok terms.expected ∧
        session = ⟨terms.sessionId,credential.wireToken,launch.hello⟩ := by
    intro session accepted
    have heard := told.heardByDesk
    rw [split] at heard
    generalize link.right.greeted = greeting at greeted accepted
    cases greeted with
    | accepted helloEnv authEnv hello auth greets version presents matched =>
      cases accepted
      have first := told.phone.offered helloEnv (heard.subset (by simp))
      have second := told.phone.offered authEnv (heard.subset (by simp))
      rw [greets] at first
      rw [presents] at second
      cases first
      cases second
      rw [credential_wireToken terms credential matched]
      exact ⟨matched,rfl⟩
    | awaitingHello => cases accepted
    | awaitingAuth => cases accepted
    | refused => cases accepted
  have grants : ∀ sid, link.left.sessionId = some sid →
      sid = terms.sessionId ∧ ∃ session, link.right.greeted.stage = .accepted session := by
    intro sid given
    obtain ⟨phoneRead,phoneHeard,phoneSplit⟩ := told.phone.heard
    have heard := told.heardByPhone
    rw [phoneSplit] at heard
    rw [given] at phoneHeard
    generalize link.left.connect.phase = phase at phoneHeard
    cases phoneHeard with
    | granted ack resp _ body => exact second_authOk terms link.right read ack resp _ sid greeted heard body
    | threwGranted ack resp _ body => exact second_authOk terms link.right read ack resp _ sid greeted heard body
  refine ⟨accepts,grants,?_⟩
  intro env member
  obtain ⟨sid,given,rfl⟩ := told.phone.media env member
  obtain ⟨rfl,session,accepted⟩ := grants sid given
  refine ⟨session,accepted,?_⟩
  obtain ⟨_,rfl⟩ := accepts session accepted
  rfl

def greetedHello : ControlEnvelope := ⟨1,none,.hello samplePhone.hello⟩

def offeredAuth : ControlEnvelope := ⟨2,none,.auth (.token "secret")⟩

def wifiTerms : Terms := ⟨.wifi,"secret",[.hevc,.h264,.rawNv12],"u"⟩

/-- A Wi-Fi handshake up to the MEDIA_HELLO. -/
def wifiTurns : List Conversation.Turn :=
  [.left (.session .connectCalled),.left (.session (.sent (.ok ()))),.right (.greeted (.envelope greetedHello) none),
    .left (.session (.received (.ok (helloAckTo wifiTerms.serverCaps greetedHello samplePhone.hello)))),
    .left (.session (.sent (.ok ()))),.right (.greeted (.envelope offeredAuth) none),
    .left (.session (.received (.ok ⟨1,some 2,.authOk ⟨"sess-u"⟩⟩))),.left (.session (.sent (.ok ())))]

theorem handshake_agreement_wifi : ∃ link,
    exec (Conversation.step (presenting samplePhone (.token "secret")) wifiTerms)
      (Conversation.start (presenting samplePhone (.token "secret"))) wifiTurns = some link ∧
    link.left.mediaSent = [⟨0,none,.mediaHello ⟨"sess-u","secret"⟩⟩] ∧
    Agreed samplePhone (.token "secret") wifiTerms link := by
  have reached : (exec (Conversation.step (presenting samplePhone (.token "secret")) wifiTerms)
      (Conversation.start (presenting samplePhone (.token "secret"))) wifiTurns).map (fun link => link.left.mediaSent) =
      some [⟨0,none,.mediaHello ⟨"sess-u","secret"⟩⟩] := rfl
  obtain ⟨link,run,sent⟩ := Option.map_eq_some_iff.mp reached
  exact ⟨link,run,sent,handshake_agreement samplePhone (.token "secret") wifiTerms wifiTurns link run⟩

/-- A session's desktop has sent its two replies before its plane writes. -/
theorem accepted_sent (terms : Terms) (s : Desk) (read : List ControlEnvelope) (session : AcceptedSession)
    (greeted : Greeted terms s.greeted read) (accepted : s.greeted.stage = .accepted session) :
    ∃ ack resp, s.greeted.sent = [ack,resp] := by
  generalize s.greeted = greeting at greeted accepted
  cases greeted with
  | accepted => exact ⟨_,_,rfl⟩
  | awaitingHello => cases accepted
  | awaitingAuth => cases accepted
  | refused => cases accepted

theorem unaccepted_written (s : Desk) (unaccepted : ¬∃ session, s.greeted.stage = .accepted session) :
    s.written = [] := by
  cases s with
  | handshaking greeting => rfl
  | serving session sent plane published => exact absurd ⟨session,rfl⟩ unaccepted

namespace Conversation.Told

variable {launch : Launch} {terms : Terms} {link : Conversation} {turns : List Conversation.Turn}

/-- The pump reads what the plane writes, and nothing else. -/
theorem pumped (told : Told launch terms link turns) :
    (pumpReads (Duplex.lefts turns)).map Prod.fst <+: link.right.written := by
  by_cases nothing : pumpReads (Duplex.lefts turns) = []
  · rw [nothing]
    exact List.nil_prefix
  · have returned : link.left.connect.hasReturned = true := by
      cases returned : link.left.connect.hasReturned with
      | true => rfl
      | false => exact absurd (told.phone.idle returned) nothing
    obtain ⟨deskRead,greeted,_⟩ := told.desk.heard
    obtain ⟨read,phoneHeard,split⟩ := told.phone.heard
    have heard := told.heardByPhone
    rw [split] at heard
    cases call : link.left.connect with
    | returned sid =>
      rw [call] at phoneHeard
      generalize link.left.sessionId = sessionId at phoneHeard
      cases phoneHeard with
      | granted ack resp _ body =>
        obtain ⟨_,session,accepted⟩ := second_authOk terms link.right deskRead ack resp _ sid greeted heard body
        obtain ⟨first,second,sent⟩ := accepted_sent terms link.right deskRead session greeted accepted
        rw [Desk.wrote,sent] at heard
        exact (List.prefix_append_right_inj [_,_]).mp (by
          have heads := List.cons_prefix_cons.mp heard
          obtain ⟨rfl,rest⟩ := heads
          obtain ⟨rfl,_⟩ := List.cons_prefix_cons.mp rest
          exact heard)
    | _ =>
      rw [call] at returned
      cases returned

/-- Once the phone has read all that was written, its pump has read all that the plane wrote. -/
theorem pumped_all (told : Told launch terms link turns) (all : link.leftRead = link.right.wrote.length) :
    (pumpReads (Duplex.lefts turns)).map Prod.fst = link.right.written := by
  refine told.pumped.eq_of_length_le ?_
  by_cases accepted : ∃ session, link.right.greeted.stage = .accepted session
  · obtain ⟨session,accepted⟩ := accepted
    obtain ⟨deskRead,greeted,_⟩ := told.desk.heard
    obtain ⟨first,second,sent⟩ := accepted_sent terms link.right deskRead session greeted accepted
    obtain ⟨read,phoneHeard,split⟩ := told.phone.heard
    have whole := told.phoneHeard
    rw [all,List.take_length,split,Desk.wrote,sent] at whole
    have lengths := congrArg List.length whole
    have short := phoneHeard.short
    simp only [List.length_append,List.length_cons,List.length_nil] at lengths
    omega
  · rw [unaccepted_written link.right accepted]
    exact Nat.zero_le _

end Conversation.Told

def cameraId : ControlMessage → Option String
  | .setCamera sc => some sc.cameraId
  | _ => none

theorem cameraId_commands (bodies : List ControlMessage) : (commands bodies).filterMap cameraId = bodies.filterMap cameraId := by
  induction bodies with
  | nil => rfl
  | cons body rest ih =>
    rw [commands,List.filter_cons]
    cases body with
    | ping p => exact ih
    | pong p => exact ih
    | setCamera sc => exact congrArg (sc.cameraId :: ·) ih
    | _ => exact ih

theorem switches_map (reads : List (ControlEnvelope × PumpInput)) :
    (reads.filterMap fun read => Pump.switch true read.1) =
      ((reads.map Prod.fst).map ControlEnvelope.body).filterMap cameraId := by
  rw [List.map_map,List.filterMap_map]
  apply List.filterMap_congr
  intro read _
  obtain ⟨⟨seq,ack,body⟩,input⟩ := read
  cases body with
  | _ => rfl

theorem prefix_filterMap {α β : Type} (f : α → Option β) (first second : List α) (front : first <+: second) :
    first.filterMap f <+: second.filterMap f := by
  obtain ⟨rest,rfl⟩ := front
  rw [List.filterMap_append]
  exact List.prefix_append _ _

def filmingPhone : Launch := { samplePhone with captureEngine := true }

def idleChannels : Channels := ⟨⟨.idle,none,none⟩,[]⟩

/-- The handshake, one camera switch, and what the phone reports and answers. -/
def filmedTurns : List Conversation.Turn :=
  wifiTurns ++ [.left (.session (.sent (.ok ()))),.right (.spawned idleChannels 0 none),
    .right (.turned idleChannels (.outbound (some (.setCamera ⟨"back"⟩)) none)),
    .left (.session (.pumpReceived (.ok ⟨101,none,.setCamera ⟨"back"⟩⟩) ⟨none,true,true,0,0⟩)),
    .right (.turned idleChannels (.recv 1 1 none (.ok ⟨3,none,.deviceInfo samplePhone.snapshot⟩))),
    .right (.turned idleChannels (.recv 2 2 none (.ok ⟨4,some 101,.cameraState ⟨"back","raw nv12"⟩⟩)))]

theorem filmed_reached : ∃ link,
    exec (Conversation.step filmingPhone wifiTerms) (Conversation.start filmingPhone) filmedTurns = some link ∧
      (link.left.core.cameraSwitches,link.right.running,link.leftRead,link.right.wrote.length) = (["back"],true,3,3) ∧
      link.right.published = [.stateChanged (.ready (some .wifi)),
        .deviceInfo (.fromDeviceInfo samplePhone.snapshot),.stateChanged (.ready (some .wifi))] := by
  have reached : (exec (Conversation.step filmingPhone wifiTerms) (Conversation.start filmingPhone) filmedTurns).map
      (fun link => ((link.left.core.cameraSwitches,link.right.running,link.leftRead,link.right.wrote.length),
        link.right.published)) = some ((["back"],true,3,3),[.stateChanged (.ready (some .wifi)),
        .deviceInfo (.fromDeviceInfo samplePhone.snapshot),.stateChanged (.ready (some .wifi))]) := rfl
  obtain ⟨link,run,seen⟩ := Option.map_eq_some_iff.mp reached
  exact ⟨link,run,congrArg Prod.fst seen,congrArg Prod.snd seen⟩

/-- A PING by its number and time, and a SET_CAMERA by its number and camera. -/
def pingOf (env : ControlEnvelope) : Option (UInt64 × UInt64) :=
  match env.body with
  | .ping ping => some (env.seq,ping.tsUsec)
  | _ => none

def setCameraOf (env : ControlEnvelope) : Option (UInt64 × String) :=
  match env.body with
  | .setCamera sc => some (env.seq,sc.cameraId)
  | _ => none

def cameraStateOf (env : ControlEnvelope) : Option (UInt64 × String) :=
  match env.ack, env.body with
  | some seq, .cameraState state => some (seq,state.activeCameraId)
  | _, _ => none

theorem filterMap_sublist {α β : Type} (f g : α → Option β) (xs : List α)
    (below : ∀ x y, f x = some y → g x = some y) : List.Sublist (xs.filterMap f) (xs.filterMap g) := by
  induction xs with
  | nil => exact .slnil
  | cons x xs ih =>
    rw [List.filterMap_cons,List.filterMap_cons]
    cases found : f x with
    | none =>
      cases g x with
      | none => exact ih
      | some y => exact ih.cons y
    | some y =>
      rw [below x y found]
      exact ih.cons_cons y

/-- The answers that a desktop reads come from the pump, in its order. -/
theorem Conversation.Told.answers {launch : Launch} {terms : Terms} {link : Conversation}
    {turns : List Conversation.Turn} (told : Told launch terms link turns) {β : Type}
    (answer : UInt64 × ControlMessage → Option β) (question : ControlEnvelope → Option β)
    (answers : ∀ read offered found, Pump.answered launch.captureEngine read = some offered →
      answer offered = some found → question read.1 = some found) :
    List.Sublist (((Session.desk terms).heard (Duplex.rights turns)).filterMap fun env => (acked env).bind answer)
      (link.right.written.filterMap question) := by
  have sent : List.Sublist
      (((Session.desk terms).heard (Duplex.rights turns)).filterMap fun env => (acked env).bind answer)
      (link.left.core.sent.filterMap fun env => (acked env).bind answer) :=
    told.heardByDesk.sublist.filterMap _
  refine sent.trans ?_
  have collected : (link.left.core.sent.filterMap fun env => (acked env).bind answer) =
      (pumpReads (Duplex.lefts turns)).filterMap fun read => (Pump.answered launch.captureEngine read).bind answer := by
    rw [← List.filterMap_filterMap,told.phone.answers,List.filterMap_filterMap]
  rw [collected]
  refine (filterMap_sublist _ (fun read => question read.1) _ ?_).trans ?_
  · intro read found given
    obtain ⟨offered,answered,same⟩ := Option.bind_eq_some_iff.mp given
    exact answers read offered found answered same
  · have mapped : ((pumpReads (Duplex.lefts turns)).filterMap fun read => question read.1) =
        ((pumpReads (Duplex.lefts turns)).map Prod.fst).filterMap question := by
      rw [List.filterMap_map]
      rfl
    rw [mapped]
    exact told.pumped.sublist.filterMap _

theorem pump_answered (captureEngine : Bool) (read : ControlEnvelope × PumpInput) (offered : UInt64 × ControlMessage)
    (answered : Pump.answered captureEngine read = some offered) :
    offered.1 = read.1.seq ∧
      ((∃ ping pong, read.1.body = .ping ping ∧ offered.2 = .pong pong ∧ pong.echoUsec = ping.tsUsec) ∨
        ∃ sc state, read.1.body = .setCamera sc ∧ offered.2 = .cameraState state ∧
          state.activeCameraId = sc.cameraId) := by
  obtain ⟨⟨seq,ack,body⟩,input⟩ := read
  unfold Pump.answered at answered
  split at answered
  · obtain ⟨reply,replied,same⟩ := Option.bind_eq_some_iff.mp answered
    unfold Pump.answer at replied
    cases body with
    | ping ping =>
      cases replied
      cases same
      exact ⟨rfl,.inl ⟨ping,_,rfl,rfl,rfl⟩⟩
    | setCamera sc =>
      dsimp only at replied
      split at replied
      · cases replied
      · cases replied
        cases same
        exact ⟨rfl,.inr ⟨sc,_,rfl,rfl,rfl⟩⟩
    | _ => cases replied
  · cases answered

/-- Each PONG and each CAMERA_STATE that the desktop reads answers a PING or a SET_CAMERA that its
plane wrote, by number and content; the answers come in the order of what they answer, and nothing is
answered twice. -/
theorem answers_match_questions (launch : Launch) (terms : Terms) (turns : List Conversation.Turn)
    (link : Conversation)
    (run : exec (Conversation.step launch terms) (Conversation.start launch) turns = some link) :
    List.Sublist (((desk terms).heard (Duplex.rights turns)).filterMap answered) (link.right.written.filterMap pingOf) ∧
      List.Sublist (((desk terms).heard (Duplex.rights turns)).filterMap cameraStateOf)
        (link.right.written.filterMap setCameraOf) := by
  have told := Conversation.run_told launch terms turns link run
  constructor
  · have same : answered = fun env => (acked env).bind fun offered => answered ⟨0,some offered.1,offered.2⟩ := by
      funext env
      obtain ⟨seq,ack,body⟩ := env
      cases ack <;> cases body <;> rfl
    rw [same]
    refine told.answers _ pingOf ?_
    intro read offered found replied given
    obtain ⟨number,⟨ping,pong,asked,answer,echo⟩ | ⟨sc,state,asked,answer,_⟩⟩ := pump_answered _ read offered replied
    · rw [answer] at given
      cases given
      rw [pingOf,asked,number,echo]
    · rw [answer] at given
      cases given
  · have same : cameraStateOf = fun env => (acked env).bind fun offered => cameraStateOf ⟨0,some offered.1,offered.2⟩ := by
      funext env
      obtain ⟨seq,ack,body⟩ := env
      cases ack <;> cases body <;> rfl
    rw [same]
    refine told.answers _ setCameraOf ?_
    intro read offered found replied given
    obtain ⟨number,⟨ping,pong,asked,answer,_⟩ | ⟨sc,state,asked,answer,active⟩⟩ := pump_answered _ read offered replied
    · rw [answer] at given
      cases given
    · rw [answer] at given
      cases given
      rw [setCameraOf,asked,number,active]

theorem answers_match_questions_filmed : ∃ link,
    exec (Conversation.step filmingPhone wifiTerms) (Conversation.start filmingPhone) filmedTurns = some link ∧
    List.Sublist [(101,"back")] (link.right.written.filterMap setCameraOf) := by
  obtain ⟨link,run,_⟩ := filmed_reached
  exact ⟨link,run,(answers_match_questions filmingPhone wifiTerms filmedTurns link run).2⟩

/-- What a desktop may publish of a phone: what the phone was launched with, and what its owner had it
send. -/
inductive Reported (launch : Launch) (events : List PhoneEvent) (transport : TransportTag) :
    ControlPlaneEvent → Prop where
  | ready : Reported launch events transport (.stateChanged (.ready (some transport)))
  | reconnecting : Reported launch events transport (.stateChanged .reconnecting)
  | ended (reason : String) (byeSent : Bool) (called : .session (.disconnectCalled reason byeSent) ∈ events) :
      Reported launch events transport (.stateChanged (.closed reason))
  | closed (reason : String) (byeSent : Bool) (called : .session (.disconnectCalled reason byeSent) ∈ events) :
      Reported launch events transport (.closed reason)
  | deviceInfo : Reported launch events transport (.deviceInfo (.fromDeviceInfo launch.snapshot))
  | cameras (device : DeviceSnapshot) (cameras : List CameraEntry) (found : launch.cameras = some cameras) :
      Reported launch events transport (.deviceInfo {device with cameras := cameras})
  | telemetry (telemetry : Telemetry) (succeeds : Bool) (called : .telemetry telemetry succeeds ∈ events) :
      Reported launch events transport (.telemetry telemetry)

end ClearCam.App
