import ClearCam.Ios.Phone

/-! What a run of the phone's end has read, sent and told its engine. -/
namespace ClearCam.Ios
open ClearCam.Library ClearCam.Protocol

/-- The messages a phone can have offered in a run: what it was launched with, answers, and what its
owner had it send. -/
inductive Offerable (launch : Launch) (events : List PhoneEvent) : ControlMessage → Prop where
  | hello : Offerable launch events (.hello launch.hello)
  | auth : Offerable launch events (.auth launch.authBody)
  | deviceInfo : Offerable launch events (.deviceInfo launch.snapshot)
  | cameraList (cameras : List CameraEntry) (found : launch.cameras = some cameras) :
      Offerable launch events (.cameraList ⟨cameras⟩)
  | pong (body : Pong) : Offerable launch events (.pong body)
  | cameraState (body : CameraState) : Offerable launch events (.cameraState body)
  | telemetry (body : Telemetry) (succeeds : Bool) (called : .telemetry body succeeds ∈ events) :
      Offerable launch events (.telemetry body)
  | bye (reason : String) (byeSent : Bool) (called : .session (.disconnectCalled reason byeSent) ∈ events) :
      Offerable launch events (.bye ⟨reason⟩)

theorem Offerable.mono (launch : Launch) (events more : List PhoneEvent) (body : ControlMessage)
    (offerable : Offerable launch events body) : Offerable launch (events ++ more) body := by
  cases offerable with
  | hello => exact .hello
  | auth => exact .auth
  | deviceInfo => exact .deviceInfo
  | cameraList cameras found => exact .cameraList cameras found
  | pong body => exact .pong body
  | cameraState body => exact .cameraState body
  | telemetry body succeeds called => exact .telemetry body succeeds (List.mem_append_left more called)
  | bye reason byeSent called => exact .bye reason byeSent (List.mem_append_left more called)

theorem Pump.answer_offerable (launch : Launch) (events : List PhoneEvent) (captureEngine : Bool)
    (env : ControlEnvelope) (input : PumpInput) (ack : Option UInt64) (body : ControlMessage)
    (answered : Pump.answer captureEngine env input = some (ack,body)) : Offerable launch events body := by
  unfold Pump.answer at answered
  split at answered
  · cases answered
    exact .pong _
  · split at answered
    · cases answered
    · cases answered
      exact .cameraState _
  · cases answered

/-- What `connect` has read, by its phase. -/
inductive ReadByConnect : Phase → Option String → List ControlEnvelope → Prop where
  | greeting : ReadByConnect .greeting none []
  | acked (ack : ControlEnvelope) (caps : HelloAck) (body : ack.body = .helloAck caps) : ReadByConnect .acked none [ack]
  | granted (ack resp : ControlEnvelope) (sid : String) (body : resp.body = .authOk ⟨sid⟩) :
      ReadByConnect (.granted sid) (some sid) [ack,resp]
  | threw (read : List ControlEnvelope) (short : read.length ≤ 2) : ReadByConnect .threw none read
  | threwGranted (ack resp : ControlEnvelope) (sid : String) (body : resp.body = .authOk ⟨sid⟩) :
      ReadByConnect .threw (some sid) [ack,resp]

/-- An end of the handshake is reached only with what was read before it. -/
theorem ReadByConnect.threwAt (phase : Phase) (session : Option String) (read : List ControlEnvelope)
    (heard : ReadByConnect phase session read) : ReadByConnect .threw session read := by
  cases heard with
  | greeting => exact .threw [] (Nat.zero_le _)
  | acked ack caps body => exact .threw [ack] (Nat.le_succ _)
  | granted ack resp sid body => exact .threwGranted ack resp sid body
  | threw read short => exact .threw read short
  | threwGranted ack resp sid body => exact .threwGranted ack resp sid body

theorem ReadByConnect.short (phase : Phase) (session : Option String) (read : List ControlEnvelope)
    (heard : ReadByConnect phase session read) : read.length ≤ 2 := by
  cases heard with
  | greeting => exact Nat.zero_le _
  | acked ack caps body => exact Nat.le_succ _
  | granted ack resp sid body => exact Nat.le_refl _
  | threw read short => exact short
  | threwGranted ack resp sid body => exact Nat.le_refl _

theorem ReadByConnect.fresh (phase : Phase) (session : Option String) (read : List ControlEnvelope)
    (heard : ReadByConnect phase session read) (early : phase = .greeting ∨ phase = .acked) : session = none := by
  cases heard with
  | greeting => rfl
  | acked ack caps body => rfl
  | threw read short => rfl
  | granted ack resp sid body => rcases early with early | early <;> cases early
  | threwGranted ack resp sid body => rcases early with early | early <;> cases early

theorem Connect.unreturned_of_early (connect : Connect)
    (early : connect.phase = .greeting ∨ connect.phase = .acked) : connect.hasReturned = false := by
  cases connect with
  | returned sid => rcases early with early | early <;> cases early
  | _ => rfl

def pumpReads (events : List PhoneEvent) : List (ControlEnvelope × PumpInput) := events.filterMap PhoneEvent.pumped

theorem pumpReads_append (before after : List PhoneEvent) :
    pumpReads (before ++ after) = pumpReads before ++ pumpReads after := by
  exact List.filterMap_append

theorem PhoneEvent.unpumped_of_unread (event : PhoneEvent) (unread : event.reads = none) : event.pumped = none := by
  cases event with
  | telemetry telemetry succeeds => rfl
  | session event =>
    rcases event with _ | _ | _ | _ | ⟨outcome | env,input⟩ | _ | _
    all_goals first
      | rfl
      | cases unread

theorem PhoneEvent.pumpReads_unread (events : List PhoneEvent) (event : PhoneEvent) (unread : event.reads = none) :
    pumpReads (events ++ [event]) = pumpReads events := by
  rw [pumpReads_append]
  simp [pumpReads,event.unpumped_of_unread unread]

/-- The engine is told to switch by what the pump reads. -/
theorem SessionController.switches_eq (s : SessionController) (event : PhoneEvent) :
    (s.switches event).toList = (pumpReads [event]).filterMap fun read => Pump.switch s.core.captureEngine read.1 := by
  cases event with
  | telemetry telemetry succeeds => rfl
  | session event =>
    rcases event with _ | _ | _ | _ | ⟨outcome | env,input⟩ | _ | _
    all_goals rfl

theorem ReadByConnect.session (session : Option String) (sid : String) (read : List ControlEnvelope)
    (heard : ReadByConnect (.granted sid) session read) : session = some sid := by
  cases heard
  rfl

/-- A session once given is kept. -/
theorem Turned.keeps (s s' : SessionController) (event : PhoneEvent) (turned : Turned s event s')
    (read : List ControlEnvelope) (heard : ReadByConnect s.connect.phase s.sessionId read) (sid : String)
    (session : s.sessionId = some sid) : s'.sessionId = some sid := by
  cases turned with
  | beside phase same unread => exact same.trans session
  | pumped env input awaits read connect same => exact same.trans session
  | acked ack caps phase read body after same => exact same.trans session
  | threw under_way after same read => exact same.trans session
  | granted resp other phase read body after given =>
    have fresh := ReadByConnect.fresh _ _ _ heard (.inr phase)
    rw [fresh] at session
    cases session

/-- A message that acknowledges one of the peer's, by its number. -/
def acked (env : ControlEnvelope) : Option (UInt64 × ControlMessage) := env.ack.map fun seq => (seq,env.body)

/-- What the pump sends for what it has read. -/
def Pump.answered (captureEngine : Bool) (read : ControlEnvelope × PumpInput) : Option (UInt64 × ControlMessage) :=
  if read.2.sendSucceeds then
    (Pump.answer captureEngine read.1 read.2).bind fun offered => offered.1.map fun seq => (seq,offered.2)
  else none

/-- Only the pump's answers acknowledge anything. -/
theorem SessionController.sent_acked (launch : Launch) (s : SessionController) (event : PhoneEvent) :
    (if event.succeeds then ((s.offers launch event).map s.envelope).toList else []).filterMap acked =
      (pumpReads [event]).filterMap (Pump.answered s.core.captureEngine) := by
  cases event with
  | telemetry telemetry succeeds => cases succeeds <;> rfl
  | session event =>
    rcases event with _ | outcome | _ | _ | ⟨outcome | env,⟨payload,sendSucceeds,engineSucceeds,nowUsec,others⟩⟩ | ⟨reason,byeSent⟩ | _
    · rfl
    · cases outcome with
      | error description => rfl
      | ok _ =>
        simp only [offers,PhoneEvent.succeeds,if_true]
        cases s.connect.offers launch <;> rfl
    · rfl
    · rfl
    · cases sendSucceeds <;> rfl
    · cases sendSucceeds with
      | false => rfl
      | true =>
        simp only [offers,PhoneEvent.succeeds,pumpReads,PhoneEvent.pumped,Pump.answered,List.filterMap_cons,
          List.filterMap_nil,if_true]
        cases answered : Pump.answer s.core.captureEngine env ⟨payload,true,engineSucceeds,nowUsec,others⟩ with
        | none => rfl
        | some offered =>
          obtain ⟨ack,body⟩ := offered
          cases ack <;> rfl
    · cases byeSent <;> rfl
    · rfl

/-- A phone after a run of its own. -/
structure Ran (launch : Launch) (s : SessionController) (events : List PhoneEvent) : Prop where
  consistent : s.Consistent
  heard : ∃ read, ReadByConnect s.connect.phase s.sessionId read ∧
    (phone launch).heard events = read ++ (pumpReads events).map Prod.fst
  idle : s.connect.hasReturned = false → pumpReads events = []
  engine : s.core.captureEngine = launch.captureEngine
  switches : s.core.cameraSwitches = (pumpReads events).filterMap fun read => Pump.switch launch.captureEngine read.1
  answers : s.core.sent.filterMap acked = (pumpReads events).filterMap (Pump.answered launch.captureEngine)
  offered : ∀ env ∈ s.core.sent, Offerable launch events env.body
  listing : ∀ sid cameras, s.connect = .sendingCameraList sid cameras → launch.cameras = some cameras
  media : ∀ env ∈ s.mediaSent, ∃ sid, s.sessionId = some sid ∧ env = ⟨0,none,.mediaHello ⟨sid,launch.wireToken⟩⟩

namespace SessionController

theorem start_ran (launch : Launch) : Ran launch (start launch) [] := by
  refine ⟨(start_reflects launch).1,⟨[],.greeting,rfl⟩,fun _ => rfl,rfl,rfl,rfl,?_,?_,?_⟩
  · intro env member
    cases member
  · intro sid cameras call
    cases call
  · intro env member
    cases member

/-- The pump reads only after `connect` has returned. -/
theorem pumping_returned (s : SessionController) (consistent : s.Consistent) (awaits : s.pumping = true) :
    s.connect.hasReturned = true := by
  have started : s.pumpTask ≠ .notStarted := by
    intro idle
    simp [pumping,idle] at awaits
  cases call : s.connect with
  | returned sid => rfl
  | threw error => exact absurd (consistent.thrown error call).1 started
  | _ => exact absurd (consistent.under_way (by rw [call]; trivial)).1 started

theorem phoneStep_consistent (launch : Launch) (s s' : SessionController) (event : PhoneEvent)
    (consistent : s.Consistent) (taken : phoneStep launch s event = some s') : s'.Consistent := by
  cases event with
  | session event => exact step_consistent launch s s' event consistent taken
  | telemetry telemetry succeeds =>
    obtain rfl := Option.some.inj taken
    exact ⟨consistent.under_way,consistent.thrown⟩

/-- What a step offers, by what the phone was launched with and the step itself. -/
theorem offers_offerable (launch : Launch) (s : SessionController) (events : List PhoneEvent) (event : PhoneEvent)
    (listing : ∀ sid cameras, s.connect = .sendingCameraList sid cameras → launch.cameras = some cameras)
    (ack : Option UInt64) (body : ControlMessage) (offered : s.offers launch event = some (ack,body)) :
    Offerable launch (events ++ [event]) body := by
  have last : event ∈ events ++ [event] := List.mem_append_right events List.mem_cons_self
  cases event with
  | telemetry telemetry succeeds =>
    cases offered
    exact .telemetry telemetry succeeds last
  | session event =>
    cases event with
    | sent outcome =>
      obtain ⟨message,call,same⟩ := Option.map_eq_some_iff.mp offered
      cases same
      unfold Connect.offers at call
      split at call
      · cases call
        exact .hello
      · cases call
        exact .auth
      · cases call
        exact .deviceInfo
      · next sid cameras listed =>
        cases call
        exact .cameraList cameras (listing sid cameras listed)
      · cases call
    | pumpReceived outcome input =>
      cases outcome with
      | error description => cases offered
      | ok env => exact Pump.answer_offerable launch _ _ env input ack body offered
    | disconnectCalled reason byeSent =>
      cases offered
      exact .bye reason byeSent last
    | _ => cases offered

/-- What has been read after a step, by `connect` and by its pump. -/
theorem step_heard (launch : Launch) (s s' : SessionController) (events : List PhoneEvent) (event : PhoneEvent)
    (ran : Ran launch s events) (turned : Turned s event s') :
    ∃ read, ReadByConnect s'.connect.phase s'.sessionId read ∧
      (phone launch).heard (events ++ [event]) = read ++ (pumpReads (events ++ [event])).map Prod.fst := by
  obtain ⟨read,heard,split⟩ := ran.heard
  have more : (phone launch).heard (events ++ [event]) = (phone launch).heard events ++ event.reads.toList := by
    rw [(phone launch).heard_append]
    cases reads : event.reads <;> simp [Party.heard,phone,reads]
  cases turned with
  | beside phase session unread =>
    refine ⟨read,?_,?_⟩
    · rw [phase,session]
      exact heard
    · rw [more,unread,event.pumpReads_unread events unread,split]
      exact List.append_nil _
  | pumped env input awaits taken connect session =>
    subst taken
    refine ⟨read,?_,?_⟩
    · rw [connect,session]
      exact heard
    · rw [more,split,pumpReads_append,List.map_append,List.append_assoc]
      rfl
  | acked ack caps phase taken body after session =>
    subst taken
    have fresh := ReadByConnect.fresh _ _ _ heard (.inl phase)
    have idle := ran.idle (s.connect.unreturned_of_early (.inl phase))
    rw [phase,fresh] at heard
    cases heard
    refine ⟨[ack],?_,?_⟩
    · rw [after,session,fresh]
      exact .acked ack caps body
    · rw [more,split,pumpReads_append,idle]
      rfl
  | granted resp sid phase taken body after session =>
    subst taken
    have fresh := ReadByConnect.fresh _ _ _ heard (.inr phase)
    have idle := ran.idle (s.connect.unreturned_of_early (.inr phase))
    rw [phase,fresh] at heard
    cases heard with
    | acked ack caps acked =>
      refine ⟨[ack,resp],?_,?_⟩
      · rw [after,session]
        exact .granted ack resp sid body
      · rw [more,split,pumpReads_append,idle]
        rfl
  | threw under_way after session taken =>
    have idle := ran.idle (s.connect.unreturned under_way)
    rcases taken with unread | ⟨env,rfl,early⟩
    · refine ⟨read,?_,?_⟩
      · rw [after,session]
        exact ReadByConnect.threwAt _ _ _ heard
      · rw [more,unread,event.pumpReads_unread events unread,split]
        exact List.append_nil _
    · refine ⟨read ++ [env],?_,?_⟩
      · rw [after,session,ReadByConnect.fresh _ _ _ heard early]
        refine .threw _ ?_
        rcases early with phase | phase
        · rw [phase,ReadByConnect.fresh _ _ _ heard (.inl rfl)] at heard
          cases heard
          exact Nat.le_succ _
        · rw [phase,ReadByConnect.fresh _ _ _ heard (.inr rfl)] at heard
          cases heard
          exact Nat.le_refl _
      · rw [more,split,pumpReads_append,idle]
        simp [pumpReads,PhoneEvent.pumped,PhoneEvent.reads]

/-- Every step keeps what a run is to have. -/
theorem step_ran (launch : Launch) (s s' : SessionController) (events : List PhoneEvent) (event : PhoneEvent)
    (ran : Ran launch s events) (taken : phoneStep launch s event = some s') : Ran launch s' (events ++ [event]) := by
  obtain ⟨turned,kept⟩ := phoneStep_turned launch s s' event taken
  have offers := phoneStep_offers launch s s' event taken
  refine ⟨phoneStep_consistent launch s s' event ran.consistent taken,step_heard launch s s' events event ran turned,
    ?_,offers.engine.trans ran.engine,?_,?_,?_,?_,?_⟩
  · intro unreturned
    have before : s.connect.hasReturned = false := by
      cases returned : s.connect.hasReturned with
      | false => rfl
      | true =>
        rw [kept.returned returned] at unreturned
        cases unreturned
    have unpumped : event.pumped = none := by
      cases turned with
      | pumped env input awaits =>
        rw [s.pumping_returned ran.consistent awaits] at before
        cases before
      | beside phase session unread => exact event.unpumped_of_unread unread
      | acked ack caps phase read => subst read; rfl
      | granted resp sid phase read => subst read; rfl
      | threw under_way after session read =>
        rcases read with unread | ⟨env,rfl,_⟩
        · exact event.unpumped_of_unread unread
        · rfl
    rw [pumpReads_append,ran.idle before]
    simp [pumpReads,unpumped]
  · rw [offers.switches,ran.switches,pumpReads_append,List.filterMap_append,s.switches_eq event,ran.engine]
  · have answers := s.sent_acked launch event
    rw [ran.engine] at answers
    rw [offers.sent,List.filterMap_append,ran.answers,pumpReads_append,List.filterMap_append,← answers]
    rfl
  · intro env member
    rw [offers.sent] at member
    rcases List.mem_append.mp member with earlier | last
    · exact (ran.offered env earlier).mono launch events [event]
    · split at last
      · obtain ⟨offered,found,rfl⟩ := Option.map_eq_some_iff.mp (Option.mem_toList.mp last)
        exact s.offers_offerable launch events event ran.listing offered.1 offered.2 found
      · cases last
  · intro sid cameras call
    rcases kept.listing sid cameras call with before | found
    · exact ran.listing sid cameras before
    · exact found
  · intro env member
    obtain ⟨read,heard,_⟩ := ran.heard
    rcases kept.media with same | ⟨sid,phase,more⟩
    · rw [same] at member
      obtain ⟨sid,session,rfl⟩ := ran.media env member
      exact ⟨sid,turned.keeps s s' event read heard sid session,rfl⟩
    · rw [more] at member
      rcases List.mem_append.mp member with earlier | last
      · obtain ⟨other,session,rfl⟩ := ran.media env earlier
        exact ⟨other,turned.keeps s s' event read heard other session,rfl⟩
      · obtain rfl := List.mem_singleton.mp last
        refine ⟨sid,turned.keeps s s' event read heard sid ?_,rfl⟩
        rw [phase] at heard
        exact heard.session

theorem run_ran (launch : Launch) (s : SessionController) (events : List PhoneEvent)
    (run : exec (phone launch).step (start launch) events = some s) : Ran launch s events := by
  refine exec_history (phone launch).step (fun _ _ => True) (Ran launch) ?_ events (start launch) s []
    (start_ran launch) (along_trivial (phone launch).step events _) run
  intro before history event after ran _ taken
  exact step_ran launch before after history event ran taken

end SessionController
end ClearCam.Ios
