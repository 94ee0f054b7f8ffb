import ClearCam.Session.ControlPlane
import ClearCam.Library.Transition

/-! What one control plane publishes. Its states are ready, once or more, and then one last state;
the snapshot always shows the state that was published last. -/
namespace ClearCam.Session
open ClearCam.Protocol ClearCam.Transport ClearCam.Library

def ControlPlaneEvent.state? : ControlPlaneEvent → Option SessionStateKind
  | .stateChanged state => some state
  | _ => none

def states (events : List ControlPlaneEvent) : List SessionStateKind := events.filterMap ControlPlaneEvent.state?

def PlaneInput.bye : PlaneInput → Option String
  | .recv _ _ _ (.ok ⟨_,_,.bye bye⟩) => some bye.reason
  | _ => none

theorem states_append (before after : List ControlPlaneEvent) :
    states (before ++ after) = states before ++ states after := by
  exact List.filterMap_append

/-- What one input publishes and what becomes of the plane: it goes on, perhaps ready once more, or
it returns on its last state. -/
structure Plane.Publishes (channels : Channels) (plane : Plane) (input : PlaneInput)
    (result : Channels × Plane) (published : List ControlPlaneEvent) : Prop where
  events : result.1.events = channels.events ++ published
  state : result.1.snapshot.state = (states published).getLast?.getD channels.snapshot.state
  transport : result.2.transport = plane.transport
  outcome :
    (result.2.returned = plane.returned ∧ input.bye = none ∧
      (states published = [] ∨ states published = [.ready (some plane.transport)])) ∨
    (result.2.returned = true ∧ input.bye = none ∧ published = [.stateChanged .reconnecting]) ∨
    (∃ reason, result.2.returned = true ∧ input.bye = some reason ∧
      published = [.stateChanged (.closed reason),.closed reason])

theorem Plane.disconnect_publishes (channels : Channels) (plane after : Plane) (input : PlaneInput)
    (other : input.bye = none) (tag : after.transport = plane.transport) :
    Plane.Publishes channels plane input (after.disconnect channels) [.stateChanged .reconnecting] := by
  exact ⟨rfl,rfl,tag,.inr (.inl ⟨rfl,other,rfl⟩)⟩

/-- A turn that leaves the state alone: at most an event of another kind. -/
theorem Plane.quiet_publishes (channels shown : Channels) (plane after : Plane) (input : PlaneInput)
    (published : List ControlPlaneEvent) (events : shown.events = channels.events ++ published)
    (silent : states published = []) (state : shown.snapshot.state = channels.snapshot.state)
    (other : input.bye = none) (tag : after.transport = plane.transport)
    (running : after.returned = plane.returned) :
    Plane.Publishes channels plane input (shown,after) published := by
  refine ⟨events,?_,tag,.inl ⟨running,other,.inl silent⟩⟩
  rw [silent]
  exact state

theorem Plane.unchanged_publishes (channels : Channels) (plane after : Plane) (input : PlaneInput)
    (other : input.bye = none) (tag : after.transport = plane.transport)
    (running : after.returned = plane.returned) :
    Plane.Publishes channels plane input (channels,after) [] := by
  exact quiet_publishes channels channels plane after input [] (List.append_nil _).symm rfl rfl other tag running

theorem Plane.onEnvelope_publishes (channels : Channels) (plane before : Plane) (now : Nat) (nowUsec : UInt64)
    (failure : Option TransportError) (env : ControlEnvelope) (tag : before.transport = plane.transport)
    (running : before.returned = plane.returned) :
    ∃ published, Plane.Publishes channels plane (.recv now nowUsec failure (.ok env))
      (before.onEnvelope channels nowUsec failure env) published := by
  rcases env with ⟨seq,ack,body⟩
  cases body with
  | bye bye =>
    refine ⟨[.stateChanged (.closed bye.reason),.closed bye.reason],?_,rfl,tag,.inr (.inr ⟨bye.reason,rfl,rfl,rfl⟩)⟩
    simp [Plane.onEnvelope,Channels.emit,Channels.broadcast]
  | deviceInfo info =>
    refine ⟨[.deviceInfo (.fromDeviceInfo info),.stateChanged (.ready (some before.transport))],?_,rfl,tag,?_⟩
    · simp [Plane.onEnvelope,Channels.emit,Channels.broadcast]
    · rw [tag]
      exact .inl ⟨running,rfl,.inr rfl⟩
  | cameraList list =>
    cases device : channels.snapshot.device with
    | none =>
      simp only [Plane.onEnvelope,device]
      exact ⟨_,quiet_publishes channels _ plane _ _ [] (List.append_nil _).symm rfl rfl rfl tag running⟩
    | some known =>
      simp only [Plane.onEnvelope,device]
      exact ⟨_,quiet_publishes channels _ plane _ _ [.deviceInfo _] rfl rfl rfl rfl tag running⟩
  | telemetry telemetry =>
    exact ⟨_,quiet_publishes channels _ plane _ _ [.telemetry telemetry] rfl rfl rfl rfl tag running⟩
  | modeApplied applied =>
    exact ⟨_,quiet_publishes channels _ plane _ _ [.modeApplied applied.mode] rfl rfl rfl rfl tag running⟩
  | _ => exact ⟨_,unchanged_publishes channels plane _ _ rfl tag running⟩

theorem Plane.handle_publishes (channels : Channels) (plane : Plane) (input : PlaneInput) :
    ∃ published, Plane.Publishes channels plane input (plane.handle channels input) published := by
  cases input with
  | outbound message failure =>
    cases message with
    | none => exact ⟨_,plane.unchanged_publishes channels plane _ rfl rfl rfl⟩
    | some body =>
      cases failure with
      | none => exact ⟨_,plane.unchanged_publishes channels _ _ rfl rfl rfl⟩
      | some error => exact ⟨_,plane.disconnect_publishes channels _ _ rfl rfl⟩
  | tick now nowUsec failure =>
    rcases plane.onTick_cases channels now nowUsec failure with ended | kept
    · rw [Plane.handle,ended]
      exact ⟨_,plane.disconnect_publishes channels _ _ rfl rfl⟩
    · rw [Plane.handle,kept]
      exact ⟨_,plane.unchanged_publishes channels _ _ rfl rfl rfl⟩
  | recv now nowUsec failure result =>
    cases result with
    | ok env => exact plane.onEnvelope_publishes channels {plane with lastRx := now} now nowUsec failure env rfl rfl
    | error error => exact ⟨_,plane.disconnect_publishes channels plane _ rfl rfl⟩

/-- What a run has published, by the inputs it has taken. -/
structure Grammar (transport : TransportTag) (s : Channels × Plane) (history : List PlaneInput) : Prop where
  tag : s.2.transport = transport
  shown : (states s.1.events).getLast? = some s.1.snapshot.state
  running : s.2.returned = false →
    ∃ n, states s.1.events = List.replicate (n + 1) (.ready (some transport))
  ended : s.2.returned = true → ∃ n final,
    states s.1.events = List.replicate (n + 1) (.ready (some transport)) ++ [final] ∧
    ((final = .reconnecting ∧ history.getLast?.bind PlaneInput.bye = none) ∨
      ∃ reason earlier, final = .closed reason ∧ history.getLast?.bind PlaneInput.bye = some reason ∧
        s.1.events = earlier ++ [.stateChanged (.closed reason),.closed reason])

theorem Plane.start_grammar (snapshot : SessionSnapshot) (transport : TransportTag) (now : Nat)
    (telemetryTx : Option (Mailbox Telemetry)) :
    Grammar transport (Plane.start ⟨snapshot,[]⟩ transport now telemetryTx) [] := by
  refine ⟨rfl,rfl,?_,?_⟩
  · intro _
    exact ⟨0,rfl⟩
  · intro ended
    cases ended

/-- A snapshot that showed the last published state shows the last one after more is published. -/
theorem getLast?_states (before published : List ControlPlaneEvent) (shown : SessionStateKind)
    (last : (states before).getLast? = some shown) :
    (states (before ++ published)).getLast? = some ((states published).getLast?.getD shown) := by
  rw [states_append,List.getLast?_append,last]
  cases (states published).getLast? with
  | none => rfl
  | some state => rfl

theorem Plane.step_grammar (transport : TransportTag) (s s' : Channels × Plane) (history : List PlaneInput)
    (input : PlaneInput) (grammar : Grammar transport s history) (taken : Plane.step s input = some s') :
    Grammar transport s' (history ++ [input]) := by
  obtain ⟨live,rfl⟩ := Plane.step_eq s s' input taken
  obtain ⟨published,events,state,tag,outcome⟩ := s.2.handle_publishes s.1 input
  obtain ⟨n,before⟩ := grammar.running live
  have last : (history ++ [input]).getLast?.bind PlaneInput.bye = input.bye := by
    simp
  have shown := getLast?_states s.1.events published _ grammar.shown
  rw [← events,← state] at shown
  rw [grammar.tag] at tag outcome
  rcases outcome with ⟨running,_,quiet | again⟩ | ⟨ended,other,rfl⟩ | ⟨reason,ended,bye,rfl⟩
  · refine ⟨tag,shown,?_,?_⟩
    · intro _
      exact ⟨n,by rw [events,states_append,before,quiet,List.append_nil]⟩
    · intro ended
      rw [running,live] at ended
      cases ended
  · refine ⟨tag,shown,?_,?_⟩
    · intro _
      exact ⟨n + 1,by rw [events,states_append,before,again,← List.replicate_succ']⟩
    · intro ended
      rw [running,live] at ended
      cases ended
  · refine ⟨tag,shown,?_,?_⟩
    · intro running
      rw [ended] at running
      cases running
    · intro _
      refine ⟨n,.reconnecting,?_,.inl ⟨rfl,last.trans other⟩⟩
      rw [events,states_append,before]
      rfl
  · refine ⟨tag,shown,?_,?_⟩
    · intro running
      rw [ended] at running
      cases running
    · intro _
      refine ⟨n,.closed reason,?_,.inr ⟨reason,s.1.events,rfl,last.trans bye,events⟩⟩
      rw [events,states_append,before]
      rfl

theorem Plane.run_grammar (snapshot : SessionSnapshot) (transport : TransportTag) (now : Nat)
    (telemetryTx : Option (Mailbox Telemetry)) (inputs : List PlaneInput) (s : Channels × Plane)
    (run : exec Plane.step (Plane.start ⟨snapshot,[]⟩ transport now telemetryTx) inputs = some s) :
    Grammar transport s inputs := by
  refine exec_history Plane.step (fun _ _ => True) (Grammar transport) ?_ inputs _ s []
    (Plane.start_grammar snapshot transport now telemetryTx) (along_trivial Plane.step inputs _) run
  intro before history input after grammar _ taken
  exact Plane.step_grammar transport before after history input grammar taken

/-- The states of one session: ready, once or more, then one last state, which is closed just where
the run ended on a `BYE`; the snapshot shows the last published state throughout. -/
theorem session_states (snapshot : SessionSnapshot) (transport : TransportTag) (now : Nat)
    (telemetryTx : Option (Mailbox Telemetry)) (inputs : List PlaneInput) (s : Channels × Plane)
    (run : exec Plane.step (Plane.start ⟨snapshot,[]⟩ transport now telemetryTx) inputs = some s) :
    (states s.1.events).getLast? = some s.1.snapshot.state ∧
    (s.2.returned = true → ∃ n final,
      states s.1.events = List.replicate (n + 1) (.ready (some transport)) ++ [final] ∧
      (final = .reconnecting ∨ ∃ reason, final = .closed reason) ∧
      ∀ reason, (final = .closed reason ↔ inputs.getLast?.bind PlaneInput.bye = some reason) ∧
        (final = .closed reason →
          ∃ earlier, s.1.events = earlier ++ [.stateChanged (.closed reason),.closed reason])) := by
  have grammar := Plane.run_grammar snapshot transport now telemetryTx inputs s run
  refine ⟨grammar.shown,?_⟩
  intro ended
  obtain ⟨n,final,listed,⟨rfl,other⟩ | ⟨reason,earlier,rfl,bye,events⟩⟩ := grammar.ended ended
  · refine ⟨n,_,listed,.inl rfl,?_⟩
    intro reason
    rw [other]
    exact ⟨by simp,by simp⟩
  · refine ⟨n,_,listed,.inr ⟨reason,rfl⟩,?_⟩
    intro named
    rw [bye]
    refine ⟨by simp,?_⟩
    intro same
    obtain rfl : reason = named := by simpa using same
    exact ⟨earlier,events⟩

def byeInputs : List PlaneInput :=
  [.recv 0 5 none (.ok ⟨9,none,.ping ⟨3⟩⟩),.recv 1 6 none (.ok ⟨10,none,.bye ⟨"done"⟩⟩)]

def byeEnd : Channels × Plane :=
  (⟨⟨.closed "done",none,none⟩,
      [.stateChanged (.ready (some .usb)),.stateChanged (.closed "done"),.closed "done"]⟩,
    ⟨.usb,101,1,none,[⟨101,some 9,.pong ⟨5,3⟩⟩],true⟩)

theorem session_states_byeInputs :
    exec Plane.step (Plane.start ⟨⟨.idle,none,none⟩,[]⟩ .usb 0 none) byeInputs = some byeEnd ∧
      ∃ earlier, byeEnd.1.events = earlier ++ [.stateChanged (.closed "done"),.closed "done"] := by
  have run : exec Plane.step (Plane.start ⟨⟨.idle,none,none⟩,[]⟩ .usb 0 none) byeInputs = some byeEnd := rfl
  obtain ⟨n,final,_,_,closed⟩ := (session_states _ .usb 0 none byeInputs byeEnd run).2 rfl
  have said : byeInputs.getLast?.bind PlaneInput.bye = some "done" := rfl
  exact ⟨run,(closed "done").2 ((closed "done").1.mpr said)⟩

end ClearCam.Session
