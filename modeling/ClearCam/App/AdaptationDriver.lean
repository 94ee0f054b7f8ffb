import ClearCam.Adaptive.Cooldown
import ClearCam.Adaptive.StreamingMode
import ClearCam.App.Speedtest
import ClearCam.Session.Desk

/-! The adaptation loop of a running session: the control plane, the task that feeds its telemetry to the
adaptation, and the two bounded channels between them. The app's own requests share the outbound channel. -/
namespace ClearCam.Session
open ClearCam.Protocol ClearCam.Transport

def PlaneInput.telemetry : PlaneInput → Option Telemetry
  | .recv _ _ _ (.ok ⟨_,_,.telemetry telemetry⟩) => some telemetry
  | _ => none

/-- The driver's channel takes what the plane reads and has room for. -/
theorem Plane.handle_telemetryTx (channels : Channels) (plane : Plane) (input : PlaneInput) :
    (plane.handle channels input).2.telemetryTx =
      plane.telemetryTx.map fun mailbox => input.telemetry.elim mailbox mailbox.trySend := by
  have same (other : Option (Mailbox Telemetry)) : other = other.map fun mailbox => mailbox := by
    cases other <;> rfl
  cases input with
  | outbound message failure =>
    cases message with
    | none => exact same _
    | some body => cases failure <;> exact same _
  | tick now nowUsec failure =>
    rcases plane.onTick_cases channels now nowUsec failure with ended | kept
    · rw [Plane.handle,ended]
      exact same _
    · rw [Plane.handle,kept]
      exact same _
  | recv now nowUsec failure result =>
    cases result with
    | error error => exact same _
    | ok env =>
      obtain ⟨seq,ack,body⟩ := env
      cases body with
      | telemetry telemetry => rfl
      | cameraList list =>
        simp only [Plane.handle,Plane.onRecv,Plane.onEnvelope]
        split
        · exact same _
        · exact same _
      | _ => exact same _

def setMode? : ControlMessage → Option Mode
  | .setMode body => some body.mode
  | _ => none

def modes (bodies : List ControlMessage) : List Mode := bodies.filterMap setMode?

theorem modes_append (before after : List ControlMessage) : modes (before ++ after) = modes before ++ modes after := by
  exact List.filterMap_append

theorem modes_commands (bodies : List ControlMessage) : modes (commands bodies) = modes bodies := by
  rw [modes,commands,List.filterMap_filter]
  refine congrArg (fun pick => bodies.filterMap pick) (funext fun body => ?_)
  cases body <;> rfl

theorem Plane.handle_modes (channels : Channels) (plane : Plane) (input : PlaneInput) :
    ∃ lost, modes ((plane.handle channels input).2.written.map ControlEnvelope.body) ++ lost =
        modes (plane.written.map ControlEnvelope.body) ++ modes (taken [input]) ∧
      ((plane.handle channels input).2.returned = false → lost = []) := by
  obtain ⟨lost,same,kept⟩ := plane.handle_commands channels input
  refine ⟨modes lost,?_,?_⟩
  · have all := congrArg modes same
    simpa only [modes_append,modes_commands] using all
  · intro running
    rw [kept running]
    rfl

end ClearCam.Session

namespace ClearCam.App
open ClearCam.Protocol ClearCam.Transport ClearCam.Session ClearCam.Adaptive ClearCam.Library

/-- The driver with the message that its `outbound.send` waits to deliver. -/
structure AdaptationDriver where
  state : AdaptationState
  sending : Option Mode
  ended : Bool

namespace AdaptationDriver

def new (initialMode : Mode) (now : Nat) : AdaptationDriver := ⟨.newAt initialMode now,none,false⟩

def observe (driver : AdaptationDriver) (telemetry : Telemetry) (rttMs : Float) (now : Nat) : AdaptationDriver :=
  match driver.state.observe ⟨telemetry,rttMs,now⟩ with
  | (state,.none) => {driver with state := state}
  | (state,.stepDown mode) | (state,.stepUp mode) => {driver with state := state, sending := some mode}

end AdaptationDriver

/-- What the rest of the app sends over a session's outbound channel. -/
inductive Request where
  | setCamera (cameraId : String)
  | runSpeedtest
  deriving DecidableEq

def Request.message : Request → ControlMessage
  | .setCamera cameraId => .setCamera ⟨cameraId⟩
  | .runSpeedtest => speedtestStart SpeedtestPlan.defaultRamp

/-- `slot` is the sender in the app's outbound slot, `asking` the requests whose cloned sender waits. -/
structure SessionTasks where
  plane : Plane
  outbound : Mailbox ControlMessage
  slot : Bool
  asking : List Request
  driver : AdaptationDriver

inductive TaskEvent where
  | turned (channels : Channels) (input : PlaneInput)
  | took (channels : Channels) (failure : Option TransportError)
  | observed (now : Nat)
  | delivered
  | finished
  | asks (request : Request)
  | asked (request : Request)
  | released

namespace SessionTasks

def start (channels : Channels) (transport : TransportTag) (now startAt : Nat) : SessionTasks :=
  ⟨(Plane.start channels transport now (some ⟨16,[]⟩)).2,⟨16,[]⟩,true,[],.new Mode.defaultStreaming1080p30 startAt⟩

/-- The telemetry that the driver has still to receive. -/
def unread (s : SessionTasks) : List Telemetry := (s.plane.telemetryTx.map Mailbox.queued).getD []

def hungUp (s : SessionTasks) : Bool := !s.slot && s.asking.isEmpty && s.driver.ended

/-- The driver is at its `recv`. -/
def idle (s : SessionTasks) : Bool := !s.driver.ended && s.driver.sending.isNone

def room (s : SessionTasks) : Bool := s.outbound.queued.length < s.outbound.capacity

def step (s : SessionTasks) : TaskEvent → Option SessionTasks
  | .turned _ (.outbound _ _) => none
  | .turned channels input => (Plane.step (channels,s.plane) input).map fun after => {s with plane := after.2}
  | .took channels failure =>
    match s.outbound.queued with
    | body :: rest => (Plane.step (channels,s.plane) (.outbound (some body) failure)).map fun after =>
        {s with plane := after.2, outbound := {s.outbound with queued := rest}}
    | [] =>
      if s.hungUp then (Plane.step (channels,s.plane) (.outbound none failure)).map fun after =>
        {s with plane := after.2}
      else none
  | .observed now =>
    match s.idle, s.unread with
    | true, telemetry :: rest => some {s with
        plane := {s.plane with telemetryTx := s.plane.telemetryTx.map ({· with queued := rest})}
        driver := s.driver.observe telemetry 0.0 now}
    | _, _ => none
  | .finished =>
    if s.idle && s.unread.isEmpty && s.plane.returned then some {s with driver := {s.driver with ended := true}}
    else none
  | .delivered =>
    match s.driver.sending with
    | none => none
    | some mode =>
      -- the receiver goes with the plane, and the driver ignores the error
      if s.plane.returned then some {s with driver := {s.driver with sending := none}}
      else if s.room then some {s with
        outbound := {s.outbound with queued := s.outbound.queued ++ [.setMode ⟨mode⟩]}
        driver := {s.driver with sending := none}}
      else none
  | .asks request => if s.slot then some {s with asking := s.asking ++ [request]} else none
  | .asked request =>
    if request ∈ s.asking then
      if s.plane.returned then some {s with asking := s.asking.erase request}
      else if s.room then some {s with
        asking := s.asking.erase request
        outbound := {s.outbound with queued := s.outbound.queued ++ [request.message]}}
      else none
    else none
  | .released => if s.slot then some {s with slot := false} else none

end SessionTasks

/-- Everything one step of a session's tasks can do. -/
inductive SessionTasks.Moves (s : SessionTasks) : TaskEvent → SessionTasks → Prop where
  | turned (channels : Channels) (input : PlaneInput) (running : s.plane.returned = false)
      (unasked : taken [input] = []) :
      Moves s (.turned channels input) {s with plane := (s.plane.handle channels input).2}
  | took (channels : Channels) (failure : Option TransportError) (body : ControlMessage) (rest : List ControlMessage)
      (running : s.plane.returned = false) (queued : s.outbound.queued = body :: rest) :
      Moves s (.took channels failure) {s with
        plane := (s.plane.handle channels (.outbound (some body) failure)).2
        outbound := {s.outbound with queued := rest}}
  | spun (channels : Channels) (failure : Option TransportError) (running : s.plane.returned = false)
      (queued : s.outbound.queued = []) (hungUp : s.hungUp = true) : Moves s (.took channels failure) s
  | observed (now : Nat) (telemetry : Telemetry) (rest : List Telemetry) (live : s.driver.ended = false)
      (free : s.driver.sending = none) (unread : s.unread = telemetry :: rest) :
      Moves s (.observed now) {s with
        plane := {s.plane with telemetryTx := s.plane.telemetryTx.map ({· with queued := rest})}
        driver := s.driver.observe telemetry 0.0 now}
  | finished (live : s.driver.ended = false) (free : s.driver.sending = none) (unread : s.unread = [])
      (returned : s.plane.returned = true) : Moves s .finished {s with driver := {s.driver with ended := true}}
  | delivered (mode : Mode) (sending : s.driver.sending = some mode) (running : s.plane.returned = false) :
      Moves s .delivered {s with
        outbound := {s.outbound with queued := s.outbound.queued ++ [.setMode ⟨mode⟩]}
        driver := {s.driver with sending := none}}
  | dropped (mode : Mode) (sending : s.driver.sending = some mode) (returned : s.plane.returned = true) :
      Moves s .delivered {s with driver := {s.driver with sending := none}}
  | asks (request : Request) : Moves s (.asks request) {s with asking := s.asking ++ [request]}
  | asked (request : Request) (running : s.plane.returned = false) :
      Moves s (.asked request) {s with
        asking := s.asking.erase request
        outbound := {s.outbound with queued := s.outbound.queued ++ [request.message]}}
  | refused (request : Request) (returned : s.plane.returned = true) :
      Moves s (.asked request) {s with asking := s.asking.erase request}
  | released : Moves s .released {s with slot := false}

namespace SessionTasks

theorem step_moves (s after : SessionTasks) (event : TaskEvent) (taken : s.step event = some after) :
    s.Moves event after := by
  cases event with
  | turned channels input =>
    have turn (other : ∀ message failure, input ≠ .outbound message failure)
        (turns : ((Plane.step (channels,s.plane) input).map fun after => {s with plane := after.2}) = some after) :
        s.Moves (.turned channels input) after := by
      obtain ⟨turned,found,rfl⟩ := Option.map_eq_some_iff.mp turns
      obtain ⟨running,rfl⟩ := Plane.step_eq _ _ _ found
      refine .turned channels input running ?_
      cases input with
      | outbound message failure => exact absurd rfl (other message failure)
      | _ => rfl
    cases input with
    | outbound message failure => cases taken
    | tick now nowUsec failure => exact turn (by intros; simp) taken
    | recv now nowUsec failure result => exact turn (by intros; simp) taken
  | took channels failure =>
    simp only [step] at taken
    split at taken
    · next body rest queued =>
      obtain ⟨turned,found,rfl⟩ := Option.map_eq_some_iff.mp taken
      obtain ⟨running,rfl⟩ := Plane.step_eq _ _ _ found
      exact .took channels failure body rest running queued
    · next queued =>
      split at taken
      · next hungUp =>
        obtain ⟨turned,found,rfl⟩ := Option.map_eq_some_iff.mp taken
        obtain ⟨running,rfl⟩ := Plane.step_eq _ _ _ found
        exact .spun channels failure running queued hungUp
      · cases taken
  | observed now =>
    simp only [step] at taken
    split at taken
    · next telemetry rest idle unread =>
      obtain rfl := Option.some.inj taken
      obtain ⟨live,free⟩ : s.driver.ended = false ∧ s.driver.sending = none := by simpa [SessionTasks.idle] using idle
      exact .observed now telemetry rest live free unread
    · cases taken
  | finished =>
    simp only [step] at taken
    split at taken
    · next ready =>
      obtain rfl := Option.some.inj taken
      obtain ⟨⟨⟨live,free⟩,unread⟩,returned⟩ :
          ((s.driver.ended = false ∧ s.driver.sending = none) ∧ s.unread = []) ∧ s.plane.returned = true := by
        simpa [SessionTasks.idle] using ready
      exact .finished live free unread returned
    · cases taken
  | delivered =>
    simp only [step] at taken
    split at taken
    · cases taken
    · next mode sending =>
      split at taken
      · next returned =>
        obtain rfl := Option.some.inj taken
        exact .dropped mode sending returned
      · next running =>
        split at taken
        · obtain rfl := Option.some.inj taken
          exact .delivered mode sending (by simpa using running)
        · cases taken
  | asks request =>
    simp only [step] at taken
    split at taken
    · obtain rfl := Option.some.inj taken
      exact .asks request
    · cases taken
  | asked request =>
    simp only [step] at taken
    split at taken
    · split at taken
      · next returned =>
        obtain rfl := Option.some.inj taken
        exact .refused request returned
      · next running =>
        split at taken
        · obtain rfl := Option.some.inj taken
          exact .asked request (by simpa using running)
        · cases taken
    · cases taken
  | released =>
    simp only [step] at taken
    split at taken
    · obtain rfl := Option.some.inj taken
      exact .released
    · cases taken

end SessionTasks

def Action.mode? : Action → Option Mode
  | .none => none
  | .stepUp mode | .stepDown mode => some mode

/-- The modes that the adaptation puts in force over a run of samples. -/
def decisions (startAt : Nat) (samples : List Sample) : List Mode :=
  (runs Mode.defaultStreaming1080p30 startAt samples).filterMap fun e => Action.mode? e.output

def adapted (startAt : Nat) (samples : List Sample) : AdaptationState :=
  Transducer.stateAfter AdaptationState.observe (.newAt Mode.defaultStreaming1080p30 startAt) samples

theorem adapted_snoc (startAt : Nat) (samples : List Sample) (x : Sample) :
    adapted startAt (samples ++ [x]) = ((adapted startAt samples).observe x).1 := by
  rw [adapted,Transducer.stateAfter_append]
  rfl

theorem decisions_snoc (startAt : Nat) (samples : List Sample) (x : Sample) :
    decisions startAt (samples ++ [x]) =
      decisions startAt samples ++ (Action.mode? ((adapted startAt samples).observe x).2).toList := by
  rw [decisions,runs,Transducer.trace_append,List.filterMap_append]
  refine congrArg _ ?_
  change [Transducer.entry AdaptationState.observe (adapted startAt samples) x].filterMap _ = _
  simp only [List.filterMap_cons,Transducer.entry]
  cases Action.mode? ((adapted startAt samples).observe x).2 with
  | none => rfl
  | some mode => rfl

theorem AdaptationDriver.observe_eq (driver : AdaptationDriver) (telemetry : Telemetry) (rttMs : Float) (now : Nat)
    (free : driver.sending = none) :
    driver.observe telemetry rttMs now = {driver with
      state := (driver.state.observe ⟨telemetry,rttMs,now⟩).1
      sending := Action.mode? (driver.state.observe ⟨telemetry,rttMs,now⟩).2} := by
  unfold observe
  rcases driver.state.observe ⟨telemetry,rttMs,now⟩ with ⟨state,action⟩
  cases action with
  | none => simp [Action.mode?,free]
  | _ => rfl

/-- The telemetry that a run of the plane has read. -/
def telemetryReceived (events : List TaskEvent) : List Telemetry := events.filterMap fun
  | .turned _ input => input.telemetry
  | _ => none

/-- The instants of the driver's samples. -/
def sampledAt (events : List TaskEvent) : List Nat := events.filterMap fun
  | .observed now => some now
  | _ => none

/-- The driver's channel has room for the telemetry of this step. -/
def Keeps (s : SessionTasks) : TaskEvent → Prop
  | .turned _ input => input.telemetry ≠ none → s.unread.length < 16
  | _ => True

instance decidableKeeps (s : SessionTasks) : (event : TaskEvent) → Decidable (Keeps s event)
  | .turned _ input => inferInstanceAs (Decidable (input.telemetry ≠ none → s.unread.length < 16))
  | .took _ _ | .observed _ | .delivered | .finished | .asks _ | .asked _ | .released => .isTrue trivial

/-- A session's tasks after a run of their own, with the samples that the driver has taken. When the driver
always kept up, `kept`, no telemetry was dropped. -/
structure SessionTasks.Ran (kept : Prop) (startAt : Nat) (samples : List Sample) (s : SessionTasks)
    (events : List TaskEvent) : Prop where
  mailbox : s.plane.telemetryTx = some ⟨16,s.unread⟩
  bounded : s.unread.length ≤ 16
  fed : List.Sublist (samples.map Sample.telemetry ++ s.unread) (telemetryReceived events)
  whole : kept → samples.map Sample.telemetry ++ s.unread = telemetryReceived events
  timed : samples.map Sample.now = sampledAt events
  unknown : ∀ x ∈ samples, x.rttMs = 0.0
  state : s.driver.state = adapted startAt samples
  alive : s.driver.ended = true → s.plane.returned = true ∧ s.driver.sending = none
  sent : ∃ lost, modes (s.plane.written.map ControlEnvelope.body) ++ lost = decisions startAt samples ∧
    (s.plane.returned = false → lost = modes s.outbound.queued ++ s.driver.sending.toList)

namespace SessionTasks

theorem start_ran (kept : Prop) (channels : Channels) (transport : TransportTag) (now startAt : Nat) :
    Ran kept startAt [] (start channels transport now startAt) [] := by
  refine ⟨rfl,Nat.zero_le _,.slnil,fun _ => rfl,rfl,?_,rfl,?_,⟨[],rfl,fun _ => rfl⟩⟩
  · intro x member
    cases member
  · intro ended
    cases ended

theorem received_snoc (events : List TaskEvent) (event : TaskEvent) :
    telemetryReceived (events ++ [event]) = telemetryReceived events ++ telemetryReceived [event] := by
  exact List.filterMap_append

theorem sampledAt_snoc (events : List TaskEvent) (event : TaskEvent) :
    sampledAt (events ++ [event]) = sampledAt events ++ sampledAt [event] := by
  exact List.filterMap_append

/-- A turn of the plane: it reads at most one sample, and takes at most one message. -/
theorem turned_ran (kept : Prop) (startAt : Nat) (samples : List Sample) (s : SessionTasks) (events : List TaskEvent)
    (event : TaskEvent) (channels : Channels) (input : PlaneInput) (outbound : Mailbox ControlMessage)
    (ran : s.Ran kept startAt samples events) (running : s.plane.returned = false)
    (reads : telemetryReceived [event] = (input.telemetry).toList) (samples_none : sampledAt [event] = [])
    (room : kept → input.telemetry ≠ none → s.unread.length < 16)
    (takes : s.outbound.queued = taken [input] ++ outbound.queued) :
    Ran kept startAt samples {s with plane := (s.plane.handle channels input).2, outbound := outbound}
      (events ++ [event]) := by
  obtain ⟨unread,tx,bounded,fed,whole⟩ : ∃ unread, (s.plane.handle channels input).2.telemetryTx = some ⟨16,unread⟩ ∧
      unread.length ≤ 16 ∧
      List.Sublist (samples.map Sample.telemetry ++ unread) (telemetryReceived (events ++ [event])) ∧
      (kept → samples.map Sample.telemetry ++ unread = telemetryReceived (events ++ [event])) := by
    rw [Plane.handle_telemetryTx,ran.mailbox,received_snoc,reads]
    cases telemetry : input.telemetry with
    | none =>
      refine ⟨s.unread,rfl,ran.bounded,?_,?_⟩
      · simpa using ran.fed
      · intro still
        simpa using ran.whole still
    | some sample =>
      by_cases fits : s.unread.length < 16
      · refine ⟨s.unread ++ [sample],?_,?_,?_,?_⟩
        · simp [Mailbox.trySend,fits]
        · rw [List.length_append]
          exact fits
        · rw [← List.append_assoc]
          exact ran.fed.append (List.Sublist.refl _)
        · intro still
          rw [← List.append_assoc,ran.whole still]
          rfl
      · refine ⟨s.unread,?_,ran.bounded,?_,?_⟩
        · simp [Mailbox.trySend,fits]
        · exact ran.fed.trans (List.sublist_append_left _ _)
        · intro still
          exact absurd (room still (by simp [telemetry])) fits
  have same : unread = SessionTasks.unread {s with plane := (s.plane.handle channels input).2, outbound := outbound} := by
    simp [SessionTasks.unread,tx]
  obtain ⟨earlier,decided,queued⟩ := ran.sent
  obtain ⟨lost,written,all⟩ := s.plane.handle_modes channels input
  refine ⟨?_,?_,?_,?_,?_,ran.unknown,ran.state,?_,?_⟩
  · rw [← same]
    exact tx
  · rw [← same]
    exact bounded
  · rw [← same]
    exact fed
  · rw [← same]
    exact whole
  · rw [sampledAt_snoc,samples_none,List.append_nil]
    exact ran.timed
  · intro ended
    have gone := (ran.alive ended).1
    rw [running] at gone
    cases gone
  · refine ⟨lost ++ (modes outbound.queued ++ s.driver.sending.toList),?_,?_⟩
    · calc modes ((s.plane.handle channels input).2.written.map ControlEnvelope.body) ++
            (lost ++ (modes outbound.queued ++ s.driver.sending.toList))
          = modes (s.plane.written.map ControlEnvelope.body) ++ modes (taken [input]) ++
              (modes outbound.queued ++ s.driver.sending.toList) := by rw [← written,List.append_assoc]
        _ = modes (s.plane.written.map ControlEnvelope.body) ++ earlier := by
              rw [queued running,takes,modes_append]
              simp only [List.append_assoc]
        _ = decisions startAt samples := decided
    · intro still
      rw [all still]
      rfl

theorem step_ran (kept : Prop) (startAt : Nat) (samples : List Sample) (s after : SessionTasks)
    (events : List TaskEvent) (event : TaskEvent) (ran : s.Ran kept startAt samples events)
    (keeps : kept → Keeps s event) (taken : s.step event = some after) :
    ∃ more, after.Ran kept startAt (samples ++ more) (events ++ [event]) := by
  have aside (event : TaskEvent) (unheard : telemetryReceived [event] = []) (unsampled : sampledAt [event] = [])
      (after : SessionTasks) (telemetryTx : after.plane.telemetryTx = s.plane.telemetryTx)
      (state : after.driver.state = s.driver.state)
      (alive : after.driver.ended = true → after.plane.returned = true ∧ after.driver.sending = none)
      (sent : ∃ lost, modes (after.plane.written.map ControlEnvelope.body) ++ lost = decisions startAt samples ∧
        (after.plane.returned = false → lost = modes after.outbound.queued ++ after.driver.sending.toList)) :
      after.Ran kept startAt (samples ++ []) (events ++ [event]) := by
    have unread : after.unread = s.unread := by rw [SessionTasks.unread,telemetryTx,← SessionTasks.unread]
    rw [List.append_nil]
    refine ⟨?_,?_,?_,?_,?_,ran.unknown,state.trans ran.state,alive,sent⟩
    · rw [telemetryTx,unread]
      exact ran.mailbox
    · rw [unread]
      exact ran.bounded
    · rw [unread,received_snoc,unheard,List.append_nil]
      exact ran.fed
    · rw [unread,received_snoc,unheard,List.append_nil]
      exact ran.whole
    · rw [sampledAt_snoc,unsampled,List.append_nil]
      exact ran.timed
  cases step_moves s after event taken with
  | turned channels input running unasked =>
    refine ⟨[],?_⟩
    rw [List.append_nil]
    refine turned_ran kept startAt samples s events _ channels input s.outbound ran running ?_ rfl keeps ?_
    · cases telemetry : input.telemetry <;> simp [telemetryReceived,telemetry]
    · rw [unasked]
      rfl
  | took channels failure body rest running queued =>
    refine ⟨[],?_⟩
    rw [List.append_nil]
    refine turned_ran kept startAt samples s events _ channels _ {s.outbound with queued := rest} ran running rfl rfl
      ?_ queued
    intro _ absent
    exact absurd rfl absent
  | spun channels failure running queued hungUp => exact ⟨[],aside _ rfl rfl s rfl rfl ran.alive ran.sent⟩
  | observed now telemetry rest live free unread =>
    have moved : (samples ++ [(⟨telemetry,0.0,now⟩ : Sample)]).map Sample.telemetry ++ rest =
        samples.map Sample.telemetry ++ s.unread := by
      rw [unread,List.map_append,List.append_assoc]
      rfl
    have popped : (s.plane.telemetryTx.map ({· with queued := rest} : Mailbox Telemetry → Mailbox Telemetry)) =
        some ⟨16,rest⟩ := by
      rw [ran.mailbox]
      rfl
    obtain ⟨lost,decided,queued⟩ := ran.sent
    rw [s.driver.observe_eq telemetry 0.0 now free,ran.state,popped]
    refine ⟨[⟨telemetry,0.0,now⟩],rfl,?_,?_,?_,?_,?_,?_,?_,?_⟩
    · have bounded := ran.bounded
      rw [unread,List.length_cons] at bounded
      exact Nat.le_of_succ_le bounded
    · change List.Sublist (_ ++ rest) _
      rw [moved,received_snoc]
      simpa [telemetryReceived] using ran.fed
    · intro still
      change _ ++ rest = _
      rw [moved,received_snoc]
      simpa [telemetryReceived] using ran.whole still
    · rw [sampledAt_snoc,List.map_append,ran.timed]
      rfl
    · intro x member
      rcases List.mem_append.mp member with earlier | last
      · exact ran.unknown x earlier
      · obtain rfl := List.mem_singleton.mp last
        rfl
    · exact (adapted_snoc startAt samples _).symm
    · intro ended
      exact absurd (live.symm.trans ended) (by decide)
    · refine ⟨lost ++ (Action.mode? ((adapted startAt samples).observe ⟨telemetry,0.0,now⟩).2).toList,?_,?_⟩
      · rw [decisions_snoc,← decided,List.append_assoc]
      · intro running
        rw [queued running,free]
        simp
  | finished live free unread returned =>
    refine ⟨[],aside _ rfl rfl _ rfl rfl (fun _ => ⟨returned,free⟩) ?_⟩
    obtain ⟨lost,decided,_⟩ := ran.sent
    refine ⟨lost,decided,?_⟩
    intro running
    exact absurd (returned.symm.trans running) (by decide)
  | delivered mode sending running =>
    refine ⟨[],aside _ rfl rfl _ rfl rfl (fun ended => ⟨(ran.alive ended).1,rfl⟩) ?_⟩
    obtain ⟨lost,decided,queued⟩ := ran.sent
    refine ⟨lost,decided,?_⟩
    intro _
    rw [queued running,sending,modes_append]
    simp [modes,setMode?]
  | dropped mode sending returned =>
    refine ⟨[],aside _ rfl rfl _ rfl rfl (fun ended => ⟨returned,rfl⟩) ?_⟩
    obtain ⟨lost,decided,_⟩ := ran.sent
    refine ⟨lost,decided,?_⟩
    intro running
    exact absurd (returned.symm.trans running) (by decide)
  | asks request => exact ⟨[],aside _ rfl rfl _ rfl rfl ran.alive ran.sent⟩
  | asked request running =>
    refine ⟨[],aside _ rfl rfl _ rfl rfl ran.alive ?_⟩
    obtain ⟨lost,decided,queued⟩ := ran.sent
    refine ⟨lost,decided,?_⟩
    intro _
    rw [queued running,modes_append]
    cases request <;> simp [modes,Request.message,speedtestStart,setMode?]
  | refused request returned => exact ⟨[],aside _ rfl rfl _ rfl rfl ran.alive ran.sent⟩
  | released => exact ⟨[],aside _ rfl rfl _ rfl rfl ran.alive ran.sent⟩

theorem run_ran (kept : Prop) (startAt : Nat) (events : List TaskEvent) (s t : SessionTasks) (samples : List Sample)
    (history : List TaskEvent) (ran : s.Ran kept startAt samples history) (keeps : kept → Along step Keeps s events)
    (run : exec step s events = some t) : ∃ more, t.Ran kept startAt (samples ++ more) (history ++ events) := by
  induction events generalizing s samples history with
  | nil =>
    obtain rfl : s = t := by simpa [exec] using run
    refine ⟨[],?_⟩
    rw [List.append_nil,List.append_nil]
    exact ran
  | cons event rest ih =>
    obtain ⟨s',taken,later⟩ := (exec_cons step s t event rest).mp run
    obtain ⟨more,ran'⟩ := step_ran kept startAt samples s s' history event ran (fun still => (keeps still).1) taken
    obtain ⟨final,ends⟩ := ih s' _ _ ran' (fun still => (keeps still).2 s' taken) later
    refine ⟨more ++ final,?_⟩
    rw [← List.append_assoc,List.append_cons]
    exact ends

end SessionTasks

theorem decisions_streaming (startAt : Nat) (samples : List Sample) :
    ∀ mode ∈ decisions startAt samples, Adaptive.Streaming mode := by
  intro mode decided
  obtain ⟨e,member,acted⟩ := List.mem_filterMap.mp decided
  have after := (runs_streaming startAt samples e member).2
  have observed := runs_observed _ startAt samples e member
  obtain ⟨s,x,action,s'⟩ := e
  dsimp only at after observed acted
  cases observed with
  | held | floor | settled => cases acted
  | down next congested elapsed lower =>
    cases acted
    exact after
  | up next stable run elapsed higher =>
    cases acted
    exact after

/-- The modes a session sets are the adaptation's answer to the telemetry it has received: the driver takes the
samples in order, each at most once and all of them if it keeps up, and what it decides is written in order. -/
theorem modes_follow_telemetry (channels : Channels) (transport : TransportTag) (now startAt : Nat)
    (events : List TaskEvent) (s : SessionTasks)
    (run : exec SessionTasks.step (SessionTasks.start channels transport now startAt) events = some s) :
    ∃ samples : List Sample,
      List.Sublist (samples.map Sample.telemetry ++ s.unread) (telemetryReceived events) ∧
      (Along SessionTasks.step Keeps (SessionTasks.start channels transport now startAt) events →
        samples.map Sample.telemetry ++ s.unread = telemetryReceived events) ∧
      samples.map Sample.now = sampledAt events ∧
      s.driver.state = adapted startAt samples ∧
      (∃ lost, modes (s.plane.written.map ControlEnvelope.body) ++ lost = decisions startAt samples ∧
        (s.plane.returned = false → lost = modes s.outbound.queued ++ s.driver.sending.toList)) ∧
      ∀ mode ∈ modes (s.plane.written.map ControlEnvelope.body), Adaptive.Streaming mode := by
  obtain ⟨samples,ran⟩ := SessionTasks.run_ran
    (Along SessionTasks.step Keeps (SessionTasks.start channels transport now startAt) events) startAt events _ s [] []
    (SessionTasks.start_ran _ channels transport now startAt) id run
  rw [List.nil_append,List.nil_append] at ran
  refine ⟨samples,ran.fed,ran.whole,ran.timed,ran.state,ran.sent,?_⟩
  obtain ⟨lost,decided,_⟩ := ran.sent
  intro mode member
  refine decisions_streaming startAt samples mode ?_
  rw [← decided]
  exact List.mem_append_left lost member

/-- A phone that reports a backlog two seconds after the start, and is told to lower its mode. -/
def backlog : List TaskEvent :=
  [.turned ⟨⟨.idle,none,none⟩,[]⟩ (.recv 2000000000 0 none (.ok ⟨5,none,.telemetry ⟨0,1.0,.unplugged,.nominal,0,0,0,1,0⟩⟩)),
    .observed 2000000000,.delivered,.took ⟨⟨.idle,none,none⟩,[]⟩ none]

theorem modes_follow_telemetry_backlog : ∃ samples : List Sample,
    samples.map Sample.now = [2000000000] ∧ samples.map Sample.telemetry = telemetryReceived backlog ∧
      decisions 0 samples = [{Mode.defaultStreaming1080p30 with bitrateKbps := 22500}] := by
  have ended : (exec SessionTasks.step (.start ⟨⟨.idle,none,none⟩,[]⟩ .wifi 0 0) backlog).map (fun s =>
      (s.unread,modes (s.plane.written.map ControlEnvelope.body),s.plane.returned,s.outbound.queued,s.driver.sending)) =
      some ([],[{Mode.defaultStreaming1080p30 with bitrateKbps := 22500}],false,[],none) := by decide +kernel
  obtain ⟨s,run,shown⟩ := Option.map_eq_some_iff.mp ended
  simp only [Prod.mk.injEq] at shown
  obtain ⟨unread,written,running,queued,sending⟩ := shown
  obtain ⟨samples,_,whole,timed,_,⟨lost,decided,rest⟩,_⟩ :=
    modes_follow_telemetry ⟨⟨.idle,none,none⟩,[]⟩ .wifi 0 0 backlog s run
  refine ⟨samples,timed,?_,?_⟩
  · have all := whole (by decide +kernel)
    rw [unread,List.append_nil] at all
    exact all
  · rw [← decided,rest running,written,queued,sending]
    rfl

namespace SessionTasks

/-- How much the driver has still to do once the plane has returned. -/
def rank (s : SessionTasks) : Nat :=
  2 * s.unread.length + s.driver.sending.toList.length + if s.driver.ended then 0 else 1

end SessionTasks

/-- What the driver's own task does. -/
def TaskEvent.driven : TaskEvent → Bool
  | .observed _ | .delivered | .finished => true
  | _ => false

namespace SessionTasks

/-- Once the plane has returned, the driver only works off what it still has. -/
theorem step_rank (s after : SessionTasks) (event : TaskEvent) (returned : s.plane.returned = true)
    (taken : s.step event = some after) :
    after.plane.returned = true ∧ (if event.driven then 1 else 0) + after.rank ≤ s.rank := by
  cases step_moves s after event taken with
  | turned channels input running unasked => exact absurd (returned.symm.trans running) (by decide)
  | took channels failure body rest running queued => exact absurd (returned.symm.trans running) (by decide)
  | spun channels failure running queued hungUp => exact absurd (returned.symm.trans running) (by decide)
  | delivered mode sending running => exact absurd (returned.symm.trans running) (by decide)
  | asked request running => exact absurd (returned.symm.trans running) (by decide)
  | asks request => exact ⟨returned,Nat.le_of_eq (Nat.zero_add _)⟩
  | refused request returned => exact ⟨returned,Nat.le_of_eq (Nat.zero_add _)⟩
  | released => exact ⟨returned,Nat.le_of_eq (Nat.zero_add _)⟩
  | finished live free unread returned =>
    refine ⟨returned,?_⟩
    simp [rank,SessionTasks.unread,live,TaskEvent.driven]
    omega
  | dropped mode sending returned =>
    refine ⟨returned,?_⟩
    simp [rank,SessionTasks.unread,sending,TaskEvent.driven]
    omega
  | observed now telemetry rest live free unread =>
    refine ⟨returned,?_⟩
    rw [s.driver.observe_eq telemetry 0.0 now free]
    have shorter : SessionTasks.unread {s with
        plane := {s.plane with telemetryTx := s.plane.telemetryTx.map ({· with queued := rest})}} = rest := by
      cases mailbox : s.plane.telemetryTx with
      | none => simp [SessionTasks.unread,mailbox] at unread
      | some mailbox => rfl
    have decided (action : Action) : (Action.mode? action).toList.length ≤ 1 := by
      cases action <;> simp [Action.mode?]
    have one := decided (s.driver.state.observe ⟨telemetry,0.0,now⟩).2
    simp only [rank,SessionTasks.unread,live,free,TaskEvent.driven] at shorter unread ⊢
    rw [shorter,unread]
    simp only [if_true,List.length_cons,Option.toList_none,List.length_nil,Bool.false_eq_true,if_false]
    omega

theorem run_rank (s t : SessionTasks) (events : List TaskEvent) (returned : s.plane.returned = true)
    (run : exec step s events = some t) :
    t.plane.returned = true ∧ (events.filter TaskEvent.driven).length + t.rank ≤ s.rank := by
  induction events generalizing s with
  | nil =>
    obtain rfl : s = t := by simpa [exec] using run
    exact ⟨returned,Nat.le_of_eq (Nat.zero_add _)⟩
  | cons event rest ih =>
    obtain ⟨s',taken,later⟩ := (exec_cons step s t event rest).mp run
    obtain ⟨returned',worked⟩ := step_rank s s' event returned taken
    obtain ⟨ended,still⟩ := ih s' returned' later
    refine ⟨ended,?_⟩
    cases own : event.driven with
    | true =>
      rw [own] at worked
      rw [List.filter_cons_of_pos own,List.length_cons]
      simp only [if_true] at worked
      omega
    | false =>
      rw [own] at worked
      rw [List.filter_cons_of_neg (by simp [own])]
      simp only [Bool.false_eq_true,if_false] at worked
      omega

/-- A driver that has not ended goes on: it delivers, observes, or sees that its channel is closed. -/
theorem driver_goes_on (s : SessionTasks) (returned : s.plane.returned = true) (live : s.driver.ended = false) :
    ∃ event : TaskEvent, event.driven = true ∧ (s.step event).isSome = true := by
  cases sending : s.driver.sending with
  | some mode => exact ⟨.delivered,rfl,by simp [step,sending,returned]⟩
  | none =>
    cases unread : s.unread with
    | nil => exact ⟨.finished,rfl,by simp [step,idle,live,sending,unread,returned]⟩
    | cons telemetry rest => exact ⟨.observed 0,rfl,by simp [step,idle,live,sending,unread]⟩

end SessionTasks

/-- The driver lives as long as its plane and not much longer: while the plane runs, its outbound channel is never
closed, so that it never takes the branch of a closed one; once the plane has returned, the driver takes at most
`rank` more steps, whatever else happens, and is never stuck before its end. -/
theorem driver_ends_after_plane (channels : Channels) (transport : TransportTag) (now startAt : Nat)
    (events : List TaskEvent) (s : SessionTasks)
    (run : exec SessionTasks.step (SessionTasks.start channels transport now startAt) events = some s) :
    (s.plane.returned = false → s.driver.ended = false ∧
      ∀ channels failure t, s.step (.took channels failure) = some t → s.outbound.queued ≠ []) ∧
    (s.plane.returned = true → s.rank ≤ 34 ∧ ∀ later t, exec SessionTasks.step s later = some t →
      (later.filter TaskEvent.driven).length + t.rank ≤ s.rank ∧
      (t.driver.ended = false → ∃ event : TaskEvent, event.driven = true ∧ (t.step event).isSome = true)) := by
  obtain ⟨samples,ran⟩ := SessionTasks.run_ran False startAt events _ s [] []
    (SessionTasks.start_ran _ channels transport now startAt) (fun never => never.elim) run
  constructor
  · intro running
    have live : s.driver.ended = false := by
      cases ended : s.driver.ended with
      | false => rfl
      | true => exact absurd ((ran.alive ended).1.symm.trans running) (by decide)
    refine ⟨live,?_⟩
    intro channels failure t taken empty
    simp [SessionTasks.step,empty,SessionTasks.hungUp,live] at taken
  · intro returned
    refine ⟨?_,?_⟩
    · have bounded := ran.bounded
      have waiting : s.driver.sending.toList.length ≤ 1 := by
        cases s.driver.sending <;> simp
      unfold SessionTasks.rank
      split <;> omega
    · intro later t run
      obtain ⟨returned',bounded⟩ := SessionTasks.run_rank s t later returned run
      exact ⟨bounded,SessionTasks.driver_goes_on t returned'⟩

/-- The phone hangs up while the driver waits to deliver its mode: one delivery and the driver's last `recv` are left. -/
def hangup : List TaskEvent :=
  [.turned ⟨⟨.idle,none,none⟩,[]⟩ (.recv 2000000000 0 none (.ok ⟨5,none,.telemetry ⟨0,1.0,.unplugged,.nominal,0,0,0,1,0⟩⟩)),
    .observed 2000000000,.turned ⟨⟨.idle,none,none⟩,[]⟩ (.recv 2500000000 0 none (.ok ⟨6,none,.bye ⟨"user"⟩⟩))]

theorem driver_ends_after_plane_hangup : ∃ s,
    exec SessionTasks.step (.start ⟨⟨.idle,none,none⟩,[]⟩ .wifi 0 0) hangup = some s ∧
      ∀ later t, exec SessionTasks.step s later = some t → (later.filter TaskEvent.driven).length ≤ 2 := by
  have ended : (exec SessionTasks.step (.start ⟨⟨.idle,none,none⟩,[]⟩ .wifi 0 0) hangup).map (fun s =>
      (s.plane.returned,s.rank)) = some (true,2) := by decide +kernel
  obtain ⟨s,run,shown⟩ := Option.map_eq_some_iff.mp ended
  simp only [Prod.mk.injEq] at shown
  obtain ⟨returned,rank⟩ := shown
  refine ⟨s,run,?_⟩
  intro later t work
  have bounded := ((driver_ends_after_plane ⟨⟨.idle,none,none⟩,[]⟩ .wifi 0 0 hangup s run).2 returned).2 later t work
  rw [rank] at bounded
  exact Nat.le_trans (Nat.le_add_right _ _) bounded.1

end ClearCam.App
