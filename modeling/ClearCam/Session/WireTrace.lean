import ClearCam.Session.ControlPlane
import ClearCam.Library.Transition

/-! What one control plane writes. Outbound messages, keepalives and answers to pings share one
counter and one writer; a run is the list of the inputs its loop has taken, in any order. -/
namespace ClearCam.Session
open ClearCam.Protocol ClearCam.Transport ClearCam.Library

def PlaneInput.failure : PlaneInput → Option TransportError
  | .outbound _ failure => failure
  | .tick _ _ failure => failure
  | .recv _ _ failure _ => failure

/-- What a turn sends: the acknowledged sequence number and the message. -/
def PlaneInput.sends : PlaneInput → Option (Option UInt64 × ControlMessage)
  | .outbound (some body) _ => some (none,body)
  | .tick _ nowUsec _ => some (none,.ping ⟨nowUsec⟩)
  | .recv _ nowUsec _ (.ok ⟨seq,_,.ping ping⟩) => some (some seq,.pong ⟨nowUsec,ping.tsUsec⟩)
  | _ => none

def taken (inputs : List PlaneInput) : List ControlMessage := inputs.filterMap fun
  | .outbound message _ => message
  | _ => none

/-- The pings that a run has received, each by its sequence number and its timestamp. -/
def pinged (inputs : List PlaneInput) : List (UInt64 × UInt64) := inputs.filterMap fun
  | .recv _ _ _ (.ok ⟨seq,_,.ping ping⟩) => some (seq,ping.tsUsec)
  | _ => none

def keepalive : ControlMessage → Bool
  | .ping _ | .pong _ => true
  | _ => false

/-- A `PONG` that answers something, by what it acknowledges and echoes. -/
def answered (env : ControlEnvelope) : Option (UInt64 × UInt64) :=
  match env.ack, env.body with
  | some seq, .pong pong => some (seq,pong.echoUsec)
  | _, _ => none

def Plane.envelope (plane : Plane) (sent : Option UInt64 × ControlMessage) : ControlEnvelope :=
  ⟨plane.seq + 1,sent.1,sent.2⟩

theorem Plane.onEnvelope_wire (channels : Channels) (plane : Plane) (now : Nat) (nowUsec : UInt64)
    (env : ControlEnvelope) :
    let sent := (PlaneInput.recv now nowUsec none (.ok env)).sends
    let after := (plane.onEnvelope channels nowUsec none env).2
    after.written = plane.written ++ (sent.map plane.envelope).toList ∧
      after.seq = if sent.isSome then plane.seq + 1 else plane.seq := by
  rcases env with ⟨seq,ack,body⟩
  cases body with
  | ping ping => exact ⟨rfl,rfl⟩
  | cameraList list =>
    cases device : channels.snapshot.device with
    | none => simp [Plane.onEnvelope,PlaneInput.sends,device]
    | some known => simp [Plane.onEnvelope,PlaneInput.sends,device]
  | _ => simp [Plane.onEnvelope,PlaneInput.sends]

/-- Where the send of a turn succeeds, the turn writes just what it sends. -/
theorem Plane.handle_wire (channels : Channels) (plane : Plane) (input : PlaneInput)
    (succeeds : input.failure = none) :
    (plane.handle channels input).2.written = plane.written ++ (input.sends.map plane.envelope).toList ∧
      (plane.handle channels input).2.seq = if input.sends.isSome then plane.seq + 1 else plane.seq := by
  cases input with
  | outbound message failure =>
    obtain rfl : failure = none := succeeds
    cases message with
    | none => exact ⟨(List.append_nil _).symm,rfl⟩
    | some body => exact ⟨rfl,rfl⟩
  | tick now nowUsec failure =>
    obtain rfl : failure = none := succeeds
    rcases plane.onTick_cases channels now nowUsec none with ended | kept
    · rw [Plane.handle,ended]
      exact ⟨rfl,rfl⟩
    · rw [Plane.handle,kept]
      exact ⟨rfl,rfl⟩
  | recv now nowUsec failure result =>
    obtain rfl : failure = none := succeeds
    cases result with
    | ok env => exact Plane.onEnvelope_wire channels {plane with lastRx := now} now nowUsec env
    | error error => exact ⟨(List.append_nil _).symm,rfl⟩

/-- The counter, what is written and the inputs taken so far, tied together. -/
structure Traced (s : Channels × Plane) (history : List PlaneInput) : Prop where
  sent : s.2.written.map (fun env => (env.ack,env.body)) = history.filterMap PlaneInput.sends
  numbered : s.2.written.map ControlEnvelope.seq =
    (List.range s.2.written.length).map fun i => 101 + UInt64.ofNat i
  counted : s.2.seq = 100 + UInt64.ofNat s.2.written.length

theorem Plane.start_traced (channels : Channels) (transport : TransportTag) (now : Nat)
    (telemetryTx : Option (Mailbox Telemetry)) :
    Traced (Plane.start channels transport now telemetryTx) [] := by
  exact ⟨rfl,rfl,rfl⟩

theorem seq_succ (n : Nat) : (100 : UInt64) + UInt64.ofNat n + 1 = 101 + UInt64.ofNat n := by
  rw [UInt64.add_assoc,UInt64.add_comm (UInt64.ofNat n) 1,← UInt64.add_assoc]
  rfl

theorem Plane.step_traced (s s' : Channels × Plane) (history : List PlaneInput) (input : PlaneInput)
    (traced : Traced s history) (succeeds : input.failure = none)
    (taken : Plane.step s input = some s') : Traced s' (history ++ [input]) := by
  obtain ⟨_,rfl⟩ := Plane.step_eq s s' input taken
  obtain ⟨written,seq⟩ := s.2.handle_wire s.1 input succeeds
  cases sends : input.sends with
  | none =>
    rw [sends,Option.map_none,Option.toList_none,List.append_nil] at written
    rw [sends,Option.isSome_none] at seq
    refine ⟨?_,?_,?_⟩
    · rw [written,traced.sent,List.filterMap_append]
      simp [sends]
    · rw [written]
      exact traced.numbered
    · rw [written]
      exact seq.trans traced.counted
  | some sent =>
    rw [sends,Option.map_some,Option.toList_some] at written
    rw [sends,Option.isSome_some,if_pos rfl,traced.counted,seq_succ] at seq
    have next : s.2.seq + 1 = 101 + UInt64.ofNat s.2.written.length := by
      rw [traced.counted,seq_succ]
    have length : (s.2.handle s.1 input).2.written.length = s.2.written.length + 1 := by
      rw [written,List.length_append,List.length_singleton]
    refine ⟨?_,?_,?_⟩
    · rw [written,List.map_append,traced.sent,List.filterMap_append]
      simp [sends,Plane.envelope]
    · rw [length,written,List.map_append,traced.numbered,List.range_succ,List.map_append]
      simp [Plane.envelope,next]
    · rw [length,seq,UInt64.ofNat_add,← seq_succ,UInt64.add_assoc]
      rfl

theorem Plane.run_traced (start s : Channels × Plane) (inputs : List PlaneInput) (fresh : Traced start [])
    (succeed : ∀ input ∈ inputs, input.failure = none)
    (run : exec Plane.step start inputs = some s) : Traced s inputs := by
  refine exec_history Plane.step (fun _ input => input.failure = none) Traced ?_ inputs start s [] fresh ?_ run
  · intro before history input after traced succeeds taken
    exact Plane.step_traced before after history input traced succeeds taken
  · rw [along_iff]
    intro before input after _ split _
    exact succeed input (by rw [split]; simp)

theorem Traced.seqs (s : Channels × Plane) (history : List PlaneInput) (traced : Traced s history)
    (few : s.2.written.length < 2^64 - 101) :
    s.2.written.map (fun env => env.seq.toNat) = List.range' 101 s.2.written.length := by
  have composed : s.2.written.map (fun env => env.seq.toNat) =
      (s.2.written.map ControlEnvelope.seq).map UInt64.toNat := by
    rw [List.map_map]
    rfl
  rw [composed,traced.numbered,List.map_map,List.range'_eq_map_range]
  apply List.map_congr_left
  intro i member
  have below := List.mem_range.mp member
  simp only [Function.comp_apply,UInt64.toNat_add,UInt64.toNat_ofNat']
  rw [Nat.mod_eq_of_lt (by omega : i < 2^64)]
  exact Nat.mod_eq_of_lt (by change 101 + i < 2^64; omega)

theorem sends_taken (inputs : List PlaneInput) :
    (inputs.filterMap PlaneInput.sends).filter (fun sent => !keepalive sent.2) =
      ((taken inputs).filter fun body => !keepalive body).map fun body => (none,body) := by
  induction inputs with
  | nil => rfl
  | cons input rest ih =>
    rw [taken] at ih ⊢
    rcases input with ⟨_ | body,failure⟩ | ⟨now,nowUsec,failure⟩ | ⟨now,nowUsec,failure,error | ⟨seq,ack,body⟩⟩
    · exact ih
    · simp only [List.filterMap_cons,PlaneInput.sends,List.filter_cons]
      split
      · exact congrArg _ ih
      · exact ih
    · exact ih
    · exact ih
    · cases body with
      | _ => exact ih

theorem sends_pinged (written : List ControlEnvelope) (inputs : List PlaneInput)
    (sent : written.map (fun env => (env.ack,env.body)) = inputs.filterMap PlaneInput.sends) :
    written.filterMap answered = pinged inputs := by
  have projected : written.filterMap answered =
      (written.map fun env => (env.ack,env.body)).filterMap fun sent => answered ⟨0,sent.1,sent.2⟩ := by
    rw [List.filterMap_map]
    rfl
  rw [projected,sent,List.filterMap_filterMap,pinged]
  apply List.filterMap_congr
  intro input _
  rcases input with ⟨_ | body,failure⟩ | ⟨now,nowUsec,failure⟩ | ⟨now,nowUsec,failure,error | ⟨seq,ack,body⟩⟩
  · rfl
  · rfl
  · rfl
  · rfl
  · cases body with
    | _ => rfl

structure Link where
  queue : List ControlMessage
  channels : Channels
  plane : Plane

inductive LinkLabel where
  | queue (message : ControlMessage)
  | turn (input : PlaneInput)

/-- What a turn leaves of the queue: `outbound.recv()` gives its first message, or nothing when
there is none and every sender is gone. -/
def PlaneInput.dequeue (queue : List ControlMessage) : PlaneInput → Option (List ControlMessage)
  | .outbound (some message) _ => if queue.head? = some message then some queue.tail else none
  | .outbound none _ => if queue = [] then some queue else none
  | _ => some queue

def Link.step (link : Link) : LinkLabel → Option Link
  | .queue message => some {link with queue := link.queue ++ [message]}
  | .turn input => do
    let queue ← input.dequeue link.queue
    let after ← Plane.step (link.channels,link.plane) input
    return ⟨queue,after.1,after.2⟩

def Link.start (channels : Channels) (transport : TransportTag) (now : Nat)
    (telemetryTx : Option (Mailbox Telemetry)) : Link :=
  let started := Plane.start channels transport now telemetryTx
  ⟨[],started.1,started.2⟩

def turns (labels : List LinkLabel) : List PlaneInput := labels.filterMap fun
  | .turn input => some input
  | .queue _ => none

def queued (labels : List LinkLabel) : List ControlMessage := labels.filterMap fun
  | .queue message => some message
  | .turn _ => none

theorem taken_append (before after : List PlaneInput) : taken (before ++ after) = taken before ++ taken after := by
  exact List.filterMap_append

theorem Link.step_turn (link after : Link) (input : PlaneInput)
    (taken : link.step (.turn input) = some after) :
    input.dequeue link.queue = some after.queue ∧
      Plane.step (link.channels,link.plane) input = some (after.channels,after.plane) := by
  obtain ⟨queue,dequeued,taken⟩ := Option.bind_eq_some_iff.mp taken
  obtain ⟨stepped,turned,taken⟩ := Option.bind_eq_some_iff.mp taken
  obtain rfl := Option.some.inj taken
  exact ⟨dequeued,turned⟩

theorem PlaneInput.dequeue_eq (queue rest : List ControlMessage) (input : PlaneInput)
    (dequeued : input.dequeue queue = some rest) : queue = taken [input] ++ rest := by
  rcases input with ⟨_ | body,failure⟩ | ⟨now,nowUsec,failure⟩ | ⟨now,nowUsec,failure,result⟩
  · rw [PlaneInput.dequeue] at dequeued
    split at dequeued
    · exact Option.some.inj dequeued
    · cases dequeued
  · rw [PlaneInput.dequeue] at dequeued
    split at dequeued
    · next head =>
      obtain rfl := Option.some.inj dequeued
      exact (List.cons_head?_tail head).symm
    · cases dequeued
  · exact Option.some.inj dequeued
  · exact Option.some.inj dequeued

/-- A link takes the turns of its plane, and what was queued is what it has taken and what is left. -/
structure Link.Ran (channels : Channels) (plane : Plane) (link : Link) (labels : List LinkLabel) : Prop where
  run : exec Plane.step (channels,plane) (turns labels) = some (link.channels,link.plane)
  queue : queued labels = taken (turns labels) ++ link.queue

theorem Link.step_ran (channels : Channels) (plane : Plane) (link after : Link) (labels : List LinkLabel)
    (label : LinkLabel) (ran : link.Ran channels plane labels) (stepped : link.step label = some after) :
    after.Ran channels plane (labels ++ [label]) := by
  cases label with
  | queue message =>
    obtain rfl := Option.some.inj stepped
    have same : turns (labels ++ [.queue message]) = turns labels := by
      simp [turns]
    have more : queued (labels ++ [.queue message]) = queued labels ++ [message] := by
      simp [queued]
    refine ⟨?_,?_⟩
    · rw [same]
      exact ran.run
    · rw [same,more,ran.queue,List.append_assoc]
  | turn input =>
    obtain ⟨dequeued,turned⟩ := link.step_turn after input stepped
    have more : turns (labels ++ [.turn input]) = turns labels ++ [input] := by
      simp [turns]
    have same : queued (labels ++ [.turn input]) = queued labels := by
      simp [queued]
    refine ⟨?_,?_⟩
    · rw [more,exec_append,ran.run,Option.bind_some,exec,turned]
      rfl
    · rw [same,more,ran.queue,PlaneInput.dequeue_eq link.queue after.queue input dequeued]
      rw [taken_append,List.append_assoc]

theorem Link.run_ran (link after : Link) (labels : List LinkLabel) (fresh : link.queue = [])
    (run : exec Link.step link labels = some after) : after.Ran link.channels link.plane labels := by
  refine exec_history Link.step (fun _ _ => True) (Link.Ran link.channels link.plane) ?_ labels link after [] ?_
    (along_trivial Link.step labels link) run
  · intro before history label next ran _ stepped
    exact before.step_ran link.channels link.plane next history label ran stepped
  · exact ⟨rfl,fresh.symm⟩

theorem Link.returned_run (link after : Link) (labels : List LinkLabel) (ended : link.plane.returned = true)
    (run : exec Link.step link labels = some after) : after.plane = link.plane := by
  refine exec_kept Link.step (fun s => s.plane = link.plane) labels ?_ link after rfl run
  intro before label next _ same stepped
  cases label with
  | queue message =>
    obtain rfl := Option.some.inj stepped
    exact same
  | turn input =>
    have running := (Plane.step_eq _ _ input (before.step_turn next input stepped).2).1
    rw [same,ended] at running
    cases running

/-- The wire trace of one control plane: consecutive numbers, the queued messages in their order,
one answer for each ping before anything else is read, and nothing after the run has returned. -/
theorem wire_trace (channels : Channels) (transport : TransportTag) (now : Nat)
    (telemetryTx : Option (Mailbox Telemetry)) (labels : List LinkLabel) (link : Link)
    (run : exec Link.step (Link.start channels transport now telemetryTx) labels = some link)
    (succeed : ∀ input ∈ turns labels, input.failure = none)
    (few : ((turns labels).filterMap PlaneInput.sends).length < 2^64 - 101) :
    link.plane.written.map (fun env => env.seq.toNat) = List.range' 101 link.plane.written.length ∧
    queued labels = taken (turns labels) ++ link.queue ∧
    (link.plane.written.filter fun env => !keepalive env.body).map (fun env => (env.ack,env.body)) =
      ((taken (turns labels)).filter fun body => !keepalive body).map (fun body => (none,body)) ∧
    link.plane.written.filterMap answered = pinged (turns labels) ∧
    (∀ before after clock nowUsec failure seq ack ping link', labels = before ++
        .turn (.recv clock nowUsec failure (.ok ⟨seq,ack,.ping ping⟩)) :: after →
      exec Link.step (Link.start channels transport now telemetryTx) before = some link' →
      ∃ next, link'.step (.turn (.recv clock nowUsec failure (.ok ⟨seq,ack,.ping ping⟩))) = some next ∧
        next.plane.written = link'.plane.written ++
          [⟨link'.plane.seq + 1,some seq,.pong ⟨nowUsec,ping.tsUsec⟩⟩]) ∧
    (link.plane.returned = true → ∀ later link', exec Link.step link later = some link' →
      link'.plane.written = link.plane.written) := by
  have ran := Link.run_ran _ link labels rfl run
  have traced := Plane.run_traced _ _ (turns labels) (Plane.start_traced channels transport now telemetryTx)
    succeed ran.run
  have count : link.plane.written.length = ((turns labels).filterMap PlaneInput.sends).length := by
    rw [← traced.sent,List.length_map]
  refine ⟨traced.seqs _ _ (by rw [count]; exact few),ran.queue,?_,sends_pinged _ _ traced.sent,?_,?_⟩
  · rw [← sends_taken,← traced.sent,List.filter_map]
    rfl
  · intro before after clock nowUsec failure seq ack ping link' split reached
    rw [split,exec_append,reached,Option.bind_some] at run
    obtain ⟨next,stepped,_⟩ := (exec_cons Link.step link' link _ after).mp run
    refine ⟨next,stepped,?_⟩
    have member : .recv clock nowUsec failure (.ok ⟨seq,ack,.ping ping⟩) ∈ turns labels := by
      rw [split]
      simp [turns]
    have succeeds := succeed _ member
    have turned := (link'.step_turn next _ stepped).2
    have handled := congrArg Prod.snd (Plane.step_eq _ _ _ turned).2
    change next.plane = _ at handled
    rw [handled]
    exact (link'.plane.handle_wire link'.channels _ succeeds).1
  · intro ended later link' continued
    rw [Link.returned_run link link' later ended continued]

/-- A stop is queued and sent between an answered ping and a keepalive. -/
def stopTurns : List LinkLabel :=
  [.turn (.recv 0 5 none (.ok ⟨9,none,.ping ⟨3⟩⟩)),.queue .stop,.turn (.outbound (some .stop) none),
    .turn (.tick 0 7 none)]

def stopLink : Link :=
  ⟨[],⟨⟨.ready (some .usb),none,none⟩,[.stateChanged (.ready (some .usb))]⟩,
    ⟨.usb,103,0,none,[⟨101,some 9,.pong ⟨5,3⟩⟩,⟨102,none,.stop⟩,⟨103,none,.ping ⟨7⟩⟩],false⟩⟩

theorem wire_trace_stopTurns :
    exec Link.step (Link.start ⟨⟨.idle,none,none⟩,[]⟩ .usb 0 none) stopTurns = some stopLink ∧
    stopLink.plane.written.map (fun env => env.seq.toNat) = List.range' 101 stopLink.plane.written.length := by
  have run : exec Link.step (Link.start ⟨⟨.idle,none,none⟩,[]⟩ .usb 0 none) stopTurns = some stopLink := rfl
  have succeed : ∀ input ∈ turns stopTurns, input.failure = none := by
    simp [turns,stopTurns,PlaneInput.failure]
  have few : ((turns stopTurns).filterMap PlaneInput.sends).length < 2^64 - 101 := by
    decide
  exact ⟨run,(wire_trace _ .usb 0 none stopTurns stopLink run succeed few).1⟩

/-- Nothing keeps a caller from queueing a ping of its own. -/
def pingTurns : List LinkLabel := [.queue (.ping ⟨3⟩),.turn (.outbound (some (.ping ⟨3⟩)) none)]

theorem wire_trace_of_queued_ping : ∃ link,
    exec Link.step (Link.start ⟨⟨.idle,none,none⟩,[]⟩ .usb 0 none) pingTurns = some link ∧
    (∀ input ∈ turns pingTurns, input.failure = none) ∧
    ((turns pingTurns).filterMap PlaneInput.sends).length < 2^64 - 101 ∧
    (link.plane.written.filter fun env => !keepalive env.body).map (fun env => (env.ack,env.body)) ≠
      (taken (turns pingTurns)).map (fun body => (none,body)) := by
  refine ⟨_,rfl,?_,?_,?_⟩
  · simp [turns,pingTurns,PlaneInput.failure]
  · decide
  · intro same
    have counts := congrArg List.length same
    revert counts
    decide

end ClearCam.Session
