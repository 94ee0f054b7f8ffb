import ClearCam.Session.ControlPlane
import ClearCam.Library.Transition

/-! The `select!` loop over the bytes of its control socket. A branch that completes
drops the futures of the others, and what a dropped `recv` had already taken from the
reader is gone. -/
namespace ClearCam.Session
open ClearCam.Protocol ClearCam.Transport ClearCam.Library

/-- The loop with its stream: bytes the peer has written but that have not arrived,
bytes that wait in the reader, the `recv` future in progress, and a record of what
`recv` gave. -/
structure Loop where
  inFlight : List UInt8
  reader : List UInt8
  recv : ReadFrame
  channels : Channels
  plane : Plane
  processed : List ControlEnvelope
  failures : List TransportError
  deriving DecidableEq

def Loop.start (written : List UInt8) (channels : Channels) (plane : Plane) : Loop :=
  ⟨written,[],.start,channels,plane,[],[]⟩

structure Moment where
  now : Nat
  nowUsec : UInt64
  failure : Option TransportError
  deriving DecidableEq

inductive Event where
  | arrive (count : Nat)
  | read (count : Nat) (moment : Moment)
  | broken (unexpectedEof : Bool) (moment : Moment)
  | tick (moment : Moment)
  | outbound (message : Option ControlMessage) (moment : Moment)
  deriving DecidableEq

namespace Loop

/-- `recv` is ready: its handler runs, and the next iteration makes a new future. -/
def finish (loop : Loop) (moment : Moment) (result : Except TransportError ControlEnvelope) : Loop :=
  let (channels,plane) := loop.plane.onRecv loop.channels moment.now moment.nowUsec moment.failure result
  {loop with
    recv := .start
    channels := channels
    plane := plane
    processed := loop.processed ++ result.toOption.toList
    failures := match result with
      | .error error => loop.failures ++ [error]
      | .ok _ => loop.failures}

def decode (serde : Serde) (frame : Except TransportError (List UInt8)) :
    Except TransportError ControlEnvelope :=
  frame.bind fun payload => match serde.fromSlice payload with
    | some env => .ok env
    | none => .error .json

def step (serde : Serde) (loop : Loop) : Event → Option Loop
  | .arrive count => some {loop with
      inFlight := loop.inFlight.drop count
      reader := loop.reader ++ loop.inFlight.take count}
  | .read count moment =>
    if loop.plane.returned ∨ count = 0 ∨ loop.reader.length < count ∨ loop.recv.needed < count then none
    else
      let rest := {loop with reader := loop.reader.drop count}
      match loop.recv.feed (loop.reader.take count) with
      | .pending future => some {rest with recv := future}
      | .ready frame => some (rest.finish moment (decode serde frame))
  | .broken unexpectedEof moment =>
    if loop.plane.returned then none else some (loop.finish moment (.error (.io unexpectedEof)))
  | .tick moment =>
    if loop.plane.returned then none
    else
      let (channels,plane) := loop.plane.onTick loop.channels moment.now moment.nowUsec moment.failure
      some {loop with recv := .start, channels := channels, plane := plane}
  | .outbound message moment =>
    if loop.plane.returned then none
    else
      let (channels,plane) := loop.plane.onOutbound loop.channels message moment.failure
      some {loop with recv := .start, channels := channels, plane := plane}

end Loop

def Event.connected : Event → Bool
  | .broken _ _ => false
  | _ => true

/-- The branches that drop a `recv` future complete only while it has taken no byte. -/
def AtBoundary (loop : Loop) : Event → Prop
  | .tick _ | .outbound _ _ => loop.recv.consumed = []
  | _ => True

/-- What is left of the peer's stream, from the first byte of the frame in progress on,
is the frames of the envelopes not yet processed. -/
structure Intact (serde : Serde) (sent : List ControlEnvelope) (loop : Loop) : Prop where
  stream : ∃ rest, sent = loop.processed ++ rest ∧
    loop.recv.consumed ++ (loop.reader ++ loop.inFlight) =
      rest.flatMap (fun env => framed (serde.toVec env)) ∧
    ∀ env later, rest = env :: later → loop.recv.Inside (serde.toVec env)
  unfailed : loop.failures = []

theorem intact_start (serde : Serde) (sent : List ControlEnvelope) (bytes : List UInt8)
    (channels : Channels) (plane : Plane) (written : writeFrames serde sent = .ok bytes) :
    Intact serde sent (.start bytes channels plane) := by
  obtain ⟨_,rfl⟩ := writeFrames_ok serde sent bytes written
  refine ⟨⟨sent,rfl,rfl,?_⟩,rfl⟩
  intro env later _
  exact ReadFrame.start_inside (serde.toVec env)

theorem Intact.finish (serde : Serde) (sent rest : List ControlEnvelope) (env : ControlEnvelope)
    (loop : Loop) (moment : Moment) (roundTrip : serde.fromSlice (serde.toVec env) = some env)
    (order : sent = loop.processed ++ env :: rest) (unfailed : loop.failures = [])
    (stream : loop.reader ++ loop.inFlight = rest.flatMap fun env => framed (serde.toVec env)) :
    Intact serde sent (loop.finish moment (Loop.decode serde (.ok (serde.toVec env)))) := by
  have decoded : Loop.decode serde (.ok (serde.toVec env)) = .ok env := by
    simp [Loop.decode,Except.bind,roundTrip]
  rw [decoded]
  refine ⟨⟨rest,?_,stream,?_⟩,unfailed⟩
  · simpa [Loop.finish,Except.toOption] using order
  · intro next later _
    exact ReadFrame.start_inside (serde.toVec next)

theorem Intact.read (serde : Serde) (sent : List ControlEnvelope) (loop next : Loop) (count : Nat)
    (moment : Moment) (intact : Intact serde sent loop)
    (roundTrip : ∀ env ∈ sent, serde.fromSlice (serde.toVec env) = some env)
    (small : ∀ env ∈ sent, (serde.toVec env).length ≤ defaultMaxPayload)
    (taken : loop.step serde (.read count moment) = some next) : Intact serde sent next := by
  obtain ⟨⟨rest,order,stream,inside⟩,unfailed⟩ := intact
  simp only [Loop.step] at taken
  split at taken
  · cases taken
  · rename_i enabled
    push Not at enabled
    obtain ⟨_,positive,available,asked⟩ := enabled
    have size : (loop.reader.take count).length = count := by
      rw [List.length_take]
      omega
    have split : loop.reader.take count ++ (loop.reader.drop count ++ loop.inFlight) =
        loop.reader ++ loop.inFlight := by
      rw [← List.append_assoc,List.take_append_drop]
    cases rest with
    | nil =>
      -- bytes to read, but no frame left to take them from
      have length := congrArg List.length stream
      simp only [List.flatMap_nil,List.length_nil,List.length_append] at length
      omega
    | cons env later =>
      have member : env ∈ sent := by simp [order]
      have here := inside env later rfl
      have part : loop.recv.consumed ++ loop.reader.take count <+: framed (serde.toVec env) := by
        have whole : loop.recv.consumed ++ loop.reader.take count <+:
            framed (serde.toVec env) ++ later.flatMap fun env => framed (serde.toVec env) := by
          rw [List.flatMap_cons] at stream
          rw [← stream,← split,← List.append_assoc]
          exact List.prefix_append _ _
        have bound := ReadFrame.needed_inside _ _ here
        refine List.prefix_of_prefix_length_le whole (List.prefix_append _ _) ?_
        rw [List.length_append,size]
        omega
      rw [← split,← List.append_assoc] at stream
      obtain ⟨future,fed,kept,consumed⟩ | ⟨fed,complete⟩ :=
        ReadFrame.feed_inside _ _ _ here (small env member) (by omega) part
      · rw [fed] at taken
        obtain rfl := Option.some.inj taken
        refine ⟨⟨env :: later,order,?_,?_⟩,unfailed⟩
        · change future.consumed ++ _ = _
          rw [consumed]
          exact stream
        · intro other others same
          obtain ⟨rfl,rfl⟩ := List.cons.inj same
          exact kept
      · rw [fed] at taken
        obtain rfl := Option.some.inj taken
        rw [complete,List.flatMap_cons] at stream
        exact Intact.finish serde sent later env _ moment (roundTrip env member) order unfailed
          (List.append_cancel_left stream)

theorem Intact.drop (serde : Serde) (sent : List ControlEnvelope) (loop : Loop)
    (channels : Channels) (plane : Plane) (intact : Intact serde sent loop)
    (boundary : loop.recv.consumed = []) :
    Intact serde sent {loop with recv := .start, channels := channels, plane := plane} := by
  rw [← ReadFrame.consumed_eq_nil loop.recv boundary]
  exact ⟨intact.stream,intact.unfailed⟩

theorem Intact.step (serde : Serde) (sent : List ControlEnvelope) (loop next : Loop) (event : Event)
    (intact : Intact serde sent loop)
    (roundTrip : ∀ env ∈ sent, serde.fromSlice (serde.toVec env) = some env)
    (small : ∀ env ∈ sent, (serde.toVec env).length ≤ defaultMaxPayload)
    (connected : event.connected) (boundary : AtBoundary loop event)
    (taken : loop.step serde event = some next) : Intact serde sent next := by
  cases event with
  | arrive count =>
    obtain rfl := Option.some.inj taken
    obtain ⟨rest,order,stream,inside⟩ := intact.stream
    refine ⟨⟨rest,order,?_,inside⟩,intact.unfailed⟩
    simpa [List.append_assoc] using stream
  | read count moment => exact intact.read serde sent loop next count moment roundTrip small taken
  | broken unexpectedEof moment => cases connected
  | tick moment =>
    simp only [Loop.step] at taken
    split at taken
    · cases taken
    · obtain rfl := Option.some.inj taken
      exact intact.drop serde sent loop _ _ boundary
  | outbound message moment =>
    simp only [Loop.step] at taken
    split at taken
    · cases taken
    · obtain rfl := Option.some.inj taken
      exact intact.drop serde sent loop _ _ boundary

/-- The actor has returned, and what it processed until then is as it should be. -/
structure Ended (sent : List ControlEnvelope) (loop : Loop) : Prop where
  returned : loop.plane.returned = true
  kept : loop.processed <+: sent

theorem Intact.kept (serde : Serde) (sent : List ControlEnvelope) (loop : Loop)
    (intact : Intact serde sent loop) : loop.processed <+: sent := by
  obtain ⟨rest,order,_⟩ := intact.stream
  exact ⟨rest,order.symm⟩

theorem Intact.broken (serde : Serde) (sent : List ControlEnvelope) (loop next : Loop) (unexpectedEof : Bool)
    (moment : Moment) (intact : Intact serde sent loop)
    (taken : loop.step serde (.broken unexpectedEof moment) = some next) : Ended sent next := by
  simp only [Loop.step] at taken
  split at taken
  · cases taken
  · obtain rfl := Option.some.inj taken
    refine ⟨rfl,?_⟩
    change loop.processed ++ [] <+: sent
    rw [List.append_nil]
    exact intact.kept serde sent loop

theorem Ended.step (serde : Serde) (sent : List ControlEnvelope) (loop next : Loop) (event : Event)
    (ended : Ended sent loop) (taken : loop.step serde event = some next) : Ended sent next := by
  have returned := ended.returned
  cases event with
  | arrive count =>
    obtain rfl := Option.some.inj taken
    exact ⟨returned,ended.kept⟩
  | read | broken | tick | outbound => simp [Loop.step,returned] at taken

/-- In every run whose tick and outbound branches complete at frame boundaries only, the
loop processes a prefix of what the peer sent, and `recv` fails only with the connection. -/
theorem control_inbound_intact (serde : Serde) (sent : List ControlEnvelope) (bytes : List UInt8)
    (channels : Channels) (plane : Plane) (events : List Event) (loop : Loop)
    (roundTrip : ∀ env ∈ sent, serde.fromSlice (serde.toVec env) = some env)
    (written : writeFrames serde sent = .ok bytes)
    (boundary : Along (Loop.step serde) AtBoundary (.start bytes channels plane) events)
    (run : exec (Loop.step serde) (.start bytes channels plane) events = some loop) :
    loop.processed <+: sent ∧ ((∀ event ∈ events, event.connected) → loop.failures = []) := by
  obtain ⟨small,_⟩ := writeFrames_ok serde sent bytes written
  have start := intact_start serde sent bytes channels plane written
  constructor
  · have outcome : Intact serde sent loop ∨ Ended sent loop := by
      refine exec_invariant (Loop.step serde) AtBoundary (fun loop => Intact serde sent loop ∨ Ended sent loop)
        events ?_ _ loop (.inl start) boundary run
      intro before event after _ kept condition taken
      obtain intact | ended := kept
      · cases event with
        | broken unexpectedEof moment =>
          exact .inr (intact.broken serde sent before after unexpectedEof moment taken)
        | _ => exact .inl (intact.step serde sent before after _ roundTrip small rfl condition taken)
      · exact .inr (ended.step serde sent before after event taken)
    obtain intact | ended := outcome
    · exact intact.kept serde sent loop
    · exact ended.kept
  · intro connected
    have intact : Intact serde sent loop := by
      refine exec_invariant (Loop.step serde) AtBoundary (Intact serde sent) events ?_ _ loop start boundary run
      intro before event after member kept condition taken
      exact kept.step serde sent before after event roundTrip small (connected event member) condition taken
    exact intact.unfailed

def firstPing : ControlEnvelope := ⟨1,none,.ping ⟨0⟩⟩

def firstPingJson : List UInt8 := "\x7b\"seq\":1,\"t\":\"PING\",\"tsUsec\":0\x7d".toUTF8.data.toList

def firstPingSerde : Serde where
  toVec env := if env = firstPing then firstPingJson else []
  fromSlice bytes := if bytes = firstPingJson then some firstPing else none

def freshLoop : Loop :=
  .start (framed firstPingJson) ⟨⟨.idle,none,none⟩,[]⟩ ⟨.wifi,100,0,none,[],false⟩

def tickThenPing : List Event :=
  [.tick ⟨2000000000,0,none⟩,.arrive 35,.read 4 ⟨2000000001,0,none⟩,.read 31 ⟨2000000001,0,none⟩]

theorem tick_between_frames_harmless :
    ∃ loop, exec (Loop.step firstPingSerde) freshLoop tickThenPing = some loop ∧
      loop.processed = [firstPing] ∧ loop.processed <+: [firstPing] ∧ loop.failures = [] := by
  have ran : (exec (Loop.step firstPingSerde) freshLoop tickThenPing).map (·.processed) =
      some [firstPing] := by
    decide +kernel
  obtain ⟨loop,run,processed⟩ := Option.map_eq_some_iff.mp ran
  have boundary : Along (Loop.step firstPingSerde) AtBoundary freshLoop tickThenPing :=
    ⟨rfl,fun _ _ => ⟨trivial,fun _ _ => ⟨trivial,fun _ _ => ⟨trivial,fun _ _ => trivial⟩⟩⟩⟩
  obtain ⟨kept,unfailed⟩ := control_inbound_intact firstPingSerde [firstPing] (framed firstPingJson) _ _
    tickThenPing loop (by decide +kernel) rfl boundary run
  exact ⟨loop,run,processed,kept,unfailed (by decide)⟩

/-- A keepalive tick after two bytes of the prefix have been read: the next prefix is cut
from the middle of the frame, and the PING is lost with the session. -/
def tickInsidePrefix : List Event :=
  [.arrive 2,.read 2 ⟨0,0,none⟩,.tick ⟨2000000000,0,none⟩,.arrive 33,.read 4 ⟨2000000001,0,none⟩]

theorem tick_inside_prefix_loses_ping :
    writeFrames firstPingSerde [firstPing] = .ok (framed firstPingJson) ∧
    firstPingSerde.fromSlice (firstPingSerde.toVec firstPing) = some firstPing ∧
    (∀ event ∈ tickInsidePrefix, event.connected) ∧
    ∃ loop, exec (Loop.step firstPingSerde) freshLoop tickInsidePrefix = some loop ∧
      loop.processed = [] ∧ loop.failures = [.frameTooLarge 2063138] ∧
      ¬ (loop.processed <+: [firstPing] ∧ loop.failures = []) := by
  have ran : (exec (Loop.step firstPingSerde) freshLoop tickInsidePrefix).map
      (fun loop => (loop.processed,loop.failures)) = some ([],[.frameTooLarge 2063138]) := by
    decide +kernel
  obtain ⟨loop,run,result⟩ := Option.map_eq_some_iff.mp ran
  obtain ⟨processed,failures⟩ := Prod.mk.inj result
  refine ⟨rfl,by decide +kernel,by decide,loop,run,processed,failures,?_⟩
  rw [failures]
  intro fine
  rcases fine with ⟨_,none⟩
  cases none

end ClearCam.Session
