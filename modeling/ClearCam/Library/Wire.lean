import ClearCam.Library.Duplex

/-! Two parties whose connection carries bytes. Each writes its messages as frames and reads the other's
through a future that takes the stream in pieces of any size, and that some of its own steps drop. Where
none is dropped inside a frame, the connection is the one of messages. -/
namespace ClearCam.Library

/-- How messages become bytes, and the future that reads one back. `Inside m` are the futures part of the
way through the frame of `m`. -/
structure Framing (Byte Message Future : Type) where
  frame : Message → List Byte
  start : Future
  needed : Future → Nat
  consumed : Future → List Byte
  feed : Future → List Byte → Future ⊕ Option Message
  Carries : Message → Prop
  Inside : Message → Future → Prop
  start_inside : ∀ m, Inside m start
  start_consumed : consumed start = []
  untouched : ∀ future, consumed future = [] → future = start
  asks : ∀ m future, Inside m future →
    0 < needed future ∧ (consumed future).length + needed future ≤ (frame m).length
  fed : ∀ m future bytes, Carries m → Inside m future → bytes.length ≤ needed future →
    consumed future ++ bytes <+: frame m →
    (∃ next, feed future bytes = .inl next ∧ Inside m next ∧ consumed next = consumed future ++ bytes) ∨
    (feed future bytes = .inr (some m) ∧ consumed future ++ bytes = frame m)

/-- A party with the future it reads by. The events of `drops` drop it. -/
structure Endpoint (State Event In Out Byte Future : Type) where
  party : Party State Event In Out
  framing : Framing Byte In Future
  drops : Event → Bool
  drops_unread : ∀ event, drops event = true → party.reads event = none

/-- An endpoint at work: `inbound` is what the other has written and the future has not taken. -/
structure Reading (State Future Byte : Type) where
  state : State
  recv : Future
  inbound : List Byte

namespace Reading

variable {State Event In Out Byte Future : Type} (endpoint : Endpoint State Event In Out Byte Future)

/-- The future takes bytes and is not ready yet. -/
def poll (side : Reading State Future Byte) (count : Nat) : Option (Reading State Future Byte) :=
  if count = 0 ∨ side.inbound.length < count ∨ endpoint.framing.needed side.recv < count then none
  else
    match endpoint.framing.feed side.recv (side.inbound.take count) with
    | .inl future => some {side with recv := future, inbound := side.inbound.drop count}
    | .inr _ => none

/-- What an event does to the future: the last bytes of a frame make it ready, and the event reads the message. -/
def receive [DecidableEq In] (side : Reading State Future Byte) (event : Event) (count : Nat) :
    Option (Reading State Future Byte) :=
  match endpoint.party.reads event with
  | none => some (if endpoint.drops event then {side with recv := endpoint.framing.start} else side)
  | some message =>
    if count = 0 ∨ side.inbound.length < count ∨ endpoint.framing.needed side.recv < count then none
    else
      match endpoint.framing.feed side.recv (side.inbound.take count) with
      | .inr (some found) =>
        if found = message then
          some {side with recv := endpoint.framing.start, inbound := side.inbound.drop count}
        else none
      | _ => none

/-- The stream from the first byte of the frame in progress on is the frames of all but `read` messages of `sent`. -/
structure Tracks (side : Reading State Future Byte) (sent : List In) (read : Nat) : Prop where
  inside : read ≤ sent.length
  stream : endpoint.framing.consumed side.recv ++ side.inbound = (sent.drop read).flatMap endpoint.framing.frame
  partly : ∀ m, sent[read]? = some m → endpoint.framing.Inside m side.recv

variable {endpoint}

theorem drop_next (sent : List In) (read : Nat) (m : In) (next : sent[read]? = some m) :
    read < sent.length ∧ sent.drop read = m :: sent.drop (read + 1) := by
  obtain ⟨bound,found⟩ := List.getElem?_eq_some_iff.mp next
  exact ⟨bound,by rw [List.drop_eq_getElem_cons bound,found]⟩

theorem take_length (side : Reading State Future Byte) (count : Nat) (available : count ≤ side.inbound.length) :
    (side.inbound.take count).length = count := by
  rw [List.length_take,Nat.min_eq_left available]

theorem Tracks.start (state : State) (sent : List In) :
    Tracks endpoint ⟨state,endpoint.framing.start,sent.flatMap endpoint.framing.frame⟩ sent 0 := by
  refine ⟨Nat.zero_le _,?_,fun m _ => endpoint.framing.start_inside m⟩
  rw [endpoint.framing.start_consumed,List.drop_zero,List.nil_append]

/-- What bytes the stream has, the future takes from the frame of the next message. -/
theorem Tracks.piece {side : Reading State Future Byte} {sent : List In} {read : Nat}
    (tracks : Tracks endpoint side sent read) (count : Nat) (positive : count ≠ 0)
    (available : count ≤ side.inbound.length) (asked : count ≤ endpoint.framing.needed side.recv) :
    ∃ m, sent[read]? = some m ∧
      endpoint.framing.consumed side.recv ++ side.inbound.take count <+: endpoint.framing.frame m := by
  cases next : sent[read]? with
  | none =>
    -- bytes to take, but no frame left to take them from
    have ended : sent.drop read = [] := List.drop_eq_nil_of_le (List.getElem?_eq_none_iff.mp next)
    have length := congrArg List.length tracks.stream
    rw [ended,List.length_append] at length
    have none_left : side.inbound.length = 0 := by
      simp only [List.flatMap_nil,List.length_nil] at length
      omega
    omega
  | some m =>
    refine ⟨m,rfl,?_⟩
    obtain ⟨bound,rest⟩ := drop_next sent read m next
    have whole : endpoint.framing.consumed side.recv ++ side.inbound.take count <+:
        endpoint.framing.frame m ++ (sent.drop (read + 1)).flatMap endpoint.framing.frame := by
      rw [← List.flatMap_cons,← rest,← tracks.stream]
      exact (List.prefix_append_right_inj _).mpr (List.take_prefix count side.inbound)
    obtain ⟨_,fits⟩ := endpoint.framing.asks m side.recv (tracks.partly m next)
    refine List.prefix_of_prefix_length_le whole (List.prefix_append _ _) ?_
    rw [List.length_append,List.length_take]
    omega

theorem take_rest (side : Reading State Future Byte) (before : List Byte) (count : Nat) :
    before ++ side.inbound.take count ++ side.inbound.drop count = before ++ side.inbound := by
  rw [List.append_assoc,List.take_append_drop]

theorem Tracks.poll {side polled : Reading State Future Byte} {sent : List In} {read count : Nat}
    (tracks : Tracks endpoint side sent read) (carried : ∀ m ∈ sent, endpoint.framing.Carries m)
    (taken : side.poll endpoint count = some polled) :
    Tracks endpoint polled sent read := by
  unfold Reading.poll at taken
  split at taken
  · cases taken
  · rename_i enabled
    push Not at enabled
    obtain ⟨positive,available,asked⟩ := enabled
    obtain ⟨m,next,part⟩ := tracks.piece count positive (by omega) (by omega)
    have member := List.mem_of_getElem? next
    have size : (side.inbound.take count).length ≤ endpoint.framing.needed side.recv := by
      rw [side.take_length count (by omega)]
      omega
    obtain ⟨future,fed,kept,consumed⟩ | ⟨fed,_⟩ :=
      endpoint.framing.fed m side.recv _ (carried m member) (tracks.partly m next) size part
    · rw [fed] at taken
      obtain rfl := Option.some.inj taken
      refine ⟨tracks.inside,?_,?_⟩
      · rw [consumed,side.take_rest]
        exact tracks.stream
      · intro other same
        obtain rfl := Option.some.inj (next.symm.trans same)
        exact kept
    · rw [fed] at taken
      cases taken

theorem poll_state {side polled : Reading State Future Byte} {count : Nat}
    (taken : side.poll endpoint count = some polled) : polled.state = side.state := by
  unfold poll at taken
  split at taken
  · cases taken
  · split at taken
    · obtain rfl := Option.some.inj taken
      rfl
    · cases taken

/-- At the end of a frame the message that is read is the next one. -/
theorem Tracks.finish {side : Reading State Future Byte} {sent : List In} {read count : Nat} {m : In}
    (tracks : Tracks endpoint side sent read) (next : sent[read]? = some m)
    (complete : endpoint.framing.consumed side.recv ++ side.inbound.take count = endpoint.framing.frame m) :
    Tracks endpoint ⟨side.state,endpoint.framing.start,side.inbound.drop count⟩ sent (read + 1) := by
  obtain ⟨bound,rest⟩ := drop_next sent read m next
  refine ⟨bound,?_,fun other _ => endpoint.framing.start_inside other⟩
  have stream := tracks.stream
  rw [rest,List.flatMap_cons,← side.take_rest _ count,complete] at stream
  rw [endpoint.framing.start_consumed,List.nil_append]
  exact List.append_cancel_left stream

theorem Tracks.receive [DecidableEq In] {side received : Reading State Future Byte} {sent : List In} {read : Nat}
    {event : Event} {count : Nat} (tracks : Tracks endpoint side sent read)
    (carried : ∀ m ∈ sent, endpoint.framing.Carries m)
    (boundary : endpoint.drops event = true → endpoint.framing.consumed side.recv = [])
    (taken : side.receive endpoint event count = some received) :
    ∃ after, endpoint.party.advance sent read event = some after ∧ Tracks endpoint received sent after ∧
      received.state = side.state := by
  unfold Reading.receive at taken
  unfold Party.advance
  cases reads : endpoint.party.reads event with
  | none =>
    rw [reads] at taken
    obtain rfl := Option.some.inj taken
    refine ⟨read,rfl,?_⟩
    cases drops : endpoint.drops event with
    | false => exact ⟨tracks,rfl⟩
    | true =>
      have fresh := endpoint.framing.untouched side.recv (boundary drops)
      refine ⟨?_,rfl⟩
      change Tracks endpoint {side with recv := endpoint.framing.start} sent read
      rw [← fresh]
      exact tracks
  | some message =>
    simp only [reads] at taken
    split at taken
    · cases taken
    · rename_i enabled
      push Not at enabled
      obtain ⟨positive,available,asked⟩ := enabled
      obtain ⟨m,next,part⟩ := tracks.piece count positive (by omega) (by omega)
      have size : (side.inbound.take count).length ≤ endpoint.framing.needed side.recv := by
        rw [side.take_length count (by omega)]
        omega
      obtain ⟨future,fed,_⟩ | ⟨fed,complete⟩ :=
        endpoint.framing.fed m side.recv _ (carried m (List.mem_of_getElem? next)) (tracks.partly m next) size part
      · rw [fed] at taken
        cases taken
      · rw [fed] at taken
        dsimp only at taken
        split at taken
        · rename_i same
          obtain rfl := Option.some.inj taken
          subst same
          exact ⟨read + 1,if_pos next,tracks.finish next complete,rfl⟩
        · cases taken

theorem Tracks.at_state {side : Reading State Future Byte} {sent : List In} {read : Nat}
    (tracks : Tracks endpoint side sent read) (state : State) :
    Tracks endpoint {side with state := state} sent read := ⟨tracks.inside,tracks.stream,tracks.partly⟩

/-- The other end writes on. -/
theorem Tracks.grow {side : Reading State Future Byte} {sent : List In} {read : Nat}
    (tracks : Tracks endpoint side sent read) (more : List In) :
    Tracks endpoint {side with inbound := side.inbound ++ more.flatMap endpoint.framing.frame} (sent ++ more) read := by
  have inside := tracks.inside
  refine ⟨?_,?_,?_⟩
  · rw [List.length_append]
    omega
  · rw [List.drop_append_of_le_length inside,List.flatMap_append,← tracks.stream,List.append_assoc]
  · intro m next
    by_cases unread : read < sent.length
    · rw [List.getElem?_append_left unread] at next
      exact tracks.partly m next
    · have stream := tracks.stream
      rw [List.drop_eq_nil_of_le (Nat.le_of_not_lt unread),List.flatMap_nil] at stream
      have fresh := endpoint.framing.untouched side.recv (List.append_eq_nil_iff.mp stream).1
      change endpoint.framing.Inside m side.recv
      rw [fresh]
      exact endpoint.framing.start_inside m

/-- A message that was written can be read: by polls that each take what the future asks for, and the event. -/
theorem Tracks.readable [DecidableEq In] {side : Reading State Future Byte} {sent : List In} {read : Nat} {m : In}
    {event : Event} (tracks : Tracks endpoint side sent read) (carried : ∀ m ∈ sent, endpoint.framing.Carries m)
    (next : sent[read]? = some m) (reads : endpoint.party.reads event = some m) :
    ∃ counts count polled received, exec (Reading.poll endpoint) side counts = some polled ∧
      polled.receive endpoint event count = some received ∧ received.recv = endpoint.framing.start := by
  induction left : (endpoint.framing.frame m).length - (endpoint.framing.consumed side.recv).length
    using Nat.strongRecOn generalizing side with
  | ind bytes ih =>
    subst left
    have partly := tracks.partly m next
    obtain ⟨positive,fits⟩ := endpoint.framing.asks m side.recv partly
    obtain ⟨bound,rest⟩ := drop_next sent read m next
    have available : endpoint.framing.needed side.recv ≤ side.inbound.length := by
      have length := congrArg List.length tracks.stream
      rw [rest,List.flatMap_cons,List.length_append,List.length_append] at length
      omega
    have enabled : ¬(endpoint.framing.needed side.recv = 0 ∨
        side.inbound.length < endpoint.framing.needed side.recv ∨
        endpoint.framing.needed side.recv < endpoint.framing.needed side.recv) := by omega
    obtain ⟨other,same,part⟩ := tracks.piece _ (Nat.ne_of_gt positive) available (Nat.le_refl _)
    obtain rfl := Option.some.inj (next.symm.trans same)
    have size := side.take_length _ available
    obtain ⟨future,fed,inside,consumed⟩ | ⟨fed,_⟩ :=
      endpoint.framing.fed m side.recv _ (carried m (List.mem_of_getElem? next)) partly (Nat.le_of_eq size) part
    · have polled : side.poll endpoint (endpoint.framing.needed side.recv) = some ⟨side.state,future,
          side.inbound.drop (endpoint.framing.needed side.recv)⟩ := by
        unfold Reading.poll
        rw [if_neg enabled,fed]
      have later := tracks.poll carried polled
      have shorter : (endpoint.framing.frame m).length - (endpoint.framing.consumed future).length <
          (endpoint.framing.frame m).length - (endpoint.framing.consumed side.recv).length := by
        rw [consumed,List.length_append,size]
        omega
      obtain ⟨counts,count,last,received,run,ended⟩ := ih _ shorter later rfl
      refine ⟨endpoint.framing.needed side.recv :: counts,count,last,received,?_,ended⟩
      exact (exec_cons _ _ _ _ _).mpr ⟨_,polled,run⟩
    · refine ⟨[],endpoint.framing.needed side.recv,side,⟨side.state,endpoint.framing.start,
        side.inbound.drop (endpoint.framing.needed side.recv)⟩,rfl,?_,rfl⟩
      unfold Reading.receive
      rw [reads]
      dsimp only
      rw [if_neg enabled,fed]
      exact if_pos rfl

theorem polls_state {side polled : Reading State Future Byte} {counts : List Nat}
    (run : exec (Reading.poll endpoint) side counts = some polled) : polled.state = side.state := by
  refine exec_kept (Reading.poll endpoint) (fun r => r.state = side.state) counts ?_ side polled rfl run
  intro before count after _ kept taken
  exact (poll_state taken).trans kept

/-- Between frames, an event that the connection of messages allows has polls after which it is allowed here. -/
theorem Tracks.receivable [DecidableEq In] {side : Reading State Future Byte} {sent : List In} {read after : Nat}
    {event : Event} (tracks : Tracks endpoint side sent read) (carried : ∀ m ∈ sent, endpoint.framing.Carries m)
    (fresh : side.recv = endpoint.framing.start) (advanced : endpoint.party.advance sent read event = some after) :
    ∃ counts count polled received, exec (Reading.poll endpoint) side counts = some polled ∧
      polled.receive endpoint event count = some received ∧ received.recv = endpoint.framing.start ∧
      (endpoint.drops event = true → endpoint.framing.consumed polled.recv = []) := by
  unfold Party.advance at advanced
  cases reads : endpoint.party.reads event with
  | none =>
    refine ⟨[],0,side,_,rfl,by unfold Reading.receive; rw [reads],?_,?_⟩
    · split
      · rfl
      · exact fresh
    · intro _
      rw [fresh]
      exact endpoint.framing.start_consumed
  | some m =>
    simp only [reads] at advanced
    split at advanced
    · rename_i next
      obtain ⟨counts,count,polled,received,run,taken,started⟩ := tracks.readable carried next reads
      refine ⟨counts,count,polled,received,run,taken,started,?_⟩
      intro drops
      cases reads.symm.trans (endpoint.drops_unread event drops)
    · cases advanced

end Reading

/-- A connection of bytes. -/
structure Wired (A B F G Byte : Type) where
  left : Reading A F Byte
  right : Reading B G Byte

inductive Wired.Turn (E E' : Type) where
  | pollLeft (count : Nat)
  | pollRight (count : Nat)
  | left (event : E) (count : Nat)
  | right (event : E') (count : Nat)

/-- The step of the connection of messages that a turn is, if it is one. -/
def Wired.Turn.message {E E' : Type} : Wired.Turn E E' → Option (Duplex.Turn E E')
  | .pollLeft _ | .pollRight _ => none
  | .left event _ => some (.left event)
  | .right event _ => some (.right event)

namespace Wired

variable {A B E E' M N Byte F G : Type} (P : Endpoint A E N M Byte F) (Q : Endpoint B E' M N Byte G)

def start (left : A) (right : B) : Wired A B F G Byte where
  left := ⟨left,P.framing.start,(Q.party.wrote right).flatMap P.framing.frame⟩
  right := ⟨right,Q.framing.start,(P.party.wrote left).flatMap Q.framing.frame⟩

/-- What a step has written. -/
def written {S E'' In Out : Type} (party : Party S E'' In Out) (before after : S) : List Out :=
  (party.wrote after).drop (party.wrote before).length

variable [DecidableEq M] [DecidableEq N]

def step (w : Wired A B F G Byte) : Turn E E' → Option (Wired A B F G Byte)
  | .pollLeft count => (w.left.poll P count).map fun left => {w with left := left}
  | .pollRight count => (w.right.poll Q count).map fun right => {w with right := right}
  | .left event count => do
    let received ← w.left.receive P event count
    let state ← P.party.step w.left.state event
    return {
      left := {received with state := state}
      right := {w.right with
        inbound := w.right.inbound ++ (written P.party w.left.state state).flatMap Q.framing.frame}}
  | .right event count => do
    let received ← w.right.receive Q event count
    let state ← Q.party.step w.right.state event
    return {
      left := {w.left with
        inbound := w.left.inbound ++ (written Q.party w.right.state state).flatMap P.framing.frame}
      right := {received with state := state}}

/-- A turn drops no future that has taken a byte. -/
def AtBoundary (w : Wired A B F G Byte) : Turn E E' → Prop
  | .left event _ => P.drops event = true → P.framing.consumed w.left.recv = []
  | .right event _ => Q.drops event = true → Q.framing.consumed w.right.recv = []
  | _ => True

/-- The turns of messages among the turns of bytes. -/
def messages (turns : List (Turn E E')) : List (Duplex.Turn E E') := turns.filterMap Turn.message

structure Carried (a : A) (b : B) : Prop where
  left : ∀ m ∈ P.party.wrote a, Q.framing.Carries m
  right : ∀ m ∈ Q.party.wrote b, P.framing.Carries m

/-- The two levels at the same point. -/
structure Same (w : Wired A B F G Byte) (link : Duplex A B) : Prop where
  left : w.left.state = link.left
  right : w.right.state = link.right
  leftTracks : w.left.Tracks P (Q.party.wrote link.right) link.leftRead
  rightTracks : w.right.Tracks Q (P.party.wrote link.left) link.rightRead

/-- Neither end is inside a frame. -/
structure Fresh (w : Wired A B F G Byte) : Prop where
  left : w.left.recv = P.framing.start
  right : w.right.recv = Q.framing.start

variable {P Q}

theorem wrote_written {S E'' In Out : Type} (party : Party S E'' In Out) (before after : S)
    (grown : party.wrote before <+: party.wrote after) :
    party.wrote before ++ written party before after = party.wrote after := by
  obtain ⟨more,same⟩ := grown
  rw [written,← same,List.drop_left]

omit [DecidableEq M] [DecidableEq N] in
theorem start_same (left : A) (right : B) : Same P Q (start P Q left right) (Duplex.start left right) :=
  ⟨rfl,rfl,.start left _,.start right _⟩

theorem step_left (w after : Wired A B F G Byte) (event : E) (count : Nat)
    (taken : step P Q w (.left event count) = some after) :
    ∃ received state, w.left.receive P event count = some received ∧ P.party.step w.left.state event = some state ∧
      after = ⟨{received with state := state},{w.right with
        inbound := w.right.inbound ++ (written P.party w.left.state state).flatMap Q.framing.frame}⟩ := by
  obtain ⟨received,reads,taken⟩ := Option.bind_eq_some_iff.mp taken
  obtain ⟨state,stepped,taken⟩ := Option.bind_eq_some_iff.mp taken
  exact ⟨received,state,reads,stepped,(Option.some.inj taken).symm⟩

theorem step_right (w after : Wired A B F G Byte) (event : E') (count : Nat)
    (taken : step P Q w (.right event count) = some after) :
    ∃ received state, w.right.receive Q event count = some received ∧ Q.party.step w.right.state event = some state ∧
      after = ⟨{w.left with
        inbound := w.left.inbound ++ (written Q.party w.right.state state).flatMap P.framing.frame},
        {received with state := state}⟩ := by
  obtain ⟨received,reads,taken⟩ := Option.bind_eq_some_iff.mp taken
  obtain ⟨state,stepped,taken⟩ := Option.bind_eq_some_iff.mp taken
  exact ⟨received,state,reads,stepped,(Option.some.inj taken).symm⟩

/-- A turn at a boundary is a step of the connection of messages, or none. -/
theorem step_same (w after : Wired A B F G Byte) (link : Duplex A B) (turn : Turn E E') (same : Same P Q w link)
    (carried : Carried P Q link.left link.right) (boundary : AtBoundary P Q w turn)
    (taken : step P Q w turn = some after) :
    ∃ next, exec (Duplex.step P.party Q.party) link turn.message.toList = some next ∧ Same P Q after next := by
  cases turn with
  | pollLeft count =>
    obtain ⟨polled,poll,rfl⟩ := Option.map_eq_some_iff.mp taken
    have tracks := same.leftTracks.poll carried.right poll
    exact ⟨link,rfl,(Reading.poll_state poll).trans same.left,same.right,tracks,same.rightTracks⟩
  | pollRight count =>
    obtain ⟨polled,poll,rfl⟩ := Option.map_eq_some_iff.mp taken
    have tracks := same.rightTracks.poll carried.left poll
    exact ⟨link,rfl,same.left,(Reading.poll_state poll).trans same.right,same.leftTracks,tracks⟩
  | left event count =>
    obtain ⟨received,state,reads,stepped,rfl⟩ := step_left w after event count taken
    obtain ⟨read,advanced,tracks,_⟩ := same.leftTracks.receive carried.right boundary reads
    rw [same.left] at stepped
    refine ⟨{link with left := state, leftRead := read},?_,rfl,same.right,tracks.at_state state,?_⟩
    · refine (exec_cons _ _ _ _ _).mpr ⟨_,?_,rfl⟩
      simp [Duplex.step,advanced,stepped]
    · rw [same.left]
      have grown := same.rightTracks.grow (written P.party link.left state)
      rw [wrote_written P.party _ _ (P.party.appends _ _ _ stepped)] at grown
      exact grown
  | right event count =>
    obtain ⟨received,state,reads,stepped,rfl⟩ := step_right w after event count taken
    obtain ⟨read,advanced,tracks,_⟩ := same.rightTracks.receive carried.left boundary reads
    rw [same.right] at stepped
    refine ⟨{link with right := state, rightRead := read},?_,same.left,rfl,?_,tracks.at_state state⟩
    · refine (exec_cons _ _ _ _ _).mpr ⟨_,?_,rfl⟩
      simp [Duplex.step,advanced,stepped]
    · rw [same.right]
      have grown := same.leftTracks.grow (written Q.party link.right state)
      rw [wrote_written Q.party _ _ (Q.party.appends _ _ _ stepped)] at grown
      exact grown

omit [DecidableEq M] [DecidableEq N] in
/-- Less was written earlier. -/
theorem Carried.earlier {a a' : A} {b b' : B} (carried : Carried P Q a' b')
    (left : P.party.wrote a <+: P.party.wrote a') (right : Q.party.wrote b <+: Q.party.wrote b') : Carried P Q a b :=
  ⟨fun m member => carried.left m (left.subset member),fun m member => carried.right m (right.subset member)⟩

theorem step_grows (w after : Wired A B F G Byte) (turn : Turn E E') (taken : step P Q w turn = some after) :
    P.party.wrote w.left.state <+: P.party.wrote after.left.state ∧
      Q.party.wrote w.right.state <+: Q.party.wrote after.right.state := by
  cases turn with
  | pollLeft count =>
    obtain ⟨polled,poll,rfl⟩ := Option.map_eq_some_iff.mp taken
    rw [Reading.poll_state poll]
    exact ⟨List.prefix_rfl,List.prefix_rfl⟩
  | pollRight count =>
    obtain ⟨polled,poll,rfl⟩ := Option.map_eq_some_iff.mp taken
    rw [Reading.poll_state poll]
    exact ⟨List.prefix_rfl,List.prefix_rfl⟩
  | left event count =>
    obtain ⟨received,state,_,stepped,rfl⟩ := step_left w after event count taken
    exact ⟨P.party.appends _ _ _ stepped,List.prefix_rfl⟩
  | right event count =>
    obtain ⟨received,state,_,stepped,rfl⟩ := step_right w after event count taken
    exact ⟨List.prefix_rfl,Q.party.appends _ _ _ stepped⟩

theorem run_grows (w after : Wired A B F G Byte) (turns : List (Turn E E'))
    (run : exec (step P Q) w turns = some after) :
    P.party.wrote w.left.state <+: P.party.wrote after.left.state ∧
      Q.party.wrote w.right.state <+: Q.party.wrote after.right.state := by
  refine exec_kept (step P Q) (fun r => P.party.wrote w.left.state <+: P.party.wrote r.left.state ∧
    Q.party.wrote w.right.state <+: Q.party.wrote r.right.state) turns ?_ w after
    ⟨List.prefix_rfl,List.prefix_rfl⟩ run
  intro before turn next _ kept taken
  obtain ⟨left,right⟩ := step_grows before next turn taken
  exact ⟨kept.1.trans left,kept.2.trans right⟩

/-- Erasing the polls of a run of bytes gives a run of messages. -/
theorem run_same (w after : Wired A B F G Byte) (link : Duplex A B) (turns : List (Turn E E'))
    (same : Same P Q w link) (carried : Carried P Q after.left.state after.right.state)
    (boundary : Along (step P Q) (AtBoundary P Q) w turns) (run : exec (step P Q) w turns = some after) :
    ∃ last, exec (Duplex.step P.party Q.party) link (messages turns) = some last ∧ Same P Q after last := by
  induction turns generalizing w link with
  | nil =>
    obtain rfl : w = after := by simpa [exec] using run
    exact ⟨link,rfl,same⟩
  | cons turn rest ih =>
    obtain ⟨next,taken,later⟩ := (exec_cons _ _ _ _ _).mp run
    obtain ⟨left,right⟩ := run_grows w after (turn :: rest) run
    have now : Carried P Q link.left link.right := by
      rw [← same.left,← same.right]
      exact carried.earlier left right
    obtain ⟨link',first,same'⟩ := step_same w next link turn same now boundary.1 taken
    obtain ⟨last,others,ended⟩ := ih next link' same' (boundary.2 next taken) later
    refine ⟨last,?_,ended⟩
    have split : messages (turn :: rest) = turn.message.toList ++ messages rest := by
      unfold messages
      rw [List.filterMap_cons]
      cases turn.message with
      | none => rfl
      | some message => rfl
    rw [split,exec_append,first]
    exact others

theorem exec_pollLeft (w : Wired A B F G Byte) (polled : Reading A F Byte) (counts : List Nat)
    (run : exec (Reading.poll P) w.left counts = some polled) :
    exec (step P Q) w (counts.map .pollLeft) = some {w with left := polled} := by
  induction counts generalizing w with
  | nil =>
    obtain rfl : w.left = polled := by simpa [exec] using run
    rfl
  | cons count rest ih =>
    obtain ⟨next,taken,later⟩ := (exec_cons _ _ _ _ _).mp run
    refine (exec_cons _ _ _ _ _).mpr ⟨{w with left := next},?_,ih _ later⟩
    simp [step,taken]

theorem exec_pollRight (w : Wired A B F G Byte) (polled : Reading B G Byte) (counts : List Nat)
    (run : exec (Reading.poll Q) w.right counts = some polled) :
    exec (step P Q) w (counts.map .pollRight) = some {w with right := polled} := by
  induction counts generalizing w with
  | nil =>
    obtain rfl : w.right = polled := by simpa [exec] using run
    rfl
  | cons count rest ih =>
    obtain ⟨next,taken,later⟩ := (exec_cons _ _ _ _ _).mp run
    refine (exec_cons _ _ _ _ _).mpr ⟨{w with right := next},?_,ih _ later⟩
    simp [step,taken]

theorem messages_append (before after : List (Turn E E')) :
    messages (before ++ after) = messages before ++ messages after := List.filterMap_append

theorem polls_boundary (w : Wired A B F G Byte) (turns : List (Turn E E'))
    (polls : ∀ turn ∈ turns, turn.message = none) : Along (step P Q) (AtBoundary P Q) w turns := by
  induction turns generalizing w with
  | nil => trivial
  | cons turn rest ih =>
    have unread := polls turn List.mem_cons_self
    refine ⟨?_,fun next _ => ih next fun other member => polls other (List.mem_cons_of_mem turn member)⟩
    cases turn with
    | pollLeft | pollRight => trivial
    | left | right => cases unread

/-- A run of bytes that is one step of messages and ends between frames. -/
def Reached (P : Endpoint A E N M Byte F) (Q : Endpoint B E' M N Byte G) (w : Wired A B F G Byte)
    (turn : Duplex.Turn E E') (next : Duplex A B) : Prop :=
  ∃ turns after, messages turns = [turn] ∧ exec (step P Q) w turns = some after ∧
    Along (step P Q) (AtBoundary P Q) w turns ∧ Same P Q after next ∧ Fresh P Q after

/-- Polls, and then the event they were for. -/
theorem reached_of_polls (w polled after : Wired A B F G Byte) (link next : Duplex A B) (polls : List (Turn E E'))
    (turn : Turn E E') (message : Duplex.Turn E E') (is_message : turn.message = some message)
    (same : Same P Q w link) (carried : Carried P Q link.left link.right)
    (unread : ∀ poll ∈ polls, poll.message = none) (run : exec (step P Q) w polls = some polled)
    (states : polled.left.state = w.left.state ∧ polled.right.state = w.right.state)
    (boundary : AtBoundary P Q polled turn) (taken : step P Q polled turn = some after) (fresh : Fresh P Q after)
    (stepped : Duplex.step P.party Q.party link message = some next) : Reached P Q w message next := by
  have none_read : messages polls = [] := List.filterMap_eq_nil_iff.mpr unread
  have aside := polls_boundary (P := P) (Q := Q) w polls unread
  have still : Carried P Q polled.left.state polled.right.state := by
    rw [states.1,states.2,same.left,same.right]
    exact carried
  obtain ⟨other,unmoved,waiting⟩ := run_same w polled link polls same still aside run
  rw [none_read] at unmoved
  obtain rfl := Option.some.inj unmoved
  obtain ⟨last,moved,ended⟩ := step_same polled after link turn waiting carried boundary taken
  rw [is_message,Option.toList_some,exec,stepped,Option.bind_some] at moved
  obtain rfl := Option.some.inj moved
  refine ⟨polls ++ [turn],after,?_,?_,?_,ended,fresh⟩
  · rw [messages_append,none_read,List.nil_append]
    simp [messages,is_message]
  · rw [exec_append,run,Option.bind_some,exec,taken]
    rfl
  · exact (along_snoc _ _ _ _ _ _ run).mpr ⟨aside,boundary⟩

theorem left_reached (w : Wired A B F G Byte) (link next : Duplex A B) (event : E) (same : Same P Q w link)
    (fresh : Fresh P Q w) (carried : Carried P Q link.left link.right)
    (stepped : Duplex.step P.party Q.party link (.left event) = some next) : Reached P Q w (.left event) next := by
  obtain ⟨read,state,advanced,moved,_⟩ := Duplex.step_left P.party Q.party link next event stepped
  obtain ⟨counts,count,polled,received,polls,taken,started,boundary⟩ :=
    same.leftTracks.receivable carried.right fresh.left advanced
  have still : polled.state = w.left.state := Reading.polls_state polls
  refine reached_of_polls w {w with left := polled} ⟨{received with state := state},{w.right with
      inbound := w.right.inbound ++ (written P.party polled.state state).flatMap Q.framing.frame}⟩ link next
    (counts.map .pollLeft) (.left event count) (.left event) rfl same carried ?_
    (exec_pollLeft w polled counts polls) ⟨still,rfl⟩ boundary ?_ ⟨started,fresh.right⟩ stepped
  · intro poll member
    obtain ⟨_,_,rfl⟩ := List.mem_map.mp member
    rfl
  · rw [← same.left,← still] at moved
    simp [step,taken,moved]

theorem right_reached (w : Wired A B F G Byte) (link next : Duplex A B) (event : E') (same : Same P Q w link)
    (fresh : Fresh P Q w) (carried : Carried P Q link.left link.right)
    (stepped : Duplex.step P.party Q.party link (.right event) = some next) : Reached P Q w (.right event) next := by
  obtain ⟨read,state,advanced,moved,_⟩ := Duplex.step_right P.party Q.party link next event stepped
  obtain ⟨counts,count,polled,received,polls,taken,started,boundary⟩ :=
    same.rightTracks.receivable carried.left fresh.right advanced
  have still : polled.state = w.right.state := Reading.polls_state polls
  refine reached_of_polls w {w with right := polled} ⟨{w.left with
      inbound := w.left.inbound ++ (written Q.party polled.state state).flatMap P.framing.frame},
      {received with state := state}⟩ link next
    (counts.map .pollRight) (.right event count) (.right event) rfl same carried ?_
    (exec_pollRight w polled counts polls) ⟨rfl,still⟩ boundary ?_ ⟨fresh.left,started⟩ stepped
  · intro poll member
    obtain ⟨_,_,rfl⟩ := List.mem_map.mp member
    rfl
  · rw [← same.right,← still] at moved
    simp [step,taken,moved]

/-- Every run of messages that are carried is one of bytes. -/
theorem run_reached (w : Wired A B F G Byte) (link last : Duplex A B) (turns : List (Duplex.Turn E E'))
    (same : Same P Q w link) (fresh : Fresh P Q w) (carried : Carried P Q last.left last.right)
    (run : exec (Duplex.step P.party Q.party) link turns = some last) :
    ∃ bytes after, messages bytes = turns ∧ exec (step P Q) w bytes = some after ∧
      Along (step P Q) (AtBoundary P Q) w bytes ∧ Same P Q after last := by
  induction turns generalizing w link with
  | nil =>
    obtain rfl : link = last := by simpa [exec] using run
    exact ⟨[],w,rfl,rfl,trivial,same⟩
  | cons turn rest ih =>
    obtain ⟨next,stepped,later⟩ := (exec_cons _ _ _ _ _).mp run
    have now : Carried P Q link.left link.right := by
      obtain ⟨left,right⟩ := Duplex.run_grows P.party Q.party link last (turn :: rest) run
      exact carried.earlier left right
    have reached : Reached P Q w turn next := by
      cases turn with
      | left event => exact left_reached w link next event same fresh now stepped
      | right event => exact right_reached w link next event same fresh now stepped
    obtain ⟨first,between,one,ran,bounded,same',fresh'⟩ := reached
    obtain ⟨others,after,many,ran',bounded',ended⟩ := ih between next same' fresh' later
    refine ⟨first ++ others,after,?_,?_,?_,ended⟩
    · rw [messages_append,one,many]
      rfl
    · rw [exec_append,ran]
      exact ran'
    · exact (along_append _ _ _ _ _ _ ran).mpr ⟨bounded,bounded'⟩

/-- The connection of bytes and that of messages come to the same two states by the same messages. -/
theorem runs_iff (left : A) (right : B) (a : A) (b : B) (turns : List (Duplex.Turn E E')) (carried : Carried P Q a b) :
    (∃ bytes w, messages bytes = turns ∧ exec (step P Q) (start P Q left right) bytes = some w ∧
      Along (step P Q) (AtBoundary P Q) (start P Q left right) bytes ∧ w.left.state = a ∧ w.right.state = b) ↔
    ∃ link, exec (Duplex.step P.party Q.party) (Duplex.start left right) turns = some link ∧
      link.left = a ∧ link.right = b := by
  constructor
  · intro wired
    obtain ⟨bytes,w,rfl,run,boundary,rfl,rfl⟩ := wired
    obtain ⟨link,reached,same⟩ := run_same _ w _ bytes (start_same left right) carried boundary run
    exact ⟨link,reached,same.left.symm,same.right.symm⟩
  · intro linked
    obtain ⟨link,run,rfl,rfl⟩ := linked
    obtain ⟨bytes,w,erased,reached,boundary,same⟩ :=
      run_reached _ _ link turns (start_same left right) ⟨rfl,rfl⟩ carried run
    exact ⟨bytes,w,erased,reached,boundary,same.left,same.right⟩

end Wired
end ClearCam.Library
