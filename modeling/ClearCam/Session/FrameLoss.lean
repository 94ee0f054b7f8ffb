import ClearCam.Library.Frames
import ClearCam.Session.SelectLoop

/-! What the plane processes when its other branches drop `recv` inside a frame: less than was sent, but
nothing that was not. JSON text in the place of a length declares more than a frame may hold, and what
follows the end of a length does not open a JSON object. -/
namespace ClearCam.Session
open ClearCam.Protocol ClearCam.Transport ClearCam.Library

/-- What a JSON object may begin with: a brace, or white space before it. -/
def Opens (byte : UInt8) : Prop := byte = 0x7b ∨ byte = 0x20 ∨ byte = 0x09 ∨ byte = 0x0a ∨ byte = 0x0d

/-- The text of an object as both writers write it: no white space before its first key, and no control character. -/
structure ObjectText (json : List UInt8) : Prop where
  opening : ∃ key rest, json = 0x7b :: 0x22 :: key :: rest ∧ ¬Opens key
  printed : ∀ byte ∈ json, 0x20 ≤ byte.toNat

theorem beValue_four (a b c d : UInt8) :
    beValue [a,b,c,d] = ((a.toNat * 256 + b.toNat) * 256 + c.toNat) * 256 + d.toNat := by
  simp [beValue]

/-- Where a frame has been entered, four bytes that declare a length are followed by no object. -/
theorem unopened_within (json front rest more length after : List UInt8) (text : ObjectText json)
    (cut : framed json = front ++ rest) (entered : front ≠ []) (unfinished : rest ≠ [])
    (stream : rest ++ more = length ++ after) (four : length.length = 4) (small : beValue length ≤ defaultMaxPayload) :
    ∀ byte ∈ after.head?, ¬Opens byte := by
  obtain ⟨key,tail,rfl,unopened⟩ := text.opening
  obtain ⟨a,b,c,d,rfl⟩ := List.length_eq_four.mp four
  have width := beBytes_length prefixLen (0x7b :: 0x22 :: key :: tail : List UInt8).length
  obtain ⟨p,q,r,s,header⟩ := List.length_eq_four.mp width
  rw [beValue_four] at small
  change _ ≤ 1048576 at small
  rw [framed,header] at cut
  simp only [List.cons_append,List.nil_append] at cut stream
  have quote : ¬Opens 0x22 := by unfold Opens; decide
  cases front with
  | nil => exact absurd rfl entered
  | cons w front =>
    rw [List.cons_append,List.cons.injEq] at cut
    obtain ⟨rfl,cut⟩ := cut
    cases front with
    | nil =>
      -- the length ends with the brace, and the quote of the first key follows
      rw [List.nil_append] at cut
      subst cut
      simp only [List.cons_append,List.cons.injEq] at stream
      obtain ⟨_,_,_,_,rfl⟩ := stream
      intro byte member
      cases member
      exact quote
    | cons x front =>
      rw [List.cons_append,List.cons.injEq] at cut
      obtain ⟨rfl,cut⟩ := cut
      cases front with
      | nil =>
        -- the length ends with the quote, and the first key follows
        rw [List.nil_append] at cut
        subst cut
        simp only [List.cons_append,List.cons.injEq] at stream
        obtain ⟨_,_,_,_,rfl⟩ := stream
        intro byte member
        cases member
        exact unopened
      | cons y front =>
        rw [List.cons_append,List.cons.injEq] at cut
        obtain ⟨rfl,cut⟩ := cut
        cases front with
        | nil =>
          -- the brace is the second byte of the length, which is too large
          rw [List.nil_append] at cut
          subst cut
          simp only [List.cons_append,List.cons.injEq] at stream
          obtain ⟨_,rfl,_⟩ := stream
          have brace : (0x7b : UInt8).toNat = 123 := rfl
          omega
        | cons z front =>
          -- the first byte of the length is one of the text, and the length too large
          rw [List.cons_append,List.cons.injEq] at cut
          obtain ⟨rfl,cut⟩ := cut
          cases rest with
          | nil => exact absurd rfl unfinished
          | cons first rest =>
            have member : first ∈ (0x7b :: 0x22 :: key :: tail : List UInt8) := by
              rw [cut]
              exact List.mem_append_right front List.mem_cons_self
            have large := text.printed first member
            simp only [List.cons_append,List.cons.injEq] at stream
            obtain ⟨rfl,_⟩ := stream
            omega

/-- A `read_frame` future whose reads are not over, wherever in the stream it was started. -/
def Waiting : ReadFrame → Prop
  | .header got => got.length < prefixLen
  | .payload len got => got.length < len ∧ len ≤ defaultMaxPayload

theorem feed_cases (future : ReadFrame) (bytes : List UInt8) (waiting : Waiting future)
    (asked : bytes.length ≤ future.needed) :
    (∃ next, future.feed bytes = .pending next ∧ Waiting next ∧ next.consumed = future.consumed ++ bytes) ∨
    (∃ payload, future.feed bytes = .ready (.ok payload) ∧ payload.length ≤ defaultMaxPayload ∧
      future.consumed ++ bytes = framed payload) ∨
    ∃ error, future.feed bytes = .ready (.error error) := by
  cases future with
  | header got =>
    by_cases more : (got ++ bytes).length < prefixLen
    · exact .inl ⟨.header (got ++ bytes),by simp only [ReadFrame.feed,if_pos more],more,rfl⟩
    · change bytes.length ≤ prefixLen - got.length at asked
      change got.length < prefixLen at waiting
      have full : (got ++ bytes).length = prefixLen := by
        rw [List.length_append] at more ⊢
        omega
      have declared : beBytes prefixLen (beValue (got ++ bytes)) = got ++ bytes := by
        rw [← full]
        exact beBytes_beValue (got ++ bytes)
      by_cases large : beValue (got ++ bytes) > defaultMaxPayload
      · refine .inr (.inr ⟨.frameTooLarge (beValue (got ++ bytes)),?_⟩)
        simp only [ReadFrame.feed,if_neg more,if_pos large]
      · by_cases empty : beValue (got ++ bytes) = 0
        · refine .inr (.inl ⟨[],?_,Nat.zero_le _,?_⟩)
          · simp only [ReadFrame.feed,if_neg more,if_neg large,if_pos empty]
          · rw [empty] at declared
            change got ++ bytes = beBytes prefixLen 0 ++ []
            rw [declared,List.append_nil]
        · have within_cap := Nat.le_of_not_lt large
          refine .inl ⟨.payload (beValue (got ++ bytes)) [],?_,⟨Nat.pos_of_ne_zero empty,within_cap⟩,?_⟩
          · simp only [ReadFrame.feed,if_neg more,if_neg large,if_neg empty]
          · change beBytes prefixLen (beValue (got ++ bytes)) ++ [] = got ++ bytes
            rw [declared,List.append_nil]
  | payload len got =>
    obtain ⟨short,small⟩ := waiting
    change bytes.length ≤ len - got.length at asked
    by_cases more : (got ++ bytes).length < len
    · refine .inl ⟨.payload len (got ++ bytes),by simp only [ReadFrame.feed,if_pos more],⟨more,small⟩,?_⟩
      exact (List.append_assoc _ _ _).symm
    · have full : (got ++ bytes).length = len := by
        rw [List.length_append] at more ⊢
        omega
      have within_cap := Nat.le_trans (Nat.le_of_eq full) small
      refine .inr (.inl ⟨got ++ bytes,by simp only [ReadFrame.feed,if_neg more],within_cap,?_⟩)
      change beBytes prefixLen len ++ got ++ bytes = beBytes prefixLen (got ++ bytes).length ++ (got ++ bytes)
      rw [full,List.append_assoc]

theorem waiting_start : Waiting .start := by
  change 0 < prefixLen
  decide

/-- What the text layer promises of the envelopes that were sent, and of what it takes for one. -/
structure Texts (serde : Serde) (sent : List ControlEnvelope) : Prop where
  roundTrip : ∀ env ∈ sent, serde.fromSlice (serde.toVec env) = some env
  small : ∀ env ∈ sent, (serde.toVec env).length ≤ defaultMaxPayload
  objects : ∀ env ∈ sent, ObjectText (serde.toVec env)
  opens : ∀ text env, serde.fromSlice text = some env → ∃ byte ∈ text.head?, Opens byte

theorem Texts.part (serde : Serde) (skipped later : List ControlEnvelope) (texts : Texts serde (skipped ++ later)) :
    Texts serde later where
  roundTrip env member := texts.roundTrip env (List.mem_append_right skipped member)
  small env member := texts.small env (List.mem_append_right skipped member)
  objects env member := texts.objects env (List.mem_append_right skipped member)
  opens := texts.opens

/-- An envelope that is read, from wherever in the stream, is the next one there. -/
theorem read_next (serde : Serde) (later : List ControlEnvelope) (payload more : List UInt8) (env : ControlEnvelope)
    (texts : Texts serde later) (small : payload.length ≤ defaultMaxPayload) (read : serde.fromSlice payload = some env)
    (remains : Remains (fun env => framed (serde.toVec env)) later (framed payload ++ more)) :
    ∃ rest, later = env :: rest ∧ more = rest.flatMap fun env => framed (serde.toVec env) := by
  generalize whole : framed payload ++ more = stream at remains
  cases remains with
  | between =>
    cases later with
    | nil =>
      have length := congrArg List.length whole
      simp [framed,prefixLen] at length
    | cons m rest =>
      have fits := texts.small m List.mem_cons_self
      rw [List.flatMap_cons,framed,framed,List.append_assoc,List.append_assoc] at whole
      obtain ⟨lengths,whole⟩ := List.append_inj whole (by rw [beBytes_length,beBytes_length])
      have same : payload.length = (serde.toVec m).length := by
        have bound : defaultMaxPayload < 256 ^ prefixLen := by decide
        rw [← beValue_beBytes prefixLen payload.length (Nat.lt_of_le_of_lt small bound),lengths,
          beValue_beBytes prefixLen _ (Nat.lt_of_le_of_lt fits bound)]
      obtain ⟨rfl,rfl⟩ := List.append_inj whole same
      have first := texts.roundTrip m List.mem_cons_self
      obtain rfl := Option.some.inj (first.symm.trans read)
      exact ⟨rest,rfl,rfl⟩
  | within m rest front left cut entered unfinished =>
    obtain ⟨byte,member,opens⟩ := texts.opens payload env read
    have bound : defaultMaxPayload < 256 ^ prefixLen := by decide
    have declared : beValue (beBytes prefixLen payload.length) = payload.length :=
      beValue_beBytes _ _ (Nat.lt_of_le_of_lt small bound)
    have unopened := unopened_within (serde.toVec m) front left _ (beBytes prefixLen payload.length) (payload ++ more)
      (texts.objects m List.mem_cons_self) cut entered unfinished (by rw [← whole,framed,List.append_assoc])
      (beBytes_length _ _) (Nat.le_trans (Nat.le_of_eq declared) small)
    refine absurd opens (unopened byte ?_)
    cases payload with
    | nil => cases member
    | cons first others => exact member

/-- What was processed is some of what has gone by, and the rest of the stream is that of later frames. -/
structure Lossy (serde : Serde) (sent : List ControlEnvelope) (loop : Loop) : Prop where
  waiting : Waiting loop.recv
  place : ∃ past later, sent = past ++ later ∧ loop.processed.Sublist past ∧
    Remains (fun env => framed (serde.toVec env)) later (loop.recv.consumed ++ (loop.reader ++ loop.inFlight))

/-- A `recv` is dropped or fails, and the bytes it had taken are gone. -/
theorem Lossy.lose (serde : Serde) (sent : List ControlEnvelope) (loop next : Loop) (taken : List UInt8)
    (lossy : Lossy serde sent loop) (processed : next.processed = loop.processed) (fresh : next.recv = .start)
    (stream : loop.recv.consumed ++ (loop.reader ++ loop.inFlight) = taken ++ (next.reader ++ next.inFlight)) :
    Lossy serde sent next := by
  obtain ⟨past,later,split,kept,before⟩ := lossy.place
  obtain ⟨skipped,rest,rfl,remains⟩ := before.drop taken.length
  rw [stream,List.drop_left] at remains
  refine ⟨by rw [fresh]; exact waiting_start,past ++ skipped,rest,by rw [split,List.append_assoc],?_,?_⟩
  · rw [processed]
    exact kept.trans (List.sublist_append_left past skipped)
  · rw [fresh]
    exact remains

/-- A frame is complete: the envelope is the next one of those sent, or there is none. -/
theorem Lossy.finish (serde : Serde) (sent : List ControlEnvelope) (loop rest : Loop) (moment : Moment)
    (payload : List UInt8) (texts : Texts serde sent) (lossy : Lossy serde sent loop)
    (processed : rest.processed = loop.processed) (small : payload.length ≤ defaultMaxPayload)
    (stream : loop.recv.consumed ++ (loop.reader ++ loop.inFlight) = framed payload ++ (rest.reader ++ rest.inFlight)) :
    Lossy serde sent (rest.finish moment (Loop.decode serde (.ok payload))) := by
  cases read : serde.fromSlice payload with
  | none =>
    have decoded : Loop.decode serde (.ok payload) = .error .json := by simp [Loop.decode,Except.bind,read]
    rw [decoded]
    refine lossy.lose serde sent loop _ (framed payload) ?_ rfl stream
    change rest.processed ++ [] = loop.processed
    rw [List.append_nil,processed]
  | some env =>
    have decoded : Loop.decode serde (.ok payload) = .ok env := by simp [Loop.decode,Except.bind,read]
    rw [decoded]
    obtain ⟨past,later,rfl,kept,remains⟩ := lossy.place
    rw [stream] at remains
    obtain ⟨others,rfl,more⟩ := read_next serde later payload _ env (texts.part serde past later) small read remains
    refine ⟨waiting_start,past ++ [env],others,List.append_cons past env others,?_,?_⟩
    · change (rest.processed ++ [env]).Sublist (past ++ [env])
      rw [processed]
      exact kept.append (List.Sublist.refl [env])
    · change Remains _ others ([] ++ (rest.reader ++ rest.inFlight))
      rw [List.nil_append,more]
      exact .between others

theorem Lossy.read (serde : Serde) (sent : List ControlEnvelope) (loop next : Loop) (count : Nat) (moment : Moment)
    (texts : Texts serde sent) (lossy : Lossy serde sent loop)
    (taken : loop.step serde (.read count moment) = some next) : Lossy serde sent next := by
  simp only [Loop.step] at taken
  split at taken
  · cases taken
  · rename_i enabled
    simp only [not_or] at enabled
    obtain ⟨_,_,available,asked⟩ := enabled
    have size : (loop.reader.take count).length = count := by
      rw [List.length_take]
      omega
    have split : loop.recv.consumed ++ (loop.reader ++ loop.inFlight) =
        loop.recv.consumed ++ loop.reader.take count ++ (loop.reader.drop count ++ loop.inFlight) := by
      rw [List.append_assoc,← List.append_assoc (loop.reader.take count),List.take_append_drop]
    obtain ⟨future,fed,waiting,consumed⟩ | ⟨payload,fed,small,complete⟩ | ⟨error,fed⟩ :=
      feed_cases loop.recv (loop.reader.take count) lossy.waiting (by omega)
    · rw [fed] at taken
      obtain rfl := Option.some.inj taken
      obtain ⟨past,later,order,kept,remains⟩ := lossy.place
      refine ⟨waiting,past,later,order,kept,?_⟩
      rw [split,← consumed] at remains
      exact remains
    · rw [fed] at taken
      obtain rfl := Option.some.inj taken
      rw [complete] at split
      exact lossy.finish serde sent loop _ moment payload texts rfl small split
    · rw [fed] at taken
      obtain rfl := Option.some.inj taken
      refine lossy.lose serde sent loop _ _ ?_ rfl split
      change loop.processed ++ [] = loop.processed
      exact List.append_nil _

theorem Lossy.step (serde : Serde) (sent : List ControlEnvelope) (loop next : Loop) (event : Event)
    (texts : Texts serde sent) (lossy : Lossy serde sent loop) (taken : loop.step serde event = some next) :
    Lossy serde sent next := by
  cases event with
  | arrive count =>
    obtain rfl := Option.some.inj taken
    obtain ⟨past,later,order,kept,remains⟩ := lossy.place
    refine ⟨lossy.waiting,past,later,order,kept,?_⟩
    rw [← List.take_append_drop count loop.inFlight,← List.append_assoc loop.reader] at remains
    exact remains
  | read count moment => exact lossy.read serde sent loop next count moment texts taken
  | broken unexpectedEof moment =>
    simp only [Loop.step] at taken
    split at taken
    · cases taken
    · obtain rfl := Option.some.inj taken
      refine lossy.lose serde sent loop _ loop.recv.consumed ?_ rfl rfl
      change loop.processed ++ [] = loop.processed
      exact List.append_nil _
  | tick moment =>
    simp only [Loop.step] at taken
    split at taken
    · cases taken
    · obtain rfl := Option.some.inj taken
      exact lossy.lose serde sent loop _ loop.recv.consumed rfl rfl rfl
  | outbound message moment =>
    simp only [Loop.step] at taken
    split at taken
    · cases taken
    · obtain rfl := Option.some.inj taken
      exact lossy.lose serde sent loop _ loop.recv.consumed rfl rfl rfl

/-- In every run, ticks and outbound messages inside frames included, the plane processes some of what the peer sent,
in its order, and nothing else. -/
theorem control_inbound_authentic (serde : Serde) (sent : List ControlEnvelope) (bytes : List UInt8)
    (channels : Channels) (plane : Plane) (events : List Event) (loop : Loop)
    (roundTrip : ∀ env ∈ sent, serde.fromSlice (serde.toVec env) = some env)
    (objects : ∀ env ∈ sent, ObjectText (serde.toVec env))
    (opens : ∀ text env, serde.fromSlice text = some env → ∃ byte ∈ text.head?, Opens byte)
    (written : writeFrames serde sent = .ok bytes)
    (run : exec (Loop.step serde) (.start bytes channels plane) events = some loop) :
    loop.processed.Sublist sent := by
  obtain ⟨small,rfl⟩ := writeFrames_ok serde sent bytes written
  have texts : Texts serde sent := ⟨roundTrip,small,objects,opens⟩
  have start : Lossy serde sent (.start (sent.flatMap fun env => framed (serde.toVec env)) channels plane) :=
    ⟨waiting_start,[],sent,rfl,List.Sublist.refl [],.between sent⟩
  have lossy : Lossy serde sent loop := by
    refine exec_kept (Loop.step serde) (Lossy serde sent) events ?_ _ loop start run
    intro before event after _ kept taken
    exact kept.step serde sent before after event texts taken
  obtain ⟨past,later,rfl,kept,_⟩ := lossy.place
  exact kept.trans (List.sublist_append_left past later)

def secondPing : ControlEnvelope := ⟨2,none,.ping ⟨5⟩⟩

def secondPingJson : List UInt8 := "\x7b\"seq\":2,\"t\":\"PING\",\"tsUsec\":5\x7d".toUTF8.data.toList

def twoPingsSerde : Serde where
  toVec env := if env = firstPing then firstPingJson else secondPingJson
  fromSlice bytes :=
    if bytes = firstPingJson then some firstPing else if bytes = secondPingJson then some secondPing else none

def twoPingsLoop : Loop :=
  .start (framed firstPingJson ++ framed secondPingJson) ⟨⟨.idle,none,none⟩,[]⟩ ⟨.wifi,100,0,none,[],false⟩

/-- Ticks that find three bytes of a length read, until the first frame has gone by; the second is read whole. -/
def ticksInsideFirst : List Event :=
  let moment : Moment := ⟨2000000000,0,none⟩
  .arrive 70 :: (List.replicate 11 [Event.read 3 moment,.tick moment]).flatten ++
    [.read 2 moment,.tick moment,.read 4 moment,.read 31 moment]

set_option maxRecDepth 8000 in
theorem control_inbound_authentic_skipped :
    ∃ loop, exec (Loop.step twoPingsSerde) twoPingsLoop ticksInsideFirst = some loop ∧
      loop.processed = [secondPing] ∧ loop.processed.Sublist [firstPing,secondPing] := by
  have ran : (exec (Loop.step twoPingsSerde) twoPingsLoop ticksInsideFirst).map (·.processed) = some [secondPing] := rfl
  obtain ⟨loop,run,processed⟩ := Option.map_eq_some_iff.mp ran
  have first : ObjectText firstPingJson := by
    have printed : firstPingJson.all (fun byte => decide (0x20 ≤ byte.toNat)) = true := rfl
    refine ⟨⟨0x73,_,rfl,by unfold Opens; decide⟩,?_⟩
    exact fun byte member => of_decide_eq_true (List.all_eq_true.mp printed byte member)
  have second : ObjectText secondPingJson := by
    have printed : secondPingJson.all (fun byte => decide (0x20 ≤ byte.toNat)) = true := rfl
    refine ⟨⟨0x73,_,rfl,by unfold Opens; decide⟩,?_⟩
    exact fun byte member => of_decide_eq_true (List.all_eq_true.mp printed byte member)
  refine ⟨loop,run,processed,control_inbound_authentic twoPingsSerde [firstPing,secondPing] _ _ _ ticksInsideFirst loop
    ?_ ?_ ?_ rfl run⟩
  · intro env member
    simp only [List.mem_cons,List.not_mem_nil,or_false] at member
    rcases member with rfl | rfl
    · rfl
    · rfl
  · intro env member
    simp only [List.mem_cons,List.not_mem_nil,or_false] at member
    rcases member with rfl | rfl
    · exact first
    · exact second
  · intro text env read
    simp only [twoPingsSerde] at read
    split at read
    · rename_i same
      exact ⟨0x7b,by rw [same]; rfl,.inl rfl⟩
    · split at read
      · rename_i same
        exact ⟨0x7b,by rw [same]; rfl,.inl rfl⟩
      · cases read

end ClearCam.Session
