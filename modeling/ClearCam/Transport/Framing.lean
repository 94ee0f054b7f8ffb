import ClearCam.Protocol.Messages
import ClearCam.Library.BigEndian

/-! Length-prefixed framing of control envelopes. `read_frame` is kept as the
resumable future it is in the source, two `read_exact` calls one after the other,
since what a dropped future had already taken from the reader is part of what it does. -/
namespace ClearCam.Transport
open ClearCam.Protocol ClearCam.Library

inductive TransportError where
  | frameTooLarge (length : Nat)
  | io (unexpectedEof : Bool)
  | json
  deriving DecidableEq

def defaultMaxPayload : Nat := 1024 * 1024

def prefixLen : Nat := 4

structure Serde where
  toVec : ControlEnvelope → List UInt8
  fromSlice : List UInt8 → Option ControlEnvelope

def framed (json : List UInt8) : List UInt8 := beBytes prefixLen json.length ++ json

def writeFrame (json : List UInt8) : Except TransportError (List UInt8) :=
  if json.length > defaultMaxPayload then .error (.frameTooLarge json.length)
  else if json.length ≥ 2 ^ 32 then .error (.frameTooLarge json.length)
  else .ok (framed json)

def writeFrames (serde : Serde) : List ControlEnvelope → Except TransportError (List UInt8)
  | [] => .ok []
  | env :: rest => do
    let first ← writeFrame (serde.toVec env)
    let others ← writeFrames serde rest
    return first ++ others

/-- A `read_frame` future between two polls: what the `read_exact` in progress has
taken so far, of the prefix or of the payload. -/
inductive ReadFrame where
  | header (got : List UInt8)
  | payload (len : Nat) (got : List UInt8)
  deriving DecidableEq

inductive Poll where
  | pending (future : ReadFrame)
  | ready (result : Except TransportError (List UInt8))

namespace ReadFrame

def start : ReadFrame := .header []

def needed : ReadFrame → Nat
  | .header got => prefixLen - got.length
  | .payload len got => len - got.length

def consumed : ReadFrame → List UInt8
  | .header got => got
  | .payload len got => beBytes prefixLen len ++ got

def feed : ReadFrame → List UInt8 → Poll
  | .header got, bytes =>
    let got := got ++ bytes
    if got.length < prefixLen then .pending (.header got)
    else
      let len := beValue got
      if len > defaultMaxPayload then .ready (.error (.frameTooLarge len))
      -- `read_exact` into an empty buffer is ready at once
      else if len = 0 then .ready (.ok [])
      else .pending (.payload len [])
  | .payload len got, bytes =>
    let got := got ++ bytes
    if got.length < len then .pending (.payload len got) else .ready (.ok got)

def Inside (json : List UInt8) : ReadFrame → Prop
  | .header got => got.length < prefixLen ∧ got <+: framed json
  | .payload len got => len = json.length ∧ got.length < len ∧ got <+: json

theorem start_inside (json : List UInt8) : start.Inside json :=
  ⟨by decide,List.nil_prefix⟩

theorem consumed_eq_nil (future : ReadFrame) (untouched : future.consumed = []) : future = start := by
  cases future with
  | header got => exact congrArg ReadFrame.header untouched
  | payload len got =>
    have size := congrArg List.length untouched
    simp [consumed,prefixLen] at size

theorem needed_inside (json : List UInt8) (future : ReadFrame) (inside : future.Inside json) :
    future.consumed.length + future.needed ≤ (framed json).length := by
  cases future with
  | header got =>
    obtain ⟨short,_⟩ := inside
    simp only [consumed,needed,framed,List.length_append,beBytes_length]
    omega
  | payload len got =>
    obtain ⟨rfl,short,_⟩ := inside
    simp only [consumed,needed,framed,List.length_append,beBytes_length]
    omega

/-- What a poll does inside a frame: it takes the bytes, and the last of them completes
the payload that was framed. -/
theorem feed_inside (json bytes : List UInt8) (future : ReadFrame) (inside : future.Inside json)
    (small : json.length ≤ defaultMaxPayload) (asked : bytes.length ≤ future.needed)
    (part : future.consumed ++ bytes <+: framed json) :
    (∃ next, future.feed bytes = .pending next ∧ next.Inside json ∧
      next.consumed = future.consumed ++ bytes) ∨
    (future.feed bytes = .ready (.ok json) ∧ future.consumed ++ bytes = framed json) := by
  cases future with
  | header got =>
    obtain ⟨short,_⟩ := inside
    change got ++ bytes <+: framed json at part
    change bytes.length ≤ prefixLen - got.length at asked
    by_cases more : (got ++ bytes).length < prefixLen
    · exact .inl ⟨.header (got ++ bytes),by simp only [feed,if_pos more],⟨more,part⟩,rfl⟩
    · have full : (got ++ bytes).length = prefixLen := by
        rw [List.length_append] at more ⊢
        omega
      have whole : got ++ bytes = beBytes prefixLen json.length := by
        have head := List.prefix_of_prefix_length_le part (List.prefix_append _ json) (by simp [full])
        exact head.eq_of_length (by simp [full])
      have value : beValue (got ++ bytes) = json.length := by
        rw [whole]
        apply beValue_beBytes
        simp only [defaultMaxPayload,prefixLen] at small ⊢
        omega
      simp only [feed,if_neg more,value,if_neg (Nat.not_lt.mpr small)]
      by_cases empty : json.length = 0
      · have none : json = [] := List.length_eq_zero_iff.mp empty
        refine .inr ⟨by simp [none],?_⟩
        simp [consumed,whole,framed,none]
      · refine .inl ⟨.payload json.length [],by rw [if_neg empty],⟨rfl,?_,List.nil_prefix⟩,?_⟩
        · exact Nat.pos_of_ne_zero empty
        · simp [consumed,whole]
  | payload len got =>
    obtain ⟨rfl,short,_⟩ := inside
    change bytes.length ≤ json.length - got.length at asked
    simp only [consumed,framed,List.append_assoc,List.prefix_append_right_inj] at part
    by_cases more : (got ++ bytes).length < json.length
    · refine .inl ⟨.payload json.length (got ++ bytes),by simp only [feed,if_pos more],⟨rfl,more,part⟩,?_⟩
      simp [consumed]
    · have whole : got ++ bytes = json := by
        apply part.eq_of_length
        rw [List.length_append] at more ⊢
        omega
      refine .inr ⟨by simp [feed,whole],?_⟩
      simp [consumed,framed,whole]

end ReadFrame

/-- `read_exact` of `n` bytes where `bytes` is all that still arrives: the bytes and what
follows them, or nothing when the stream runs out first. -/
def readExact (n : Nat) (bytes : List UInt8) : Option (List UInt8 × List UInt8) :=
  if bytes.length < n then none else some (bytes.take n,bytes.drop n)

theorem readExact_append (bytes rest : List UInt8) : readExact bytes.length (bytes ++ rest) = some (bytes,rest) := by
  simp [readExact]

theorem readExact_some (n : Nat) (bytes got rest : List UInt8) (read : readExact n bytes = some (got,rest)) :
    bytes = got ++ rest ∧ got.length = n := by
  unfold readExact at read
  split at read
  · cases read
  · cases read
    exact ⟨(List.take_append_drop n bytes).symm,by rw [List.length_take]; omega⟩

theorem writeFrame_ok (json bytes : List UInt8) (written : writeFrame json = .ok bytes) :
    json.length ≤ defaultMaxPayload ∧ bytes = framed json := by
  unfold writeFrame at written
  split at written
  · cases written
  · split at written
    · cases written
    · exact ⟨by omega,by simpa using written.symm⟩

theorem writeFrames_ok (serde : Serde) (sent : List ControlEnvelope) (bytes : List UInt8)
    (written : writeFrames serde sent = .ok bytes) :
    (∀ env ∈ sent, (serde.toVec env).length ≤ defaultMaxPayload) ∧
      bytes = sent.flatMap fun env => framed (serde.toVec env) := by
  induction sent generalizing bytes with
  | nil =>
    obtain rfl : [] = bytes := by simpa [writeFrames] using written
    simp
  | cons env rest ih =>
    simp only [writeFrames] at written
    cases first : writeFrame (serde.toVec env) with
    | error error => simp [first,bind,Except.bind] at written
    | ok head =>
      cases others : writeFrames serde rest with
      | error error => simp [first,others,bind,Except.bind] at written
      | ok tail =>
        obtain rfl : head ++ tail = bytes := by
          simpa [first,others,bind,Except.bind,pure,Except.pure] using written
        obtain ⟨small,rfl⟩ := writeFrame_ok _ _ first
        obtain ⟨smaller,rfl⟩ := ih tail others
        exact ⟨List.forall_mem_cons.mpr ⟨small,smaller⟩,rfl⟩

end ClearCam.Transport
