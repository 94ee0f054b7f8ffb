import ClearCam.Session.Handshake

/-! `read_media_hello` beside `ControlStream::recv`, byte by byte. A socket counts what a
reader has taken from it and how much buffer the reader has set up for payload. -/
namespace ClearCam.Session
open ClearCam.Protocol ClearCam.Transport ClearCam.Library

/-- What comes after the last byte that arrives: the peer closes, the socket fails, or
nothing happens until the reader's timeout. -/
inductive Ending where
  | eof | failed | silent
  deriving DecidableEq

structure Socket where
  incoming : List UInt8
  ending : Ending
  taken : Nat
  allocated : Nat
  deriving DecidableEq

namespace Socket

def opened (incoming : List UInt8) (ending : Ending) : Socket := ⟨incoming,ending,0,0⟩

def readExact (n : Nat) (socket : Socket) : Except Ending (List UInt8) × Socket :=
  match Transport.readExact n socket.incoming with
  | some (got,rest) => (.ok got,{ socket with incoming := rest, taken := socket.taken + n })
  | none => (.error socket.ending,
      { socket with incoming := [], taken := socket.taken + socket.incoming.length })

def allocate (n : Nat) (socket : Socket) : Socket := { socket with allocated := socket.allocated + n }

end Socket

def Ending.recv : Ending → Recv
  | .eof => .failed (.io true)
  | .failed => .failed (.io false)
  | .silent => .timeout

def Ending.mediaHelloError : Ending → SessionError
  | .eof => .transport (.io true)
  | .failed => .transport (.io false)
  | .silent => .mediaHandshakeTimeout

/-- `ControlStream::recv`, with the `read_frame` inside it. -/
def Socket.recv (serde : Serde) (socket : Socket) : Recv × Socket :=
  match socket.readExact prefixLen with
  | (.error ending,socket) => (ending.recv,socket)
  | (.ok lenBytes,socket) =>
    let len := beValue lenBytes
    if len > defaultMaxPayload then (.failed (.frameTooLarge len),socket)
    else
      match (socket.allocate len).readExact len with
      | (.error ending,socket) => (ending.recv,socket)
      | (.ok buf,socket) =>
        match serde.fromSlice buf with
        | some env => (.envelope env,socket)
        | none => (.failed .json,socket)

def Socket.readMediaHello (serde : Serde) (socket : Socket) : Except SessionError MediaBinding × Socket :=
  match socket.readExact prefixLen with
  | (.error ending,socket) => (.error ending.mediaHelloError,socket)
  | (.ok lenBytes,socket) =>
    let len := beValue lenBytes
    match (socket.allocate len).readExact len with
    | (.error ending,socket) => (.error ending.mediaHelloError,socket)
    | (.ok buf,socket) =>
      match serde.fromSlice buf with
      | none => (.error (.transport .json),socket)
      | some env =>
        match env.body with
        | .mediaHello hello => (.ok ⟨hello.sessionId,hello.token⟩,socket)
        | _ => (.error (.unexpectedMessage "expected MEDIA_HELLO"),socket)

/-- The length a stream declares, once its prefix has arrived. -/
def DeclaresTooLarge (incoming : List UInt8) : Prop :=
  prefixLen ≤ incoming.length ∧ beValue (incoming.take prefixLen) > defaultMaxPayload

/-- The refusal the cap is for: only the prefix was taken, and no buffer was set up. -/
def RefusedAtOnce (incoming : List UInt8) (error : Option TransportError) (socket : Socket) : Prop :=
  error = some (.frameTooLarge (beValue (incoming.take prefixLen))) ∧
    socket.taken = prefixLen ∧ socket.allocated = 0

def Recv.error : Recv → Option TransportError
  | .failed error => some error
  | _ => none

def transportError : Except SessionError MediaBinding → Option TransportError
  | .error (.transport error) => some error
  | _ => none

/-- One bound for both readers of a stream, and one outcome below it. -/
def SameBound (serde : Serde) (incoming : List UInt8) (ending : Ending) : Prop :=
  let control := (Socket.opened incoming ending).recv serde
  let media := (Socket.opened incoming ending).readMediaHello serde
  (RefusedAtOnce incoming control.1.error control.2 ↔ DeclaresTooLarge incoming) ∧
  (RefusedAtOnce incoming (transportError media.1) media.2 ↔ DeclaresTooLarge incoming) ∧
  (¬DeclaresTooLarge incoming → media.1 = readMediaHello control.1 ∧ media.2 = control.2)

theorem mediaHelloError_eq (ending : Ending) : .error ending.mediaHelloError = readMediaHello ending.recv := by
  cases ending <;> rfl

theorem Socket.readExact_opened (incoming got : List UInt8) (ending : Ending) (socket : Socket)
    (read : (Socket.opened incoming ending).readExact prefixLen = (.ok got,socket)) :
    prefixLen ≤ incoming.length ∧ got = incoming.take prefixLen := by
  unfold Socket.readExact at read
  split at read
  · next bytes rest found =>
    cases read
    obtain ⟨whole,four⟩ := readExact_some _ _ _ _ found
    change incoming = got ++ rest at whole
    rw [whole,List.take_left' four,List.length_append,four]
    exact ⟨Nat.le_add_right _ _,rfl⟩
  · cases read

/-- Below the cap the media reader is the control reader followed by the test of the body. -/
theorem Socket.readMediaHello_eq (serde : Serde) (incoming : List UInt8) (ending : Ending)
    (small : ¬DeclaresTooLarge incoming) :
    (Socket.opened incoming ending).readMediaHello serde =
      (Session.readMediaHello ((Socket.opened incoming ending).recv serde).1,
        ((Socket.opened incoming ending).recv serde).2) := by
  unfold Socket.readMediaHello Socket.recv
  cases prefixRead : (Socket.opened incoming ending).readExact prefixLen with
  | mk result socket =>
    cases result with
    | error ending => simp only [mediaHelloError_eq]
    | ok lenBytes =>
      obtain ⟨present,rfl⟩ := Socket.readExact_opened incoming lenBytes ending socket prefixRead
      have below : ¬beValue (incoming.take prefixLen) > defaultMaxPayload := fun large => small ⟨present,large⟩
      simp only [if_neg below]
      cases payloadRead : (socket.allocate (beValue (incoming.take prefixLen))).readExact
          (beValue (incoming.take prefixLen)) with
      | mk result socket =>
        cases result with
        | error ending => simp only [mediaHelloError_eq]
        | ok buf =>
          cases parsed : serde.fromSlice buf with
          | none =>
            simp only [parsed]
            rfl
          | some env =>
            simp only [parsed,Session.readMediaHello]
            cases env.body <;> rfl

/-- The media reader has no cap to refuse by. -/
theorem Socket.readMediaHello_unbounded (serde : Serde) (socket : Socket) (len : Nat) :
    transportError (socket.readMediaHello serde).1 ≠ some (.frameTooLarge len) := by
  unfold Socket.readMediaHello
  split
  · next ending _ _ => cases ending <;> simp [transportError,Ending.mediaHelloError]
  · dsimp only
    split
    · next ending _ _ => cases ending <;> simp [transportError,Ending.mediaHelloError]
    · split
      · simp [transportError]
      · split <;> simp [transportError]

theorem Socket.recv_refused_iff (serde : Serde) (incoming : List UInt8) (ending : Ending) :
    RefusedAtOnce incoming ((Socket.opened incoming ending).recv serde).1.error
      ((Socket.opened incoming ending).recv serde).2 ↔ DeclaresTooLarge incoming := by
  constructor
  · intro refused
    obtain ⟨error,_⟩ := refused
    unfold Socket.recv at error
    cases prefixRead : (Socket.opened incoming ending).readExact prefixLen with
    | mk result socket =>
      cases result with
      | error ending => cases ending <;> simp [prefixRead,Ending.recv,Recv.error] at error
      | ok lenBytes =>
        obtain ⟨present,rfl⟩ := Socket.readExact_opened incoming lenBytes ending socket prefixRead
        refine ⟨present,?_⟩
        by_contra below
        simp only [prefixRead,if_neg below] at error
        split at error
        · next ending _ _ => cases ending <;> simp [Ending.recv,Recv.error] at error
        · split at error <;> simp [Recv.error] at error
  · intro large
    obtain ⟨present,large⟩ := large
    have found : Transport.readExact prefixLen (Socket.opened incoming ending).incoming =
        some (incoming.take prefixLen,incoming.drop prefixLen) := if_neg (Nat.not_lt.mpr present)
    simp only [Socket.recv,Socket.readExact,found,if_pos large]
    exact ⟨rfl,Nat.zero_add prefixLen,rfl⟩

/-- The two readers share one bound on exactly the streams that stay below it. -/
theorem sameBound_iff (serde : Serde) (incoming : List UInt8) (ending : Ending) :
    SameBound serde incoming ending ↔
      incoming.length < prefixLen ∨ beValue (incoming.take prefixLen) ≤ defaultMaxPayload := by
  have unrefused : ¬RefusedAtOnce incoming
      (transportError ((Socket.opened incoming ending).readMediaHello serde).1)
      ((Socket.opened incoming ending).readMediaHello serde).2 := by
    intro refused
    exact Socket.readMediaHello_unbounded serde _ _ refused.1
  have condition : ¬DeclaresTooLarge incoming ↔
      incoming.length < prefixLen ∨ beValue (incoming.take prefixLen) ≤ defaultMaxPayload := by
    unfold DeclaresTooLarge
    omega
  rw [← condition]
  constructor
  · intro same large
    exact unrefused (same.2.1.mpr large)
  · intro small
    refine ⟨Socket.recv_refused_iff serde incoming ending,?_,?_⟩
    · exact iff_of_false unrefused small
    · intro _
      rw [Socket.readMediaHello_eq serde incoming ending small]
      exact ⟨rfl,rfl⟩

/-- Four bytes that announce 1 MiB and one byte, and the media reader sets up all of it. -/
theorem media_hello_over_the_cap :
    ¬SameBound ⟨fun _ => [],fun _ => none⟩ [0,16,0,1] .eof ∧
      (Socket.opened [0,16,0,1] .eof).recv ⟨fun _ => [],fun _ => none⟩ =
        (.failed (.frameTooLarge 1048577),⟨[],.eof,4,0⟩) ∧
      (Socket.opened [0,16,0,1] .eof).readMediaHello ⟨fun _ => [],fun _ => none⟩ =
        (.error (.transport (.io true)),⟨[],.eof,4,1048577⟩) := by
  refine ⟨?_,rfl,rfl⟩
  intro same
  have large : DeclaresTooLarge [0,16,0,1] := ⟨by decide,by decide⟩
  exact absurd (same.2.1.mpr large).2.2 (by decide)

end ClearCam.Session
