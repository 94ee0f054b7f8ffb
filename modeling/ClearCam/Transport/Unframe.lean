import ClearCam.Library.Incremental
import ClearCam.Transport.Framing

/-! Length-prefixed framing on buffers, and its agreement with `read_frame` and
`write_frame` on streams. -/
namespace ClearCam.Transport
open ClearCam.Library

inductive FrameError where
  | tooLarge (len max : UInt32)
  deriving DecidableEq

/-- `none` is the panic of `expect("payload < 4 GiB")`. -/
def frame (payload : List UInt8) : Option (List UInt8) :=
  if payload.length < 2 ^ 32 then some (framed payload) else none

def tryUnframe (buf : List UInt8) (maxPayload : UInt32) : Except FrameError (Option (List UInt8 × Nat)) :=
  if buf.length < prefixLen then .ok none
  else
    let len := UInt32.ofNat (beValue (buf.take prefixLen))
    if len > maxPayload then .error (.tooLarge len maxPayload)
    else
      let total := prefixLen + len.toNat
      if buf.length < total then .ok none
      else .ok (some ((buf.drop prefixLen).take len.toNat,total))

theorem declared_eq (buf : List UInt8) (present : prefixLen ≤ buf.length) :
    (UInt32.ofNat (beValue (buf.take prefixLen))).toNat = beValue (buf.take prefixLen) := by
  have bound := beValue_lt (buf.take prefixLen)
  rw [List.length_take,Nat.min_eq_left present] at bound
  exact UInt32.toNat_ofNat_of_lt' bound

/-- `try_unframe` over natural lengths. -/
theorem tryUnframe_eq (buf : List UInt8) (maxPayload : UInt32) :
    tryUnframe buf maxPayload =
      if buf.length < prefixLen then .ok none
      else if beValue (buf.take prefixLen) > maxPayload.toNat then
        .error (.tooLarge (UInt32.ofNat (beValue (buf.take prefixLen))) maxPayload)
      else if buf.length < prefixLen + beValue (buf.take prefixLen) then .ok none
      else .ok (some ((buf.drop prefixLen).take (beValue (buf.take prefixLen)),
        prefixLen + beValue (buf.take prefixLen))) := by
  by_cases short : buf.length < prefixLen
  · simp only [tryUnframe,if_pos short]
  · have declared := declared_eq buf (Nat.le_of_not_lt short)
    simp only [tryUnframe,if_neg short,gt_iff_lt,UInt32.lt_iff_toNat_lt,declared]

theorem tryUnframe_error_iff (buf : List UInt8) (maxPayload : UInt32) :
    (∃ error, tryUnframe buf maxPayload = .error error) ↔
      prefixLen ≤ buf.length ∧ beValue (buf.take prefixLen) > maxPayload.toNat := by
  rw [tryUnframe_eq]
  constructor
  · intro failed
    obtain ⟨error,failed⟩ := failed
    split at failed
    · cases failed
    · next present =>
      split at failed
      · next large => exact ⟨Nat.le_of_not_lt present,large⟩
      · split at failed
        · cases failed
        · cases failed
  · intro large
    obtain ⟨present,large⟩ := large
    rw [if_neg (Nat.not_lt.mpr present),if_pos large]
    exact ⟨_,rfl⟩

theorem tryUnframe_some (buf payload : List UInt8) (total : Nat) (maxPayload : UInt32)
    (found : tryUnframe buf maxPayload = .ok (some (payload,total))) :
    total = prefixLen + payload.length ∧ total ≤ buf.length ∧
      payload = (buf.drop prefixLen).take payload.length ∧
      beValue (buf.take prefixLen) = payload.length ∧ payload.length ≤ maxPayload.toNat := by
  rw [tryUnframe_eq] at found
  split at found
  · cases found
  · split at found
    · cases found
    · next small =>
      split at found
      · cases found
      · next complete =>
        cases found
        have length : ((buf.drop prefixLen).take (beValue (buf.take prefixLen))).length =
            beValue (buf.take prefixLen) := by
          rw [List.length_take,List.length_drop]
          omega
        rw [length]
        exact ⟨rfl,Nat.le_of_not_lt complete,rfl,rfl,Nat.le_of_not_lt small⟩

/-- What is decided on a buffer stays decided when more bytes arrive. -/
theorem tryUnframe_append (buf more : List UInt8) (maxPayload : UInt32)
    (decided : tryUnframe buf maxPayload ≠ .ok none) :
    tryUnframe (buf ++ more) maxPayload = tryUnframe buf maxPayload := by
  rw [tryUnframe_eq] at decided ⊢
  rw [tryUnframe_eq]
  split at decided
  · exact absurd rfl decided
  · next present =>
    have present := Nat.le_of_not_lt present
    have head : (buf ++ more).take prefixLen = buf.take prefixLen := List.take_append_of_le_length present
    have longer : ¬(buf ++ more).length < prefixLen := by
      rw [List.length_append]
      omega
    rw [if_neg longer,if_neg (Nat.not_lt.mpr present),head]
    split at decided
    · next large => rw [if_pos large,if_pos large]
    · next small =>
      rw [if_neg small,if_neg small]
      split at decided
      · exact absurd rfl decided
      · next complete =>
        have still : ¬(buf ++ more).length < prefixLen + beValue (buf.take prefixLen) := by
          rw [List.length_append]
          omega
        rw [if_neg still,if_neg complete,List.drop_append_of_le_length present]
        congr 3
        apply List.take_append_of_le_length
        rw [List.length_drop]
        omega

theorem tryUnframe_advances (buf payload : List UInt8) (total : Nat) (maxPayload : UInt32)
    (found : tryUnframe buf maxPayload = .ok (some (payload,total))) : 0 < total ∧ total ≤ buf.length := by
  obtain ⟨size,inside,_⟩ := tryUnframe_some buf payload total maxPayload found
  refine ⟨?_,inside⟩
  rw [size,prefixLen]
  omega

theorem tryUnframe_stable (buf more payload : List UInt8) (total : Nat) (maxPayload : UInt32)
    (found : tryUnframe buf maxPayload = .ok (some (payload,total))) :
    tryUnframe (buf ++ more) maxPayload = .ok (some (payload,total)) := by
  have decided : tryUnframe buf maxPayload ≠ .ok none := by
    intro undecided
    rw [found] at undecided
    cases undecided
  rw [tryUnframe_append buf more maxPayload decided,found]

/-- Unframing as a splitter of the incoming bytes. -/
def unframer (maxPayload : UInt32) : Splitter UInt8 FrameError (List UInt8) where
  next buf := tryUnframe buf maxPayload
  advances buf payload total found := tryUnframe_advances buf payload total maxPayload found
  item_stable buf more payload total found := tryUnframe_stable buf more payload total maxPayload found

theorem tryUnframe_framed (payload rest : List UInt8) (maxPayload : UInt32)
    (small : payload.length ≤ maxPayload.toNat) :
    tryUnframe (framed payload ++ rest) maxPayload = .ok (some (payload,(framed payload).length)) := by
  have fits : payload.length < 256 ^ prefixLen := Nat.lt_of_le_of_lt small maxPayload.toNat_lt
  have head : (framed payload ++ rest).take prefixLen = beBytes prefixLen payload.length := by
    rw [framed,List.append_assoc]
    exact List.take_left' (beBytes_length prefixLen payload.length)
  have tail : (framed payload ++ rest).drop prefixLen = payload ++ rest := by
    rw [framed,List.append_assoc]
    exact List.drop_left' (beBytes_length prefixLen payload.length)
  have size : (framed payload).length = prefixLen + payload.length := by simp [framed]
  have present : ¬(framed payload ++ rest).length < prefixLen := by
    rw [List.length_append,size]
    omega
  have complete : ¬(framed payload ++ rest).length < prefixLen + payload.length := by
    rw [List.length_append,size]
    omega
  rw [tryUnframe_eq,head,tail,beValue_beBytes _ _ fits,if_neg present,if_neg (Nat.not_lt.mpr small),
    if_neg complete,size,List.take_left' rfl]

theorem drain_framed (payloads : List (List UInt8)) (maxPayload : UInt32)
    (small : ∀ payload ∈ payloads, payload.length ≤ maxPayload.toNat) :
    (unframer maxPayload).drain (payloads.flatMap framed) = (payloads,[]) := by
  induction payloads with
  | nil =>
    apply (unframer maxPayload).drain_stop
    intro payload total found
    cases found
  | cons payload payloads ih =>
    have first : (unframer maxPayload).next (framed payload ++ payloads.flatMap framed) =
        .ok (some (payload,(framed payload).length)) :=
      tryUnframe_framed payload _ maxPayload (small payload List.mem_cons_self)
    have others := ih fun later member => small later (List.mem_cons_of_mem payload member)
    rw [List.flatMap_cons,(unframer maxPayload).drain_item _ _ _ first,List.drop_left' rfl,others]

theorem frames_small (payloads : List (List UInt8)) (maxPayload : UInt32)
    (small : ∀ payload ∈ payloads, payload.length ≤ maxPayload.toNat) :
    payloads.mapM frame = some (payloads.map framed) := by
  induction payloads with
  | nil => rfl
  | cons payload payloads ih =>
    have fits : payload.length < 2 ^ 32 :=
      Nat.lt_of_le_of_lt (small payload List.mem_cons_self) maxPayload.toNat_lt
    have first : frame payload = some (framed payload) := if_pos fits
    have others := ih fun later member => small later (List.mem_cons_of_mem payload member)
    rw [List.mapM_cons,first,others]
    rfl

/-- `read_frame` on a socket that delivers `bytes` and is then closed by the peer: the payload
and what follows it. -/
def readFrame (bytes : List UInt8) : Except TransportError (List UInt8 × List UInt8) :=
  match readExact prefixLen bytes with
  | none => .error (.io true)
  | some (lenBytes,rest) =>
    let len := beValue lenBytes
    if len > defaultMaxPayload then .error (.frameTooLarge len)
    else match readExact len rest with
      | none => .error (.io true)
      | some (payload,rest) => .ok (payload,rest)

/-- What an answer of `try_unframe` means to a reader whose stream has ended: an incomplete
frame will never be completed. -/
def onClosedStream (bytes : List UInt8) :
    Except FrameError (Option (List UInt8 × Nat)) → Except TransportError (List UInt8 × List UInt8)
  | .ok (some (payload,total)) => .ok (payload,bytes.drop total)
  | .ok none => .error (.io true)
  | .error (.tooLarge len _) => .error (.frameTooLarge len.toNat)

theorem readFrame_eq_tryUnframe (bytes : List UInt8) :
    readFrame bytes = onClosedStream bytes (tryUnframe bytes (UInt32.ofNat defaultMaxPayload)) := by
  rw [tryUnframe_eq]
  by_cases short : bytes.length < prefixLen
  · simp only [readFrame,readExact,if_pos short,onClosedStream]
  · have declared := declared_eq bytes (Nat.le_of_not_lt short)
    have cap : (UInt32.ofNat defaultMaxPayload).toNat = defaultMaxPayload := rfl
    simp only [readFrame,readExact,if_neg short,cap,List.length_drop]
    by_cases large : beValue (bytes.take prefixLen) > defaultMaxPayload
    · simp only [if_pos large,onClosedStream,declared]
    · by_cases missing : bytes.length < prefixLen + beValue (bytes.take prefixLen)
      · have fewer : bytes.length - prefixLen < beValue (bytes.take prefixLen) := by omega
        simp only [if_neg large,if_pos missing,if_pos fewer,onClosedStream]
      · have enough : ¬bytes.length - prefixLen < beValue (bytes.take prefixLen) := by omega
        simp only [if_neg large,if_neg missing,if_neg enough,onClosedStream,List.drop_drop]

/-- The same read in the two polls of the future it is. -/
theorem readFrame_eq_polls (bytes : List UInt8) :
    readFrame bytes =
      match readExact ReadFrame.start.needed bytes with
      | none => .error (.io true)
      | some (lenBytes,rest) =>
        match ReadFrame.start.feed lenBytes with
        | .ready result => result.map fun payload => (payload,rest)
        | .pending future =>
          match readExact future.needed rest with
          | none => .error (.io true)
          | some (got,rest) =>
            match future.feed got with
            | .ready result => result.map fun payload => (payload,rest)
            | .pending _ => .error (.io true) := by
  change _ = match readExact prefixLen bytes with | none => _ | some (lenBytes,rest) => _
  rw [readFrame]
  cases headerRead : readExact prefixLen bytes with
  | none => rfl
  | some pair =>
    obtain ⟨lenBytes,rest⟩ := pair
    obtain ⟨_,four⟩ := readExact_some _ _ _ _ headerRead
    have full : ¬lenBytes.length < prefixLen := by omega
    simp only [ReadFrame.start,ReadFrame.feed,List.nil_append,if_neg full]
    by_cases large : beValue lenBytes > defaultMaxPayload
    · simp only [if_pos large]
      rfl
    · simp only [if_neg large]
      by_cases empty : beValue lenBytes = 0
      · simp [empty,readExact,Except.map]
      · simp only [if_neg empty,ReadFrame.needed,List.length_nil,Nat.sub_zero]
        cases payloadRead : readExact (beValue lenBytes) rest with
        | none => rfl
        | some pair =>
          obtain ⟨payload,after⟩ := pair
          obtain ⟨_,length⟩ := readExact_some _ _ _ _ payloadRead
          simp [length,Except.map]

theorem writeFrame_eq_frame (payload : List UInt8) (small : payload.length ≤ defaultMaxPayload) :
    writeFrame payload = .ok (framed payload) ∧ frame payload = some (framed payload) := by
  have fits : payload.length < 2 ^ 32 := by
    simp only [defaultMaxPayload] at small
    omega
  constructor
  · simp only [writeFrame,if_neg (Nat.not_lt.mpr small),if_neg (Nat.not_le.mpr fits)]
  · exact if_pos fits

end ClearCam.Transport
