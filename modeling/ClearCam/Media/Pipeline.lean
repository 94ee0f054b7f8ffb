import ClearCam.Media.Header
import ClearCam.Transport.Framing
import Mathlib.Algebra.Ring.Nat

/-! The media pipeline, from the bytes of the media socket to the sinks. -/
namespace ClearCam.Media
open ClearCam.Transport

inductive MediaPipelineError where
  | transport (error : TransportError)
  | header (error : DecodeError)
  | payloadTooLarge (len : UInt32)
  | unsupportedCodec (codec : Codec)
  | planeSizeMismatch (got expected : Nat)
  deriving DecidableEq

def maxFrameBytes : UInt32 := 16 * 1024 * 1024

structure MediaFrame where
  header : MediaHeader
  payload : List UInt8
  deriving DecidableEq

/-- One record off a socket that delivers `bytes` and is then closed by the peer. -/
def readMediaFrame (bytes : List UInt8) : Except MediaPipelineError (MediaFrame × List UInt8) :=
  match readExact headerLen bytes with
  | none => .error (.transport (.io true))
  | some (headerBuf,rest) =>
    match MediaHeader.decode headerBuf with
    | .error error => .error (.header error)
    | .ok header =>
      if header.payloadLen > maxFrameBytes then .error (.payloadTooLarge header.payloadLen)
      else match readExact header.payloadLen.toNat rest with
        | none => .error (.transport (.io true))
        | some (payload,rest) => .ok (⟨header,payload⟩,rest)

def writeMediaFrame (header : MediaHeader) (payload : List UInt8) : List UInt8 :=
  header.encode ++ payload

def splitNv12 (payload : List UInt8) (width height : UInt16) :
    Except MediaPipelineError (List UInt8 × List UInt8) :=
  let ySize := width.toNat * height.toNat
  let uvSize := width.toNat * height.toNat / 2
  let expected := ySize + uvSize
  if payload.length ≠ expected then .error (.planeSizeMismatch payload.length expected)
  else .ok (payload.take ySize,payload.drop ySize)

def speedtestSeqBase : UInt32 := 0xFFFF0000

def isSpeedtestMarker (seq : UInt32) : Bool := seq ≥ speedtestSeqBase

def speedtestStepIndex (seq : UInt32) : UInt32 := seq - speedtestSeqBase

structure SpeedtestArrival where
  stepIndex : UInt32
  payloadBytes : Nat
  deriving DecidableEq

abbrev SpeedTestCounter := List SpeedtestArrival

namespace SpeedTestCounter

def record (counter : SpeedTestCounter) (arrival : SpeedtestArrival) : SpeedTestCounter := counter ++ [arrival]

/-- The sum is a `u64`, which wraps in a release build. -/
def bytesForStep (counter : SpeedTestCounter) (stepIndex : UInt32) : Nat :=
  ((counter.filter fun a => a.stepIndex = stepIndex).map SpeedtestArrival.payloadBytes).sum % 2 ^ 64

def drain (counter : SpeedTestCounter) : List SpeedtestArrival × SpeedTestCounter := (counter,[])

end SpeedTestCounter

structure Frame where
  width : UInt16
  height : UInt16
  ptsUsec : UInt64
  seq : UInt32
  codec : Codec
  planeY : List UInt8
  planeUv : List UInt8
  fullRange : Bool
  deriving DecidableEq

structure FrameHint where
  width : UInt16
  height : UInt16
  ptsUsec : UInt64
  seq : UInt32
  keyframe : Bool
  config : Bool
  fullRange : Bool
  deriving DecidableEq

/-- A decoder may keep a state between access units, as one that waits for more input does. -/
abbrev Decoder (σ : Type) := σ → Codec → List UInt8 → FrameHint → Option Frame × σ

/-- What a running pipeline has a hand on: the decoder's state, for each sink the frames
submitted to it so far, and the arrivals of the speedtest counter if there is one. -/
structure MediaPipeline (σ : Type) where
  decoder : σ
  sinks : List (List Frame)
  speedtestCounter : Option (List SpeedtestArrival)

namespace MediaPipeline

variable {σ : Type}

def submit (pipeline : MediaPipeline σ) (frame : Frame) : MediaPipeline σ :=
  { pipeline with sinks := pipeline.sinks.map fun frames => frames ++ [frame] }

def record (pipeline : MediaPipeline σ) (arrival : SpeedtestArrival) : MediaPipeline σ :=
  { pipeline with speedtestCounter := pipeline.speedtestCounter.map fun arrivals => arrivals ++ [arrival] }

end MediaPipeline

def FrameHint.ofHeader (header : MediaHeader) : FrameHint where
  width := header.width
  height := header.height
  ptsUsec := header.ptsUsec
  seq := header.seq
  keyframe := header.flags.contains Flags.keyframe
  config := header.flags.contains Flags.config
  fullRange := header.flags.contains Flags.fullRange

variable {σ : Type}

def ingest (decode : Decoder σ) (raw : MediaFrame) (pipeline : MediaPipeline σ) :
    Except MediaPipelineError Unit × MediaPipeline σ :=
  match raw.header.codec with
  | .raw =>
    match splitNv12 raw.payload raw.header.width raw.header.height with
    | .error error => (.error error,pipeline)
    | .ok (y,uv) => (.ok (),pipeline.submit {
        width := raw.header.width
        height := raw.header.height
        ptsUsec := raw.header.ptsUsec
        seq := raw.header.seq
        codec := .raw
        planeY := y
        planeUv := uv
        fullRange := raw.header.flags.contains Flags.fullRange})
  | codec =>
    let (decoded,decoder) := decode pipeline.decoder codec raw.payload (FrameHint.ofHeader raw.header)
    let pipeline := { pipeline with decoder := decoder }
    match decoded with
    | some frame => (.ok (),pipeline.submit frame)
    | none => (.ok (),pipeline)

def handleFrame (decode : Decoder σ) (frame : MediaFrame) (pipeline : MediaPipeline σ) : MediaPipeline σ :=
  if isSpeedtestMarker frame.header.seq then
    pipeline.record ⟨speedtestStepIndex frame.header.seq,frame.payload.length⟩
  else (ingest decode frame pipeline).2

theorem readMediaFrame_shorter (bytes rest : List UInt8) (frame : MediaFrame)
    (read : readMediaFrame bytes = .ok (frame,rest)) : rest.length < bytes.length := by
  unfold readMediaFrame at read
  split at read
  · cases read
  · next headerBuf afterHeader headerRead =>
    obtain ⟨rfl,length⟩ := readExact_some _ _ _ _ headerRead
    split at read
    · cases read
    · split at read
      · cases read
      · split at read
        · cases read
        · next payload afterPayload payloadRead =>
          obtain ⟨rfl,_⟩ := readExact_some _ _ _ _ payloadRead
          cases read
          simp only [List.length_append,length,headerLen]
          omega

/-- How a pipeline task ended: its last state, the error it logged, and what the socket
still held when the failing read began. -/
structure Exited (σ : Type) where
  pipeline : MediaPipeline σ
  error : MediaPipelineError
  unread : List UInt8

def spawn (decode : Decoder σ) (bytes : List UInt8) (pipeline : MediaPipeline σ) : Exited σ :=
  match _read : readMediaFrame bytes with
  | .ok (frame,rest) => spawn decode rest (handleFrame decode frame pipeline)
  | .error error => ⟨pipeline,error,bytes⟩
termination_by bytes.length
decreasing_by exact readMediaFrame_shorter bytes rest frame _read

def WellFormed (record : MediaFrame) : Prop :=
  record.header.payloadLen.toNat = record.payload.length ∧ record.payload.length ≤ 16 * 1024 * 1024

def written (records : List MediaFrame) : List UInt8 :=
  records.flatMap fun record => writeMediaFrame record.header record.payload

/-- A record as the reader sees it, without the flag bits that have no name. -/
def received (record : MediaFrame) : MediaFrame :=
  { record with header := { record.header with flags := Flags.fromBitsTruncate record.header.flags.bits } }

theorem readMediaFrame_written (record : MediaFrame) (rest : List UInt8) (wellFormed : WellFormed record) :
    readMediaFrame (writeMediaFrame record.header record.payload ++ rest) = .ok (received record,rest) := by
  obtain ⟨declared,small⟩ := wellFormed
  have headerRead : readExact headerLen (record.header.encode ++ (record.payload ++ rest)) =
      some (record.header.encode,record.payload ++ rest) := by
    rw [← encode_length record.header]
    exact readExact_append _ _
  have decoded := decode_encode record.header []
  rw [List.append_nil] at decoded
  have within : ¬record.header.payloadLen > maxFrameBytes := by
    rw [gt_iff_lt,UInt32.lt_iff_toNat_lt,declared]
    exact Nat.not_lt.mpr small
  simp only [readMediaFrame,writeMediaFrame,List.append_assoc,headerRead,decoded,if_neg within,declared,
    readExact_append]
  rfl

theorem readMediaFrame_oversize (header : MediaHeader) (rest : List UInt8)
    (large : header.payloadLen > maxFrameBytes) :
    readMediaFrame (header.encode ++ rest) = .error (.payloadTooLarge header.payloadLen) := by
  have headerRead : readExact headerLen (header.encode ++ rest) = some (header.encode,rest) := by
    rw [← encode_length header]
    exact readExact_append _ _
  have decoded := decode_encode header []
  rw [List.append_nil] at decoded
  simp only [readMediaFrame,headerRead,decoded,if_pos large]

theorem contains_truncated (flags other : Flags) (named : Flags.all &&& other.bits = other.bits) :
    (Flags.fromBitsTruncate flags.bits).contains other = flags.contains other := by
  simp only [Flags.contains,Flags.fromBitsTruncate,UInt8.and_assoc,named]

theorem hint_received (record : MediaFrame) :
    FrameHint.ofHeader (received record).header = FrameHint.ofHeader record.header := by
  simp only [FrameHint.ofHeader,received,contains_truncated _ Flags.keyframe rfl,
    contains_truncated _ Flags.config rfl,contains_truncated _ Flags.fullRange rfl]

theorem handleFrame_received (decode : Decoder σ) (record : MediaFrame) (pipeline : MediaPipeline σ) :
    handleFrame decode (received record) pipeline = handleFrame decode record pipeline := by
  have range := contains_truncated record.header.flags Flags.fullRange rfl
  have hint := hint_received record
  simp only [handleFrame,ingest,hint]
  simp only [received,range]

theorem spawn_closed (decode : Decoder σ) (pipeline : MediaPipeline σ) :
    spawn decode [] pipeline = ⟨pipeline,.transport (.io true),[]⟩ := by
  rw [spawn]
  rfl

theorem spawn_record (decode : Decoder σ) (record : MediaFrame) (rest : List UInt8) (pipeline : MediaPipeline σ)
    (wellFormed : WellFormed record) :
    spawn decode (writeMediaFrame record.header record.payload ++ rest) pipeline =
      spawn decode rest (handleFrame decode record pipeline) := by
  rw [spawn]
  split
  · next frame after read =>
    rw [readMediaFrame_written record rest wellFormed] at read
    cases read
    rw [handleFrame_received]
  · next error read =>
    rw [readMediaFrame_written record rest wellFormed] at read
    cases read

/-- The bytes of any records drive the loop through those records one after the other, to the
end of the stream. -/
theorem spawn_written (decode : Decoder σ) (records : List MediaFrame) (pipeline : MediaPipeline σ)
    (wellFormed : ∀ record ∈ records, WellFormed record) :
    spawn decode (written records) pipeline =
      ⟨records.foldl (fun pipeline record => handleFrame decode record pipeline) pipeline,
        .transport (.io true),[]⟩ := by
  induction records generalizing pipeline with
  | nil => exact spawn_closed decode pipeline
  | cons record records ih =>
    have first := wellFormed record List.mem_cons_self
    have others : ∀ later ∈ records, WellFormed later := by
      intro later member
      exact wellFormed later (List.mem_cons_of_mem record member)
    change spawn decode (writeMediaFrame record.header record.payload ++ written records) pipeline = _
    rw [spawn_record decode record _ pipeline first,ih _ others]
    rfl

/-- A decoder that is a function of its arguments. -/
def stateless (decode : Codec → List UInt8 → FrameHint → Option Frame) : Decoder Unit :=
  fun _ codec payload hint => (decode codec payload hint,())

/-- The frame a record stands for, by what the sinks are meant to see. -/
def shown (decode : Codec → List UInt8 → FrameHint → Option Frame) (record : MediaFrame) : Option Frame :=
  let pixels := record.header.width.toNat * record.header.height.toNat
  if record.header.seq ≥ 0xFFFF0000 then none
  else if record.header.codec = .raw then
    if record.payload.length = pixels + pixels / 2 then
      some {
        width := record.header.width
        height := record.header.height
        ptsUsec := record.header.ptsUsec
        seq := record.header.seq
        codec := .raw
        planeY := record.payload.take pixels
        planeUv := (record.payload.drop pixels).take (pixels / 2)
        fullRange := record.header.flags.contains Flags.fullRange}
    else none
  else decode record.header.codec record.payload (FrameHint.ofHeader record.header)

/-- What the speedtest counter is meant to note of a record. -/
def arrival (record : MediaFrame) : Option SpeedtestArrival :=
  if record.header.seq ≥ 0xFFFF0000 then
    some ⟨record.header.seq - 0xFFFF0000,record.payload.length⟩
  else none

theorem splitNv12_fits (payload : List UInt8) (width height : UInt16)
    (fits : payload.length = width.toNat * height.toNat + width.toNat * height.toNat / 2) :
    splitNv12 payload width height = .ok (payload.take (width.toNat * height.toNat),
      (payload.drop (width.toNat * height.toNat)).take (width.toNat * height.toNat / 2)) := by
  have rest : (payload.drop (width.toNat * height.toNat)).take (width.toNat * height.toNat / 2) =
      payload.drop (width.toNat * height.toNat) := by
    apply List.take_of_length_le
    rw [List.length_drop]
    omega
  simp only [splitNv12,fits,ne_eq,not_true_eq_false,if_false,rest]

theorem splitNv12_mismatch (payload : List UInt8) (width height : UInt16)
    (mismatch : payload.length ≠ width.toNat * height.toNat + width.toNat * height.toNat / 2) :
    splitNv12 payload width height = .error (.planeSizeMismatch payload.length
      (width.toNat * height.toNat + width.toNat * height.toNat / 2)) :=
  if_pos mismatch

theorem ingest_rejected (decode : Decoder σ) (record : MediaFrame) (seen other : MediaPipeline σ)
    (error : MediaPipelineError) (rejected : (ingest decode record seen).1 = .error error) :
    (ingest decode record other).2 = other := by
  unfold ingest at rejected ⊢
  split at rejected
  · split at rejected
    · rfl
    · cases rejected
  · dsimp only at rejected
    split at rejected
    · cases rejected
    · cases rejected

/-- One turn of the loop, by what it adds to the sinks and to the counter. -/
theorem handleFrame_stateless (decode : Codec → List UInt8 → FrameHint → Option Frame) (record : MediaFrame)
    (pipeline : MediaPipeline Unit) :
    handleFrame (stateless decode) record pipeline = {
      decoder := ()
      sinks := pipeline.sinks.map fun frames => frames ++ (shown decode record).toList
      speedtestCounter := pipeline.speedtestCounter.map fun seen => seen ++ (arrival record).toList} := by
  by_cases marker : record.header.seq ≥ speedtestSeqBase
  · have isMarker : isSpeedtestMarker record.header.seq = true := decide_eq_true marker
    have noFrame : shown decode record = none := if_pos marker
    have noted : arrival record = some ⟨record.header.seq - 0xFFFF0000,record.payload.length⟩ := if_pos marker
    simp [handleFrame,isMarker,noFrame,noted,MediaPipeline.record,speedtestStepIndex,speedtestSeqBase]
  · have noMarker : isSpeedtestMarker record.header.seq = false := decide_eq_false marker
    have notNoted : arrival record = none := if_neg marker
    have video : ¬record.header.seq ≥ 0xFFFF0000 := marker
    simp only [handleFrame,noMarker,notNoted,shown,if_neg video,Bool.false_eq_true,if_false]
    cases codec : record.header.codec with
    | raw =>
      by_cases fits : record.payload.length = record.header.width.toNat * record.header.height.toNat +
          record.header.width.toNat * record.header.height.toNat / 2
      · simp [ingest,codec,splitNv12_fits _ _ _ fits,fits,MediaPipeline.submit]
      · simp [ingest,codec,splitNv12_mismatch _ _ _ fits,fits]
    | hevc =>
      simp only [ingest,codec,stateless]
      cases decode .hevc record.payload (FrameHint.ofHeader record.header) <;> simp [MediaPipeline.submit]
    | h264 =>
      simp only [ingest,codec,stateless]
      cases decode .h264 record.payload (FrameHint.ofHeader record.header) <;> simp [MediaPipeline.submit]

theorem foldl_stateless (decode : Codec → List UInt8 → FrameHint → Option Frame) (records : List MediaFrame)
    (pipeline : MediaPipeline Unit) :
    records.foldl (fun pipeline record => handleFrame (stateless decode) record pipeline) pipeline = {
      decoder := ()
      sinks := pipeline.sinks.map fun frames => frames ++ records.filterMap (shown decode)
      speedtestCounter := pipeline.speedtestCounter.map fun seen => seen ++ records.filterMap arrival} := by
  induction records generalizing pipeline with
  | nil => simp
  | cons record records ih =>
    rw [List.foldl_cons,ih,handleFrame_stateless]
    have frames : (record :: records).filterMap (shown decode) =
        (shown decode record).toList ++ records.filterMap (shown decode) := by
      cases shows : shown decode record <;> simp [shows]
    have arrivals : (record :: records).filterMap arrival =
        (arrival record).toList ++ records.filterMap arrival := by
      cases noted : arrival record <;> simp [noted]
    simp [frames,arrivals,Function.comp_def]

/-- From the bytes the phone wrote to what the sinks and the counter hold when the peer closes. -/
theorem pipeline_end_to_end (decode : Codec → List UInt8 → FrameHint → Option Frame)
    (sinks : List (List Frame)) (counter : Option (List SpeedtestArrival)) (records : List MediaFrame)
    (wellFormed : ∀ record ∈ records, WellFormed record) :
    spawn (stateless decode) (written records) ⟨(),sinks,counter⟩ = {
      pipeline := {
        decoder := ()
        sinks := sinks.map fun frames => frames ++ records.filterMap (shown decode)
        speedtestCounter := counter.map fun seen => seen ++ records.filterMap arrival}
      error := .transport (.io true)
      unread := []} ∧
    ∀ (before after : List MediaFrame) (rejected : MediaFrame), records = before ++ rejected :: after →
      isSpeedtestMarker rejected.header.seq = false →
      (∃ error, (ingest (stateless decode) rejected ⟨(),sinks,counter⟩).1 = .error error) →
      spawn (stateless decode) (written records) ⟨(),sinks,counter⟩ =
        spawn (stateless decode) (written (before ++ after)) ⟨(),sinks,counter⟩ := by
  constructor
  · rw [spawn_written _ _ _ wellFormed,foldl_stateless]
  · intro before after rejected split video failed
    obtain ⟨error,failed⟩ := failed
    subst split
    have kept : ∀ record ∈ before ++ after, WellFormed record := by
      intro record member
      apply wellFormed
      simp only [List.mem_append,List.mem_cons] at member ⊢
      tauto
    have unchanged : ∀ pipeline, handleFrame (stateless decode) rejected pipeline = pipeline := by
      intro pipeline
      simp only [handleFrame,video,Bool.false_eq_true,if_false]
      exact ingest_rejected (stateless decode) rejected _ pipeline error failed
    rw [spawn_written _ _ _ wellFormed,spawn_written _ _ _ kept,List.foldl_append,List.foldl_append,
      List.foldl_cons,unchanged]

def tinyRecord (seq : UInt32) (payload : List UInt8) : MediaFrame where
  header := {
    mediaType := .video
    flags := Flags.fullRange
    codec := .raw
    width := 2
    height := 2
    seq := seq
    ptsUsec := 7
    payloadLen := UInt32.ofNat payload.length}
  payload := payload

theorem pipeline_end_to_end_tiny :
    (∀ record ∈ [tinyRecord 1 [1,2,3,4,5,6],tinyRecord 2 [9],tinyRecord 0xFFFF0003 [9]], WellFormed record) ∧
    spawn (stateless fun _ _ _ => none)
      (written [tinyRecord 1 [1,2,3,4,5,6],tinyRecord 2 [9],tinyRecord 0xFFFF0003 [9]]) ⟨(),[[],[]],some []⟩ = {
        pipeline := {
          decoder := ()
          sinks := List.replicate 2 [⟨2,2,7,1,.raw,[1,2,3,4],[5,6],true⟩]
          speedtestCounter := some [⟨3,1⟩]}
        error := .transport (.io true)
        unread := []} := by
  have wellFormed : ∀ record ∈ [tinyRecord 1 [1,2,3,4,5,6],tinyRecord 2 [9],tinyRecord 0xFFFF0003 [9]],
      WellFormed record := by
    simp [WellFormed,tinyRecord]
  refine ⟨wellFormed,?_⟩
  rw [(pipeline_end_to_end (fun _ _ _ => none) [[],[]] (some []) _ wellFormed).1]
  rfl

end ClearCam.Media
