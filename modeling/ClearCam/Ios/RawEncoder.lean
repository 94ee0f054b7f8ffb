import ClearCam.Ios.MediaHeader
import ClearCam.Media.Pipeline

/-! NV12 frames as the phone packs them, and what the desktop's reader makes of their bytes. -/
namespace ClearCam.Ios
open ClearCam.Media

inductive RawEncoderError where
  | planeSizeMismatch (gotY gotUV expectedY expectedUV : Nat)
  deriving DecidableEq

structure PackedFrame where
  header : MediaHeader
  payload : List UInt8
  deriving DecidableEq

def PackedFrame.wireBytes (frame : PackedFrame) : Option (List UInt8) := do
  let out ← MediaHeader.encode frame.header
  return out ++ frame.payload

namespace RawEncoder

def packNV12 (y uv : Data) (width height : UInt16) (seq : UInt32) (ptsUsec : UInt64) (fullRange : Bool) :
    ExceptT RawEncoderError Option PackedFrame := do
  let expectedY := width.toNat * height.toNat
  let expectedUV := width.toNat * height.toNat / 2
  if ¬(y.count = expectedY ∧ uv.count = expectedUV) then
    throw (.planeSizeMismatch y.count uv.count expectedY expectedUV)
  let payload := y.bytes ++ uv.bytes
  let header : MediaHeader := {
    mediaType := .video
    flags := if fullRange then Flags.fullRange else ⟨0⟩
    codec := .raw
    width := width
    height := height
    seq := seq
    ptsUsec := ptsUsec
    payloadLen := ← uint32 payload.length}
  return ⟨header,payload⟩

end RawEncoder

theorem packNV12_mismatch (y uv : Data) (width height : UInt16) (seq : UInt32) (ptsUsec : UInt64)
    (fullRange : Bool)
    (mismatch : ¬(y.count = width.toNat * height.toNat ∧ uv.count = width.toNat * height.toNat / 2)) :
    (RawEncoder.packNV12 y uv width height seq ptsUsec fullRange).run =
      some (.error (.planeSizeMismatch y.count uv.count (width.toNat * height.toNat)
        (width.toNat * height.toNat / 2))) := by
  simp only [RawEncoder.packNV12,if_pos mismatch]
  rfl

theorem packNV12_fits (y uv : Data) (width height : UInt16) (seq : UInt32) (ptsUsec : UInt64)
    (fullRange : Bool)
    (fits : y.count = width.toNat * height.toNat ∧ uv.count = width.toNat * height.toNat / 2) :
    (RawEncoder.packNV12 y uv width height seq ptsUsec fullRange).run =
      (uint32 (y.bytes ++ uv.bytes).length).map fun payloadLen => .ok ⟨{
        mediaType := .video
        flags := if fullRange then Flags.fullRange else ⟨0⟩
        codec := .raw
        width := width
        height := height
        seq := seq
        ptsUsec := ptsUsec
        payloadLen := payloadLen},y.bytes ++ uv.bytes⟩ := by
  simp only [RawEncoder.packNV12,if_neg (not_not_intro fits)]
  cases uint32 (y.bytes ++ uv.bytes).length <;> rfl

theorem uint32_ok (n : Nat) (v : UInt32) (read : uint32 n = some v) : n < 2 ^ 32 ∧ v.toNat = n := by
  unfold uint32 at read
  split at read
  · rename_i small
    obtain rfl := Option.some.inj read
    exact ⟨small,UInt32.toNat_ofNat_of_lt' small⟩
  · exact nomatch read

theorem packNV12_ok (y uv : Data) (width height : UInt16) (seq : UInt32) (ptsUsec : UInt64)
    (fullRange : Bool) (frame : PackedFrame)
    (packed : (RawEncoder.packNV12 y uv width height seq ptsUsec fullRange).run = some (.ok frame)) :
    (y.count = width.toNat * height.toNat ∧ uv.count = width.toNat * height.toNat / 2) ∧
      frame.payload = y.bytes ++ uv.bytes ∧ frame.header.payloadLen.toNat = frame.payload.length ∧
      frame.header = {
        mediaType := .video
        flags := if fullRange then Flags.fullRange else ⟨0⟩
        codec := .raw
        width := width
        height := height
        seq := seq
        ptsUsec := ptsUsec
        payloadLen := frame.header.payloadLen} := by
  by_cases fits : y.count = width.toNat * height.toNat ∧ uv.count = width.toNat * height.toNat / 2
  · rw [packNV12_fits y uv width height seq ptsUsec fullRange fits] at packed
    obtain ⟨payloadLen,length,result⟩ := Option.map_eq_some_iff.mp packed
    obtain rfl := Except.ok.inj result
    exact ⟨fits,rfl,(uint32_ok _ _ length).2,rfl⟩
  · rw [packNV12_mismatch y uv width height seq ptsUsec fullRange fits] at packed
    exact nomatch packed

theorem wireBytes_eq (frame : PackedFrame) :
    frame.wireBytes = some (writeMediaFrame frame.header frame.payload) := by
  rw [PackedFrame.wireBytes,encode_agrees]
  rfl

/-- The reader loses no flag of a packed frame. -/
theorem received_packed (frame : PackedFrame) (fullRange : Bool)
    (flags : frame.header.flags = if fullRange then Flags.fullRange else ⟨0⟩) :
    received ⟨frame.header,frame.payload⟩ = ⟨frame.header,frame.payload⟩ := by
  have named : Flags.fromBitsTruncate frame.header.flags.bits = frame.header.flags := by
    rw [flags]
    cases fullRange <;> rfl
  simp only [received,named]

/-- A packed frame of at most 16 MiB is read back and split into the planes it was packed from; the
reader refuses a larger one by the length in its header. -/
theorem packed_frame_read (y uv : Data) (width height : UInt16) (seq : UInt32) (ptsUsec : UInt64)
    (fullRange : Bool) (frame : PackedFrame)
    (packed : (RawEncoder.packNV12 y uv width height seq ptsUsec fullRange).run = some (.ok frame)) :
    ∃ bytes, frame.wireBytes = some bytes ∧ ∀ rest,
      (frame.payload.length ≤ 16 * 1024 * 1024 →
        readMediaFrame (bytes ++ rest) = .ok (⟨frame.header,frame.payload⟩,rest) ∧
          splitNv12 frame.payload frame.header.width frame.header.height = .ok (y.bytes,uv.bytes)) ∧
      (16 * 1024 * 1024 < frame.payload.length →
        readMediaFrame (bytes ++ rest) = .error (.payloadTooLarge frame.header.payloadLen)) := by
  obtain ⟨⟨luma,chroma⟩,payload,declared,header⟩ := packNV12_ok y uv width height seq ptsUsec fullRange frame packed
  refine ⟨_,wireBytes_eq frame,?_⟩
  intro rest
  constructor
  · intro small
    constructor
    · have flags : frame.header.flags = if fullRange then Flags.fullRange else ⟨0⟩ := by rw [header]
      rw [readMediaFrame_written ⟨frame.header,frame.payload⟩ rest ⟨declared,small⟩,
        received_packed frame fullRange flags]
    · have pixels : y.bytes.length = width.toNat * height.toNat := luma
      have pairs : uv.bytes.length = width.toNat * height.toNat / 2 := chroma
      rw [header,payload,splitNv12_fits _ _ _ (by rw [List.length_append,pixels,pairs]),← pixels,
        List.take_left,List.drop_left,List.take_of_length_le (Nat.le_of_eq (by rw [pairs,pixels]))]
  · intro large
    rw [writeMediaFrame,List.append_assoc]
    refine readMediaFrame_oversize frame.header _ ?_
    rw [gt_iff_lt,UInt32.lt_iff_toNat_lt,declared]
    exact large

def tinyPlanes : Data × Data := (⟨0,[16,17,18,19]⟩,⟨2,[128,129]⟩)

theorem packed_tiny_read :
    ∃ frame, (RawEncoder.packNV12 tinyPlanes.1 tinyPlanes.2 2 2 7 40 true).run = some (.ok frame) ∧
      ∃ bytes, frame.wireBytes = some bytes ∧ readMediaFrame bytes = .ok (⟨frame.header,frame.payload⟩,[]) ∧
        splitNv12 frame.payload frame.header.width frame.header.height = .ok ([16,17,18,19],[128,129]) := by
  refine ⟨_,rfl,?_⟩
  obtain ⟨bytes,written,every⟩ := packed_frame_read tinyPlanes.1 tinyPlanes.2 2 2 7 40 true _ rfl
  obtain ⟨read,split⟩ := (every []).1 (by decide)
  rw [List.append_nil] at read
  exact ⟨bytes,written,read,split⟩

/-- A frame of a whole 4032x3024 sensor is packed, and refused. -/
theorem full_sensor_refused : ¬ ∀ (y uv : Data) (width height : UInt16) (seq : UInt32) (ptsUsec : UInt64)
    (fullRange : Bool) (frame : PackedFrame) (bytes : List UInt8),
    (RawEncoder.packNV12 y uv width height seq ptsUsec fullRange).run = some (.ok frame) →
      frame.wireBytes = some bytes → ∃ read, readMediaFrame bytes = .ok read := by
  intro every
  have plane (n : Nat) : (⟨0,List.replicate n 0⟩ : Data).count = n := List.length_replicate
  have payload (n m : Nat) : ((List.replicate n 0 : List UInt8) ++ List.replicate m 0).length = n + m := by
    rw [List.length_append,List.length_replicate,List.length_replicate]
  have packed := packNV12_fits ⟨0,List.replicate (4032 * 3024) 0⟩ ⟨0,List.replicate (4032 * 3024 / 2) 0⟩ 4032 3024
    1 0 true ⟨plane _,plane _⟩
  rw [payload,uint32,if_pos (by decide)] at packed
  obtain ⟨read,accepted⟩ := every _ _ _ _ _ _ _ _ _ packed (wireBytes_eq _)
  rw [writeMediaFrame,readMediaFrame_oversize _ _ (by decide)] at accepted
  cases accepted

end ClearCam.Ios
