import ClearCam.Library.Strided
import ClearCam.Ios.CapturedFrames

/-! Camera buffers on their way to the desktop: the packer takes the padding out of their rows, the capture
callback splits the planes again, and the session writes them. -/
namespace ClearCam.Ios
open ClearCam.Library ClearCam.Library.Strided ClearCam.Media

structure PixelPlane where
  base : Option (List UInt8)
  bytesPerRow : Nat
  deriving DecidableEq

structure CVPixelBuffer where
  lockable : Bool
  width : Nat
  height : Nat
  planes : List PixelPlane
  deriving DecidableEq

inductive CVPixelBufferPackerError where
  | lockFailed
  | planeMissing
  | raw (error : RawEncoderError)
  deriving DecidableEq

def uint16OfNat (n : Nat) : Option UInt16 := if n < 2 ^ 16 then some (UInt16.ofNat n) else none

/-- An empty buffer has no base address, and nothing is copied into it. -/
def fillRows (count : Nat) (src : List UInt8) (stride width rows : Nat) : Option (List UInt8) :=
  if count = 0 then some [] else copyRows (List.replicate count 0) src stride width rows

namespace CVPixelBufferPacker

/-- `none` is a trap, or a `memcpy` out of bounds, of which Swift says nothing. -/
def packNV12 (pixelBuffer : CVPixelBuffer) (seq : UInt32) (ptsUsec : UInt64) :
    ExceptT CVPixelBufferPackerError Option PackedFrame := do
  if !pixelBuffer.lockable then throw .lockFailed
  let width := pixelBuffer.width
  let height := pixelBuffer.height
  match pixelBuffer.planes with
  | [⟨some yBase,yStride⟩,⟨some uvBase,uvStride⟩] =>
    let y ← fillRows (width * height) yBase yStride width height
    let uv ← fillRows (width * height / 2) uvBase uvStride width (height / 2)
    (RawEncoder.packNV12 ⟨0,y⟩ ⟨0,uv⟩ (← uint16OfNat width) (← uint16OfNat height) seq ptsUsec true).adapt .raw
  | _ => throw .planeMissing

end CVPixelBufferPacker

/-- A buffer that the capture engine hands over, and whether `sendRaw` returned for it. -/
structure Shot where
  pixelBuffer : CVPixelBuffer
  ptsUsec : UInt64
  sent : Bool
  deriving DecidableEq

/-- The callback that `wireCamera` gives the engine, up to the call of `sendCapturedNV12`. A buffer that is not
packed is dropped. -/
def Shot.onFrame (shot : Shot) : Option (Option Capture) :=
  (CVPixelBufferPacker.packNV12 shot.pixelBuffer 0 shot.ptsUsec).run.map fun
  | .error _ => none
  | .ok packed =>
    let pixels := packed.header.width.toNat * packed.header.height.toNat
    some {
      y := ⟨0,packed.payload.take pixels⟩
      uv := ⟨0,packed.payload.drop (packed.payload.length - pixels / 2)⟩
      width := packed.header.width
      height := packed.header.height
      ptsUsec := shot.ptsUsec
      fullRange := true
      sent := shot.sent}

/-- A biplanar buffer whose rows lie inside its planes, small enough for the desktop. -/
structure CVPixelBuffer.Nv12 (pixelBuffer : CVPixelBuffer) (luma chroma : List UInt8) (yStride uvStride : Nat) :
    Prop where
  lockable : pixelBuffer.lockable = true
  planes : pixelBuffer.planes = [⟨some luma,yStride⟩,⟨some chroma,uvStride⟩]
  lumaHolds : Holds luma yStride pixelBuffer.width pixelBuffer.height
  chromaHolds : Holds chroma uvStride pixelBuffer.width (pixelBuffer.height / 2)
  width : pixelBuffer.width < 2 ^ 16
  height : pixelBuffer.height < 2 ^ 16
  small : pixelBuffer.width * pixelBuffer.height + pixelBuffer.width * pixelBuffer.height / 2 ≤ 16 * 1024 * 1024

/-- The frame that shows a buffer. Where the height is odd the chroma ends in half a row of zeros. -/
def CVPixelBuffer.frame (pixelBuffer : CVPixelBuffer) (luma chroma : List UInt8) (yStride uvStride : Nat)
    (seq : UInt32) (ptsUsec : UInt64) : Frame where
  width := UInt16.ofNat pixelBuffer.width
  height := UInt16.ofNat pixelBuffer.height
  ptsUsec := ptsUsec
  seq := seq
  codec := .raw
  planeY := tight luma yStride pixelBuffer.width pixelBuffer.height
  planeUv := tight chroma uvStride pixelBuffer.width (pixelBuffer.height / 2) ++
    List.replicate (pixelBuffer.width * pixelBuffer.height / 2 - pixelBuffer.height / 2 * pixelBuffer.width) 0
  fullRange := true

theorem fillRows_eq (count : Nat) (src : List UInt8) (stride width rows : Nat) (holds : Holds src stride width rows)
    (room : rows * width ≤ count) :
    fillRows count src stride width rows =
      some (tight src stride width rows ++ List.replicate (count - rows * width) 0) := by
  by_cases empty : count = 0
  · have nothing : rows * width = 0 := Nat.le_zero.mp (empty ▸ room)
    have none : tight src stride width rows = [] := by
      rw [← List.length_eq_zero_iff,tight_length src stride width rows holds]
      exact nothing
    rw [fillRows,if_pos empty,none,empty]
    simp
  · rw [fillRows,if_neg empty,copyRows_eq _ src stride width rows holds (by simpa using room),List.drop_replicate]

theorem chroma_room (width height : Nat) : height / 2 * width ≤ width * height / 2 := by
  rw [Nat.le_div_iff_mul_le (by decide)]
  calc height / 2 * width * 2 = height / 2 * 2 * width := by rw [Nat.mul_right_comm]
    _ ≤ height * width := Nat.mul_le_mul_right width (Nat.div_mul_le_self height 2)
    _ = width * height := Nat.mul_comm height width

/-- What the phone packs of a good buffer. -/
theorem packNV12_buffer (pixelBuffer : CVPixelBuffer) (luma chroma : List UInt8) (yStride uvStride : Nat)
    (seq : UInt32) (ptsUsec : UInt64) (nv12 : pixelBuffer.Nv12 luma chroma yStride uvStride) :
    let frame := pixelBuffer.frame luma chroma yStride uvStride seq ptsUsec
    (frame.planeY.length = pixelBuffer.width * pixelBuffer.height ∧
      frame.planeUv.length = pixelBuffer.width * pixelBuffer.height / 2) ∧
    (CVPixelBufferPacker.packNV12 pixelBuffer seq ptsUsec).run = some (.ok ⟨{
      mediaType := .video
      flags := Flags.fullRange
      codec := .raw
      width := frame.width
      height := frame.height
      seq := seq
      ptsUsec := ptsUsec
      payloadLen := UInt32.ofNat (frame.planeY ++ frame.planeUv).length},frame.planeY ++ frame.planeUv⟩) := by
  intro frame
  have luma_length : frame.planeY.length = pixelBuffer.width * pixelBuffer.height := by
    rw [Nat.mul_comm]
    exact tight_length luma yStride pixelBuffer.width pixelBuffer.height nv12.lumaHolds
  have chroma_length : frame.planeUv.length = pixelBuffer.width * pixelBuffer.height / 2 := by
    have room := chroma_room pixelBuffer.width pixelBuffer.height
    have rows := tight_length chroma uvStride pixelBuffer.width (pixelBuffer.height / 2) nv12.chromaHolds
    simp only [frame,CVPixelBuffer.frame]
    rw [List.length_append,List.length_replicate,rows]
    omega
  have lumaFilled : fillRows (pixelBuffer.width * pixelBuffer.height) luma yStride pixelBuffer.width
      pixelBuffer.height = some frame.planeY := by
    rw [fillRows_eq _ luma yStride _ _ nv12.lumaHolds (Nat.le_of_eq (Nat.mul_comm _ _)),
      Nat.mul_comm pixelBuffer.width,Nat.sub_self]
    exact congrArg some (List.append_nil _)
  have chromaFilled : fillRows (pixelBuffer.width * pixelBuffer.height / 2) chroma uvStride pixelBuffer.width
      (pixelBuffer.height / 2) = some frame.planeUv :=
    fillRows_eq _ chroma uvStride _ _ nv12.chromaHolds (chroma_room pixelBuffer.width pixelBuffer.height)
  refine ⟨⟨luma_length,chroma_length⟩,?_⟩
  have width : (UInt16.ofNat pixelBuffer.width).toNat = pixelBuffer.width := UInt16.toNat_ofNat_of_lt' nv12.width
  have height : (UInt16.ofNat pixelBuffer.height).toNat = pixelBuffer.height := UInt16.toNat_ofNat_of_lt' nv12.height
  have payload : (frame.planeY ++ frame.planeUv).length < 2 ^ 32 := by
    rw [List.length_append,luma_length,chroma_length]
    exact Nat.lt_of_le_of_lt nv12.small (by decide)
  have packed := packNV12_fits ⟨0,frame.planeY⟩ ⟨0,frame.planeUv⟩ (UInt16.ofNat pixelBuffer.width)
    (UInt16.ofNat pixelBuffer.height) seq ptsUsec true (by
      rw [width,height]
      exact ⟨luma_length,chroma_length⟩)
  rw [uint32,if_pos payload] at packed
  have widthFits : uint16OfNat pixelBuffer.width = some frame.width := if_pos nv12.width
  have heightFits : uint16OfNat pixelBuffer.height = some frame.height := if_pos nv12.height
  simp only [CVPixelBufferPacker.packNV12,nv12.lockable,nv12.planes,lumaFilled,chromaFilled,widthFits,heightFits]
  change ((RawEncoder.packNV12 ⟨0,frame.planeY⟩ ⟨0,frame.planeUv⟩ (UInt16.ofNat pixelBuffer.width)
    (UInt16.ofNat pixelBuffer.height) seq ptsUsec true).adapt CVPixelBufferPackerError.raw).run = _
  rw [ExceptT.run_adapt,packed]
  rfl

/-- A shot of such a buffer. -/
structure CapturedBuffer where
  shot : Shot
  luma : List UInt8
  chroma : List UInt8
  yStride : Nat
  uvStride : Nat
  nv12 : shot.pixelBuffer.Nv12 luma chroma yStride uvStride

namespace CapturedBuffer

def frame (buffer : CapturedBuffer) (seq : UInt32) : Frame :=
  buffer.shot.pixelBuffer.frame buffer.luma buffer.chroma buffer.yStride buffer.uvStride seq buffer.shot.ptsUsec

def packed (buffer : CapturedBuffer) (seq : UInt32) : PackedFrame :=
  let frame := buffer.frame seq
  ⟨{
    mediaType := .video
    flags := Flags.fullRange
    codec := .raw
    width := frame.width
    height := frame.height
    seq := seq
    ptsUsec := frame.ptsUsec
    payloadLen := UInt32.ofNat (frame.planeY ++ frame.planeUv).length},frame.planeY ++ frame.planeUv⟩

def capture (buffer : CapturedBuffer) : Capture where
  y := ⟨0,(buffer.frame 0).planeY⟩
  uv := ⟨0,(buffer.frame 0).planeUv⟩
  width := (buffer.frame 0).width
  height := (buffer.frame 0).height
  ptsUsec := buffer.shot.ptsUsec
  fullRange := true
  sent := buffer.shot.sent

theorem frame_lengths (buffer : CapturedBuffer) (seq : UInt32) :
    (buffer.frame seq).planeY.length = (buffer.frame seq).width.toNat * (buffer.frame seq).height.toNat ∧
      (buffer.frame seq).planeUv.length = (buffer.frame seq).width.toNat * (buffer.frame seq).height.toNat / 2 := by
  have width : (buffer.frame seq).width.toNat = buffer.shot.pixelBuffer.width :=
    UInt16.toNat_ofNat_of_lt' buffer.nv12.width
  have height : (buffer.frame seq).height.toNat = buffer.shot.pixelBuffer.height :=
    UInt16.toNat_ofNat_of_lt' buffer.nv12.height
  rw [width,height]
  exact (packNV12_buffer _ _ _ _ _ seq buffer.shot.ptsUsec buffer.nv12).1

/-- Behind the rows that are copied the chroma is as it was allocated. -/
theorem frame_beyond (buffer : CapturedBuffer) (seq : UInt32) (r c : Nat) (byte : UInt8)
    (beyond : buffer.shot.pixelBuffer.height / 2 ≤ r)
    (found : (buffer.frame seq).planeUv[r * buffer.shot.pixelBuffer.width + c]? = some byte) : byte = 0 := by
  have copied := tight_length _ _ _ _ buffer.nv12.chromaHolds
  have outside := Nat.mul_le_mul_right buffer.shot.pixelBuffer.width beyond
  rw [frame,CVPixelBuffer.frame,List.getElem?_append_right (by omega)] at found
  exact List.eq_of_mem_replicate (List.mem_of_getElem? found)

theorem payload_small (buffer : CapturedBuffer) (seq : UInt32) :
    ((buffer.frame seq).planeY ++ (buffer.frame seq).planeUv).length ≤ 16 * 1024 * 1024 := by
  obtain ⟨luma,chroma⟩ := (packNV12_buffer _ _ _ _ _ seq buffer.shot.ptsUsec buffer.nv12).1
  have small := buffer.nv12.small
  rw [List.length_append]
  change (buffer.shot.pixelBuffer.frame ..).planeY.length + (buffer.shot.pixelBuffer.frame ..).planeUv.length ≤ _
  rw [luma,chroma]
  exact small

theorem onFrame_capture (buffer : CapturedBuffer) : buffer.shot.onFrame = some (some buffer.capture) := by
  have lengths := buffer.frame_lengths 0
  have luma : ((buffer.frame 0).planeY ++ (buffer.frame 0).planeUv).take
      ((buffer.frame 0).width.toNat * (buffer.frame 0).height.toNat) = (buffer.frame 0).planeY := by
    rw [← lengths.1,List.take_left]
  have chroma : ((buffer.frame 0).planeY ++ (buffer.frame 0).planeUv).drop
      (((buffer.frame 0).planeY ++ (buffer.frame 0).planeUv).length -
        (buffer.frame 0).width.toNat * (buffer.frame 0).height.toNat / 2) = (buffer.frame 0).planeUv := by
    rw [← lengths.2,List.length_append,Nat.add_sub_cancel,List.drop_left]
  have packed : (CVPixelBufferPacker.packNV12 buffer.shot.pixelBuffer 0 buffer.shot.ptsUsec).run =
      some (.ok (buffer.packed 0)) := (packNV12_buffer _ _ _ _ _ 0 buffer.shot.ptsUsec buffer.nv12).2
  rw [Shot.onFrame,packed]
  exact congrArg₂ (fun y uv => some (some (⟨⟨0,y⟩,⟨0,uv⟩,(buffer.frame 0).width,(buffer.frame 0).height,
    buffer.shot.ptsUsec,true,buffer.shot.sent⟩ : Capture))) luma chroma

theorem send_capture (buffer : CapturedBuffer) (s : MediaSide) :
    s.sendCapturedNV12 buffer.capture = some (if buffer.shot.sent then
      ⟨s.mediaSeq + 1,s.frames ++ [buffer.packed (s.mediaSeq + 1)],
        s.wire ++ writeMediaFrame (buffer.packed (s.mediaSeq + 1)).header (buffer.packed (s.mediaSeq + 1)).payload⟩
      else {s with mediaSeq := s.mediaSeq + 1}) := by
  have small : (buffer.capture.y.bytes ++ buffer.capture.uv.bytes).length < 2 ^ 32 :=
    Nat.lt_of_le_of_lt (buffer.payload_small 0) (by decide)
  have fits := packNV12_fits buffer.capture.y buffer.capture.uv buffer.capture.width buffer.capture.height
    (s.mediaSeq + 1) buffer.capture.ptsUsec true (buffer.frame_lengths 0)
  rw [uint32,if_pos small] at fits
  have packed : (RawEncoder.packNV12 buffer.capture.y buffer.capture.uv buffer.capture.width buffer.capture.height
      (s.mediaSeq + 1) buffer.capture.ptsUsec buffer.capture.fullRange).run =
      some (.ok (buffer.packed (s.mediaSeq + 1))) := fits
  simp only [MediaSide.sendCapturedNV12,packed,Option.bind_eq_bind,Option.bind_some,wireBytes_eq]
  change (if buffer.shot.sent = true then _ else _) = _
  split
  · rfl
  · rfl

theorem shown_packed (buffer : CapturedBuffer) (decode : Codec → List UInt8 → FrameHint → Option Frame) (seq : UInt32)
    (video : isSpeedtestMarker seq = false) : shown decode (buffer.packed seq).record = some (buffer.frame seq) := by
  obtain ⟨luma,chroma⟩ := buffer.frame_lengths seq
  have unmarked : ¬ seq ≥ 0xFFFF0000 := of_decide_eq_false video
  have length : (buffer.packed seq).record.payload.length =
      (buffer.packed seq).record.header.width.toNat * (buffer.packed seq).record.header.height.toNat +
        (buffer.packed seq).record.header.width.toNat * (buffer.packed seq).record.header.height.toNat / 2 := by
    change (_ ++ _ : List UInt8).length = (buffer.frame seq).width.toNat * (buffer.frame seq).height.toNat +
      (buffer.frame seq).width.toNat * (buffer.frame seq).height.toNat / 2
    rw [← chroma,← luma]
    exact List.length_append
  have planes : shown decode (buffer.packed seq).record = some {buffer.frame seq with
      planeY := ((buffer.frame seq).planeY ++ (buffer.frame seq).planeUv).take
        ((buffer.frame seq).width.toNat * (buffer.frame seq).height.toNat)
      planeUv := (((buffer.frame seq).planeY ++ (buffer.frame seq).planeUv).drop
        ((buffer.frame seq).width.toNat * (buffer.frame seq).height.toNat)).take
        ((buffer.frame seq).width.toNat * (buffer.frame seq).height.toNat / 2)
      fullRange := Flags.fullRange.contains Flags.fullRange} :=
    (if_neg unmarked).trans ((if_pos rfl).trans (if_pos length))
  have range : Flags.fullRange.contains Flags.fullRange = true := by decide
  rw [planes,range,← chroma,← luma,List.take_left,List.drop_left,List.take_length]
  rfl

end CapturedBuffer

open CapturedBuffer

/-- The shots that go out, as frames with the numbers of their calls, the first of which has the number after `k`. -/
def shotFrames (k : Nat) (buffers : List CapturedBuffer) : List (CapturedBuffer × UInt32) :=
  ((buffers.zipIdx k).filter fun buffer => buffer.1.shot.sent).map fun buffer => (buffer.1,UInt32.ofNat (buffer.2 + 1))

theorem shots_run (buffers : List CapturedBuffer) (s : MediaSide) (k : Nat) (counted : s.mediaSeq = UInt32.ofNat k) :
    ∃ t, exec MediaSide.sendCapturedNV12 s (buffers.map CapturedBuffer.capture) = some t ∧
      t.frames = s.frames ++ (shotFrames k buffers).map fun buffer => buffer.1.packed buffer.2 := by
  induction buffers generalizing s k with
  | nil => exact ⟨s,rfl,(List.append_nil _).symm⟩
  | cons buffer rest ih =>
    have next : s.mediaSeq + 1 = UInt32.ofNat (k + 1) := by
      rw [counted,UInt32.ofNat_add]
      rfl
    have taken := buffer.send_capture s
    cases sent : buffer.shot.sent with
    | true =>
      rw [sent,if_pos rfl,next] at taken
      obtain ⟨t,run,frames⟩ := ih ⟨UInt32.ofNat (k + 1),_,_⟩ (k + 1) rfl
      refine ⟨t,(exec_cons _ s t _ _).mpr ⟨_,taken,run⟩,?_⟩
      rw [frames]
      simp [shotFrames,List.zipIdx_cons,sent]
    | false =>
      rw [sent,if_neg (by decide),next] at taken
      obtain ⟨t,run,frames⟩ := ih ⟨UInt32.ofNat (k + 1),_,_⟩ (k + 1) rfl
      refine ⟨t,(exec_cons _ s t _ _).mpr ⟨_,taken,run⟩,?_⟩
      rw [frames]
      simp [shotFrames,List.zipIdx_cons,sent]

/-- No buffer of these is dropped. -/
theorem shots_handed (buffers : List CapturedBuffer) :
    buffers.mapM (fun buffer => buffer.shot.onFrame) = some ((buffers.map CapturedBuffer.capture).map some) := by
  induction buffers with
  | nil => rfl
  | cons buffer rest ih =>
    rw [List.mapM_cons,buffer.onFrame_capture,ih]
    rfl

theorem shots_video (buffers : List CapturedBuffer) (few : buffers.length < 0xFFFF0000) :
    ∀ buffer ∈ shotFrames 0 buffers, isSpeedtestMarker buffer.2 = false := by
  intro buffer member
  obtain ⟨⟨shot,i⟩,kept,rfl⟩ := List.mem_map.mp member
  have inside : i < buffers.length := (List.mem_zipIdx' (List.mem_of_mem_filter kept)).1
  rw [marker_ofNat]
  exact Nat.lt_of_le_of_lt (Nat.mod_le _ _) (by omega)

/-- Two rows of two pixels, in rows of four bytes. -/
def paddedBuffer : CapturedBuffer where
  shot := ⟨⟨true,2,2,[⟨some [16,17,0,0,18,19,0,0],4⟩,⟨some [128,129,0,0],4⟩]⟩,40,true⟩
  luma := [16,17,0,0,18,19,0,0]
  chroma := [128,129,0,0]
  yStride := 4
  uvStride := 4
  nv12 := ⟨rfl,rfl,by decide,by decide,by decide,by decide,by decide⟩

end ClearCam.Ios
