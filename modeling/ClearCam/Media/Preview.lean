import ClearCam.Media.Pipeline
import Mathlib.Tactic.Ring

/-! The preview sink's conversion of a frame to RGB, for the frames that a pipeline submits.
`none` is a panic; resizing and the JPEG encoder belong to the image crate. -/
namespace ClearCam.Media

def maxPreviewWidth : UInt32 := 720

structure RgbImage where
  width : UInt32
  height : UInt32
  data : List UInt8
  deriving DecidableEq

/-- `ImageBuffer::from_raw`, which refuses a container that is too small. -/
def RgbImage.fromRaw (width height : UInt32) (data : List UInt8) : Option RgbImage :=
  if width.toNat * height.toNat * 3 ≤ data.length then some ⟨width,height,data⟩ else none

structure ImageCrate where
  resize : RgbImage → UInt32 → UInt32 → RgbImage
  encode : RgbImage → Except String (List UInt8)

/-- `v.clamp(0.0, 255.0) as u8`. -/
def clampByte (v : Float) : UInt8 := (if v < 0.0 then 0.0 else if 255.0 < v then 255.0 else v).toUInt8

def toRgb (fullRange : Bool) (yVal cb cr : Float) : List UInt8 :=
  let yv := if fullRange then yVal else 1.164 * (yVal - 16.0)
  let cbv := cb - 128.0
  let crv := cr - 128.0
  let r := clampByte (yv + 1.596 * crv)
  let g := clampByte (yv - 0.392 * cbv - 0.813 * crv)
  let b := clampByte (yv + 2.017 * cbv)
  [r,g,b]

/-- The body of the two loops at row `y` and column `x`. -/
def pixel (f : Frame) (y x : Nat) : Option (List UInt8) := do
  let w := f.width.toNat
  let yVal ← f.planeY[y * w + x]?
  let uvRow := y / 2
  let uvCol := (x / 2) * 2
  let uvIdx := uvRow * w + uvCol
  let cb ← f.planeUv[uvIdx]?
  let cr ← f.planeUv[uvIdx + 1]?
  return toRgb f.fullRange (Float.ofNat yVal.toNat) (Float.ofNat cb.toNat) (Float.ofNat cr.toNat)

def pixelRow (f : Frame) (rgb : List UInt8) (y : Nat) : Option (List UInt8) :=
  (List.range f.width.toNat).foldlM (fun rgb x => (pixel f y x).map fun bytes => rgb ++ bytes) rgb

def rgbBuffer (f : Frame) : Option (List UInt8) := (List.range f.height.toNat).foldlM (pixelRow f) []

def nv12ToJpeg (image : ImageCrate) (f : Frame) :
    Option (Except String (List UInt8 × UInt32 × UInt32 × UInt32 × UInt64)) := do
  let rgb ← rgbBuffer f
  let img ← RgbImage.fromRaw f.width.toUInt32 f.height.toUInt32 rgb
  let finalImg :=
    if img.width > maxPreviewWidth then
      let scale := maxPreviewWidth.toFloat32 / img.width.toFloat32
      let newH := (img.height.toFloat32 * scale).toUInt32
      image.resize img maxPreviewWidth newH
    else img
  return (image.encode finalImg).map fun out => (out,finalImg.width,finalImg.height,f.seq,f.ptsUsec)

/-- The decoder of the tests, which makes a frame of the hinted size up. -/
def passthroughDecode (_codec : Codec) (_payload : List UInt8) (hint : FrameHint) : Option Frame :=
  if hint.config then none
  else
    let ySize := hint.width.toNat * hint.height.toNat
    let uvSize := hint.width.toNat * hint.height.toNat / 2
    let yByte := UInt8.ofNat (hint.seq.toNat % 256)
    some {
      width := hint.width
      height := hint.height
      ptsUsec := hint.ptsUsec
      seq := hint.seq
      codec := .raw
      planeY := List.replicate ySize yByte
      planeUv := List.replicate uvSize 128
      fullRange := hint.fullRange}

/-- What a loop appends `k` bytes with where all is good, and panics in otherwise. -/
def Grows (k : Nat) (good : Prop) (step : List UInt8 → Option (List UInt8)) : Prop :=
  ∀ buffer, (good → ∃ out, step buffer = some out ∧ out.length = buffer.length + k) ∧
    (¬good → step buffer = none)

theorem Grows.loop {α : Type} (k : Nat) (good : α → Prop) (step : List UInt8 → α → Option (List UInt8))
    (items : List α) (grows : ∀ item ∈ items, Grows k (good item) fun buffer => step buffer item) :
    Grows (items.length * k) (∀ item ∈ items, good item) fun buffer => items.foldlM step buffer := by
  induction items with
  | nil => exact fun buffer => ⟨fun _ => ⟨buffer,rfl,by simp⟩,fun bad => absurd (by simp) bad⟩
  | cons item items ih =>
    intro buffer
    have first := grows item List.mem_cons_self buffer
    have others := ih fun later inside => grows later (List.mem_cons_of_mem item inside)
    simp only [List.foldlM_cons] at first ⊢
    constructor
    · intro allGood
      obtain ⟨middle,stepped,longer⟩ := first.1 (allGood item List.mem_cons_self)
      obtain ⟨out,looped,total⟩ := (others middle).1 fun later inside => allGood later (List.mem_cons_of_mem item inside)
      refine ⟨out,?_,?_⟩
      · rw [stepped]
        exact looped
      · rw [total,longer,List.length_cons,Nat.add_mul]
        omega
    · intro bad
      by_cases good : good item
      · obtain ⟨middle,stepped,_⟩ := first.1 good
        rw [stepped]
        apply (others middle).2
        intro rest
        apply bad
        intro later inside
        rcases List.mem_cons.mp inside with same | inside
        · rw [same]
          exact good
        · exact rest later inside
      · rw [first.2 good]
        rfl

/-- The planes that `split_nv12` and `PassthroughDecoder` give a frame. -/
def Nv12Planes (f : Frame) : Prop :=
  f.planeY.length = f.width.toNat * f.height.toNat ∧ f.planeUv.length = f.width.toNat * f.height.toNat / 2

def ChromaInside (f : Frame) (y x : Nat) : Prop := y / 2 * f.width.toNat + x / 2 * 2 + 1 < f.planeUv.length

theorem pixel_grows (f : Frame) (planes : Nv12Planes f) (y x : Nat) (row : y < f.height.toNat)
    (column : x < f.width.toNat) :
    Grows 3 (ChromaInside f y x) fun buffer => (pixel f y x).map fun bytes => buffer ++ bytes := by
  have luma : y * f.width.toNat + x < f.planeY.length := by
    rw [planes.1]
    calc y * f.width.toNat + x < y * f.width.toNat + f.width.toNat := by omega
      _ = (y + 1) * f.width.toNat := by rw [Nat.add_mul,Nat.one_mul]
      _ ≤ f.height.toNat * f.width.toNat := Nat.mul_le_mul_right _ row
      _ = f.width.toNat * f.height.toNat := Nat.mul_comm _ _
  obtain ⟨yVal,readY⟩ : ∃ v, f.planeY[y * f.width.toNat + x]? = some v := ⟨_,List.getElem?_eq_getElem luma⟩
  intro buffer
  constructor
  · intro inside
    have before : y / 2 * f.width.toNat + x / 2 * 2 < f.planeUv.length := by
      unfold ChromaInside at inside
      omega
    obtain ⟨cb,readCb⟩ : ∃ v, f.planeUv[y / 2 * f.width.toNat + x / 2 * 2]? = some v :=
      ⟨_,List.getElem?_eq_getElem before⟩
    obtain ⟨cr,readCr⟩ : ∃ v, f.planeUv[y / 2 * f.width.toNat + x / 2 * 2 + 1]? = some v :=
      ⟨_,List.getElem?_eq_getElem inside⟩
    have read : pixel f y x =
        some (toRgb f.fullRange (Float.ofNat yVal.toNat) (Float.ofNat cb.toNat) (Float.ofNat cr.toNat)) := by
      simp only [pixel,readY,readCb,readCr]
      rfl
    refine ⟨_,congrArg (Option.map fun bytes => buffer ++ bytes) read,?_⟩
    rw [List.length_append]
    rfl
  · intro outside
    have beyond : f.planeUv[y / 2 * f.width.toNat + x / 2 * 2 + 1]? = none :=
      List.getElem?_eq_none (Nat.not_lt.mp outside)
    have panicked : pixel f y x = none := by
      simp only [pixel,readY,beyond]
      cases f.planeUv[y / 2 * f.width.toNat + x / 2 * 2]? <;> rfl
    rw [panicked]
    rfl

theorem rgbBuffer_grows (f : Frame) (planes : Nv12Planes f) :
    Grows (f.height.toNat * (f.width.toNat * 3))
      (∀ y ∈ List.range f.height.toNat, ∀ x ∈ List.range f.width.toNat, ChromaInside f y x)
      fun buffer => (List.range f.height.toNat).foldlM (pixelRow f) buffer := by
  have rows : ∀ y ∈ List.range f.height.toNat, Grows (f.width.toNat * 3)
      (∀ x ∈ List.range f.width.toNat, ChromaInside f y x) fun buffer => pixelRow f buffer y := by
    intro y row
    have columns := Grows.loop 3 (ChromaInside f y)
      (fun rgb x => (pixel f y x).map fun bytes => rgb ++ bytes) (List.range f.width.toNat) fun x column =>
        pixel_grows f planes y x (List.mem_range.mp row) (List.mem_range.mp column)
    rw [List.length_range] at columns
    exact columns
  have looped := Grows.loop (f.width.toNat * 3) _ (pixelRow f) (List.range f.height.toNat) rows
  rw [List.length_range] at looped
  exact looped

def ChromaCovers (f : Frame) : Prop :=
  f.width.toNat = 0 ∨ f.height.toNat = 0 ∨ f.width.toNat % 2 = 0 ∧ f.height.toNat % 2 = 0

theorem chromaInside_of_even (w h y x : Nat) (evenW : w % 2 = 0) (evenH : h % 2 = 0) (row : y < h) (column : x < w) :
    y / 2 * w + x / 2 * 2 + 1 < w * h / 2 := by
  obtain ⟨b,rfl⟩ : ∃ b, h = 2 * b := ⟨h / 2,by omega⟩
  have size : w * (2 * b) / 2 = b * w := by
    rw [Nat.mul_left_comm,Nat.mul_div_cancel_left _ (by decide),Nat.mul_comm]
  have last : x / 2 * 2 + 1 < w := by omega
  rw [size]
  calc y / 2 * w + x / 2 * 2 + 1 < y / 2 * w + w := by omega
    _ = (y / 2 + 1) * w := by rw [Nat.add_mul,Nat.one_mul]
    _ ≤ b * w := Nat.mul_le_mul_right w (by omega)

/-- The last pixel reads past the chroma plane where a side is odd. -/
theorem chroma_short_of_odd (w h : Nat) (someW : 0 < w) (someH : 0 < h) (odd : w % 2 = 1 ∨ h % 2 = 1) :
    w * h / 2 ≤ (h - 1) / 2 * w + (w - 1) / 2 * 2 + 1 := by
  have half : w * h / 2 * 2 ≤ w * h := Nat.div_mul_le_self _ _
  rcases Nat.mod_two_eq_zero_or_one h with even | oddH
  · obtain ⟨b,rfl⟩ : ∃ b, h = 2 * b + 2 := ⟨(h - 2) / 2,by omega⟩
    have oddW : w % 2 = 1 := by omega
    have row : (2 * b + 2 - 1) / 2 = b := by omega
    have column : (w - 1) / 2 * 2 + 1 = w := by omega
    have area : w * (2 * b + 2) = 2 * (b * w + w) := by ring
    rw [row,Nat.add_assoc,column]
    omega
  · obtain ⟨b,rfl⟩ : ∃ b, h = 2 * b + 1 := ⟨h / 2,by omega⟩
    have row : (2 * b + 1 - 1) / 2 = b := by omega
    have area : w * (2 * b + 1) = 2 * (b * w) + w := by ring
    rw [row]
    omega

theorem rgbBuffer_panics (f : Frame) (planes : Nv12Planes f) (uncovered : ¬ChromaCovers f) : rgbBuffer f = none := by
  apply (rgbBuffer_grows f planes []).2
  intro allInside
  simp only [ChromaCovers,not_or] at uncovered
  obtain ⟨someW,someH,odd⟩ := uncovered
  have inside := allInside (f.height.toNat - 1) (List.mem_range.mpr (by omega)) (f.width.toNat - 1)
    (List.mem_range.mpr (by omega))
  have short := chroma_short_of_odd f.width.toNat f.height.toNat (by omega) (by omega) (by omega)
  rw [ChromaInside,planes.2] at inside
  omega

theorem rgbBuffer_filled (f : Frame) (planes : Nv12Planes f) (covered : ChromaCovers f) :
    ∃ rgb, rgbBuffer f = some rgb ∧ rgb.length = 3 * f.width.toNat * f.height.toNat := by
  have allInside : ∀ y ∈ List.range f.height.toNat, ∀ x ∈ List.range f.width.toNat, ChromaInside f y x := by
    intro y row x column
    have row := List.mem_range.mp row
    have column := List.mem_range.mp column
    rcases covered with noW | noH | even
    · omega
    · omega
    · rw [ChromaInside,planes.2]
      exact chromaInside_of_even _ _ y x even.1 even.2 row column
  obtain ⟨rgb,filled,length⟩ := (rgbBuffer_grows f planes []).1 allInside
  refine ⟨rgb,filled,?_⟩
  rw [length,List.length_nil]
  ring

/-- The indices of the pixel loop stay inside their planes and the buffer comes out whole exactly
where the chroma plane covers the frame. -/
theorem preview_indices_iff (f : Frame) (planes : Nv12Planes f) :
    (∃ rgb, rgbBuffer f = some rgb ∧ rgb.length = 3 * f.width.toNat * f.height.toNat) ↔ ChromaCovers f := by
  constructor
  · intro whole
    obtain ⟨rgb,filled,_⟩ := whole
    by_contra uncovered
    rw [rgbBuffer_panics f planes uncovered] at filled
    cases filled
  · exact rgbBuffer_filled f planes

/-- A frame of one pixel has no chroma at all, and the pipeline submits it. -/
theorem preview_one_pixel :
    splitNv12 [128] 1 1 = .ok ([128],[]) ∧
    Nv12Planes ⟨1,1,0,0,.raw,[128],[],true⟩ ∧
    ¬∃ rgb, rgbBuffer ⟨1,1,0,0,.raw,[128],[],true⟩ = some rgb ∧ rgb.length = 3 * 1 * 1 := by
  refine ⟨by decide,by unfold Nv12Planes; decide,?_⟩
  intro whole
  obtain ⟨rgb,filled,_⟩ := whole
  have panicked : rgbBuffer ⟨1,1,0,0,.raw,[128],[],true⟩ = none := rfl
  rw [panicked] at filled
  cases filled

theorem preview_indices_two_by_two :
    Nv12Planes ⟨2,2,0,0,.raw,[16,17,18,19],[128,129],true⟩ ∧
    ((∃ rgb, rgbBuffer ⟨2,2,0,0,.raw,[16,17,18,19],[128,129],true⟩ = some rgb ∧ rgb.length = 3 * 2 * 2) ↔
      ChromaCovers ⟨2,2,0,0,.raw,[16,17,18,19],[128,129],true⟩) := by
  have planes : Nv12Planes ⟨2,2,0,0,.raw,[16,17,18,19],[128,129],true⟩ := by
    unfold Nv12Planes
    decide
  exact ⟨planes,preview_indices_iff _ planes⟩

theorem nv12ToJpeg_returns_iff (image : ImageCrate) (f : Frame) (planes : Nv12Planes f) :
    nv12ToJpeg image f ≠ none ↔ ChromaCovers f := by
  constructor
  · intro returned
    by_contra uncovered
    apply returned
    rw [nv12ToJpeg,rgbBuffer_panics f planes uncovered]
    rfl
  · intro covered
    obtain ⟨rgb,filled,length⟩ := rgbBuffer_filled f planes covered
    have enough : f.width.toUInt32.toNat * f.height.toUInt32.toNat * 3 ≤ rgb.length := by
      rw [length,UInt16.toNat_toUInt32,UInt16.toNat_toUInt32,Nat.mul_assoc 3,Nat.mul_comm 3]
    have stored : RgbImage.fromRaw f.width.toUInt32 f.height.toUInt32 rgb =
        some ⟨f.width.toUInt32,f.height.toUInt32,rgb⟩ := if_pos enough
    rw [nv12ToJpeg,filled]
    change (RgbImage.fromRaw f.width.toUInt32 f.height.toUInt32 rgb).bind _ ≠ none
    rw [stored]
    exact Option.some_ne_none _

section Pipeline

variable {σ : Type}

/-- A decoder whose frames have the planes of their size. -/
def PlanesDecoded (decode : Decoder σ) : Prop :=
  ∀ state codec payload hint f, (decode state codec payload hint).1 = some f → Nv12Planes f

def PlanesSubmitted (pipeline : MediaPipeline σ) : Prop := ∀ frames ∈ pipeline.sinks, ∀ f ∈ frames, Nv12Planes f

theorem passthrough_planes : PlanesDecoded (stateless passthroughDecode) := by
  intro state codec payload hint f decoded
  change passthroughDecode codec payload hint = some f at decoded
  unfold passthroughDecode at decoded
  split at decoded
  · cases decoded
  · cases decoded
    exact ⟨List.length_replicate,List.length_replicate⟩

theorem splitNv12_planes (payload y uv : List UInt8) (width height : UInt16)
    (fits : splitNv12 payload width height = .ok (y,uv)) :
    y.length = width.toNat * height.toNat ∧ uv.length = width.toNat * height.toNat / 2 := by
  simp only [splitNv12] at fits
  split at fits
  · cases fits
  · rename_i exact
    cases fits
    rw [List.length_take,List.length_drop]
    omega

theorem submit_planes (pipeline : MediaPipeline σ) (f : Frame) (planes : Nv12Planes f)
    (before : PlanesSubmitted pipeline) : PlanesSubmitted (pipeline.submit f) := by
  intro frames inside g shown
  obtain ⟨earlier,member,rfl⟩ := List.mem_map.mp inside
  rcases List.mem_append.mp shown with old | new
  · exact before earlier member g old
  · rw [List.mem_singleton.mp new]
    exact planes

theorem ingest_planes (decode : Decoder σ) (decoded : PlanesDecoded decode) (raw : MediaFrame)
    (pipeline : MediaPipeline σ) (before : PlanesSubmitted pipeline) :
    PlanesSubmitted (ingest decode raw pipeline).2 := by
  have fromDecoder : ∀ codec f, (decode pipeline.decoder codec raw.payload (FrameHint.ofHeader raw.header)).1 = some f →
      PlanesSubmitted ({ pipeline with decoder := (decode pipeline.decoder codec raw.payload
        (FrameHint.ofHeader raw.header)).2 }.submit f) := by
    intro codec f frame
    exact submit_planes _ f (decoded _ _ _ _ f frame) before
  cases kind : raw.header.codec with
  | raw =>
    simp only [ingest,kind]
    cases fits : splitNv12 raw.payload raw.header.width raw.header.height with
    | error error => exact before
    | ok planes => exact submit_planes _ _ (splitNv12_planes raw.payload planes.1 planes.2 _ _ fits) before
  | hevc =>
    simp only [ingest,kind]
    cases frame : (decode pipeline.decoder .hevc raw.payload (FrameHint.ofHeader raw.header)).1 with
    | none => exact before
    | some f => exact fromDecoder .hevc f frame
  | h264 =>
    simp only [ingest,kind]
    cases frame : (decode pipeline.decoder .h264 raw.payload (FrameHint.ofHeader raw.header)).1 with
    | none => exact before
    | some f => exact fromDecoder .h264 f frame

/-- Whatever the socket brings, a pipeline hands its sinks frames with the planes of their size. -/
theorem spawn_planes (decode : Decoder σ) (decoded : PlanesDecoded decode) (bytes : List UInt8)
    (pipeline : MediaPipeline σ) (before : PlanesSubmitted pipeline) :
    PlanesSubmitted (spawn decode bytes pipeline).pipeline := by
  induction bytes, pipeline using spawn.induct decode with
  | case1 bytes pipeline frame rest read ih =>
    rw [spawn]
    split
    · rename_i other more again
      rw [read] at again
      cases again
      apply ih
      unfold handleFrame
      split
      · exact before
      · exact ingest_planes decode decoded frame pipeline before
    · rename_i error again
      rw [read] at again
      cases again
  | case2 bytes pipeline error read =>
    rw [spawn]
    split
    · rename_i other more again
      rw [read] at again
      cases again
    · exact before

end Pipeline

end ClearCam.Media
