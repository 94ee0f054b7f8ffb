import ClearCam.Library.Transition
import ClearCam.Ios.RawEncoder

/-! The sequence numbers that the phone gives to captured frames, and the numbers that the desktop
reserves for speedtest filler. -/
namespace ClearCam.Ios
open ClearCam.Library ClearCam.Media

/-- One call of `sendCapturedNV12`, with whether `sendRaw` returned. -/
structure Capture where
  y : Data
  uv : Data
  width : UInt16
  height : UInt16
  ptsUsec : UInt64
  fullRange : Bool
  sent : Bool
  deriving DecidableEq

/-- The media side of a session: its counter, and the frames and the bytes that went out. -/
structure MediaSide where
  mediaSeq : UInt32
  frames : List PackedFrame
  wire : List UInt8

def MediaSide.start : MediaSide := ⟨0,[],[]⟩

def MediaSide.sendCapturedNV12 (s : MediaSide) (capture : Capture) : Option MediaSide := do
  -- `&+=`; it stays counted when packing or sending throws
  let mediaSeq := s.mediaSeq + 1
  match ← (RawEncoder.packNV12 capture.y capture.uv capture.width capture.height mediaSeq capture.ptsUsec
      capture.fullRange).run with
  | .error _ => return { s with mediaSeq := mediaSeq }
  | .ok packed =>
    let bytes ← packed.wireBytes
    if capture.sent then return ⟨mediaSeq,s.frames ++ [packed],s.wire ++ bytes⟩
    return { s with mediaSeq := mediaSeq }

def PackedFrame.record (frame : PackedFrame) : MediaFrame := ⟨frame.header,frame.payload⟩

/-- The call packs its planes and gets them out. -/
def Capture.Written (capture : Capture) : Prop :=
  capture.y.count = capture.width.toNat * capture.height.toNat ∧
    capture.uv.count = capture.width.toNat * capture.height.toNat / 2 ∧ capture.sent = true

/-- The frames that went out are video to the desktop: none has a reserved number, each is handed to
`ingest`, and the speedtest counter notes none. -/
structure AllVideo (frames : List PackedFrame) : Prop where
  unmarked : ∀ frame ∈ frames, isSpeedtestMarker frame.header.seq = false
  ingested : ∀ frame ∈ frames, ∀ (σ : Type) (decode : Decoder σ) (pipeline : MediaPipeline σ),
    handleFrame decode frame.record pipeline = (ingest decode frame.record pipeline).2
  uncounted : ∀ frame ∈ frames, ∀ (σ : Type) (decode : Decoder σ) (pipeline : MediaPipeline σ),
    (handleFrame decode frame.record pipeline).speedtestCounter = pipeline.speedtestCounter

/-- All that one call can do: count, and send a frame with the new count. -/
theorem sendCapturedNV12_cases (s s' : MediaSide) (capture : Capture)
    (taken : s.sendCapturedNV12 capture = some s') : s'.mediaSeq = s.mediaSeq + 1 ∧
      ((¬capture.Written ∧ s'.frames = s.frames ∧ s'.wire = s.wire) ∨
        (capture.Written ∧ ∃ frame : PackedFrame, frame.header.seq = s.mediaSeq + 1 ∧
          s'.frames = s.frames ++ [frame] ∧ s'.wire = s.wire ++ writeMediaFrame frame.header frame.payload ∧
          frame.header.payloadLen.toNat = frame.payload.length)) := by
  obtain ⟨result,packed,rest⟩ := Option.bind_eq_some_iff.mp taken
  cases result with
  | error error =>
    obtain rfl := Option.some.inj rest
    refine ⟨rfl,Or.inl ⟨?_,rfl,rfl⟩⟩
    intro written
    rw [packNV12_fits _ _ _ _ _ _ _ ⟨written.1,written.2.1⟩] at packed
    obtain ⟨_,_,absurd⟩ := Option.map_eq_some_iff.mp packed
    exact nomatch absurd
  | ok frame =>
    obtain ⟨fits,_,declared,header⟩ := packNV12_ok _ _ _ _ _ _ _ frame packed
    have seq : frame.header.seq = s.mediaSeq + 1 := by rw [header]
    simp only [wireBytes_eq,Option.bind_eq_bind,Option.bind_some] at rest
    by_cases sent : capture.sent = true
    · rw [if_pos sent] at rest
      obtain rfl := Option.some.inj rest
      exact ⟨rfl,Or.inr ⟨⟨fits.1,fits.2,sent⟩,frame,seq,rfl,rfl,declared⟩⟩
    · rw [if_neg sent] at rest
      obtain rfl := Option.some.inj rest
      exact ⟨rfl,Or.inl ⟨fun written => sent written.2.2,rfl,rfl⟩⟩

/-- The numbers on the frames that went out are those of their calls, counted from one. -/
def Stamped (s : MediaSide) (captures : List Capture) : Prop :=
  s.mediaSeq = UInt32.ofNat captures.length ∧ ∀ seq, seq ∈ s.frames.map (·.header.seq) ↔
    ∃ before capture after, captures = before ++ capture :: after ∧ capture.Written ∧
      seq = UInt32.ofNat (before.length + 1)

theorem send_stamped (s s' : MediaSide) (captures : List Capture) (capture : Capture) (stamped : Stamped s captures)
    (taken : s.sendCapturedNV12 capture = some s') : Stamped s' (captures ++ [capture]) := by
  obtain ⟨counted,frames⟩ := stamped
  obtain ⟨next,either⟩ := sendCapturedNV12_cases s s' capture taken
  have number : s.mediaSeq + 1 = UInt32.ofNat (captures.length + 1) := by rw [counted,UInt32.ofNat_add]; rfl
  refine ⟨by rw [next,number,List.length_append]; rfl,?_⟩
  intro seq
  rw [exists_split_concat captures capture fun before item => item.Written ∧ seq = UInt32.ofNat (before.length + 1),
    ← frames seq]
  rcases either with ⟨unwritten,same,_⟩ | ⟨written,frame,stamp,same,_⟩
  · rw [same]
    exact (or_iff_left (fun last => unwritten last.1)).symm
  · rw [same,List.map_append,List.mem_append,List.map_singleton,List.mem_singleton,stamp,number]
    exact or_congr_right (and_iff_right written).symm

theorem captures_stamped (captures : List Capture) (t : MediaSide)
    (run : exec MediaSide.sendCapturedNV12 .start captures = some t) : Stamped t captures := by
  have start : Stamped .start [] := by
    refine ⟨rfl,?_⟩
    intro seq
    refine iff_of_false List.not_mem_nil ?_
    intro ⟨before,capture,after,split,_⟩
    simp at split
  exact exec_history MediaSide.sendCapturedNV12 (fun _ _ => True) Stamped
    (fun s history label s' stamped _ taken => send_stamped s s' history label stamped taken)
    captures .start t [] start (along_trivial _ captures MediaSide.start) run

theorem marker_ofNat (n : Nat) : isSpeedtestMarker (UInt32.ofNat n) = false ↔ n % 2 ^ 32 < 0xFFFF0000 := by
  unfold isSpeedtestMarker
  rw [decide_eq_false_iff_not,ge_iff_le,UInt32.le_iff_toNat_le,UInt32.toNat_ofNat']
  exact Nat.not_le

theorem ingest_counter {σ : Type} (decode : Decoder σ) (record : MediaFrame) (pipeline : MediaPipeline σ) :
    (ingest decode record pipeline).2.speedtestCounter = pipeline.speedtestCounter := by
  unfold ingest
  split
  · split <;> rfl
  · dsimp only
    split <;> rfl

theorem allVideo_iff (frames : List PackedFrame) :
    AllVideo frames ↔ ∀ seq ∈ frames.map (·.header.seq), isSpeedtestMarker seq = false := by
  rw [List.forall_mem_map]
  constructor
  · exact fun video => video.unmarked
  · intro unmarked
    have handed (frame : PackedFrame) (member : frame ∈ frames) (σ : Type) (decode : Decoder σ)
        (pipeline : MediaPipeline σ) :
        handleFrame decode frame.record pipeline = (ingest decode frame.record pipeline).2 :=
      if_neg (Bool.eq_false_iff.mp (unmarked frame member))
    refine ⟨unmarked,handed,?_⟩
    intro frame member σ decode pipeline
    rw [handed frame member]
    exact ingest_counter decode frame.record pipeline

/-- All the frames of a session that went out are video to the desktop just when none of them was
captured as one of the last 65536 of a cycle of the counter. -/
theorem captures_video_iff (captures : List Capture) (t : MediaSide)
    (run : exec MediaSide.sendCapturedNV12 .start captures = some t) :
    AllVideo t.frames ↔ ∀ before capture after, captures = before ++ capture :: after → capture.Written →
      (before.length + 1) % 2 ^ 32 < 0xFFFF0000 := by
  rw [allVideo_iff]
  constructor
  · intro video before capture after split written
    rw [← marker_ofNat]
    exact video _ (((captures_stamped captures t run).2 _).mpr ⟨before,capture,after,split,written,rfl⟩)
  · intro early seq member
    obtain ⟨before,capture,after,split,written,rfl⟩ := ((captures_stamped captures t run).2 seq).mp member
    rw [marker_ofNat]
    exact early before capture after split written

theorem captures_run (captures : List Capture) (s : MediaSide)
    (small : ∀ capture ∈ captures, (capture.y.bytes ++ capture.uv.bytes).length < 2 ^ 32) :
    ∃ t, exec MediaSide.sendCapturedNV12 s captures = some t := by
  induction captures generalizing s with
  | nil => exact ⟨s,rfl⟩
  | cons capture rest ih =>
    have enabled : ∃ s', s.sendCapturedNV12 capture = some s' := by
      simp only [MediaSide.sendCapturedNV12]
      by_cases fits : capture.y.count = capture.width.toNat * capture.height.toNat ∧
          capture.uv.count = capture.width.toNat * capture.height.toNat / 2
      · rw [packNV12_fits _ _ _ _ _ _ _ fits,uint32,if_pos (small capture List.mem_cons_self)]
        simp only [Option.map_some,Option.bind_eq_bind,Option.bind_some,wireBytes_eq]
        split <;> exact ⟨_,rfl⟩
      · rw [packNV12_mismatch _ _ _ _ _ _ _ fits]
        exact ⟨_,rfl⟩
    obtain ⟨s',taken⟩ := enabled
    obtain ⟨t,run⟩ := ih s' fun later member => small later (List.mem_cons_of_mem capture member)
    exact ⟨t,(exec_cons _ s t capture rest).mpr ⟨s',taken,run⟩⟩

def tinyCapture : Capture := ⟨⟨0,[16,17,18,19]⟩,⟨0,[128,129]⟩,2,2,40,true,true⟩

theorem single_capture_video :
    ∃ t, exec MediaSide.sendCapturedNV12 .start [tinyCapture] = some t ∧ AllVideo t.frames := by
  have small : ∀ capture ∈ [tinyCapture], (capture.y.bytes ++ capture.uv.bytes).length < 2 ^ 32 := by decide
  obtain ⟨t,run⟩ := captures_run [tinyCapture] .start small
  refine ⟨t,run,(captures_video_iff [tinyCapture] t run).mpr ?_⟩
  intro before capture after split _
  have length := congrArg List.length split
  simp only [List.length_append,List.length_cons,List.length_nil] at length
  have first : before.length = 0 := by omega
  rw [first]
  decide

theorem last_stamp (n : Nat) : ∃ t, exec MediaSide.sendCapturedNV12 .start (List.replicate (n + 1) tinyCapture) =
    some t ∧ UInt32.ofNat (n + 1) ∈ t.frames.map (·.header.seq) := by
  obtain ⟨t,run⟩ := captures_run (List.replicate (n + 1) tinyCapture) .start (by
    intro capture member
    rw [List.eq_of_mem_replicate member]
    decide)
  refine ⟨t,run,((captures_stamped _ t run).2 _).mpr ⟨List.replicate n tinyCapture,tinyCapture,[],?_,⟨rfl,rfl,rfl⟩,?_⟩⟩
  · exact List.replicate_succ'
  · rw [List.length_replicate]

/-- Frame 4294901760 of a session has the first reserved number. -/
theorem long_session_marked : ¬ ∀ (captures : List Capture) (t : MediaSide),
    exec MediaSide.sendCapturedNV12 .start captures = some t →
      ∀ frame ∈ t.frames, isSpeedtestMarker frame.header.seq = false := by
  intro every
  obtain ⟨t,run,member⟩ := last_stamp 0xFFFEFFFF
  obtain ⟨frame,there,seq⟩ := List.mem_map.mp member
  have video := every _ t run frame there
  rw [seq,marker_ofNat] at video
  exact absurd video (by decide)

/-- What went out is what the frames are written as, and a desktop that reads it takes the frames one
after the other. -/
theorem captures_spawned (captures : List Capture) (t : MediaSide)
    (run : exec MediaSide.sendCapturedNV12 .start captures = some t)
    (small : ∀ frame ∈ t.frames, frame.payload.length ≤ 16 * 1024 * 1024) (σ : Type) (decode : Decoder σ)
    (pipeline : MediaPipeline σ) : spawn decode t.wire pipeline =
      ⟨t.frames.foldl (fun pipeline frame => handleFrame decode frame.record pipeline) pipeline,
        .transport (.io true),[]⟩ := by
  have holds : t.wire = written (t.frames.map PackedFrame.record) ∧
      ∀ frame ∈ t.frames, frame.header.payloadLen.toNat = frame.payload.length := by
    refine exec_kept MediaSide.sendCapturedNV12 (fun s => s.wire = written (s.frames.map PackedFrame.record) ∧
      ∀ frame ∈ s.frames, frame.header.payloadLen.toNat = frame.payload.length) captures ?_ .start t
      ⟨rfl,by simp [MediaSide.start]⟩ run
    intro s capture s' _ ⟨wire,declared⟩ taken
    rcases (sendCapturedNV12_cases s s' capture taken).2 with ⟨_,same,still⟩ | ⟨_,frame,_,same,longer,length⟩
    · rw [same,still]
      exact ⟨wire,declared⟩
    · rw [same,longer,wire]
      constructor
      · rw [List.map_append,written,written,List.flatMap_append]
        simp [PackedFrame.record]
      · intro other member
        rcases List.mem_append.mp member with earlier | last
        · exact declared other earlier
        · obtain rfl := List.mem_singleton.mp last
          exact length
  rw [holds.1,spawn_written decode _ pipeline,List.foldl_map]
  intro record member
  obtain ⟨frame,there,rfl⟩ := List.mem_map.mp member
  exact ⟨holds.2 frame there,small frame there⟩

end ClearCam.Ios
