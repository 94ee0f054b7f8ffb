import ClearCam.Ios.Foundation
import ClearCam.Transport.Unframe

/-! The phone's framing of control messages computes the desktop's. -/
namespace ClearCam.Ios
open ClearCam.Library ClearCam.Media ClearCam.Transport

namespace ControlFraming

def prefixLen : Nat := 4

def defaultMaxPayload : UInt32 := (1 : UInt32) <<< 20

def frame (payload : Data) : Option (List UInt8) := do
  let len ← uint32 payload.count
  let out : List UInt8 := []
  let out := out ++ [← uint8 ((len >>> 24) &&& 0xFF).toNat]
  let out := out ++ [← uint8 ((len >>> 16) &&& 0xFF).toNat]
  let out := out ++ [← uint8 ((len >>> 8) &&& 0xFF).toNat]
  let out := out ++ [← uint8 (len &&& 0xFF).toNat]
  return out ++ payload.bytes

def tryUnframe (buf : Data) (maxPayload : UInt32 := defaultMaxPayload) :
    ExceptT FrameError Option (Option (Data × Nat)) := do
  if buf.count < prefixLen then return none
  let i := buf.startIndex
  let len := joinBE32 (← buf.get i) (← buf.get (i + 1)) (← buf.get (i + 2)) (← buf.get (i + 3))
  if len > maxPayload then throw (.tooLarge len maxPayload)
  let total := prefixLen + len.toNat
  if buf.count < total then return none
  let payload ← buf.subdata (i + prefixLen) (i + total)
  return some (payload,total)

theorem frame_agrees (payload : Data) : frame payload = Transport.frame payload.bytes := by
  by_cases fits : payload.bytes.length < 2 ^ 32
  · have len : uint32 payload.count = some (UInt32.ofNat payload.bytes.length) := if_pos fits
    have first := uint8_masked payload.bytes.length 24
    have second := uint8_masked payload.bytes.length 16
    have third := uint8_masked payload.bytes.length 8
    have fourth := uint8_masked payload.bytes.length 0
    simp only [Nat.shiftRight_zero] at fourth
    rw [Transport.frame,if_pos fits,framed]
    change _ = some (beBytes 4 _ ++ _)
    rw [beBytes_four]
    have whole : payload.bytes.length % 4294967296 = payload.bytes.length := Nat.mod_eq_of_lt fits
    simp [frame,len,whole,first,second,third,fourth]
  · have trapped : uint32 payload.count = none := if_neg fits
    rw [Transport.frame,if_neg fits,frame,trapped]
    rfl

theorem subdata_agrees (buf : Data) (len : Nat) (complete : prefixLen + len ≤ buf.bytes.length) :
    buf.subdata (buf.startIndex + prefixLen) (buf.startIndex + (prefixLen + len)) =
      some ⟨0,(buf.bytes.drop prefixLen).take len⟩ := by
  have inside : buf.startIndex ≤ buf.startIndex + prefixLen ∧
      buf.startIndex + prefixLen ≤ buf.startIndex + (prefixLen + len) ∧
      buf.startIndex + (prefixLen + len) ≤ buf.startIndex + buf.count := by
    simp only [Data.count]
    omega
  have start : buf.startIndex + prefixLen - buf.startIndex = prefixLen := by omega
  have length : buf.startIndex + (prefixLen + len) - (buf.startIndex + prefixLen) = len := by omega
  rw [Data.subdata,if_pos inside,start,length,slice]

theorem tryUnframe_agrees (buf : Data) (maxPayload : UInt32) :
    (tryUnframe buf maxPayload).run =
      some ((Transport.tryUnframe buf.bytes maxPayload).map
        (Option.map fun found => (⟨0,found.1⟩,found.2))) := by
  by_cases short : buf.bytes.length < 4
  · have waits : buf.count < prefixLen := short
    have alsoWaits : buf.bytes.length < Transport.prefixLen := short
    simp only [tryUnframe,Transport.tryUnframe,if_pos waits,if_pos alsoWaits]
    rfl
  · have present : ¬buf.count < prefixLen := short
    have alsoPresent : ¬buf.bytes.length < Transport.prefixLen := short
    have head : buf.bytes.take Transport.prefixLen =
        [byteAt buf.bytes 0,byteAt buf.bytes 1,byteAt buf.bytes 2,byteAt buf.bytes 3] :=
      slice_eq buf.bytes 0 4 (by omega)
    have declared := joinBE32_eq (byteAt buf.bytes 0) (byteAt buf.bytes 1) (byteAt buf.bytes 2) (byteAt buf.bytes 3)
    simp only [tryUnframe,Transport.tryUnframe,if_neg present,if_neg alsoPresent,buf.get_start (by omega),
      buf.get_add 1 (by omega),buf.get_add 2 (by omega),buf.get_add 3 (by omega),bind_some_lift,head,declared]
    generalize UInt32.ofNat (beValue [byteAt buf.bytes 0,byteAt buf.bytes 1,byteAt buf.bytes 2,
      byteAt buf.bytes 3]) = len
    by_cases large : len > maxPayload
    · rw [if_pos large,if_pos large]
      rfl
    · rw [if_neg large,if_neg large]
      by_cases missing : buf.bytes.length < 4 + len.toNat
      · have waits : buf.count < prefixLen + len.toNat := missing
        have alsoWaits : buf.bytes.length < Transport.prefixLen + len.toNat := missing
        rw [if_pos waits,if_pos alsoWaits]
        rfl
      · have full : ¬buf.count < prefixLen + len.toNat := missing
        have alsoFull : ¬buf.bytes.length < Transport.prefixLen + len.toNat := missing
        rw [if_neg full,if_neg alsoFull,subdata_agrees buf len.toNat (Nat.le_of_not_lt missing)]
        rfl

end ControlFraming

/-- One format in two languages and two styles: buffers cut anywhere, streams read to the end. -/
theorem control_framing :
    (∀ (maxPayload : UInt32) (payloads : List (List UInt8)),
      (∀ payload ∈ payloads, payload.length ≤ maxPayload.toNat) →
      ∃ frames, payloads.mapM frame = some frames ∧ ∀ chunks : List (List UInt8),
        chunks.flatten = frames.flatten →
        chunks.foldl (unframer maxPayload).arrive ([],[]) = (payloads,[])) ∧
    (∀ (buf more : List UInt8) (maxPayload : UInt32), tryUnframe buf maxPayload ≠ .ok none →
      tryUnframe (buf ++ more) maxPayload = tryUnframe buf maxPayload) ∧
    (∀ (buf : List UInt8) (maxPayload : UInt32), (∃ error, tryUnframe buf maxPayload = .error error) ↔
      prefixLen ≤ buf.length ∧ beValue (buf.take prefixLen) > maxPayload.toNat) ∧
    (∀ payload : List UInt8, payload.length ≤ defaultMaxPayload →
      ∃ bytes, writeFrame payload = .ok bytes ∧ frame payload = some bytes) ∧
    (∀ bytes : List UInt8,
      readFrame bytes = onClosedStream bytes (tryUnframe bytes (UInt32.ofNat defaultMaxPayload))) ∧
    (∀ payload : Data, ControlFraming.frame payload = frame payload.bytes) ∧
    (∀ (buf : Data) (maxPayload : UInt32), (ControlFraming.tryUnframe buf maxPayload).run =
      some ((tryUnframe buf.bytes maxPayload).map (Option.map fun found => (⟨0,found.1⟩,found.2)))) := by
  refine ⟨?_,tryUnframe_append,?_,?_,readFrame_eq_tryUnframe,ControlFraming.frame_agrees,
    ControlFraming.tryUnframe_agrees⟩
  · intro maxPayload payloads small
    refine ⟨payloads.map framed,frames_small payloads maxPayload small,?_⟩
    intro chunks cut
    have drained : (unframer maxPayload).drain [] = ([],[]) := by
      apply (unframer maxPayload).drain_stop
      intro payload total found
      cases found
    rw [(unframer maxPayload).arrive_chunks [] [] chunks drained,List.nil_append,List.nil_append,cut,
      ← List.flatMap_def,drain_framed payloads maxPayload small]
  · intro buf maxPayload
    exact tryUnframe_error_iff buf maxPayload
  · intro payload small
    exact ⟨framed payload,writeFrame_eq_frame payload small⟩

theorem control_framing_split :
    tryUnframe [0,0,0,1,7,0,0,0,0] 1 ≠ .ok none ∧
    tryUnframe ([0,0,0,1,7,0,0,0,0] ++ [0]) 1 = .ok (some ([7],5)) ∧
    (∃ frames, [[7],[]].mapM frame = some frames ∧ frames.flatten = [0,0,0,1,7,0,0,0,0]) ∧
    [[0,0],[0,1],[7,0,0],[0,0]].foldl (unframer 1).arrive ([],[]) = ([[7],[]],[]) ∧
    writeFrame [7] = .ok [0,0,0,1,7] := by
  obtain ⟨emits,stable,_,writes,_⟩ := control_framing
  have decided : tryUnframe [0,0,0,1,7,0,0,0,0] 1 ≠ .ok none := by decide
  obtain ⟨frames,made,cut⟩ := emits 1 [[7],[]] (by decide)
  have known : [[0,0,0,1,7],[0,0,0,0]] = frames := Option.some.inj made
  subst known
  obtain ⟨bytes,wrote,single⟩ := writes [7] (by decide)
  have same : [0,0,0,1,7] = bytes := Option.some.inj single
  subst same
  refine ⟨decided,?_,⟨_,made,rfl⟩,cut _ rfl,wrote⟩
  rw [stable _ [0] 1 decided]
  rfl

end ClearCam.Ios
