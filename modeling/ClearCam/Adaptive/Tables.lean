import ClearCam.Protocol.Messages

/-! Bitrate tables and the two ladders of the adaptation engine. The tables are
`u64` arithmetic on 16-bit sizes, which stays far below `2^64`; the 25% cut of a
bitrate is `u32` arithmetic and wraps as a release build does. -/
namespace ClearCam.Adaptive
open ClearCam.Protocol

def rawBitrateKbps (width height fps : Nat) : Nat :=
  (width * height * 3 / 2 * 8 * fps) / 1000

def hevcTargetKbps (width height fps : Nat) : Nat :=
  if (width,height,fps) = (1280,720,30) then 12000
  else if (width,height,fps) = (1280,720,60) then 20000
  else if (width,height,fps) = (1920,1080,30) then 30000
  else if (width,height,fps) = (1920,1080,60) then 50000
  else if (width,height,fps) = (3840,2160,30) then 90000
  -- coarse fallback for every other size and rate
  else (width * height * fps) / 2560

def h264TargetKbps (width height fps : Nat) : Nat :=
  (hevcTargetKbps width height fps * 8) / 5

def encodedTarget (m : Mode) : UInt32 :=
  let target := match m.codec with
    | .hevc | .none => hevcTargetKbps m.width.toNat m.height.toNat m.fps.toNat
    | .h264 => h264TargetKbps m.width.toNat m.height.toNat m.fps.toNat
  if target < 2^32 then UInt32.ofNat target else 4294967295

def nextLower (m : Mode) : Option Mode :=
  if 30 < m.fps then
    let next := {m with fps := 30}
    some (if next.format = .encoded then {next with bitrateKbps := encodedTarget next} else next)
  else if m.format = .encoded ∧ 1000 < m.bitrateKbps then
    some {m with bitrateKbps := m.bitrateKbps * 3 / 4}
  else if m.format = .raw then
    let next := {m with format := .encoded, codec := .hevc}
    some {next with bitrateKbps := encodedTarget next}
  else
    let smaller : Option (UInt16 × UInt16) :=
      if (m.width,m.height) = (3840,2160) then some (1920,1080)
      else if (m.width,m.height) = (1920,1080) then some (1280,720)
      else none
    smaller.map fun size =>
      let next := {m with width := size.1, height := size.2}
      if next.format = .encoded then {next with bitrateKbps := encodedTarget next} else next

/-- The cut of a bitrate, where its product does not wrap. -/
theorem cut_toNat_of_small (bitrate : UInt32) (small : bitrate.toNat * 3 < 2 ^ 32) :
    (bitrate * 3 / 4).toNat = bitrate.toNat * 3 / 4 := by
  have whole : (bitrate * 3).toNat = bitrate.toNat * 3 := by
    rw [UInt32.toNat_mul]
    exact Nat.mod_eq_of_lt small
  rw [UInt32.toNat_div,whole]
  rfl

def nextHigher (m : Mode) : Option Mode :=
  if m.fps = 30 then
    let next := {m with fps := 60}
    some (if next.format = .encoded then {next with bitrateKbps := encodedTarget next} else next)
  else
    let larger : Option (UInt16 × UInt16) :=
      if (m.width,m.height) = (1280,720) then some (1920,1080)
      else if (m.width,m.height) = (1920,1080) then some (3840,2160)
      else none
    larger.map fun size =>
      let next := {m with width := size.1, height := size.2}
      if next.format = .encoded then {next with bitrateKbps := encodedTarget next} else next

/-- The bandwidth a mode asks of the link. -/
def demandKbps (m : Mode) : Nat :=
  match m.format with
  | .raw => rawBitrateKbps m.width.toNat m.height.toNat m.fps.toNat
  | .encoded => m.bitrateKbps.toNat

end ClearCam.Adaptive
