import ClearCam.Library.BigEndian

/-! The fixed 28-byte header in front of every media payload. -/
namespace ClearCam.Media
open ClearCam.Library

def magic : UInt16 := 0xCC01

def headerLen : Nat := 28

structure Flags where
  bits : UInt8
  deriving DecidableEq

namespace Flags

def empty : Flags := ⟨0⟩
def keyframe : Flags := ⟨1⟩
def encoded : Flags := ⟨2⟩
def fullRange : Flags := ⟨4⟩
def config : Flags := ⟨8⟩

def all : UInt8 := 15

def fromBitsTruncate (bits : UInt8) : Flags := ⟨bits &&& all⟩

def contains (flags other : Flags) : Bool := flags.bits &&& other.bits == other.bits

end Flags

inductive MediaType where
  | video
  deriving DecidableEq

inductive Codec where
  | raw | hevc | h264
  deriving DecidableEq

inductive DecodeError where
  | tooShort (got : Nat)
  | badMagic (magic : UInt16)
  | unknownMediaType (value : UInt8)
  | unknownCodec (value : UInt8)
  deriving DecidableEq

def MediaType.toByte : MediaType → UInt8
  | .video => 1

def MediaType.tryFrom (v : UInt8) : Except DecodeError MediaType :=
  if v = 1 then .ok .video else .error (.unknownMediaType v)

def Codec.toByte : Codec → UInt8
  | .raw => 0
  | .hevc => 1
  | .h264 => 2

def Codec.tryFrom (v : UInt8) : Except DecodeError Codec :=
  if v = 0 then .ok .raw
  else if v = 1 then .ok .hevc
  else if v = 2 then .ok .h264
  else .error (.unknownCodec v)

structure MediaHeader where
  mediaType : MediaType
  flags : Flags
  codec : Codec
  width : UInt16
  height : UInt16
  seq : UInt32
  ptsUsec : UInt64
  payloadLen : UInt32
  deriving DecidableEq

/-- `out[start..start + source.len()].copy_from_slice(source)`. -/
def copyFromSlice (out : List UInt8) (start : Nat) (source : List UInt8) : List UInt8 :=
  out.take start ++ source ++ out.drop (start + source.length)

def MediaHeader.encode (h : MediaHeader) : List UInt8 :=
  let out := List.replicate headerLen 0
  let out := copyFromSlice out 0 (beBytes 2 magic.toNat)
  let out := out.set 2 h.mediaType.toByte
  let out := out.set 3 h.flags.bits
  let out := out.set 4 h.codec.toByte
  let out := copyFromSlice out 8 (beBytes 2 h.width.toNat)
  let out := copyFromSlice out 10 (beBytes 2 h.height.toNat)
  let out := copyFromSlice out 12 (beBytes 4 h.seq.toNat)
  let out := copyFromSlice out 16 (beBytes 8 h.ptsUsec.toNat)
  copyFromSlice out 24 (beBytes 4 h.payloadLen.toNat)

/-- `buf[start..start + length]`. -/
def slice (buf : List UInt8) (start length : Nat) : List UInt8 := (buf.drop start).take length

def byteAt (buf : List UInt8) (i : Nat) : UInt8 := buf.getD i 0

def MediaHeader.decode (buf : List UInt8) : Except DecodeError MediaHeader := do
  if buf.length < headerLen then throw (.tooShort buf.length)
  let found := UInt16.ofNat (beValue (slice buf 0 2))
  if found ≠ magic then throw (.badMagic found)
  let mediaType ← MediaType.tryFrom (byteAt buf 2)
  let flags := Flags.fromBitsTruncate (byteAt buf 3)
  let codec ← Codec.tryFrom (byteAt buf 4)
  return {
    mediaType := mediaType
    flags := flags
    codec := codec
    width := UInt16.ofNat (beValue (slice buf 8 2))
    height := UInt16.ofNat (beValue (slice buf 10 2))
    seq := UInt32.ofNat (beValue (slice buf 12 4))
    ptsUsec := UInt64.ofNat (beValue (slice buf 16 8))
    payloadLen := UInt32.ofNat (beValue (slice buf 24 4))}

theorem encode_eq (h : MediaHeader) :
    h.encode = beBytes 2 magic.toNat ++ [h.mediaType.toByte,h.flags.bits,h.codec.toByte,0,0,0] ++
      beBytes 2 h.width.toNat ++ beBytes 2 h.height.toNat ++ beBytes 4 h.seq.toNat ++
      beBytes 8 h.ptsUsec.toNat ++ beBytes 4 h.payloadLen.toNat := by
  simp [MediaHeader.encode,copyFromSlice,headerLen,beBytes,List.replicate]

@[simp] theorem encode_length (h : MediaHeader) : h.encode.length = headerLen := by
  simp [encode_eq,headerLen]

theorem slice_eq (buf : List UInt8) (start length : Nat) (fits : start + length ≤ buf.length) :
    slice buf start length = (List.range length).map fun i => byteAt buf (start + i) := by
  apply List.ext_getElem
  · simp only [slice,List.length_take,List.length_drop,List.length_map,List.length_range]
    omega
  · intro i inside _
    simp only [slice,List.length_take,List.length_drop] at inside
    have bound : start + i < buf.length := by omega
    simp [slice,byteAt,bound]

@[simp] theorem MediaType.tryFrom_toByte (mediaType : MediaType) :
    MediaType.tryFrom mediaType.toByte = .ok mediaType := by
  cases mediaType
  rfl

@[simp] theorem Codec.tryFrom_toByte (codec : Codec) : Codec.tryFrom codec.toByte = .ok codec := by
  cases codec <;> rfl

theorem MediaType.tryFrom_ok (v : UInt8) (mediaType : MediaType)
    (known : MediaType.tryFrom v = .ok mediaType) : mediaType.toByte = v := by
  unfold MediaType.tryFrom at known
  split at known
  · cases known
    symm
    assumption
  · cases known

theorem Codec.tryFrom_ok (v : UInt8) (codec : Codec) (known : Codec.tryFrom v = .ok codec) :
    codec.toByte = v := by
  unfold Codec.tryFrom at known
  split at known
  · cases known
    symm
    assumption
  · split at known
    · cases known
      symm
      assumption
    · split at known
      · cases known
        symm
        assumption
      · cases known

theorem u16_beValue_beBytes (v : UInt16) : UInt16.ofNat (beValue (beBytes 2 v.toNat)) = v := by
  rw [beValue_beBytes 2 v.toNat v.toNat_lt,UInt16.ofNat_toNat]

theorem u32_beValue_beBytes (v : UInt32) : UInt32.ofNat (beValue (beBytes 4 v.toNat)) = v := by
  rw [beValue_beBytes 4 v.toNat v.toNat_lt,UInt32.ofNat_toNat]

theorem u64_beValue_beBytes (v : UInt64) : UInt64.ofNat (beValue (beBytes 8 v.toNat)) = v := by
  rw [beValue_beBytes 8 v.toNat v.toNat_lt,UInt64.ofNat_toNat]

theorem decode_short (buf : List UInt8) (short : buf.length < headerLen) :
    MediaHeader.decode buf = .error (.tooShort buf.length) := by
  simp only [MediaHeader.decode,if_pos short]
  rfl

theorem decode_long (buf : List UInt8) (long : headerLen ≤ buf.length) :
    MediaHeader.decode buf =
      if UInt16.ofNat (beValue (slice buf 0 2)) ≠ magic then
        .error (.badMagic (UInt16.ofNat (beValue (slice buf 0 2))))
      else match MediaType.tryFrom (byteAt buf 2) with
        | .error error => .error error
        | .ok mediaType => match Codec.tryFrom (byteAt buf 4) with
          | .error error => .error error
          | .ok codec => .ok {
              mediaType := mediaType
              flags := Flags.fromBitsTruncate (byteAt buf 3)
              codec := codec
              width := UInt16.ofNat (beValue (slice buf 8 2))
              height := UInt16.ofNat (beValue (slice buf 10 2))
              seq := UInt32.ofNat (beValue (slice buf 12 4))
              ptsUsec := UInt64.ofNat (beValue (slice buf 16 8))
              payloadLen := UInt32.ofNat (beValue (slice buf 24 4))} := by
  simp only [MediaHeader.decode,if_neg (Nat.not_lt.mpr long)]
  split
  · rfl
  · cases MediaType.tryFrom (byteAt buf 2) with
    | error error => rfl
    | ok mediaType => cases Codec.tryFrom (byteAt buf 4) <;> rfl

/-- Whatever flag bits a header carries, decoding returns it with the unnamed bits dropped. -/
theorem decode_encode (h : MediaHeader) (suffix : List UInt8) :
    MediaHeader.decode (h.encode ++ suffix) =
      .ok { h with flags := Flags.fromBitsTruncate h.flags.bits } := by
  have long : headerLen ≤ (h.encode ++ suffix).length := by simp
  have magicSlice : slice (h.encode ++ suffix) 0 2 = beBytes 2 magic.toNat := by
    simp [slice,encode_eq]
  have widthSlice : slice (h.encode ++ suffix) 8 2 = beBytes 2 h.width.toNat := by
    simp [slice,encode_eq,List.drop_append,List.drop_eq_nil_of_le]
  have heightSlice : slice (h.encode ++ suffix) 10 2 = beBytes 2 h.height.toNat := by
    simp [slice,encode_eq,List.drop_append,List.drop_eq_nil_of_le]
  have seqSlice : slice (h.encode ++ suffix) 12 4 = beBytes 4 h.seq.toNat := by
    simp [slice,encode_eq,List.drop_append,List.drop_eq_nil_of_le]
  have ptsSlice : slice (h.encode ++ suffix) 16 8 = beBytes 8 h.ptsUsec.toNat := by
    simp [slice,encode_eq,List.drop_append,List.drop_eq_nil_of_le]
  have lenSlice : slice (h.encode ++ suffix) 24 4 = beBytes 4 h.payloadLen.toNat := by
    simp [slice,encode_eq,List.drop_append,List.drop_eq_nil_of_le]
  have typeByte : byteAt (h.encode ++ suffix) 2 = h.mediaType.toByte := by
    simp [byteAt,encode_eq]
  have flagByte : byteAt (h.encode ++ suffix) 3 = h.flags.bits := by
    simp [byteAt,encode_eq,List.getElem?_append]
  have codecByte : byteAt (h.encode ++ suffix) 4 = h.codec.toByte := by
    simp [byteAt,encode_eq,List.getElem?_append]
  rw [decode_long _ long,magicSlice,typeByte,flagByte,codecByte,widthSlice,heightSlice,seqSlice,
    ptsSlice,lenSlice]
  simp only [u16_beValue_beBytes,u32_beValue_beBytes,u64_beValue_beBytes,MediaType.tryFrom_toByte,
    Codec.tryFrom_toByte,ne_eq,not_true_eq_false,if_false]

/-- The first 28 bytes of a buffer as an encoder would write them: the reserved bytes
zero, the flags without unnamed bits. -/
def canonicalHeader (buf : List UInt8) : List UInt8 :=
  ((((buf.take headerLen).set 3 (byteAt buf 3 &&& 0x0F)).set 5 0).set 6 0).set 7 0

theorem slice_length (buf : List UInt8) (start length : Nat) (fits : start + length ≤ buf.length) :
    (slice buf start length).length = length := by
  simp only [slice,List.length_take,List.length_drop]
  omega

theorem slice_add (buf : List UInt8) (start first second : Nat) :
    slice buf start (first + second) = slice buf start first ++ slice buf (start + first) second := by
  simp only [slice,List.take_add,List.drop_drop]

theorem beBytes_u16_beValue (bytes : List UInt8) (two : bytes.length = 2) :
    beBytes 2 (UInt16.ofNat (beValue bytes)).toNat = bytes := by
  have bound := beValue_lt bytes
  rw [two] at bound
  rw [UInt16.toNat_ofNat_of_lt' bound,← two,beBytes_beValue]

theorem beBytes_u32_beValue (bytes : List UInt8) (four : bytes.length = 4) :
    beBytes 4 (UInt32.ofNat (beValue bytes)).toNat = bytes := by
  have bound := beValue_lt bytes
  rw [four] at bound
  rw [UInt32.toNat_ofNat_of_lt' bound,← four,beBytes_beValue]

theorem beBytes_u64_beValue (bytes : List UInt8) (eight : bytes.length = 8) :
    beBytes 8 (UInt64.ofNat (beValue bytes)).toNat = bytes := by
  have bound := beValue_lt bytes
  rw [eight] at bound
  rw [UInt64.toNat_ofNat_of_lt' bound,← eight,beBytes_beValue]

theorem canonicalHeader_eq (buf : List UInt8) (long : headerLen ≤ buf.length) :
    canonicalHeader buf = slice buf 0 2 ++
      [byteAt buf 2,byteAt buf 3 &&& 0x0F,byteAt buf 4,0,0,0] ++ slice buf 8 2 ++ slice buf 10 2 ++
      slice buf 12 4 ++ slice buf 16 8 ++ slice buf 24 4 := by
  have bound : 28 ≤ buf.length := long
  have whole : buf.take headerLen = slice buf 0 2 ++ slice buf 2 6 ++ slice buf 8 2 ++ slice buf 10 2 ++
      slice buf 12 4 ++ slice buf 16 8 ++ slice buf 24 4 := by
    change slice buf 0 (2 + 6 + 2 + 2 + 4 + 8 + 4) = _
    rw [slice_add,slice_add,slice_add,slice_add,slice_add,slice_add]
  have head := slice_length buf 0 2 (by omega)
  have bytes : slice buf 2 6 = [byteAt buf 2,byteAt buf 3,byteAt buf 4,byteAt buf 5,byteAt buf 6,byteAt buf 7] :=
    slice_eq buf 2 6 (by omega)
  rw [canonicalHeader,whole,bytes]
  simp [head]

theorem decode_ok (buf : List UInt8) (h : MediaHeader) (decoded : MediaHeader.decode buf = .ok h) :
    headerLen ≤ buf.length ∧ UInt16.ofNat (beValue (slice buf 0 2)) = magic ∧
      h.mediaType.toByte = byteAt buf 2 ∧ h.flags.bits = byteAt buf 3 &&& 0x0F ∧
      h.codec.toByte = byteAt buf 4 ∧ h.width = UInt16.ofNat (beValue (slice buf 8 2)) ∧
      h.height = UInt16.ofNat (beValue (slice buf 10 2)) ∧
      h.seq = UInt32.ofNat (beValue (slice buf 12 4)) ∧
      h.ptsUsec = UInt64.ofNat (beValue (slice buf 16 8)) ∧
      h.payloadLen = UInt32.ofNat (beValue (slice buf 24 4)) := by
  by_cases long : headerLen ≤ buf.length
  · rw [decode_long buf long] at decoded
    split at decoded
    · cases decoded
    · next known =>
      have isMagic := Decidable.not_not.mp known
      cases mediaType : MediaType.tryFrom (byteAt buf 2) with
      | error error =>
        rw [mediaType] at decoded
        cases decoded
      | ok found =>
        cases codec : Codec.tryFrom (byteAt buf 4) with
        | error error =>
          rw [mediaType,codec] at decoded
          cases decoded
        | ok used =>
          rw [mediaType,codec] at decoded
          cases decoded
          exact ⟨long,isMagic,MediaType.tryFrom_ok _ _ mediaType,rfl,Codec.tryFrom_ok _ _ codec,
            rfl,rfl,rfl,rfl,rfl⟩
  · rw [decode_short buf (Nat.lt_of_not_le long)] at decoded
    cases decoded

theorem encode_decode (buf : List UInt8) (h : MediaHeader) (decoded : MediaHeader.decode buf = .ok h) :
    h.encode = canonicalHeader buf := by
  obtain ⟨long,isMagic,mediaType,flags,codec,width,height,seq,pts,len⟩ := decode_ok buf h decoded
  have bound : 28 ≤ buf.length := long
  rw [encode_eq,canonicalHeader_eq buf long,← isMagic,mediaType,flags,codec,width,height,seq,pts,len,
    beBytes_u16_beValue _ (slice_length buf 0 2 (by omega)),
    beBytes_u16_beValue _ (slice_length buf 8 2 (by omega)),
    beBytes_u16_beValue _ (slice_length buf 10 2 (by omega)),
    beBytes_u32_beValue _ (slice_length buf 12 4 (by omega)),
    beBytes_u64_beValue _ (slice_length buf 16 8 (by omega)),
    beBytes_u32_beValue _ (slice_length buf 24 4 (by omega))]

end ClearCam.Media
