import ClearCam.Ios.Foundation

/-! The media header as the phone reads and writes it. Both languages declare the same
fields, and one type stands for the two records. -/
namespace ClearCam.Ios
open ClearCam.Library ClearCam.Media

namespace MediaConstants

def magic : UInt16 := 0xCC01

def headerLen : Nat := 28

end MediaConstants

def MediaFlags.known : UInt8 :=
  (1 : UInt8) <<< 0 ||| (1 : UInt8) <<< 1 ||| (1 : UInt8) <<< 2 ||| (1 : UInt8) <<< 3

def MediaFlags.intersection (flags : Flags) (mask : UInt8) : Flags := ⟨flags.bits &&& mask⟩

def MediaType.rawValue : MediaType → UInt8
  | .video => 1

def MediaType.fromRaw (rawValue : UInt8) : Option MediaType :=
  if rawValue = 1 then some .video else none

def MediaCodec.rawValue : Codec → UInt8
  | .raw => 0
  | .hevc => 1
  | .h264 => 2

def MediaCodec.fromRaw (rawValue : UInt8) : Option Codec :=
  if rawValue = 0 then some .raw
  else if rawValue = 1 then some .hevc
  else if rawValue = 2 then some .h264
  else none

def writeBE (v : UInt32) (p : List UInt8) (offset : Nat) : Option (List UInt8) := do
  let p := p.set offset (← uint8 ((v >>> 24) &&& 0xFF).toNat)
  let p := p.set (offset + 1) (← uint8 ((v >>> 16) &&& 0xFF).toNat)
  let p := p.set (offset + 2) (← uint8 ((v >>> 8) &&& 0xFF).toNat)
  return p.set (offset + 3) (← uint8 (v &&& 0xFF).toNat)

def writeBE64 (v : UInt64) (p : List UInt8) (offset : Nat) : Option (List UInt8) :=
  (List.range 8).foldlM (fun p i => do
    return p.set (offset + i) (← uint8 ((v >>> UInt64.ofNat (56 - i * 8)) &&& 0xFF).toNat)) p

def readBE32 (d : Data) (offset : Nat) : Option UInt32 := do
  return joinBE32 (← d.get offset) (← d.get (offset + 1)) (← d.get (offset + 2)) (← d.get (offset + 3))

def readBE64 (d : Data) (offset : Nat) : Option UInt64 :=
  (List.range 8).foldlM (fun v i => do return v <<< 8 ||| (← d.get (offset + i)).toUInt64) 0

namespace MediaHeader

def encode (h : MediaHeader) : Option (List UInt8) := do
  let p : List UInt8 := List.replicate MediaConstants.headerLen 0
  let p := p.set 0 (← uint8 (MediaConstants.magic >>> 8).toNat)
  let p := p.set 1 (← uint8 (MediaConstants.magic &&& 0xFF).toNat)
  let p := p.set 2 (MediaType.rawValue h.mediaType)
  let p := p.set 3 h.flags.bits
  let p := p.set 4 (MediaCodec.rawValue h.codec)
  let p := p.set 8 (← uint8 (h.width >>> 8).toNat)
  let p := p.set 9 (← uint8 (h.width &&& 0xFF).toNat)
  let p := p.set 10 (← uint8 (h.height >>> 8).toNat)
  let p := p.set 11 (← uint8 (h.height &&& 0xFF).toNat)
  let p ← writeBE h.seq p 12
  let p ← writeBE64 h.ptsUsec p 16
  writeBE h.payloadLen p 24

def decode (data : Data) : ExceptT DecodeError Option MediaHeader := do
  if data.count < MediaConstants.headerLen then throw (.tooShort data.count)
  let i := data.startIndex
  let magic := joinBE16 (← data.get i) (← data.get (i + 1))
  if magic ≠ MediaConstants.magic then throw (.badMagic magic)
  let some mediaType := MediaType.fromRaw (← data.get (i + 2))
    | throw (.unknownMediaType (← data.get (i + 2)))
  let flags := MediaFlags.intersection ⟨← data.get (i + 3)⟩ MediaFlags.known
  let some codec := MediaCodec.fromRaw (← data.get (i + 4))
    | throw (.unknownCodec (← data.get (i + 4)))
  let width := joinBE16 (← data.get (i + 8)) (← data.get (i + 9))
  let height := joinBE16 (← data.get (i + 10)) (← data.get (i + 11))
  let seq ← readBE32 data (i + 12)
  let pts ← readBE64 data (i + 16)
  let plen ← readBE32 data (i + 24)
  return {
    mediaType := mediaType
    flags := flags
    codec := codec
    width := width
    height := height
    seq := seq
    ptsUsec := pts
    payloadLen := plen}

end MediaHeader

theorem copyFromSlice_nil (p : List UInt8) (start : Nat) : copyFromSlice p start [] = p := by
  simp [copyFromSlice]

/-- A copy is its first store followed by the copy of the rest. -/
theorem copyFromSlice_cons (p : List UInt8) (start : Nat) (byte : UInt8) (rest : List UInt8)
    (inside : start < p.length) :
    copyFromSlice p start (byte :: rest) = copyFromSlice (p.set start byte) (start + 1) rest := by
  have head : (p.set start byte).take (start + 1) = p.take start ++ [byte] := by
    have stored : start < (p.set start byte).length := by
      rw [List.length_set]
      exact inside
    rw [List.take_succ_eq_append_getElem stored,List.take_set_of_le (Nat.le_refl start),List.getElem_set_self]
  have tail : (p.set start byte).drop (start + 1 + rest.length) = p.drop (start + (rest.length + 1)) := by
    rw [List.drop_set_of_lt (by omega)]
    congr 1
    omega
  simp only [copyFromSlice,head,tail,List.length_cons,List.append_assoc,List.singleton_append]

theorem writeBE_eq (v : UInt32) (p : List UInt8) (offset : Nat) (inside : offset + 4 ≤ p.length) :
    writeBE v p offset = some (copyFromSlice p offset (beBytes 4 v.toNat)) := by
  have first := uint8_masked v.toNat 24
  have second := uint8_masked v.toNat 16
  have third := uint8_masked v.toNat 8
  have fourth := uint8_masked v.toNat 0
  rw [beBytes_four,copyFromSlice_cons _ _ _ _ (by omega),copyFromSlice_cons _ _ _ _ (by simp; omega),
    copyFromSlice_cons _ _ _ _ (by simp; omega),copyFromSlice_cons _ _ _ _ (by simp; omega),copyFromSlice_nil]
  simp only [Nat.shiftRight_zero] at fourth
  simp [writeBE,first,second,third,fourth]

theorem writeBE64_eq (v : UInt64) (p : List UInt8) (offset : Nat) (inside : offset + 8 ≤ p.length) :
    writeBE64 v p offset = some (copyFromSlice p offset (beBytes 8 v.toNat)) := by
  have bytes : beBytes 8 v.toNat = [UInt8.ofNat (v.toNat / 2 ^ 56),UInt8.ofNat (v.toNat / 2 ^ 48),
      UInt8.ofNat (v.toNat / 2 ^ 40),UInt8.ofNat (v.toNat / 2 ^ 32),UInt8.ofNat (v.toNat / 2 ^ 24),
      UInt8.ofNat (v.toNat / 2 ^ 16),UInt8.ofNat (v.toNat / 2 ^ 8),UInt8.ofNat (v.toNat / 2 ^ 0)] := by
    simp [beBytes,Nat.div_div_eq_div_mul]
  -- what iteration `i` of the loop stores
  have stored : ∀ i < 8, uint8 ((v >>> UInt64.ofNat (56 - i * 8)) &&& 0xFF).toNat =
      some (UInt8.ofNat (v.toNat / 2 ^ (56 - i * 8))) := by
    intro i below
    have shift : (UInt64.ofNat (56 - i * 8)).toNat % 64 = 56 - i * 8 := by
      rw [UInt64.toNat_ofNat_of_lt' (by simp only [UInt64.size]; omega)]
      omega
    rw [UInt64.toNat_and,UInt64.toNat_shiftRight,shift]
    exact uint8_masked v.toNat (56 - i * 8)
  rw [bytes,copyFromSlice_cons _ _ _ _ (by omega)]
  repeat rw [copyFromSlice_cons _ _ _ _ (by simp only [List.length_set]; omega)]
  rw [copyFromSlice_nil]
  simp only [writeBE64,List.range_succ,List.range_zero,List.nil_append,List.foldlM_append,List.foldlM_cons,
    List.foldlM_nil,stored 0 (by decide),stored 1 (by decide),stored 2 (by decide),stored 3 (by decide),
    stored 4 (by decide),stored 5 (by decide),stored 6 (by decide),stored 7 (by decide)]
  rfl

theorem uint8_high (v : UInt16) : uint8 (v >>> 8).toNat = some (UInt8.ofNat (v.toNat / 256)) := by
  have bound := v.toNat_lt
  have high : (v >>> 8).toNat = v.toNat / 256 := by
    rw [UInt16.toNat_shiftRight]
    exact Nat.shiftRight_eq_div_pow v.toNat 8
  rw [high,uint8_of_lt _ (by omega)]

theorem uint8_low (v : UInt16) : uint8 (v &&& 0xFF).toNat = some (UInt8.ofNat v.toNat) := by
  have low := uint8_masked v.toNat 0
  simpa using low

theorem set_pair (v : UInt16) (p : List UInt8) (offset : Nat) (inside : offset + 2 ≤ p.length) :
    (p.set offset (UInt8.ofNat (v.toNat / 256))).set (offset + 1) (UInt8.ofNat v.toNat) =
      copyFromSlice p offset (beBytes 2 v.toNat) := by
  have bytes : beBytes 2 v.toNat = [UInt8.ofNat (v.toNat / 256),UInt8.ofNat v.toNat] := by simp [beBytes]
  rw [bytes,copyFromSlice_cons _ _ _ _ (by omega),copyFromSlice_cons _ _ _ _ (by rw [List.length_set]; omega),
    copyFromSlice_nil]

theorem copyFromSlice_length (p source : List UInt8) (start : Nat) :
    (copyFromSlice p start source).length =
      min start p.length + source.length + (p.length - (start + source.length)) := by
  simp only [copyFromSlice,List.length_append,List.length_take,List.length_drop]

theorem rawValue_eq (mediaType : MediaType) : MediaType.rawValue mediaType = mediaType.toByte := by
  cases mediaType
  rfl

theorem codecRawValue_eq (codec : Codec) : MediaCodec.rawValue codec = codec.toByte := by
  cases codec <;> rfl

theorem encode_agrees (h : MediaHeader) : MediaHeader.encode h = some h.encode := by
  simp only [MediaHeader.encode,uint8_high,uint8_low,Option.bind_eq_bind,Option.bind_some,rawValue_eq,
    codecRawValue_eq]
  rw [set_pair MediaConstants.magic _ 0 (by simp [MediaConstants.headerLen])]
  rw [set_pair h.width _ 8 (by simp [copyFromSlice_length,MediaConstants.headerLen])]
  rw [set_pair h.height _ 10 (by simp [copyFromSlice_length,MediaConstants.headerLen])]
  rw [writeBE_eq _ _ 12 (by simp [copyFromSlice_length,MediaConstants.headerLen])]
  rw [Option.bind_some,writeBE64_eq _ _ 16 (by simp [copyFromSlice_length,MediaConstants.headerLen])]
  rw [Option.bind_some,writeBE_eq _ _ 24 (by simp [copyFromSlice_length,MediaConstants.headerLen])]
  rfl

theorem readBE16_eq (d : Data) (offset : Nat) (inside : offset + 2 ≤ d.bytes.length) :
    joinBE16 (byteAt d.bytes offset) (byteAt d.bytes (offset + 1)) =
      UInt16.ofNat (beValue (slice d.bytes offset 2)) := by
  rw [joinBE16_eq,slice_eq _ _ _ inside]
  rfl

theorem readBE32_eq (d : Data) (offset : Nat) (inside : offset + 4 ≤ d.bytes.length) :
    readBE32 d (d.startIndex + offset) = some (UInt32.ofNat (beValue (slice d.bytes offset 4))) := by
  simp only [readBE32,Nat.add_assoc,d.get_add offset (by omega),d.get_add (offset + 1) (by omega),
    d.get_add (offset + 2) (by omega),d.get_add (offset + 3) (by omega)]
  rw [slice_eq _ _ _ inside]
  change some (joinBE32 _ _ _ _) = _
  rw [joinBE32_eq]
  rfl

theorem shift_or_u64 (bytes : List UInt8) (byte : UInt8) (short : bytes.length < 8) :
    UInt64.ofNat (beValue bytes) <<< 8 ||| byte.toUInt64 = UInt64.ofNat (beValue (bytes ++ [byte])) := by
  have bound : beValue bytes < 2 ^ 56 := by
    have seven : 256 ^ bytes.length ≤ 256 ^ 7 := Nat.pow_le_pow_right (by decide) (by omega)
    exact Nat.lt_of_lt_of_le (beValue_lt bytes) seven
  have fits : beValue bytes <<< 8 < 2 ^ 64 := by
    rw [Nat.shiftLeft_eq]
    omega
  have joined : (UInt64.ofNat (beValue bytes) <<< 8 ||| byte.toUInt64).toNat = beValue (bytes ++ [byte]) := by
    rw [UInt64.toNat_or,UInt64.toNat_shiftLeft,UInt64.toNat_ofNat_of_lt' (by simp only [UInt64.size]; omega)]
    change beValue bytes <<< 8 % 2 ^ 64 ||| byte.toNat = _
    rw [Nat.mod_eq_of_lt fits,shift_or_byte,beValue_concat]
  rw [← joined,UInt64.ofNat_toNat]

theorem readBE64_eq (d : Data) (offset : Nat) (inside : offset + 8 ≤ d.bytes.length) :
    readBE64 d (d.startIndex + offset) = some (UInt64.ofNat (beValue (slice d.bytes offset 8))) := by
  -- after `k` iterations the accumulator holds the first `k` bytes
  have loop : ∀ k ≤ 8, (List.range k).foldlM
      (fun v i => do return v <<< 8 ||| (← d.get (d.startIndex + offset + i)).toUInt64) 0 =
      some (UInt64.ofNat (beValue (slice d.bytes offset k))) := by
    intro k below
    induction k with
    | zero => rfl
    | succ k ih =>
      have byte : d.get (d.startIndex + offset + k) = some (byteAt d.bytes (offset + k)) := by
        rw [Nat.add_assoc]
        exact d.get_add (offset + k) (by omega)
      have last : slice d.bytes (offset + k) 1 = [byteAt d.bytes (offset + k)] :=
        slice_eq d.bytes (offset + k) 1 (by omega)
      have length := slice_length d.bytes offset k (by omega)
      rw [List.range_succ,List.foldlM_append,ih (by omega),slice_add,last,
        ← shift_or_u64 _ _ (by omega)]
      simp [byte]
  exact loop 8 (Nat.le_refl 8)

theorem fromRaw_eq (v : UInt8) :
    MediaType.tryFrom v = (MediaType.fromRaw v).elim (.error (.unknownMediaType v)) .ok := by
  unfold MediaType.fromRaw MediaType.tryFrom
  split <;> rfl

theorem codecFromRaw_eq (v : UInt8) :
    Codec.tryFrom v = (MediaCodec.fromRaw v).elim (.error (.unknownCodec v)) .ok := by
  unfold MediaCodec.fromRaw Codec.tryFrom
  split
  · rfl
  · split
    · rfl
    · split <;> rfl

theorem decode_agrees (data : Data) :
    (MediaHeader.decode data).run = some (Media.MediaHeader.decode data.bytes) := by
  by_cases short : data.bytes.length < headerLen
  · rw [decode_short _ short]
    have refused : data.count < MediaConstants.headerLen := short
    simp only [MediaHeader.decode,if_pos refused]
    rfl
  · have long : 28 ≤ data.bytes.length := Nat.le_of_not_lt short
    have passed : ¬data.count < MediaConstants.headerLen := short
    have magic := readBE16_eq data 0 (by omega)
    have width := readBE16_eq data 8 (by omega)
    have height := readBE16_eq data 10 (by omega)
    have seq := readBE32_eq data 12 (by omega)
    have pts := readBE64_eq data 16 (by omega)
    have plen := readBE32_eq data 24 (by omega)
    have byte : ∀ i < 28, data.get (data.startIndex + i) = some (byteAt data.bytes i) := by
      intro i below
      exact data.get_add i (by omega)
    rw [decode_long _ long,fromRaw_eq,codecFromRaw_eq]
    simp only [MediaHeader.decode,if_neg passed,seq,pts,plen,data.get_start (by omega),byte 1 (by decide),
      byte 2 (by decide),byte 3 (by decide),byte 4 (by decide),byte 8 (by decide),byte 9 (by decide),
      byte 10 (by decide),byte 11 (by decide)]
    simp only [bind_some_lift]
    have sameMagic : Media.magic = MediaConstants.magic := rfl
    rw [← magic,← width,← height,sameMagic]
    by_cases known : joinBE16 (byteAt data.bytes 0) (byteAt data.bytes (0 + 1)) = MediaConstants.magic
    · rw [if_neg (not_not_intro known),if_neg (not_not_intro known)]
      cases MediaType.fromRaw (byteAt data.bytes 2) with
      | none => rfl
      | some mediaType => cases MediaCodec.fromRaw (byteAt data.bytes 4) <;> rfl
    · rw [if_pos known,if_pos known]
      rfl

/-- The two codecs are one codec: what either side encodes the other decodes, byte for byte
and error for error. -/
theorem media_header_codec :
    (∀ (h : MediaHeader) (suffix : List UInt8), h.flags.bits &&& Flags.all = h.flags.bits →
      Media.MediaHeader.decode (h.encode ++ suffix) = .ok h) ∧
    (∀ (buf : List UInt8) (h : MediaHeader), Media.MediaHeader.decode buf = .ok h →
      h.encode = canonicalHeader buf) ∧
    (∀ data : Data, (MediaHeader.decode data).run = some (Media.MediaHeader.decode data.bytes)) ∧
    (∀ h : MediaHeader, MediaHeader.encode h = some h.encode ∧ h.encode.length = headerLen) := by
  refine ⟨?_,encode_decode,decode_agrees,fun h => ⟨encode_agrees h,encode_length h⟩⟩
  intro h suffix defined
  have masked : Flags.fromBitsTruncate h.flags.bits = h.flags := congrArg Flags.mk defined
  rw [decode_encode,masked]

def sampleHeader : MediaHeader where
  mediaType := .video
  flags := ⟨7⟩
  codec := .hevc
  width := 1920
  height := 1080
  seq := 42
  ptsUsec := 1234567890
  payloadLen := 12345

theorem media_header_codec_sample :
    sampleHeader.flags.bits &&& Flags.all = sampleHeader.flags.bits ∧
      Media.MediaHeader.decode (sampleHeader.encode ++ [9]) = .ok sampleHeader ∧
      sampleHeader.encode = canonicalHeader (sampleHeader.encode ++ [9]) ∧
      (MediaHeader.decode ⟨3,sampleHeader.encode ++ [9]⟩).run = some (.ok sampleHeader) := by
  have decoded := media_header_codec.1 sampleHeader [9] rfl
  refine ⟨rfl,decoded,media_header_codec.2.1 _ _ decoded,?_⟩
  rw [media_header_codec.2.2.1,decoded]

end ClearCam.Ios
