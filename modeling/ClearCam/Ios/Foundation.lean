import ClearCam.Media.Header
import ClearCam.Library.Json
import Mathlib.Algebra.Group.Int.Defs

/-! The parts of Swift's `Data`, of its fixed-width integers and of Foundation's `NSNumber` that
the phone's codecs use. `none` stands for a runtime trap, except in a conditional cast. -/
namespace ClearCam.Ios
open ClearCam.Library ClearCam.Media

/-- A `Data` may be a slice of another one, so its first index need not be zero. -/
structure Data where
  startIndex : Nat
  bytes : List UInt8
  deriving DecidableEq

namespace Data

def count (data : Data) : Nat := data.bytes.length

def get (data : Data) (index : Nat) : Option UInt8 :=
  if index < data.startIndex then none else data.bytes[index - data.startIndex]?

/-- `subdata(in: lower..<upper)`, a copy with indices of its own. -/
def subdata (data : Data) (lower upper : Nat) : Option Data :=
  if data.startIndex ≤ lower ∧ lower ≤ upper ∧ upper ≤ data.startIndex + data.count then
    some ⟨0,slice data.bytes (lower - data.startIndex) (upper - lower)⟩
  else none

theorem get_add (data : Data) (i : Nat) (inside : i < data.bytes.length) :
    data.get (data.startIndex + i) = some (byteAt data.bytes i) := by
  have above : ¬data.startIndex + i < data.startIndex := by omega
  simp [get,above,byteAt,inside]

theorem get_start (data : Data) (inside : 0 < data.bytes.length) :
    data.get data.startIndex = some (byteAt data.bytes 0) :=
  data.get_add 0 inside

end Data

/-- `UInt8(n)`, which traps when `n` does not fit. -/
def uint8 (n : Nat) : Option UInt8 := if n < 256 then some (UInt8.ofNat n) else none

def uint32 (n : Nat) : Option UInt32 := if n < 2 ^ 32 then some (UInt32.ofNat n) else none

def uint64 (n : Int64) : Option UInt64 := if 0 ≤ n.toInt then some (UInt64.ofNat n.toInt.toNat) else none

/-- The whole number that a double has as its value. -/
def wholeDouble (value : Float) : Option Int :=
  match value.toModel.unpack with
  | .zero _ => some 0
  | .finite sign mantissa exponent _ =>
    if 0 ≤ exponent then some (sign.apply (mantissa * 2 ^ exponent.toNat))
    else if mantissa % 2 ^ (-exponent).toNat = 0 then some (sign.apply (mantissa / 2 ^ (-exponent).toNat))
    else none
  | _ => none

namespace NSNumber

/-- The whole number that a JSON number has as its value. A JSON boolean is an `NSNumber` too. -/
def wholeValue : Json → Option Int
  | .int value => some value
  | .real value => wholeDouble value
  | .bool value => some (if value then 1 else 0)
  | _ => none

/-- `any as? UInt64`, for a number whose value is representable. -/
def asUInt64 (any : Json) : Option UInt64 :=
  (wholeValue any).bind fun value => if 0 ≤ value ∧ value < 2 ^ 64 then some (UInt64.ofNat value.toNat) else none

def asInt64 (any : Json) : Option Int64 :=
  (wholeValue any).bind fun value =>
    if -2 ^ 63 ≤ value ∧ value < 2 ^ 63 then some (Int64.ofInt value) else none

/-- `any as? Int`, a type of the same range. -/
def asInt (any : Json) : Option Int64 := asInt64 any

/-- `(any as? NSNumber)?.uint64Value`, which converts as necessary. -/
def uint64Value : Json → Option UInt64
  | .int value => some (UInt64.ofInt value)
  | .real value => some value.toUInt64
  | .bool value => some (if value then 1 else 0)
  | _ => none

theorem asUInt64_int (value : UInt64) : asUInt64 (.int value.toNat) = some value := by
  have small := value.toNat_lt
  have inside : (0 : Int) ≤ value.toNat ∧ (value.toNat : Int) < 2 ^ 64 := by omega
  rw [asUInt64,wholeValue,Option.bind_some,if_pos inside,Int.toNat_natCast,UInt64.ofNat_toNat]

theorem asInt64_int (value : Int64) : asInt64 (.int value.toInt) = some value := by
  have inside : -2 ^ 63 ≤ value.toInt ∧ value.toInt < 2 ^ 63 := ⟨value.le_toInt,value.toInt_lt⟩
  rw [asInt64,wholeValue,Option.bind_some,if_pos inside,Int64.ofInt_toInt]

/-- The values that `Int64` holds and `UInt64` does not. -/
def Negative (any : Json) : Prop := ∃ value, wholeValue any = some value ∧ -2 ^ 63 ≤ value ∧ value < 0

theorem asUInt64_none_of_negative (any : Json) (negative : Negative any) : asUInt64 any = none := by
  obtain ⟨value,whole,_,below⟩ := negative
  have outside : ¬(0 ≤ value ∧ value < 2 ^ 64) := fun inside => absurd inside.1 (Int.not_le.mpr below)
  rw [asUInt64,whole,Option.bind_some,if_neg outside]

theorem asInt64_of_negative (any : Json) (negative : Negative any) :
    ∃ value, asInt64 any = some value ∧ uint64 value = none := by
  obtain ⟨value,whole,least,below⟩ := negative
  have inside : -2 ^ 63 ≤ value ∧ value < 2 ^ 63 := ⟨least,by omega⟩
  refine ⟨Int64.ofInt value,?_,?_⟩
  · rw [asInt64,whole,Option.bind_some,if_pos inside]
  · have kept : (Int64.ofInt value).toInt = value := Int64.toInt_ofInt_of_le least inside.2
    rw [uint64,kept,if_neg (Int.not_le.mpr below)]

/-- What `Int64` holds is negative or held by `UInt64` too. -/
theorem asInt64_of_not_negative (any : Json) (notNegative : ¬Negative any) (wide : asUInt64 any = none) :
    asInt64 any = none := by
  unfold asUInt64 at wide
  unfold asInt64
  cases whole : wholeValue any with
  | none => rfl
  | some value =>
    rw [whole,Option.bind_some] at wide
    rw [Option.bind_some,if_neg]
    intro inside
    by_cases below : value < 0
    · exact notNegative ⟨value,whole,inside.1,below⟩
    · rw [if_pos ⟨Int.not_lt.mp below,by omega⟩] at wide
      cases wide

end NSNumber

theorem uint8_of_lt (n : Nat) (small : n < 256) : uint8 n = some (UInt8.ofNat n) := if_pos small

theorem uint8_masked (n shift : Nat) : uint8 (n >>> shift &&& 255) = some (UInt8.ofNat (n / 2 ^ shift)) := by
  have mask : n >>> shift &&& 255 = n / 2 ^ shift % 256 := by
    rw [Nat.shiftRight_eq_div_pow]
    exact Nat.and_two_pow_sub_one_eq_mod (n / 2 ^ shift) 8
  have same : UInt8.ofNat (n / 2 ^ shift % 256) = UInt8.ofNat (n / 2 ^ shift) := by
    apply UInt8.toNat_inj.mp
    simp
  rw [mask,uint8_of_lt _ (Nat.mod_lt _ (by decide)),same]

theorem beBytes_four (n : Nat) : beBytes 4 n = [UInt8.ofNat (n / 2 ^ 24),UInt8.ofNat (n / 2 ^ 16),
    UInt8.ofNat (n / 2 ^ 8),UInt8.ofNat (n / 2 ^ 0)] := by
  simp [beBytes,Nat.div_div_eq_div_mul]

/-- An access that does not trap only passes its value on. -/
theorem bind_some_lift {ε α β : Type} (value : α) (next : α → ExceptT ε Option β) :
    (liftM (some value) >>= next) = next value := rfl

def joinBE16 (a b : UInt8) : UInt16 := a.toUInt16 <<< 8 ||| b.toUInt16

def joinBE32 (a b c d : UInt8) : UInt32 :=
  a.toUInt32 <<< 24 ||| b.toUInt32 <<< 16 ||| c.toUInt32 <<< 8 ||| d.toUInt32

theorem shift_or_byte (value : Nat) (byte : UInt8) : value <<< 8 ||| byte.toNat = value * 256 + byte.toNat := by
  rw [← Nat.shiftLeft_add_eq_or_of_lt byte.toNat_lt,Nat.shiftLeft_eq]

theorem joinBE16_eq (a b : UInt8) : joinBE16 a b = UInt16.ofNat (beValue [a,b]) := by
  have small := a.toNat_lt
  have joined : (joinBE16 a b).toNat = beValue [a,b] := by
    have fits : a.toNat <<< 8 < 2 ^ 16 := by
      rw [Nat.shiftLeft_eq]
      omega
    change (a.toUInt16 <<< 8 ||| b.toUInt16).toNat = _
    rw [UInt16.toNat_or,UInt16.toNat_shiftLeft]
    change a.toNat <<< 8 % 2 ^ 16 ||| b.toNat = _
    rw [Nat.mod_eq_of_lt fits,shift_or_byte]
    simp [beValue]
  rw [← joined,UInt16.ofNat_toNat]

theorem joinBE32_eq (a b c d : UInt8) : joinBE32 a b c d = UInt32.ofNat (beValue [a,b,c,d]) := by
  have smallA := a.toNat_lt
  have smallB := b.toNat_lt
  have smallC := c.toNat_lt
  have joined : (joinBE32 a b c d).toNat = beValue [a,b,c,d] := by
    have fitsA : a.toNat <<< 24 < 2 ^ 32 := by
      rw [Nat.shiftLeft_eq]
      omega
    have fitsB : b.toNat <<< 16 < 2 ^ 32 := by
      rw [Nat.shiftLeft_eq]
      omega
    have fitsC : c.toNat <<< 8 < 2 ^ 32 := by
      rw [Nat.shiftLeft_eq]
      omega
    change (a.toUInt32 <<< 24 ||| b.toUInt32 <<< 16 ||| c.toUInt32 <<< 8 ||| d.toUInt32).toNat = _
    rw [UInt32.toNat_or,UInt32.toNat_or,UInt32.toNat_or,UInt32.toNat_shiftLeft,UInt32.toNat_shiftLeft,
      UInt32.toNat_shiftLeft]
    change a.toNat <<< 24 % 2 ^ 32 ||| b.toNat <<< 16 % 2 ^ 32 ||| c.toNat <<< 8 % 2 ^ 32 ||| d.toNat = _
    rw [Nat.mod_eq_of_lt fitsA,Nat.mod_eq_of_lt fitsB,Nat.mod_eq_of_lt fitsC]
    -- the same bits, gathered byte by byte from the left
    have gathered : a.toNat <<< 24 ||| b.toNat <<< 16 ||| c.toNat <<< 8 ||| d.toNat =
        ((a.toNat <<< 8 ||| b.toNat) <<< 8 ||| c.toNat) <<< 8 ||| d.toNat := by
      simp only [Nat.shiftLeft_or_distrib,← Nat.shiftLeft_add]
    rw [gathered,shift_or_byte,shift_or_byte,shift_or_byte]
    simp [beValue]
  rw [← joined,UInt32.ofNat_toNat]

end ClearCam.Ios
