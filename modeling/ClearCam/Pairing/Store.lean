import ClearCam.Library.Base64
import Mathlib.Data.List.AList

/-! The desktop's store of pairing keys, one for each device. -/
namespace ClearCam.Pairing
open ClearCam.Library

def standardAlphabet (d : Fin 64) : Char :=
  "ABCDEFGHIJKLMNOPQRSTUVWXYZabcdefghijklmnopqrstuvwxyz0123456789+/".toList[d.val]!

theorem standardAlphabet_injective : Function.Injective standardAlphabet := by
  have distinct : ∀ a b, standardAlphabet a = standardAlphabet b → a = b := by decide +kernel
  exact fun a b same => distinct a b same

theorem standardAlphabet_unpadded : ∀ d, standardAlphabet d ≠ '=' := by decide +kernel

inductive PairingStoreError where
  | io | tomlDe | tomlSer | b64 | noConfigDir
  deriving DecidableEq

structure PairingMaterial where
  bytes : List UInt8
  deriving DecidableEq

def PairingMaterial.asB64 (material : PairingMaterial) : String :=
  Base64.encode standardAlphabet material.bytes

def PairingMaterial.fromB64 (text : String) : Except PairingStoreError PairingMaterial :=
  match Base64.decode standardAlphabet text with
  | some bytes => .ok ⟨bytes⟩
  | none => .error .b64

structure OnDiskEntry where
  pairingKeyB64 : String
  pairedAt : String
  deriving DecidableEq

abbrev OnDisk := AList fun _ : String => OnDiskEntry

namespace PairingStore

def get (data : OnDisk) (udid : String) : Except PairingStoreError (Option PairingMaterial) :=
  match data.lookup udid with
  | some entry => (PairingMaterial.fromB64 entry.pairingKeyB64).map some
  | none => .ok none

/-- The map is changed before the file is written, whatever becomes of the file. -/
def put (data : OnDisk) (udid : String) (material : PairingMaterial) (pairedAt : String)
    (disk : Except PairingStoreError Unit) : Except PairingStoreError Unit × OnDisk :=
  (disk,data.insert udid ⟨material.asB64,pairedAt⟩)

def forget (data : OnDisk) (udid : String) (disk : Except PairingStoreError Unit) :
    Except PairingStoreError Unit × OnDisk :=
  (disk,data.erase udid)

theorem fromB64_asB64 (material : PairingMaterial) :
    PairingMaterial.fromB64 material.asB64 = .ok material := by
  simp [PairingMaterial.fromB64,PairingMaterial.asB64,
    Base64.decode_encode standardAlphabet standardAlphabet_injective]

theorem get_put (data : OnDisk) (udid other : String) (material : PairingMaterial) (pairedAt : String)
    (disk : Except PairingStoreError Unit) :
    get (put data other material pairedAt disk).2 udid =
      if other = udid then .ok (some material) else get data udid := by
  by_cases same : other = udid
  · simp [get,put,same,fromB64_asB64,Except.map]
  · simp [get,put,same,AList.lookup_insert_ne (Ne.symm same)]

theorem get_forget (data : OnDisk) (udid other : String) (disk : Except PairingStoreError Unit) :
    get (forget data other disk).2 udid = if other = udid then .ok none else get data udid := by
  by_cases same : other = udid
  · simp [get,forget,same]
  · simp [get,forget,same,AList.lookup_erase_ne (Ne.symm same)]

end PairingStore
end ClearCam.Pairing
