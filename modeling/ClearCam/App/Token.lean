import ClearCam.Library.Base64
import Mathlib.Algebra.Ring.Nat

/-! The text of a pairing token: base64 packed by hand, three bytes at a time. -/
namespace ClearCam.App
open ClearCam.Library

def urlAlphabet (d : Fin 64) : Char :=
  "ABCDEFGHIJKLMNOPQRSTUVWXYZabcdefghijklmnopqrstuvwxyz0123456789-_".toList[d.val]!

/-- `bytes.chunks(3)`. -/
def chunks : List UInt8 → List (List UInt8)
  | [] => []
  | [a] => [[a]]
  | [a,b] => [[a,b]]
  | a :: b :: c :: rest => [a,b,c] :: chunks rest

/-- The mask keeps the index inside the alphabet. -/
def sixBits (n : UInt32) : Fin 64 :=
  ⟨(n &&& 0x3f).toNat,by rw [UInt32.toNat_and]; exact Nat.lt_succ_of_le Nat.and_le_right⟩

def packBytes (a b c : UInt8) : UInt32 := a.toUInt32 <<< 16 ||| b.toUInt32 <<< 8 ||| c.toUInt32

def packChunk (chunk : List UInt8) : UInt32 :=
  let buf := chunk.zipIdx.foldl (fun buf (b,i) => buf.set i b) [0,0,0]
  packBytes (buf.getD 0 0) (buf.getD 1 0) (buf.getD 2 0)

def pushChunk (out : String) (chunk : List UInt8) : String :=
  let n := packChunk chunk
  let out := out.push (urlAlphabet (sixBits (n >>> 18)))
  let out := out.push (urlAlphabet (sixBits (n >>> 12)))
  let out := if chunk.length > 1 then out.push (urlAlphabet (sixBits (n >>> 6))) else out
  if chunk.length > 2 then out.push (urlAlphabet (sixBits n)) else out

def base64Url (bytes : List UInt8) : String := (chunks bytes).foldl pushChunk ""

theorem shifted_toNat (b : UInt8) (k : UInt32) (small : k.toNat ≤ 24) :
    (b.toUInt32 <<< k).toNat = b.toNat * 2 ^ k.toNat := by
  have inside : b.toNat * 2 ^ k.toNat < 2 ^ 8 * 2 ^ 24 :=
    Nat.mul_lt_mul_of_lt_of_le b.toNat_lt (Nat.pow_le_pow_right (by decide) small) (by decide)
  rw [UInt32.toNat_shiftLeft,UInt8.toNat_toUInt32,Nat.mod_eq_of_lt (by omega : k.toNat < 32),Nat.shiftLeft_eq]
  exact Nat.mod_eq_of_lt inside

theorem packBytes_toNat (a b c : UInt8) :
    (packBytes a b c).toNat = a.toNat * 2 ^ 16 + b.toNat * 2 ^ 8 + c.toNat := by
  have second := b.toNat_lt
  have third := c.toNat_lt
  have high : (a.toUInt32 <<< 16).toNat = a.toNat <<< 16 := by
    rw [shifted_toNat a 16 (by decide),Nat.shiftLeft_eq]
    rfl
  have low : (b.toUInt32 <<< 8).toNat = b.toNat <<< 8 := by
    rw [shifted_toNat b 8 (by decide),Nat.shiftLeft_eq]
    rfl
  rw [packBytes,UInt32.toNat_or,UInt32.toNat_or,high,low,UInt8.toNat_toUInt32,Nat.or_assoc,
    ← Nat.shiftLeft_add_eq_or_of_lt third,← Nat.shiftLeft_add_eq_or_of_lt (by rw [Nat.shiftLeft_eq]; omega),
    Nat.shiftLeft_eq,Nat.shiftLeft_eq,Nat.add_assoc]

theorem sixBits_shift (n k : UInt32) (small : k.toNat < 32) :
    sixBits (n >>> k) = Fin.ofNat 64 (n.toNat / 2 ^ k.toNat) := by
  apply Fin.ext
  change (n >>> k &&& 0x3f).toNat = n.toNat / 2 ^ k.toNat % 2 ^ 6
  rw [UInt32.toNat_and,UInt32.toNat_shiftRight,Nat.mod_eq_of_lt small,Nat.shiftRight_eq_div_pow]
  exact Nat.and_two_pow_sub_one_eq_mod _ 6

/-- The four groups of six bits, where a byte that is missing counts as zero. -/
theorem sixBits_packed (a b c : UInt8) :
    let n := packBytes a b c
    sixBits (n >>> 18) = .ofNat 64 (a.toNat / 4) ∧
      sixBits (n >>> 12) = .ofNat 64 (a.toNat % 4 * 16 + b.toNat / 16) ∧
      sixBits (n >>> 6) = .ofNat 64 (b.toNat % 16 * 4 + c.toNat / 64) ∧
      sixBits n = .ofNat 64 (c.toNat % 64) := by
  intro n
  have first := a.toNat_lt
  have second := b.toNat_lt
  have third := c.toNat_lt
  have whole : n >>> 0 = n := UInt32.shiftRight_zero
  have group : ∀ (k : UInt32) (m : Nat), k.toNat < 32 →
      (a.toNat * 2 ^ 16 + b.toNat * 2 ^ 8 + c.toNat) / 2 ^ k.toNat % 64 = m % 64 →
      sixBits (n >>> k) = .ofNat 64 m := by
    intro k m small same
    rw [sixBits_shift n k small,packBytes_toNat]
    exact Fin.ext same
  refine ⟨group 18 _ (by decide) ?_,group 12 _ (by decide) ?_,group 6 _ (by decide) ?_,?_⟩
  · change _ / 2 ^ 18 % 64 = _
    omega
  · change _ / 2 ^ 12 % 64 = _
    omega
  · change _ / 2 ^ 6 % 64 = _
    omega
  · rw [← whole]
    apply group 0 _ (by decide)
    change _ / 2 ^ 0 % 64 = _
    omega

/-- One turn of the loop, with one, two or three bytes in the chunk. -/
theorem pushChunk_toList (out : String) (a b c : UInt8) :
    (pushChunk out [a]).toList = out.toList ++ (Base64.sextets [a]).map urlAlphabet ∧
      (pushChunk out [a,b]).toList = out.toList ++ (Base64.sextets [a,b]).map urlAlphabet ∧
      (pushChunk out [a,b,c]).toList = out.toList ++ (Base64.sextets [a,b,c]).map urlAlphabet := by
  refine ⟨?_,?_,?_⟩
  · obtain ⟨first,second,_,_⟩ := sixBits_packed a 0 0
    have pushed : pushChunk out [a] = (out.push (urlAlphabet (sixBits (packBytes a 0 0 >>> 18)))).push
        (urlAlphabet (sixBits (packBytes a 0 0 >>> 12))) := rfl
    rw [pushed,first,second,String.toList_push,String.toList_push,List.append_assoc]
    rfl
  · obtain ⟨first,second,third,_⟩ := sixBits_packed a b 0
    have pushed : pushChunk out [a,b] = ((out.push (urlAlphabet (sixBits (packBytes a b 0 >>> 18)))).push
        (urlAlphabet (sixBits (packBytes a b 0 >>> 12)))).push (urlAlphabet (sixBits (packBytes a b 0 >>> 6))) := rfl
    rw [pushed,first,second,third,String.toList_push,String.toList_push,String.toList_push,List.append_assoc,
      List.append_assoc]
    rfl
  · obtain ⟨first,second,third,fourth⟩ := sixBits_packed a b c
    have pushed : pushChunk out [a,b,c] = (((out.push (urlAlphabet (sixBits (packBytes a b c >>> 18)))).push
        (urlAlphabet (sixBits (packBytes a b c >>> 12)))).push (urlAlphabet (sixBits (packBytes a b c >>> 6)))).push
        (urlAlphabet (sixBits (packBytes a b c))) := rfl
    rw [pushed,first,second,third,fourth,String.toList_push,String.toList_push,String.toList_push,String.toList_push,
      List.append_assoc,List.append_assoc,List.append_assoc]
    rfl

theorem pushChunks_toList (out : String) (bytes : List UInt8) :
    ((chunks bytes).foldl pushChunk out).toList = out.toList ++ (Base64.sextets bytes).map urlAlphabet := by
  induction bytes using chunks.induct generalizing out with
  | case1 => exact (List.append_nil _).symm
  | case2 a => exact (pushChunk_toList out a 0 0).1
  | case3 a b => exact (pushChunk_toList out a b 0).2.1
  | case4 a b c rest ih =>
    have regrouped : Base64.sextets (a :: b :: c :: rest) = Base64.sextets [a,b,c] ++ Base64.sextets rest := rfl
    rw [chunks,List.foldl_cons,ih,(pushChunk_toList out a b c).2.2,regrouped,List.map_append,List.append_assoc]

theorem base64Url_eq (bytes : List UInt8) : base64Url bytes = Base64.encode urlAlphabet bytes := by
  have pushed := pushChunks_toList "" bytes
  apply String.toList_injective
  rw [Base64.encode,String.toList_ofList]
  exact pushed

theorem urlAlphabet_injective : Function.Injective urlAlphabet := by
  have distinct : ∀ a b, urlAlphabet a = urlAlphabet b → a = b := by decide +kernel
  exact fun a b same => distinct a b same

def UrlSafe (c : Char) : Prop :=
  'A' ≤ c ∧ c ≤ 'Z' ∨ 'a' ≤ c ∧ c ≤ 'z' ∨ '0' ≤ c ∧ c ≤ '9' ∨ c = '-' ∨ c = '_'

theorem urlAlphabet_safe : ∀ d, UrlSafe (urlAlphabet d) := by
  unfold UrlSafe
  decide +kernel

/-- The loop writes the standard's encoding, whatever the last chunk is. -/
theorem base64Url_unpadded :
    (∀ bytes, base64Url bytes = Base64.encode urlAlphabet bytes ∧
      (base64Url bytes).length = (4 * bytes.length + 2) / 3 ∧
      (∀ c ∈ (base64Url bytes).toList, UrlSafe c) ∧
      Base64.decode urlAlphabet (base64Url bytes) = some bytes) ∧
    Function.Injective base64Url := by
  have same : base64Url = Base64.encode urlAlphabet := funext base64Url_eq
  rw [same]
  refine ⟨?_,Base64.encode_injective urlAlphabet urlAlphabet_injective⟩
  intro bytes
  refine ⟨rfl,Base64.encode_length urlAlphabet bytes,?_,Base64.decode_encode urlAlphabet urlAlphabet_injective bytes⟩
  intro c member
  rw [Base64.encode,String.toList_ofList] at member
  obtain ⟨d,_,rfl⟩ := List.mem_map.mp member
  exact urlAlphabet_safe d

end ClearCam.App
