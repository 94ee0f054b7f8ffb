import Mathlib.Data.List.DropRight
import Mathlib.Data.List.FinRange

/-! Base64 of RFC 4648 over an arbitrary alphabet of 64 characters: bytes regrouped
as sextets, with or without the padding of the last group. -/
namespace ClearCam.Library.Base64

def sextets : List UInt8 → List (Fin 64)
  | [] => []
  | [a] => [.ofNat 64 (a.toNat / 4),.ofNat 64 (a.toNat % 4 * 16)]
  | [a,b] => [.ofNat 64 (a.toNat / 4),.ofNat 64 (a.toNat % 4 * 16 + b.toNat / 16),
      .ofNat 64 (b.toNat % 16 * 4)]
  | a :: b :: c :: rest => [.ofNat 64 (a.toNat / 4),.ofNat 64 (a.toNat % 4 * 16 + b.toNat / 16),
      .ofNat 64 (b.toNat % 16 * 4 + c.toNat / 64),.ofNat 64 (c.toNat % 64)] ++ sextets rest

/-- The bytes of a list of sextets, if the last group is one an encoder makes: no single
sextet, and no bits set past the last byte. -/
def ofSextets : List (Fin 64) → Option (List UInt8)
  | [] => some []
  | [_] => none
  | [p,q] => if q.val % 16 = 0 then some [.ofNat (p.val * 4 + q.val / 16)] else none
  | [p,q,r] =>
    if r.val % 4 = 0 then some [.ofNat (p.val * 4 + q.val / 16),.ofNat (q.val % 16 * 16 + r.val / 4)]
    else none
  | p :: q :: r :: s :: rest => (ofSextets rest).map fun bytes =>
      [.ofNat (p.val * 4 + q.val / 16),.ofNat (q.val % 16 * 16 + r.val / 4),
        .ofNat (r.val % 4 * 64 + s.val)] ++ bytes

theorem ofSextets_sextets (bytes : List UInt8) : ofSextets (sextets bytes) = some bytes := by
  -- one case for each way the last group can end; the bytes are recovered digit by digit
  have byte (n : Nat) (a : UInt8) (same : n = a.toNat) : UInt8.ofNat n = a := by
    rw [same,UInt8.ofNat_toNat]
  induction bytes using sextets.induct with
  | case1 => rfl
  | case2 a =>
    have low : a.toNat < 256 := a.toNat_lt
    have clear : (Fin.ofNat 64 (a.toNat % 4 * 16)).val % 16 = 0 := by simp
    simp only [sextets,ofSextets,clear,if_true]
    rw [byte _ a (by simp; omega)]
  | case3 a b =>
    have low : a.toNat < 256 := a.toNat_lt
    have next : b.toNat < 256 := b.toNat_lt
    have clear : (Fin.ofNat 64 (b.toNat % 16 * 4)).val % 4 = 0 := by simp
    simp only [sextets,ofSextets,clear,if_true]
    rw [byte _ a (by simp; omega),byte _ b (by simp; omega)]
  | case4 a b c rest ih =>
    have low : a.toNat < 256 := a.toNat_lt
    have next : b.toNat < 256 := b.toNat_lt
    have last : c.toNat < 256 := c.toNat_lt
    simp only [sextets,List.cons_append,List.nil_append,ofSextets,ih,Option.map_some]
    rw [byte _ a (by simp; omega),byte _ b (by simp; omega),byte _ c (by simp; omega)]

variable (alphabet : Fin 64 → Char)

def encode (bytes : List UInt8) : String := String.ofList ((sextets bytes).map alphabet)

def encodePadded (bytes : List UInt8) : String :=
  String.ofList ((sextets bytes).map alphabet ++ List.replicate ((3 - bytes.length % 3) % 3) '=')

def digit (c : Char) : Option (Fin 64) := (List.finRange 64).find? fun d => alphabet d = c

def decode (text : String) : Option (List UInt8) := (text.toList.mapM (digit alphabet)).bind ofSextets

def trim (c : Char) (text : String) : String :=
  String.ofList ((text.toList.dropWhile (· = c)).rdropWhile (· = c))

theorem digit_alphabet (injective : Function.Injective alphabet) (d : Fin 64) :
    digit alphabet (alphabet d) = some d := by
  cases found : digit alphabet (alphabet d) with
  | none =>
    have absent := List.find?_eq_none.mp found d (List.mem_finRange d)
    simp at absent
  | some e =>
    have same := List.find?_some found
    rw [injective (of_decide_eq_true same)]

theorem decode_encode (injective : Function.Injective alphabet) (bytes : List UInt8) :
    decode alphabet (encode alphabet bytes) = some bytes := by
  have digits (ds : List (Fin 64)) : (ds.map alphabet).mapM (digit alphabet) = some ds := by
    induction ds with
    | nil => rfl
    | cons d ds ih => simp [digit_alphabet alphabet injective,ih]
  simp only [decode,encode,String.toList_ofList,digits,Option.bind_some]
  exact ofSextets_sextets bytes

theorem encode_injective (injective : Function.Injective alphabet) :
    Function.Injective (encode alphabet) := by
  intro a b same
  have decoded := congrArg (decode alphabet) same
  rw [decode_encode alphabet injective,decode_encode alphabet injective] at decoded
  exact Option.some.inj decoded

theorem sextets_length (bytes : List UInt8) : (sextets bytes).length = (4 * bytes.length + 2) / 3 := by
  induction bytes using sextets.induct with
  | case1 => rfl
  | case2 a => simp [sextets]
  | case3 a b => simp [sextets]
  | case4 a b c rest ih =>
    rw [sextets,List.length_append,ih]
    simp only [List.length_cons,List.length_nil]
    omega

theorem encode_length (bytes : List UInt8) : (encode alphabet bytes).length = (4 * bytes.length + 2) / 3 := by
  rw [encode,String.length_ofList,List.length_map,sextets_length]

theorem rdropWhile_replicate (c : Char) (text : List Char) (n : Nat) :
    (text ++ List.replicate n c).rdropWhile (· = c) = text.rdropWhile (· = c) := by
  induction n with
  | zero => simp
  | succ n ih =>
    rw [List.replicate_succ',← List.append_assoc,List.rdropWhile_concat_pos _ _ _ (by simp),ih]

theorem trim_encodePadded (unpadded : ∀ d, alphabet d ≠ '=') (bytes : List UInt8) :
    trim '=' (encodePadded alphabet bytes) = encode alphabet bytes := by
  have plain : ∀ c ∈ (sextets bytes).map alphabet, c ≠ '=' := by
    intro c member
    obtain ⟨d,_,rfl⟩ := List.mem_map.mp member
    exact unpadded d
  have stop : ((sextets bytes).map alphabet).rdropWhile (· = '=') = (sextets bytes).map alphabet := by
    rw [List.rdropWhile_eq_self_iff]
    intro nonempty
    simpa using plain _ (List.getLast_mem nonempty)
  simp only [trim,encodePadded,encode,String.toList_ofList]
  congr 1
  generalize (sextets bytes).map alphabet = text at plain stop
  cases text with
  | nil => simp
  | cons c rest =>
    have first : c ≠ '=' := plain c List.mem_cons_self
    rw [List.cons_append,List.dropWhile_cons_of_neg (by simpa using first),← List.cons_append,
      rdropWhile_replicate,stop]

end ClearCam.Library.Base64
