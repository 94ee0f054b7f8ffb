import Mathlib.Data.List.Sort

/-! JSON values and the coders between them and typed data. A decoder reads an object
through its keys, so that neither the order of the members nor members it does not know
can matter to it. -/
namespace ClearCam.Library

/-- Numbers are kept as they are written, whole or with a fraction. -/
inductive Json where
  | null
  | bool (value : Bool)
  | int (value : Int)
  | real (value : Float)
  | str (value : String)
  | arr (items : List Json)
  | obj (members : List (String × Json))

namespace Json

abbrev Members := List (String × Json)

mutual

/-- The same value with the members of every object sorted by key. -/
def sortKeys (order : String → String → Bool) : Json → Json
  | .arr items => .arr (sortItems order items)
  | .obj members => .obj (sortMembers order members)
  | json => json

def sortItems (order : String → String → Bool) : List Json → List Json
  | [] => []
  | item :: items => sortKeys order item :: sortItems order items

def sortMembers (order : String → String → Bool) : Members → Members
  | [] => []
  | (key,value) :: members =>
    List.orderedInsert (fun a b => order a.1 b.1 = true) (key,sortKeys order value) (sortMembers order members)

end

theorem sortItems_eq (order : String → String → Bool) (items : List Json) :
    sortItems order items = items.map (sortKeys order) := by
  induction items with
  | nil => rfl
  | cons item items ih => rw [sortItems,ih,List.map_cons]

theorem sortMembers_perm (order : String → String → Bool) (members : Members) :
    (sortMembers order members).Perm (members.map fun member => (member.1,sortKeys order member.2)) := by
  induction members with
  | nil => exact List.Perm.refl []
  | cons member members ih =>
    obtain ⟨key,value⟩ := member
    rw [sortMembers,List.map_cons]
    exact (List.perm_orderedInsert _ _ _).trans (ih.cons _)

/-- What a decoder sees of an object: the value of each key that stands there once. -/
abbrev View := String → Option Json

def getField (members : Members) : View := fun key =>
  match members.filter fun member => member.1 = key with
  | [member] => some member.2
  | _ => none

theorem getField_perm (members other : Members) (same : members.Perm other) :
    getField members = getField other := by
  funext key
  have filtered := same.filter fun member => decide (member.1 = key)
  unfold getField
  cases found : members.filter fun member => decide (member.1 = key) with
  | nil =>
    rw [found] at filtered
    rw [List.nil_perm.mp filtered]
  | cons first rest =>
    rw [found] at filtered
    cases rest with
    | nil => rw [List.singleton_perm.mp filtered]
    | cons second rest =>
      have length := filtered.length_eq
      cases others : other.filter fun member => decide (member.1 = key) with
      | nil => simp [others] at length
      | cons one more =>
        cases more with
        | nil => simp [others] at length
        | cons two more => rfl

theorem getField_mapValues (change : Json → Json) (members : Members) (key : String) :
    getField (members.map fun member => (member.1,change member.2)) key = (getField members key).map change := by
  have filtered : ((members.map fun member => (member.1,change member.2)).filter
      fun member => decide (member.1 = key)) =
      (members.filter fun member => decide (member.1 = key)).map fun member => (member.1,change member.2) := by
    rw [List.filter_map]
    rfl
  unfold getField
  rw [filtered]
  cases members.filter fun member => decide (member.1 = key) with
  | nil => rfl
  | cons first rest => cases rest <;> rfl

theorem getField_sortMembers (order : String → String → Bool) (members : Members) (key : String) :
    getField (sortMembers order members) key = (getField members key).map (sortKeys order) := by
  rw [getField_perm _ _ (sortMembers_perm order members),getField_mapValues]

def hasField (members : Members) (key : String) : Bool := members.any fun member => member.1 = key

theorem hasField_sortMembers (order : String → String → Bool) (members : Members) (key : String) :
    hasField (sortMembers order members) key = hasField members key := by
  unfold hasField
  rw [(sortMembers_perm order members).any_eq,List.any_map]
  rfl

theorem getField_cons (members : Members) (key : String) (value : Json)
    (fresh : ∀ member ∈ members, member.1 ≠ key) : getField ((key,value) :: members) key = some value := by
  have none : (members.filter fun member => decide (member.1 = key)) = [] := by
    rw [List.filter_eq_nil_iff]
    intro member inside
    simpa using fresh member inside
  simp [getField,none]

theorem getField_cons_ne (members : Members) (key other : String) (value : Json) (differs : key ≠ other) :
    getField ((key,value) :: members) other = getField members other := by
  simp [getField,differs]

/-- Members that are filtered out by key hide no other key. -/
theorem getField_filter (members : Members) (kept : String → Bool) (key : String) (isKept : kept key = true) :
    getField (members.filter fun member => kept member.1) key = getField members key := by
  have filtered : ((members.filter fun member => kept member.1).filter fun member => decide (member.1 = key)) =
      members.filter fun member => decide (member.1 = key) := by
    rw [List.filter_filter]
    apply List.filter_congr
    intro member _
    by_cases same : member.1 = key
    · simp [same,isKept]
    · simp [same]
  simp only [getField,filtered]

theorem getField_append_absent (members more : Members) (key : String)
    (absent : ∀ member ∈ more, member.1 ≠ key) : getField (members ++ more) key = getField members key := by
  have none : (more.filter fun member => decide (member.1 = key)) = [] := by
    rw [List.filter_eq_nil_iff]
    intro member inside
    simpa using absent member inside
  simp only [getField,List.filter_append,none,List.append_nil]

end Json

open Json

/-- A two-way translation that reads back the valid values it wrote, whatever order the
keys of the objects inside have got in between. -/
structure Coder (α : Type) where
  Valid : α → Prop
  toJson : α → Json
  ofJson : Json → Option α
  ofJson_toJson : ∀ value, Valid value → ofJson (toJson value) = some value
  ofJson_sortKeys : ∀ order json, ofJson (sortKeys order json) = ofJson json

namespace Coder

def string : Coder String where
  Valid _ := True
  toJson value := .str value
  ofJson
    | .str value => some value
    | _ => none
  ofJson_toJson _ _ := rfl
  ofJson_sortKeys order json := by cases json <;> simp [sortKeys]

def boolean : Coder Bool where
  Valid _ := True
  toJson value := .bool value
  ofJson
    | .bool value => some value
    | _ => none
  ofJson_toJson _ _ := rfl
  ofJson_sortKeys order json := by cases json <;> simp [sortKeys]

def readNumber : Json → Option Float
  | .real value => some value
  | .int value => some (Float.ofInt value)
  | _ => none

theorem readNumber_sortKeys (order : String → String → Bool) (json : Json) :
    readNumber (sortKeys order json) = readNumber json := by
  cases json <;> simp [sortKeys,readNumber]

/-- Whole numbers below `size`, held in a type of that many values. -/
def unsigned {α : Type} (size : Nat) (toNat : α → Nat) (ofNat : Nat → α)
    (inside : ∀ value, toNat value < size) (back : ∀ value, ofNat (toNat value) = value) : Coder α where
  Valid _ := True
  toJson value := .int (toNat value)
  ofJson
    | .int value => if 0 ≤ value ∧ value < size then some (ofNat value.toNat) else none
    | _ => none
  ofJson_toJson value _ := by
    have fits := inside value
    simp [fits,back]
  ofJson_sortKeys order json := by cases json <;> simp [sortKeys]

def u16 : Coder UInt16 := unsigned UInt16.size UInt16.toNat UInt16.ofNat UInt16.toNat_lt_size fun _ => UInt16.ofNat_toNat

def u32 : Coder UInt32 := unsigned UInt32.size UInt32.toNat UInt32.ofNat UInt32.toNat_lt_size fun _ => UInt32.ofNat_toNat

def u64 : Coder UInt64 := unsigned UInt64.size UInt64.toNat UInt64.ofNat UInt64.toNat_lt_size fun _ => UInt64.ofNat_toNat

def list {α : Type} (coder : Coder α) : Coder (List α) where
  Valid values := ∀ value ∈ values, coder.Valid value
  toJson values := .arr (values.map coder.toJson)
  ofJson
    | .arr items => items.mapM coder.ofJson
    | _ => none
  ofJson_toJson values valid := by
    induction values with
    | nil => rfl
    | cons value values ih =>
      have first := coder.ofJson_toJson value (valid value List.mem_cons_self)
      have others := ih fun later member => valid later (List.mem_cons_of_mem value member)
      simp only [List.map_cons,List.mapM_cons,first] at others ⊢
      rw [others]
      rfl
  ofJson_sortKeys order json := by
    cases json with
    | arr items =>
      simp only [sortKeys,sortItems_eq,List.mapM_map]
      congr 1
      funext item
      exact coder.ofJson_sortKeys order item
    | _ => simp [sortKeys]

def through {α β : Type} (coder : Coder α) (Valid : β → Prop) (write : β → α) (read : α → β)
    (valid : ∀ value, Valid value → coder.Valid (write value) ∧ read (write value) = value) : Coder β where
  Valid := Valid
  toJson value := coder.toJson (write value)
  ofJson json := (coder.ofJson json).map read
  ofJson_toJson value isValid := by
    obtain ⟨inner,back⟩ := valid value isValid
    rw [coder.ofJson_toJson _ inner,Option.map_some,back]
  ofJson_sortKeys order json := by rw [coder.ofJson_sortKeys]

@[simp] theorem string_valid (value : String) : string.Valid value := trivial

@[simp] theorem boolean_valid (value : Bool) : boolean.Valid value := trivial

@[simp] theorem u16_valid (value : UInt16) : u16.Valid value := trivial

@[simp] theorem u32_valid (value : UInt32) : u32.Valid value := trivial

@[simp] theorem u64_valid (value : UInt64) : u64.Valid value := trivial

theorem u64_toJson (value : UInt64) : u64.toJson value = .int value.toNat := rfl

theorem u64_ofJson (value : UInt64) : u64.ofJson (.int value.toNat) = some value := by
  rw [← u64_toJson]
  exact u64.ofJson_toJson value (u64_valid value)

@[simp] theorem list_valid {α : Type} (coder : Coder α) (values : List α) :
    (list coder).Valid values ↔ ∀ value ∈ values, coder.Valid value := Iff.rfl

end Coder

def readField {α : Type} (view : View) (key : String) (coder : Coder α) : Option α := (view key).bind coder.ofJson

theorem readField_found {α : Type} (view : View) (key : String) (coder : Coder α) (json : Json)
    (found : view key = some json) : readField view key coder = coder.ofJson json := by
  rw [readField,found,Option.bind_some]

theorem readField_sorted {α : Type} (order : String → String → Bool) (view : View) (key : String)
    (coder : Coder α) :
    readField (fun key => (view key).map (sortKeys order)) key coder = readField view key coder := by
  change ((view key).map (sortKeys order)).bind coder.ofJson = (view key).bind coder.ofJson
  cases view key with
  | none => rfl
  | some json => exact coder.ofJson_sortKeys order json

/-- The fields of a type, as members of an object that may hold others too. -/
structure Record (α : Type) where
  Valid : α → Prop
  keys : List String
  toMembers : α → Members
  ofView : View → Option α
  toMembers_keys : ∀ value, ∀ member ∈ toMembers value, member.1 ∈ keys
  ofView_toMembers : ∀ value, Valid value → ofView (getField (toMembers value)) = some value
  ofView_congr : ∀ view other, (∀ key ∈ keys, view key = other key) → ofView view = ofView other
  ofView_sorted : ∀ order view, ofView (fun key => (view key).map (sortKeys order)) = ofView view

namespace Record

variable {α β : Type}

def nil : Record Unit where
  Valid _ := True
  keys := []
  toMembers _ := []
  ofView _ := some ()
  toMembers_keys _ member inside := by cases inside
  ofView_toMembers _ _ := rfl
  ofView_congr _ _ _ := rfl
  ofView_sorted _ _ := rfl

/-- A required field in front of others. Nothing is valid where its key is one of theirs. -/
def cons (key : String) (coder : Coder α) (rest : Record β) : Record (α × β) where
  Valid value := key ∉ rest.keys ∧ coder.Valid value.1 ∧ rest.Valid value.2
  keys := key :: rest.keys
  toMembers value := (key,coder.toJson value.1) :: rest.toMembers value.2
  ofView view := do
    let first ← readField view key coder
    let others ← rest.ofView view
    return (first,others)
  toMembers_keys value member inside := by
    rcases List.mem_cons.mp inside with same | later
    · rw [same]
      exact List.mem_cons_self
    · exact List.mem_cons_of_mem key (rest.toMembers_keys value.2 member later)
  ofView_toMembers value valid := by
    obtain ⟨absent,first,others⟩ := valid
    have differs : ∀ member ∈ rest.toMembers value.2, member.1 ≠ key := by
      intro member inside same
      apply absent
      rw [← same]
      exact rest.toMembers_keys value.2 member inside
    have found := readField_found _ key coder _
      (getField_cons (rest.toMembers value.2) key (coder.toJson value.1) differs)
    have beyond : rest.ofView (getField ((key,coder.toJson value.1) :: rest.toMembers value.2)) =
        rest.ofView (getField (rest.toMembers value.2)) := by
      apply rest.ofView_congr
      intro other inside
      apply getField_cons_ne
      intro same
      exact absent (same ▸ inside)
    simp only [found,beyond,rest.ofView_toMembers value.2 others,Option.bind_some,
      coder.ofJson_toJson value.1 first,bind,pure]
  ofView_congr view other same := by
    have first : readField view key coder = readField other key coder := by
      rw [readField,readField,same key List.mem_cons_self]
    have others := rest.ofView_congr view other fun later inside => same later (List.mem_cons_of_mem key inside)
    simp only [first,others]
  ofView_sorted order view := by
    simp only [readField_sorted,rest.ofView_sorted]

/-- The fields under the type's own constructor. -/
def as (fields : Record α) (split : β → α) (make : α → β) (back : ∀ value, make (split value) = value) :
    Record β where
  Valid value := fields.Valid (split value)
  keys := fields.keys
  toMembers value := fields.toMembers (split value)
  ofView view := (fields.ofView view).map make
  toMembers_keys value := fields.toMembers_keys (split value)
  ofView_toMembers value valid := by rw [fields.ofView_toMembers _ valid,Option.map_some,back]
  ofView_congr view other same := by rw [fields.ofView_congr view other same]
  ofView_sorted order view := by rw [fields.ofView_sorted]

def object (fields : Record α) : Coder α where
  Valid := fields.Valid
  toJson value := .obj (fields.toMembers value)
  ofJson
    | .obj members => fields.ofView (getField members)
    | _ => none
  ofJson_toJson := fields.ofView_toMembers
  ofJson_sortKeys order json := by
    cases json with
    | obj members =>
      have view : getField (sortMembers order members) =
          fun key => (getField members key).map (sortKeys order) := by
        funext key
        exact getField_sortMembers order members key
      simp only [sortKeys,view,fields.ofView_sorted]
    | _ => simp [sortKeys]

/-- A nested object whose decoder also takes the values alone, as an array in field order. -/
def objectOrArray (fields : Record α) : Coder α where
  Valid := fields.Valid
  toJson := fields.object.toJson
  ofJson
    | .arr items =>
      if items.length = fields.keys.length then fields.ofView (getField (fields.keys.zip items)) else none
    | json => fields.object.ofJson json
  ofJson_toJson := fields.ofView_toMembers
  ofJson_sortKeys order json := by
    cases json with
    | arr items =>
      have view : getField (fields.keys.zip (items.map (sortKeys order))) =
          fun key => (getField (fields.keys.zip items) key).map (sortKeys order) := by
        funext key
        rw [← getField_mapValues,List.zip_map_right]
        rfl
      simp only [sortKeys,sortItems_eq,List.length_map,view,fields.ofView_sorted]
    | obj members => exact fields.object.ofJson_sortKeys order (.obj members)
    | _ => simp [sortKeys]

@[simp] theorem nil_valid (value : Unit) : nil.Valid value := trivial

@[simp] theorem nil_keys : nil.keys = [] := rfl

@[simp] theorem cons_keys (key : String) (coder : Coder α) (rest : Record β) :
    (cons key coder rest).keys = key :: rest.keys := rfl

@[simp] theorem cons_valid (key : String) (coder : Coder α) (rest : Record β) (value : α × β) :
    (cons key coder rest).Valid value ↔ key ∉ rest.keys ∧ coder.Valid value.1 ∧ rest.Valid value.2 := Iff.rfl

@[simp] theorem as_valid (fields : Record α) (split : β → α) (make : α → β)
    (back : ∀ value, make (split value) = value) (value : β) :
    (fields.as split make back).Valid value ↔ fields.Valid (split value) := Iff.rfl

@[simp] theorem object_valid (fields : Record α) (value : α) : fields.object.Valid value ↔ fields.Valid value :=
  Iff.rfl

@[simp] theorem objectOrArray_valid (fields : Record α) (value : α) :
    fields.objectOrArray.Valid value ↔ fields.Valid value := Iff.rfl

theorem toMembers_beside (fields : Record α) (names : List String) (avoids : ∀ key ∈ fields.keys, key ∉ names)
    (value : α) : ∀ member ∈ fields.toMembers value, member.1 ∉ names :=
  fun member inside => avoids member.1 (fields.toMembers_keys value member inside)

/-- A record whose keys avoid some names does not notice what stands under them. -/
theorem ofView_beside (fields : Record α) (names : List String) (view other : View)
    (avoids : ∀ key ∈ fields.keys, key ∉ names) (same : ∀ key ∉ names, view key = other key) :
    fields.ofView view = fields.ofView other :=
  fields.ofView_congr view other fun key inside => same key (avoids key inside)

end Record

end ClearCam.Library
