import Mathlib.Data.List.Basic

/-! Planes whose rows lie `stride` cells apart in memory, and the copy that packs their rows tightly. -/
namespace ClearCam.Library.Strided

variable {α : Type*}

def row (cells : List α) (stride width r : Nat) : List α := (cells.drop (r * stride)).take width

/-- The first rows of a plane, one directly after the other. -/
def tight (cells : List α) (stride width rows : Nat) : List α :=
  (List.range rows).flatMap (row cells stride width)

/-- Every row lies inside the memory of the plane. -/
def Holds (cells : List α) (stride width rows : Nat) : Prop := ∀ r < rows, r * stride + width ≤ cells.length

instance (cells : List α) (stride width rows : Nat) : Decidable (Holds cells stride width rows) :=
  inferInstanceAs (Decidable (∀ r < rows, _))

/-- `count` cells from `src` at `off` over those of `dst` at `pos`; `none` is an access out of bounds. -/
def memcpy (dst : List α) (pos : Nat) (src : List α) (off count : Nat) : Option (List α) :=
  if pos + count ≤ dst.length ∧ off + count ≤ src.length then
    some (dst.take pos ++ (src.drop off).take count ++ dst.drop (pos + count))
  else none

def copyRows (dst src : List α) (stride width rows : Nat) : Option (List α) :=
  (List.range rows).foldlM (fun dst r => memcpy dst (r * width) src (r * stride) width) dst

theorem row_length (cells : List α) (stride width rows r : Nat) (holds : Holds cells stride width rows)
    (inside : r < rows) : (row cells stride width r).length = width := by
  have fits := holds r inside
  rw [row,List.length_take,List.length_drop]
  omega

theorem tight_succ (cells : List α) (stride width rows : Nat) :
    tight cells stride width (rows + 1) = tight cells stride width rows ++ row cells stride width rows := by
  rw [tight,List.range_succ,List.flatMap_append,List.flatMap_singleton]
  rfl

theorem Holds.fewer {cells : List α} {stride width rows : Nat} (holds : Holds cells stride width (rows + 1)) :
    Holds cells stride width rows :=
  fun r inside => holds r (Nat.lt_succ_of_lt inside)

theorem tight_length (cells : List α) (stride width rows : Nat) (holds : Holds cells stride width rows) :
    (tight cells stride width rows).length = rows * width := by
  induction rows with
  | zero => simp [tight]
  | succ rows ih =>
    rw [tight_succ,List.length_append,ih holds.fewer,row_length cells stride width (rows + 1) rows holds (Nat.lt_succ_self _),
      Nat.succ_mul]

/-- A packed plane has the cells of the strided one. -/
theorem tight_getElem? (cells : List α) (stride width rows r c : Nat) (holds : Holds cells stride width rows)
    (below : r < rows) (within : c < width) :
    (tight cells stride width rows)[r * width + c]? = cells[r * stride + c]? := by
  induction rows with
  | zero => exact absurd below (Nat.not_lt_zero r)
  | succ rows ih =>
    have length := tight_length cells stride width rows holds.fewer
    rw [tight_succ]
    rcases Nat.lt_succ_iff_lt_or_eq.mp below with earlier | rfl
    · have before : r * width + c < rows * width := by
        calc r * width + c < r * width + width := by omega
          _ = (r + 1) * width := (Nat.succ_mul r width).symm
          _ ≤ rows * width := Nat.mul_le_mul_right width earlier
      rw [List.getElem?_append_left (by omega)]
      exact ih holds.fewer earlier
    · rw [List.getElem?_append_right (by omega),length,Nat.add_sub_cancel_left,row,List.getElem?_take_of_lt within,
        List.getElem?_drop]

/-- The copy fills the head of its target with the packed rows and leaves the rest alone. -/
theorem copyRows_eq (dst src : List α) (stride width rows : Nat) (holds : Holds src stride width rows)
    (room : rows * width ≤ dst.length) :
    copyRows dst src stride width rows = some (tight src stride width rows ++ dst.drop (rows * width)) := by
  induction rows with
  | zero => simp [copyRows,tight]
  | succ rows ih =>
    have grown : (rows + 1) * width = rows * width + width := Nat.succ_mul rows width
    have length := tight_length src stride width rows holds.fewer
    rw [copyRows,List.range_succ,List.foldlM_append,← copyRows,ih holds.fewer (by omega)]
    have inside := holds rows (Nat.lt_succ_self rows)
    change memcpy _ _ _ _ _ >>= _ = _
    rw [memcpy,if_pos ⟨by rw [List.length_append,List.length_drop,length]; omega,inside⟩]
    change some _ = some _
    rw [tight_succ,grown]
    congr 1
    rw [← length,List.take_left,← List.drop_drop,List.drop_left,length,List.drop_drop]
    rfl

end ClearCam.Library.Strided
