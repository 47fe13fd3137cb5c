import Mathlib.Data.List.Basic
import Mathlib.Algebra.BigOperators.Group.List.Basic

/-!
# Pieces packed into one buffer

A list of pieces is stored as its concatenation; `offsetOf pieces i` is where piece `i` starts.
`slice` reads part of a buffer. A slice between two offsets is the concatenation of the pieces
between them (`slice_flatten`), so a single piece is read back at its own offset
(`slice_flatten_getElem`). A concatenation shows whether a piece is missing
(`flatMap_eq_flatMap_iff`).

This is how a row of cells keeps its texts: one string for the row, and an offset and a length in
each cell. The lemmas on `offsetOf` say how offsets move when pieces are added (`offsetOf_succ`,
`offsetOf_append_left`) and that they are ordered (`offsetOf_mono`), so that slices of different
pieces do not overlap.
-/

set_option autoImplicit false

namespace SakuraTerminal.Foundations

universe u

variable {α : Type u}

/-- The `length` elements of `xs` from `offset` on. -/
def slice (xs : List α) (offset length : Nat) : List α := (xs.drop offset).take length

/-- The offset of piece `i` in the concatenation of the pieces. -/
def offsetOf (pieces : List (List α)) (i : Nat) : Nat := (pieces.take i).flatten.length

theorem length_slice {xs : List α} {offset length : Nat} (h : offset + length ≤ xs.length) :
    (slice xs offset length).length = length := by
  simp only [slice, List.length_take, List.length_drop]
  omega

/-- A slice of a prefix does not see what is appended after it. -/
theorem slice_append_left {xs ys : List α} {offset length : Nat} (h : offset + length ≤ xs.length) :
    slice (xs ++ ys) offset length = slice xs offset length := by
  rw [slice, slice, List.drop_append_of_le_length (by omega), List.take_append_of_le_length]
  rw [List.length_drop]
  omega

/-- What was appended last is read back at the old end. -/
theorem slice_append_right (xs ys : List α) : slice (xs ++ ys) xs.length ys.length = ys := by
  simp [slice]

@[simp] theorem offsetOf_zero (pieces : List (List α)) : offsetOf pieces 0 = 0 := rfl

/-- The next piece begins where this one ends. -/
theorem offsetOf_succ {pieces : List (List α)} {i : Nat} (h : i < pieces.length) :
    offsetOf pieces (i + 1) = offsetOf pieces i + pieces[i].length := by
  simp only [offsetOf, List.take_add_one, List.getElem?_eq_getElem h, Option.toList_some,
    List.flatten_append, List.length_append, List.flatten_singleton]

/-- Behind the last piece is the end of the buffer. -/
theorem offsetOf_length (pieces : List (List α)) :
    offsetOf pieces pieces.length = pieces.flatten.length := by
  simp [offsetOf]

theorem offsetOf_mono (pieces : List (List α)) {i j : Nat} (h : i ≤ j) :
    offsetOf pieces i ≤ offsetOf pieces j := by
  obtain ⟨k, rfl⟩ := Nat.exists_eq_add_of_le h
  simp only [offsetOf, List.take_add, List.flatten_append, List.length_append]
  omega

theorem offsetOf_le (pieces : List (List α)) (i : Nat) :
    offsetOf pieces i ≤ pieces.flatten.length := by
  by_cases h : i ≤ pieces.length
  · exact offsetOf_length pieces ▸ offsetOf_mono pieces h
  · simp [offsetOf, List.take_of_length_le (Nat.le_of_not_le h)]

/-- Pieces appended after piece `i` do not move it. -/
theorem offsetOf_append_left (pieces more : List (List α)) {i : Nat} (h : i ≤ pieces.length) :
    offsetOf (pieces ++ more) i = offsetOf pieces i := by
  rw [offsetOf, List.take_append_of_le_length h, offsetOf]

/-- Pieces of one length have evenly spaced offsets. -/
theorem offsetOf_of_length_eq {pieces : List (List α)} {size : Nat}
    (hsize : ∀ piece ∈ pieces, piece.length = size) {i : Nat} (h : i ≤ pieces.length) :
    offsetOf pieces i = size * i := by
  induction i with
  | zero => rfl
  | succ i ih =>
    rw [offsetOf_succ h, ih (by omega), hsize _ (List.getElem_mem _), Nat.mul_succ]

/-- The slice between two offsets is the concatenation of the pieces between them. -/
theorem slice_flatten (pieces : List (List α)) (i n : Nat) :
    slice pieces.flatten (offsetOf pieces i) (offsetOf pieces (i + n) - offsetOf pieces i) =
      ((pieces.drop i).take n).flatten := by
  have hlen : offsetOf pieces (i + n) - offsetOf pieces i =
      ((pieces.drop i).take n).flatten.length := by
    simp only [offsetOf, List.take_add, List.flatten_append, List.length_append]
    omega
  have hsplit : pieces.flatten = (pieces.take i).flatten ++
      (((pieces.drop i).take n).flatten ++ ((pieces.drop i).drop n).flatten) := by
    rw [← List.flatten_append, List.take_append_drop, ← List.flatten_append,
      List.take_append_drop]
  rw [hlen, slice]
  conv_lhs => rw [hsplit]
  rw [offsetOf, List.drop_left, List.take_left]

/-- A concatenation with some pieces left out is not longer. -/
theorem length_flatMap_le {ι : Type u} {pieces kept : ι → List α} {indices : List ι}
    (h : ∀ i ∈ indices, kept i = pieces i ∨ kept i = []) :
    (indices.flatMap kept).length ≤ (indices.flatMap pieces).length := by
  induction indices with
  | nil => exact Nat.le_refl _
  | cons i rest ih =>
    have hrest := ih fun j hj => h j (List.mem_cons_of_mem i hj)
    rw [List.flatMap_cons, List.flatMap_cons, List.length_append, List.length_append]
    rcases h i List.mem_cons_self with hsame | hnil
    · rw [hsame]
      omega
    · rw [hnil, List.length_nil]
      omega

/-- Pieces may be left out of a concatenation only if they are empty. -/
theorem flatMap_eq_flatMap_iff {ι : Type u} {pieces kept : ι → List α} {indices : List ι}
    (h : ∀ i ∈ indices, kept i = pieces i ∨ kept i = []) :
    indices.flatMap pieces = indices.flatMap kept ↔ ∀ i ∈ indices, kept i = pieces i := by
  induction indices with
  | nil => simp
  | cons i rest ih =>
    have hrest : ∀ j ∈ rest, kept j = pieces j ∨ kept j = [] :=
      fun j hj => h j (List.mem_cons_of_mem i hj)
    rw [List.flatMap_cons, List.flatMap_cons, List.forall_mem_cons]
    constructor
    · intro heq
      -- both sides are equally long, so no part of the right one is shorter
      have hlength := congrArg List.length heq
      have hle := length_flatMap_le hrest
      rw [List.length_append, List.length_append] at hlength
      rcases h i List.mem_cons_self with hsame | hnil
      · rw [hsame] at heq
        exact ⟨hsame, (ih hrest).1 (List.append_cancel_left heq)⟩
      · rw [hnil, List.length_nil] at hlength
        have hpiece : pieces i = [] := List.eq_nil_of_length_eq_zero (by omega)
        rw [hnil, hpiece] at heq
        exact ⟨hnil.trans hpiece.symm, (ih hrest).1 heq⟩
    · rintro ⟨hsame, hall⟩
      rw [hsame, (ih hrest).2 hall]

/-- Each piece is read back at its offset. -/
theorem slice_flatten_getElem {pieces : List (List α)} {i : Nat} (h : i < pieces.length) :
    slice pieces.flatten (offsetOf pieces i) pieces[i].length = pieces[i] := by
  -- the slice of one piece
  have hs := slice_flatten pieces i 1
  rw [offsetOf_succ h, Nat.add_sub_cancel_left] at hs
  rw [hs, List.take_one_drop_eq_of_lt_length h]
  simp

end SakuraTerminal.Foundations
