import Mathlib.Data.List.Rotate
import Mathlib.Data.List.Sort

/-!
# Sliding windows and their order statistics

A ring of `n` slots keeps the last `n` values of a history: value `i` of the history lies in slot
`i % n` as long as it is among the last `n` (`HoldsLast`), and the used slots are the last values in
some order (`HoldsLast.perm`). Order statistics do not depend on that order: `KthSmallest` is stated
by counting, `kthSmallest_of_pairwise` reads it off a sorted list, and larger ranks have larger
values (`KthSmallest.le`).

The two halves are independent of each other. A ring that answers with order statistics sorts a copy
of its used slots: `HoldsLast.perm` says that these are the last values in some order, and
`kthSmallest_insertionSort` that the order does not matter after sorting. Slots that were never
written are of no interest, as `slot` speaks of values of the history only.
-/

set_option autoImplicit false

namespace SakuraTerminal.Foundations

universe u

/-! ## Rings -/

section ring

variable {α : Type u} {n : Nat}

/-- The last `n` values of a history. All of them, if there are fewer than `n`. -/
def window (n : Nat) (history : List α) : List α := history.drop (history.length - n)

theorem length_window (n : Nat) (history : List α) :
    (window n history).length = min history.length n := by
  rw [window, List.length_drop]
  omega

/-- The slots hold the last values of `history`, and the next value goes to slot `cursor`. -/
structure HoldsLast (history : List α) (slots : Vector α n) (cursor : Fin n) : Prop where
  cursor : cursor.val = history.length % n
  slot : ∀ (i : Nat) (hi : i < history.length), history.length - n ≤ i →
    slots.toList[i % n]? = some history[i]

theorem holdsLast_nil (slots : Vector α n) {cursor : Fin n} (hcursor : cursor.val = 0) :
    HoldsLast [] slots cursor :=
  ⟨by rw [hcursor, List.length_nil, Nat.zero_mod], fun _ hi _ => absurd hi (Nat.not_lt_zero _)⟩

/-- Slots of different values among the last `n` are different. -/
theorem mod_ne_of_window {i length : Nat} (hi : i < length) (hlast : length + 1 - n ≤ i) :
    length % n ≠ i % n := by
  intro heq
  have hdvd : n ∣ length - i := Nat.dvd_of_mod_eq_zero (Nat.sub_mod_eq_zero_of_mod_eq heq)
  have := Nat.le_of_dvd (by omega) hdvd
  omega

/-- Storing one more value at the cursor. -/
theorem HoldsLast.push {history : List α} {slots : Vector α n} {cursor next : Fin n}
    (h : HoldsLast history slots cursor) (value : α) (hnext : next.val = (cursor.val + 1) % n) :
    HoldsLast (history ++ [value]) (slots.set cursor.val value cursor.isLt) next := by
  constructor
  case cursor =>
    rw [hnext, h.cursor, List.length_append, List.length_singleton, Nat.mod_add_mod]
  case slot =>
    intro i hi hlast
    rw [List.length_append, List.length_singleton] at hi hlast
    rw [Vector.toList_set, h.cursor]
    rcases Nat.lt_succ_iff_lt_or_eq.1 hi with hold | rfl
    · -- an older value keeps its slot
      rw [List.getElem?_set_ne (mod_ne_of_window hold hlast), List.getElem_append_left hold]
      exact h.slot i hold (by omega)
    · rw [List.getElem?_set_self (by simp [← h.cursor])]
      simp

/-- The used slots are the last values of the history, in some order. -/
theorem HoldsLast.perm {history : List α} {slots : Vector α n} {cursor : Fin n}
    (h : HoldsLast history slots cursor) :
    (slots.toList.take (min history.length n)).Perm (window n history) := by
  have hlength : slots.toList.length = n := by simp
  by_cases hfull : history.length ≤ n
  · -- before the wrap the slots are the history itself
    rw [window, Nat.min_eq_left hfull, Nat.sub_eq_zero_of_le hfull, List.drop_zero]
    refine .of_eq (List.ext_getElem? fun i => ?_)
    by_cases hi : i < history.length
    · have hslot := h.slot i hi (by omega)
      rw [Nat.mod_eq_of_lt (by omega)] at hslot
      rw [List.getElem?_take_of_lt hi, hslot, List.getElem?_eq_getElem hi]
    · rw [List.getElem?_eq_none (by simp; omega), List.getElem?_eq_none (by omega)]
  · -- afterwards the oldest of the last values lies at the cursor
    rw [Nat.min_eq_right (by omega), List.take_of_length_le (by omega)]
    have hrotate : slots.toList.rotate (history.length % n) = window n history := by
      refine List.ext_getElem (by rw [List.length_rotate, length_window]; omega) fun i h₁ h₂ => ?_
      rw [List.length_rotate, hlength] at h₁
      have hi : history.length - n + i < history.length := by omega
      have hslot := h.slot (history.length - n + i) hi (by omega)
      have hmod : (history.length - n + i) % n = (i + history.length % n) % n := by
        conv_rhs => rw [Nat.add_mod_mod]
        rw [← Nat.add_mod_right, show history.length - n + i + n = i + history.length by omega]
      rw [hmod] at hslot
      obtain ⟨_, hget⟩ := List.getElem?_eq_some_iff.1 hslot
      rw [List.getElem_rotate]
      simp only [window, List.getElem_drop]
      simpa only [hlength] using hget
    rw [← hrotate]
    exact (List.rotate_perm _ _).symm

end ring

/-! ## Order statistics -/

section order

variable {α : Type u} [LinearOrder α]

/-- `x` is the `k`-th smallest value of a list, counted from 1: fewer than `k` values are smaller,
and at least `k` are not larger. -/
structure KthSmallest (values : List α) (k : Nat) (x : α) : Prop where
  mem : x ∈ values
  smaller : values.countP (fun value => decide (value < x)) < k
  notLarger : k ≤ values.countP fun value => decide (value ≤ x)

/-- The order of the values does not matter. -/
theorem KthSmallest.perm {values values' : List α} {k : Nat} {x : α} (h : KthSmallest values k x)
    (hperm : values.Perm values') : KthSmallest values' k x :=
  ⟨hperm.mem_iff.1 h.mem, by rw [← hperm.countP_eq]; exact h.smaller,
    by rw [← hperm.countP_eq]; exact h.notLarger⟩

/-- A larger rank does not have a smaller value. -/
theorem KthSmallest.le {values : List α} {k k' : Nat} {x x' : α} (h : KthSmallest values k x)
    (h' : KthSmallest values k' x') (hle : k ≤ k') : x ≤ x' := by
  by_contra hlt
  rw [not_le] at hlt
  -- all values up to `x'` are smaller than `x`
  have hcount : values.countP (fun value => decide (value ≤ x')) ≤
      values.countP fun value => decide (value < x) := by
    refine List.countP_mono_left fun value _ hvalue => ?_
    rw [decide_eq_true_eq] at hvalue ⊢
    exact hvalue.trans_lt hlt
  have := h.smaller
  have := h'.notLarger
  omega

/-- A sorted list has its `k`-th smallest value at place `k`. -/
theorem kthSmallest_of_pairwise {values : List α} (hsorted : values.Pairwise (· ≤ ·)) {k : Nat}
    (hk : k < values.length) : KthSmallest values (k + 1) values[k] := by
  have hle : ∀ (i j : Nat) (hi : i < values.length) (hj : j < values.length), i ≤ j →
      values[i] ≤ values[j] := by
    intro i j hi hj hij
    rcases hij.lt_or_eq with hlt | rfl
    · exact List.pairwise_iff_getElem.1 hsorted i j hi hj hlt
    · exact le_rfl
  constructor
  case mem => exact List.getElem_mem hk
  case smaller =>
    -- only the values in front of place `k` can be smaller
    have hdrop : (values.drop k).countP (fun value => decide (value < values[k])) = 0 := by
      rw [List.countP_eq_zero]
      intro value hvalue
      obtain ⟨i, hi, rfl⟩ := List.mem_iff_getElem.1 hvalue
      rw [List.length_drop] at hi
      rw [List.getElem_drop, decide_eq_true_eq, not_lt]
      exact hle k (k + i) hk (by omega) (by omega)
    have htake := List.countP_le_length (p := fun value => decide (value < values[k]))
      (l := values.take k)
    rw [List.length_take] at htake
    have hsplit : values.countP (fun value => decide (value < values[k])) =
        (values.take k).countP (fun value => decide (value < values[k])) +
          (values.drop k).countP fun value => decide (value < values[k]) := by
      rw [← List.countP_append, List.take_append_drop]
    omega
  case notLarger =>
    have hall : (values.take (k + 1)).countP (fun value => decide (value ≤ values[k])) =
        (values.take (k + 1)).length := by
      rw [List.countP_eq_length]
      intro value hvalue
      obtain ⟨i, hi, rfl⟩ := List.mem_iff_getElem.1 hvalue
      rw [List.length_take] at hi
      rw [List.getElem_take, decide_eq_true_eq]
      exact hle i k (by omega) hk (by omega)
    rw [List.length_take, Nat.min_eq_left (by omega)] at hall
    calc k + 1 = (values.take (k + 1)).countP fun value => decide (value ≤ values[k]) := hall.symm
      _ ≤ values.countP fun value => decide (value ≤ values[k]) :=
        (List.take_sublist (k + 1) values).countP_le

/-- So does every list after sorting. -/
theorem kthSmallest_insertionSort {values : List α} {k : Nat} {x : α}
    (hx : (values.insertionSort (· ≤ ·))[k]? = some x) : KthSmallest values (k + 1) x := by
  obtain ⟨hlt, rfl⟩ := List.getElem?_eq_some_iff.1 hx
  exact (kthSmallest_of_pairwise (List.pairwise_insertionSort (· ≤ ·) values) hlt).perm
    (List.perm_insertionSort (· ≤ ·) values)

end order

end SakuraTerminal.Foundations
