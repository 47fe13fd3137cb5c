import Mathlib.Data.List.AList

/-!
# Memo caches

A map remembers what was computed for the arguments asked for. An argument has a key in the map, and
a map that has reached its limit is emptied before the next argument is added. As long as arguments
with one key have one value, what is found is what would have been computed (`memo_fst`), and the
map stays within its limit (`Remembers.memo`).

Nothing is forgotten item by item: the map grows until it has `limit` entries and is then emptied as
a whole. The value is an argument of `memo` and not computed by it, for a caller may compute it in
steps of its own. `Remembers` ties it to a function, and has what a caller needs to know that a hit
and a miss give the same.
-/

set_option autoImplicit false

namespace SakuraTerminal.Foundations

universe u v w

namespace MemoCache

variable {α : Type u} {κ : Type v} {β : Type w} [DecidableEq κ]

/-- The value for the key, and the map afterwards. A map that is full is emptied first, so the new
entry is then the only one. -/
def memo (limit : Nat) (value : β) (map : AList fun _ : κ => β) (key : κ) :
    β × AList fun _ : κ => β :=
  match map.lookup key with
  | some found => (found, map)
  | none => (value, (if limit ≤ map.keys.length then ∅ else map).insert key value)

/-- The map holds values of `compute` under the keys of their arguments. It has at most `limit` of
them. -/
structure Remembers (limit : Nat) (key : α → κ) (compute : α → β) (map : AList fun _ : κ => β) :
    Prop where
  correct : ∀ x found, map.lookup (key x) = some found → found = compute x
  bounded : map.keys.length ≤ limit

variable {limit : Nat} {key : α → κ} {compute : α → β} {map : AList fun _ : κ => β}

theorem remembers_empty : Remembers limit key compute ∅ where
  correct := by
    intro x found h
    rw [AList.lookup_empty] at h
    cases h
  bounded := Nat.zero_le limit

/-- What is found is what would have been computed. -/
theorem memo_fst (h : Remembers limit key compute map) (x : α) :
    (memo limit (compute x) map (key x)).1 = compute x := by
  rw [memo]
  cases hfound : map.lookup (key x) with
  | some found => exact h.correct x found hfound
  | none => rfl

/-- The map after a new value was added. -/
theorem Remembers.insert (h : Remembers limit key compute map)
    (hkey : ∀ x y, key x = key y → compute x = compute y) {x : α}
    (hroom : map.keys.length < limit) (hnew : map.lookup (key x) = none) :
    Remembers limit key compute (map.insert (key x) (compute x)) where
  correct := by
    intro y found hfound
    by_cases heq : key y = key x
    · rw [heq, AList.lookup_insert, Option.some.injEq] at hfound
      rw [← hfound, hkey y x heq]
    · rw [AList.lookup_insert_ne heq] at hfound
      exact h.correct y found hfound
  bounded := by
    rw [AList.lookup_eq_none, AList.mem_keys] at hnew
    rw [AList.keys_insert, List.erase_of_not_mem hnew, List.length_cons]
    exact hroom

/-- Asking for a value keeps the invariant, whether it is found or added. -/
theorem Remembers.memo (h : Remembers limit key compute map)
    (hkey : ∀ x y, key x = key y → compute x = compute y) (hlimit : 0 < limit) (x : α) :
    Remembers limit key compute (memo limit (compute x) map (key x)).2 := by
  rw [MemoCache.memo]
  cases hfound : map.lookup (key x) with
  | some found => exact h
  | none =>
    by_cases hfull : limit ≤ map.keys.length
    · rw [if_pos hfull]
      exact remembers_empty.insert hkey hlimit (AList.lookup_empty _)
    · rw [if_neg hfull]
      exact h.insert hkey (Nat.lt_of_not_le hfull) hfound

end MemoCache

end SakuraTerminal.Foundations
