import Mathlib.Data.List.Nodup
import Mathlib.Data.Finset.Card
import Mathlib.Data.Finset.Insert

/-!
# Bounded intern tables

A table that values are appended to once and referred to by index, up to a limit; past the limit an
unknown value gets index 0 and the table stays as it is. `Stands limit table i x` says that index
`i` is what `x` was given. It survives every later growth of the table (`Stands.growth`), so an
index that was handed out never changes its meaning, and reading it gives `shown table x`: the
value itself if it is in the table, and entry 0 otherwise (`Stands.getElem?`).

`Growth` is the order on tables that interning moves along, and is what a caller proves of a step
that interns any number of values. The limit makes the answer for an unknown value ambiguous, for
index 0 is also the index of the first entry. `Stands` keeps the two cases apart, and
`Stands.mem_of_card_le` removes the second where all values come from a set that fits.
-/

set_option autoImplicit false

namespace SakuraTerminal.Foundations.InternTable

universe u

variable {α : Type u} {limit : Nat} {table table' table'' : List α} {x : α}

/-- `table'` comes from `table` by interning: entries are only appended, and none past the limit. A
full table is not changed any more, and a table within the limit stays within it. -/
structure Growth (limit : Nat) (table table' : List α) : Prop where
  isPrefix : table <+: table'
  full : limit ≤ table.length → table' = table
  bounded : table.length ≤ limit → table'.length ≤ limit

/-- Index `i` stands for `x`: it is the index of `x`, or `x` came when the table was full. In the
second case entry 0 is read in its place, and the value never comes into the table. -/
def Stands (limit : Nat) (table : List α) (i : Nat) (x : α) : Prop :=
  table[i]? = some x ∨ (i = 0 ∧ x ∉ table ∧ table ≠ [] ∧ limit ≤ table.length)

theorem Growth.refl (limit : Nat) (table : List α) : Growth limit table table :=
  ⟨List.prefix_rfl, fun _ => rfl, id⟩

theorem Growth.trans (h : Growth limit table table') (h' : Growth limit table' table'') :
    Growth limit table table'' := by
  refine ⟨h.isPrefix.trans h'.isPrefix, fun hfull => ?_, fun hle => h'.bounded (h.bounded hle)⟩
  have heq := h.full hfull
  subst heq
  exact h'.full hfull

/-- An entry keeps its index. -/
theorem Growth.getElem? (h : Growth limit table table') {i : Nat} {y : α}
    (hi : table[i]? = some y) : table'[i]? = some y := by
  obtain ⟨rest, rfl⟩ := h.isPrefix
  rw [List.getElem?_append_left (List.getElem?_eq_some_iff.1 hi).1]
  exact hi

/-- An index that was handed out keeps its meaning. -/
theorem Stands.growth {i : Nat} (h : Stands limit table i x)
    (hgrow : Growth limit table table') : Stands limit table' i x := by
  rcases h with hi | ⟨hzero, hx, hne, hfull⟩
  · exact Or.inl (hgrow.getElem? hi)
  · -- a full table does not grow, so index 0 keeps standing for the rejected value
    rw [hgrow.full hfull]
    exact Or.inr ⟨hzero, hx, hne, hfull⟩

theorem Stands.lt_length {i : Nat} (h : Stands limit table i x) : i < table.length := by
  rcases h with hi | ⟨rfl, -, hne, -⟩
  · exact (List.getElem?_eq_some_iff.1 hi).1
  · exact List.length_pos_iff.2 hne

/-! ## Interning -/

variable [DecidableEq α]

/-- The index of `x` and the table afterwards. An unknown value is given index 0 once the table is
full, and the next free index before that. -/
def intern (limit : Nat) (table : List α) (x : α) : Nat × List α :=
  match table.findIdx? (· == x) with
  | some index => (index, table)
  | none => if table.length ≥ limit then (0, table) else (table.length, table ++ [x])

/-- What reading the table shows for `x`. -/
def shown (table : List α) (x : α) : Option α := if x ∈ table then some x else table[0]?

/-- What interning can do: find the value, reject it because the table is full, or append it. -/
theorem intern_cases {i : Nat} (h : intern limit table x = (i, table')) :
    (table[i]? = some x ∧ table' = table) ∨
    (x ∉ table ∧ limit ≤ table.length ∧ i = 0 ∧ table' = table) ∨
    (x ∉ table ∧ table.length < limit ∧ i = table.length ∧ table' = table ++ [x]) := by
  rw [intern] at h
  cases hfind : table.findIdx? (· == x) with
  | some index =>
    rw [hfind] at h
    obtain ⟨rfl, rfl⟩ := Prod.mk.inj h
    obtain ⟨hi, hx, -⟩ := List.findIdx?_eq_some_iff_getElem.1 hfind
    refine Or.inl ⟨?_, rfl⟩
    rw [List.getElem?_eq_getElem hi]
    simpa using hx
  | none =>
    rw [hfind] at h
    have hx : x ∉ table := by
      intro hmem
      have := List.findIdx?_eq_none_iff.1 hfind x hmem
      simp at this
    by_cases hfull : table.length ≥ limit
    · simp only [if_pos hfull] at h
      obtain ⟨rfl, rfl⟩ := Prod.mk.inj h
      exact Or.inr (Or.inl ⟨hx, hfull, rfl, rfl⟩)
    · simp only [if_neg hfull] at h
      obtain ⟨rfl, rfl⟩ := Prod.mk.inj h
      exact Or.inr (Or.inr ⟨hx, Nat.lt_of_not_le hfull, rfl, rfl⟩)

theorem growth_intern {i : Nat} (h : intern limit table x = (i, table')) :
    Growth limit table table' := by
  obtain ⟨-, rfl⟩ | ⟨-, -, -, rfl⟩ | ⟨-, hroom, -, rfl⟩ := intern_cases h
  · exact .refl limit table'
  · exact .refl limit table'
  · exact ⟨List.prefix_append _ _, fun hfull => absurd hroom (Nat.not_lt_of_le hfull),
      fun _ => by simp; omega⟩

/-- The index that interning returns stands for the value. Entry 0 has to exist for that. -/
theorem stands_intern {i : Nat} (h : intern limit table x = (i, table')) (hne : table ≠ []) :
    Stands limit table' i x := by
  obtain ⟨hi, rfl⟩ | ⟨hx, hfull, rfl, rfl⟩ | ⟨-, -, rfl, rfl⟩ := intern_cases h
  · exact Or.inl hi
  · exact Or.inr ⟨rfl, hx, hne, hfull⟩
  · exact Or.inl List.getElem?_concat_length

/-- What is read at an index that was handed out. -/
theorem Stands.getElem? {i : Nat} (h : Stands limit table i x) : table[i]? = shown table x := by
  rw [shown]
  rcases h with hi | ⟨rfl, hx, -, -⟩
  · rw [if_pos (List.mem_of_getElem? hi)]
    exact hi
  · rw [if_neg hx]

theorem nodup_intern {i : Nat} (h : intern limit table x = (i, table')) (hnodup : table.Nodup) :
    table'.Nodup := by
  obtain ⟨-, rfl⟩ | ⟨-, -, -, rfl⟩ | ⟨hx, -, -, rfl⟩ := intern_cases h
  · exact hnodup
  · exact hnodup
  · rw [← List.concat_eq_append]
    exact hnodup.concat hx

/-- Interning adds nothing but the value. -/
theorem mem_intern {i : Nat} (h : intern limit table x = (i, table')) {y : α} (hy : y ∈ table') :
    y ∈ table ∨ y = x := by
  obtain ⟨-, rfl⟩ | ⟨-, -, -, rfl⟩ | ⟨-, -, -, rfl⟩ := intern_cases h
  · exact Or.inl hy
  · exact Or.inl hy
  · simpa using hy

/-- A value of a set that fits into the table is in the table when an index stands for it. -/
theorem Stands.mem_of_card_le {values : Finset α} {i : Nat} (h : Stands limit table i x)
    (hnodup : table.Nodup) (hsub : ∀ y ∈ table, y ∈ values) (hx : x ∈ values)
    (hcard : values.card ≤ limit) : x ∈ table := by
  rcases h with hi | ⟨-, hnot, -, hfull⟩
  · exact List.mem_of_getElem? hi
  · -- a full table without `x` would need `limit` other values of the set
    have hle : table.toFinset.card ≤ (values.erase x).card := by
      refine Finset.card_le_card fun y hy => ?_
      have hy := List.mem_toFinset.1 hy
      exact Finset.mem_erase.2 ⟨fun heq => hnot (heq ▸ hy), hsub y hy⟩
    have hpos := Finset.card_pos.2 ⟨x, hx⟩
    rw [List.toFinset_card_of_nodup hnodup, Finset.card_erase_of_mem hx] at hle
    omega

end SakuraTerminal.Foundations.InternTable
