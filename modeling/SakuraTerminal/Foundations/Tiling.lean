import Mathlib.Data.List.Basic
import Mathlib.Data.List.Chain
import Mathlib.Algebra.GroupWithZero.Nat

/-!
# Lists of intervals that tile a range

`Tiles start size a l b`: the intervals of `l`, read left to right, are non-empty, begin at `a`,
each begins where the one before it ends, and the last one ends at `b`. Tilings compose along
concatenation (`tiles_append`) and extend by one interval at the right end (`tiles_concat`), and
every interval lies inside of the range (`Tiles.bounds`). When neighbours in the list are related,
an interval begins or ends the range or is related to its neighbour there (`Tiles.start_cases`,
`Tiles.end_cases`), and what is read at the positions of the intervals adds up to what is read at
the range (`Tiles.flatMap`). `Spaced` drops what lies between the intervals: they are non-empty,
apart from each other and in order.

Start and size are functions, so that the intervals can be records with other fields, as the runs of
a row are. The lemmas with `IsChain` are about neighbours: in a tiling these meet, so a relation
between neighbours in the list is one between intervals that touch.
-/

set_option autoImplicit false

namespace SakuraTerminal.Foundations

universe u

variable {α : Type u} {start size : α → Nat}

/-- The intervals of the list tile the positions from the first bound up to the second. -/
def Tiles (start size : α → Nat) : Nat → List α → Nat → Prop
  | a, [], b => a = b
  | a, x :: xs, b => start x = a ∧ 0 < size x ∧ Tiles start size (a + size x) xs b

/-- The first part ends where the second one begins. -/
theorem tiles_append {a b : Nat} {xs ys : List α} :
    Tiles start size a (xs ++ ys) b ↔ ∃ m, Tiles start size a xs m ∧ Tiles start size m ys b := by
  induction xs generalizing a with
  | nil => simp [Tiles]
  | cons x xs ih =>
    simp only [List.cons_append, Tiles, ih]
    constructor
    · rintro ⟨hx, hpos, m, hxs, hys⟩
      exact ⟨m, ⟨hx, hpos, hxs⟩, hys⟩
    · rintro ⟨m, ⟨hx, hpos, hxs⟩, hys⟩
      exact ⟨hx, hpos, m, hxs, hys⟩

/-- One more interval, from the end of the tiling. -/
theorem tiles_concat {a b : Nat} {xs : List α} {x : α} :
    Tiles start size a (xs ++ [x]) b ↔
      Tiles start size a xs (start x) ∧ 0 < size x ∧ start x + size x = b := by
  rw [tiles_append]
  constructor
  · rintro ⟨m, hxs, hx, hpos, hend⟩
    subst hx
    exact ⟨hxs, hpos, hend⟩
  · rintro ⟨hxs, hpos, hend⟩
    exact ⟨_, hxs, rfl, hpos, hend⟩

theorem Tiles.le {a b : Nat} {xs : List α} (h : Tiles start size a xs b) : a ≤ b := by
  induction xs generalizing a with
  | nil => exact Nat.le_of_eq h
  | cons x xs ih => exact Nat.le_trans (Nat.le_add_right _ _) (ih h.2.2)

/-- Every interval of a tiling lies inside the tiled range. -/
theorem Tiles.bounds {a b : Nat} {xs : List α} (h : Tiles start size a xs b) {x : α}
    (hx : x ∈ xs) : a ≤ start x ∧ 0 < size x ∧ start x + size x ≤ b := by
  induction xs generalizing a with
  | nil => simp at hx
  | cons y xs ih =>
    obtain ⟨hy, hpos, hrest⟩ := h
    rcases List.mem_cons.1 hx with rfl | hx
    · exact ⟨Nat.le_of_eq hy.symm, hpos, hy ▸ hrest.le⟩
    · obtain ⟨h1, h2, h3⟩ := ih hrest hx
      exact ⟨by omega, h2, h3⟩

/-- Every position of the range lies in an interval. -/
theorem Tiles.exists_mem {a b : Nat} {xs : List α} (h : Tiles start size a xs b) {i : Nat}
    (hleft : a ≤ i) (hright : i < b) : ∃ x ∈ xs, start x ≤ i ∧ i < start x + size x := by
  induction xs generalizing a with
  | nil =>
    have hab : a = b := h
    omega
  | cons x xs ih =>
    obtain ⟨hx, hpos, hrest⟩ := h
    by_cases hi : i < a + size x
    · exact ⟨x, List.mem_cons_self, by omega, by omega⟩
    · obtain ⟨y, hy, hbounds⟩ := ih hrest (by omega)
      exact ⟨y, List.mem_cons_of_mem _ hy, hbounds⟩

/-- An interval begins the range, or its left neighbour ends where it begins. -/
theorem Tiles.start_cases {a b : Nat} {xs : List α} (h : Tiles start size a xs b)
    {R : α → α → Prop} (hchain : xs.IsChain R) {x : α} (hx : x ∈ xs) :
    start x = a ∨ ∃ y ∈ xs, start y + size y = start x ∧ R y x := by
  obtain ⟨before, after, rfl⟩ := List.append_of_mem hx
  obtain ⟨m, hbefore, hstart, -, -⟩ := tiles_append.1 h
  rcases before.eq_nil_or_concat' with rfl | ⟨init, y, rfl⟩
  · left
    have ham : a = m := hbefore
    omega
  · right
    obtain ⟨-, -, hend⟩ := tiles_concat.1 hbefore
    rw [List.isChain_append] at hchain
    exact ⟨y, by simp, by omega, hchain.2.2 y (by simp) x (by simp)⟩

/-- An interval ends the range, or its right neighbour begins where it ends. -/
theorem Tiles.end_cases {a b : Nat} {xs : List α} (h : Tiles start size a xs b)
    {R : α → α → Prop} (hchain : xs.IsChain R) {x : α} (hx : x ∈ xs) :
    start x + size x = b ∨ ∃ y ∈ xs, start y = start x + size x ∧ R x y := by
  obtain ⟨before, after, rfl⟩ := List.append_of_mem hx
  obtain ⟨m, -, hstart, -, hafter⟩ := tiles_append.1 h
  cases after with
  | nil =>
    left
    have hmb : m + size x = b := hafter
    omega
  | cons y after =>
    right
    obtain ⟨hy, -, -⟩ := hafter
    rw [List.isChain_append] at hchain
    have hxy := hchain.2.1
    rw [List.isChain_cons_cons] at hxy
    exact ⟨y, by simp, by omega, hxy.1⟩

/-- The parts of the intervals that lie in a smaller range add up to its length. -/
theorem Tiles.sum_overlap {a b : Nat} {xs : List α} (h : Tiles start size a xs b)
    {left right : Nat} (hle : left ≤ right) :
    (xs.map fun x => min right (start x + size x) - max left (start x)).sum =
      min right b - max left a := by
  induction xs generalizing a with
  | nil =>
    have hab : a = b := h
    rw [List.map_nil, List.sum_nil]
    omega
  | cons x xs ih =>
    obtain ⟨hx, hpos, hrest⟩ := h
    have hend := hrest.le
    rw [List.map_cons, List.sum_cons, ih hrest]
    omega

/-- What is read at each position of an interval adds up to what is read at the range. -/
theorem Tiles.flatMap {β : Type u} {a b : Nat} {xs : List α} (h : Tiles start size a xs b)
    {text : α → List β} {piece : Nat → List β}
    (htext : ∀ x ∈ xs, text x = (List.range' (start x) (size x)).flatMap piece) :
    xs.flatMap text = (List.range' a (b - a)).flatMap piece := by
  induction xs generalizing a with
  | nil =>
    have hab : a = b := h
    rw [hab, Nat.sub_self]
    rfl
  | cons x xs ih =>
    obtain ⟨rfl, -, hrest⟩ := h
    have hle := hrest.le
    have hsplit : b - start x = size x + (b - (start x + size x)) := by omega
    rw [List.flatMap_cons, htext x List.mem_cons_self,
      ih hrest fun y hy => htext y (List.mem_cons_of_mem x hy), hsplit, ← List.range'_append_1,
      List.flatMap_append]

/-! ## Intervals with gaps -/

/-- The intervals of the list, read left to right, are apart and end at the limit or before. -/
structure Spaced (start size : α → Nat) (limit : Nat) (xs : List α) : Prop where
  nonempty : ∀ x ∈ xs, 0 < size x
  right : ∀ x ∈ xs, start x + size x ≤ limit
  apart : xs.Pairwise fun x y => start x + size x ≤ start y

theorem Tiles.spaced {a b : Nat} {xs : List α} (h : Tiles start size a xs b) :
    Spaced start size b xs where
  nonempty := fun _ hx => (h.bounds hx).2.1
  right := fun _ hx => (h.bounds hx).2.2
  apart := by
    induction xs generalizing a with
    | nil => exact List.Pairwise.nil
    | cons x xs ih =>
      obtain ⟨hx, -, hrest⟩ := h
      refine List.Pairwise.cons (fun y hy => ?_) (ih hrest)
      have hbegin := (hrest.bounds hy).1
      omega

/-- Some of the intervals, under other names. -/
theorem Spaced.filterMap {β : Type u} {start' size' : β → Nat} {limit : Nat} {xs : List α}
    (h : Spaced start size limit xs) (f : α → Option β)
    (hf : ∀ x y, f x = some y → start' y = start x ∧ size' y = size x) :
    Spaced start' size' limit (xs.filterMap f) where
  nonempty := by
    intro y hy
    obtain ⟨x, hx, hxy⟩ := List.mem_filterMap.1 hy
    rw [(hf x y hxy).2]
    exact h.nonempty x hx
  right := by
    intro y hy
    obtain ⟨x, hx, hxy⟩ := List.mem_filterMap.1 hy
    rw [(hf x y hxy).1, (hf x y hxy).2]
    exact h.right x hx
  apart := by
    rw [List.pairwise_filterMap]
    refine h.apart.imp fun {x x'} hle y hy y' hy' => ?_
    rw [(hf x y hy).1, (hf x y hy).2, (hf x' y' hy').1]
    exact hle

end SakuraTerminal.Foundations
