import SakuraTerminal.Foundations.Tiling

/-!
# Painting pictures

A picture gives every position what it shows. `paintWhere` changes the positions of a region and no
other one. In a fold of painting steps a position keeps what it shows when no step changes it
(`foldl_apply_eq_self`). When the steps belong to intervals that are apart and each changes only
positions over its own interval, a position shows what the step of its interval made of it
(`Spaced.foldl_apply`).

The values at the positions are arbitrary, and so is what a step does to the value it finds, so a
position can be drawn to several times. The lemmas speak of one position at a time. That a step is
local to its interval is a hypothesis on the step and the position, and `Spaced` of `Tiling` says
that at most one interval is over it.
-/

set_option autoImplicit false

namespace SakuraTerminal.Foundations

universe u v w

variable {ι : Type u} {γ : Type v} {α : Type w}

/-- The positions of the region show what `paint` makes of what they showed. The others show what
they showed. -/
def paintWhere (region : ι → Prop) [DecidablePred region] (paint : γ → γ) (picture : ι → γ) :
    ι → γ :=
  fun i => if region i then paint (picture i) else picture i

section paintWhere

variable {region : ι → Prop} [DecidablePred region] {paint : γ → γ} {picture : ι → γ} {i : ι}

theorem paintWhere_apply :
    paintWhere region paint picture i = if region i then paint (picture i) else picture i := rfl

theorem paintWhere_of_not_mem (h : ¬ region i) :
    paintWhere region paint picture i = picture i := if_neg h

end paintWhere

section fold

variable {step : (ι → γ) → α → ι → γ} {i : ι}

/-- A position that no step changes. -/
theorem foldl_apply_eq_self {l : List α}
    (h : ∀ x ∈ l, ∀ picture : ι → γ, step picture x i = picture i) (picture : ι → γ) :
    l.foldl step picture i = picture i := by
  induction l generalizing picture with
  | nil => rfl
  | cons x l ih =>
    rw [List.foldl_cons, ih fun y hy => h y (List.mem_cons_of_mem x hy)]
    exact h x List.mem_cons_self picture

/-- A position that one step changes. The steps before and after it leave the position alone. -/
theorem foldl_apply_of_append {before after : List α} {x : α} {paint : γ → γ}
    (hbefore : ∀ y ∈ before, ∀ picture : ι → γ, step picture y i = picture i)
    (hafter : ∀ y ∈ after, ∀ picture : ι → γ, step picture y i = picture i)
    (hx : ∀ picture : ι → γ, step picture x i = paint (picture i)) (picture : ι → γ) :
    (before ++ x :: after).foldl step picture i = paint (picture i) := by
  rw [List.foldl_append, List.foldl_cons, foldl_apply_eq_self hafter, hx,
    foldl_apply_eq_self hbefore]

variable {start size : α → Nat} {limit : Nat} {xs : List α}

/-- A position over one of the intervals. Only the step of that interval changes it, and the
intervals are apart. -/
theorem Spaced.foldl_apply (h : Spaced start size limit xs) {column : Nat}
    (hlocal : ∀ x ∈ xs, ¬ (start x ≤ column ∧ column < start x + size x) →
      ∀ picture : ι → γ, step picture x i = picture i)
    {x : α} (hx : x ∈ xs) (hleft : start x ≤ column) (hright : column < start x + size x)
    {paint : γ → γ} (hpaint : ∀ picture : ι → γ, step picture x i = paint (picture i))
    (picture : ι → γ) : xs.foldl step picture i = paint (picture i) := by
  obtain ⟨before, after, rfl⟩ := List.append_of_mem hx
  obtain ⟨-, hafter, hbefore⟩ := List.pairwise_append.1 h.apart
  apply foldl_apply_of_append
  · intro y hy
    have hend := hbefore y hy x List.mem_cons_self
    exact hlocal y (List.mem_append_left _ hy) (by omega)
  · intro y hy
    have hbegin := (List.pairwise_cons.1 hafter).1 y hy
    exact hlocal y (List.mem_append_right _ (List.mem_cons_of_mem x hy)) (by omega)
  · exact hpaint

/-- The numbers of a range, as intervals of one position. -/
theorem spaced_range' (first count : Nat) :
    Spaced id (fun _ => 1) (first + count) (List.range' first count) where
  nonempty := fun _ _ => Nat.one_pos
  right := fun x hx => (List.mem_range'_1.1 hx).2
  apart := List.pairwise_lt_range'

end fold

end SakuraTerminal.Foundations
