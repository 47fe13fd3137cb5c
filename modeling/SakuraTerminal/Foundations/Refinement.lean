/-!
# Steps that compute a function

A step of an implementation may fail, and its state has parts that a specification does not know.
`Computes A B step spec` says that from every state with the invariant of `A` the step succeeds,
ends with the invariant of `B`, and does to what the state shows what `spec` does. Such steps
compose, also in loops.

`Showing` has the two things that are said of a state, what is kept of it and what it shows. The
invariants at both ends of a step may differ, so a step can create or destroy a part of the state.
The rules follow the shape of the program: `Computes.bind` for two steps, `Computes.ite` for a
branch whose condition both sides share, `Computes.foldlM` for a loop over a list.
-/

set_option autoImplicit false

namespace SakuraTerminal.Foundations

universe u v w x y z

/-- What is kept of a state, and what the state shows. -/
structure Showing (σ : Type u) (τ : Type v) where
  inv : σ → Prop
  view : σ → τ

variable {σ : Type u} {τ : Type v} {σ' : Type w} {τ' : Type x} {σ'' : Type y} {τ'' : Type z}
  {A : Showing σ τ} {B : Showing σ' τ'} {C : Showing σ'' τ''}

/-- From every state with the invariant the step succeeds, keeps the invariant that is asked for at
its end, and does to the view what `spec` does. -/
def Computes (A : Showing σ τ) (B : Showing σ' τ') (step : σ → Option σ') (spec : τ → τ') : Prop :=
  ∀ s, A.inv s → ∃ s', step s = some s' ∧ B.inv s' ∧ B.view s' = spec (A.view s)

/-- A step that changes nothing that shows. -/
theorem Computes.of_eq {step : σ → σ'} {spec : τ → τ'}
    (h : ∀ s, A.inv s → B.inv (step s) ∧ B.view (step s) = spec (A.view s)) :
    Computes A B (fun s => some (step s)) spec := by
  intro s hs
  exact ⟨step s, rfl, h s hs⟩

/-- Two steps, one after the other. -/
theorem Computes.bind {step : σ → Option σ'} {spec : τ → τ'} {step' : σ' → Option σ''}
    {spec' : τ' → τ''} (h : Computes A B step spec) (h' : Computes B C step' spec') :
    Computes A C (fun s => (step s).bind step') (fun t => spec' (spec t)) := by
  intro s hs
  obtain ⟨s', hstep, hs', hview⟩ := h s hs
  obtain ⟨s'', hstep', hs'', hview'⟩ := h' s' hs'
  refine ⟨s'', ?_, hs'', ?_⟩
  · change (step s).bind step' = some s''
    rw [hstep]
    exact hstep'
  · rw [hview', hview]

/-- A branch. Its condition is about what both sides know. -/
theorem Computes.ite {condition : Prop} [Decidable condition] {step step' : σ → Option σ'}
    {spec spec' : τ → τ'} (h : condition → Computes A B step spec)
    (h' : ¬ condition → Computes A B step' spec') :
    Computes A B (fun s => if condition then step s else step' s)
      (fun t => if condition then spec t else spec' t) := by
  by_cases hcondition : condition
  · simp only [if_pos hcondition]
    exact h hcondition
  · simp only [if_neg hcondition]
    exact h' hcondition

/-- A loop whose turns all compute. -/
theorem Computes.foldlM {α : Type w} {step : σ → α → Option σ} {spec : τ → α → τ} {l : List α}
    (h : ∀ a ∈ l, Computes A A (fun s => step s a) (fun t => spec t a)) :
    Computes A A (fun s => l.foldlM step s) (fun t => l.foldl spec t) := by
  induction l with
  | nil => exact Computes.of_eq fun s hs => ⟨hs, rfl⟩
  | cons a l ih =>
    have hfirst := h a List.mem_cons_self
    have hrest := ih fun b hb => h b (List.mem_cons_of_mem a hb)
    exact hfirst.bind hrest

end SakuraTerminal.Foundations
