import Mathlib.Logic.Relation

/-!
# Labelled transition systems

A `TransitionSystem` has initial states and labelled steps. `Reachable M allowed s` holds when `s`
is reached from an initial state by steps whose labels are allowed in the state they are taken
from, so an assumption about the environment is an argument of reachability and not part of the
step.

`Reachable.invariant` is the induction rule for invariants, `Reachable.mono` weakens the
assumption, `Reachable.runSteps` and `Reachable.foldl` reach the end of a given run, and
`Simulation.reachable` carries reachability along a forward simulation.
-/

set_option autoImplicit false

namespace SakuraTerminal.Foundations

universe u v w x

/-- A labelled transition system over states `σ` and labels `α`. -/
structure TransitionSystem (σ : Type u) (α : Type v) where
  init : σ → Prop
  step : σ → α → σ → Prop

namespace TransitionSystem

variable {σ : Type u} {α : Type v} {M : TransitionSystem σ α}

/-- States reached from an initial state by allowed steps. -/
inductive Reachable (M : TransitionSystem σ α) (allowed : σ → α → Prop) : σ → Prop where
  | init {s : σ} : M.init s → Reachable M allowed s
  | step {s s' : σ} {a : α} :
      Reachable M allowed s → allowed s a → M.step s a s' → Reachable M allowed s'

/-- Invariant rule: what the initial states satisfy and every allowed step preserves holds of every
reachable state. -/
theorem Reachable.invariant {allowed : σ → α → Prop} {I : σ → Prop}
    (hinit : ∀ s, M.init s → I s)
    (hstep : ∀ s a s', Reachable M allowed s → I s → allowed s a → M.step s a s' → I s') :
    ∀ {s : σ}, Reachable M allowed s → I s := by
  intro s hs
  induction hs with
  | init h => exact hinit _ h
  | step hr ha hst ih => exact hstep _ _ _ hr ih ha hst

theorem Reachable.mono {allowed allowed' : σ → α → Prop}
    (h : ∀ s a, Reachable M allowed s → allowed s a → allowed' s a) {s : σ}
    (hs : Reachable M allowed s) : Reachable M allowed' s := by
  induction hs with
  | init hi => exact .init hi
  | step hr ha hst ih => exact .step ih (h _ _ hr ha) hst

/-- The state after the given actions, where every one of them can be taken. -/
def runSteps (step : σ → α → Option σ) (s : σ) : List α → Option σ
  | [] => some s
  | a :: actions => (step s a).bind fun s' => runSteps step s' actions

/-- A run of steps that `M` has and the assumption allows ends in a reachable state. -/
theorem Reachable.runSteps {allowed : σ → α → Prop} (step : σ → α → Option σ) (actions : List α)
    (hstep : ∀ s a s', step s a = some s' → allowed s a ∧ M.step s a s') {s s' : σ}
    (h : Reachable M allowed s)
    (hrun : TransitionSystem.runSteps step s actions = some s') : Reachable M allowed s' := by
  induction actions generalizing s with
  | nil =>
    cases hrun
    exact h
  | cons a actions ih =>
    obtain ⟨middle, hmiddle, hrest⟩ := Option.bind_eq_some_iff.mp hrun
    obtain ⟨hallowed, hM⟩ := hstep s a middle hmiddle
    exact ih (.step h hallowed hM) hrest

/-- Where a function computes the steps and all of them are allowed, so does a fold of it. -/
theorem Reachable.foldl {allowed : σ → α → Prop} (next : σ → α → σ)
    (hstep : ∀ s a, allowed s a ∧ M.step s a (next s a)) (actions : List α) {s : σ}
    (h : Reachable M allowed s) : Reachable M allowed (actions.foldl next s) := by
  induction actions generalizing s with
  | nil => exact h
  | cons a actions ih => exact ih (.step h (hstep s a).1 (hstep s a).2)

/-- A forward simulation of `M` by `N` along `R`, under assumptions on the steps of both. -/
structure Simulation {τ : Type w} {β : Type x} (M : TransitionSystem σ α)
    (N : TransitionSystem τ β) (allowed : σ → α → Prop) (allowed' : τ → β → Prop)
    (R : σ → τ → Prop) : Prop where
  init : ∀ s, M.init s → ∃ t, N.init t ∧ R s t
  step : ∀ s a s' t, R s t → allowed s a → M.step s a s' →
    ∃ t', R s' t' ∧ (t' = t ∨ ∃ b, allowed' t b ∧ N.step t b t')

/-- A simulated state is related to a reachable state. -/
theorem Simulation.reachable {τ : Type w} {β : Type x} {N : TransitionSystem τ β}
    {allowed : σ → α → Prop} {allowed' : τ → β → Prop} {R : σ → τ → Prop}
    (h : Simulation M N allowed allowed' R) {s : σ} (hs : Reachable M allowed s) :
    ∃ t, Reachable N allowed' t ∧ R s t := by
  induction hs with
  | init hi =>
    obtain ⟨t, ht, hR⟩ := h.init _ hi
    exact ⟨t, .init ht, hR⟩
  | step _ ha hst ih =>
    obtain ⟨t, ht, hR⟩ := ih
    obtain ⟨t', hR', rfl | ⟨b, hb, hbt⟩⟩ := h.step _ _ _ _ hR ha hst
    · exact ⟨t', ht, hR'⟩
    · exact ⟨t', .step ht hb hbt, hR'⟩

end TransitionSystem

end SakuraTerminal.Foundations
