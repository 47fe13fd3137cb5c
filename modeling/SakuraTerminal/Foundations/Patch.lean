import Mathlib.Logic.Nontrivial.Defs

/-!
# Patches of pictures

A patch says for every position of a picture where its value comes from: from a position of the old
picture, or, with `none`, from the new picture. `Sound` patches turn an old picture into a new one,
and `Chain` is a sequence of pictures, each with a sound patch from the picture before it. `trace`
follows a position back through the patches of a chain. One patch can stand in for a whole sequence,
whatever the pictures show, exactly if it copies only from where positions are traced to
(`merge_iff`).

The easy half of `merge_iff` is `Chain.last_eq`. For the other half `exists_chain` makes the
pictures of a given sequence of patches: a picture shows the old values where the trace leads to
one, and a blank everywhere else. With two different values a merged patch that copies from any
other position than the traced one is then seen to be wrong.
-/

set_option autoImplicit false

namespace SakuraTerminal.Foundations

universe u v

/-- The positions that are copied, each with its source. -/
abbrev Patch (ι : Type u) := ι → Option ι

namespace Patch

variable {ι : Type u} {γ : Type v}

/-- The picture that patching `old` makes, with the rest taken from `new`. A patch that is sound
makes the new picture itself out of the old one. -/
def apply (patch : Patch ι) (old new : ι → γ) (i : ι) : γ :=
  match patch i with
  | some j => old j
  | none => new i

/-- Patching `old` gives `new`. -/
def Sound (patch : Patch ι) (old new : ι → γ) : Prop := ∀ i, apply patch old new i = new i

/-- A sequence of pictures from `old` on, each with the patch that makes it. The old picture of each
patch is the new one before it. -/
def Chain : (ι → γ) → List (Patch ι × (ι → γ)) → Prop
  | _, [] => True
  | old, (patch, new) :: steps => Sound patch old new ∧ Chain new steps

/-- The last picture of a sequence. -/
def last : (ι → γ) → List (Patch ι × (ι → γ)) → ι → γ
  | old, [] => old
  | _, (_, new) :: steps => last new steps

/-- The position of the first picture that a position of the last one is copied from. There is none
if one of the patches takes the position, or the one it was copied to, from its new picture. -/
def trace : List (Patch ι) → ι → Option ι
  | [], i => some i
  | patch :: patches, i => (trace patches i).bind patch

/-- Only the positions that are copied have to agree. -/
theorem sound_iff {patch : Patch ι} {old new : ι → γ} :
    Sound patch old new ↔ ∀ i j, patch i = some j → old j = new i := by
  constructor
  · intro h i j hj
    have hi := h i
    rwa [apply, hj] at hi
  · intro h i
    rw [apply]
    cases hj : patch i with
    | none => rfl
    | some j => exact h i j hj

/-- A traced position has kept its value. -/
theorem Chain.last_eq {old : ι → γ} {steps : List (Patch ι × (ι → γ))} (h : Chain old steps)
    {i j : ι} (htrace : trace (steps.map Prod.fst) i = some j) : last old steps i = old j := by
  induction steps generalizing old j with
  | nil =>
    rw [List.map_nil, trace, Option.some.injEq] at htrace
    rw [← htrace]
    rfl
  | cons step steps ih =>
    obtain ⟨patch, new⟩ := step
    rw [List.map_cons, trace] at htrace
    -- the position is followed back through the later patches first
    cases hmid : trace (steps.map Prod.fst) i with
    | none =>
      rw [hmid] at htrace
      exact absurd htrace (Option.some_ne_none _ ∘ Eq.symm)
    | some k =>
      rw [hmid, Option.bind_some] at htrace
      calc last new steps i = new k := ih h.2 hmid
        _ = old j := (sound_iff.1 h.1 k j htrace).symm

/-- Every sequence of patches has pictures in which all positions without a trace show `blank`. -/
theorem exists_chain (patches : List (Patch ι)) (old : ι → γ) (blank : γ) :
    ∃ steps : List (Patch ι × (ι → γ)), steps.map Prod.fst = patches ∧ Chain old steps ∧
      ∀ i, last old steps i = ((trace patches i).map old).getD blank := by
  induction patches generalizing old with
  | nil => exact ⟨[], rfl, trivial, fun i => rfl⟩
  | cons patch patches ih =>
    -- the picture after the first patch shows `blank` wherever it is drawn anew
    let new : ι → γ := apply patch old fun _ => blank
    obtain ⟨steps, hpatches, hchain, hlast⟩ := ih new
    refine ⟨(patch, new) :: steps, by rw [List.map_cons, hpatches], ⟨?_, hchain⟩, fun i => ?_⟩
    · rw [sound_iff]
      intro i j hj
      simp only [new, apply, hj]
    · change last new steps i = _
      rw [hlast i, trace]
      cases htrace : trace patches i with
      | none => rfl
      | some k =>
        simp only [Option.map_some, Option.getD_some, Option.bind_some, new, apply]
        cases patch k <;> rfl

/-- A merged patch is sound for all pictures exactly if it copies only what the sequence copies. -/
theorem merge_iff [Nontrivial γ] (merged : Patch ι) (patches : List (Patch ι)) :
    (∀ (old : ι → γ) (steps : List (Patch ι × (ι → γ))), steps.map Prod.fst = patches →
      Chain old steps → Sound merged old (last old steps)) ↔
    ∀ i j, merged i = some j → trace patches i = some j := by
  classical
  constructor
  · intro h i j hmerged
    obtain ⟨mark, blank, hne⟩ := exists_pair_ne γ
    -- mark the one position the merged patch copies from
    let old : ι → γ := fun k => if k = j then mark else blank
    obtain ⟨steps, hpatches, hchain, hlast⟩ := exists_chain patches old blank
    have hcopied := sound_iff.1 (h old steps hpatches hchain) i j hmerged
    rw [hlast i] at hcopied
    have hmark : old j = mark := if_pos rfl
    rw [hmark] at hcopied
    -- a position without a trace shows `blank`, and so does every other position: only `j` shows
    -- `mark`
    cases htrace : trace patches i with
    | none =>
      rw [htrace] at hcopied
      exact absurd hcopied hne
    | some k =>
      rw [htrace] at hcopied
      by_cases hk : k = j
      · rw [hk]
      · have hblank : old k = blank := if_neg hk
        rw [Option.map_some, Option.getD_some, hblank] at hcopied
        exact absurd hcopied hne
  · intro h old steps hpatches hchain
    rw [sound_iff]
    intro i j hmerged
    have htrace := h i j hmerged
    rw [← hpatches] at htrace
    exact (hchain.last_eq htrace).symm

end Patch

end SakuraTerminal.Foundations
