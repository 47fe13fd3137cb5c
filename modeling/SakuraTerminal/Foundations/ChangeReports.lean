import Mathlib.Data.List.Chain

/-!
# Reports of a changing value

A value is reported once and then observed again and again. An observer remembers a value, and
reports what it observes when that differs from what it remembers (`observe`).

`ReportedOnce` is what the receiver of the reports sees: no two consecutive reports agree, and an
observation that differs from the last report is reported. An observer that remembers the value that
was reported satisfies it on every sequence of observations. One that remembers another value
satisfies it exactly when the first observation is neither of the two (`reportedOnce_observe_iff`).

The observations are a list in which each entry says whether it was reported, so a caller that
stores reports and observations in two places can be described by it afterwards. `reports` and
`lastReport` read the list, and the lemmas for `reportedOnce_cons_true` and
`reportedOnce_cons_false` take a list apart at its first observation, which is how proofs by
induction go.
-/

set_option autoImplicit false

namespace SakuraTerminal.Foundations

universe u

variable {σ : Type u}

/-- A value that was observed, and whether it was reported then. -/
structure Observation (σ : Type u) where
  value : σ
  reported : Bool
  deriving DecidableEq, Repr

/-- The values that were reported, in order. -/
def reports (observations : List (Observation σ)) : List σ :=
  (observations.filter (·.reported)).map (·.value)

/-- The last report, where `first` was reported before the observations. -/
def lastReport (first : σ) (observations : List (Observation σ)) : σ :=
  (reports observations).getLastD first

/-- The reports are what a receiver needs that was told `first` before. It is never told a value
twice in a row (`apart`), and whenever the value differs from what it was told last it is told the
new one (`complete`). -/
structure ReportedOnce (first : σ) (observations : List (Observation σ)) : Prop where
  apart : List.IsChain (· ≠ ·) (first :: reports observations)
  complete : ∀ before observation after, observations = before ++ observation :: after →
    observation.value ≠ lastReport first before → observation.reported = true

section ReportedOnce

variable {first value : σ} {rest : List (Observation σ)}

@[simp] theorem reports_nil : reports ([] : List (Observation σ)) = [] := rfl

@[simp] theorem reports_cons_true :
    reports (⟨value, true⟩ :: rest) = value :: reports rest := rfl

@[simp] theorem reports_cons_false : reports (⟨value, false⟩ :: rest) = reports rest := rfl

theorem reports_append (earlier later : List (Observation σ)) :
    reports (earlier ++ later) = reports earlier ++ reports later := by
  simp [reports]

@[simp] theorem lastReport_cons_true :
    lastReport first (⟨value, true⟩ :: rest) = lastReport value rest := by
  rw [lastReport, reports_cons_true, lastReport]
  cases reports rest <;> rfl

@[simp] theorem lastReport_cons_false :
    lastReport first (⟨value, false⟩ :: rest) = lastReport first rest := rfl

theorem ReportedOnce.nil : ReportedOnce first [] where
  apart := by
    rw [reports_nil]
    exact .singleton first
  complete := by
    intro before observation after heq
    simp at heq

/-- The observations after the first one, which leaves `last` as the last report. -/
theorem complete_cons {last : σ} {observation : Observation σ}
    (hlast : ∀ before, lastReport first (observation :: before) = lastReport last before) :
    (∀ before other after, observation :: rest = before ++ other :: after →
        other.value ≠ lastReport first before → other.reported = true) ↔
      (observation.value ≠ first → observation.reported = true) ∧
        ∀ before other after, rest = before ++ other :: after →
          other.value ≠ lastReport last before → other.reported = true := by
  constructor
  · intro h
    refine ⟨h [] observation rest rfl, fun before other after heq hne => ?_⟩
    exact h (observation :: before) other after (by rw [heq, List.cons_append])
      (by rwa [hlast])
  · rintro ⟨hfirst, hrest⟩ before other after heq hne
    cases before with
    | nil =>
      obtain ⟨rfl, -⟩ := List.cons.inj heq
      exact hfirst hne
    | cons head before =>
      obtain ⟨rfl, hafter⟩ := List.cons.inj heq
      rw [hlast] at hne
      exact hrest before other after hafter hne

theorem reportedOnce_cons_true :
    ReportedOnce first (⟨value, true⟩ :: rest) ↔ value ≠ first ∧ ReportedOnce value rest := by
  have hcomplete := @complete_cons σ first rest value ⟨value, true⟩
    fun before => lastReport_cons_true
  constructor
  · rintro ⟨hapart, hall⟩
    rw [reports_cons_true, List.isChain_cons_cons] at hapart
    exact ⟨hapart.1.symm, hapart.2, (hcomplete.1 hall).2⟩
  · rintro ⟨hne, hapart, hall⟩
    refine ⟨?_, hcomplete.2 ⟨fun _ => rfl, hall⟩⟩
    rw [reports_cons_true, List.isChain_cons_cons]
    exact ⟨hne.symm, hapart⟩

theorem reportedOnce_cons_false :
    ReportedOnce first (⟨value, false⟩ :: rest) ↔ value = first ∧ ReportedOnce first rest := by
  have hcomplete := @complete_cons σ first rest first ⟨value, false⟩
    fun before => lastReport_cons_false
  constructor
  · rintro ⟨hapart, hall⟩
    rw [reports_cons_false] at hapart
    obtain ⟨hfirst, hrest⟩ := hcomplete.1 hall
    refine ⟨?_, hapart, hrest⟩
    by_contra hne
    exact absurd (hfirst hne) (by simp)
  · rintro ⟨heq, hapart, hall⟩
    exact ⟨hapart, hcomplete.2 ⟨fun hne => absurd heq hne, hall⟩⟩

end ReportedOnce

section observe

/-- What an observer that remembers `last` remembers after a sequence of values. It is the last
value, whether it was reported or not. -/
def remembered (last : σ) (values : List σ) : σ := values.getLastD last

@[simp] theorem remembered_concat (last : σ) (values : List σ) (value : σ) :
    remembered last (values ++ [value]) = value := by
  simp [remembered]

variable [DecidableEq σ]

/-- What it makes of the sequence. Each value is compared with the one before it, and the first with
`last`. -/
def observe (last : σ) : List σ → List (Observation σ)
  | [] => []
  | value :: values => ⟨value, decide (value ≠ last)⟩ :: observe value values

theorem observe_concat (last : σ) (values : List σ) (value : σ) :
    observe last (values ++ [value]) =
      observe last values ++ [⟨value, decide (value ≠ remembered last values)⟩] := by
  induction values generalizing last with
  | nil => rfl
  | cons head values ih =>
    rw [List.cons_append, observe, ih, observe, List.cons_append]
    cases values <;> rfl

/-- What an observer remembers is what it reported last. -/
theorem lastReport_observe (last : σ) (values : List σ) :
    lastReport last (observe last values) = remembered last values := by
  induction values generalizing last with
  | nil => rfl
  | cons value values ih =>
    have hremembered : remembered last (value :: values) = remembered value values := by
      cases values <;> rfl
    rw [observe, hremembered, ← ih value]
    by_cases hsame : value = last
    · simp [hsame]
    · simp [hsame]

/-- An observer that remembers what was reported. -/
theorem reportedOnce_observe (last : σ) (values : List σ) :
    ReportedOnce last (observe last values) := by
  induction values generalizing last with
  | nil => exact .nil
  | cons value values ih =>
    rw [observe]
    by_cases hsame : value = last
    · subst hsame
      simp only [ne_eq, not_true_eq_false, decide_false]
      exact reportedOnce_cons_false.2 ⟨rfl, ih value⟩
    · simp only [ne_eq, hsame, not_false_eq_true, decide_true]
      exact reportedOnce_cons_true.2 ⟨hsame, ih value⟩

/-- An observer that remembers `last` where `first` was reported. It errs on the first observation
only: that one is reported twice if it is `first`, and not at all if it is `last`. From then on it
remembers what was observed. -/
theorem reportedOnce_observe_iff {first last : σ} {values : List σ} :
    ReportedOnce first (observe last values) ↔
      first = last ∨ ∀ value ∈ values.head?, value ≠ first ∧ value ≠ last := by
  by_cases hsame : first = last
  · subst hsame
    exact iff_of_true (reportedOnce_observe first values) (.inl rfl)
  · cases values with
    | nil => exact iff_of_true .nil (.inr fun value hvalue => by simp at hvalue)
    | cons value values =>
      rw [observe]
      by_cases hlast : value = last
      · subst hlast
        simp only [ne_eq, not_true_eq_false, decide_false, reportedOnce_cons_false]
        refine iff_of_false (fun h => hsame h.1.symm) ?_
        simp [hsame]
      · simp only [ne_eq, hlast, not_false_eq_true, decide_true, reportedOnce_cons_true]
        simp [hsame, hlast, reportedOnce_observe]

end observe

end SakuraTerminal.Foundations
