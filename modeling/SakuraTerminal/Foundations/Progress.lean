import SakuraTerminal.Foundations.TransitionSystem

/-!
# Progress of calls

A state in which a call is under way is `busy`. Some steps advance the call, and others belong to
what runs beside it, or make the call try again. A `Variant` is a measure which every step that
advances the call decreases and no other step of it increases, together with a step that advances
the call wherever nothing keeps it waiting.

Then a call makes at most as many such steps as the measure says, however they are interleaved with
others (`Advance.le_measure`), and from each of its states a run leads to its end or to a state in
which it waits (`Variant.exists_end`). What the steps of a call preserve holds throughout it
(`Advance.invariant`), also where it does not hold of all reachable states.

For a call that joins a thread, `joinWork` adds what the thread has still to do.
-/

set_option autoImplicit false

namespace SakuraTerminal.Foundations

namespace TransitionSystem

universe u v

variable {σ : Type u} {α : Type v} {M : TransitionSystem σ α} {allowed : σ → α → Prop}

/-- What has to be known of the calls of a system. -/
structure Variant (M : TransitionSystem σ α) (allowed : σ → α → Prop) (busy waits : σ → Prop)
    (advances : σ → α → Prop) (measure : σ → Nat) : Prop where
  decreases : ∀ s a s', Reachable M allowed s → busy s → allowed s a → M.step s a s' →
    advances s a → measure s' < measure s
  keeps : ∀ s a s', Reachable M allowed s → busy s → allowed s a → M.step s a s' →
    ¬ advances s a → measure s' ≤ measure s
  enabled : ∀ s, Reachable M allowed s → busy s → ¬ waits s →
    ∃ a s', allowed s a ∧ M.step s a s' ∧ advances s a

/-- A run of a call: `count` of its steps advance the call, and the call ends with the last step at
the earliest. -/
inductive Advance (M : TransitionSystem σ α) (allowed : σ → α → Prop) (busy : σ → Prop)
    (advances : σ → α → Prop) (s : σ) : Nat → σ → Prop where
  | start : Advance M allowed busy advances s 0 s
  | advances {count : Nat} {s' s'' : σ} {a : α} :
      Advance M allowed busy advances s count s' → busy s' → allowed s' a → M.step s' a s'' →
      advances s' a → Advance M allowed busy advances s (count + 1) s''
  | other {count : Nat} {s' s'' : σ} {a : α} :
      Advance M allowed busy advances s count s' → busy s' → allowed s' a → M.step s' a s'' →
      ¬ advances s' a → Advance M allowed busy advances s count s''

section

variable {busy waits : σ → Prop} {advances : σ → α → Prop} {measure : σ → Nat} {s s' s'' : σ}
  {count : Nat}

theorem Advance.reachable (h : Advance M allowed busy advances s count s')
    (hs : Reachable M allowed s) : Reachable M allowed s' := by
  induction h with
  | start => exact hs
  | advances _ _ hallowed hstep _ ih => exact .step ih hallowed hstep
  | other _ _ hallowed hstep _ ih => exact .step ih hallowed hstep

/-- Invariant rule: what holds when the call begins and every step of the call preserves holds until
the call has ended. -/
theorem Advance.invariant {I : σ → Prop} (hs : Reachable M allowed s) (hinit : I s)
    (hstep : ∀ s a s', Reachable M allowed s → busy s → I s → M.step s a s' → I s')
    (h : Advance M allowed busy advances s count s') : I s' := by
  induction h with
  | start => exact hinit
  | advances hrun hbusy _ hM _ ih => exact hstep _ _ _ (hrun.reachable hs) hbusy ih hM
  | other hrun hbusy _ hM _ ih => exact hstep _ _ _ (hrun.reachable hs) hbusy ih hM

/-- The run goes on. -/
theorem Advance.trans {more : Nat} (h : Advance M allowed busy advances s count s')
    (h' : Advance M allowed busy advances s' more s'') :
    Advance M allowed busy advances s (count + more) s'' := by
  induction h' with
  | start => exact h
  | advances _ hbusy hallowed hstep hadvances ih =>
    exact .advances ih hbusy hallowed hstep hadvances
  | other _ hbusy hallowed hstep hother ih => exact .other ih hbusy hallowed hstep hother

/-- A call makes no more steps than the measure says. -/
theorem Advance.le_measure (hvariant : Variant M allowed busy waits advances measure)
    (hs : Reachable M allowed s) (h : Advance M allowed busy advances s count s') :
    count + measure s' ≤ measure s := by
  induction h with
  | start => exact Nat.le_of_eq (Nat.zero_add _)
  | @advances count middle last a hrun hbusy hallowed hstep hadvances ih =>
    have hless := hvariant.decreases middle a last (hrun.reachable hs) hbusy hallowed hstep
      hadvances
    omega
  | @other count middle last a hrun hbusy hallowed hstep hother ih =>
    have hle := hvariant.keeps middle a last (hrun.reachable hs) hbusy hallowed hstep hother
    omega

/-- From each of its states a call can go on to its end, or until it waits. -/
theorem Variant.exists_end (hvariant : Variant M allowed busy waits advances measure)
    (hs : Reachable M allowed s) :
    ∃ count s', Advance M allowed busy advances s count s' ∧ (¬ busy s' ∨ waits s') := by
  -- the measure bounds the steps that are still to come
  generalize hbound : measure s = bound
  induction bound using Nat.strongRecOn generalizing s with
  | ind bound ih =>
    by_cases hbusy : busy s
    · by_cases hwaits : waits s
      · exact ⟨0, s, .start, .inr hwaits⟩
      · obtain ⟨a, next, hallowed, hstep, hadvances⟩ := hvariant.enabled s hs hbusy hwaits
        have hless := hvariant.decreases s a next hs hbusy hallowed hstep hadvances
        obtain ⟨count, last, hrun, hlast⟩ :=
          ih (measure next) (hbound ▸ hless) (.step hs hallowed hstep) rfl
        have hfirst : Advance M allowed busy advances s (0 + 1) next :=
          .advances .start hbusy hallowed hstep hadvances
        exact ⟨0 + 1 + count, last, hfirst.trans hrun, hlast⟩
    · exact ⟨0, s, .start, .inl hbusy⟩

end

end TransitionSystem

/-! ## Calls that join a thread -/

/-- The work of a call that waits for a thread to end counts the thread's own until then. -/
def joinWork (work : Nat) (waiting : Bool) (thread : Nat) : Nat :=
  work + if waiting then thread else 0

section

variable {work work' thread thread' : Nat} {waiting waiting' : Bool}

theorem joinWork_of_not_waiting (h : waiting = false) : joinWork work waiting thread = work := by
  rw [joinWork, h, if_neg Bool.false_ne_true, Nat.add_zero]

theorem joinWork_of_waiting (h : waiting = true) :
    joinWork work waiting thread = work + thread := by
  rw [joinWork, h, if_pos rfl]

/-- The call goes on; it does not begin to wait, and the thread stays where it is. -/
theorem joinWork_lt_of_call (hwork : work' < work)
    (hthread : waiting' = true → waiting = true ∧ thread' = thread) :
    joinWork work' waiting' thread' < joinWork work waiting thread := by
  cases hafter : waiting' with
  | false =>
    rw [joinWork_of_not_waiting rfl]
    exact Nat.lt_of_lt_of_le hwork (Nat.le_add_right _ _)
  | true =>
    obtain ⟨hbefore, rfl⟩ := hthread hafter
    rw [joinWork_of_waiting rfl, joinWork_of_waiting hbefore]
    exact Nat.add_lt_add_right hwork _

/-- The thread goes on while the call waits for it. -/
theorem joinWork_lt_of_thread (hwaiting : waiting = true) (hthread : thread' < thread) :
    joinWork work waiting thread' < joinWork work waiting thread := by
  rw [joinWork_of_waiting hwaiting, joinWork_of_waiting hwaiting]
  exact Nat.add_lt_add_left hthread _

theorem joinWork_le {bound threadBound : Nat} (hwork : work ≤ bound)
    (hthread : thread ≤ threadBound) : joinWork work waiting thread ≤ bound + threadBound := by
  cases hwaiting : waiting with
  | false =>
    rw [joinWork_of_not_waiting rfl]
    exact Nat.le_trans hwork (Nat.le_add_right _ _)
  | true =>
    rw [joinWork_of_waiting rfl]
    exact Nat.add_le_add hwork hthread

end

end SakuraTerminal.Foundations
