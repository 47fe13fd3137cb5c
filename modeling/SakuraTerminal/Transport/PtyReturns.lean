import SakuraTerminal.Foundations.Progress
import SakuraTerminal.Transport.PtyLifecycle

/-!
# The calls of a POSIX session return

`Start`, `Stop` and `GetStatus` of `PosixPtySession` come to their end, whatever the child does and
however the reader runs beside them: a call makes a bounded number of steps, the reader's steps that
`Stop` waits for included, and where it is the reader's turn the reader can step
(`ptyCalls_return`). Not counted are the turns of `WaitForChild` before its deadline and calls of
`waitpid` that are interrupted.

It matters that `Stop` asks the reader to stop before it joins it, and that `Start` takes that back
only where there is no reader.

The number of steps left is read off the points of the two threads. The reader's steps are added
only while the owner is before the join: later it is gone, and outside of `Stop` nobody waits for
it. What the reader still has to do is bounded once `stop_requested_` is set, since each of its
loops tests that flag. This is why `StopAsked` has to hold at every point up to the join, and it is
the one invariant that the bound needs.
-/

set_option autoImplicit false

namespace SakuraTerminal.Transport

open SakuraTerminal.Foundations
open SakuraTerminal.Foundations.TransitionSystem

/-! ## The measure -/

/-- The points of `Stop` up to the join. At these the reader may still be running. -/
def OwnerPoint.beforeJoin : OwnerPoint → Bool
  | .readChild _ | .signalGroup _ .hup _ | .signalProcess _ .hup _ | .join _ _ => true
  | _ => false

/-- The steps from the end of `Stop` on, where `Start` may follow. -/
def stoppedWork (restart : Bool) : Nat := if restart then 11 else 1

/-- How many steps the owner makes at most until its call returns. A turn of `WaitForChild` that is
repeated is not counted. -/
def OwnerPoint.work : OwnerPoint → Nat
  | .ready => 0
  | .readChild restart => 18 + stoppedWork restart
  | .signalGroup restart .hup _ => 17 + stoppedWork restart
  | .signalProcess restart .hup _ => 16 + stoppedWork restart
  | .join restart _ => 15 + stoppedWork restart
  | .close restart _ => 14 + stoppedWork restart
  | .waitForChild restart .hup _ => 13 + stoppedWork restart
  | .signalGroup restart .term _ => 12 + stoppedWork restart
  | .signalProcess restart .term _ => 11 + stoppedWork restart
  | .waitForChild restart .term _ => 10 + stoppedWork restart
  | .signalGroup restart .kill _ => 9 + stoppedWork restart
  | .signalProcess restart .kill _ => 8 + stoppedWork restart
  | .waitForChild restart .kill _ => 7 + stoppedWork restart
  | .store _ rest next => 1 + rest.length + next.work
  | .loadState restart => 2 + stoppedWork restart
  | .stopped restart => stoppedWork restart
  | .begin => 10
  | .fork => 6
  | .fail => 1
  | .adopt _ _ => 5
  | .spawn => 1
  | .loadExitCode _ => 3
  | .loadExitSignal _ _ => 2
  | .loadExitCodeValid _ _ _ => 1

/-- How many steps the reader makes at most until it is finished, once it was asked to stop. A
reader that was not asked may go around its loop forever. -/
def ReaderPoint.work : ReaderPoint → Nat
  | .none | .finished => 0
  | .clear => 1
  | .leave => 2
  | .publish => 2
  | .loop => 3
  | .testStop _ => 3
  | .record _ stores => 3 + stores.length
  | .read => 4
  | .waitpid _ => 7
  | .lookUp => 8

/-- The reader's steps count while the owner has not joined it. -/
def Pty.work (pty : Pty) : Nat := joinWork pty.owner.work pty.owner.beforeJoin pty.reader.work

/-- The steps that bring a call nearer to its end. The others repeat a turn: a `waitpid` that was
interrupted, a wait whose deadline has not passed, and what the reader does while nobody waits for
it. -/
def Pty.Advances (pty : Pty) : PtyAction → Prop
  | .owner (.waitpid .interrupted _) => False
  -- the first deadline is the moment it is computed
  | .owner (.waitpid .notYet expired) =>
    expired = true ∨ ∃ restart child, pty.owner = .waitForChild restart .hup child
  | .owner _ => True
  | .reader (.waitpid .interrupted) => False
  | .reader _ => pty.owner.beforeJoin = true

/-- `Start`, `Stop` or `GetStatus` is under way. Only one call is, since one thread makes them
all. -/
def Pty.InCall (pty : Pty) : Prop := pty.owner ≠ .ready

theorem length_recordExitStatus (status : WaitStatus) : (recordExitStatus status).length ≤ 3 := by
  cases status with
  | exited code => exact Nat.le_refl 3
  | signaled signal => exact Nat.le_refl 3
  | other => exact Nat.zero_le 3

/-! ## What the owner relies on -/

/-- Stores are followed by a part of the call that does not wait for the reader. -/
def OwnerPoint.continues : OwnerPoint → Bool
  | .store _ _ next => !next.beforeJoin && next.continues
  | _ => true

/-- The reader was asked to stop before the owner waits for it, and its own stores leave
`stop_requested_` alone. The last field keeps the exit path of the reader from clearing the flag. -/
structure StopAsked (pty : Pty) : Prop where
  asked : pty.owner.beforeJoin = true → pty.members.stopRequested = true
  continues : pty.owner.continues = true
  records : ∀ child stores, pty.reader = .record child stores →
    ∀ value, AtomicStore.stopRequested value ∉ stores

namespace StopAsked

variable {pty pty' : Pty}

theorem notMem_recordExitStatus (status : WaitStatus) (value : Bool) :
    AtomicStore.stopRequested value ∉ recordExitStatus status := by
  cases status <;> simp [recordExitStatus]

theorem store_stopRequested (members : PtyMembers) {store : AtomicStore}
    (h : ∀ value, store ≠ .stopRequested value) :
    (members.store store).stopRequested = members.stopRequested := by
  cases store with
  | stopRequested value => exact absurd rfl (h value)
  | running | state | exitCode | exitSignal | exitCodeValid => rfl

/-- The owner went to a point at which it does not wait for the reader. -/
theorem leaves (hrecords : ∀ child stores, pty'.reader = .record child stores →
      ∀ value, AtomicStore.stopRequested value ∉ stores)
    (hjoin : pty'.owner.beforeJoin = false) (hcontinues : pty'.owner.continues = true) :
    StopAsked pty' where
  asked := by
    intro h
    rw [hjoin] at h
    cases h
  continues := hcontinues
  records := hrecords

/-- The owner sets the flag when `Stop` begins, and `Start` clears it behind the join. -/
theorem ownerStep (h : StopAsked pty) {action : OwnerAction}
    (hstep : OwnerOutcome pty action pty') :
    StopAsked pty' := by
  have hrecords := h.records
  cases hstep with
  | stop | start => exact ⟨fun _ => rfl, rfl, hrecords⟩
  | hangUp restart howner | goJoin restart howner =>
    exact ⟨fun _ => h.asked (by rw [howner]; rfl), rfl, hrecords⟩
  | signalGroup restart signal child howner | noGroup restart signal child howner
  | signalProcess restart signal child howner =>
    cases signal with
    | hup => exact ⟨fun _ => h.asked (by rw [howner]; rfl), rfl, hrecords⟩
    | term | kill => exact leaves hrecords rfl rfl
  | join => exact leaves nofun rfl rfl
  | reaps _ _ _ status => cases status <;> exact leaves hrecords rfl rfl
  | timesOut _ signal => cases signal <;> exact leaves hrecords rfl rfl
  | polls => exact h
  | lastStore first next howner =>
    have hnext := h.continues
    rw [howner, OwnerPoint.continues, Bool.and_eq_true, Bool.not_eq_true'] at hnext
    exact leaves hrecords hnext.1 hnext.2
  | store first second rest next howner =>
    have hnext := h.continues
    rw [howner] at hnext
    exact leaves hrecords rfl hnext
  | returns restart => cases restart <;> exact leaves hrecords rfl rfl
  | spawn => exact leaves nofun rfl rfl
  | closeAndWait | close | waitFails | notOver | ended | begin | fork | forkFails | fail | adopt
  | getStatus | loadExitCode | loadExitSignal | report => exact leaves hrecords rfl rfl

/-- The reader stores exit values and states, and leaves the flag alone. -/
theorem readerStep (h : StopAsked pty) {action : ReaderAction}
    (hstep : ReaderOutcome pty action pty') : StopAsked pty' := by
  cases hstep with
  | reaps child status =>
    refine ⟨h.asked, h.continues, ?_⟩
    intro child' stores hreader
    cases hreader
    exact notMem_recordExitStatus status
  | store child first rest hreader =>
    have hstores := h.records child (first :: rest) hreader
    refine ⟨fun hjoin => ?_, h.continues, ?_⟩
    · have hfirst : ∀ value, first ≠ .stopRequested value := by
        rintro value rfl
        exact hstores value List.mem_cons_self
      exact (store_stopRequested pty.members hfirst).trans (h.asked hjoin)
    · intro child' stores hreader'
      cases hreader'
      exact fun value hmem => hstores value (List.mem_cons_of_mem _ hmem)
  | interrupted => exact h
  | stays | asked | goOn | readFails | exits | leaves | finds | findsNone | notYet | waitFails
  | givesUp | waits | marks | marksNone | publish | clear =>
    exact ⟨h.asked, h.continues, nofun⟩

theorem reachable (h : ptySystem.Reachable AnyPtyOrder pty) : StopAsked pty := by
  apply h.invariant
  · rintro _ rfl
    exact ⟨nofun, rfl, nofun⟩
  · intro pty action pty' _ ih _ hstep
    cases action with
    | owner action => exact ih.ownerStep (ownerOutcome_of_step hstep)
    | reader action => exact ih.readerStep (readerOutcome_of_step hstep)

end StopAsked

/-! ## The measure decreases -/

section decreases

variable {pty pty' : Pty}

/-- The owner goes on to a point that is nearer to the end, and the reader stays. -/
theorem Pty.work_lt (hwork : pty'.owner.work < pty.owner.work)
    (hjoin : pty'.owner.beforeJoin = true →
      pty.owner.beforeJoin = true ∧ pty'.reader = pty.reader) : pty'.work < pty.work := by
  apply joinWork_lt_of_call hwork
  intro hafter
  obtain ⟨hbefore, hreader⟩ := hjoin hafter
  exact ⟨hbefore, congrArg ReaderPoint.work hreader⟩

/-- The points after a step, where the step is not one of `WaitForChild`. -/
theorem OwnerOutcome.decreases {action : OwnerAction} (h : StopAsked pty) (hbusy : pty.InCall)
    (hstep : OwnerOutcome pty action pty')
    (hwaitpid : ∀ result expired, action ≠ .waitpid result expired) : pty'.work < pty.work := by
  cases hstep with
  | stop howner | start howner | getStatus howner => exact absurd howner hbusy
  | reaps | timesOut | polls | waitFails => exact absurd rfl (hwaitpid _ _)
  | hangUp restart howner | goJoin restart howner =>
    apply Pty.work_lt
    · simp [howner, OwnerPoint.work]
    · simp [howner, OwnerPoint.beforeJoin]
  | signalGroup restart signal child howner | noGroup restart signal child howner
  | signalProcess restart signal child howner =>
    apply Pty.work_lt
    · cases signal <;> simp [howner, OwnerPoint.work, OwnerPoint.afterSignal]
    · cases signal <;> simp [howner, OwnerPoint.beforeJoin, OwnerPoint.afterSignal, Pty.record]
  | close restart child howner =>
    apply Pty.work_lt
    · simp only [howner, OwnerPoint.endStop, OwnerPoint.work, List.length_nil]
      omega
    · simp [OwnerPoint.beforeJoin, OwnerPoint.endStop]
  | lastStore first next howner =>
    have hnext := h.continues
    rw [howner, OwnerPoint.continues, Bool.and_eq_true, Bool.not_eq_true'] at hnext
    apply Pty.work_lt
    · simp [howner, OwnerPoint.work]
    · simp [hnext.1]
  | returns restart howner =>
    apply Pty.work_lt
    · cases restart <;> simp [howner, OwnerPoint.work, stoppedWork]
    · cases restart <;> simp [OwnerPoint.beforeJoin]
  | join _ _ howner | closeAndWait _ _ howner | store _ _ _ _ howner | notOver _ howner
  | ended _ howner | begin howner | fork _ _ howner | forkFails howner | fail howner
  | adopt _ _ howner | spawn howner | loadExitCode _ howner | loadExitSignal _ _ howner
  | report _ _ _ howner =>
    apply Pty.work_lt
    · simp [howner, OwnerPoint.work]
    · simp [OwnerPoint.beforeJoin]

/-- A turn of `WaitForChild` that is not repeated. -/
theorem Pty.waitpid_decreases {result : WaitResult} {expired : Bool}
    (hstep : pty.ownerStep (.waitpid result expired) = some pty')
    (hadvances : pty.Advances (.owner (.waitpid result expired))) : pty'.work < pty.work := by
  simp only [Pty.ownerStep] at hstep
  split at hstep
  next restart signal child howner =>
    cases result with
    | reaped status =>
      cases hstep
      apply Pty.work_lt
      · cases status <;> cases signal <;>
          simp [howner, OwnerPoint.work, OwnerPoint.recordStop, recordExitStatus,
            OwnerPoint.endStop] <;> omega
      · cases status <;> simp [OwnerPoint.beforeJoin, OwnerPoint.recordStop, recordExitStatus,
          OwnerPoint.endStop]
    | notYet =>
      have hover : signal = .hup ∨ expired = true := by
        rcases hadvances with hexpired | ⟨restart', child', hhup⟩
        · exact .inr hexpired
        · rw [howner] at hhup
          cases hhup
          exact .inl rfl
      rw [if_pos hover] at hstep
      cases hstep
      apply Pty.work_lt
      · cases signal <;> simp [howner, OwnerPoint.work, OwnerPoint.timedOut, OwnerPoint.endStop]
        omega
      · cases signal <;> simp [OwnerPoint.beforeJoin, OwnerPoint.timedOut, OwnerPoint.endStop]
    | interrupted => exact hadvances.elim
    | failed =>
      cases hstep
      apply Pty.work_lt
      · cases signal <;> simp [howner, OwnerPoint.work, OwnerPoint.endStop] <;> omega
      · simp [OwnerPoint.beforeJoin, OwnerPoint.endStop]
  next => contradiction

/-- What the reader does before it was joined brings it nearer to its end. -/
theorem ReaderOutcome.decreases {action : ReaderAction} (h : StopAsked pty)
    (hstep : ReaderOutcome pty action pty') (hjoin : pty.owner.beforeJoin = true)
    (hwaitpid : action ≠ .waitpid .interrupted) : pty'.work < pty.work := by
  have hstop := h.asked hjoin
  have howner := hstep.keeps.1
  rw [Pty.work, Pty.work, howner]
  apply joinWork_lt_of_thread hjoin
  cases hstep with
  | stays _ hnot | exits _ hnot | waits _ _ hnot => cases hnot.symm.trans hstop
  | interrupted => exact absurd rfl hwaitpid
  | reaps child status hreader =>
    have hlength := length_recordExitStatus status
    simp only [hreader, ReaderPoint.work]
    omega
  | asked hreader | goOn hreader | readFails hreader | leaves hreader | finds hreader
  | findsNone hreader | notYet _ hreader | waitFails _ hreader | givesUp _ hreader
  | store _ _ _ hreader | marks _ hreader | marksNone _ hreader | publish hreader
  | clear hreader =>
    simp [hreader, ReaderPoint.work]

end decreases

/-! ## Calls return -/

/-- No step of the reader is counted while the owner does not wait for it. -/
theorem ReaderOutcome.work_eq {pty pty' : Pty} {action : ReaderAction}
    (hstep : ReaderOutcome pty action pty') (hjoin : pty.owner.beforeJoin = false) :
    pty'.work = pty.work := by
  have howner := hstep.keeps.1
  rw [Pty.work, Pty.work, howner, joinWork_of_not_waiting hjoin, joinWork_of_not_waiting hjoin]

/-- A reader that is not finished can step. -/
theorem Pty.exists_readerStep {pty : Pty} (hnone : pty.reader ≠ .none)
    (hfinished : pty.reader ≠ .finished) :
    ∃ action, (pty.readerStep action).isSome = true ∧ action ≠ .waitpid .interrupted := by
  cases hreader : pty.reader with
  | none => exact absurd hreader hnone
  | finished => exact absurd hreader hfinished
  | loop => exact ⟨.testLoop, by simp [Pty.readerStep, hreader], by simp⟩
  | read => exact ⟨.goOn, by simp [Pty.readerStep, hreader], by simp⟩
  | leave => exact ⟨.testLeave, by simp [Pty.readerStep, hreader], by simp⟩
  | lookUp => exact ⟨.lookUp, by simp [Pty.readerStep, hreader], by simp⟩
  | waitpid child => exact ⟨.waitpid .notYet, by simp [Pty.readerStep, hreader], by simp⟩
  | testStop child => exact ⟨.testStop, by simp [Pty.readerStep, hreader], by simp⟩
  | record child stores =>
    cases stores with
    | nil => exact ⟨.markReaped, by simp [Pty.readerStep, hreader], by simp⟩
    | cons first rest => exact ⟨.store, by simp [Pty.readerStep, hreader], by simp⟩
  | publish => exact ⟨.publish, by simp [Pty.readerStep, hreader], by simp⟩
  | clear => exact ⟨.clear, by simp [Pty.readerStep, hreader], by simp⟩

theorem Pty.advances_reader {pty : Pty} {action : ReaderAction}
    (h : action ≠ .waitpid .interrupted) :
    pty.Advances (.reader action) ↔ pty.owner.beforeJoin = true := by
  cases action with
  | waitpid result =>
    cases result with
    | interrupted => exact absurd rfl h
    | reaped | notYet | failed => exact Iff.rfl
  | testLoop | goOn | readFails | testLeave | lookUp | testStop | store | markReaped | publish
  | clear => exact Iff.rfl

/-- A call can go on. The deadline of `WaitForChild` passes, and `forkpty` may fail. -/
theorem Pty.exists_advance {pty : Pty} (hbusy : pty.InCall) :
    ∃ action, (pty.step action).isSome = true ∧ pty.Advances action := by
  cases howner : pty.owner with
  | ready => exact absurd howner hbusy
  | join restart child =>
    by_cases hreader : pty.reader = .none ∨ pty.reader = .finished
    · exact ⟨.owner .join, by simp [Pty.step, Pty.ownerStep, howner, hreader], trivial⟩
    · rw [not_or] at hreader
      obtain ⟨action, hstep, hwaitpid⟩ := Pty.exists_readerStep hreader.1 hreader.2
      refine ⟨.reader action, hstep, ?_⟩
      rw [Pty.advances_reader hwaitpid, howner]
      rfl
  | readChild => exact ⟨.owner .readChild, by simp [Pty.step, Pty.ownerStep, howner], trivial⟩
  | signalGroup =>
    exact ⟨.owner (.signalGroup false), by simp [Pty.step, Pty.ownerStep, howner], trivial⟩
  | signalProcess =>
    exact ⟨.owner .signalProcess, by simp [Pty.step, Pty.ownerStep, howner], trivial⟩
  | close => exact ⟨.owner .close, by simp [Pty.step, Pty.ownerStep, howner], trivial⟩
  | waitForChild =>
    exact ⟨.owner (.waitpid .notYet true), by simp [Pty.step, Pty.ownerStep, howner], .inl rfl⟩
  | store => exact ⟨.owner .store, by simp [Pty.step, Pty.ownerStep, howner], trivial⟩
  | loadState => exact ⟨.owner .loadState, by simp [Pty.step, Pty.ownerStep, howner], trivial⟩
  | stopped => exact ⟨.owner .returns, by simp [Pty.step, Pty.ownerStep, howner], trivial⟩
  | begin => exact ⟨.owner .begin, by simp [Pty.step, Pty.ownerStep, howner], trivial⟩
  | fork => exact ⟨.owner .forkFails, by simp [Pty.step, Pty.ownerStep, howner], trivial⟩
  | fail => exact ⟨.owner .fail, by simp [Pty.step, Pty.ownerStep, howner], trivial⟩
  | adopt => exact ⟨.owner .adopt, by simp [Pty.step, Pty.ownerStep, howner], trivial⟩
  | spawn => exact ⟨.owner .spawn, by simp [Pty.step, Pty.ownerStep, howner], trivial⟩
  | loadExitCode =>
    exact ⟨.owner .loadExitCode, by simp [Pty.step, Pty.ownerStep, howner], trivial⟩
  | loadExitSignal =>
    exact ⟨.owner .loadExitSignal, by simp [Pty.step, Pty.ownerStep, howner], trivial⟩
  | loadExitCodeValid =>
    exact ⟨.owner .loadExitCodeValid, by simp [Pty.step, Pty.ownerStep, howner], trivial⟩

/-- A step of the owner that does not advance its call repeats a turn of `WaitForChild`. -/
theorem Pty.ownerStep_other {pty pty' : Pty} {action : OwnerAction}
    (hstep : pty.ownerStep action = some pty') (hother : ¬ pty.Advances (.owner action)) :
    pty' = pty := by
  cases action with
  | waitpid result expired =>
    simp only [Pty.ownerStep] at hstep
    split at hstep
    next restart signal child howner =>
      cases result with
      | reaped | failed => exact absurd trivial hother
      | interrupted =>
        cases hstep
        rfl
      | notYet =>
        have hnot : ¬(signal = .hup ∨ expired = true) := by
          rintro (rfl | hexpired)
          · exact hother (.inr ⟨restart, child, howner⟩)
          · exact hother (.inl hexpired)
        rw [if_neg hnot] at hstep
        cases hstep
        rfl
    next => contradiction
  | stop | start | readChild | signalGroup | signalProcess | join | close | store | loadState
  | returns | begin | fork | forkFails | fail | adopt | spawn | getStatus | loadExitCode
  | loadExitSignal | loadExitCodeValid => exact absurd trivial hother

/-- What bounds the calls of a session and lets them go on. -/
theorem ptyVariant :
    Variant ptySystem AnyPtyOrder Pty.InCall (fun _ => False) Pty.Advances Pty.work where
  decreases := by
    intro pty action pty' hreachable hbusy _ hstep hadvances
    have hasked := StopAsked.reachable hreachable
    cases action with
    | owner action =>
      by_cases hwaitpid : ∃ result expired, action = .waitpid result expired
      · obtain ⟨result, expired, rfl⟩ := hwaitpid
        exact Pty.waitpid_decreases hstep hadvances
      · exact (ownerOutcome_of_step hstep).decreases hasked hbusy
          fun result expired heq => hwaitpid ⟨result, expired, heq⟩
    | reader action =>
      by_cases hwaitpid : action = .waitpid .interrupted
      · subst hwaitpid
        exact hadvances.elim
      · exact (readerOutcome_of_step hstep).decreases hasked
          ((Pty.advances_reader hwaitpid).mp hadvances) hwaitpid
  keeps := by
    intro pty action pty' _ _ _ hstep hother
    cases action with
    | owner action => exact Nat.le_of_eq (congrArg Pty.work (Pty.ownerStep_other hstep hother))
    | reader action =>
      by_cases hwaitpid : action = .waitpid .interrupted
      · subst hwaitpid
        have hreader : pty.readerStep (.waitpid .interrupted) = some pty' := hstep
        cases readerOutcome_of_step hreader with
        | interrupted => exact Nat.le_refl _
      · rw [Pty.advances_reader hwaitpid, Bool.not_eq_true] at hother
        exact Nat.le_of_eq ((readerOutcome_of_step hstep).work_eq hother)
  enabled := by
    intro pty _ hbusy _
    obtain ⟨action, hsome, hadvances⟩ := Pty.exists_advance hbusy
    obtain ⟨pty', hstep⟩ := Option.isSome_iff_exists.mp hsome
    exact ⟨action, pty', trivial, hstep, hadvances⟩

/-- However far the reader is, it makes eight more steps at most. -/
theorem readerWork_le {pty : Pty} (h : ptySystem.Reachable AnyPtyOrder pty) :
    pty.reader.work ≤ 8 := by
  apply h.invariant
  · rintro _ rfl
    exact Nat.zero_le 8
  · intro pty action pty' _ ih _ hstep
    cases action with
    | owner action =>
      cases ownerOutcome_of_step hstep with
      | join => exact Nat.zero_le 8
      | spawn => simp [ReaderPoint.work]
      | _ => exact ih
    | reader action =>
      cases readerOutcome_of_step hstep with
      | interrupted => exact ih
      | reaps child status =>
        have hlength := length_recordExitStatus status
        simp only [ReaderPoint.work]
        omega
      | store child first rest hreader =>
        rw [hreader, ReaderPoint.work, List.length_cons] at ih
        simp only [ReaderPoint.work]
        omega
      | _ => simp [ReaderPoint.work]

theorem OwnerPoint.work_readChild_le (restart : Bool) :
    (OwnerPoint.readChild restart).work ≤ 29 := by
  cases restart <;> simp [OwnerPoint.work, stoppedWork]

/-- What a call has before it when it begins. -/
theorem Pty.work_of_begins {pty begun : Pty} {action : OwnerAction}
    (h : ptySystem.Reachable AnyPtyOrder pty) (hready : pty.owner = .ready)
    (hstep : pty.ownerStep action = some begun) : begun.InCall ∧ begun.work ≤ 37 := by
  have hreader := readerWork_le h
  cases ownerOutcome_of_step hstep with
  | stop =>
    exact ⟨nofun, Nat.le_trans (joinWork_le (OwnerPoint.work_readChild_le false) hreader)
      (Nat.le_refl 37)⟩
  | start =>
    exact ⟨nofun, Nat.le_trans (joinWork_le (OwnerPoint.work_readChild_le true) hreader)
      (Nat.le_refl 37)⟩
  | getStatus =>
    exact ⟨nofun, Nat.le_trans (joinWork_le (Nat.le_refl 3) hreader) (by decide)⟩
  | hangUp _ howner | goJoin _ howner | signalGroup _ _ _ howner | noGroup _ _ _ howner
  | signalProcess _ _ _ howner | join _ _ howner | closeAndWait _ _ howner | close _ _ howner
  | reaps _ _ _ _ _ howner | timesOut _ _ _ _ howner | polls _ _ _ _ _ howner
  | waitFails _ _ _ _ howner | lastStore _ _ howner | store _ _ _ _ howner | notOver _ howner
  | ended _ howner | returns _ howner | begin howner | fork _ _ howner | forkFails howner
  | fail howner | adopt _ _ howner | spawn howner | loadExitCode _ howner
  | loadExitSignal _ _ howner | report _ _ _ howner =>
    cases hready.symm.trans howner

/-- `Start`, `Stop` and `GetStatus` return. At most 37 steps advance the call, and until it has
ended one of them can be made, so some run leads to its end. -/
theorem ptyCalls_return {pty begun : Pty} {action : OwnerAction}
    (h : ptySystem.Reachable AnyPtyOrder pty) (hready : pty.owner = .ready)
    (hbegun : pty.ownerStep action = some begun) :
    (∀ count last, Advance ptySystem AnyPtyOrder Pty.InCall Pty.Advances begun count last →
      count ≤ 37 ∧
      (last.owner ≠ .ready → ∃ action next, last.step action = some next ∧
        last.Advances action)) ∧
    ∃ count last, Advance ptySystem AnyPtyOrder Pty.InCall Pty.Advances begun count last ∧
      last.owner = .ready := by
  have hreachable : ptySystem.Reachable AnyPtyOrder begun := .step (a := .owner action) h trivial
    hbegun
  obtain ⟨hbusy, hwork⟩ := Pty.work_of_begins h hready hbegun
  refine ⟨?_, ?_⟩
  · intro count last hrun
    have hmeasure := hrun.le_measure ptyVariant hreachable
    refine ⟨by omega, fun hlast => ?_⟩
    obtain ⟨action, next, -, hstep, hadvances⟩ :=
      ptyVariant.enabled last (hrun.reachable hreachable) hlast id
    exact ⟨action, next, hstep, hadvances⟩
  · obtain ⟨count, last, hrun, hend | hwaits⟩ := ptyVariant.exists_end hreachable
    · exact ⟨count, last, hrun, Classical.not_not.mp hend⟩
    · exact hwaits.elim

/-- `Stop` is called while the reader waits for the child. -/
theorem ptyCalls_return_waiting :
    ∃ pty begun : Pty, pty.reader = .waitpid 100 ∧ begun.owner = .readChild false ∧
      begun.work = 26 ∧
      ∃ count last, Advance ptySystem AnyPtyOrder Pty.InCall Pty.Advances begun count last ∧
        last.owner = .ready := by
  obtain ⟨pty, begun, hrun, hready, hreader, hbegun, howner, hwork⟩ : ∃ pty begun : Pty,
      TransitionSystem.runSteps
        (fun pty action => if AnyPtyOrder pty action then pty.step action else none) {}
        (startAndExit 100) = some pty ∧
      pty.owner = .ready ∧ pty.reader = .waitpid 100 ∧ pty.ownerStep .stop = some begun ∧
      begun.owner = .readChild false ∧ begun.work = 26 :=
    ⟨_, _, rfl, rfl, rfl, rfl, rfl, rfl⟩
  have hreachable : ptySystem.Reachable AnyPtyOrder pty :=
    ptyReachable_of_runSteps (startAndExit 100) hrun
  exact ⟨pty, begun, hreader, howner, hwork, (ptyCalls_return hreachable hready hbegun).2⟩

end SakuraTerminal.Transport
