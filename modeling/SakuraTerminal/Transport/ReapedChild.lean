import SakuraTerminal.Transport.PtyLifecycle

/-!
# Signals to a reaped child

Once `waitpid` has returned a child, the system may give its number to another process. `Stop`
signals the child it finds in `child_pid_` unless `child_reaped_` is set, and the reader sets
`child_reaped_` some steps after its `waitpid`, so between the two a hang-up reaches a number that
is free (`signalled_after_reaped`). `HangUpApart` says that the reader neither is in that window
when `Stop` reads the members nor enters it before the hang-up is sent. In runs of such steps no
reaped child is signalled (`reaped_never_signalled`).

The proof has an assertion for each point of either thread, and what remains is that the steps of
the one thread keep the assertions of the other.

The condition is about the order of steps and cannot be about one thread alone: each of the two acts
on what it read before, and the window opens with a system call of the reader that `Stop` knows
nothing of. `Stop` holds `io_mutex_` when it reads and not when it signals, so the lock does not
close it. The second and third signal of `Stop` come behind the join and are safe without any
condition.
-/

set_option autoImplicit false

namespace SakuraTerminal.Transport

open SakuraTerminal.Foundations
open SakuraTerminal.Foundations.TransitionSystem

/-- No event `signalled child` follows an event `reaped child`. A child that was never reaped may be
signalled any number of times. -/
def ReapedNeverSignalled (events : List ProcessEvent) : Prop :=
  events.Pairwise fun earlier later => ∀ child, earlier = .reaped child → later ≠ .signalled child

/-- No child was reaped so far. -/
def NoneReaped (events : List ProcessEvent) : Prop := ∀ child, .reaped child ∉ events

/-- The reader has reaped the child and not yet set `child_reaped_`. This is the window. -/
def ReaderPoint.unmarked : ReaderPoint → Bool
  | .record _ _ => true
  | _ => false

/-- The owner is between reading the members and its last hang-up signal. -/
def OwnerPoint.hangingUp : OwnerPoint → Bool
  | .signalGroup _ .hup _ | .signalProcess _ .hup _ => true
  | .store _ _ next => next.hangingUp
  | _ => false

/-- `Stop` does not read the members in the reader's window, and the reader does not reap while
`Stop` is about to hang up. All other steps are free. -/
def HangUpApart (pty : Pty) : PtyAction → Prop
  | .owner .readChild => pty.reader.unmarked = false
  | .reader (.waitpid (.reaped _)) => pty.owner.hangingUp = false
  | _ => True

instance (pty : Pty) (action : PtyAction) : Decidable (HangUpApart pty action) := by
  unfold HangUpApart
  split <;> infer_instance

/-! ## Assertions -/

/-- What the owner relies on at a point. Before a signal this is that nothing was reaped. -/
def OwnerPoint.ChildAssertion (childPid : Int) (events : List ProcessEvent) : OwnerPoint → Prop
  | .signalGroup _ .hup child | .signalProcess _ .hup child => childPid = child ∧ NoneReaped events
  | .signalGroup _ _ _ | .signalProcess _ _ _ | .waitForChild _ _ _ =>
    childPid = -1 ∧ NoneReaped events
  | .join _ child | .close _ child => childPid = child
  | .fork | .adopt _ _ => NoneReaped events
  | .store _ _ next => next.ChildAssertion childPid events
  | _ => True

/-- What the reader relies on at a point. -/
def ReaderPoint.ChildAssertion (childPid : Int) : ReaderPoint → Prop
  | .waitpid child | .testStop child | .record child _ => childPid = child
  | _ => True

/-- What the points of the two threads, the members and the events of the log have to do with each
other, while steps keep apart. -/
structure ChildInvariant (pty : Pty) : Prop where
  owner : pty.owner.ChildAssertion pty.members.childPid pty.log.events
  reader : pty.reader.ChildAssertion pty.members.childPid
  /-- A child that was reaped is no longer known, or marked, or about to be marked. -/
  marked : NoneReaped pty.log.events ∨ pty.members.childPid ≤ 0 ∨
    pty.members.childReaped = true ∨ pty.reader.unmarked = true
  ordered : ∀ log ∈ pty.log :: pty.ended, ReapedNeverSignalled log.events

/-! ## Preservation -/

theorem noneReaped_nil : NoneReaped [] := fun _ => List.not_mem_nil

theorem NoneReaped.signalled {events : List ProcessEvent} (h : NoneReaped events) (child : Int) :
    NoneReaped (events ++ [.signalled child]) := by
  intro other hmem
  rcases List.mem_append.mp hmem with hold | hnew
  · exact h other hold
  · cases List.mem_singleton.mp hnew

/-- A signal is in order as long as nothing was reaped. -/
theorem ReapedNeverSignalled.signalled {events : List ProcessEvent} (h : NoneReaped events)
    (hordered : ReapedNeverSignalled events) (child : Int) :
    ReapedNeverSignalled (events ++ [.signalled child]) := by
  apply List.pairwise_append.mpr
  refine ⟨hordered, List.pairwise_singleton _ _, ?_⟩
  rintro earlier hmem _ - other rfl
  exact absurd hmem (h other)

theorem ReapedNeverSignalled.reaped {events : List ProcessEvent}
    (hordered : ReapedNeverSignalled events) (child : Int) :
    ReapedNeverSignalled (events ++ [.reaped child]) := by
  apply List.pairwise_append.mpr
  refine ⟨hordered, List.pairwise_singleton _ _, ?_⟩
  intro earlier _ later hlater other _
  rw [List.mem_singleton.mp hlater]
  exact ProcessEvent.noConfusion

/-- Where the owner neither signals nor is alone, the assertion says nothing of the events. -/
theorem OwnerPoint.ChildAssertion.ofEvents {childPid : Int} {events : List ProcessEvent}
    {owner : OwnerPoint} (h : owner.ChildAssertion childPid events) (halone : owner.alone = false)
    (hup : owner.hangingUp = false) (events' : List ProcessEvent) :
    owner.ChildAssertion childPid events' := by
  induction owner with
  | signalGroup _ signal _ | signalProcess _ signal _ => cases signal <;> contradiction
  | store first rest next ih => exact ih h halone hup
  | ready | readChild | join | loadExitCode | loadExitSignal | loadExitCodeValid => exact h
  | close | waitForChild | loadState | stopped | begin | fork | fail | adopt | spawn =>
    contradiction

namespace ChildInvariant

variable {pty pty' : Pty}

/-! What a step sets, one part of the state after the other. -/

theorem store (h : ChildInvariant pty) (store : AtomicStore) :
    ChildInvariant (pty.store store) where
  owner := by simpa using h.owner
  reader := by simpa using h.reader
  marked := by simpa using h.marked
  ordered := by simpa using h.ordered

theorem setOwner (h : ChildInvariant pty) (owner : OwnerPoint)
    (howner : owner.ChildAssertion pty.members.childPid pty.log.events) :
    ChildInvariant { pty with owner } where
  owner := howner
  reader := h.reader
  marked := h.marked
  ordered := h.ordered

theorem setReader (h : ChildInvariant pty) (reader : ReaderPoint)
    (hreader : reader.ChildAssertion pty.members.childPid)
    (hunmarked : pty.reader.unmarked = true → reader.unmarked = true) :
    ChildInvariant { pty with reader } where
  owner := h.owner
  reader := hreader
  marked := h.marked.imp_right (.imp_right (.imp_right hunmarked))
  ordered := h.ordered

/-- The rest of the log. -/
theorem setLog (h : ChildInvariant pty) (log : PtyLog) (hevents : log.events = pty.log.events) :
    ChildInvariant { pty with log } where
  owner := by
    rw [hevents]
    exact h.owner
  reader := h.reader
  marked := by
    rw [hevents]
    exact h.marked
  ordered := by
    intro other hother
    rcases List.mem_cons.mp hother with rfl | hended
    · rw [hevents]
      exact h.ordered pty.log List.mem_cons_self
    · exact h.ordered other (List.mem_cons_of_mem _ hended)

/-- A signal to a child while none was reaped. -/
theorem signalled (h : ChildInvariant pty) (hnone : NoneReaped pty.log.events) (child : Int)
    (owner : OwnerPoint)
    (howner : ∀ events, NoneReaped events → owner.ChildAssertion pty.members.childPid events) :
    ChildInvariant { pty.record (.signalled child) with owner } where
  owner := howner _ (hnone.signalled child)
  reader := h.reader
  marked := .inl (hnone.signalled child)
  ordered := by
    intro log hlog
    rcases List.mem_cons.mp hlog with rfl | hended
    · exact (h.ordered pty.log List.mem_cons_self).signalled hnone child
    · exact h.ordered log (List.mem_cons_of_mem _ hended)

theorem reaped (h : ChildInvariant pty) (child : Int) {log : PtyLog}
    (hlog : log.events = pty.log.events ++ [.reaped child]) :
    ∀ other ∈ log :: pty.ended, ReapedNeverSignalled other.events := by
  intro other hother
  rcases List.mem_cons.mp hother with rfl | hended
  · rw [hlog]
    exact (h.ordered pty.log List.mem_cons_self).reaped child
  · exact h.ordered other (List.mem_cons_of_mem _ hended)

/-- Only a reader that reaped the child is about to mark it. -/
theorem marking {reader next : ReaderPoint} (hreader : pty.reader = reader)
    (hmarked : reader.unmarked = false) (hunmarked : pty.reader.unmarked = true) :
    next.unmarked = true := by
  rw [hreader, hmarked] at hunmarked
  contradiction

/-- A child that is known, not marked and not about to be marked was not reaped. -/
theorem noneReaped (h : ChildInvariant pty) (hchild : 0 < pty.members.childPid)
    (hreaped : pty.members.childReaped = false) (hreader : pty.reader.unmarked = false) :
    NoneReaped pty.log.events := by
  rcases h.marked with hnone | hgone | hmarked | hunmarked
  · exact hnone
  · exact absurd hchild (Int.not_lt.mpr hgone)
  · rw [hreaped] at hmarked
    contradiction
  · rw [hreader] at hunmarked
    contradiction

/-- A step of the reader. Its `waitpid` opens the window, which the condition keeps the hang-up out
of. -/
theorem readerStep {action : ReaderAction} (h : ChildInvariant pty) (halone : pty.Alone)
    (hallowed : HangUpApart pty (.reader action)) (hstep : ReaderOutcome pty action pty') :
    ChildInvariant pty' := by
  have hnot := hstep.owner_alone halone
  -- what the reader knows of the child at its point
  have known : ∀ {reader}, pty.reader = reader → reader.ChildAssertion pty.members.childPid := by
    rintro _ rfl
    exact h.reader
  cases hstep with
  | stays hreader | asked hreader | goOn hreader | readFails hreader | exits hreader
  | leaves hreader | findsNone hreader | waitFails _ hreader | givesUp _ hreader =>
    exact h.setReader _ trivial (marking hreader rfl)
  | finds hreader => exact h.setReader _ rfl (marking hreader rfl)
  | notYet child hreader | waits child hreader =>
    have hchild := known hreader
    exact h.setReader _ hchild (marking hreader rfl)
  | interrupted => exact h
  | reaps child status hreader =>
    have hchild := known hreader
    constructor
    case owner => exact h.owner.ofEvents hnot hallowed _
    case reader => exact hchild
    case marked => exact .inr (.inr (.inr rfl))
    case ordered => exact h.reaped child rfl
  | store child first rest hreader =>
    have hchild := known hreader
    apply (h.store first).setReader (.record child rest)
    · simpa [ReaderPoint.ChildAssertion] using hchild
    · intro _
      rfl
  | marks child hreader hchild =>
    constructor
    case owner => exact h.owner
    case reader => trivial
    case marked => exact .inr (.inr (.inl rfl))
    case ordered => exact h.ordered
  | marksNone child hreader hchild => exact absurd (known hreader) hchild
  | publish hreader => exact (h.store (.state .exited)).setReader _ trivial (marking hreader rfl)
  | clear hreader => exact (h.store (.running false)).setReader _ trivial (marking hreader rfl)

/-- A step of the owner. The signals behind the join go to a child that the reader had not reaped,
since a mark is read there that nobody changes any more. -/
theorem ownerStep {action : OwnerAction} (h : ChildInvariant pty) (halone : pty.Alone)
    (hallowed : HangUpApart pty (.owner action)) (hstep : OwnerOutcome pty action pty') :
    ChildInvariant pty' := by
  -- what the owner knows of the child at its point
  have known : ∀ {owner}, pty.owner = owner →
      owner.ChildAssertion pty.members.childPid pty.log.events := by
    rintro _ rfl
    exact h.owner
  -- a point at which the owner is alone leaves no reader that relies on anything
  have without : ∀ {owner} {childPid : Int}, pty.owner = owner → owner.alone = true →
      pty.reader.ChildAssertion childPid := by
    rintro _ _ rfl hat
    rw [halone hat]
    trivial
  have stopCalled := (h.store (.stopRequested true)).setLog
    { pty.log with stopCalled := true } rfl
  cases hstep with
  | stop => exact stopCalled.setOwner (.readChild false) trivial
  | start => exact stopCalled.setOwner (.readChild true) trivial
  | hangUp restart howner hchild hreaped =>
    exact h.setOwner _ ⟨rfl, h.noneReaped hchild hreaped hallowed⟩
  | goJoin => exact h.setOwner _ rfl
  | signalGroup restart signal child howner | signalProcess restart signal child howner =>
    have hknown := known howner
    cases signal with
    | hup => exact h.signalled hknown.2 child _ fun _ _ => hknown.1
    | term | kill => exact h.signalled hknown.2 child _ fun _ hnone => ⟨hknown.1, hnone⟩
  | noGroup restart signal child howner =>
    have hknown := known howner
    cases signal with
    | hup | term | kill => exact h.signalled hknown.2 child _ fun _ hnone => ⟨hknown.1, hnone⟩
  | join restart child howner hreader =>
    have hchild := known howner
    apply (h.setOwner (.close restart child) hchild).setReader .none trivial
    -- a reader that has finished has marked what it reaped
    rcases hreader with hnone | hfinished
    · exact marking hnone rfl
    · exact marking hfinished rfl
  | closeAndWait restart child howner hchild hreaped =>
    have hknown : pty.members.childPid = child := known howner
    have hreader := halone (congrArg OwnerPoint.alone howner)
    have hnone : NoneReaped pty.log.events := by
      apply h.noneReaped _ hreaped (congrArg ReaderPoint.unmarked hreader)
      rw [hknown]
      exact hchild
    constructor
    case owner => exact ⟨rfl, hnone⟩
    case reader => exact without howner rfl
    case marked => exact .inl hnone
    case ordered => exact h.ordered
  | close restart child howner =>
    constructor
    case owner => trivial
    case reader => exact without howner rfl
    case marked => exact .inr (.inl (show (-1 : Int) ≤ 0 by decide))
    case ordered => exact h.ordered
  | reaps restart signal child status expired howner =>
    have hknown : pty.members.childPid = -1 ∧ NoneReaped pty.log.events := known howner
    constructor
    case owner => cases status <;> trivial
    case reader => exact h.reader
    case marked =>
      -- the child is forgotten already
      refine .inr (.inl ?_)
      change pty.members.childPid ≤ 0
      rw [hknown.1]
      decide
    case ordered => exact h.reaped child rfl
  | timesOut restart signal child expired howner =>
    have hknown := known howner
    cases signal with
    | hup | term => exact h.setOwner _ hknown
    | kill => exact h.setOwner _ trivial
  | polls => exact h
  | waitFails => exact h.setOwner _ trivial
  | lastStore first next howner | store first second rest next howner =>
    have hnext := known howner
    apply (h.store first).setOwner
    simpa [OwnerPoint.ChildAssertion] using hnext
  | notOver => exact h.setOwner _ trivial
  | ended => exact h.setOwner _ trivial
  | returns restart =>
    constructor
    case owner => cases restart <;> trivial
    case reader => exact h.reader
    case marked => exact h.marked
    case ordered => exact h.ordered
  | begin howner =>
    constructor
    case owner => exact noneReaped_nil
    case reader => exact without howner rfl
    case marked => exact .inl noneReaped_nil
    case ordered =>
      intro log hlog
      rcases List.mem_cons.mp hlog with rfl | hended
      · exact List.Pairwise.nil
      · exact h.ordered log hended
  | fork master child howner =>
    have hnone := known howner
    exact h.setOwner _ hnone
  | forkFails => exact h.setOwner _ trivial
  | fail => exact (h.store (.state .failed)).setOwner _ trivial
  | adopt master child howner =>
    have hnone : NoneReaped pty.log.events := known howner
    constructor
    case owner => trivial
    case reader => exact without howner rfl
    case marked => exact .inl hnone
    case ordered => exact h.ordered
  | spawn howner =>
    have hreader := halone (congrArg OwnerPoint.alone howner)
    exact (h.setOwner .ready trivial).setReader .loop trivial (marking hreader rfl)
  | getStatus | loadExitCode | loadExitSignal => exact h.setOwner _ trivial
  | report state exitCode exitSignal =>
    have reported := h.setLog { pty.log with
      reports := pty.log.reports ++
        [⟨⟨state, exitCode, exitSignal, pty.members.exitCodeValid⟩, pty.log.stopCalled⟩] } rfl
    exact reported.setOwner .ready trivial

end ChildInvariant

/-- The assertions hold in every run whose steps keep apart. -/
theorem childInvariant_of_reachable {pty : Pty} (hreachable : ptySystem.Reachable HangUpApart pty) :
    ChildInvariant pty := by
  apply TransitionSystem.Reachable.invariant _ _ hreachable
  · rintro _ rfl
    constructor
    case owner => trivial
    case reader => trivial
    case marked => exact .inl noneReaped_nil
    case ordered =>
      intro log hlog
      rw [List.mem_singleton.mp hlog]
      exact List.Pairwise.nil
  · intro pty action pty' hpty ih hallowed hstep
    have halone := alone_of_reachable hpty
    cases action with
    | owner action => exact ih.ownerStep halone hallowed (ownerOutcome_of_step hstep)
    | reader action => exact ih.readerStep halone hallowed (readerOutcome_of_step hstep)

/-! ## Sessions -/

/-- The child is reaped by the reader, and `Stop` hangs up before that is marked. -/
def hangUpUnmarked : List PtyAction :=
  startAndExit 100 ++ [.reader (.waitpid (.reaped (.exited 0))), .owner .stop, .owner .readChild,
    .owner (.signalGroup false)]

/-- Without the condition a reaped child can be signalled. -/
theorem signalled_after_reaped :
    ¬∀ pty : Pty, ptySystem.Reachable AnyPtyOrder pty →
      ∀ log ∈ pty.log :: pty.ended, ReapedNeverSignalled log.events := by
  intro h
  obtain ⟨pty, hrun, hevents⟩ : ∃ pty,
      TransitionSystem.runSteps
        (fun pty action => if AnyPtyOrder pty action then pty.step action else none) {}
        hangUpUnmarked = some pty ∧ pty.log.events = [.reaped 100, .signalled 100] :=
    ⟨_, rfl, rfl⟩
  have hordered := h pty (ptyReachable_of_runSteps hangUpUnmarked hrun) pty.log List.mem_cons_self
  rw [hevents] at hordered
  exact List.rel_of_pairwise_cons hordered (List.mem_singleton.mpr rfl) 100 rfl rfl

/-- In a run in which the hang-up keeps clear of the reader's window, no session signals a child
that it has reaped. -/
theorem reaped_never_signalled {pty : Pty} (hreachable : ptySystem.Reachable HangUpApart pty) :
    ∀ log ∈ pty.log :: pty.ended, ReapedNeverSignalled log.events :=
  (childInvariant_of_reachable hreachable).ordered

/-- `Stop` hangs up a living child, terminates it and reaps it. -/
def hangUpAndTerminate : List PtyAction :=
  startAndExit 100 ++ [.owner .stop, .owner .readChild, .owner (.signalGroup false),
    .reader (.waitpid .notYet), .reader .testStop, .reader .publish, .reader .clear, .owner .join,
    .owner .close, .owner (.waitpid .notYet false), .owner (.signalGroup false),
    .owner (.waitpid (.reaped (.signaled 15)) false)]

theorem reaped_never_signalled_terminate :
    ∃ pty : Pty, pty.log.events = [.signalled 100, .signalled 100, .reaped 100] ∧
      ∀ log ∈ pty.log :: pty.ended, ReapedNeverSignalled log.events := by
  obtain ⟨pty, hrun, hevents⟩ : ∃ pty,
      TransitionSystem.runSteps
        (fun pty action => if HangUpApart pty action then pty.step action else none) {}
        hangUpAndTerminate = some pty ∧
      pty.log.events = [.signalled 100, .signalled 100, .reaped 100] :=
    ⟨_, rfl, rfl⟩
  exact ⟨pty, hevents, reaped_never_signalled (ptyReachable_of_runSteps hangUpAndTerminate hrun)⟩

end SakuraTerminal.Transport
