import SakuraTerminal.Foundations.Progress
import SakuraTerminal.Transport.ConPtyHandles

/-!
# The calls of a ConPTY session return

`Start`, `Stop` and `GetStatus` of `ConPtySession` make a bounded number of steps, the reader's
steps that `Stop` waits for included, and every state of a call has such a step unless the call
waits (`conPtyCalls_return`). It can wait for `io_mutex_`, which a thread in `Write` or `Resize`
holds, and at the join of `Stop` for a `ReadFile` of the reader.

`Stop` calls `CancelIoEx` before it joins. A `ReadFile` that is pending then returns, so a reader in
`ReadFile`, which is where it is most of the time, does not keep `Stop` waiting. The cancellation is
lost on one reader only: it has tested `stop_requested_` before `Stop` set it, and calls `ReadFile`
behind the `CancelIoEx`. That call ends only when the system has output for it or fails it, and
`Stop` does not close the pseudo console, which holds the other end of the pipe, before the join.

`ReadCall` tells these cases apart, over the session of `ConPtyLifecycle`, in which a `ReadFile` may
return at any time. `ReadsInvariant` holds of every reachable state, and `NoLateRead` throughout a
call that begins with the reader elsewhere than between its test and `ReadFile`. From the other
calls of `Start` and `Stop` a run leads to the wait.
-/

set_option autoImplicit false

namespace SakuraTerminal.Transport

open SakuraTerminal.Foundations
open SakuraTerminal.Foundations.TransitionSystem

/-! ## Pending reads -/

/-- How far the reader is with a `ReadFile`. The session has no member for this. It is the system
that knows which calls are pending on a pipe, and `CancelIoEx` ends those that are pending when it
is called and no later ones. -/
inductive ReadCall where
  /-- The reader is at another place. -/
  | none
  /-- The reader has tested `stop_requested_` and has not called `ReadFile` yet. -/
  | ahead
  /-- The call waits for output of the console. -/
  | pending
  /-- `CancelIoEx` has found the call pending, so it returns without waiting any more. -/
  | cancelled
  deriving DecidableEq, Repr

/-- The session with the `ReadFile` of its reader. -/
structure ConPtyReads where
  pty : ConPty := {}
  read : ReadCall := .none
  deriving DecidableEq, Repr

/-- A step of the session, or the call of `ReadFile` behind the test of `stop_requested_`. -/
inductive ConPtyReadsAction where
  | session (action : ConPtyAction)
  | callReadFile
  deriving DecidableEq, Repr

def ConPtyReader.inReadFile : ConPtyReader → Bool
  | .readFile _ => true
  | _ => false

/-- `ReadFile` returns in this step. -/
def ConPtyAction.endsRead : ConPtyAction → Bool
  | .reader (.readFile _) => true
  | _ => false

/-- What a step that leads to `pty` does to the read. The reader begins a turn of its loop or leaves
`ReadFile`, or the owner calls `CancelIoEx`; nothing else bears on it. -/
def ConPtyReads.readAfter (reads : ConPtyReads) (action : ConPtyAction) (pty : ConPty) : ReadCall :=
  match action, reads.pty.owner with
  | .reader _, _ => if pty.reader.inReadFile then .ahead else .none
  | .owner .call, .calls (.cancelIoEx output) _ _ =>
    if reads.read = .pending ∧ reads.pty.reader = .readFile output then .cancelled else reads.read
  | _, _ => reads.read

/-- A `ReadFile` returns when it was called, with output or because it failed. -/
def ConPtyReads.step (reads : ConPtyReads) : ConPtyReadsAction → Option ConPtyReads
  | .session action =>
    if action.endsRead = true ∧ reads.read = .ahead then none
    else (reads.pty.step action).map fun pty => ⟨pty, reads.readAfter action pty⟩
  | .callReadFile => if reads.read = .ahead then some { reads with read := .pending } else none

def conPtyReadsSystem : TransitionSystem ConPtyReads ConPtyReadsAction where
  init reads := reads = {}
  step reads action reads' := reads.step action = some reads'

/-- Nothing is assumed of the order of steps, nor of the system calls. -/
abbrev AnyReadOrder (_ : ConPtyReads) (_ : ConPtyReadsAction) : Prop := True

section steps

variable {reads reads' : ConPtyReads}

theorem ConPtyReads.step_session {action : ConPtyAction}
    (hstep : reads.step (.session action) = some reads') :
    reads.pty.step action = some reads'.pty ∧ reads'.read = reads.readAfter action reads'.pty := by
  rw [step] at hstep
  split at hstep
  · contradiction
  · obtain ⟨pty, hpty, rfl⟩ := Option.map_eq_some_iff.mp hstep
    exact ⟨hpty, rfl⟩

theorem ConPtyReads.step_callReadFile (hstep : reads.step .callReadFile = some reads') :
    reads.read = .ahead ∧ reads' = { reads with read := .pending } := by
  rw [step] at hstep
  split at hstep
  next hahead => exact ⟨hahead, (Option.some.inj hstep).symm⟩
  next => contradiction

/-- With the reads forgotten, a run is a run of the session. -/
theorem ConPtyReads.session_reachable (h : conPtyReadsSystem.Reachable AnyReadOrder reads) :
    conPtySystem.Reachable AnyConPtyOrder reads.pty := by
  apply h.invariant (I := fun reads => conPtySystem.Reachable AnyConPtyOrder reads.pty)
  · rintro _ rfl
    exact .init rfl
  · intro reads action reads' _ ih _ hstep
    cases action with
    | session action => exact .step ih trivial (step_session hstep).1
    | callReadFile =>
      obtain ⟨-, rfl⟩ := step_callReadFile hstep
      exact ih

/-- A step of the owner leaves the reader in `ReadFile`, and it is in it only if it was. -/
theorem ConPtyOwnerOutcome.inReadFile {pty pty' : ConPty} {action : ConPtyOwnerAction}
    (h : HandleInvariant pty) (hstep : ConPtyOwnerOutcome pty action pty') :
    pty'.reader.inReadFile = pty.reader.inReadFile := by
  cases hstep with
  | join restart taken howner hreader =>
    rcases hreader with hreader | hreader
    · rw [hreader]
    · rw [hreader]
      rfl
  | spawn output howner =>
    have hnone := h.alone (by rw [howner]; rfl)
    rw [hnone]
    rfl
  | _ => rfl

end steps

/-! ## The measure -/

/-- The points of `Stop` up to the join. -/
def ConPtyOwner.beforeJoin : ConPtyOwner → Bool
  | .moveOut _ | .join _ _ => true
  | .calls _ _ next => next.beforeJoin
  | _ => false

/-- The steps from the end of `Stop` on, where `Start` may follow. -/
def ConPtyOwner.stoppedWork (restart : Bool) : Nat := if restart then 25 else 1

/-- How many steps the owner makes at most until its call returns. -/
def ConPtyOwner.work : ConPtyOwner → Nat
  | .ready => 0
  | .moveOut restart => 18 + stoppedWork restart
  | .join restart _ => 14 + stoppedWork restart
  | .testValid restart _ _ => 9 + stoppedWork restart
  | .getExitCode restart _ _ => 8 + stoppedWork restart
  | .calls _ rest next => 1 + rest.length + next.work
  | .store _ rest next => 1 + rest.length + next.work
  | .loadState restart => 2 + stoppedWork restart
  | .stopped restart => stoppedWork restart
  | .begin => 24
  | .createInputPipe => 20
  | .createOutputPipe _ _ => 19
  | .createPseudoConsole _ => 18
  | .attributeListSize _ _ => 17
  | .initializeAttributeList _ _ => 16
  | .updateAttribute _ _ _ => 15
  | .createProcess _ _ _ => 14
  | .createJobObject _ _ => 9
  | .setInformation _ _ _ => 8
  | .assignProcess _ _ _ => 7
  | .adopt _ => 5
  | .spawn _ => 1
  | .fail => 1
  | .loadExitCode _ => 3
  | .loadExitSignal _ _ => 2
  | .loadExitCodeValid _ _ _ => 1

/-- How many steps the reader makes at most until it is finished, once it was asked to stop. -/
def ConPtyReader.work : ConPtyReader → Nat
  | .none | .finished => 0
  | .clear => 1
  | .leave => 2
  | .publish => 2
  | .loop _ => 3
  | .testRecord _ => 3
  | .record _ rest => 3 + rest.length
  | .readFile _ => 4
  | .testWait _ => 4
  | .lookUp => 5
  | .waitForProcess _ => 5
  | .getExitCode _ => 5

/-- `Start`, `Stop` or `GetStatus` is under way. -/
def ConPty.InCall (pty : ConPty) : Prop := pty.owner ≠ .ready

/-- The owner needs `io_mutex_`, and a thread in `Write` or `Resize` holds it. -/
def ConPtyOwner.WaitsFor (caller : ConPtyCaller) : ConPtyOwner → Prop
  | .moveOut _ | .adopt _ => caller ≠ .none
  | _ => False

/-- A call waits for a thread that is inside of `Write` or `Resize`: the owner needs the lock, or at
the join the reader does. -/
def ConPtyReads.WaitsForLock (reads : ConPtyReads) : Prop :=
  reads.pty.owner.WaitsFor reads.pty.caller ∨
    (∃ restart taken, reads.pty.owner = .join restart taken) ∧ reads.pty.reader = .lookUp ∧
      reads.pty.caller ≠ .none

/-- `Stop` is at its join, and the reader is in a `ReadFile` that was not cancelled. The join is
behind `CancelIoEx`, so `ReadFile` was called after it. -/
def ConPtyReads.WaitsForRead (reads : ConPtyReads) : Prop :=
  (∃ restart taken, reads.pty.owner = .join restart taken) ∧ reads.read = .pending

/-- What the reader has before it, with the call of `ReadFile` that is still to come. -/
def ConPtyReads.readerWork (reads : ConPtyReads) : Nat :=
  reads.pty.reader.work + if reads.read = .ahead then 1 else 0

/-- The reader's steps count while the owner has not joined it. -/
def ConPtyReads.work (reads : ConPtyReads) : Nat :=
  joinWork reads.pty.owner.work reads.pty.owner.beforeJoin reads.readerWork

/-- The steps that bring a call nearer to its end. -/
def ConPtyReads.Advances (reads : ConPtyReads) : ConPtyReadsAction → Prop
  | .session (.owner _) => True
  | .session (.reader _) | .callReadFile => reads.pty.owner.beforeJoin = true
  | .session (.caller _) => False

/-- A call of the session is under way. -/
def ConPtyReads.InCall (reads : ConPtyReads) : Prop := reads.pty.InCall

@[simp]
theorem ConPtyOwner.beforeJoin_afterCalls (next : ConPtyOwner) (calls : List SystemCall) :
    (next.afterCalls calls).beforeJoin = next.beforeJoin := by
  cases calls <;> rfl

@[simp]
theorem ConPtyOwner.work_afterCalls (next : ConPtyOwner) (calls : List SystemCall) :
    (next.afterCalls calls).work = calls.length + next.work := by
  cases calls with
  | nil => exact (Nat.zero_add _).symm
  | cons first rest => rw [afterCalls, work, List.length_cons, Nat.add_comm 1]

theorem length_ifOpen_le (call : Nat → SystemCall) (handle : Option Nat) :
    (ifOpen call handle).length ≤ 1 := by
  cases handle with
  | none => exact Nat.zero_le 1
  | some handle => exact Nat.le_refl 1

/-! ## Continuations -/

theorem ConPtyOwner.work_terminate (restart : Bool) (taken : ConPtyHandles) :
    (terminate restart taken).work ≤ 17 + stoppedWork restart := by
  have hjob := length_ifOpen_le .terminateJobObject taken.processJob
  have hprocess := length_ifOpen_le .terminateProcess taken.processHandle
  have houtput := length_ifOpen_le .cancelIoEx taken.outputRead
  simp only [terminate, work_afterCalls, List.length_append, work]
  omega

/-- `Stop` has thirteen steps at most behind the join, and then its end. -/
theorem ConPtyOwner.work_closeAll (restart : Bool) (taken : ConPtyHandles) :
    (closeAll restart taken).work ≤ 13 + stoppedWork restart := by
  have houtput := length_ifOpen_le .closeHandle taken.outputRead
  have hinput := length_ifOpen_le .closeHandle taken.inputWrite
  have hconsole := length_ifOpen_le .closePseudoConsole taken.pseudoConsole
  have hjob := length_ifOpen_le .closeHandle taken.processJob
  simp only [closeAll]
  cases taken.processHandle with
  | some process =>
    simp only [work_afterCalls, List.length_append, List.length_singleton, work]
    omega
  | none =>
    simp only [work_afterCalls, List.length_append, endStop, work, List.length_nil]
    omega

@[simp]
theorem ConPtyOwner.beforeJoin_closeAll (restart : Bool) (taken : ConPtyHandles) :
    (closeAll restart taken).beforeJoin = false := by
  simp only [closeAll]
  cases taken.processHandle <;> simp [beforeJoin, endStop]

theorem ConPtyOwner.work_closeProcess (restart : Bool) (process : Nat) (job : Option Nat) :
    (closeProcess restart process job).work ≤ 5 + stoppedWork restart := by
  have hjob := length_ifOpen_le .closeHandle job
  simp only [closeProcess, endStop, work, List.length_nil]
  omega

/-! ## What the owner relies on -/

/-- Stores are followed by a part of the call that does not wait for the reader. -/
def ConPtyOwner.continues : ConPtyOwner → Bool
  | .store _ _ next => !next.beforeJoin && next.continues
  | .calls _ _ next => next.continues
  | _ => true

@[simp]
theorem ConPtyOwner.continues_afterCalls (next : ConPtyOwner) (calls : List SystemCall) :
    (next.afterCalls calls).continues = next.continues := by
  cases calls <;> rfl

@[simp]
theorem ConPtyOwner.continues_closeAll (restart : Bool) (taken : ConPtyHandles) :
    (closeAll restart taken).continues = true := by
  simp only [closeAll]
  cases taken.processHandle <;> simp [continues, endStop, beforeJoin]

/-- The reader was asked to stop before the owner waits for it, and its own stores leave
`stop_requested_` alone. -/
structure ConPtyStopAsked (pty : ConPty) : Prop where
  asked : pty.owner.beforeJoin = true → pty.members.stopRequested = true
  continues : pty.owner.continues = true
  records : ∀ first rest, pty.reader = .record first rest →
    ∀ value, AtomicStore.stopRequested value ∉ first :: rest

namespace ConPtyStopAsked

variable {pty pty' : ConPty}

theorem store_stopRequested (members : ConPtyMembers) {store : AtomicStore}
    (h : ∀ value, store ≠ .stopRequested value) :
    (members.store store).stopRequested = members.stopRequested := by
  cases store with
  | stopRequested value => exact absurd rfl (h value)
  | running | state | exitCode | exitSignal | exitCodeValid => rfl

/-- The owner went to a point at which it does not wait for the reader. -/
theorem leaves (hrecords : ∀ first rest, pty'.reader = .record first rest →
      ∀ value, AtomicStore.stopRequested value ∉ first :: rest)
    (hjoin : pty'.owner.beforeJoin = false) (hcontinues : pty'.owner.continues = true) :
    ConPtyStopAsked pty' where
  asked := by
    intro h
    rw [hjoin] at h
    cases h
  continues := hcontinues
  records := hrecords

/-- The owner sets the flag before it goes to the join, and clears it where there is no reader. -/
theorem ownerStep (h : ConPtyStopAsked pty) {action : ConPtyOwnerAction}
    (hstep : ConPtyOwnerOutcome pty action pty') : ConPtyStopAsked pty' := by
  have hrecords := h.records
  cases hstep with
  | stop | start => exact ⟨fun _ => rfl, rfl, hrecords⟩
  | moveOut restart howner =>
    refine ⟨fun _ => h.asked (by rw [howner]; rfl), ?_, hrecords⟩
    exact ConPtyOwner.continues_afterCalls _ _
  | call first rest next howner =>
    have hnext := h.continues
    rw [howner, ConPtyOwner.continues] at hnext
    refine ⟨fun hjoin => h.asked ?_, ?_, hrecords⟩
    · rw [ConPtyOwner.beforeJoin_afterCalls] at hjoin
      rw [howner, ConPtyOwner.beforeJoin, hjoin]
    · exact (ConPtyOwner.continues_afterCalls next rest).trans hnext
  | join restart taken =>
    exact leaves nofun (ConPtyOwner.beforeJoin_closeAll restart taken)
      (ConPtyOwner.continues_closeAll restart taken)
  | lastStore first next howner =>
    have hnext := h.continues
    rw [howner, ConPtyOwner.continues, Bool.and_eq_true, Bool.not_eq_true'] at hnext
    exact leaves hrecords hnext.1 hnext.2
  | store first second rest next howner =>
    have hnext := h.continues
    rw [howner] at hnext
    exact leaves hrecords rfl hnext
  | returns restart => cases restart <;> exact leaves hrecords rfl rfl
  | spawn => exact leaves nofun rfl rfl
  | valid | notValid | exitCode | noExitCode | notOver | ended | begin | noInputPipe
  | noOutputPipe | inputPipe | outputPipe | console | noConsole | size | noSize | attributes
  | noAttributes | updated | notUpdated | created | notCreated | job | noJob | limited | notLimited
  | assigned | notAssigned | adopt | fail | getStatus | loadExitCode | loadExitSignal | report =>
    exact leaves hrecords rfl rfl

/-- The reader stores exit values only, and leaves the flag alone. -/
theorem readerStep (h : ConPtyStopAsked pty) {action : ConPtyReaderAction}
    (hstep : ConPtyReaderOutcome pty action pty') : ConPtyStopAsked pty' := by
  cases hstep with
  | exitCode process code =>
    refine ⟨h.asked, h.continues, ?_⟩
    intro first rest hreader
    cases hreader
    simp
  | lastStore first hreader =>
    have hstores := h.records first [] hreader
    refine ⟨fun hjoin => ?_, h.continues, nofun⟩
    have hfirst : ∀ value, first ≠ .stopRequested value := by
      rintro value rfl
      exact hstores value List.mem_cons_self
    exact (store_stopRequested pty.members hfirst).trans (h.asked hjoin)
  | store first second rest hreader =>
    have hstores := h.records first (second :: rest) hreader
    refine ⟨fun hjoin => ?_, h.continues, ?_⟩
    · have hfirst : ∀ value, first ≠ .stopRequested value := by
        rintro value rfl
        exact hstores value List.mem_cons_self
      exact (store_stopRequested pty.members hfirst).trans (h.asked hjoin)
    · intro first' rest' hreader'
      cases hreader'
      exact fun value hmem => hstores value (List.mem_cons_of_mem _ hmem)
  | leave | enter | received | readFails | stopped | exits | found | notFound | waits | waitsNot
  | timesOut | waited | records | recordsNot | noExitCode | publish | clear =>
    exact ⟨h.asked, h.continues, nofun⟩

theorem callerStep (h : ConPtyStopAsked pty) {action : ConPtyCallerAction}
    (hstep : ConPtyCallerOutcome pty action pty') : ConPtyStopAsked pty' := by
  cases hstep with
  | write | writeFile | resize | resizePseudoConsole | returns =>
    exact ⟨h.asked, h.continues, h.records⟩

theorem reachable (h : conPtySystem.Reachable AnyConPtyOrder pty) : ConPtyStopAsked pty := by
  apply h.invariant
  · rintro _ rfl
    exact ⟨nofun, rfl, nofun⟩
  · intro pty action pty' _ ih _ hstep
    cases action with
    | owner action => exact ih.ownerStep (conPtyOwnerOutcome_of_step hstep)
    | reader action => exact ih.readerStep (conPtyReaderOutcome_of_step hstep)
    | caller action => exact ih.callerStep (conPtyCallerOutcome_of_step hstep)

end ConPtyStopAsked

/-! ## The measure decreases -/

section decreases

variable {pty pty' : ConPty}

/-- A step of a call brings it nearer to its end, and only steps before the join lead to points
before it. -/
structure OwnerAdvances (pty pty' : ConPty) : Prop where
  work : pty'.owner.work < pty.owner.work
  join : pty'.owner.beforeJoin = true → pty.owner.beforeJoin = true ∧ pty'.reader = pty.reader

/-- A step of the owner takes it nearer to the end of its call, or ends the call. -/
theorem ConPtyOwnerOutcome.advances {action : ConPtyOwnerAction} (h : ConPtyStopAsked pty)
    (hbusy : pty.InCall) (hstep : ConPtyOwnerOutcome pty action pty') :
    OwnerAdvances pty pty' := by
  cases hstep with
  | stop howner | start howner | getStatus howner => exact absurd howner hbusy
  | moveOut restart howner =>
    have hwork := ConPtyOwner.work_terminate restart pty.members.handles
    constructor
    · simp only [howner, ConPtyOwner.work]
      omega
    · simp [howner, ConPtyOwner.beforeJoin]
  | call first rest next howner =>
    constructor
    · simp only [howner, ConPtyOwner.work, ConPtyOwner.work_afterCalls]
      omega
    · simp [howner, ConPtyOwner.beforeJoin]
  | join restart taken howner =>
    have hwork := ConPtyOwner.work_closeAll restart taken
    constructor
    · simp only [howner, ConPtyOwner.work]
      omega
    · simp
  | valid restart process job howner | noExitCode restart process job howner =>
    have hwork := ConPtyOwner.work_closeProcess restart process job
    constructor
    · simp only [howner, ConPtyOwner.work]
      omega
    · simp [ConPtyOwner.closeProcess, ConPtyOwner.endStop, ConPtyOwner.beforeJoin]
  | exitCode restart process job code howner =>
    have hwork := ConPtyOwner.work_closeProcess restart process job
    constructor
    · simp only [howner, ConPtyOwner.work, List.length_singleton]
      omega
    · simp [ConPtyOwner.beforeJoin]
  | lastStore first next howner =>
    have hnext := h.continues
    rw [howner, ConPtyOwner.continues, Bool.and_eq_true, Bool.not_eq_true'] at hnext
    constructor
    · simp [howner, ConPtyOwner.work]
    · simp [hnext.1]
  | returns restart howner =>
    constructor
    · cases restart <;> simp [howner, ConPtyOwner.work, ConPtyOwner.stoppedWork]
    · cases restart <;> simp [ConPtyOwner.beforeJoin]
  | created pipes console attributes process thread howner =>
    have hthread := length_ifOpen_le .closeHandle thread
    constructor
    · simp only [howner, ConPtyOwner.created, ConPtyOwner.work, List.length_append,
        List.length_cons, List.length_nil]
      omega
    · simp [ConPtyOwner.created, ConPtyOwner.beforeJoin]
  | noConsole pipes howner | noSize pipes _ howner | noAttributes pipes _ howner
  | notUpdated pipes _ _ howner | notCreated pipes _ _ howner =>
    constructor
    · simp [howner, ConPtyOwner.work, ConPtyPipes.close, ConPtyOwner.notCreated]
    · simp [ConPtyOwner.beforeJoin, ConPtyOwner.notCreated]
  | store _ _ _ _ howner | notValid _ _ _ howner | notOver _ howner | ended _ howner
  | begin howner | noInputPipe howner | noOutputPipe _ _ howner | inputPipe _ _ howner
  | outputPipe _ _ _ _ howner | console _ _ howner | size _ _ howner | attributes _ _ _ howner
  | updated _ _ _ howner | job _ _ _ howner | noJob _ _ howner | limited _ _ _ howner
  | notLimited _ _ _ howner | assigned _ _ _ howner | notAssigned _ _ _ howner
  | adopt _ _ howner | spawn _ howner | fail howner | loadExitCode _ howner
  | loadExitSignal _ _ howner | report _ _ _ howner =>
    constructor
    · simp [howner, ConPtyOwner.work]
    · simp [ConPtyOwner.beforeJoin]

/-- What the reader does before it was joined brings it nearer to its end, and it does not call
`ReadFile` again. -/
theorem ConPtyReaderOutcome.advances {action : ConPtyReaderAction} (h : ConPtyStopAsked pty)
    (hstep : ConPtyReaderOutcome pty action pty') (hjoin : pty.owner.beforeJoin = true) :
    pty'.owner = pty.owner ∧ pty'.reader.work < pty.reader.work ∧
      ∀ output, pty'.reader ≠ .readFile output := by
  have hstop := h.asked hjoin
  cases hstep with
  | enter _ _ hnot | exits _ hnot | waits _ _ hnot | records _ _ hnot =>
    cases hnot.symm.trans hstop
  | leave _ hreader | received _ hreader | readFails _ hreader | stopped hreader
  | found _ hreader | notFound hreader | waitsNot _ hreader | timesOut _ hreader
  | waited _ hreader | recordsNot _ hreader | exitCode _ _ hreader | noExitCode _ hreader
  | lastStore _ hreader | store _ _ _ hreader | publish hreader | clear hreader =>
    simp [hreader, ConPtyReader.work, ConPty.store, ConPty.use]

/-- The owner comes to a point before the join when a call begins, in the critical section of
`Stop`, or by one of the calls behind that. -/
theorem ConPtyOwnerOutcome.beforeJoin_cases {action : ConPtyOwnerAction} (h : ConPtyStopAsked pty)
    (hstep : ConPtyOwnerOutcome pty action pty') (hjoin : pty'.owner.beforeJoin = true) :
    (pty.owner = .ready ∧ ∃ restart, pty'.owner = .moveOut restart) ∨
      (∃ restart, pty.owner = .moveOut restart ∧ action = .moveOut ∧
        pty'.owner = .terminate restart pty.members.handles) ∨
      ∃ first rest next, pty.owner = .calls first rest next ∧ action = .call ∧
        pty'.owner = next.afterCalls rest ∧ pty'.reader = pty.reader := by
  cases hstep with
  | stop howner => exact .inl ⟨howner, false, rfl⟩
  | start howner => exact .inl ⟨howner, true, rfl⟩
  | moveOut restart howner => exact .inr (.inl ⟨restart, howner, rfl, rfl⟩)
  | call first rest next howner => exact .inr (.inr ⟨first, rest, next, howner, rfl, rfl, rfl⟩)
  | join restart taken => simp at hjoin
  | lastStore first next howner =>
    have hnext := h.continues
    rw [howner, ConPtyOwner.continues, Bool.and_eq_true, Bool.not_eq_true'] at hnext
    cases hnext.1.symm.trans hjoin
  | returns restart => cases restart <;> cases hjoin
  | created => simp [ConPtyOwner.created, ConPtyOwner.beforeJoin] at hjoin
  | valid | noExitCode => simp [ConPtyOwner.closeProcess, ConPtyOwner.endStop,
      ConPtyOwner.beforeJoin] at hjoin
  | _ => cases hjoin

end decreases

/-! ## Calls return -/

/-- A reader that is not finished can step, unless it waits for the lock or a `ReadFile`. -/
theorem ConPty.exists_readerStep {pty : ConPty} (hnone : pty.reader ≠ .none)
    (hfinished : pty.reader ≠ .finished) (hlock : pty.reader = .lookUp → pty.caller = .none)
    (hread : ∀ output, pty.reader ≠ .readFile output) :
    ∃ action, (pty.readerStep action).isSome = true := by
  cases hreader : pty.reader with
  | none => exact absurd hreader hnone
  | finished => exact absurd hreader hfinished
  | readFile output => exact absurd hreader (hread output)
  | lookUp => exact ⟨.lookUp, by simp [ConPty.readerStep, hreader, hlock hreader]⟩
  | loop => exact ⟨.testLoop, by simp [ConPty.readerStep, hreader]⟩
  | leave => exact ⟨.testLeave, by simp [ConPty.readerStep, hreader]⟩
  | testWait => exact ⟨.testWait, by simp [ConPty.readerStep, hreader]⟩
  | waitForProcess => exact ⟨.wait false, by simp [ConPty.readerStep, hreader]⟩
  | testRecord => exact ⟨.testRecord, by simp [ConPty.readerStep, hreader]⟩
  | getExitCode => exact ⟨.getExitCode none, by simp [ConPty.readerStep, hreader]⟩
  | record => exact ⟨.store, by simp [ConPty.readerStep, hreader]⟩
  | publish => exact ⟨.publish, by simp [ConPty.readerStep, hreader]⟩
  | clear => exact ⟨.clear, by simp [ConPty.readerStep, hreader]⟩

/-- Where the owner needs neither the lock nor the end of the reader it can go on, also where all
calls of the system fail. -/
theorem ConPty.exists_ownerStep {pty : ConPty} (h : HandleInvariant pty) (hbusy : pty.InCall)
    (hlock : ¬ pty.owner.WaitsFor pty.caller)
    (hjoin : ∀ restart taken, pty.owner = .join restart taken →
      pty.reader = .none ∨ pty.reader = .finished) :
    ∃ action, (pty.ownerStep action).isSome = true := by
  cases howner : pty.owner with
  | ready => exact absurd howner hbusy
  | moveOut restart =>
    have hcaller : pty.caller = .none := by
      rw [howner, ConPtyOwner.WaitsFor] at hlock
      exact Classical.not_not.mp hlock
    exact ⟨.moveOut, by simp [ConPty.ownerStep, howner, hcaller]⟩
  | adopt handles =>
    have hcaller : pty.caller = .none := by
      rw [howner, ConPtyOwner.WaitsFor] at hlock
      exact Classical.not_not.mp hlock
    have hopen := h.owner
    rw [howner, ConPtyOwner.HandleAssertion] at hopen
    obtain ⟨output, houtput⟩ := Option.isSome_iff_exists.mp hopen.outputRead
    exact ⟨.adopt, by simp [ConPty.ownerStep, howner, hcaller, houtput]⟩
  | join restart taken =>
    exact ⟨.join, by simp [ConPty.ownerStep, howner, hjoin restart taken howner]⟩
  | calls => exact ⟨.call, by simp [ConPty.ownerStep, howner]⟩
  | testValid => exact ⟨.testValid, by simp [ConPty.ownerStep, howner]⟩
  | getExitCode => exact ⟨.getExitCode none, by simp [ConPty.ownerStep, howner]⟩
  | store => exact ⟨.store, by simp [ConPty.ownerStep, howner]⟩
  | loadState => exact ⟨.loadState, by simp [ConPty.ownerStep, howner]⟩
  | stopped => exact ⟨.returns, by simp [ConPty.ownerStep, howner]⟩
  | begin => exact ⟨.begin, by simp [ConPty.ownerStep, howner]⟩
  | createInputPipe | createOutputPipe =>
    exact ⟨.createPipe none, by simp [ConPty.ownerStep, howner]⟩
  | createPseudoConsole => exact ⟨.createPseudoConsole none, by simp [ConPty.ownerStep, howner]⟩
  | attributeListSize => exact ⟨.attributeListSize false, by simp [ConPty.ownerStep, howner]⟩
  | initializeAttributeList =>
    exact ⟨.initializeAttributeList none, by simp [ConPty.ownerStep, howner]⟩
  | updateAttribute => exact ⟨.updateAttribute false, by simp [ConPty.ownerStep, howner]⟩
  | createProcess => exact ⟨.createProcess none, by simp [ConPty.ownerStep, howner]⟩
  | createJobObject => exact ⟨.createJobObject none, by simp [ConPty.ownerStep, howner]⟩
  | setInformation => exact ⟨.setInformation false, by simp [ConPty.ownerStep, howner]⟩
  | assignProcess => exact ⟨.assignProcess false, by simp [ConPty.ownerStep, howner]⟩
  | spawn => exact ⟨.spawn, by simp [ConPty.ownerStep, howner]⟩
  | fail => exact ⟨.fail, by simp [ConPty.ownerStep, howner]⟩
  | loadExitCode => exact ⟨.loadExitCode, by simp [ConPty.ownerStep, howner]⟩
  | loadExitSignal => exact ⟨.loadExitSignal, by simp [ConPty.ownerStep, howner]⟩
  | loadExitCodeValid => exact ⟨.loadExitCodeValid, by simp [ConPty.ownerStep, howner]⟩

/-! ## Reads and their cancellation -/

/-- The last call before the join is `CancelIoEx`, if there is a pipe that the reader reads from. -/
def ConPtyOwner.Cancels : ConPtyOwner → Prop
  | .calls first rest (.join _ taken) => ∀ output, taken.outputRead = some output →
    (first :: rest).getLast? = some (.cancelIoEx output)
  | .calls _ _ next => next.Cancels
  | _ => True

/-- The reader is in `ReadFile` or about to call it exactly if it is at that point of its loop, and
`Stop` has `CancelIoEx` before it until it is at the join. -/
structure ReadsInvariant (reads : ConPtyReads) : Prop where
  inside : reads.read = .none ↔ reads.pty.reader.inReadFile = false
  cancels : reads.pty.owner.beforeJoin = true → reads.pty.owner.Cancels

section reads

variable {reads reads' : ConPtyReads}

/-- The owner can cancel a `ReadFile`, and leaves it as it is otherwise. -/
theorem ConPtyReads.readAfter_owner (action : ConPtyOwnerAction) (pty : ConPty) :
    reads.readAfter (.owner action) pty = reads.read ∨
      reads.read = .pending ∧ reads.readAfter (.owner action) pty = .cancelled := by
  unfold readAfter
  split
  next hreader => cases hreader
  next =>
    split
    next hread => exact .inr ⟨hread.1, rfl⟩
    next => exact .inl rfl
  next => exact .inl rfl

theorem ConPtyReads.readAfter_owner_eq_none (action : ConPtyOwnerAction) (pty : ConPty) :
    reads.readAfter (.owner action) pty = .none ↔ reads.read = .none := by
  rcases readAfter_owner action pty with h | ⟨hbefore, hafter⟩
  · rw [h]
  · simp [hbefore, hafter]

theorem ConPtyReads.readAfter_owner_eq_ahead (action : ConPtyOwnerAction) (pty : ConPty) :
    reads.readAfter (.owner action) pty = .ahead ↔ reads.read = .ahead := by
  rcases readAfter_owner action pty with h | ⟨hbefore, hafter⟩
  · rw [h]
  · simp [hbefore, hafter]

theorem ConPtyOwner.cancels_terminate (restart : Bool) (taken : ConPtyHandles) :
    (ConPtyOwner.terminate restart taken).Cancels := by
  unfold terminate
  generalize hcalls : ifOpen .terminateJobObject taken.processJob ++
    ifOpen .terminateProcess taken.processHandle ++ ifOpen .cancelIoEx taken.outputRead = calls
  cases calls with
  | nil => trivial
  | cons first rest =>
    intro output houtput
    rw [← hcalls, houtput]
    exact List.getLast?_concat

/-- Making one of the calls leaves the last one. -/
theorem ConPtyOwner.Cancels.afterCall {first : SystemCall} {rest : List SystemCall}
    {next : ConPtyOwner} (h : (ConPtyOwner.calls first rest next).Cancels) :
    (next.afterCalls rest).Cancels := by
  cases rest with
  | nil => cases next <;> trivial
  | cons second rest =>
    cases next with
    | join restart taken =>
      intro output houtput
      rw [← h output houtput, List.getLast?_cons_cons]
    | _ => exact h

theorem ConPtyReaderOutcome.owner_eq {pty pty' : ConPty} {action : ConPtyReaderAction}
    (hstep : ConPtyReaderOutcome pty action pty') : pty'.owner = pty.owner := by
  cases hstep <;> rfl

theorem ConPtyCallerOutcome.same {pty pty' : ConPty} {action : ConPtyCallerAction}
    (hstep : ConPtyCallerOutcome pty action pty') :
    pty'.owner = pty.owner ∧ pty'.reader = pty.reader := by
  cases hstep <;> exact ⟨rfl, rfl⟩

/-- A step of the session moves the reader and its read together, and the owner makes its calls in
order, the cancel among them. -/
theorem ReadsInvariant.step (h : ReadsInvariant reads)
    (hreachable : conPtySystem.Reachable AnyConPtyOrder reads.pty) {action : ConPtyReadsAction}
    (hstep : reads.step action = some reads') : ReadsInvariant reads' := by
  cases action with
  | callReadFile =>
    obtain ⟨hahead, rfl⟩ := ConPtyReads.step_callReadFile hstep
    refine ⟨?_, h.cancels⟩
    rw [← h.inside, hahead]
    simp
  | session action =>
    obtain ⟨hpty, hread⟩ := ConPtyReads.step_session hstep
    cases action with
    | owner action =>
      have houtcome := conPtyOwnerOutcome_of_step hpty
      constructor
      case inside =>
        rw [hread, ConPtyReads.readAfter_owner_eq_none,
          houtcome.inReadFile (handleInvariant_of_reachable hreachable)]
        exact h.inside
      case cancels =>
        intro hjoin
        rcases houtcome.beforeJoin_cases (ConPtyStopAsked.reachable hreachable) hjoin with
          ⟨-, restart, hbegin⟩ | ⟨restart, -, -, hterminate⟩ |
            ⟨first, rest, next, hcalls, -, hafter, -⟩
        · rw [hbegin]
          trivial
        · rw [hterminate]
          exact ConPtyOwner.cancels_terminate restart _
        · have hbefore := h.cancels
          rw [hafter, ConPtyOwner.beforeJoin_afterCalls] at hjoin
          rw [hcalls, ConPtyOwner.beforeJoin] at hbefore
          rw [hafter]
          exact (hbefore hjoin).afterCall
    | reader action =>
      have howner := (conPtyReaderOutcome_of_step hpty).owner_eq
      constructor
      case inside =>
        rw [hread, ConPtyReads.readAfter]
        cases reads'.pty.reader.inReadFile <;> simp
      case cancels =>
        rw [howner]
        exact h.cancels
    | caller action =>
      have hsame := (conPtyCallerOutcome_of_step hpty).same
      constructor
      case inside =>
        rw [hread, hsame.2]
        exact h.inside
      case cancels =>
        rw [hsame.1]
        exact h.cancels

theorem ReadsInvariant.reachable (h : conPtyReadsSystem.Reachable AnyReadOrder reads) :
    ReadsInvariant reads := by
  apply h.invariant
  · rintro _ rfl
    exact ⟨⟨fun _ => rfl, fun _ => rfl⟩, fun _ => trivial⟩
  · intro reads action reads' hreachable ih _ hstep
    exact ih.step (ConPtyReads.session_reachable hreachable) hstep

/-- At a point of its loop other than `ReadFile` the reader has no read. -/
theorem ReadsInvariant.read_eq_none (h : ReadsInvariant reads)
    (hreader : ∀ output, reads.pty.reader ≠ .readFile output) : reads.read = .none := by
  rw [h.inside]
  cases hplace : reads.pty.reader with
  | readFile output => exact absurd hplace (hreader output)
  | _ => rfl

/-- A reader with a read is in `ReadFile`, on the pipe of the session. -/
theorem ReadsInvariant.exists_output (h : ReadsInvariant reads)
    (hhandles : HandleInvariant reads.pty) (hread : reads.read ≠ .none) :
    ∃ output, reads.pty.reader = .readFile output ∧
      reads.pty.sessionHandles.outputRead = some output := by
  rw [Ne, h.inside, Bool.not_eq_false] at hread
  cases hplace : reads.pty.reader with
  | readFile output =>
    refine ⟨output, rfl, hhandles.output output ?_⟩
    rw [hplace]
    rfl
  | _ =>
    rw [hplace] at hread
    cases hread

end reads

/-! ## The calls of a session are bounded -/

section bounds

variable {reads reads' : ConPtyReads}

theorem ConPtyReads.exists_step_session (reads : ConPtyReads) (action : ConPtyAction)
    (hsome : (reads.pty.step action).isSome = true)
    (hread : action.endsRead = true → reads.read ≠ .ahead) :
    ∃ reads', reads.step (.session action) = some reads' := by
  obtain ⟨pty, hpty⟩ := Option.isSome_iff_exists.mp hsome
  refine ⟨⟨pty, reads.readAfter action pty⟩, ?_⟩
  rw [step, if_neg (fun h => hread h.1 h.2), hpty]
  rfl

/-- At the join, a reader that is not finished can step unless it waits. -/
theorem ConPtyReads.exists_join_advance (h : ReadsInvariant reads) {restart : Bool}
    {taken : ConPtyHandles} (howner : reads.pty.owner = .join restart taken)
    (hnone : reads.pty.reader ≠ .none) (hfinished : reads.pty.reader ≠ .finished)
    (hlock : ¬ reads.WaitsForLock) (hread : ¬ reads.WaitsForRead) :
    ∃ action reads', reads.step action = some reads' ∧ reads.Advances action := by
  have hjoin : reads.pty.owner.beforeJoin = true := by
    rw [howner]
    rfl
  by_cases hplace : ∃ output, reads.pty.reader = .readFile output
  · obtain ⟨output, hplace⟩ := hplace
    cases hcall : reads.read with
    | none =>
      have hout := h.inside.mp hcall
      rw [hplace] at hout
      cases hout
    | ahead => exact ⟨.callReadFile, _, by rw [step, if_pos hcall], hjoin⟩
    | pending => exact absurd ⟨⟨restart, taken, howner⟩, hcall⟩ hread
    | cancelled =>
      obtain ⟨reads', hstep⟩ := exists_step_session reads (.reader (.readFile false))
        (by simp [ConPty.step, ConPty.readerStep, hplace]) (by simp [hcall])
      exact ⟨_, reads', hstep, hjoin⟩
  · rw [not_exists] at hplace
    have hcaller : reads.pty.reader = .lookUp → reads.pty.caller = .none := by
      intro hlookUp
      by_contra hcaller
      exact hlock (.inr ⟨⟨restart, taken, howner⟩, hlookUp, hcaller⟩)
    obtain ⟨action, hsome⟩ := ConPty.exists_readerStep hnone hfinished hcaller hplace
    obtain ⟨reads', hstep⟩ := exists_step_session reads (.reader action) hsome
      (by simp [h.read_eq_none hplace])
    exact ⟨_, reads', hstep, hjoin⟩

/-- A call that does not wait can go on: the owner can step, or at the join the reader. -/
theorem ConPtyReads.exists_advance (h : ReadsInvariant reads)
    (hhandles : HandleInvariant reads.pty) (hbusy : reads.InCall) (hlock : ¬ reads.WaitsForLock)
    (hread : ¬ reads.WaitsForRead) :
    ∃ action reads', reads.step action = some reads' ∧ reads.Advances action := by
  by_cases hjoin : ∀ restart taken, reads.pty.owner = .join restart taken →
      reads.pty.reader = .none ∨ reads.pty.reader = .finished
  · have howner : ¬ reads.pty.owner.WaitsFor reads.pty.caller := fun hwaits => hlock (.inl hwaits)
    obtain ⟨action, hsome⟩ := ConPty.exists_ownerStep hhandles hbusy howner hjoin
    obtain ⟨reads', hstep⟩ := exists_step_session reads (.owner action) hsome nofun
    exact ⟨_, reads', hstep, trivial⟩
  · push Not at hjoin
    obtain ⟨restart, taken, howner, hnone, hfinished⟩ := hjoin
    exact exists_join_advance h howner hnone hfinished hlock hread

/-- A step of the owner leaves the reader's part of the measure. -/
theorem ConPtyReads.readerWork_owner {action : ConPtyOwnerAction}
    (hread : reads'.read = reads.readAfter (.owner action) reads'.pty)
    (hreader : reads'.pty.reader = reads.pty.reader) :
    reads'.readerWork = reads.readerWork := by
  have hahead : reads'.read = .ahead ↔ reads.read = .ahead := by
    rw [hread]
    exact readAfter_owner_eq_ahead action _
  simp only [readerWork, hreader, hahead]

/-- What bounds the calls of a session, and what they wait for. -/
theorem conPtyVariant :
    Variant conPtyReadsSystem AnyReadOrder ConPtyReads.InCall
      (fun reads => reads.WaitsForLock ∨ reads.WaitsForRead) ConPtyReads.Advances
        ConPtyReads.work where
  decreases := by
    intro reads action reads' hreachable hbusy _ hstep hadvances
    have hasked := ConPtyStopAsked.reachable (ConPtyReads.session_reachable hreachable)
    cases action with
    | callReadFile =>
      obtain ⟨hahead, rfl⟩ := ConPtyReads.step_callReadFile hstep
      apply joinWork_lt_of_thread hadvances
      simp [ConPtyReads.readerWork, hahead]
    | session action =>
      obtain ⟨hpty, hread⟩ := ConPtyReads.step_session hstep
      cases action with
      | owner action =>
        have hafter := (conPtyOwnerOutcome_of_step hpty).advances hasked hbusy
        apply joinWork_lt_of_call hafter.work
        intro hjoin
        obtain ⟨hbefore, hreader⟩ := hafter.join hjoin
        exact ⟨hbefore, ConPtyReads.readerWork_owner hread hreader⟩
      | reader action =>
        obtain ⟨howner, hwork, hplace⟩ :=
          (conPtyReaderOutcome_of_step hpty).advances hasked hadvances
        have hnone : reads'.read = .none :=
          (ReadsInvariant.reachable (.step hreachable trivial hstep)).read_eq_none hplace
        rw [ConPtyReads.work, ConPtyReads.work, howner]
        apply joinWork_lt_of_thread hadvances
        rw [ConPtyReads.readerWork, ConPtyReads.readerWork, hnone, if_neg nofun, Nat.add_zero]
        exact Nat.lt_of_lt_of_le hwork (Nat.le_add_right _ _)
      | caller action => exact hadvances.elim
  keeps := by
    intro reads action reads' _ _ _ hstep hother
    cases action with
    | callReadFile =>
      obtain ⟨-, rfl⟩ := ConPtyReads.step_callReadFile hstep
      have hjoin : reads.pty.owner.beforeJoin = false := by
        simpa [ConPtyReads.Advances] using hother
      exact Nat.le_of_eq
        ((joinWork_of_not_waiting hjoin).trans (joinWork_of_not_waiting hjoin).symm)
    | session action =>
      obtain ⟨hpty, hread⟩ := ConPtyReads.step_session hstep
      cases action with
      | owner action => exact absurd trivial hother
      | reader action =>
        have hjoin : reads.pty.owner.beforeJoin = false := by
          simpa [ConPtyReads.Advances] using hother
        rw [ConPtyReads.work, ConPtyReads.work, (conPtyReaderOutcome_of_step hpty).owner_eq]
        exact Nat.le_of_eq
          ((joinWork_of_not_waiting hjoin).trans (joinWork_of_not_waiting hjoin).symm)
      | caller action =>
        have hsame := (conPtyCallerOutcome_of_step hpty).same
        have hafter : reads'.read = reads.read := hread
        apply Nat.le_of_eq
        rw [ConPtyReads.work, ConPtyReads.work, ConPtyReads.readerWork, ConPtyReads.readerWork,
          hsame.1, hsame.2, hafter]
  enabled := by
    intro reads hreachable hbusy hwaits
    rw [not_or] at hwaits
    obtain ⟨action, reads', hstep, hadvances⟩ :=
      ConPtyReads.exists_advance (ReadsInvariant.reachable hreachable)
        (handleInvariant_of_reachable (ConPtyReads.session_reachable hreachable)) hbusy hwaits.1
        hwaits.2
    exact ⟨action, reads', trivial, hstep, hadvances⟩

/-- A reader that was asked to stop makes five steps at most, wherever it is. -/
theorem conPtyReaderWork_le {pty : ConPty} (h : conPtySystem.Reachable AnyConPtyOrder pty) :
    pty.reader.work ≤ 5 := by
  apply h.invariant
  · rintro _ rfl
    exact Nat.zero_le 5
  · intro pty action pty' _ ih _ hstep
    cases action with
    | owner action =>
      cases conPtyOwnerOutcome_of_step hstep with
      | join => exact Nat.zero_le 5
      | spawn => simp [ConPtyReader.work]
      | _ => exact ih
    | reader action =>
      cases conPtyReaderOutcome_of_step hstep with
      | store first second rest hreader =>
        rw [hreader, ConPtyReader.work, List.length_cons] at ih
        simp only [ConPtyReader.work]
        omega
      | _ => simp [ConPtyReader.work]
    | caller action => cases conPtyCallerOutcome_of_step hstep <;> exact ih

/-- However far the reader is, it makes five more steps at most. -/
theorem ConPtyReads.readerWork_le (h : conPtyReadsSystem.Reachable AnyReadOrder reads) :
    reads.readerWork ≤ 5 := by
  have hreader := conPtyReaderWork_le (session_reachable h)
  by_cases hahead : reads.read = .ahead
  · obtain ⟨output, hplace, -⟩ := (ReadsInvariant.reachable h).exists_output
      (handleInvariant_of_reachable (session_reachable h)) (by simp [hahead])
    rw [readerWork, hplace, if_pos hahead]
    exact Nat.le_refl 5
  · rwa [readerWork, if_neg hahead]

theorem ConPtyOwner.work_moveOut_le (restart : Bool) :
    (ConPtyOwner.moveOut restart).work ≤ 43 := by
  cases restart <;> simp [ConPtyOwner.work, ConPtyOwner.stoppedWork]

/-- A call begins with `Stop`, which `Start` begins with too, or with the loads of `GetStatus`. -/
theorem ConPtyOwnerOutcome.begins {pty begun : ConPty} {action : ConPtyOwnerAction}
    (hstep : ConPtyOwnerOutcome pty action begun) (hready : pty.owner = .ready) :
    action ≠ .getStatus ∧ (∃ restart, begun.owner = .moveOut restart) ∨
      action = .getStatus ∧ ∃ state, begun.owner = .loadExitCode state := by
  cases hstep with
  | stop => exact .inl ⟨nofun, false, rfl⟩
  | start => exact .inl ⟨nofun, true, rfl⟩
  | getStatus => exact .inr ⟨rfl, _, rfl⟩
  | moveOut _ howner | call _ _ _ howner | join _ _ howner | valid _ _ _ howner
  | notValid _ _ _ howner | exitCode _ _ _ _ howner | noExitCode _ _ _ howner
  | lastStore _ _ howner | store _ _ _ _ howner | notOver _ howner | ended _ howner
  | returns _ howner | begin howner | noInputPipe howner | noOutputPipe _ _ howner
  | inputPipe _ _ howner | outputPipe _ _ _ _ howner | console _ _ howner | noConsole _ howner
  | size _ _ howner | noSize _ _ howner | attributes _ _ _ howner | noAttributes _ _ howner
  | updated _ _ _ howner | notUpdated _ _ _ howner | created _ _ _ _ _ howner
  | notCreated _ _ _ howner | job _ _ _ howner | noJob _ _ howner | limited _ _ _ howner
  | notLimited _ _ _ howner | assigned _ _ _ howner | notAssigned _ _ _ howner
  | adopt _ _ howner | spawn _ howner | fail howner | loadExitCode _ howner
  | loadExitSignal _ _ howner | report _ _ _ howner =>
    cases hready.symm.trans howner

/-- What a call has before it when it begins. -/
theorem ConPtyReads.work_of_begins {begun : ConPtyReads} {action : ConPtyOwnerAction}
    (h : conPtyReadsSystem.Reachable AnyReadOrder reads) (hready : reads.pty.owner = .ready)
    (hstep : reads.step (.session (.owner action)) = some begun) :
    begun.InCall ∧ begun.work ≤ 48 := by
  have hreader := readerWork_le (.step h trivial hstep)
  have hbegins := (conPtyOwnerOutcome_of_step (step_session hstep).1).begins hready
  rcases hbegins with ⟨-, restart, howner⟩ | ⟨-, state, howner⟩
  · rw [InCall, ConPty.InCall, work, howner]
    exact ⟨nofun, joinWork_le (ConPtyOwner.work_moveOut_le restart) hreader⟩
  · rw [InCall, ConPty.InCall, work, howner]
    have hwork : (ConPtyOwner.loadExitCode state).work ≤ 43 := by simp [ConPtyOwner.work]
    exact ⟨nofun, joinWork_le hwork hreader⟩

end bounds

/-! ## When a call waits for a read -/

/-- No `ReadFile` comes behind the `CancelIoEx` of the call that is under way: before the join none
is still to be called, and at the join the one that was pending is cancelled. -/
structure NoLateRead (reads : ConPtyReads) : Prop where
  before : reads.pty.owner.beforeJoin = true → reads.read ≠ .ahead
  join : ∀ restart taken, reads.pty.owner = .join restart taken → reads.read ≠ .pending

section late

variable {reads reads' : ConPtyReads}

/-- `Stop` that has no pipe has no reader in `ReadFile`. -/
theorem ReadsInvariant.read_of_no_output (h : ReadsInvariant reads)
    (hhandles : HandleInvariant reads.pty) (houtput : reads.pty.sessionHandles.outputRead = none) :
    reads.read = .none := by
  by_contra hread
  obtain ⟨output, -, hsome⟩ := h.exists_output hhandles hread
  cases houtput.symm.trans hsome

/-- `Stop` goes to its join at once only if it has no pipe. -/
theorem ConPtyOwner.outputRead_of_terminate {restart restart' : Bool}
    {handles taken : ConPtyHandles} (h : terminate restart handles = .join restart' taken) :
    handles.outputRead = none := by
  obtain ⟨input, output, console, process, job⟩ := handles
  cases output with
  | none => rfl
  | some output => cases job <;> cases process <;> cases h

/-- `CancelIoEx` is the last call before the join and finds the `ReadFile` that is pending. -/
theorem NoLateRead.call (hreads : ReadsInvariant reads) (hhandles : HandleInvariant reads.pty)
    {first : SystemCall} {restart : Bool} {taken : ConPtyHandles}
    (howner : reads.pty.owner = .calls first [] (.join restart taken)) (pty : ConPty) :
    reads.readAfter (.owner .call) pty ≠ .pending := by
  intro hafter
  have hpending : reads.read = .pending := by
    rcases ConPtyReads.readAfter_owner .call pty with hsame | ⟨hpending, -⟩
    · exact hsame.symm.trans hafter
    · exact hpending
  obtain ⟨output, hreader, houtput⟩ := hreads.exists_output hhandles (by simp [hpending])
  have htaken : taken.outputRead = some output := by
    rw [ConPty.sessionHandles, howner] at houtput
    exact houtput
  have hcancels := hreads.cancels (by rw [howner]; rfl)
  rw [howner] at hcancels
  obtain rfl : first = .cancelIoEx output := Option.some.inj (hcancels output htaken)
  simp [ConPtyReads.readAfter, howner, hpending, hreader] at hafter

/-- A call keeps it. The reader, which was asked to stop, calls no `ReadFile` anew. -/
theorem NoLateRead.step (h : NoLateRead reads)
    (hreachable : conPtyReadsSystem.Reachable AnyReadOrder reads) (hbusy : reads.InCall)
    {action : ConPtyReadsAction} (hstep : reads.step action = some reads') : NoLateRead reads' := by
  have hsession := ConPtyReads.session_reachable hreachable
  have hasked := ConPtyStopAsked.reachable hsession
  have hreads := ReadsInvariant.reachable hreachable
  have hhandles := handleInvariant_of_reachable hsession
  cases action with
  | callReadFile =>
    obtain ⟨hahead, rfl⟩ := ConPtyReads.step_callReadFile hstep
    refine ⟨fun _ => by simp, fun restart taken hjoin => ?_⟩
    exact absurd hahead (h.before (by rw [hjoin]; rfl))
  | session action =>
    obtain ⟨hpty, hread⟩ := ConPtyReads.step_session hstep
    cases action with
    | owner action =>
      have hcases := (conPtyOwnerOutcome_of_step hpty).beforeJoin_cases hasked
      constructor
      case before =>
        intro hjoin
        rw [hread, Ne, ConPtyReads.readAfter_owner_eq_ahead]
        rcases hcases hjoin with
          ⟨hready, -⟩ | ⟨restart, howner, -, -⟩ | ⟨first, rest, next, howner, -, hafter, -⟩
        · exact absurd hready hbusy
        · exact h.before (by rw [howner]; rfl)
        · rw [hafter, ConPtyOwner.beforeJoin_afterCalls] at hjoin
          exact h.before (by rw [howner]; exact hjoin)
      case join =>
        intro restart taken hjoin
        rw [hread]
        rcases hcases (by rw [hjoin]; rfl) with
          ⟨hready, -⟩ | ⟨restart', howner, -, hafter⟩ | ⟨first, rest, next, howner, rfl, hafter, -⟩
        · exact absurd hready hbusy
        · -- there is no call between the critical section and the join
          rw [hafter] at hjoin
          have hnone : reads.read = .none := by
            apply hreads.read_of_no_output hhandles
            rw [ConPty.sessionHandles, howner]
            exact ConPtyOwner.outputRead_of_terminate hjoin
          have hkept : reads.readAfter (.owner action) reads'.pty = .none := by
            rwa [ConPtyReads.readAfter_owner_eq_none]
          simp [hkept]
        · cases rest with
          | nil =>
            obtain rfl : next = .join restart taken := hafter.symm.trans hjoin
            exact NoLateRead.call hreads hhandles howner _
          | cons second rest => cases hafter.symm.trans hjoin
    | reader action =>
      have houtcome := conPtyReaderOutcome_of_step hpty
      have hnone : reads'.pty.owner.beforeJoin = true → reads'.read = .none := by
        intro hjoin
        rw [houtcome.owner_eq] at hjoin
        exact (hreads.step hsession hstep).read_eq_none (houtcome.advances hasked hjoin).2.2
      constructor
      case before =>
        intro hjoin
        simp [hnone hjoin]
      case join =>
        intro restart taken hjoin
        simp [hnone (by rw [hjoin]; rfl)]
    | caller action =>
      have howner := (conPtyCallerOutcome_of_step hpty).same.1
      have hafter : reads'.read = reads.read := hread
      refine ⟨?_, ?_⟩
      · rw [howner, hafter]
        exact h.before
      · rw [howner, hafter]
        exact h.join

/-- A call that begins with the reader elsewhere than between its test and `ReadFile`. -/
theorem NoLateRead.begins {begun : ConPtyReads} {action : ConPtyOwnerAction}
    (hready : reads.pty.owner = .ready)
    (hbegun : reads.step (.session (.owner action)) = some begun) (hahead : reads.read ≠ .ahead) :
    NoLateRead begun := by
  obtain ⟨hpty, hread⟩ := ConPtyReads.step_session hbegun
  constructor
  case before =>
    intro _
    rwa [hread, Ne, ConPtyReads.readAfter_owner_eq_ahead]
  case join =>
    intro restart taken hjoin
    rcases (conPtyOwnerOutcome_of_step hpty).begins hready with
      ⟨-, restart', howner⟩ | ⟨-, state, howner⟩
    · cases howner.symm.trans hjoin
    · cases howner.symm.trans hjoin

/-- A call that is past its join, or has none, stays so. -/
theorem ConPtyReads.beforeJoin_of_step
    (hreachable : conPtyReadsSystem.Reachable AnyReadOrder reads) (hbusy : reads.InCall)
    {action : ConPtyReadsAction} (hstep : reads.step action = some reads')
    (hjoin : reads'.pty.owner.beforeJoin = true) : reads.pty.owner.beforeJoin = true := by
  have hasked := ConPtyStopAsked.reachable (session_reachable hreachable)
  cases action with
  | callReadFile =>
    obtain ⟨-, rfl⟩ := step_callReadFile hstep
    exact hjoin
  | session action =>
    obtain ⟨hpty, -⟩ := step_session hstep
    cases action with
    | owner action => exact (((conPtyOwnerOutcome_of_step hpty).advances hasked hbusy).join hjoin).1
    | reader action => rwa [(conPtyReaderOutcome_of_step hpty).owner_eq] at hjoin
    | caller action => rwa [(conPtyCallerOutcome_of_step hpty).same.1] at hjoin

/-- With `io_mutex_` free, `Stop` makes its next step towards the join. -/
theorem ConPty.exists_stepToJoin {pty : ConPty} (hcaller : pty.caller = .none)
    (hbefore : pty.owner.beforeJoin = true)
    (hjoin : ∀ restart taken, pty.owner ≠ .join restart taken) :
    ∃ action pty', pty.ownerStep action = some pty' ∧ pty'.caller = .none ∧
      pty'.owner.beforeJoin = true ∧ pty'.owner.work < pty.owner.work := by
  cases howner : pty.owner with
  | join restart taken => exact absurd howner (hjoin restart taken)
  | moveOut restart =>
    have hstep : pty.ownerStep .moveOut = some { pty with
        members := { pty.members with handles := {} }
        owner := .terminate restart pty.members.handles } := by
      simp [ConPty.ownerStep, howner, hcaller]
    have hwork := ConPtyOwner.work_terminate restart pty.members.handles
    refine ⟨_, _, hstep, hcaller, ConPtyOwner.beforeJoin_afterCalls _ _, ?_⟩
    rw [ConPtyOwner.work]
    exact Nat.lt_of_le_of_lt hwork (by omega)
  | calls first rest next =>
    have hstep : pty.ownerStep .call = some { pty with
        table := pty.table.perform first.effect, owner := next.afterCalls rest } := by
      simp [ConPty.ownerStep, howner]
    rw [howner] at hbefore
    refine ⟨_, _, hstep, hcaller, (ConPtyOwner.beforeJoin_afterCalls next rest).trans hbefore, ?_⟩
    simp only [ConPtyOwner.work_afterCalls, ConPtyOwner.work]
    omega
  | _ =>
    rw [howner] at hbefore
    cases hbefore

/-- While the reader stays between its test and `ReadFile`, `Stop` comes to its join. -/
theorem ConPtyReads.exists_join (hahead : reads.read = .ahead) (hcaller : reads.pty.caller = .none)
    (hbefore : reads.pty.owner.beforeJoin = true) :
    ∃ count last,
      Advance conPtyReadsSystem AnyReadOrder InCall Advances reads count last ∧
        last.read = .ahead ∧ ∃ restart taken, last.pty.owner = .join restart taken := by
  -- the steps of the owner that are left
  generalize hwork : reads.pty.owner.work = work
  induction work using Nat.strongRecOn generalizing reads with
  | ind work ih =>
    by_cases hjoin : ∃ restart taken, reads.pty.owner = .join restart taken
    · exact ⟨0, reads, .start, hahead, hjoin⟩
    · simp only [not_exists] at hjoin
      obtain ⟨action, pty, hpty, hcaller', hbefore', hless⟩ :=
        ConPty.exists_stepToJoin hcaller hbefore hjoin
      obtain ⟨next, hstep⟩ := exists_step_session reads (.owner action)
        (Option.isSome_iff_exists.mpr ⟨pty, hpty⟩) nofun
      obtain ⟨hnext, hread⟩ := step_session hstep
      obtain rfl : pty = next.pty := Option.some.inj (hpty.symm.trans hnext)
      have hahead' : next.read = .ahead := by
        rw [hread, readAfter_owner_eq_ahead]
        exact hahead
      obtain ⟨count, last, hrun, hlast⟩ := ih _ (hwork ▸ hless) hahead' hcaller' hbefore' rfl
      have hbusy : reads.InCall := by
        intro hready
        rw [hready] at hbefore
        cases hbefore
      have hfirst : Advance conPtyReadsSystem AnyReadOrder InCall Advances reads (0 + 1) next :=
        .advances .start hbusy trivial hstep trivial
      exact ⟨_, last, hfirst.trans hrun, hlast⟩

/-- A thread in `Write` or `Resize` can leave it, and the call that is under way stays there. -/
theorem ConPtyReads.exists_unlocked (hbusy : reads.InCall) :
    ∃ unlocked, Advance conPtyReadsSystem AnyReadOrder InCall Advances reads 0 unlocked ∧
      unlocked.read = reads.read ∧ unlocked.pty.owner = reads.pty.owner ∧
        unlocked.pty.caller = .none := by
  by_cases hcaller : reads.pty.caller = .none
  · exact ⟨reads, .start, rfl, rfl, hcaller⟩
  · have hstep : reads.step (.session (.caller .returns)) =
        some { reads with pty := { reads.pty with caller := .none } } := by
      cases hplace : reads.pty.caller with
      | none => exact absurd hplace hcaller
      | writeFile | resize =>
        simp [step, ConPtyAction.endsRead, ConPty.step, ConPty.callerStep, hplace, readAfter]
    exact ⟨_, .other .start hbusy trivial hstep id, rfl, rfl, rfl⟩

/-- A reader that has its `ReadFile` still to call when `Stop` begins can keep it at the join. -/
theorem ConPtyReads.exists_waitsForRead (hahead : reads.read = .ahead)
    (hbefore : reads.pty.owner.beforeJoin = true) :
    ∃ count last, Advance conPtyReadsSystem AnyReadOrder InCall Advances reads count last ∧
      last.WaitsForRead := by
  have hbusy : ∀ {reads : ConPtyReads}, reads.pty.owner.beforeJoin = true → reads.InCall := by
    intro reads hbefore hready
    rw [hready] at hbefore
    cases hbefore
  obtain ⟨unlocked, hfree, hread, howner, hcaller⟩ := exists_unlocked (hbusy hbefore)
  obtain ⟨count, last, hrun, hlast, hjoin⟩ :=
    exists_join (hread.trans hahead) hcaller (howner ▸ hbefore)
  have hjoins : last.pty.owner.beforeJoin = true := by
    obtain ⟨restart, taken, hjoin⟩ := hjoin
    rw [hjoin]
    rfl
  have hstep : last.step .callReadFile = some { last with read := .pending } := by
    rw [step, if_pos hlast]
  exact ⟨_, _, .advances (hfree.trans hrun) (hbusy hjoins) trivial hstep hjoins, hjoin, rfl⟩

end late

theorem conPtyReadsReachable_of_runSteps {reads : ConPtyReads} (actions : List ConPtyReadsAction)
    (hrun : TransitionSystem.runSteps ConPtyReads.step {} actions = some reads) :
    conPtyReadsSystem.Reachable AnyReadOrder reads := by
  apply TransitionSystem.Reachable.runSteps _ actions _ (.init rfl) hrun
  intro reads action reads' hstep
  exact ⟨trivial, hstep⟩

/-- A session whose reader has tested `stop_requested_`. -/
def readerTested : List ConPtyReadsAction :=
  (startConPty ++ [ConPtyAction.reader .testLoop]).map .session

end SakuraTerminal.Transport
