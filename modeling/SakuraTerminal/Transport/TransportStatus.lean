import SakuraTerminal.Transport.PtyLifecycle
import Mathlib.Data.List.Infix

/-!
# The status of a session

The state, the running flag and the three exit values of `PosixPtySession` are separate atomics,
stored by two threads and loaded one after another. `StatusInvariant` gives an assertion for each
point of either thread; a point with stores left to make has the assertion that holds after them.
`ReportInvariant` adds what `GetStatus` has loaded, and `Pty.Rests` says what `Stop` leaves.

`waitpid` without `WUNTRACED` delivers exited and signalled statuses only (`OnlyExits`).

The two threads store into the same atomics without a lock, so an invariant cannot relate the
members at every moment: between two stores of `RecordExitStatus` the exit values belong to no exit
at all. The assertions therefore speak of the members as they will be once the pending stores are
made, and a step that makes one of these stores changes nothing of what they say. Only one thread at
a time has stores pending.

A report is made of four loads, the state first. `Exited` is published after the exit values are
stored, so once it was loaded the values loaded later are final; a report of `Running` may mix them.
After `Stop` the values may be recorded by `Stop` itself, which is why nothing is said of reports
made then.
-/

set_option autoImplicit false

namespace SakuraTerminal.Transport

open SakuraTerminal.Foundations
open SakuraTerminal.Foundations.TransitionSystem

/-- `waitpid` delivers exited or signalled statuses. -/
def OnlyExits (_ : Pty) : PtyAction → Prop
  | .owner (.waitpid (.reaped .other) _) | .reader (.waitpid (.reaped .other)) => False
  | _ => True

instance (pty : Pty) (action : PtyAction) : Decidable (OnlyExits pty action) := by
  unfold OnlyExits
  split <;> infer_instance

/-- The states a session publishes, in order. A session need not reach the end of the list. -/
def StateMoves (published : List TransportState) : Prop :=
  published <+: [.starting, .failed] ∨ published <+: [.starting, .running, .exited] ∨
    published <+: [.starting, .running, .stopped]

/-- The status after the exit of a child for which the reader obtained a wait status. -/
def recordedStatus : Option WaitStatus → TransportStatus
  | some (.exited code) => ⟨.exited, code, 0, true⟩
  | some (.signaled signal) => ⟨.exited, -1, signal, true⟩
  | some .other | none => ⟨.exited, -1, 0, false⟩

/-- Before `Stop`, a report of `Exited` carries what the reader recorded, and is repeated.
`obtained` is what the reader's `waitpid` delivered, which may be nothing. -/
structure PtyLog.ExitsReported (log : PtyLog) : Prop where
  recorded : ∀ report ∈ log.reports, report.status.state = .exited → report.afterStop = false →
    report.status = recordedStatus log.obtained
  valid : ∀ report ∈ log.reports, report.status.state = .exited → report.afterStop = false →
    log.obtained ≠ none → report.status.exitCodeValid = true
  repeated : log.reports.Pairwise fun earlier later =>
    earlier.status.state = .exited → later.afterStop = false → later.status = earlier.status

/-! ## States -/

/-- What a session outside of `Start` has published. It was never started, failed to start, is
running, or has ended. -/
def Settled (published : List TransportState) : Prop :=
  published = [] ∨ published = [.starting, .failed] ∨ published = [.starting, .running] ∨
    published = [.starting, .running, .exited] ∨ published = [.starting, .running, .stopped]

/-- The members that `Stop` leaves. A second `Stop` stores what is there already. -/
structure PtyMembers.Quiet (members : PtyMembers) : Prop where
  stopRequested : members.stopRequested = true
  running : members.running = false
  state : members.state = .stopped ∨ members.state = .exited ∨ members.state = .failed
  masterFd : members.masterFd = -1
  childPid : members.childPid = -1

/-- The members after several stores. -/
def PtyMembers.storeAll (members : PtyMembers) (stores : List AtomicStore) : PtyMembers :=
  stores.foldl PtyMembers.store members

/-- The states among the values stored. -/
def storedStates : List AtomicStore → List TransportState
  | [] => []
  | .state value :: stores => value :: storedStates stores
  | _ :: stores => storedStates stores

/-- What the owner relies on at a point. The states published so far decide which one may come
next. -/
def OwnerPoint.StatusAssertion (members : PtyMembers) (published : List TransportState) :
    OwnerPoint → Prop
  | .readChild _ | .join _ _ | .close _ _ | .signalGroup _ .hup _ | .signalProcess _ .hup _ =>
    Settled published ∧ members.stopRequested = true
  | .signalGroup _ _ _ | .signalProcess _ _ _ | .waitForChild _ _ _ =>
    Settled published ∧ members.stopRequested = true ∧ members.masterFd = -1 ∧
      members.childPid = -1
  | .loadState _ =>
    Settled published ∧ members.stopRequested = true ∧ members.masterFd = -1 ∧
      members.childPid = -1 ∧ members.running = false
  | .stopped _ | .begin => Settled published ∧ members.Quiet
  | .fork | .fail | .adopt _ _ => published = [.starting]
  | .spawn => published = [.starting, .running]
  | .store first rest next =>
    next.alone = true ∧ next.StatusAssertion (members.storeAll (first :: rest))
      (published ++ storedStates (first :: rest))
  | .ready | .loadExitCode _ | .loadExitSignal _ _ | .loadExitCodeValid _ _ _ => Settled published

/-- A store of `RecordExitStatus`. -/
def AtomicStore.ofExit : AtomicStore → Bool
  | .exitCode _ | .exitSignal _ | .exitCodeValid _ => true
  | _ => false

/-- What the reader relies on at a point. -/
def ReaderPoint.StatusAssertion (published : List TransportState) : ReaderPoint → Prop
  | .none => True
  | .record _ stores =>
    published = [.starting, .running] ∧ ∀ store ∈ stores, store.ofExit = true
  | .clear | .finished =>
    published = [.starting, .running] ∨ published = [.starting, .running, .exited]
  | _ => published = [.starting, .running]

/-- What the state, the states published and the points of both threads have to do with each
other. -/
structure StatusInvariant (pty : Pty) : Prop where
  state : pty.members.state = pty.log.published.getLast?.getD .stopped
  owner : pty.owner.StatusAssertion pty.members pty.log.published
  reader : pty.reader.StatusAssertion pty.log.published

theorem ofExit_recordExitStatus (status : WaitStatus) :
    ∀ store ∈ recordExitStatus status, store.ofExit = true := by
  cases status <;> simp [recordExitStatus, AtomicStore.ofExit]

/-- A store of an exit value touches neither the state nor what the assertions speak of. -/
theorem PtyMembers.store_ofExit {store : AtomicStore} (hexit : store.ofExit = true)
    (members : PtyMembers) :
    (members.store store).stopRequested = members.stopRequested ∧
      (members.store store).state = members.state := by
  cases store with
  | exitCode | exitSignal | exitCodeValid => exact ⟨rfl, rfl⟩
  | stopRequested | running | state => contradiction

theorem Pty.store_published (pty : Pty) (store : AtomicStore) :
    (pty.store store).log.published = pty.log.published ++ storedStates [store] := by
  cases store with
  | state value => rfl
  | stopRequested | running | exitCode | exitSignal | exitCodeValid =>
    exact (List.append_nil _).symm

/-- The state published last is the state. -/
theorem Pty.store_state {pty : Pty} (store : AtomicStore)
    (h : pty.members.state = pty.log.published.getLast?.getD .stopped) :
    (pty.store store).members.state = (pty.store store).log.published.getLast?.getD .stopped := by
  cases store with
  | state value => simp [Pty.store, PtyMembers.store]
  | stopRequested | running | exitCode | exitSignal | exitCodeValid => exact h

theorem Pty.store_published_ofExit {store : AtomicStore} (hexit : store.ofExit = true)
    (pty : Pty) : (pty.store store).log.published = pty.log.published := by
  cases store with
  | exitCode | exitSignal | exitCodeValid => rfl
  | stopRequested | running | state => contradiction

theorem storedStates_cons (store : AtomicStore) (stores : List AtomicStore) :
    storedStates (store :: stores) = storedStates [store] ++ storedStates stores := by
  cases store <;> rfl

/-- While the owner is not alone, the reader cannot break its assertion. -/
theorem OwnerPoint.StatusAssertion.ofReader {members members' : PtyMembers}
    {published published' : List TransportState} {owner : OwnerPoint}
    (h : owner.StatusAssertion members published) (halone : owner.alone = false)
    (hstop : members'.stopRequested = members.stopRequested)
    (hsettled : Settled published → Settled published') :
    owner.StatusAssertion members' published' := by
  cases owner with
  | signalGroup _ signal _ | signalProcess _ signal _ =>
    cases signal with
    | hup => exact ⟨hsettled h.1, hstop.trans h.2⟩
    | term | kill => contradiction
  | readChild | join => exact ⟨hsettled h.1, hstop.trans h.2⟩
  | ready | loadExitCode | loadExitSignal | loadExitCodeValid => exact hsettled h
  | store first rest next =>
    have hnext : next.alone = true := h.1
    rw [show next.alone = false from halone] at hnext
    contradiction
  | close | waitForChild | loadState | stopped | begin | fork | fail | adopt | spawn =>
    contradiction

theorem OwnerPoint.assertion_endStop {members : PtyMembers} {published : List TransportState}
    (hsettled : Settled published) (hstop : members.stopRequested = true)
    (hfd : members.masterFd = -1) (hchild : members.childPid = -1) (restart : Bool) :
    (OwnerPoint.endStop restart).StatusAssertion members published := by
  refine ⟨rfl, ?_, hstop, hfd, hchild, rfl⟩
  change Settled (published ++ [])
  rw [List.append_nil]
  exact hsettled

/-- The stores of `RecordExitStatus` are in nobody's way. -/
theorem OwnerPoint.assertion_recordStop {members : PtyMembers} {published : List TransportState}
    (hsettled : Settled published) (hstop : members.stopRequested = true)
    (hfd : members.masterFd = -1) (hchild : members.childPid = -1) (restart : Bool)
    (status : WaitStatus) :
    (OwnerPoint.recordStop restart status).StatusAssertion members published := by
  cases status with
  | exited | signaled =>
    refine ⟨rfl, OwnerPoint.assertion_endStop ?_ hstop hfd hchild restart⟩
    simpa [storedStates] using hsettled
  | other => exact OwnerPoint.assertion_endStop hsettled hstop hfd hchild restart

/-- `Stop` stores `Stopped` over nothing but `Running`. -/
theorem Settled.running {published : List TransportState} (h : Settled published)
    (hstate : published.getLast?.getD .stopped = .starting ∨
      published.getLast?.getD .stopped = .running) :
    published = [.starting, .running] := by
  rcases h with rfl | rfl | rfl | rfl | rfl
  · simp at hstate
  · simp at hstate
  · rfl
  · simp at hstate
  · simp at hstate

theorem Settled.ended {published : List TransportState} {state : TransportState}
    (h : Settled published) (hlast : state = published.getLast?.getD .stopped)
    (hstate : ¬(state = .starting ∨ state = .running)) :
    state = .stopped ∨ state = .exited ∨ state = .failed := by
  rcases h with rfl | rfl | rfl | rfl | rfl
  · exact .inl hlast
  · exact .inr (.inr hlast)
  · exact absurd (.inr hlast) hstate
  · exact .inr (.inl hlast)
  · exact .inl hlast

namespace StatusInvariant

variable {pty pty' : Pty}

theorem setOwner (h : StatusInvariant pty) (owner : OwnerPoint)
    (howner : owner.StatusAssertion pty.members pty.log.published) :
    StatusInvariant { pty with owner } where
  state := h.state
  owner := howner
  reader := h.reader

theorem setReader (h : StatusInvariant pty) (reader : ReaderPoint)
    (hreader : reader.StatusAssertion pty.log.published) : StatusInvariant { pty with reader } where
  state := h.state
  owner := h.owner
  reader := hreader

/-- A step of the reader. It publishes `Exited` over `Running` only, and its other stores are exit
values. -/
theorem readerStep {action : ReaderAction} (h : StatusInvariant pty) (halone : pty.Alone)
    (hstep : ReaderOutcome pty action pty') : StatusInvariant pty' := by
  have hnot := hstep.owner_alone halone
  -- what the reader knows at its point
  have known : ∀ {reader}, pty.reader = reader → reader.StatusAssertion pty.log.published := by
    rintro _ rfl
    exact h.reader
  cases hstep with
  | stays hreader | asked hreader | goOn hreader | readFails hreader | exits hreader
  | finds hreader | findsNone hreader | notYet _ hreader | waitFails _ hreader
  | givesUp _ hreader | waits _ hreader =>
    have hpublished := known hreader
    exact h.setReader _ hpublished
  | marksNone _ hreader =>
    have hpublished := known hreader
    exact h.setReader _ hpublished.1
  | leaves hreader =>
    have hpublished := known hreader
    exact h.setReader _ (.inl hpublished)
  | interrupted => exact h
  | reaps child status hreader =>
    have hpublished := known hreader
    exact ⟨h.state, h.owner, hpublished, ofExit_recordExitStatus status⟩
  | store child first rest hreader =>
    obtain ⟨hpublished, hexit⟩ := known hreader
    have hfirst : first.ofExit = true := hexit first List.mem_cons_self
    have hsame := Pty.store_published_ofExit hfirst pty
    constructor
    case state => exact pty.store_state first h.state
    case owner =>
      apply h.owner.ofReader hnot (PtyMembers.store_ofExit hfirst pty.members).1
      intro hsettled
      exact hsame.symm ▸ hsettled
    case reader =>
      exact ⟨hsame.trans hpublished, fun store hmem => hexit store (List.mem_cons_of_mem _ hmem)⟩
  | marks child hreader =>
    have hpublished := known hreader
    exact ⟨h.state, h.owner.ofReader hnot rfl id, hpublished.1⟩
  | publish hreader =>
    have hpublished : pty.log.published = [.starting, .running] := known hreader
    have hexited : (pty.store (.state .exited)).log.published =
        [.starting, .running, .exited] := by
      rw [Pty.store_published, hpublished]
      rfl
    constructor
    case state => exact pty.store_state (.state .exited) h.state
    case owner => exact h.owner.ofReader hnot rfl fun _ => .inr (.inr (.inr (.inl hexited)))
    case reader => exact .inr hexited
  | clear hreader =>
    have hpublished := known hreader
    exact ⟨h.state, h.owner.ofReader hnot rfl id, hpublished⟩

/-- A step of the owner, one case for each constructor of its outcome. The published states grow by
what it stores into `state_`. -/
theorem ownerStep {action : OwnerAction} (h : StatusInvariant pty) (halone : pty.Alone)
    (hstep : OwnerOutcome pty action pty') : StatusInvariant pty' := by
  -- what the owner knows at its point
  have known : ∀ {owner}, pty.owner = owner →
      owner.StatusAssertion pty.members pty.log.published := by
    rintro _ rfl
    exact h.owner
  -- a point at which the owner is alone leaves no reader that relies on anything
  have without : ∀ {owner} {published}, pty.owner = owner → owner.alone = true →
      pty.reader.StatusAssertion published := by
    rintro _ _ rfl hat
    rw [halone hat]
    trivial
  cases hstep with
  | stop howner | start howner =>
    have hsettled := known howner
    exact ⟨h.state, ⟨hsettled, rfl⟩, h.reader⟩
  | hangUp _ howner | goJoin _ howner | fork _ _ howner | forkFails howner | getStatus howner
  | loadExitCode _ howner | loadExitSignal _ _ howner =>
    have hknown := known howner
    exact h.setOwner _ hknown
  | signalGroup restart signal child howner | signalProcess restart signal child howner
  | noGroup restart signal child howner =>
    have hknown := known howner
    cases signal with
    | hup | term | kill => exact ⟨h.state, hknown, h.reader⟩
  | join restart child howner =>
    have hknown := known howner
    exact ⟨h.state, hknown, trivial⟩
  | closeAndWait restart child howner =>
    have hknown := known howner
    exact ⟨h.state, ⟨hknown.1, hknown.2, rfl, rfl⟩, h.reader⟩
  | close restart child howner =>
    obtain ⟨hsettled, hstop⟩ := known howner
    constructor
    case state => exact h.state
    case owner =>
      apply OwnerPoint.assertion_endStop hsettled
      · exact hstop
      · rfl
      · rfl
    case reader => exact h.reader
  | reaps restart signal child status expired howner =>
    obtain ⟨hsettled, hstop, hfd, hchild⟩ := known howner
    exact ⟨h.state, OwnerPoint.assertion_recordStop hsettled hstop hfd hchild restart status,
      h.reader⟩
  | timesOut restart signal child expired howner =>
    have hknown := known howner
    cases signal with
    | hup | term => exact h.setOwner _ hknown
    | kill =>
      obtain ⟨hsettled, hstop, hfd, hchild⟩ := hknown
      exact h.setOwner _ (OwnerPoint.assertion_endStop hsettled hstop hfd hchild restart)
  | polls => exact h
  | waitFails restart signal child expired howner =>
    obtain ⟨hsettled, hstop, hfd, hchild⟩ := known howner
    exact h.setOwner _ (OwnerPoint.assertion_endStop hsettled hstop hfd hchild restart)
  | lastStore first next howner =>
    obtain ⟨hnext, hafter⟩ := known howner
    constructor
    case state => exact pty.store_state first h.state
    case owner =>
      rw [pty.store_published first]
      exact hafter
    case reader => exact without howner hnext
  | store first second rest next howner =>
    obtain ⟨hnext, hafter⟩ := known howner
    constructor
    case state => exact pty.store_state first h.state
    case owner =>
      refine ⟨hnext, ?_⟩
      rw [pty.store_published first, List.append_assoc, ← storedStates_cons]
      exact hafter
    case reader => exact without howner hnext
  | notOver restart howner hstate =>
    obtain ⟨hsettled, hstop, hfd, hchild, hrunning⟩ := known howner
    rw [h.state] at hstate
    refine h.setOwner _ ⟨rfl, ?_, ⟨hstop, hrunning, .inl rfl, hfd, hchild⟩⟩
    rw [hsettled.running hstate]
    exact .inr (.inr (.inr (.inr rfl)))
  | ended restart howner hstate =>
    obtain ⟨hsettled, hstop, hfd, hchild, hrunning⟩ := known howner
    exact h.setOwner _ ⟨hsettled, hstop, hrunning, hsettled.ended h.state hstate, hfd, hchild⟩
  | returns restart howner =>
    have hknown := known howner
    cases restart with
    | true => exact ⟨h.state, hknown, h.reader⟩
    | false => exact ⟨h.state, hknown.1, h.reader⟩
  | begin howner => exact ⟨rfl, ⟨rfl, rfl⟩, without howner rfl⟩
  | fail howner =>
    have hpublished : pty.log.published = [.starting] := known howner
    have hfailed : (pty.store (.state .failed)).log.published = [.starting, .failed] := by
      rw [pty.store_published, hpublished]
      rfl
    exact ⟨pty.store_state (.state .failed) h.state, .inr (.inl hfailed), without howner rfl⟩
  | adopt master child howner =>
    have hpublished : pty.log.published = [.starting] := known howner
    refine ⟨h.state, ⟨rfl, ?_⟩, h.reader⟩
    rw [hpublished]
    rfl
  | spawn howner =>
    have hpublished : pty.log.published = [.starting, .running] := known howner
    exact ⟨h.state, .inr (.inr (.inl hpublished)), hpublished⟩
  | report state exitCode exitSignal howner =>
    have hsettled := known howner
    exact ⟨h.state, hsettled, h.reader⟩

end StatusInvariant

theorem statusInvariant_of_reachable {allowed : Pty → PtyAction → Prop} {pty : Pty}
    (hreachable : ptySystem.Reachable allowed pty) : StatusInvariant pty := by
  apply TransitionSystem.Reachable.invariant _ _ hreachable
  · rintro _ rfl
    exact ⟨rfl, .inl rfl, trivial⟩
  · intro pty action pty' hpty ih _ hstep
    have halone := alone_of_reachable hpty
    cases action with
    | owner action => exact ih.ownerStep halone (ownerOutcome_of_step hstep)
    | reader action => exact ih.readerStep halone (readerOutcome_of_step hstep)

theorem Settled.stateMoves {published : List TransportState} (h : Settled published) :
    StateMoves published := by
  rcases h with rfl | rfl | rfl | rfl | rfl <;> rw [StateMoves] <;> decide

theorem StateMoves.of_append {published later : List TransportState}
    (h : StateMoves (published ++ later)) : StateMoves published := by
  have hbegins := List.prefix_append published later
  rcases h with h | h | h
  · exact .inl (hbegins.trans h)
  · exact .inr (.inl (hbegins.trans h))
  · exact .inr (.inr (hbegins.trans h))

/-- The assertion at any point bounds what was published before. -/
theorem OwnerPoint.StatusAssertion.stateMoves {members : PtyMembers}
    {published : List TransportState} {owner : OwnerPoint}
    (h : owner.StatusAssertion members published) : StateMoves published := by
  induction owner generalizing members published with
  | store first rest next ih => exact (ih h.2).of_append
  | ready | loadExitCode | loadExitSignal | loadExitCodeValid => exact Settled.stateMoves h
  | readChild | join | close | waitForChild | loadState | stopped | begin => exact h.1.stateMoves
  | signalGroup _ signal _ | signalProcess _ signal _ =>
    cases signal with
    | hup | term | kill => exact h.1.stateMoves
  | fork | fail | adopt =>
    rw [show published = [.starting] from h]
    exact .inl (by decide)
  | spawn =>
    rw [show published = [.starting, .running] from h]
    exact .inr (.inl (by decide))

/-- What holds of the current session held of those before it when they ended. -/
theorem stateMoves_of_reachable {allowed : Pty → PtyAction → Prop} {pty : Pty}
    (hreachable : ptySystem.Reachable allowed pty) :
    ∀ log ∈ pty.log :: pty.ended, StateMoves log.published := by
  induction hreachable with
  | init hinit =>
    rw [show _ = ({} : Pty) from hinit]
    intro log hlog
    rw [List.mem_singleton.mp hlog]
    exact Settled.stateMoves (.inl rfl)
  | step hpty hallowed hstep ih =>
    have hlog := (statusInvariant_of_reachable (.step hpty hallowed hstep)).owner.stateMoves
    refine List.forall_mem_cons.mpr ⟨hlog, ?_⟩
    rcases ended_of_step hstep with hended | hended
    · rw [hended]
      exact (List.forall_mem_cons.mp ih).2
    · rw [hended]
      exact ih

/-! ## Reports -/

/-- The exit values, as `GetStatus` reports them after `Exited`. -/
def PtyMembers.exitStatus (members : PtyMembers) : TransportStatus :=
  ⟨.exited, members.exitCode, members.exitSignal, members.exitCodeValid⟩

/-- The stores left to make. -/
def OwnerPoint.pending : OwnerPoint → List AtomicStore
  | .store first rest next => first :: rest ++ next.pending
  | _ => []

/-- The same for the reader. -/
def ReaderPoint.pending : ReaderPoint → List AtomicStore
  | .record _ stores => stores
  | _ => []

/-- The stores left to make on either thread, of which one list is always empty. -/
def Pty.pending (pty : Pty) : List AtomicStore := pty.owner.pending ++ pty.reader.pending

/-- The points of `Stop`. -/
def OwnerPoint.stopping : OwnerPoint → Bool
  | .readChild _ | .signalGroup _ _ _ | .signalProcess _ _ _ | .join _ _ | .close _ _
  | .waitForChild _ _ _ | .loadState _ | .stopped _ => true
  | .store _ _ next => next.stopping
  | _ => false

/-- The session has published `Exited`, which is then the last of its states. -/
def PtyLog.Exited (log : PtyLog) : Prop := log.published = [.starting, .running, .exited]

/-- What was loaded from `state_` is `Exited` only if that was published, and whenever that was
reported before. -/
def PtyLog.Loaded (log : PtyLog) (state : TransportState) : Prop :=
  (state = .exited → log.Exited) ∧
    ((∃ report ∈ log.reports, report.status.state = .exited) → state = .exited)

/-- What `GetStatus` has loaded. It promises something of the exit values only where the state
loaded first was `Exited`. -/
def OwnerPoint.LoadAssertion (log : PtyLog) : OwnerPoint → Prop
  | .loadExitCode state => log.Loaded state
  | .loadExitSignal state exitCode =>
    log.Loaded state ∧ (state = .exited → log.stopCalled = false →
      exitCode = (recordedStatus log.obtained).exitCode)
  | .loadExitCodeValid state exitCode exitSignal =>
    log.Loaded state ∧ (state = .exited → log.stopCalled = false →
      exitCode = (recordedStatus log.obtained).exitCode ∧
        exitSignal = (recordedStatus log.obtained).exitSignal)
  | _ => True

/-- What `GetStatus` has reported and what it has loaded, in relation to what was recorded. -/
structure ReportInvariant (pty : Pty) : Prop where
  obtained : pty.log.obtained ≠ some .other
  stopping : pty.owner.stopping = true → pty.log.stopCalled = true
  /-- Before `Stop` the exit values are the recorded ones, up to the stores left to make. -/
  exit : pty.log.stopCalled = false →
    (pty.members.storeAll pty.pending).exitStatus = recordedStatus pty.log.obtained
  loading : pty.owner.LoadAssertion pty.log
  exited : ∀ report ∈ pty.log.reports, report.status.state = .exited → pty.log.Exited
  before : pty.log.stopCalled = false → ∀ report ∈ pty.log.reports, report.afterStop = false
  reported : ∀ log ∈ pty.log :: pty.ended, log.ExitsReported

/-- Before `Exited` is published, nothing was loaded or reported that a step could make wrong. -/
theorem OwnerPoint.LoadAssertion.change {log log' : PtyLog} {owner : OwnerPoint}
    (h : owner.LoadAssertion log) (hrunning : log.published = [.starting, .running])
    (hreports : log'.reports = log.reports) : owner.LoadAssertion log' := by
  have hnot : ¬log.Exited := by
    rw [PtyLog.Exited, hrunning]
    decide
  have hloaded : ∀ {state}, log.Loaded state → state ≠ .exited ∧ log'.Loaded state := by
    intro state hstate
    have hne : state ≠ .exited := fun heq => hnot (hstate.1 heq)
    refine ⟨hne, fun heq => absurd heq hne, ?_⟩
    rw [hreports]
    exact hstate.2
  cases owner with
  | loadExitCode state => exact (hloaded h).2
  | loadExitSignal state exitCode =>
    exact ⟨(hloaded h.1).2, fun heq => absurd heq (hloaded h.1).1⟩
  | loadExitCodeValid state exitCode exitSignal =>
    exact ⟨(hloaded h.1).2, fun heq => absurd heq (hloaded h.1).1⟩
  | _ => trivial

/-- What stores leave in the exit values depends on these alone. -/
theorem exitStatus_storeAll {members members' : PtyMembers}
    (h : members.exitStatus = members'.exitStatus) (stores : List AtomicStore) :
    (members.storeAll stores).exitStatus = (members'.storeAll stores).exitStatus := by
  induction stores generalizing members members' with
  | nil => exact h
  | cons store stores ih =>
    apply ih
    obtain ⟨-, hcode, hsignal, hvalid⟩ := TransportStatus.mk.inj h
    cases store <;> simp [PtyMembers.exitStatus, PtyMembers.store, hcode, hsignal, hvalid]

theorem exitStatus_recordExitStatus (members : PtyMembers) {status : WaitStatus}
    (hstatus : status ≠ .other) :
    (members.storeAll (recordExitStatus status)).exitStatus = recordedStatus (some status) := by
  cases status with
  | exited | signaled => rfl
  | other => contradiction

theorem exitCodeValid_recordedStatus {obtained : Option WaitStatus}
    (hstatus : obtained ≠ some .other) (hsome : obtained ≠ none) :
    (recordedStatus obtained).exitCodeValid = true := by
  cases obtained with
  | none => contradiction
  | some status =>
    cases status with
    | exited | signaled => rfl
    | other => contradiction

/-- With the owner not alone, only the reader has stores left. -/
theorem OwnerPoint.StatusAssertion.pending {members : PtyMembers}
    {published : List TransportState} {owner : OwnerPoint}
    (h : owner.StatusAssertion members published) (halone : owner.alone = false) :
    owner.pending = [] := by
  cases owner with
  | store first rest next =>
    have hnext : next.alone = true := h.1
    rw [show next.alone = false from halone] at hnext
    contradiction
  | _ => rfl

theorem Pty.store_log_ofExit {store : AtomicStore} (hexit : store.ofExit = true) (pty : Pty) :
    (pty.store store).log = pty.log := by
  cases store with
  | exitCode | exitSignal | exitCodeValid => rfl
  | stopRequested | running | state => contradiction

/-- Logs that differ in what `GetStatus` has no part in. Steps that neither report nor obtain a
status lead from one to the other. -/
structure PtyLog.SameReports (log log' : PtyLog) : Prop where
  obtained : log'.obtained = log.obtained
  stopCalled : log'.stopCalled = log.stopCalled
  reports : log'.reports = log.reports
  exited : log.Exited → log'.Exited

theorem Pty.store_sameReports (pty : Pty) (store : AtomicStore)
    (hexited : pty.log.Exited → (pty.store store).log.Exited) :
    pty.log.SameReports (pty.store store).log := by
  cases store <;> exact ⟨rfl, rfl, rfl, hexited⟩

/-- `Exited` is published last. -/
theorem PtyLog.Exited.of_stateMoves {log : PtyLog} (h : log.Exited) {stores : List AtomicStore}
    (hmoves : StateMoves (log.published ++ storedStates stores)) : storedStates stores = [] := by
  rw [h] at hmoves
  rcases hmoves with hfailed | hexited | hstopped
  · simp at hfailed
  · simpa using hexited
  · simp at hstopped

theorem Settled.exited {published : List TransportState} (h : Settled published)
    (hlast : published.getLast?.getD .stopped = .exited) :
    published = [.starting, .running, .exited] := by
  rcases h with rfl | rfl | rfl | rfl | rfl
  · simp at hlast
  · simp at hlast
  · simp at hlast
  · rfl
  · simp at hlast

/-- A session that has published `Exited` stores no other state. -/
theorem StatusInvariant.exited_store {pty : Pty} (h : StatusInvariant pty) {first : AtomicStore}
    {rest : List AtomicStore} {next : OwnerPoint} (howner : pty.owner = .store first rest next)
    (hexited : pty.log.Exited) : (pty.store first).log.Exited := by
  have hassertion := h.owner
  rw [howner] at hassertion
  have hnone := hexited.of_stateMoves hassertion.2.stateMoves
  rw [storedStates_cons, List.append_eq_nil_iff] at hnone
  rw [PtyLog.Exited, pty.store_published first, hnone.1, List.append_nil]
  exact hexited

/-- A reader that has published `Exited` has no stores left. -/
theorem ReaderPoint.StatusAssertion.pending {log : PtyLog} {reader : ReaderPoint}
    (h : reader.StatusAssertion log.published) (hexited : log.Exited) : reader.pending = [] := by
  cases reader with
  | record child stores =>
    have hrunning := h.1
    rw [hexited] at hrunning
    contradiction
  | _ => rfl

theorem OwnerPoint.LoadAssertion.ofAlone {owner : OwnerPoint} (halone : owner.alone = true)
    (log : PtyLog) : owner.LoadAssertion log := by
  cases owner with
  | loadExitCode | loadExitSignal | loadExitCodeValid => contradiction
  | _ => trivial

/-- Where no report was `Exited`, the rest of the log may change. -/
theorem PtyLog.ExitsReported.change {log log' : PtyLog} (h : log.ExitsReported)
    (hunreported : ∀ report ∈ log.reports, report.status.state ≠ .exited)
    (hreports : log'.reports = log.reports) : log'.ExitsReported := by
  constructor
  case recorded =>
    intro report hmem hexited
    rw [hreports] at hmem
    exact absurd hexited (hunreported report hmem)
  case valid =>
    intro report hmem hexited
    rw [hreports] at hmem
    exact absurd hexited (hunreported report hmem)
  case repeated =>
    rw [hreports]
    exact h.repeated

namespace ReportInvariant

variable {pty pty' : Pty}

/-- While the session runs, no report was `Exited`. -/
theorem unreported (h : ReportInvariant pty)
    (hrunning : pty.log.published = [.starting, .running]) :
    ∀ report ∈ pty.log.reports, report.status.state ≠ .exited := by
  intro report hmem hstate
  have hexited : pty.log.Exited := h.exited report hmem hstate
  rw [PtyLog.Exited, hrunning] at hexited
  contradiction

theorem reported_change (h : ReportInvariant pty) {log : PtyLog}
    (hrunning : pty.log.published = [.starting, .running])
    (hreports : log.reports = pty.log.reports) :
    ∀ other ∈ log :: pty.ended, other.ExitsReported := by
  obtain ⟨hlog, hended⟩ := List.forall_mem_cons.mp h.reported
  exact List.forall_mem_cons.mpr ⟨hlog.change (h.unreported hrunning) hreports, hended⟩

/-- A step that may publish and signal, but neither reports nor obtains anything. -/
theorem keepReports (h : ReportInvariant pty) (hlog : pty.log.SameReports pty'.log)
    (hended : pty'.ended = pty.ended)
    (hstopping : pty'.owner.stopping = true → pty.log.stopCalled = true)
    (hexit : pty.log.stopCalled = false →
      (pty'.members.storeAll pty'.pending).exitStatus =
        (pty.members.storeAll pty.pending).exitStatus)
    (hloading : pty'.owner.LoadAssertion pty'.log) : ReportInvariant pty' := by
  obtain ⟨hobtained, hcalled, hreports, hexited⟩ := hlog
  constructor
  case obtained =>
    rw [hobtained]
    exact h.obtained
  case stopping =>
    rw [hcalled]
    exact hstopping
  case exit =>
    rw [hcalled, hobtained]
    exact fun hnot => (hexit hnot).trans (h.exit hnot)
  case loading => exact hloading
  case exited =>
    rw [hreports]
    exact fun report hmem hstate => hexited (h.exited report hmem hstate)
  case before =>
    rw [hcalled, hreports]
    exact h.before
  case reported =>
    obtain ⟨hlog, hothers⟩ := List.forall_mem_cons.mp h.reported
    rw [hended]
    refine List.forall_mem_cons.mpr ⟨⟨?_, ?_, ?_⟩, hothers⟩
    · rw [hreports, hobtained]
      exact hlog.recorded
    · rw [hreports, hobtained]
      exact hlog.valid
    · rw [hreports]
      exact hlog.repeated

/-- A step within `Stop`, where nothing is promised of the exit values. -/
theorem stopStep (h : ReportInvariant pty) (hlog : pty.log.SameReports pty'.log)
    (hended : pty'.ended = pty.ended) (hstopping : pty.owner.stopping = true)
    (hloading : pty'.owner.LoadAssertion pty'.log) : ReportInvariant pty' := by
  have hcalled := h.stopping hstopping
  apply h.keepReports hlog hended (fun _ => hcalled) ?_ hloading
  intro hnot
  rw [hcalled] at hnot
  contradiction

/-- `GetStatus` returns. -/
theorem appendReport (h : ReportInvariant pty) {status : TransportStatus}
    (hpending : pty.owner.pending = [])
    (hstatus : status.state = .exited → pty.log.stopCalled = false →
      status = recordedStatus pty.log.obtained)
    (hloaded : pty.log.Loaded status.state) :
    ReportInvariant { pty with
      owner := .ready
      log := { pty.log with
        reports := pty.log.reports ++ [⟨status, pty.log.stopCalled⟩] } } := by
  obtain ⟨hlog, hothers⟩ := List.forall_mem_cons.mp h.reported
  constructor
  case obtained => exact h.obtained
  case stopping => exact Bool.noConfusion
  case exit =>
    intro hcalled
    have hexit := h.exit hcalled
    rw [Pty.pending, hpending] at hexit
    exact hexit
  case loading => trivial
  case exited =>
    intro report hmem hexited
    rcases List.mem_append.mp hmem with hold | hnew
    · exact h.exited report hold hexited
    · cases List.mem_singleton.mp hnew
      exact hloaded.1 hexited
  case before =>
    intro hcalled report hmem
    rcases List.mem_append.mp hmem with hold | hnew
    · exact h.before hcalled report hold
    · cases List.mem_singleton.mp hnew
      exact hcalled
  case reported =>
    refine List.forall_mem_cons.mpr ⟨⟨?_, ?_, ?_⟩, hothers⟩
    · intro report hmem hexited hafter
      rcases List.mem_append.mp hmem with hold | hnew
      · exact hlog.recorded report hold hexited hafter
      · cases List.mem_singleton.mp hnew
        exact hstatus hexited hafter
    · intro report hmem hexited hafter hobtained
      rcases List.mem_append.mp hmem with hold | hnew
      · exact hlog.valid report hold hexited hafter hobtained
      · cases List.mem_singleton.mp hnew
        change status.exitCodeValid = true
        rw [hstatus hexited hafter]
        exact exitCodeValid_recordedStatus h.obtained hobtained
    · apply List.pairwise_append.mpr
      refine ⟨hlog.repeated, List.pairwise_singleton _ _, ?_⟩
      intro earlier hearlier later hlater hexited hafter
      cases List.mem_singleton.mp hlater
      -- both reports are before `Stop`, and carry the recorded status
      have hstate := hloaded.2 ⟨earlier, hearlier, hexited⟩
      rw [hlog.recorded earlier hearlier hexited (h.before hafter earlier hearlier)]
      exact hstatus hstate hafter

/-- A step of the reader, with what `GetStatus` has loaded beside it. The step that publishes
`Exited` is the one after which a report may say so. -/
theorem readerStep {action : ReaderAction} (h : ReportInvariant pty) (hstatus : StatusInvariant pty)
    (halone : pty.Alone) (hallowed : OnlyExits pty (.reader action))
    (hstep : ReaderOutcome pty action pty') : ReportInvariant pty' := by
  have hnot := hstep.owner_alone halone
  have howner : pty.owner.pending = [] := hstatus.owner.pending hnot
  -- what the reader knows at its point
  have known : ∀ {reader}, pty.reader = reader → reader.StatusAssertion pty.log.published := by
    rintro _ rfl
    exact hstatus.reader
  have pending : ∀ {reader}, pty.reader = reader → pty.pending = reader.pending := by
    rintro _ rfl
    rw [Pty.pending, howner]
    rfl
  -- the owner has no stores left, so only those of the reader count
  have exitStatus : ∀ {reader reader' : ReaderPoint} {members' : PtyMembers}, pty.reader = reader →
      (members'.storeAll reader'.pending).exitStatus =
        (pty.members.storeAll reader.pending).exitStatus →
      (members'.storeAll (pty.owner.pending ++ reader'.pending)).exitStatus =
        (pty.members.storeAll pty.pending).exitStatus := by
    intro reader reader' members' hreader hsame
    rw [pending hreader, howner]
    exact hsame
  cases hstep with
  | stays hreader | asked hreader | goOn hreader | readFails hreader | exits hreader
  | leaves hreader | finds hreader | findsNone hreader | notYet _ hreader | waitFails _ hreader
  | givesUp _ hreader | waits _ hreader | marksNone _ hreader | marks _ hreader =>
    exact h.keepReports ⟨rfl, rfl, rfl, id⟩ rfl h.stopping (fun _ => exitStatus hreader rfl)
      h.loading
  | interrupted => exact h
  | reaps child status hreader =>
    have hrunning : pty.log.published = [.starting, .running] := known hreader
    have hother : status ≠ .other := by
      rintro rfl
      exact hallowed
    constructor
    case obtained => exact fun heq => hother (Option.some.inj heq)
    case stopping => exact h.stopping
    case exit =>
      intro _
      change (pty.members.storeAll (pty.owner.pending ++ recordExitStatus status)).exitStatus = _
      rw [howner]
      exact exitStatus_recordExitStatus pty.members hother
    case loading => exact h.loading.change hrunning rfl
    case exited => exact h.exited
    case before => exact h.before
    case reported => exact h.reported_change hrunning rfl
  | store child first rest hreader =>
    obtain ⟨-, hexit⟩ := known hreader
    have hfirst := hexit first List.mem_cons_self
    have hlog := Pty.store_log_ofExit hfirst pty
    have hsame : pty.log.SameReports (pty.store first).log := by
      rw [hlog]
      exact ⟨rfl, rfl, rfl, id⟩
    refine h.keepReports hsame rfl h.stopping (fun _ => exitStatus hreader rfl) ?_
    change pty.owner.LoadAssertion (pty.store first).log
    rw [hlog]
    exact h.loading
  | publish hreader =>
    have hrunning : pty.log.published = [.starting, .running] := known hreader
    constructor
    case obtained => exact h.obtained
    case stopping => exact h.stopping
    case exit =>
      intro hcalled
      refine Eq.trans ?_ (h.exit hcalled)
      exact exitStatus hreader rfl
    case loading => exact h.loading.change hrunning rfl
    case exited =>
      intro report hmem hstate
      exact absurd hstate (h.unreported hrunning report hmem)
    case before => exact h.before
    case reported => exact h.reported_change hrunning rfl
  | clear hreader =>
    exact h.keepReports ⟨rfl, rfl, rfl, id⟩ rfl h.stopping (fun _ => exitStatus hreader rfl)
      h.loading

/-- A step of the owner. In `GetStatus` each case adds what was loaded to what is known of it; in
the other functions nothing was loaded. -/
theorem ownerStep {action : OwnerAction} (h : ReportInvariant pty) (hstatus : StatusInvariant pty)
    (halone : pty.Alone) (hstep : OwnerOutcome pty action pty') : ReportInvariant pty' := by
  have called : ∀ {owner}, pty.owner = owner → owner.stopping = true →
      pty.log.stopCalled = true := by
    rintro _ rfl
    exact h.stopping
  -- what the owner has loaded at its point
  have loading : ∀ {owner}, pty.owner = owner → owner.LoadAssertion pty.log := by
    rintro _ rfl
    exact h.loading
  -- the stores of the owner come before those of the reader
  have exitStatus : ∀ {owner owner' : OwnerPoint} {members' : PtyMembers}, pty.owner = owner →
      (members'.storeAll owner'.pending).exitStatus =
        (pty.members.storeAll owner.pending).exitStatus →
      (members'.storeAll (owner'.pending ++ pty.reader.pending)).exitStatus =
        (pty.members.storeAll pty.pending).exitStatus := by
    rintro _ owner' members' rfl hsame
    rw [Pty.pending, PtyMembers.storeAll, PtyMembers.storeAll, List.foldl_append,
      List.foldl_append]
    exact exitStatus_storeAll hsame pty.reader.pending
  -- once `Exited` is published, the exit values are the recorded ones
  have recorded : ∀ {owner : OwnerPoint}, pty.owner = owner → owner.pending = [] →
      pty.log.Exited → pty.log.stopCalled = false →
      pty.members.exitStatus = recordedStatus pty.log.obtained := by
    rintro _ rfl hpending hexited hcalled
    have hexit := h.exit hcalled
    rw [Pty.pending, hpending, hstatus.reader.pending hexited] at hexit
    exact hexit
  cases hstep with
  | stop | start =>
    constructor
    case obtained => exact h.obtained
    case stopping => exact fun _ => rfl
    case exit => exact Bool.noConfusion
    case loading => trivial
    case exited => exact h.exited
    case before => exact Bool.noConfusion
    case reported =>
      obtain ⟨hlog, hothers⟩ := List.forall_mem_cons.mp h.reported
      exact List.forall_mem_cons.mpr ⟨⟨hlog.recorded, hlog.valid, hlog.repeated⟩, hothers⟩
  | hangUp _ howner | goJoin _ howner | noGroup _ _ _ howner | join _ _ howner
  | closeAndWait _ _ howner | close _ _ howner | waitFails _ _ _ _ howner | notOver _ howner
  | ended _ howner =>
    exact h.stopStep ⟨rfl, rfl, rfl, id⟩ rfl (congrArg OwnerPoint.stopping howner) trivial
  | signalGroup restart signal child howner | signalProcess restart signal child howner
  | timesOut restart signal child expired howner =>
    have hstopping := congrArg OwnerPoint.stopping howner
    cases signal with
    | hup | term | kill => exact h.stopStep ⟨rfl, rfl, rfl, id⟩ rfl hstopping trivial
  | reaps restart signal child status expired howner =>
    have hstopping := congrArg OwnerPoint.stopping howner
    cases status with
    | exited | signaled | other => exact h.stopStep ⟨rfl, rfl, rfl, id⟩ rfl hstopping trivial
  | polls => exact h
  | lastStore first next howner =>
    have hsame := pty.store_sameReports first (hstatus.exited_store howner)
    have hassertion := hstatus.owner
    rw [howner] at hassertion
    exact h.keepReports hsame rfl (fun hnext => called howner hnext)
      (fun _ => exitStatus howner rfl) (.ofAlone hassertion.1 _)
  | store first second rest next howner =>
    have hsame := pty.store_sameReports first (hstatus.exited_store howner)
    exact h.keepReports hsame rfl (fun hnext => called howner hnext)
      (fun _ => exitStatus howner rfl) trivial
  | returns restart howner =>
    have hstopping := congrArg OwnerPoint.stopping howner
    cases restart with
    | true | false => exact h.stopStep ⟨rfl, rfl, rfl, id⟩ rfl hstopping trivial
  | begin howner =>
    constructor
    case obtained => exact nofun
    case stopping => exact Bool.noConfusion
    case exit =>
      intro _
      have hreader := halone (congrArg OwnerPoint.alone howner)
      rw [Pty.pending, hreader]
      rfl
    case loading => trivial
    case exited => exact fun _ hmem => absurd hmem List.not_mem_nil
    case before => exact fun _ _ hmem => absurd hmem List.not_mem_nil
    case reported =>
      refine List.forall_mem_cons.mpr ⟨⟨?_, ?_, .nil⟩, h.reported⟩
      · exact fun _ hmem => absurd hmem List.not_mem_nil
      · exact fun _ hmem => absurd hmem List.not_mem_nil
  | fork _ _ howner | forkFails howner | adopt _ _ howner =>
    exact h.keepReports ⟨rfl, rfl, rfl, id⟩ rfl Bool.noConfusion (fun _ => exitStatus howner rfl)
      trivial
  | fail howner =>
    have hstarting : pty.log.published = [.starting] := by
      have hassertion := hstatus.owner
      rw [howner] at hassertion
      exact hassertion
    have hsame := pty.store_sameReports (.state .failed) fun hexited => by
      rw [PtyLog.Exited, hstarting] at hexited
      contradiction
    exact h.keepReports hsame rfl Bool.noConfusion (fun _ => exitStatus howner rfl) trivial
  | spawn howner =>
    have hreader := halone (congrArg OwnerPoint.alone howner)
    refine h.keepReports ⟨rfl, rfl, rfl, id⟩ rfl Bool.noConfusion (fun _ => ?_) trivial
    rw [show pty.pending = [] by rw [Pty.pending, howner, hreader]; rfl]
    rfl
  | getStatus howner =>
    have hsettled : Settled pty.log.published := by
      have hassertion := hstatus.owner
      rw [howner] at hassertion
      exact hassertion
    refine h.keepReports ⟨rfl, rfl, rfl, id⟩ rfl Bool.noConfusion
      (fun _ => exitStatus howner rfl) ⟨?_, ?_⟩
    · intro hstate
      exact hsettled.exited (hstatus.state.symm.trans hstate)
    · rintro ⟨report, hmem, hexited⟩
      have hpublished : pty.log.published = _ := h.exited report hmem hexited
      rw [hstatus.state, hpublished]
      rfl
  | loadExitCode state howner =>
    have hloaded : pty.log.Loaded state := loading howner
    refine h.keepReports ⟨rfl, rfl, rfl, id⟩ rfl Bool.noConfusion
      (fun _ => exitStatus howner rfl) ⟨hloaded, fun hstate hcalled => ?_⟩
    exact congrArg TransportStatus.exitCode (recorded howner rfl (hloaded.1 hstate) hcalled)
  | loadExitSignal state exitCode howner =>
    obtain ⟨hloaded, hcode⟩ := loading howner
    refine h.keepReports ⟨rfl, rfl, rfl, id⟩ rfl Bool.noConfusion
      (fun _ => exitStatus howner rfl) ⟨hloaded, fun hstate hcalled => ⟨hcode hstate hcalled, ?_⟩⟩
    exact congrArg TransportStatus.exitSignal (recorded howner rfl (hloaded.1 hstate) hcalled)
  | report state exitCode exitSignal howner =>
    obtain ⟨hloaded, hvalues⟩ := loading howner
    have hpending : pty.owner.pending = [] := congrArg OwnerPoint.pending howner
    -- the four loads together make a recorded status
    have hstatus' : state = .exited → pty.log.stopCalled = false →
        TransportStatus.mk state exitCode exitSignal pty.members.exitCodeValid =
          recordedStatus pty.log.obtained := by
      intro hstate hcalled
      have hrecorded := recorded howner rfl (hloaded.1 hstate) hcalled
      obtain ⟨hcode, hsignal⟩ := hvalues hstate hcalled
      rw [← hrecorded] at hcode hsignal
      rw [← hrecorded, hstate, hcode, hsignal]
      rfl
    exact h.appendReport hpending hstatus' hloaded

end ReportInvariant

/-- The reports are right in every run in which `waitpid` delivers exits. -/
theorem reportInvariant_of_reachable {pty : Pty} (hreachable : ptySystem.Reachable OnlyExits pty) :
    ReportInvariant pty := by
  apply TransitionSystem.Reachable.invariant _ _ hreachable
  · rintro _ rfl
    constructor
    case obtained => exact nofun
    case stopping => exact Bool.noConfusion
    case exit => exact fun _ => rfl
    case loading => trivial
    case exited => exact fun _ hmem => absurd hmem List.not_mem_nil
    case before => exact fun _ _ hmem => absurd hmem List.not_mem_nil
    case reported =>
      intro log hlog
      rw [List.mem_singleton.mp hlog]
      exact ⟨fun _ hmem => absurd hmem List.not_mem_nil,
        fun _ hmem => absurd hmem List.not_mem_nil, .nil⟩
  · intro pty action pty' hpty ih hallowed hstep
    have halone := alone_of_reachable hpty
    have hstatus := statusInvariant_of_reachable hpty
    cases action with
    | owner action => exact ih.ownerStep hstatus halone (ownerOutcome_of_step hstep)
    | reader action => exact ih.readerStep hstatus halone hallowed (readerOutcome_of_step hstep)

/-! ## After `Stop` -/

/-- The points of the owner where no session is left. -/
def OwnerPoint.idle : OwnerPoint → Bool
  | .ready | .readChild _ | .loadState _ | .stopped _ | .begin | .loadExitCode _
  | .loadExitSignal _ _ | .loadExitCodeValid _ _ _ => true
  | .join _ child | .close _ child => child ≤ 0
  | .store (.running false) [] next => next.idle
  | _ => false

/-- From the return of `Stop` on, the members stay what they were. `atStop` has the members of that
moment. -/
def Pty.Rests (pty : Pty) : Prop :=
  ∀ members, pty.atStop = some members →
    pty.members = members ∧ members.Quiet ∧ pty.reader = .none ∧ pty.owner.idle = true

/-- The store that ends `Stop` is the only one. -/
theorem OwnerPoint.idle_store {first : AtomicStore} {rest : List AtomicStore} {next : OwnerPoint}
    (h : (OwnerPoint.store first rest next).idle = true) :
    first = .running false ∧ rest = [] ∧ next.idle = true := by
  unfold OwnerPoint.idle at h
  split at h
  all_goals first | contradiction | skip
  next heq =>
    cases heq
    exact ⟨rfl, rfl, h⟩

namespace PtyMembers.Quiet

variable {members : PtyMembers}

/-! What a second `Stop` stores is there already. -/

theorem store_stopRequested (h : members.Quiet) :
    members.store (.stopRequested true) = members := by
  rw [PtyMembers.store, ← h.stopRequested]

theorem store_running (h : members.Quiet) : members.store (.running false) = members := by
  rw [PtyMembers.store, ← h.running]

theorem close (h : members.Quiet) :
    { members with masterFd := -1, childPid := -1 } = members := by
  cases members
  obtain ⟨-, -, -, rfl, rfl⟩ := h
  rfl

theorem childPid_le (h : members.Quiet) : members.childPid ≤ 0 := by
  rw [h.childPid]
  decide

theorem state_ne (h : members.Quiet) :
    ¬(members.state = .starting ∨ members.state = .running) := by
  rcases h.state with hstate | hstate | hstate <;> rw [hstate] <;> decide

end PtyMembers.Quiet

/-- A step of the owner after `Stop` has returned: it reports, stops once more or begins a session,
and only the last of these changes a member. -/
theorem Pty.Rests.ownerStep {pty pty' : Pty} {action : OwnerAction} (h : pty.Rests)
    (hstatus : StatusInvariant pty) (halone : pty.Alone) (hstep : OwnerOutcome pty action pty') :
    pty'.Rests := by
  have idle : ∀ {owner members}, pty.owner = owner → pty.atStop = some members →
      owner.idle = true := by
    rintro _ members rfl hstop
    exact (h members hstop).2.2.2
  cases hstep with
  | stop | start =>
    intro members hstop
    obtain ⟨rfl, hquiet, hreader, -⟩ := h members hstop
    exact ⟨hquiet.store_stopRequested, hquiet, hreader, rfl⟩
  | hangUp restart howner hchild =>
    intro members hstop
    obtain ⟨rfl, hquiet, -⟩ := h members hstop
    exact absurd hchild (Int.not_lt.mpr hquiet.childPid_le)
  | goJoin restart howner =>
    intro members hstop
    obtain ⟨rfl, hquiet, hreader, -⟩ := h members hstop
    exact ⟨rfl, hquiet, hreader, decide_eq_true hquiet.childPid_le⟩
  | join restart child howner =>
    intro members hstop
    have hidle := idle howner hstop
    obtain ⟨rfl, hquiet, -⟩ := h members hstop
    exact ⟨rfl, hquiet, rfl, hidle⟩
  | closeAndWait restart child howner hchild =>
    intro members hstop
    exact absurd hchild (Int.not_lt.mpr (of_decide_eq_true (idle howner hstop)))
  | close restart child howner =>
    intro members hstop
    obtain ⟨rfl, hquiet, hreader, -⟩ := h members hstop
    exact ⟨hquiet.close, hquiet, hreader, rfl⟩
  | lastStore first next howner =>
    intro members hstop
    obtain ⟨rfl, hquiet, hreader, -⟩ := h members hstop
    obtain ⟨rfl, -, hnext⟩ := OwnerPoint.idle_store (idle howner hstop)
    exact ⟨hquiet.store_running, hquiet, hreader, hnext⟩
  | store first second rest next howner =>
    intro members hstop
    obtain ⟨-, hrest, -⟩ := OwnerPoint.idle_store (idle howner hstop)
    contradiction
  | notOver restart howner hstate =>
    intro members hstop
    obtain ⟨rfl, hquiet, -⟩ := h members hstop
    exact absurd hstate hquiet.state_ne
  | ended | getStatus | loadExitCode | loadExitSignal | report =>
    intro members hstop
    obtain ⟨rfl, hquiet, hreader, -⟩ := h members hstop
    exact ⟨rfl, hquiet, hreader, rfl⟩
  | returns restart howner =>
    rintro _ ⟨rfl⟩
    have hassertion := hstatus.owner
    rw [howner] at hassertion
    refine ⟨rfl, hassertion.2, halone (congrArg OwnerPoint.alone howner), ?_⟩
    cases restart <;> rfl
  | begin => exact nofun
  | signalGroup _ signal _ howner | noGroup _ signal _ howner | signalProcess _ signal _ howner
  | reaps _ signal _ _ _ howner | timesOut _ signal _ _ howner | polls _ signal _ _ _ howner
  | waitFails _ signal _ _ howner =>
    intro members hstop
    have hidle := idle howner hstop
    cases hidle
  | fork _ _ howner | forkFails howner | fail howner | adopt _ _ howner | spawn howner =>
    intro members hstop
    have hidle := idle howner hstop
    cases hidle

/-- The members are at rest in every run. -/
theorem rests_of_reachable {allowed : Pty → PtyAction → Prop} {pty : Pty}
    (hreachable : ptySystem.Reachable allowed pty) : pty.Rests := by
  apply TransitionSystem.Reachable.invariant _ _ hreachable
  · rintro _ rfl
    exact nofun
  · intro pty action pty' hpty ih _ hstep
    have halone := alone_of_reachable hpty
    have hstatus := statusInvariant_of_reachable hpty
    cases action with
    | owner action => exact ih.ownerStep hstatus halone (ownerOutcome_of_step hstep)
    | reader action =>
      -- no reader is left to take a step
      have hreader := readerOutcome_of_step hstep
      intro members hstop
      rw [hreader.keeps_atStop] at hstop
      exact absurd (ih members hstop).2.2.1 hreader.keeps.2.1

/-! ## The whole lifecycle -/

/-- The states of a session move forward only, the state being the one published last; before
`Stop`, a report of `Exited` carries what the reader recorded and is repeated; and from the return
of `Stop` until `Start` begins a session there is no reader, and nothing changes. -/
theorem status_consistent {pty : Pty} (hreachable : ptySystem.Reachable OnlyExits pty) :
    (∀ log ∈ pty.log :: pty.ended, StateMoves log.published ∧ log.ExitsReported) ∧
      pty.members.state = pty.log.published.getLast?.getD .stopped ∧
      ∀ members, pty.atStop = some members → pty.reader = .none ∧ members.running = false ∧
        (members.state = .stopped ∨ members.state = .exited ∨ members.state = .failed) ∧
          pty.members = members := by
  have hmoves := stateMoves_of_reachable hreachable
  have hreports := (reportInvariant_of_reachable hreachable).reported
  refine ⟨fun log hlog => ⟨hmoves log hlog, hreports log hlog⟩,
    (statusInvariant_of_reachable hreachable).state, ?_⟩
  intro members hstop
  obtain ⟨hmembers, hquiet, hreader, -⟩ := rests_of_reachable hreachable members hstop
  exact ⟨hreader, hquiet.running, hquiet.state, hmembers⟩

/-- A child that exits with 3 while `GetStatus` is asked, and two calls of `Stop` afterwards. -/
def exitAndStopTwice : List PtyAction :=
  startAndExit 100 ++ [.reader (.waitpid (.reaped (.exited 3))), .owner .getStatus, .reader .store,
    .owner .loadExitCode, .reader .store, .reader .store, .owner .loadExitSignal,
    .reader .markReaped, .owner .loadExitCodeValid, .reader .publish, .owner .getStatus,
    .owner .loadExitCode, .reader .clear, .owner .loadExitSignal, .owner .loadExitCodeValid,
    .owner .stop, .owner .readChild, .owner .join, .owner .close, .owner .store, .owner .loadState,
    .owner .returns, .owner .stop, .owner .readChild, .owner .join]

theorem status_consistent_exitAndStopTwice :
    ∃ pty : Pty,
      pty.log.reports = [⟨⟨.running, 3, 0, true⟩, false⟩, ⟨⟨.exited, 3, 0, true⟩, false⟩] ∧
      pty.atStop = some { pty.members with state := .exited } ∧
      (∀ log ∈ pty.log :: pty.ended, StateMoves log.published ∧ log.ExitsReported) ∧
      pty.members.state = pty.log.published.getLast?.getD .stopped ∧
      ∀ members, pty.atStop = some members → pty.reader = .none ∧ members.running = false ∧
        (members.state = .stopped ∨ members.state = .exited ∨ members.state = .failed) ∧
          pty.members = members := by
  obtain ⟨pty, hrun, hreports, hstop⟩ : ∃ pty,
      TransitionSystem.runSteps
        (fun pty action => if OnlyExits pty action then pty.step action else none) {}
        exitAndStopTwice = some pty ∧
      pty.log.reports = [⟨⟨.running, 3, 0, true⟩, false⟩, ⟨⟨.exited, 3, 0, true⟩, false⟩] ∧
      pty.atStop = some { pty.members with state := .exited } :=
    ⟨_, rfl, rfl, rfl⟩
  exact ⟨pty, hreports, hstop,
    status_consistent (ptyReachable_of_runSteps exitAndStopTwice hrun)⟩

end SakuraTerminal.Transport
