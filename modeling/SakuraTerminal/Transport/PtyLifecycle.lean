import SakuraTerminal.Transport.Session

/-!
# The child of a POSIX session

`PosixPtySession` (`src/pty_session.cpp`) once more, for the child process and the status: `Start`,
`Stop`, `GetStatus` and the exit path of `ReadLoop`. Every access of an atomic, every critical
section of `io_mutex_` and every `waitpid` and `kill` is one step of the owner or of the reader.
What the system calls return is open. Output and its queue are in `Session`, and the read loop keeps
only its tests here.

The log of a session, kept for the theorems only, records what was stored into `state_`, the
children that `waitpid` returned and those that were signalled, and what `GetStatus` reported.

`Start` calls `Stop` first, so the points of `Stop` are told apart by `restart`. A list of stores
with the point behind it (`OwnerPoint.store`) is how several stores in a row are written, each of
them a step at which the other thread may come between.

`OwnerOutcome` and `ReaderOutcome` say what a step can do. The invariants of the other modules on
this session are proved from these and never unfold a step function.
-/

set_option autoImplicit false

namespace SakuraTerminal.Transport

open SakuraTerminal.Foundations

/-! ## System calls -/

/-- A status of `waitpid`. -/
inductive WaitStatus where
  /-- `WIFEXITED`, with `WEXITSTATUS`. -/
  | exited (code : Int)
  /-- `WIFSIGNALED`, with `WTERMSIG`. -/
  | signaled (signal : Int)
  | other
  deriving DecidableEq, Repr

/-- What `waitpid` with `WNOHANG` returns for a child. -/
inductive WaitResult where
  | reaped (status : WaitStatus)
  | notYet
  /-- `EINTR`. -/
  | interrupted
  /-- `ECHILD` or another error. -/
  | failed
  deriving DecidableEq, Repr

/-- The signals of `Stop`. -/
inductive StopSignal where
  | hup
  | term
  | kill
  deriving DecidableEq, Repr

/-! ## The members -/

/-- The members that the threads share. The stores of the first six are atomic, and the other three
are accessed under `io_mutex_`. -/
structure PtyMembers where
  stopRequested : Bool := false
  running : Bool := false
  state : TransportState := .stopped
  exitCode : Int := -1
  exitSignal : Int := 0
  exitCodeValid : Bool := false
  masterFd : Int := -1
  childPid : Int := -1
  childReaped : Bool := false
  deriving DecidableEq, Repr

/-- One store into an atomic member. -/
inductive AtomicStore where
  | stopRequested (value : Bool)
  | running (value : Bool)
  | state (value : TransportState)
  | exitCode (value : Int)
  | exitSignal (value : Int)
  | exitCodeValid (value : Bool)
  deriving DecidableEq, Repr

/-- The members after one store into an atomic. -/
def PtyMembers.store (members : PtyMembers) : AtomicStore → PtyMembers
  | .stopRequested value => { members with stopRequested := value }
  | .running value => { members with running := value }
  | .state value => { members with state := value }
  | .exitCode value => { members with exitCode := value }
  | .exitSignal value => { members with exitSignal := value }
  | .exitCodeValid value => { members with exitCodeValid := value }

@[simp]
theorem PtyMembers.store_childPid (members : PtyMembers) (store : AtomicStore) :
    (members.store store).childPid = members.childPid := by
  cases store <;> rfl

@[simp]
theorem PtyMembers.store_childReaped (members : PtyMembers) (store : AtomicStore) :
    (members.store store).childReaped = members.childReaped := by
  cases store <;> rfl

/-- `RecordExitStatus`: the stores it makes, in order. The flag is stored last, so that a reader of
the flag finds the values. -/
def recordExitStatus : WaitStatus → List AtomicStore
  | .exited code => [.exitCode code, .exitSignal 0, .exitCodeValid true]
  | .signaled signal => [.exitCode (-1), .exitSignal signal, .exitCodeValid true]
  | .other => []

/-- `TransportStatus`. -/
structure TransportStatus where
  state : TransportState
  exitCode : Int
  exitSignal : Int
  exitCodeValid : Bool
  deriving DecidableEq, Repr

/-! ## Where the threads are -/

/-- Where the reader is in `ReadLoop`. -/
inductive ReaderPoint where
  /-- There is no reader thread. -/
  | none
  /-- Before the test of `stop_requested_` in the loop. -/
  | loop
  /-- In the body of the loop. -/
  | read
  /-- Behind the loop, before `stop_requested_` is tested. -/
  | leave
  /-- Before the critical section that reads `child_pid_`. -/
  | lookUp
  | waitpid (child : Int)
  /-- The child runs still, before `stop_requested_` is tested. -/
  | testStop (child : Int)
  /-- The child was reaped: in `RecordExitStatus`, and then before the critical section. -/
  | record (child : Int) (stores : List AtomicStore)
  /-- Before `Exited` is stored. -/
  | publish
  /-- Before `running_` is cleared. -/
  | clear
  | finished
  deriving DecidableEq, Repr

/-- Where the owner is; `restart` is set in the `Stop` that `Start` calls. A point carries what the
source has in local variables there. -/
inductive OwnerPoint where
  /-- Outside of all functions of the session. -/
  | ready
  /-- `Stop`, before the first critical section. -/
  | readChild (restart : Bool)
  /-- `SignalProcessGroup`, before the group is signalled. -/
  | signalGroup (restart : Bool) (signal : StopSignal) (child : Int)
  /-- `SignalProcessGroup` for which there was no such group. -/
  | signalProcess (restart : Bool) (signal : StopSignal) (child : Int)
  | join (restart : Bool) (child : Int)
  /-- `Stop`, before the second critical section. -/
  | close (restart : Bool) (child : Int)
  /-- `WaitForChild` after a signal. -/
  | waitForChild (restart : Bool) (signal : StopSignal) (child : Int)
  /-- Stores that remain to be made before the owner goes on. -/
  | store (first : AtomicStore) (rest : List AtomicStore) (next : OwnerPoint)
  /-- `Stop`, before `state_` is loaded. -/
  | loadState (restart : Bool)
  /-- The end of `Stop`. -/
  | stopped (restart : Bool)
  /-- `Start`, before `Starting` is stored. -/
  | begin
  | fork
  /-- `Start`, before `Failed` is stored. -/
  | fail
  /-- `Start`, before the critical section. -/
  | adopt (master child : Int)
  | spawn
  /-- `GetStatus`, with what it loaded so far. -/
  | loadExitCode (state : TransportState)
  | loadExitSignal (state : TransportState) (exitCode : Int)
  | loadExitCodeValid (state : TransportState) (exitCode exitSignal : Int)
  deriving DecidableEq, Repr

/-! ## The log of a session -/

/-- What happened to the child. -/
inductive ProcessEvent where
  /-- `waitpid` returned the child. -/
  | reaped (child : Int)
  /-- `kill` for the child or its group. -/
  | signalled (child : Int)
  deriving DecidableEq, Repr

/-- What `GetStatus` returned, and whether `Stop` had been called in the session. -/
structure StatusReport where
  status : TransportStatus
  afterStop : Bool
  deriving DecidableEq, Repr

/-- What happened in a session, for the theorems only; a session begins when `Start` stores
`Starting`. -/
structure PtyLog where
  /-- The values stored into `state_`. -/
  published : List TransportState := []
  events : List ProcessEvent := []
  /-- The status that the reader's `waitpid` delivered. -/
  obtained : Option WaitStatus := none
  /-- `Stop` was called. -/
  stopCalled : Bool := false
  reports : List StatusReport := []
  deriving DecidableEq, Repr

/-- A session with its two threads. -/
structure Pty where
  members : PtyMembers := {}
  reader : ReaderPoint := .none
  owner : OwnerPoint := .ready
  log : PtyLog := {}
  /-- The logs of earlier sessions. -/
  ended : List PtyLog := []
  /-- The members when `Stop` returned last, until `Start` begins a session. -/
  atStop : Option PtyMembers := none
  deriving DecidableEq, Repr

/-! ## Steps -/

/-- A store by either thread. -/
def Pty.store (pty : Pty) (store : AtomicStore) : Pty :=
  { pty with
    members := pty.members.store store
    log :=
      match store with
      | .state value => { pty.log with published := pty.log.published ++ [value] }
      | _ => pty.log }

@[simp]
theorem Pty.store_members (pty : Pty) (store : AtomicStore) :
    (pty.store store).members = pty.members.store store := rfl

@[simp]
theorem Pty.store_reader (pty : Pty) (store : AtomicStore) :
    (pty.store store).reader = pty.reader := rfl

@[simp]
theorem Pty.store_owner (pty : Pty) (store : AtomicStore) : (pty.store store).owner = pty.owner :=
  rfl

@[simp]
theorem Pty.store_ended (pty : Pty) (store : AtomicStore) : (pty.store store).ended = pty.ended :=
  rfl

@[simp]
theorem Pty.store_events (pty : Pty) (store : AtomicStore) :
    (pty.store store).log.events = pty.log.events := by
  cases store <;> rfl

/-- An event is added to the log. -/
def Pty.record (pty : Pty) (event : ProcessEvent) : Pty :=
  { pty with log := { pty.log with events := pty.log.events ++ [event] } }

/-- Where `Stop` goes after a signal. -/
def OwnerPoint.afterSignal (restart : Bool) (signal : StopSignal) (child : Int) : OwnerPoint :=
  match signal with
  | .hup => .join restart child
  | .term => .waitForChild restart .term child
  | .kill => .waitForChild restart .kill child

/-- The end of `Stop`, from `running_.store(false)` on. -/
def OwnerPoint.endStop (restart : Bool) : OwnerPoint :=
  .store (.running false) [] (.loadState restart)

/-- The stores of `RecordExitStatus` in `Stop`, and then its end. -/
def OwnerPoint.recordStop (restart : Bool) (status : WaitStatus) : OwnerPoint :=
  match recordExitStatus status with
  | [] => .endStop restart
  | first :: rest => .store first rest (.endStop restart)

/-- Where `Stop` goes when `WaitForChild` has timed out. -/
def OwnerPoint.timedOut (restart : Bool) (signal : StopSignal) (child : Int) : OwnerPoint :=
  match signal with
  | .hup => .signalGroup restart .term child
  | .term => .signalGroup restart .kill child
  | .kill => .endStop restart

/-- The steps of the owner, with what the system answered. -/
inductive OwnerAction where
  | stop
  | start
  | readChild
  /-- `kill` for the group, which may not exist. -/
  | signalGroup (noGroup : Bool)
  | signalProcess
  | join
  | close
  /-- One turn of `WaitForChild`; `expired` says whether the deadline has passed. -/
  | waitpid (result : WaitResult) (expired : Bool)
  | store
  | loadState
  | returns
  | begin
  | fork (master child : Int)
  | forkFails
  | fail
  | adopt
  | spawn
  /-- `GetStatus` up to its first load. -/
  | getStatus
  | loadExitCode
  | loadExitSignal
  | loadExitCodeValid
  deriving DecidableEq, Repr

/-- The step of the owner that an action stands for, if the owner is at such a point. -/
def Pty.ownerStep (pty : Pty) : OwnerAction → Option Pty
  | .stop =>
    match pty.owner with
    | .ready =>
      some { pty.store (.stopRequested true) with
        owner := .readChild false, log := { pty.log with stopCalled := true } }
    | _ => none
  | .start =>
    match pty.owner with
    | .ready =>
      some { pty.store (.stopRequested true) with
        owner := .readChild true, log := { pty.log with stopCalled := true } }
    | _ => none
  | .readChild =>
    match pty.owner with
    | .readChild restart =>
      some { pty with
        owner :=
          if 0 < pty.members.childPid ∧ pty.members.childReaped = false then
            .signalGroup restart .hup pty.members.childPid
          else .join restart pty.members.childPid }
    | _ => none
  | .signalGroup noGroup =>
    match pty.owner with
    | .signalGroup restart signal child =>
      some { pty.record (.signalled child) with
        owner := if noGroup then .signalProcess restart signal child
          else .afterSignal restart signal child }
    | _ => none
  | .signalProcess =>
    match pty.owner with
    | .signalProcess restart signal child =>
      some { pty.record (.signalled child) with owner := .afterSignal restart signal child }
    | _ => none
  | .join =>
    match pty.owner with
    | .join restart child =>
      -- a thread that does not exist is not joinable
      if pty.reader = .none ∨ pty.reader = .finished then
        some { pty with reader := .none, owner := .close restart child }
      else none
    | _ => none
  | .close =>
    match pty.owner with
    | .close restart child =>
      some { pty with
        members := { pty.members with masterFd := -1, childPid := -1 }
        owner :=
          if 0 < child ∧ pty.members.childReaped = false then .waitForChild restart .hup child
          else .endStop restart }
    | _ => none
  | .waitpid result expired =>
    match pty.owner with
    | .waitForChild restart signal child =>
      match result with
      | .reaped status =>
        some { pty.record (.reaped child) with owner := .recordStop restart status }
      | .notYet =>
        -- the first deadline is the moment it is computed
        some { pty with
          owner := if signal = .hup ∨ expired = true then .timedOut restart signal child
            else pty.owner }
      | .interrupted => some pty
      | .failed => some { pty with owner := .endStop restart }
    | _ => none
  | .store =>
    match pty.owner with
    | .store first rest next =>
      some { pty.store first with
        owner :=
          match rest with
          | [] => next
          | second :: rest => .store second rest next }
    | _ => none
  | .loadState =>
    match pty.owner with
    | .loadState restart =>
      some { pty with
        owner :=
          if pty.members.state = .starting ∨ pty.members.state = .running then
            .store (.state .stopped) [] (.stopped restart)
          else .stopped restart }
    | _ => none
  | .returns =>
    match pty.owner with
    | .stopped restart =>
      some { pty with
        owner := if restart then .begin else .ready
        atStop := some pty.members }
    | _ => none
  | .begin =>
    match pty.owner with
    | .begin =>
      some { pty with
        members := pty.members.store (.state .starting)
        owner := .store (.exitCode (-1)) [.exitSignal 0, .exitCodeValid false] .fork
        log := { published := [.starting] }
        ended := pty.log :: pty.ended
        atStop := none }
    | _ => none
  | .fork master child =>
    match pty.owner with
    | .fork =>
      if 0 ≤ master ∧ 0 < child then some { pty with owner := .adopt master child } else none
    | _ => none
  | .forkFails =>
    match pty.owner with
    | .fork => some { pty with owner := .fail }
    | _ => none
  | .fail =>
    match pty.owner with
    | .fail => some { pty.store (.state .failed) with owner := .ready }
    | _ => none
  | .adopt =>
    match pty.owner with
    | .adopt master child =>
      some { pty with
        members := { pty.members with masterFd := master, childPid := child, childReaped := false }
        owner := .store (.stopRequested false) [.running true, .state .running] .spawn }
    | _ => none
  | .spawn =>
    match pty.owner with
    | .spawn => some { pty with reader := .loop, owner := .ready }
    | _ => none
  | .getStatus =>
    match pty.owner with
    | .ready => some { pty with owner := .loadExitCode pty.members.state }
    | _ => none
  | .loadExitCode =>
    match pty.owner with
    | .loadExitCode state => some { pty with owner := .loadExitSignal state pty.members.exitCode }
    | _ => none
  | .loadExitSignal =>
    match pty.owner with
    | .loadExitSignal state exitCode =>
      some { pty with owner := .loadExitCodeValid state exitCode pty.members.exitSignal }
    | _ => none
  | .loadExitCodeValid =>
    match pty.owner with
    | .loadExitCodeValid state exitCode exitSignal =>
      some { pty with
        owner := .ready
        log := { pty.log with reports := pty.log.reports ++
          [⟨⟨state, exitCode, exitSignal, pty.members.exitCodeValid⟩, pty.log.stopCalled⟩] } }
    | _ => none

/-- The steps of the reader. -/
inductive ReaderAction where
  | testLoop
  /-- A turn of the loop that goes on, with or without output. -/
  | goOn
  | readFails
  | testLeave
  | lookUp
  | waitpid (result : WaitResult)
  | testStop
  | store
  /-- The critical section after the child was reaped. -/
  | markReaped
  | publish
  | clear
  deriving DecidableEq, Repr

/-- The step of the reader that an action stands for, if the reader is at such a point. -/
def Pty.readerStep (pty : Pty) : ReaderAction → Option Pty
  | .testLoop =>
    match pty.reader with
    | .loop => some { pty with reader := if pty.members.stopRequested then .leave else .read }
    | _ => none
  | .goOn =>
    match pty.reader with
    | .read => some { pty with reader := .loop }
    | _ => none
  | .readFails =>
    match pty.reader with
    | .read => some { pty with reader := .leave }
    | _ => none
  | .testLeave =>
    match pty.reader with
    | .leave => some { pty with reader := if pty.members.stopRequested then .clear else .lookUp }
    | _ => none
  | .lookUp =>
    match pty.reader with
    | .lookUp =>
      some { pty with
        reader := if 0 < pty.members.childPid then .waitpid pty.members.childPid else .publish }
    | _ => none
  | .waitpid result =>
    match pty.reader with
    | .waitpid child =>
      match result with
      | .reaped status =>
        some { pty with
          reader := .record child (recordExitStatus status)
          log := { pty.log with
            events := pty.log.events ++ [.reaped child], obtained := some status } }
      | .notYet => some { pty with reader := .testStop child }
      | .interrupted => some pty
      | .failed => some { pty with reader := .publish }
    | _ => none
  | .testStop =>
    match pty.reader with
    | .testStop child =>
      some { pty with reader := if pty.members.stopRequested then .publish else .waitpid child }
    | _ => none
  | .store =>
    match pty.reader with
    | .record child (first :: rest) => some { pty.store first with reader := .record child rest }
    | _ => none
  | .markReaped =>
    match pty.reader with
    | .record child [] =>
      some { pty with
        members :=
          if pty.members.childPid = child then { pty.members with childReaped := true }
          else pty.members
        reader := .publish }
    | _ => none
  | .publish =>
    match pty.reader with
    | .publish => some { pty.store (.state .exited) with reader := .clear }
    | _ => none
  | .clear =>
    match pty.reader with
    | .clear => some { pty.store (.running false) with reader := .finished }
    | _ => none

/-- A step of one of the two; which one comes next is open. -/
inductive PtyAction where
  | owner (action : OwnerAction)
  | reader (action : ReaderAction)
  deriving DecidableEq, Repr

/-- A step of the session. -/
def Pty.step (pty : Pty) : PtyAction → Option Pty
  | .owner action => pty.ownerStep action
  | .reader action => pty.readerStep action

/-! ## What a step can do -/

/-- What a step of the owner can do, one constructor for each branch of the source. -/
inductive OwnerOutcome (pty : Pty) : OwnerAction → Pty → Prop where
  | stop (howner : pty.owner = .ready) :
      OwnerOutcome pty .stop
        { pty.store (.stopRequested true) with
          owner := .readChild false, log := { pty.log with stopCalled := true } }
  | start (howner : pty.owner = .ready) :
      OwnerOutcome pty .start
        { pty.store (.stopRequested true) with
          owner := .readChild true, log := { pty.log with stopCalled := true } }
  | hangUp (restart : Bool) (howner : pty.owner = .readChild restart)
      (hchild : 0 < pty.members.childPid) (hreaped : pty.members.childReaped = false) :
      OwnerOutcome pty .readChild
        { pty with owner := .signalGroup restart .hup pty.members.childPid }
  | goJoin (restart : Bool) (howner : pty.owner = .readChild restart) :
      OwnerOutcome pty .readChild { pty with owner := .join restart pty.members.childPid }
  | signalGroup (restart : Bool) (signal : StopSignal) (child : Int)
      (howner : pty.owner = .signalGroup restart signal child) :
      OwnerOutcome pty (.signalGroup false)
        { pty.record (.signalled child) with owner := .afterSignal restart signal child }
  | noGroup (restart : Bool) (signal : StopSignal) (child : Int)
      (howner : pty.owner = .signalGroup restart signal child) :
      OwnerOutcome pty (.signalGroup true)
        { pty.record (.signalled child) with owner := .signalProcess restart signal child }
  | signalProcess (restart : Bool) (signal : StopSignal) (child : Int)
      (howner : pty.owner = .signalProcess restart signal child) :
      OwnerOutcome pty .signalProcess
        { pty.record (.signalled child) with owner := .afterSignal restart signal child }
  | join (restart : Bool) (child : Int) (howner : pty.owner = .join restart child)
      (hreader : pty.reader = .none ∨ pty.reader = .finished) :
      OwnerOutcome pty .join { pty with reader := .none, owner := .close restart child }
  | closeAndWait (restart : Bool) (child : Int) (howner : pty.owner = .close restart child)
      (hchild : 0 < child) (hreaped : pty.members.childReaped = false) :
      OwnerOutcome pty .close
        { pty with
          members := { pty.members with masterFd := -1, childPid := -1 }
          owner := .waitForChild restart .hup child }
  | close (restart : Bool) (child : Int) (howner : pty.owner = .close restart child) :
      OwnerOutcome pty .close
        { pty with
          members := { pty.members with masterFd := -1, childPid := -1 }
          owner := .endStop restart }
  | reaps (restart : Bool) (signal : StopSignal) (child : Int) (status : WaitStatus)
      (expired : Bool) (howner : pty.owner = .waitForChild restart signal child) :
      OwnerOutcome pty (.waitpid (.reaped status) expired)
        { pty.record (.reaped child) with owner := .recordStop restart status }
  | timesOut (restart : Bool) (signal : StopSignal) (child : Int) (expired : Bool)
      (howner : pty.owner = .waitForChild restart signal child) :
      OwnerOutcome pty (.waitpid .notYet expired)
        { pty with owner := .timedOut restart signal child }
  | polls (restart : Bool) (signal : StopSignal) (child : Int) (result : WaitResult)
      (expired : Bool) (howner : pty.owner = .waitForChild restart signal child) :
      OwnerOutcome pty (.waitpid result expired) pty
  | waitFails (restart : Bool) (signal : StopSignal) (child : Int) (expired : Bool)
      (howner : pty.owner = .waitForChild restart signal child) :
      OwnerOutcome pty (.waitpid .failed expired) { pty with owner := .endStop restart }
  | lastStore (first : AtomicStore) (next : OwnerPoint)
      (howner : pty.owner = .store first [] next) :
      OwnerOutcome pty .store { pty.store first with owner := next }
  | store (first second : AtomicStore) (rest : List AtomicStore) (next : OwnerPoint)
      (howner : pty.owner = .store first (second :: rest) next) :
      OwnerOutcome pty .store { pty.store first with owner := .store second rest next }
  | notOver (restart : Bool) (howner : pty.owner = .loadState restart)
      (hstate : pty.members.state = .starting ∨ pty.members.state = .running) :
      OwnerOutcome pty .loadState
        { pty with owner := .store (.state .stopped) [] (.stopped restart) }
  | ended (restart : Bool) (howner : pty.owner = .loadState restart)
      (hstate : ¬(pty.members.state = .starting ∨ pty.members.state = .running)) :
      OwnerOutcome pty .loadState { pty with owner := .stopped restart }
  | returns (restart : Bool) (howner : pty.owner = .stopped restart) :
      OwnerOutcome pty .returns
        { pty with owner := if restart then .begin else .ready, atStop := some pty.members }
  | begin (howner : pty.owner = .begin) :
      OwnerOutcome pty .begin
        { pty with
          members := pty.members.store (.state .starting)
          owner := .store (.exitCode (-1)) [.exitSignal 0, .exitCodeValid false] .fork
          log := { published := [.starting] }
          ended := pty.log :: pty.ended
          atStop := none }
  | fork (master child : Int) (howner : pty.owner = .fork) (hmaster : 0 ≤ master)
      (hchild : 0 < child) :
      OwnerOutcome pty (.fork master child) { pty with owner := .adopt master child }
  | forkFails (howner : pty.owner = .fork) :
      OwnerOutcome pty .forkFails { pty with owner := .fail }
  | fail (howner : pty.owner = .fail) :
      OwnerOutcome pty .fail { pty.store (.state .failed) with owner := .ready }
  | adopt (master child : Int) (howner : pty.owner = .adopt master child) :
      OwnerOutcome pty .adopt
        { pty with
          members :=
            { pty.members with masterFd := master, childPid := child, childReaped := false }
          owner := .store (.stopRequested false) [.running true, .state .running] .spawn }
  | spawn (howner : pty.owner = .spawn) :
      OwnerOutcome pty .spawn { pty with reader := .loop, owner := .ready }
  | getStatus (howner : pty.owner = .ready) :
      OwnerOutcome pty .getStatus { pty with owner := .loadExitCode pty.members.state }
  | loadExitCode (state : TransportState) (howner : pty.owner = .loadExitCode state) :
      OwnerOutcome pty .loadExitCode
        { pty with owner := .loadExitSignal state pty.members.exitCode }
  | loadExitSignal (state : TransportState) (exitCode : Int)
      (howner : pty.owner = .loadExitSignal state exitCode) :
      OwnerOutcome pty .loadExitSignal
        { pty with owner := .loadExitCodeValid state exitCode pty.members.exitSignal }
  | report (state : TransportState) (exitCode exitSignal : Int)
      (howner : pty.owner = .loadExitCodeValid state exitCode exitSignal) :
      OwnerOutcome pty .loadExitCodeValid
        { pty with
          owner := .ready
          log := { pty.log with reports := pty.log.reports ++
            [⟨⟨state, exitCode, exitSignal, pty.members.exitCodeValid⟩, pty.log.stopCalled⟩] } }

/-- Every step of the owner is one of the outcomes. This is the only place where `ownerStep` is
unfolded. -/
theorem ownerOutcome_of_step {pty pty' : Pty} {action : OwnerAction}
    (hstep : pty.ownerStep action = some pty') : OwnerOutcome pty action pty' := by
  -- each action has one point of the owner in which it is enabled
  cases action with
  | stop | start | signalProcess | returns | begin | forkFails | fail | adopt | spawn
  | getStatus | loadExitCode | loadExitSignal | loadExitCodeValid =>
    simp only [Pty.ownerStep] at hstep
    split at hstep
    · cases hstep
      constructor
      assumption
    · contradiction
  | readChild =>
    simp only [Pty.ownerStep] at hstep
    split at hstep
    next restart howner =>
      cases hstep
      by_cases hsignal : 0 < pty.members.childPid ∧ pty.members.childReaped = false
      · rw [if_pos hsignal]
        exact .hangUp restart howner hsignal.1 hsignal.2
      · rw [if_neg hsignal]
        exact .goJoin restart howner
    next => contradiction
  | signalGroup noGroup =>
    simp only [Pty.ownerStep] at hstep
    split at hstep
    next restart signal child howner =>
      cases hstep
      cases noGroup with
      | false => exact .signalGroup restart signal child howner
      | true => exact .noGroup restart signal child howner
    next => contradiction
  | join =>
    simp only [Pty.ownerStep] at hstep
    split at hstep
    next restart child howner =>
      by_cases hreader : pty.reader = .none ∨ pty.reader = .finished
      · rw [if_pos hreader] at hstep
        cases hstep
        exact .join restart child howner hreader
      · rw [if_neg hreader] at hstep
        contradiction
    next => contradiction
  | close =>
    simp only [Pty.ownerStep] at hstep
    split at hstep
    next restart child howner =>
      cases hstep
      by_cases hwait : 0 < child ∧ pty.members.childReaped = false
      · rw [if_pos hwait]
        exact .closeAndWait restart child howner hwait.1 hwait.2
      · rw [if_neg hwait]
        exact .close restart child howner
    next => contradiction
  | waitpid result expired =>
    simp only [Pty.ownerStep] at hstep
    split at hstep
    next restart signal child howner =>
      cases result with
      | reaped status =>
        cases hstep
        exact .reaps restart signal child status expired howner
      | notYet =>
        cases hstep
        by_cases hover : signal = .hup ∨ expired = true
        · rw [if_pos hover]
          exact .timesOut restart signal child expired howner
        · rw [if_neg hover]
          exact .polls restart signal child .notYet expired howner
      | interrupted =>
        cases hstep
        exact .polls restart signal child .interrupted expired howner
      | failed =>
        cases hstep
        exact .waitFails restart signal child expired howner
    next => contradiction
  | store =>
    simp only [Pty.ownerStep] at hstep
    split at hstep
    next first rest next howner =>
      cases hstep
      cases rest with
      | nil => exact .lastStore first next howner
      | cons second rest => exact .store first second rest next howner
    next => contradiction
  | loadState =>
    simp only [Pty.ownerStep] at hstep
    split at hstep
    next restart howner =>
      cases hstep
      by_cases hstate : pty.members.state = .starting ∨ pty.members.state = .running
      · rw [if_pos hstate]
        exact .notOver restart howner hstate
      · rw [if_neg hstate]
        exact .ended restart howner hstate
    next => contradiction
  | fork master child =>
    simp only [Pty.ownerStep] at hstep
    split at hstep
    next howner =>
      by_cases hvalid : 0 ≤ master ∧ 0 < child
      · rw [if_pos hvalid] at hstep
        cases hstep
        exact .fork master child howner hvalid.1 hvalid.2
      · rw [if_neg hvalid] at hstep
        contradiction
    next => contradiction

/-- What a step of the reader can do. -/
inductive ReaderOutcome (pty : Pty) : ReaderAction → Pty → Prop where
  | stays (hreader : pty.reader = .loop) (hstop : pty.members.stopRequested = false) :
      ReaderOutcome pty .testLoop { pty with reader := .read }
  | asked (hreader : pty.reader = .loop) (hstop : pty.members.stopRequested = true) :
      ReaderOutcome pty .testLoop { pty with reader := .leave }
  | goOn (hreader : pty.reader = .read) : ReaderOutcome pty .goOn { pty with reader := .loop }
  | readFails (hreader : pty.reader = .read) :
      ReaderOutcome pty .readFails { pty with reader := .leave }
  | exits (hreader : pty.reader = .leave) (hstop : pty.members.stopRequested = false) :
      ReaderOutcome pty .testLeave { pty with reader := .lookUp }
  | leaves (hreader : pty.reader = .leave) (hstop : pty.members.stopRequested = true) :
      ReaderOutcome pty .testLeave { pty with reader := .clear }
  | finds (hreader : pty.reader = .lookUp) (hchild : 0 < pty.members.childPid) :
      ReaderOutcome pty .lookUp { pty with reader := .waitpid pty.members.childPid }
  | findsNone (hreader : pty.reader = .lookUp) (hchild : ¬0 < pty.members.childPid) :
      ReaderOutcome pty .lookUp { pty with reader := .publish }
  | reaps (child : Int) (status : WaitStatus) (hreader : pty.reader = .waitpid child) :
      ReaderOutcome pty (.waitpid (.reaped status))
        { pty with
          reader := .record child (recordExitStatus status)
          log := { pty.log with
            events := pty.log.events ++ [.reaped child], obtained := some status } }
  | notYet (child : Int) (hreader : pty.reader = .waitpid child) :
      ReaderOutcome pty (.waitpid .notYet) { pty with reader := .testStop child }
  | interrupted (child : Int) (hreader : pty.reader = .waitpid child) :
      ReaderOutcome pty (.waitpid .interrupted) pty
  | waitFails (child : Int) (hreader : pty.reader = .waitpid child) :
      ReaderOutcome pty (.waitpid .failed) { pty with reader := .publish }
  | givesUp (child : Int) (hreader : pty.reader = .testStop child)
      (hstop : pty.members.stopRequested = true) :
      ReaderOutcome pty .testStop { pty with reader := .publish }
  | waits (child : Int) (hreader : pty.reader = .testStop child)
      (hstop : pty.members.stopRequested = false) :
      ReaderOutcome pty .testStop { pty with reader := .waitpid child }
  | store (child : Int) (first : AtomicStore) (rest : List AtomicStore)
      (hreader : pty.reader = .record child (first :: rest)) :
      ReaderOutcome pty .store { pty.store first with reader := .record child rest }
  | marks (child : Int) (hreader : pty.reader = .record child [])
      (hchild : pty.members.childPid = child) :
      ReaderOutcome pty .markReaped
        { pty with members := { pty.members with childReaped := true }, reader := .publish }
  | marksNone (child : Int) (hreader : pty.reader = .record child [])
      (hchild : pty.members.childPid ≠ child) :
      ReaderOutcome pty .markReaped { pty with reader := .publish }
  | publish (hreader : pty.reader = .publish) :
      ReaderOutcome pty .publish { pty.store (.state .exited) with reader := .clear }
  | clear (hreader : pty.reader = .clear) :
      ReaderOutcome pty .clear { pty.store (.running false) with reader := .finished }

/-- The same for the reader. -/
theorem readerOutcome_of_step {pty pty' : Pty} {action : ReaderAction}
    (hstep : pty.readerStep action = some pty') : ReaderOutcome pty action pty' := by
  cases action with
  | goOn | readFails | publish | clear =>
    simp only [Pty.readerStep] at hstep
    split at hstep
    · cases hstep
      constructor
      assumption
    · contradiction
  | store =>
    simp only [Pty.readerStep] at hstep
    split at hstep
    next child first rest hreader =>
      cases hstep
      exact .store child first rest hreader
    next => contradiction
  | testLoop =>
    simp only [Pty.readerStep] at hstep
    split at hstep
    next hreader =>
      cases hstep
      cases hstop : pty.members.stopRequested with
      | false => exact .stays hreader hstop
      | true => exact .asked hreader hstop
    next => contradiction
  | testLeave =>
    simp only [Pty.readerStep] at hstep
    split at hstep
    next hreader =>
      cases hstep
      cases hstop : pty.members.stopRequested with
      | false => exact .exits hreader hstop
      | true => exact .leaves hreader hstop
    next => contradiction
  | lookUp =>
    simp only [Pty.readerStep] at hstep
    split at hstep
    next hreader =>
      cases hstep
      by_cases hchild : 0 < pty.members.childPid
      · rw [if_pos hchild]
        exact .finds hreader hchild
      · rw [if_neg hchild]
        exact .findsNone hreader hchild
    next => contradiction
  | waitpid result =>
    simp only [Pty.readerStep] at hstep
    split at hstep
    next child hreader =>
      cases result with
      | reaped status =>
        cases hstep
        exact .reaps child status hreader
      | notYet =>
        cases hstep
        exact .notYet child hreader
      | interrupted =>
        cases hstep
        exact .interrupted child hreader
      | failed =>
        cases hstep
        exact .waitFails child hreader
    next => contradiction
  | testStop =>
    simp only [Pty.readerStep] at hstep
    split at hstep
    next child hreader =>
      cases hstep
      cases hstop : pty.members.stopRequested with
      | false => exact .waits child hreader hstop
      | true => exact .givesUp child hreader hstop
    next => contradiction
  | markReaped =>
    simp only [Pty.readerStep] at hstep
    split at hstep
    next child hreader =>
      cases hstep
      by_cases hchild : pty.members.childPid = child
      · rw [if_pos hchild]
        exact .marks child hreader hchild
      · rw [if_neg hchild]
        exact .marksNone child hreader hchild
    next => contradiction

/-! ## Runs -/

/-- The points at which the reader was joined and no new one exists. -/
def OwnerPoint.alone : OwnerPoint → Bool
  | .close _ _ | .waitForChild _ _ _ | .loadState _ | .stopped _ | .begin | .fork | .fail
  | .adopt _ _ | .spawn => true
  | .signalGroup _ .hup _ | .signalProcess _ .hup _ => false
  | .signalGroup _ _ _ | .signalProcess _ _ _ => true
  | .store _ _ next => next.alone
  | _ => false

/-- There is no reader while the owner is alone. It lets `Start` store into members that the reader
stores into as well. -/
def Pty.Alone (pty : Pty) : Prop := pty.owner.alone = true → pty.reader = .none

/-- The reader leaves the owner where it is, and never ends itself. -/
theorem ReaderOutcome.keeps {pty pty' : Pty} {action : ReaderAction}
    (h : ReaderOutcome pty action pty') :
    pty'.owner = pty.owner ∧ pty.reader ≠ .none ∧ pty'.reader ≠ .none := by
  cases h with
  | stays h | asked h | goOn h | readFails h | exits h | leaves h | finds h | findsNone h
  | reaps _ _ h | notYet _ h | interrupted _ h | waitFails _ h | givesUp _ h | waits _ h
  | store _ _ _ h | marks _ h | marksNone _ h | publish h | clear h =>
    simp [h]

theorem ReaderOutcome.keeps_atStop {pty pty' : Pty} {action : ReaderAction}
    (h : ReaderOutcome pty action pty') : pty'.atStop = pty.atStop := by
  cases h <;> rfl

/-- While the reader takes steps, the owner is not alone. -/
theorem ReaderOutcome.owner_alone {pty pty' : Pty} {action : ReaderAction}
    (h : ReaderOutcome pty action pty') (halone : pty.Alone) : pty.owner.alone = false := by
  cases hcase : pty.owner.alone with
  | false => rfl
  | true => exact absurd (halone hcase) h.keeps.2.1

/-- The owner is alone from the join on, until it creates a reader. -/
theorem Pty.Alone.ownerStep {pty pty' : Pty} {action : OwnerAction} (halone : pty.Alone)
    (h : OwnerOutcome pty action pty') : pty'.Alone := by
  intro hafter
  cases h with
  | join => rfl
  | stop | start | hangUp | goJoin | spawn | fail | getStatus | loadExitCode | loadExitSignal
  | report => contradiction
  | signalGroup _ signal _ howner | noGroup _ signal _ howner | signalProcess _ signal _ howner =>
    -- a hang-up is followed by the join
    cases signal with
    | hup => contradiction
    | term | kill => exact halone (congrArg OwnerPoint.alone howner)
  | closeAndWait _ _ howner | close _ _ howner | reaps _ _ _ _ _ howner | timesOut _ _ _ _ howner
  | polls _ _ _ _ _ howner | waitFails _ _ _ _ howner | lastStore _ _ howner | store _ _ _ _ howner
  | notOver _ howner | ended _ howner | returns _ howner | begin howner | fork _ _ howner
  | forkFails howner | adopt _ _ howner =>
    apply halone
    rw [howner]
    first | rfl | exact hafter

/-- All interleavings of the owner and the reader. -/
def ptySystem : TransitionSystem Pty PtyAction where
  init pty := pty = {}
  step pty action pty' := pty.step action = some pty'

/-- Nothing is assumed of the order of steps, nor of the system calls. -/
abbrev AnyPtyOrder (_ : Pty) (_ : PtyAction) : Prop := True

/-- A step may end the session, whose log then joins those of earlier sessions. -/
theorem ended_of_step {pty pty' : Pty} {action : PtyAction}
    (hstep : ptySystem.step pty action pty') :
    pty'.ended = pty.ended ∨ pty'.ended = pty.log :: pty.ended := by
  cases action with
  | owner action => cases ownerOutcome_of_step hstep <;> first | exact .inl rfl | exact .inr rfl
  | reader action => cases readerOutcome_of_step hstep <;> exact .inl rfl

/-- No reader exists while the owner is alone. -/
theorem alone_of_reachable {allowed : Pty → PtyAction → Prop} {pty : Pty}
    (hreachable : ptySystem.Reachable allowed pty) : pty.Alone := by
  apply TransitionSystem.Reachable.invariant _ _ hreachable
  · rintro _ rfl _
    rfl
  · intro pty action pty' _ ih _ hstep
    cases action with
    | owner action => exact ih.ownerStep (ownerOutcome_of_step hstep)
    | reader action =>
      intro halone
      obtain ⟨howner, hactive, -⟩ := (readerOutcome_of_step hstep).keeps
      rw [howner] at halone
      exact absurd (ih halone) hactive

/-- A run from the initial state, every step of which is allowed. -/
theorem ptyReachable_of_runSteps {allowed : Pty → PtyAction → Prop}
    [∀ pty action, Decidable (allowed pty action)] {pty : Pty} (actions : List PtyAction)
    (hrun : TransitionSystem.runSteps
      (fun pty action => if allowed pty action then pty.step action else none) {} actions =
        some pty) :
    ptySystem.Reachable allowed pty := by
  apply TransitionSystem.Reachable.runSteps _ actions _ (.init rfl) hrun
  intro pty action pty' hstep
  by_cases hallowed : allowed pty action
  · rw [if_pos hallowed] at hstep
    exact ⟨hallowed, hstep⟩
  · rw [if_neg hallowed] at hstep
    contradiction

/-- `Start` up to the reader's `waitpid`, with the end of the child's output between. -/
def startAndExit (child : Int) : List PtyAction :=
  [.owner .start, .owner .readChild, .owner .join, .owner .close, .owner .store, .owner .loadState,
    .owner .returns, .owner .begin, .owner .store, .owner .store, .owner .store,
    .owner (.fork 5 child), .owner .adopt, .owner .store, .owner .store, .owner .store,
    .owner .spawn, .reader .testLoop, .reader .readFails, .reader .testLeave, .reader .lookUp]

end SakuraTerminal.Transport
