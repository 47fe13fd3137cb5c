import SakuraTerminal.Foundations.Resources
import SakuraTerminal.Transport.PtyLifecycle

/-!
# The handles of a ConPTY session

`ConPtySession` (`src/conpty_session.cpp`), for its handles and its status: `Start`, `Stop`,
`Write`, `Resize`, `GetStatus` and the exit path of `ReadLoop`. Every access of an atomic, every
system call on a handle and every critical section of `io_mutex_` in `Start`, `Stop` and `ReadLoop`
is one step. `Write` and `Resize` may be called by any thread and hold `io_mutex_` while they call
the system, so one caller at most is inside of them. Output and its queue are in `Session`.

What the system calls return is open, except that it hands out no handle twice. A handle that the
system numbers anew is another handle here, so a use of the old one is seen.

`Start` calls `Stop` first, so both share their points in `ConPtyOwner`, told apart by `restart`. A
point carries what the source has in local variables there: the handles that `Stop` has moved out of
the members, or those that `Start` has opened so far. Calls whose results nobody looks at
(`SystemCall`) are made one after another by `afterCalls`; where a result decides how the source
goes on, it is a parameter of the action.

`ConPtyOwnerOutcome` and its siblings say what a step can do, with the guard of each as a
hypothesis. The invariants of the modules that follow are proved from them and never unfold a step
function.
-/

set_option autoImplicit false

namespace SakuraTerminal.Transport

open SakuraTerminal.Foundations

/-! ## Handles and calls -/

/-- What has to be closed, each kind by a function of its own. -/
inductive ConPtyResource where
  /-- `CloseHandle`. -/
  | handle (id : Nat)
  /-- `ClosePseudoConsole`. -/
  | console (id : Nat)
  /-- `DeleteProcThreadAttributeList`. -/
  | attributes (id : Nat)
  deriving DecidableEq, Repr

/-- The members of the session that are handles; the source keeps all of them as `void*`. A null
pointer is `none`. -/
structure ConPtyHandles where
  inputWrite : Option Nat := none
  outputRead : Option Nat := none
  pseudoConsole : Option Nat := none
  processHandle : Option Nat := none
  processJob : Option Nat := none
  deriving DecidableEq, Repr

/-- The calls on handles whose results are not looked at. -/
inductive SystemCall where
  | terminateJobObject (job : Nat)
  | terminateProcess (process : Nat)
  | cancelIoEx (output : Nat)
  | waitForSingleObject (process : Nat)
  | closeHandle (handle : Nat)
  | closePseudoConsole (console : Nat)
  | deleteProcThreadAttributeList (attributes : Nat)
  deriving DecidableEq, Repr

/-- What a call does to its handle: it closes it or only uses it. -/
def SystemCall.effect : SystemCall → ResourceCall ConPtyResource
  | .terminateJobObject job => .use (.handle job)
  | .terminateProcess process => .use (.handle process)
  | .cancelIoEx output => .use (.handle output)
  | .waitForSingleObject process => .use (.handle process)
  | .closeHandle handle => .release (.handle handle)
  | .closePseudoConsole console => .release (.console console)
  | .deleteProcThreadAttributeList attributes => .release (.attributes attributes)

/-- A call on a handle that may be null, which is then left out. -/
def ifOpen (call : Nat → SystemCall) (handle : Option Nat) : List SystemCall :=
  (handle.map call).toList

/-! ## The members -/

/-- The members that `Start`, `Stop`, `GetStatus` and `ReadLoop` share. The stores of the first six
are atomic; the handles are accessed under `io_mutex_`, by `Start`, `Stop` and the callers of
`Write` and `Resize`. -/
structure ConPtyMembers where
  stopRequested : Bool := false
  running : Bool := false
  state : TransportState := .stopped
  exitCode : Int := -1
  exitSignal : Int := 0
  exitCodeValid : Bool := false
  handles : ConPtyHandles := {}
  deriving DecidableEq, Repr

/-- The members after one store into an atomic. -/
def ConPtyMembers.store (members : ConPtyMembers) : AtomicStore → ConPtyMembers
  | .stopRequested value => { members with stopRequested := value }
  | .running value => { members with running := value }
  | .state value => { members with state := value }
  | .exitCode value => { members with exitCode := value }
  | .exitSignal value => { members with exitSignal := value }
  | .exitCodeValid value => { members with exitCodeValid := value }

@[simp]
theorem ConPtyMembers.store_handles (members : ConPtyMembers) (store : AtomicStore) :
    (members.store store).handles = members.handles := by
  cases store <;> rfl

/-! ## Where the threads are -/

/-- Where the reader is in `ReadLoop`. A handle in a point is the copy that the reader has in a
local variable. -/
inductive ConPtyReader where
  /-- There is no reader thread. -/
  | none
  /-- Before the test of `stop_requested_` in the loop. -/
  | loop (output : Nat)
  /-- In `ReadFile`. -/
  | readFile (output : Nat)
  /-- Behind the loop, before `stop_requested_` is tested. -/
  | leave
  /-- Before the critical section that reads `process_handle_`. -/
  | lookUp
  /-- In the condition of the wait, before `stop_requested_` is tested. -/
  | testWait (process : Nat)
  | waitForProcess (process : Nat)
  /-- Behind the wait, before `stop_requested_` is tested. -/
  | testRecord (process : Option Nat)
  | getExitCode (process : Nat)
  /-- In `RecordExitCode`. -/
  | record (first : AtomicStore) (rest : List AtomicStore)
  /-- Before `Exited` is stored. -/
  | publish
  /-- Before `running_` is cleared. -/
  | clear
  | finished
  deriving DecidableEq, Repr

/-- What the two calls of `CreatePipe` made. `Start` gives two of the four ends to the new process
and closes them once it runs. -/
structure ConPtyPipes where
  inputRead : Nat
  inputWrite : Nat
  outputRead : Nat
  outputWrite : Nat
  deriving DecidableEq, Repr

/-- Where the owner is; `restart` is set in the `Stop` that `Start` calls. -/
inductive ConPtyOwner where
  /-- Outside of all functions of the session. -/
  | ready
  /-- `Stop`, before the critical section. -/
  | moveOut (restart : Bool)
  | join (restart : Bool) (taken : ConPtyHandles)
  /-- `Stop`, before `exit_code_valid_` is loaded. -/
  | testValid (restart : Bool) (process : Nat) (job : Option Nat)
  | getExitCode (restart : Bool) (process : Nat) (job : Option Nat)
  /-- Calls that remain to be made before the owner goes on. -/
  | calls (first : SystemCall) (rest : List SystemCall) (next : ConPtyOwner)
  /-- Stores that remain to be made before the owner goes on. -/
  | store (first : AtomicStore) (rest : List AtomicStore) (next : ConPtyOwner)
  /-- `Stop`, before `state_` is loaded. -/
  | loadState (restart : Bool)
  /-- The end of `Stop`. -/
  | stopped (restart : Bool)
  /-- `Start`, before `Starting` is stored. -/
  | begin
  | createInputPipe
  | createOutputPipe (inputRead inputWrite : Nat)
  | createPseudoConsole (pipes : ConPtyPipes)
  | attributeListSize (pipes : ConPtyPipes) (console : Nat)
  | initializeAttributeList (pipes : ConPtyPipes) (console : Nat)
  | updateAttribute (pipes : ConPtyPipes) (console attributes : Nat)
  | createProcess (pipes : ConPtyPipes) (console attributes : Nat)
  | createJobObject (handles : ConPtyHandles) (process : Nat)
  | setInformation (handles : ConPtyHandles) (process job : Nat)
  | assignProcess (handles : ConPtyHandles) (process job : Nat)
  /-- `Start`, before the critical section. -/
  | adopt (handles : ConPtyHandles)
  | spawn (output : Nat)
  /-- `Start`, before `Failed` is stored. -/
  | fail
  /-- `GetStatus`, with what it loaded so far. -/
  | loadExitCode (state : TransportState)
  | loadExitSignal (state : TransportState) (exitCode : Int)
  | loadExitCodeValid (state : TransportState) (exitCode exitSignal : Int)
  deriving DecidableEq, Repr

/-- The thread inside of `Write` or `Resize`, which holds `io_mutex_`. A second caller waits for the
lock, which is a step not taken. -/
inductive ConPtyCaller where
  | none
  /-- In the loop of `Write`. -/
  | writeFile (input : Nat)
  | resize (console : Nat)
  deriving DecidableEq, Repr

/-! ## The state -/

/-- What `GetStatus` returned, and the exit codes recorded in the session by then. -/
structure ConPtyReport where
  status : TransportStatus
  recorded : List Int
  deriving DecidableEq, Repr

/-- What happened in a session, for the theorems only; a session begins when `Start` stores
`Starting`. -/
structure ConPtyLog where
  /-- The values stored into `state_`. -/
  published : List TransportState := []
  /-- The exit codes that `RecordExitCode` obtained, on either thread. -/
  recorded : List Int := []
  reports : List ConPtyReport := []
  deriving DecidableEq, Repr

/-- How the last call of `Start` or `Stop` ended. -/
inductive ConPtyReturned where
  | stopped
  | started
  | failed
  deriving DecidableEq, Repr

/-- A session with its threads. `table` knows of every handle whether it is open or was closed, and
whether any was used or closed when it was not open. -/
structure ConPty where
  members : ConPtyMembers := {}
  reader : ConPtyReader := .none
  owner : ConPtyOwner := .ready
  caller : ConPtyCaller := .none
  table : ResourceTable ConPtyResource := {}
  log : ConPtyLog := {}
  /-- The logs of earlier sessions. -/
  ended : List ConPtyLog := []
  returned : ConPtyReturned := .stopped
  deriving DecidableEq, Repr

/-! ## Continuations -/

/-- The owner makes the calls and goes on. -/
def ConPtyOwner.afterCalls (next : ConPtyOwner) : List SystemCall → ConPtyOwner
  | [] => next
  | first :: rest => .calls first rest next

/-- The end of `Stop`, from `running_.store(false)` on. -/
def ConPtyOwner.endStop (restart : Bool) : ConPtyOwner :=
  .store (.running false) [] (.loadState restart)

/-- `Stop` up to the join. -/
def ConPtyOwner.terminate (restart : Bool) (taken : ConPtyHandles) : ConPtyOwner :=
  (ConPtyOwner.join restart taken).afterCalls
    (ifOpen .terminateJobObject taken.processJob ++ ifOpen .terminateProcess taken.processHandle ++
      ifOpen .cancelIoEx taken.outputRead)

/-- `Stop` behind the join. -/
def ConPtyOwner.closeAll (restart : Bool) (taken : ConPtyHandles) : ConPtyOwner :=
  let closed := ifOpen .closeHandle taken.outputRead ++ ifOpen .closeHandle taken.inputWrite ++
    ifOpen .closePseudoConsole taken.pseudoConsole
  match taken.processHandle with
  | some process =>
    (ConPtyOwner.testValid restart process taken.processJob).afterCalls
      (closed ++ [.waitForSingleObject process])
  | none =>
    (ConPtyOwner.endStop restart).afterCalls (closed ++ ifOpen .closeHandle taken.processJob)

/-- `Stop`, once the exit code is known. -/
def ConPtyOwner.closeProcess (restart : Bool) (process : Nat) (job : Option Nat) : ConPtyOwner :=
  .calls (.closeHandle process) (ifOpen .closeHandle job) (.endStop restart)

/-- The calls of `CloseHandle` for the pipes where `Start` fails. -/
def ConPtyPipes.close (pipes : ConPtyPipes) : List SystemCall :=
  [.closeHandle pipes.inputRead, .closeHandle pipes.outputWrite, .closeHandle pipes.inputWrite,
    .closeHandle pipes.outputRead]

/-- `Start` behind `CreateProcessW`, where the process was not created. -/
def ConPtyOwner.notCreated (pipes : ConPtyPipes) (console attributes : Nat) : ConPtyOwner :=
  .calls (.deleteProcThreadAttributeList attributes)
    [.closeHandle pipes.inputRead, .closeHandle pipes.outputWrite, .closePseudoConsole console,
      .closeHandle pipes.inputWrite, .closeHandle pipes.outputRead]
    .fail

/-- `Start` behind `CreateProcessW`, where the process was created. -/
def ConPtyOwner.created (pipes : ConPtyPipes) (console attributes process : Nat)
    (thread : Option Nat) : ConPtyOwner :=
  .calls (.deleteProcThreadAttributeList attributes)
    ([.closeHandle pipes.inputRead, .closeHandle pipes.outputWrite] ++ ifOpen .closeHandle thread)
    (.createJobObject
      { inputWrite := some pipes.inputWrite
        outputRead := some pipes.outputRead
        pseudoConsole := some console
        processHandle := some process }
      process)

/-! ## Steps -/

/-- A store by either thread. -/
def ConPty.store (pty : ConPty) (store : AtomicStore) : ConPty :=
  { pty with
    members := pty.members.store store
    log :=
      match store with
      | .state value => { pty.log with published := pty.log.published ++ [value] }
      | _ => pty.log }

/-- The system uses a handle in a call. -/
def ConPty.use (pty : ConPty) (resource : ConPtyResource) : ConPty :=
  { pty with table := pty.table.use resource }

/-- The system opens handles. -/
def ConPty.acquire (pty : ConPty) (resources : List ConPtyResource) : ConPty :=
  { pty with table := pty.table.acquire resources }

/-- The steps of the owner, with what the system answered. The actions are named after the calls and
the tests of the source. -/
inductive ConPtyOwnerAction where
  | stop
  | start
  | moveOut
  | call
  | join
  | testValid
  /-- `GetExitCodeProcess`: a code other than `STILL_ACTIVE`, or nothing. -/
  | getExitCode (code : Option Int)
  | store
  | loadState
  | returns
  | begin
  /-- `CreatePipe`: the ends for reading and for writing. -/
  | createPipe (ends : Option (Nat × Nat))
  | createPseudoConsole (console : Option Nat)
  /-- `InitializeProcThreadAttributeList` without a list, which returns the size. -/
  | attributeListSize (known : Bool)
  | initializeAttributeList (attributes : Option Nat)
  | updateAttribute (succeeds : Bool)
  /-- `CreateProcessW`: the process and its thread. -/
  | createProcess (created : Option (Nat × Option Nat))
  | createJobObject (job : Option Nat)
  | setInformation (succeeds : Bool)
  | assignProcess (succeeds : Bool)
  | adopt
  | spawn
  | fail
  /-- `GetStatus` up to its first load. -/
  | getStatus
  | loadExitCode
  | loadExitSignal
  | loadExitCodeValid
  deriving DecidableEq, Repr

/-- The step of the owner that an action stands for, if the owner is at such a point. -/
def ConPty.ownerStep (pty : ConPty) : ConPtyOwnerAction → Option ConPty
  | .stop =>
    match pty.owner with
    | .ready => some { pty.store (.stopRequested true) with owner := .moveOut false }
    | _ => none
  | .start =>
    match pty.owner with
    | .ready => some { pty.store (.stopRequested true) with owner := .moveOut true }
    | _ => none
  | .moveOut =>
    match pty.owner, pty.caller with
    | .moveOut restart, .none =>
      some { pty with
        members := { pty.members with handles := {} }
        owner := .terminate restart pty.members.handles }
    | _, _ => none
  | .call =>
    match pty.owner with
    | .calls first rest next =>
      some { pty with
        table := pty.table.perform first.effect
        owner := next.afterCalls rest }
    | _ => none
  | .join =>
    match pty.owner with
    | .join restart taken =>
      -- a thread that does not exist is not joinable
      if pty.reader = .none ∨ pty.reader = .finished then
        some { pty with reader := .none, owner := .closeAll restart taken }
      else none
    | _ => none
  | .testValid =>
    match pty.owner with
    | .testValid restart process job =>
      some { pty with
        owner := if pty.members.exitCodeValid then .closeProcess restart process job
          else .getExitCode restart process job }
    | _ => none
  | .getExitCode code =>
    match pty.owner with
    | .getExitCode restart process job =>
      match code with
      | some code =>
        some { pty.use (.handle process) with
          owner := .store (.exitCode code) [.exitCodeValid true]
            (.closeProcess restart process job)
          log := { pty.log with recorded := code :: pty.log.recorded } }
      | none =>
        some { pty.use (.handle process) with owner := .closeProcess restart process job }
    | _ => none
  | .store =>
    match pty.owner with
    | .store first rest next =>
      some { pty.store first with
        owner :=
          match rest with
          | [] => next
          | second :: rest => .store second rest next }
    | _ => none
  | .loadState =>
    match pty.owner with
    | .loadState restart =>
      some { pty with
        owner :=
          if pty.members.state = .starting ∨ pty.members.state = .running then
            .store (.state .stopped) [] (.stopped restart)
          else .stopped restart }
    | _ => none
  | .returns =>
    match pty.owner with
    | .stopped restart =>
      some { pty with
        owner := if restart then .begin else .ready
        returned := .stopped }
    | _ => none
  | .begin =>
    match pty.owner with
    | .begin =>
      some { pty with
        members := pty.members.store (.state .starting)
        owner := .store (.exitCode (-1)) [.exitSignal 0, .exitCodeValid false] .createInputPipe
        log := { published := [.starting] }
        ended := pty.log :: pty.ended }
    | _ => none
  | .createPipe none =>
    match pty.owner with
    | .createInputPipe => some { pty with owner := .fail }
    | .createOutputPipe inputRead inputWrite =>
      some { pty with
        owner := .calls (.closeHandle inputRead) [.closeHandle inputWrite] .fail }
    | _ => none
  | .createPipe (some (read, write)) =>
    if pty.table.Fresh [.handle read, .handle write] then
      match pty.owner with
      | .createInputPipe =>
        some { pty.acquire [.handle read, .handle write] with
          owner := .createOutputPipe read write }
      | .createOutputPipe inputRead inputWrite =>
        some { pty.acquire [.handle read, .handle write] with
          owner := .createPseudoConsole ⟨inputRead, inputWrite, read, write⟩ }
      | _ => none
    else none
  | .createPseudoConsole console =>
    match pty.owner with
    | .createPseudoConsole pipes =>
      let used := (pty.use (.handle pipes.inputRead)).use (.handle pipes.outputWrite)
      match console with
      | some console =>
        if pty.table.Fresh [.console console] then
          some { used.acquire [.console console] with owner := .attributeListSize pipes console }
        else none
      | none => some { used with owner := ConPtyOwner.fail.afterCalls pipes.close }
    | _ => none
  | .attributeListSize known =>
    match pty.owner with
    | .attributeListSize pipes console =>
      some { pty with
        owner :=
          if known then .initializeAttributeList pipes console
          else .calls (.closePseudoConsole console) pipes.close .fail }
    | _ => none
  | .initializeAttributeList attributes =>
    match pty.owner with
    | .initializeAttributeList pipes console =>
      match attributes with
      | some attributes =>
        if pty.table.Fresh [.attributes attributes] then
          some { pty.acquire [.attributes attributes] with
            owner := .updateAttribute pipes console attributes }
        else none
      | none =>
        some { pty with owner := .calls (.closePseudoConsole console) pipes.close .fail }
    | _ => none
  | .updateAttribute succeeds =>
    match pty.owner with
    | .updateAttribute pipes console attributes =>
      some { (pty.use (.attributes attributes)).use (.console console) with
        owner :=
          if succeeds then .createProcess pipes console attributes
          else .calls (.deleteProcThreadAttributeList attributes)
            (.closePseudoConsole console :: pipes.close) .fail }
    | _ => none
  | .createProcess created =>
    match pty.owner with
    | .createProcess pipes console attributes =>
      let used := (pty.use (.attributes attributes)).use (.console console)
      match created with
      | some (process, thread) =>
        let opened := .handle process :: (thread.map .handle).toList
        if pty.table.Fresh opened then
          some { used.acquire opened with
            owner := .created pipes console attributes process thread }
        else none
      | none => some { used with owner := .notCreated pipes console attributes }
    | _ => none
  | .createJobObject job =>
    match pty.owner with
    | .createJobObject handles process =>
      match job with
      | some job =>
        if pty.table.Fresh [.handle job] then
          some { pty.acquire [.handle job] with owner := .setInformation handles process job }
        else none
      | none => some { pty with owner := .adopt handles }
    | _ => none
  | .setInformation succeeds =>
    match pty.owner with
    | .setInformation handles process job =>
      some { pty.use (.handle job) with
        owner :=
          if succeeds then .assignProcess handles process job
          else .calls (.closeHandle job) [] (.adopt handles) }
    | _ => none
  | .assignProcess succeeds =>
    match pty.owner with
    | .assignProcess handles process job =>
      some { (pty.use (.handle job)).use (.handle process) with
        owner :=
          if succeeds then .adopt { handles with processJob := some job }
          else .calls (.closeHandle job) [] (.adopt handles) }
    | _ => none
  | .adopt =>
    match pty.owner, pty.caller with
    | .adopt handles, .none =>
      match handles.outputRead with
      | some output =>
        some { pty with
          members := { pty.members with handles }
          owner := .store (.stopRequested false) [.running true, .state .running] (.spawn output) }
      -- `Start` has opened the pipe
      | none => none
    | _, _ => none
  | .spawn =>
    match pty.owner with
    | .spawn output =>
      some { pty with reader := .loop output, owner := .ready, returned := .started }
    | _ => none
  | .fail =>
    match pty.owner with
    | .fail => some { pty.store (.state .failed) with owner := .ready, returned := .failed }
    | _ => none
  | .getStatus =>
    match pty.owner with
    | .ready => some { pty with owner := .loadExitCode pty.members.state }
    | _ => none
  | .loadExitCode =>
    match pty.owner with
    | .loadExitCode state => some { pty with owner := .loadExitSignal state pty.members.exitCode }
    | _ => none
  | .loadExitSignal =>
    match pty.owner with
    | .loadExitSignal state exitCode =>
      some { pty with owner := .loadExitCodeValid state exitCode pty.members.exitSignal }
    | _ => none
  | .loadExitCodeValid =>
    match pty.owner with
    | .loadExitCodeValid state exitCode exitSignal =>
      some { pty with
        owner := .ready
        log := { pty.log with reports := pty.log.reports ++
          [⟨⟨state, exitCode, exitSignal, pty.members.exitCodeValid⟩, pty.log.recorded⟩] } }
    | _ => none

/-- The steps of the reader. Each turn of its two loops begins with a test of `stop_requested_`,
which is a step of its own. -/
inductive ConPtyReaderAction where
  | testLoop
  /-- `ReadFile` has returned, with output or without. -/
  | readFile (received : Bool)
  | testLeave
  | lookUp
  | testWait
  /-- `WaitForSingleObject` has returned, with `WAIT_TIMEOUT` or otherwise. -/
  | wait (timeout : Bool)
  | testRecord
  | getExitCode (code : Option Int)
  | store
  | publish
  | clear
  deriving DecidableEq, Repr

/-- The step of the reader that an action stands for, if the reader is at such a point. -/
def ConPty.readerStep (pty : ConPty) : ConPtyReaderAction → Option ConPty
  | .testLoop =>
    match pty.reader with
    | .loop output =>
      some { pty with
        reader := if pty.members.stopRequested then .leave else .readFile output }
    | _ => none
  | .readFile received =>
    match pty.reader with
    | .readFile output =>
      some { pty.use (.handle output) with
        reader := if received then .loop output else .leave }
    | _ => none
  | .testLeave =>
    match pty.reader with
    | .leave => some { pty with reader := if pty.members.stopRequested then .clear else .lookUp }
    | _ => none
  | .lookUp =>
    match pty.reader, pty.caller with
    | .lookUp, .none =>
      some { pty with
        reader :=
          match pty.members.handles.processHandle with
          | some process => .testWait process
          | none => .testRecord none }
    | _, _ => none
  | .testWait =>
    match pty.reader with
    | .testWait process =>
      some { pty with
        reader := if pty.members.stopRequested then .testRecord (some process)
          else .waitForProcess process }
    | _ => none
  | .wait timeout =>
    match pty.reader with
    | .waitForProcess process =>
      some { pty.use (.handle process) with
        reader := if timeout then .testWait process else .testRecord (some process) }
    | _ => none
  | .testRecord =>
    match pty.reader with
    | .testRecord process =>
      some { pty with
        reader :=
          match pty.members.stopRequested, process with
          | false, some process => .getExitCode process
          | _, _ => .publish }
    | _ => none
  | .getExitCode code =>
    match pty.reader with
    | .getExitCode process =>
      match code with
      | some code =>
        some { pty.use (.handle process) with
          reader := .record (.exitCode code) [.exitCodeValid true]
          log := { pty.log with recorded := code :: pty.log.recorded } }
      | none => some { pty.use (.handle process) with reader := .publish }
    | _ => none
  | .store =>
    match pty.reader with
    | .record first rest =>
      some { pty.store first with
        reader :=
          match rest with
          | [] => .publish
          | second :: rest => .record second rest }
    | _ => none
  | .publish =>
    match pty.reader with
    | .publish => some { pty.store (.state .exited) with reader := .clear }
    | _ => none
  | .clear =>
    match pty.reader with
    | .clear => some { pty.store (.running false) with reader := .finished }
    | _ => none

/-- The steps of a caller inside of `Write` or `Resize`. -/
inductive ConPtyCallerAction where
  /-- `Write` takes the lock and finds the input open. -/
  | write
  /-- One `WriteFile` in the loop. -/
  | writeFile
  /-- `Resize` takes the lock and finds the console open. -/
  | resize
  | resizePseudoConsole
  /-- The lock is released. -/
  | returns
  deriving DecidableEq, Repr

/-- Where the handle is null, `Write` and `Resize` return at once and nothing changes. -/
def ConPty.callerStep (pty : ConPty) : ConPtyCallerAction → Option ConPty
  | .write =>
    match pty.caller, pty.members.handles.inputWrite with
    | .none, some input => some { pty with caller := .writeFile input }
    | _, _ => none
  | .writeFile =>
    match pty.caller with
    | .writeFile input => some (pty.use (.handle input))
    | _ => none
  | .resize =>
    match pty.caller, pty.members.handles.pseudoConsole with
    | .none, some console => some { pty with caller := .resize console }
    | _, _ => none
  | .resizePseudoConsole =>
    match pty.caller with
    | .resize console => some (pty.use (.console console))
    | _ => none
  | .returns =>
    match pty.caller with
    | .none => none
    | _ => some { pty with caller := .none }

/-- A step of one of the three; which one comes next is open. -/
inductive ConPtyAction where
  | owner (action : ConPtyOwnerAction)
  | reader (action : ConPtyReaderAction)
  | caller (action : ConPtyCallerAction)
  deriving DecidableEq, Repr

/-- A step of the session. -/
def ConPty.step (pty : ConPty) : ConPtyAction → Option ConPty
  | .owner action => pty.ownerStep action
  | .reader action => pty.readerStep action
  | .caller action => pty.callerStep action

/-! ## What a step can do -/

/-- What a step of the owner can do, one constructor for each branch of the source. -/
inductive ConPtyOwnerOutcome (pty : ConPty) : ConPtyOwnerAction → ConPty → Prop where
  | stop (howner : pty.owner = .ready) :
      ConPtyOwnerOutcome pty .stop
        { pty.store (.stopRequested true) with owner := .moveOut false }
  | start (howner : pty.owner = .ready) :
      ConPtyOwnerOutcome pty .start
        { pty.store (.stopRequested true) with owner := .moveOut true }
  | moveOut (restart : Bool) (howner : pty.owner = .moveOut restart)
      (hcaller : pty.caller = .none) :
      ConPtyOwnerOutcome pty .moveOut
        { pty with
          members := { pty.members with handles := {} }
          owner := .terminate restart pty.members.handles }
  | call (first : SystemCall) (rest : List SystemCall) (next : ConPtyOwner)
      (howner : pty.owner = .calls first rest next) :
      ConPtyOwnerOutcome pty .call
        { pty with table := pty.table.perform first.effect, owner := next.afterCalls rest }
  | join (restart : Bool) (taken : ConPtyHandles) (howner : pty.owner = .join restart taken)
      (hreader : pty.reader = .none ∨ pty.reader = .finished) :
      ConPtyOwnerOutcome pty .join
        { pty with reader := .none, owner := .closeAll restart taken }
  | valid (restart : Bool) (process : Nat) (job : Option Nat)
      (howner : pty.owner = .testValid restart process job)
      (hvalid : pty.members.exitCodeValid = true) :
      ConPtyOwnerOutcome pty .testValid
        { pty with owner := .closeProcess restart process job }
  | notValid (restart : Bool) (process : Nat) (job : Option Nat)
      (howner : pty.owner = .testValid restart process job)
      (hvalid : pty.members.exitCodeValid = false) :
      ConPtyOwnerOutcome pty .testValid
        { pty with owner := .getExitCode restart process job }
  | exitCode (restart : Bool) (process : Nat) (job : Option Nat) (code : Int)
      (howner : pty.owner = .getExitCode restart process job) :
      ConPtyOwnerOutcome pty (.getExitCode (some code))
        { pty.use (.handle process) with
          owner := .store (.exitCode code) [.exitCodeValid true]
            (.closeProcess restart process job)
          log := { pty.log with recorded := code :: pty.log.recorded } }
  | noExitCode (restart : Bool) (process : Nat) (job : Option Nat)
      (howner : pty.owner = .getExitCode restart process job) :
      ConPtyOwnerOutcome pty (.getExitCode none)
        { pty.use (.handle process) with owner := .closeProcess restart process job }
  | lastStore (first : AtomicStore) (next : ConPtyOwner)
      (howner : pty.owner = .store first [] next) :
      ConPtyOwnerOutcome pty .store { pty.store first with owner := next }
  | store (first second : AtomicStore) (rest : List AtomicStore) (next : ConPtyOwner)
      (howner : pty.owner = .store first (second :: rest) next) :
      ConPtyOwnerOutcome pty .store { pty.store first with owner := .store second rest next }
  | notOver (restart : Bool) (howner : pty.owner = .loadState restart)
      (hstate : pty.members.state = .starting ∨ pty.members.state = .running) :
      ConPtyOwnerOutcome pty .loadState
        { pty with owner := .store (.state .stopped) [] (.stopped restart) }
  | ended (restart : Bool) (howner : pty.owner = .loadState restart)
      (hstate : ¬(pty.members.state = .starting ∨ pty.members.state = .running)) :
      ConPtyOwnerOutcome pty .loadState { pty with owner := .stopped restart }
  | returns (restart : Bool) (howner : pty.owner = .stopped restart) :
      ConPtyOwnerOutcome pty .returns
        { pty with owner := if restart then .begin else .ready, returned := .stopped }
  | begin (howner : pty.owner = .begin) :
      ConPtyOwnerOutcome pty .begin
        { pty with
          members := pty.members.store (.state .starting)
          owner := .store (.exitCode (-1)) [.exitSignal 0, .exitCodeValid false] .createInputPipe
          log := { published := [.starting] }
          ended := pty.log :: pty.ended }
  | noInputPipe (howner : pty.owner = .createInputPipe) :
      ConPtyOwnerOutcome pty (.createPipe none) { pty with owner := .fail }
  | noOutputPipe (inputRead inputWrite : Nat)
      (howner : pty.owner = .createOutputPipe inputRead inputWrite) :
      ConPtyOwnerOutcome pty (.createPipe none)
        { pty with owner := .calls (.closeHandle inputRead) [.closeHandle inputWrite] .fail }
  | inputPipe (read write : Nat) (howner : pty.owner = .createInputPipe)
      (hfresh : pty.table.Fresh [.handle read, .handle write]) :
      ConPtyOwnerOutcome pty (.createPipe (some (read, write)))
        { pty.acquire [.handle read, .handle write] with owner := .createOutputPipe read write }
  | outputPipe (inputRead inputWrite read write : Nat)
      (howner : pty.owner = .createOutputPipe inputRead inputWrite)
      (hfresh : pty.table.Fresh [.handle read, .handle write]) :
      ConPtyOwnerOutcome pty (.createPipe (some (read, write)))
        { pty.acquire [.handle read, .handle write] with
          owner := .createPseudoConsole ⟨inputRead, inputWrite, read, write⟩ }
  | console (pipes : ConPtyPipes) (console : Nat) (howner : pty.owner = .createPseudoConsole pipes)
      (hfresh : pty.table.Fresh [.console console]) :
      ConPtyOwnerOutcome pty (.createPseudoConsole (some console))
        { ((pty.use (.handle pipes.inputRead)).use (.handle pipes.outputWrite)).acquire
            [.console console] with
          owner := .attributeListSize pipes console }
  | noConsole (pipes : ConPtyPipes) (howner : pty.owner = .createPseudoConsole pipes) :
      ConPtyOwnerOutcome pty (.createPseudoConsole none)
        { (pty.use (.handle pipes.inputRead)).use (.handle pipes.outputWrite) with
          owner := ConPtyOwner.fail.afterCalls pipes.close }
  | size (pipes : ConPtyPipes) (console : Nat)
      (howner : pty.owner = .attributeListSize pipes console) :
      ConPtyOwnerOutcome pty (.attributeListSize true)
        { pty with owner := .initializeAttributeList pipes console }
  | noSize (pipes : ConPtyPipes) (console : Nat)
      (howner : pty.owner = .attributeListSize pipes console) :
      ConPtyOwnerOutcome pty (.attributeListSize false)
        { pty with owner := .calls (.closePseudoConsole console) pipes.close .fail }
  | attributes (pipes : ConPtyPipes) (console attributes : Nat)
      (howner : pty.owner = .initializeAttributeList pipes console)
      (hfresh : pty.table.Fresh [.attributes attributes]) :
      ConPtyOwnerOutcome pty (.initializeAttributeList (some attributes))
        { pty.acquire [.attributes attributes] with
          owner := .updateAttribute pipes console attributes }
  | noAttributes (pipes : ConPtyPipes) (console : Nat)
      (howner : pty.owner = .initializeAttributeList pipes console) :
      ConPtyOwnerOutcome pty (.initializeAttributeList none)
        { pty with owner := .calls (.closePseudoConsole console) pipes.close .fail }
  | updated (pipes : ConPtyPipes) (console attributes : Nat)
      (howner : pty.owner = .updateAttribute pipes console attributes) :
      ConPtyOwnerOutcome pty (.updateAttribute true)
        { (pty.use (.attributes attributes)).use (.console console) with
          owner := .createProcess pipes console attributes }
  | notUpdated (pipes : ConPtyPipes) (console attributes : Nat)
      (howner : pty.owner = .updateAttribute pipes console attributes) :
      ConPtyOwnerOutcome pty (.updateAttribute false)
        { (pty.use (.attributes attributes)).use (.console console) with
          owner := .calls (.deleteProcThreadAttributeList attributes)
            (.closePseudoConsole console :: pipes.close) .fail }
  | created (pipes : ConPtyPipes) (console attributes process : Nat) (thread : Option Nat)
      (howner : pty.owner = .createProcess pipes console attributes)
      (hfresh : pty.table.Fresh (.handle process :: (thread.map .handle).toList)) :
      ConPtyOwnerOutcome pty (.createProcess (some (process, thread)))
        { ((pty.use (.attributes attributes)).use (.console console)).acquire
            (.handle process :: (thread.map .handle).toList) with
          owner := .created pipes console attributes process thread }
  | notCreated (pipes : ConPtyPipes) (console attributes : Nat)
      (howner : pty.owner = .createProcess pipes console attributes) :
      ConPtyOwnerOutcome pty (.createProcess none)
        { (pty.use (.attributes attributes)).use (.console console) with
          owner := .notCreated pipes console attributes }
  | job (handles : ConPtyHandles) (process job : Nat)
      (howner : pty.owner = .createJobObject handles process)
      (hfresh : pty.table.Fresh [.handle job]) :
      ConPtyOwnerOutcome pty (.createJobObject (some job))
        { pty.acquire [.handle job] with owner := .setInformation handles process job }
  | noJob (handles : ConPtyHandles) (process : Nat)
      (howner : pty.owner = .createJobObject handles process) :
      ConPtyOwnerOutcome pty (.createJobObject none) { pty with owner := .adopt handles }
  | limited (handles : ConPtyHandles) (process job : Nat)
      (howner : pty.owner = .setInformation handles process job) :
      ConPtyOwnerOutcome pty (.setInformation true)
        { pty.use (.handle job) with owner := .assignProcess handles process job }
  | notLimited (handles : ConPtyHandles) (process job : Nat)
      (howner : pty.owner = .setInformation handles process job) :
      ConPtyOwnerOutcome pty (.setInformation false)
        { pty.use (.handle job) with owner := .calls (.closeHandle job) [] (.adopt handles) }
  | assigned (handles : ConPtyHandles) (process job : Nat)
      (howner : pty.owner = .assignProcess handles process job) :
      ConPtyOwnerOutcome pty (.assignProcess true)
        { (pty.use (.handle job)).use (.handle process) with
          owner := .adopt { handles with processJob := some job } }
  | notAssigned (handles : ConPtyHandles) (process job : Nat)
      (howner : pty.owner = .assignProcess handles process job) :
      ConPtyOwnerOutcome pty (.assignProcess false)
        { (pty.use (.handle job)).use (.handle process) with
          owner := .calls (.closeHandle job) [] (.adopt handles) }
  | adopt (handles : ConPtyHandles) (output : Nat) (howner : pty.owner = .adopt handles)
      (hcaller : pty.caller = .none) (houtput : handles.outputRead = some output) :
      ConPtyOwnerOutcome pty .adopt
        { pty with
          members := { pty.members with handles }
          owner := .store (.stopRequested false) [.running true, .state .running] (.spawn output) }
  | spawn (output : Nat) (howner : pty.owner = .spawn output) :
      ConPtyOwnerOutcome pty .spawn
        { pty with reader := .loop output, owner := .ready, returned := .started }
  | fail (howner : pty.owner = .fail) :
      ConPtyOwnerOutcome pty .fail
        { pty.store (.state .failed) with owner := .ready, returned := .failed }
  | getStatus (howner : pty.owner = .ready) :
      ConPtyOwnerOutcome pty .getStatus { pty with owner := .loadExitCode pty.members.state }
  | loadExitCode (state : TransportState) (howner : pty.owner = .loadExitCode state) :
      ConPtyOwnerOutcome pty .loadExitCode
        { pty with owner := .loadExitSignal state pty.members.exitCode }
  | loadExitSignal (state : TransportState) (exitCode : Int)
      (howner : pty.owner = .loadExitSignal state exitCode) :
      ConPtyOwnerOutcome pty .loadExitSignal
        { pty with owner := .loadExitCodeValid state exitCode pty.members.exitSignal }
  | report (state : TransportState) (exitCode exitSignal : Int)
      (howner : pty.owner = .loadExitCodeValid state exitCode exitSignal) :
      ConPtyOwnerOutcome pty .loadExitCodeValid
        { pty with
          owner := .ready
          log := { pty.log with reports := pty.log.reports ++
            [⟨⟨state, exitCode, exitSignal, pty.members.exitCodeValid⟩, pty.log.recorded⟩] } }

/-- Every step of the owner is one of the outcomes. This is the only place where `ownerStep` is
unfolded. -/
theorem conPtyOwnerOutcome_of_step {pty pty' : ConPty} {action : ConPtyOwnerAction}
    (hstep : pty.ownerStep action = some pty') : ConPtyOwnerOutcome pty action pty' := by
  -- each action has one point of the owner in which it is enabled
  cases action with
  | stop | start | call | returns | begin | spawn | fail | getStatus | loadExitCode
  | loadExitSignal | loadExitCodeValid =>
    simp only [ConPty.ownerStep] at hstep
    split at hstep
    · cases hstep
      constructor
      assumption
    · contradiction
  | moveOut =>
    simp only [ConPty.ownerStep] at hstep
    split at hstep
    next restart howner hcaller =>
      cases hstep
      exact .moveOut restart howner hcaller
    next => contradiction
  | join =>
    simp only [ConPty.ownerStep] at hstep
    split at hstep
    next restart taken howner =>
      by_cases hreader : pty.reader = .none ∨ pty.reader = .finished
      · rw [if_pos hreader] at hstep
        cases hstep
        exact .join restart taken howner hreader
      · rw [if_neg hreader] at hstep
        contradiction
    next => contradiction
  | testValid =>
    simp only [ConPty.ownerStep] at hstep
    split at hstep
    next restart process job howner =>
      cases hstep
      cases hvalid : pty.members.exitCodeValid with
      | true => exact .valid restart process job howner hvalid
      | false => exact .notValid restart process job howner hvalid
    next => contradiction
  | getExitCode code =>
    simp only [ConPty.ownerStep] at hstep
    split at hstep
    next restart process job howner =>
      cases code with
      | some code =>
        cases hstep
        exact .exitCode restart process job code howner
      | none =>
        cases hstep
        exact .noExitCode restart process job howner
    next => contradiction
  | store =>
    simp only [ConPty.ownerStep] at hstep
    split at hstep
    next first rest next howner =>
      cases hstep
      cases rest with
      | nil => exact .lastStore first next howner
      | cons second rest => exact .store first second rest next howner
    next => contradiction
  | loadState =>
    simp only [ConPty.ownerStep] at hstep
    split at hstep
    next restart howner =>
      cases hstep
      by_cases hstate : pty.members.state = .starting ∨ pty.members.state = .running
      · rw [if_pos hstate]
        exact .notOver restart howner hstate
      · rw [if_neg hstate]
        exact .ended restart howner hstate
    next => contradiction
  | createPipe ends =>
    cases ends with
    | none =>
      simp only [ConPty.ownerStep] at hstep
      split at hstep
      next howner =>
        cases hstep
        exact .noInputPipe howner
      next inputRead inputWrite howner =>
        cases hstep
        exact .noOutputPipe inputRead inputWrite howner
      next => contradiction
    | some ends =>
      simp only [ConPty.ownerStep] at hstep
      split at hstep
      next hfresh =>
        split at hstep
        next howner =>
          cases hstep
          exact .inputPipe _ _ howner hfresh
        next inputRead inputWrite howner =>
          cases hstep
          exact .outputPipe inputRead inputWrite _ _ howner hfresh
        next => contradiction
      next => contradiction
  | createPseudoConsole console =>
    simp only [ConPty.ownerStep] at hstep
    split at hstep
    next pipes howner =>
      split at hstep
      next console =>
        split at hstep
        next hfresh =>
          cases hstep
          exact .console pipes console howner hfresh
        next => contradiction
      next =>
        cases hstep
        exact .noConsole pipes howner
    next => contradiction
  | attributeListSize known =>
    simp only [ConPty.ownerStep] at hstep
    split at hstep
    next pipes console howner =>
      cases hstep
      cases known with
      | true => exact .size pipes console howner
      | false => exact .noSize pipes console howner
    next => contradiction
  | initializeAttributeList attributes =>
    simp only [ConPty.ownerStep] at hstep
    split at hstep
    next pipes console howner =>
      split at hstep
      next attributes =>
        split at hstep
        next hfresh =>
          cases hstep
          exact .attributes pipes console attributes howner hfresh
        next => contradiction
      next =>
        cases hstep
        exact .noAttributes pipes console howner
    next => contradiction
  | updateAttribute succeeds =>
    simp only [ConPty.ownerStep] at hstep
    split at hstep
    next pipes console attributes howner =>
      cases hstep
      cases succeeds with
      | true => exact .updated pipes console attributes howner
      | false => exact .notUpdated pipes console attributes howner
    next => contradiction
  | createProcess created =>
    simp only [ConPty.ownerStep] at hstep
    split at hstep
    next pipes console attributes howner =>
      split at hstep
      next process thread =>
        split at hstep
        next hfresh =>
          cases hstep
          exact .created pipes console attributes process thread howner hfresh
        next => contradiction
      next =>
        cases hstep
        exact .notCreated pipes console attributes howner
    next => contradiction
  | createJobObject job =>
    simp only [ConPty.ownerStep] at hstep
    split at hstep
    next handles process howner =>
      split at hstep
      next job =>
        split at hstep
        next hfresh =>
          cases hstep
          exact .job handles process job howner hfresh
        next => contradiction
      next =>
        cases hstep
        exact .noJob handles process howner
    next => contradiction
  | setInformation succeeds =>
    simp only [ConPty.ownerStep] at hstep
    split at hstep
    next handles process job howner =>
      cases hstep
      cases succeeds with
      | true => exact .limited handles process job howner
      | false => exact .notLimited handles process job howner
    next => contradiction
  | assignProcess succeeds =>
    simp only [ConPty.ownerStep] at hstep
    split at hstep
    next handles process job howner =>
      cases hstep
      cases succeeds with
      | true => exact .assigned handles process job howner
      | false => exact .notAssigned handles process job howner
    next => contradiction
  | adopt =>
    simp only [ConPty.ownerStep] at hstep
    split at hstep
    next handles howner hcaller =>
      split at hstep
      next output houtput =>
        cases hstep
        exact .adopt handles output howner hcaller houtput
      next => contradiction
    next => contradiction

/-- What a step of the reader can do. -/
inductive ConPtyReaderOutcome (pty : ConPty) : ConPtyReaderAction → ConPty → Prop where
  | leave (output : Nat) (hreader : pty.reader = .loop output)
      (hstop : pty.members.stopRequested = true) :
      ConPtyReaderOutcome pty .testLoop { pty with reader := .leave }
  | enter (output : Nat) (hreader : pty.reader = .loop output)
      (hstop : pty.members.stopRequested = false) :
      ConPtyReaderOutcome pty .testLoop { pty with reader := .readFile output }
  | received (output : Nat) (hreader : pty.reader = .readFile output) :
      ConPtyReaderOutcome pty (.readFile true)
        { pty.use (.handle output) with reader := .loop output }
  | readFails (output : Nat) (hreader : pty.reader = .readFile output) :
      ConPtyReaderOutcome pty (.readFile false)
        { pty.use (.handle output) with reader := .leave }
  | stopped (hreader : pty.reader = .leave) (hstop : pty.members.stopRequested = true) :
      ConPtyReaderOutcome pty .testLeave { pty with reader := .clear }
  | exits (hreader : pty.reader = .leave) (hstop : pty.members.stopRequested = false) :
      ConPtyReaderOutcome pty .testLeave { pty with reader := .lookUp }
  | found (process : Nat) (hreader : pty.reader = .lookUp) (hcaller : pty.caller = .none)
      (hprocess : pty.members.handles.processHandle = some process) :
      ConPtyReaderOutcome pty .lookUp { pty with reader := .testWait process }
  | notFound (hreader : pty.reader = .lookUp) (hcaller : pty.caller = .none)
      (hprocess : pty.members.handles.processHandle = none) :
      ConPtyReaderOutcome pty .lookUp { pty with reader := .testRecord none }
  | waits (process : Nat) (hreader : pty.reader = .testWait process)
      (hstop : pty.members.stopRequested = false) :
      ConPtyReaderOutcome pty .testWait { pty with reader := .waitForProcess process }
  | waitsNot (process : Nat) (hreader : pty.reader = .testWait process)
      (hstop : pty.members.stopRequested = true) :
      ConPtyReaderOutcome pty .testWait { pty with reader := .testRecord (some process) }
  | timesOut (process : Nat) (hreader : pty.reader = .waitForProcess process) :
      ConPtyReaderOutcome pty (.wait true)
        { pty.use (.handle process) with reader := .testWait process }
  | waited (process : Nat) (hreader : pty.reader = .waitForProcess process) :
      ConPtyReaderOutcome pty (.wait false)
        { pty.use (.handle process) with reader := .testRecord (some process) }
  | records (process : Nat) (hreader : pty.reader = .testRecord (some process))
      (hstop : pty.members.stopRequested = false) :
      ConPtyReaderOutcome pty .testRecord { pty with reader := .getExitCode process }
  | recordsNot (process : Option Nat) (hreader : pty.reader = .testRecord process) :
      ConPtyReaderOutcome pty .testRecord { pty with reader := .publish }
  | exitCode (process : Nat) (code : Int) (hreader : pty.reader = .getExitCode process) :
      ConPtyReaderOutcome pty (.getExitCode (some code))
        { pty.use (.handle process) with
          reader := .record (.exitCode code) [.exitCodeValid true]
          log := { pty.log with recorded := code :: pty.log.recorded } }
  | noExitCode (process : Nat) (hreader : pty.reader = .getExitCode process) :
      ConPtyReaderOutcome pty (.getExitCode none)
        { pty.use (.handle process) with reader := .publish }
  | lastStore (first : AtomicStore) (hreader : pty.reader = .record first []) :
      ConPtyReaderOutcome pty .store { pty.store first with reader := .publish }
  | store (first second : AtomicStore) (rest : List AtomicStore)
      (hreader : pty.reader = .record first (second :: rest)) :
      ConPtyReaderOutcome pty .store { pty.store first with reader := .record second rest }
  | publish (hreader : pty.reader = .publish) :
      ConPtyReaderOutcome pty .publish { pty.store (.state .exited) with reader := .clear }
  | clear (hreader : pty.reader = .clear) :
      ConPtyReaderOutcome pty .clear { pty.store (.running false) with reader := .finished }

/-- The same for the reader. -/
theorem conPtyReaderOutcome_of_step {pty pty' : ConPty} {action : ConPtyReaderAction}
    (hstep : pty.readerStep action = some pty') : ConPtyReaderOutcome pty action pty' := by
  cases action with
  | publish | clear =>
    simp only [ConPty.readerStep] at hstep
    split at hstep
    · cases hstep
      constructor
      assumption
    · contradiction
  | testLoop =>
    simp only [ConPty.readerStep] at hstep
    split at hstep
    next output hreader =>
      cases hstep
      cases hstop : pty.members.stopRequested with
      | true => exact .leave output hreader hstop
      | false => exact .enter output hreader hstop
    next => contradiction
  | readFile received =>
    simp only [ConPty.readerStep] at hstep
    split at hstep
    next output hreader =>
      cases hstep
      cases received with
      | true => exact .received output hreader
      | false => exact .readFails output hreader
    next => contradiction
  | testLeave =>
    simp only [ConPty.readerStep] at hstep
    split at hstep
    next hreader =>
      cases hstep
      cases hstop : pty.members.stopRequested with
      | true => exact .stopped hreader hstop
      | false => exact .exits hreader hstop
    next => contradiction
  | lookUp =>
    simp only [ConPty.readerStep] at hstep
    split at hstep
    next hreader hcaller =>
      cases hstep
      cases hprocess : pty.members.handles.processHandle with
      | some process => exact .found process hreader hcaller hprocess
      | none => exact .notFound hreader hcaller hprocess
    next => contradiction
  | testWait =>
    simp only [ConPty.readerStep] at hstep
    split at hstep
    next process hreader =>
      cases hstep
      cases hstop : pty.members.stopRequested with
      | true => exact .waitsNot process hreader hstop
      | false => exact .waits process hreader hstop
    next => contradiction
  | wait timeout =>
    simp only [ConPty.readerStep] at hstep
    split at hstep
    next process hreader =>
      cases hstep
      cases timeout with
      | true => exact .timesOut process hreader
      | false => exact .waited process hreader
    next => contradiction
  | testRecord =>
    simp only [ConPty.readerStep] at hstep
    split at hstep
    next process hreader =>
      cases hstep
      cases hstop : pty.members.stopRequested with
      | true => exact .recordsNot process hreader
      | false =>
        cases process with
        | some process => exact .records process hreader hstop
        | none => exact .recordsNot none hreader
    next => contradiction
  | getExitCode code =>
    simp only [ConPty.readerStep] at hstep
    split at hstep
    next process hreader =>
      cases code with
      | some code =>
        cases hstep
        exact .exitCode process code hreader
      | none =>
        cases hstep
        exact .noExitCode process hreader
    next => contradiction
  | store =>
    simp only [ConPty.readerStep] at hstep
    split at hstep
    next first rest hreader =>
      cases hstep
      cases rest with
      | nil => exact .lastStore first hreader
      | cons second rest => exact .store first second rest hreader
    next => contradiction

/-- What a step of a caller can do. -/
inductive ConPtyCallerOutcome (pty : ConPty) : ConPtyCallerAction → ConPty → Prop where
  | write (input : Nat) (hcaller : pty.caller = .none)
      (hinput : pty.members.handles.inputWrite = some input) :
      ConPtyCallerOutcome pty .write { pty with caller := .writeFile input }
  | writeFile (input : Nat) (hcaller : pty.caller = .writeFile input) :
      ConPtyCallerOutcome pty .writeFile (pty.use (.handle input))
  | resize (console : Nat) (hcaller : pty.caller = .none)
      (hconsole : pty.members.handles.pseudoConsole = some console) :
      ConPtyCallerOutcome pty .resize { pty with caller := .resize console }
  | resizePseudoConsole (console : Nat) (hcaller : pty.caller = .resize console) :
      ConPtyCallerOutcome pty .resizePseudoConsole (pty.use (.console console))
  | returns : ConPtyCallerOutcome pty .returns { pty with caller := .none }

/-- And for the callers. -/
theorem conPtyCallerOutcome_of_step {pty pty' : ConPty} {action : ConPtyCallerAction}
    (hstep : pty.callerStep action = some pty') : ConPtyCallerOutcome pty action pty' := by
  cases action with
  | write =>
    simp only [ConPty.callerStep] at hstep
    split at hstep
    next input hcaller hinput =>
      cases hstep
      exact .write input hcaller hinput
    next => contradiction
  | writeFile =>
    simp only [ConPty.callerStep] at hstep
    split at hstep
    next input hcaller =>
      cases hstep
      exact .writeFile input hcaller
    next => contradiction
  | resize =>
    simp only [ConPty.callerStep] at hstep
    split at hstep
    next console hcaller hconsole =>
      cases hstep
      exact .resize console hcaller hconsole
    next => contradiction
  | resizePseudoConsole =>
    simp only [ConPty.callerStep] at hstep
    split at hstep
    next console hcaller =>
      cases hstep
      exact .resizePseudoConsole console hcaller
    next => contradiction
  | returns =>
    simp only [ConPty.callerStep] at hstep
    split at hstep
    · contradiction
    · cases hstep
      exact .returns

/-- All interleavings of the owner, the reader and the callers, from a session that was never
started. -/
def conPtySystem : TransitionSystem ConPty ConPtyAction where
  init pty := pty = {}
  step pty action pty' := pty.step action = some pty'

/-- Nothing is assumed of the order of steps, nor of the system calls. -/
abbrev AnyConPtyOrder (_ : ConPty) (_ : ConPtyAction) : Prop := True

theorem conPtyReachable_of_runSteps {pty : ConPty} (actions : List ConPtyAction)
    (hrun : TransitionSystem.runSteps ConPty.step {} actions = some pty) :
    conPtySystem.Reachable AnyConPtyOrder pty := by
  apply TransitionSystem.Reachable.runSteps _ actions _ (.init rfl) hrun
  intro pty action pty' hstep
  exact ⟨trivial, hstep⟩

/-- `Start` where all calls succeed. -/
def startConPty : List ConPtyAction :=
  [.owner .start, .owner .moveOut, .owner .join, .owner .store, .owner .loadState,
    .owner .returns, .owner .begin, .owner .store, .owner .store, .owner .store,
    .owner (.createPipe (some (1, 2))), .owner (.createPipe (some (3, 4))),
    .owner (.createPseudoConsole (some 5)), .owner (.attributeListSize true),
    .owner (.initializeAttributeList (some 6)), .owner (.updateAttribute true),
    .owner (.createProcess (some (7, some 8))), .owner .call, .owner .call, .owner .call,
    .owner .call, .owner (.createJobObject (some 9)), .owner (.setInformation true),
    .owner (.assignProcess true), .owner .adopt, .owner .store, .owner .store, .owner .store,
    .owner .spawn]

end SakuraTerminal.Transport
