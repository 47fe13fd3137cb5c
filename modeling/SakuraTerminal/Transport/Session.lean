import SakuraTerminal.Foundations.TransitionSystem
import Mathlib.Data.List.Basic

/-!
# Transport sessions

`PosixPtySession` (`src/pty_session.cpp`) and `ConPtySession` (`src/conpty_session.cpp`): a reader
thread queues what it reads, and the owner thread takes or discards it. Both classes share this
model; only the reader of the POSIX one can find nothing to read and try again. Every critical
section of `output_mutex_` is one step, with the accesses inside it, and so is every access of an
atomic outside one. What the sockets, the child and the system calls do is open: a read returns any
bytes that fit.

`Outcome` lists what a step can do. The ledger of a session, kept for the theorems only, records the
bytes the reader read and every removal from the queue with what was queued at that moment.

A thread is where it will act next, with what it has in local variables: the counter the reader
loaded, the bytes it read, the chunks `TakeOutput` holds before it subtracts. The owner's functions
are not nested, so one point at a time is enough for it. What the two threads can disturb each other
in is then visible in the state, and the modules on the queue bound and on the ledger have one
assertion for each point.
-/

set_option autoImplicit false

namespace SakuraTerminal.Transport

open SakuraTerminal.Foundations

/-- The two implementations of `TerminalTransport`. The model differs in one branch for them. -/
inductive Backend where
  | posixPty
  | conPty
  deriving DecidableEq, Repr

/-- `TransportState`. -/
inductive TransportState where
  | stopped
  | starting
  | running
  | exited
  | failed
  deriving DecidableEq, Repr

/-- `kMaximumQueuedOutputBytes`. -/
def maximumQueuedOutputBytes : UInt64 := 1048576

/-- `sizeof(buffer)` in `ReadLoop`. -/
def bufferSize : Nat := 8192

/-! ## Taking output -/

/-- The loop of `TakeOutput` from `taken` bytes on: the chunks it returns, the chunks it leaves and
the bytes taken. -/
def takeChunks (maxBytes taken : Nat) :
    List (List UInt8) → List (List UInt8) × List (List UInt8) × Nat
  | [] => ([], [], taken)
  | chunk :: output =>
    if taken < maxBytes then
      let available := maxBytes - taken
      if chunk.length ≤ available then
        let (pending, rest, total) := takeChunks maxBytes (taken + chunk.length) output
        (chunk :: pending, rest, total)
      else
        -- the loop ends here, with `taken` equal to `max_bytes`
        ([chunk.take available], chunk.drop available :: output, taken + available)
    else ([], chunk :: output, taken)

/-- The bytes taken are a prefix of the queue, as long as the limit allows. -/
theorem takeChunks_spec (maxBytes taken : Nat) (output : List (List UInt8)) :
    (takeChunks maxBytes taken output).1.flatten = output.flatten.take (maxBytes - taken) ∧
      (takeChunks maxBytes taken output).2.1.flatten = output.flatten.drop (maxBytes - taken) ∧
      (takeChunks maxBytes taken output).2.2 =
        taken + (takeChunks maxBytes taken output).1.flatten.length := by
  -- the limit left for the rest depends on the bytes already taken
  induction output generalizing taken with
  | nil => simp [takeChunks]
  | cons chunk output ih =>
    rw [takeChunks]
    by_cases hmore : taken < maxBytes
    · rw [if_pos hmore]
      dsimp only
      by_cases hfits : chunk.length ≤ maxBytes - taken
      · rw [if_pos hfits]
        obtain ⟨hpending, hrest, htotal⟩ := ih (taken + chunk.length)
        have hleft : maxBytes - (taken + chunk.length) = maxBytes - taken - chunk.length := by omega
        rw [hleft] at hpending hrest
        refine ⟨?_, ?_, ?_⟩
        · rw [List.flatten_cons, List.flatten_cons, List.take_append, hpending,
            List.take_of_length_le hfits]
        · rw [hrest, List.flatten_cons, List.drop_append, List.drop_of_length_le hfits,
            List.nil_append]
        · rw [htotal, List.flatten_cons, List.length_append, Nat.add_assoc]
      · rw [if_neg hfits]
        -- the chunk is split: its rest stays at the front
        have hzero : maxBytes - taken - chunk.length = 0 := by omega
        refine ⟨?_, ?_, ?_⟩
        · simp only [List.flatten_cons, List.flatten_nil, List.append_nil]
          rw [List.take_append, hzero, List.take_zero, List.append_nil]
        · rw [List.flatten_cons, List.flatten_cons, List.drop_append, hzero, List.drop_zero]
        · simp only [List.flatten_cons, List.flatten_nil, List.append_nil, List.length_take]
          omega
    · -- the limit is reached and nothing more leaves the queue
      rw [if_neg hmore, show maxBytes - taken = 0 by omega]
      simp

/-! ## The state -/

/-- Where the reader thread is in `ReadLoop`. -/
inductive ReaderState where
  /-- There is no reader thread. -/
  | none
  /-- Before the test of `stop_requested_`. -/
  | loop
  /-- Before `queued_bytes_` is loaded. -/
  | counting
  /-- `queued_bytes_` was loaded and is below the maximum; the descriptor is polled and read. -/
  | reading (queued : UInt64)
  /-- Bytes were read, and `output_mutex_` is not held yet. -/
  | received (data : List UInt8)
  /-- The loop is left. -/
  | leaving
  /-- The reader waits for the child before it stores `Exited`. -/
  | exiting
  | finished
  deriving DecidableEq, Repr

/-- Where the owner thread is. -/
inductive OwnerState where
  /-- Outside of all functions of the session. -/
  | ready
  /-- `TakeOutput` between releasing the lock and `fetch_sub`. -/
  | subtracting (taken : Nat) (pending : List (List UInt8))
  /-- `Stop`, before the reader is joined; `Start` begins with `Stop`. -/
  | stopping (restart : Bool)
  /-- `Start`, before `output_` is cleared. -/
  | clearing
  /-- `Start`, before `queued_bytes_` is set to 0. -/
  | storing
  /-- `Start`, before the reader is created. -/
  | starting
  deriving DecidableEq, Repr

/-- What removes bytes from the queue. -/
inductive Remover where
  | takeOutput (maxBytes : Nat)
  | discardOutput
  | start
  deriving DecidableEq, Repr

/-- One removal: the bytes queued when the lock was held, and those that left the queue;
`TakeOutput` returns them. -/
structure Removal where
  remover : Remover
  queued : List UInt8
  removed : List UInt8
  deriving DecidableEq, Repr

/-- The ledger of one session. A new one begins when `Start` clears the queue. -/
structure Ledger where
  /-- The bytes read from the descriptor. -/
  read : List UInt8 := []
  removals : List Removal := []
  deriving DecidableEq, Repr

/-- A session with its two threads, its ledger and those of the sessions before it. -/
structure Session where
  output : List (List UInt8) := []
  queuedBytes : UInt64 := 0
  maxQueuedBytes : UInt64 := 0
  stopRequested : Bool := false
  state : TransportState := .stopped
  reader : ReaderState := .none
  owner : OwnerState := .ready
  ledger : Ledger := {}
  /-- The ledgers of earlier sessions. -/
  ended : List Ledger := []
  deriving DecidableEq, Repr

/-- The queued bytes. -/
def Session.queued (session : Session) : List UInt8 := session.output.flatten

/-! ## Steps -/

/-- A step of one of the threads, with what the system answered. Which one comes next is open. -/
inductive Action where
  | testStop
  | loadQueued
  /-- A poll that times out, or a call that is interrupted or would block. -/
  | readNothing
  | readFails
  | read (data : List UInt8)
  | push
  | leave
  | publishExit
  | takeOutput (maxBytes : Nat)
  | subtract
  | discardOutput
  | stop (restart : Bool)
  | join
  | clearOutput
  | storeQueued
  | spawn
  | spawnFails
  deriving DecidableEq, Repr

/-- `read_capacity`. -/
def readCapacity (queued : UInt64) : Nat :=
  min bufferSize (maximumQueuedOutputBytes - queued).toNat

/-- `RecordMaximum`; only the reader calls it, so its loop ends at once. -/
def recordMaximum (maximum value : UInt64) : UInt64 :=
  if maximum < value then value else maximum

/-- The critical section of `ReadLoop`. -/
def Session.pushes (session : Session) (data : List UInt8) : Session :=
  let received := data.length.toUInt64
  let queued := session.queuedBytes + received
  { session with
    output := session.output ++ [data]
    queuedBytes := queued
    maxQueuedBytes := recordMaximum session.maxQueuedBytes queued
    reader := .loop }

/-- The critical section of `TakeOutput`. -/
def Session.takes (session : Session) (maxBytes : Nat) : Session :=
  let (pending, rest, taken) := takeChunks maxBytes 0 session.output
  { session with
    output := rest
    owner := .subtracting taken pending
    ledger :=
      { session.ledger with
        removals := session.ledger.removals ++
          [⟨.takeOutput maxBytes, session.queued, pending.flatten⟩] } }

/-- The critical section of `DiscardOutput`. -/
def Session.discards (session : Session) : Session :=
  { session with
    output := []
    queuedBytes := 0
    ledger :=
      { session.ledger with
        removals := session.ledger.removals ++
          [⟨.discardOutput, session.queued, session.queued⟩] } }

/-- The critical section of `Start`; the ledger of the last session ends with it. -/
def Session.clears (session : Session) : Session :=
  { session with
    output := []
    owner := .storing
    ledger := {}
    ended :=
      { session.ledger with
        removals := session.ledger.removals ++
          [⟨.start, session.queued, session.queued⟩] } :: session.ended }

/-- One step of the reader or the owner. There is none where the thread is not at such a point. -/
def Session.step (backend : Backend) (session : Session) : Action → Option Session
  | .testStop =>
    match session.reader with
    | .loop =>
      some { session with reader := if session.stopRequested then .leaving else .counting }
    | _ => none
  | .loadQueued =>
    match session.reader with
    | .counting =>
      some { session with
        -- a full queue makes the reader sleep and test again
        reader := if session.queuedBytes ≥ maximumQueuedOutputBytes then .loop
          else .reading session.queuedBytes }
    | _ => none
  | .readNothing =>
    match backend, session.reader with
    -- `ReadFile` has no such result
    | .posixPty, .reading _ => some { session with reader := .loop }
    | _, _ => none
  | .readFails =>
    match session.reader with
    | .reading _ => some { session with reader := .leaving }
    | _ => none
  | .read data =>
    match session.reader with
    | .reading queued =>
      -- zero bytes end the loop, which is `readFails`
      if 0 < data.length ∧ data.length ≤ readCapacity queued then
        some { session with
          reader := .received data
          ledger := { session.ledger with read := session.ledger.read ++ data } }
      else none
    | _ => none
  | .push =>
    match session.reader with
    | .received data => some (session.pushes data)
    | _ => none
  | .leave =>
    match session.reader with
    | .leaving =>
      some { session with reader := if session.stopRequested then .finished else .exiting }
    | _ => none
  | .publishExit =>
    match session.reader with
    | .exiting => some { session with reader := .finished, state := .exited }
    | _ => none
  | .takeOutput maxBytes =>
    match session.owner with
    | .ready => some (session.takes maxBytes)
    | _ => none
  | .subtract =>
    match session.owner with
    | .subtracting taken _ =>
      some { session with queuedBytes := session.queuedBytes - taken.toUInt64, owner := .ready }
    | _ => none
  | .discardOutput =>
    match session.owner with
    | .ready => some session.discards
    | _ => none
  | .stop restart =>
    match session.owner with
    | .ready => some { session with stopRequested := true, owner := .stopping restart }
    | _ => none
  | .join =>
    match session.owner with
    | .stopping restart =>
      -- `join` returns only when the thread has
      if session.reader = .none ∨ session.reader = .finished then
        some { session with
          reader := .none
          state := if session.state = .starting ∨ session.state = .running then .stopped
            else session.state
          owner := if restart then .clearing else .ready }
      else none
    | _ => none
  | .clearOutput =>
    match session.owner with
    | .clearing => some session.clears
    | _ => none
  | .storeQueued =>
    -- no other thread runs here, so the stores that follow belong to this step
    match session.owner with
    | .storing => some { session with queuedBytes := 0, state := .starting, owner := .starting }
    | _ => none
  | .spawn =>
    match session.owner with
    | .starting =>
      some { session with
        stopRequested := false, state := .running, reader := .loop, owner := .ready }
    | _ => none
  | .spawnFails =>
    match session.owner with
    | .starting => some { session with state := .failed, owner := .ready }
    | _ => none

/-- What a step can do, one constructor for each way a thread can go on. -/
inductive Outcome (backend : Backend) (session : Session) : Action → Session → Prop where
  | testStop (hreader : session.reader = .loop) :
      Outcome backend session .testStop
        { session with reader := if session.stopRequested then .leaving else .counting }
  | waits (hreader : session.reader = .counting)
      (hfull : session.queuedBytes ≥ maximumQueuedOutputBytes) :
      Outcome backend session .loadQueued { session with reader := .loop }
  | loads (hreader : session.reader = .counting)
      (hroom : session.queuedBytes < maximumQueuedOutputBytes) :
      Outcome backend session .loadQueued { session with reader := .reading session.queuedBytes }
  | readNothing (queued : UInt64) (hreader : session.reader = .reading queued)
      (hposix : backend = .posixPty) :
      Outcome backend session .readNothing { session with reader := .loop }
  | readFails (queued : UInt64) (hreader : session.reader = .reading queued) :
      Outcome backend session .readFails { session with reader := .leaving }
  | reads (queued : UInt64) (data : List UInt8) (hreader : session.reader = .reading queued)
      (hsome : 0 < data.length) (hfits : data.length ≤ readCapacity queued) :
      Outcome backend session (.read data)
        { session with
          reader := .received data
          ledger := { session.ledger with read := session.ledger.read ++ data } }
  | pushes (data : List UInt8) (hreader : session.reader = .received data) :
      Outcome backend session .push (session.pushes data)
  | leaves (hreader : session.reader = .leaving) :
      Outcome backend session .leave
        { session with reader := if session.stopRequested then .finished else .exiting }
  | publishes (hreader : session.reader = .exiting) :
      Outcome backend session .publishExit { session with reader := .finished, state := .exited }
  | takes (maxBytes : Nat) (howner : session.owner = .ready) :
      Outcome backend session (.takeOutput maxBytes) (session.takes maxBytes)
  | subtracts (taken : Nat) (pending : List (List UInt8))
      (howner : session.owner = .subtracting taken pending) :
      Outcome backend session .subtract
        { session with queuedBytes := session.queuedBytes - taken.toUInt64, owner := .ready }
  | discards (howner : session.owner = .ready) :
      Outcome backend session .discardOutput session.discards
  | stops (restart : Bool) (howner : session.owner = .ready) :
      Outcome backend session (.stop restart)
        { session with stopRequested := true, owner := .stopping restart }
  | joins (restart : Bool) (howner : session.owner = .stopping restart)
      (hreader : session.reader = .none ∨ session.reader = .finished) :
      Outcome backend session .join
        { session with
          reader := .none
          state := if session.state = .starting ∨ session.state = .running then .stopped
            else session.state
          owner := if restart then .clearing else .ready }
  | clears (howner : session.owner = .clearing) :
      Outcome backend session .clearOutput session.clears
  | stores (howner : session.owner = .storing) :
      Outcome backend session .storeQueued
        { session with queuedBytes := 0, state := .starting, owner := .starting }
  | spawns (howner : session.owner = .starting) :
      Outcome backend session .spawn
        { session with
          stopRequested := false, state := .running, reader := .loop, owner := .ready }
  | spawnFails (howner : session.owner = .starting) :
      Outcome backend session .spawnFails { session with state := .failed, owner := .ready }

/-- Every step is one of the outcomes. This is the only place where `Session.step` is unfolded. -/
theorem outcome_of_step {backend : Backend} {session session' : Session} {action : Action}
    (hstep : session.step backend action = some session') :
    Outcome backend session action session' := by
  -- each action has one state of its thread in which it is enabled
  cases action with
  | testStop =>
    simp only [Session.step] at hstep
    split at hstep
    next h =>
      cases hstep
      exact .testStop h
    next => contradiction
  | loadQueued =>
    simp only [Session.step] at hstep
    split at hstep
    next h =>
      -- the one action with two outcomes
      by_cases hfull : session.queuedBytes ≥ maximumQueuedOutputBytes
      · rw [if_pos hfull] at hstep
        cases hstep
        exact .waits h hfull
      · rw [if_neg hfull] at hstep
        cases hstep
        exact .loads h (UInt64.not_le.mp hfull)
    next => contradiction
  | readNothing =>
    simp only [Session.step] at hstep
    split at hstep
    next queued h =>
      cases hstep
      exact .readNothing queued h rfl
    next => contradiction
  | readFails =>
    simp only [Session.step] at hstep
    split at hstep
    next queued h =>
      cases hstep
      exact .readFails queued h
    next => contradiction
  | read data =>
    simp only [Session.step] at hstep
    split at hstep
    next queued h =>
      by_cases hdata : 0 < data.length ∧ data.length ≤ readCapacity queued
      · rw [if_pos hdata] at hstep
        cases hstep
        exact .reads queued data h hdata.1 hdata.2
      · rw [if_neg hdata] at hstep
        contradiction
    next => contradiction
  | push =>
    simp only [Session.step] at hstep
    split at hstep
    next data h =>
      cases hstep
      exact .pushes data h
    next => contradiction
  | leave =>
    simp only [Session.step] at hstep
    split at hstep
    next h =>
      cases hstep
      exact .leaves h
    next => contradiction
  | publishExit =>
    simp only [Session.step] at hstep
    split at hstep
    next h =>
      cases hstep
      exact .publishes h
    next => contradiction
  | takeOutput maxBytes =>
    simp only [Session.step] at hstep
    split at hstep
    next h =>
      cases hstep
      exact .takes maxBytes h
    next => contradiction
  | subtract =>
    simp only [Session.step] at hstep
    split at hstep
    next taken pending h =>
      cases hstep
      exact .subtracts taken pending h
    next => contradiction
  | discardOutput =>
    simp only [Session.step] at hstep
    split at hstep
    next h =>
      cases hstep
      exact .discards h
    next => contradiction
  | stop restart =>
    simp only [Session.step] at hstep
    split at hstep
    next h =>
      cases hstep
      exact .stops restart h
    next => contradiction
  | join =>
    simp only [Session.step] at hstep
    split at hstep
    next restart h =>
      by_cases hreader : session.reader = .none ∨ session.reader = .finished
      · rw [if_pos hreader] at hstep
        cases hstep
        exact .joins restart h hreader
      · rw [if_neg hreader] at hstep
        contradiction
    next => contradiction
  | clearOutput =>
    simp only [Session.step] at hstep
    split at hstep
    next h =>
      cases hstep
      exact .clears h
    next => contradiction
  | storeQueued =>
    simp only [Session.step] at hstep
    split at hstep
    next h =>
      cases hstep
      exact .stores h
    next => contradiction
  | spawn =>
    simp only [Session.step] at hstep
    split at hstep
    next h =>
      cases hstep
      exact .spawns h
    next => contradiction
  | spawnFails =>
    simp only [Session.step] at hstep
    split at hstep
    next h =>
      cases hstep
      exact .spawnFails h
    next => contradiction

/-! ## Steps of the reader -/

/-- The step is one of the reader. -/
def Action.byReader : Action → Bool
  | .testStop | .loadQueued | .readNothing | .readFails | .read _ | .push | .leave | .publishExit =>
    true
  | _ => false

/-- What a step of the reader can change. It appends to the queue or leaves it alone, and never
removes. -/
structure ReaderStep (session : Session) (action : Action) (session' : Session) : Prop where
  active : session.reader ≠ .none ∧ session.reader ≠ .finished
  owner : session'.owner = session.owner
  removals : session'.ledger.removals = session.ledger.removals
  ended : session'.ended = session.ended
  queued : action ≠ .push ∧ session'.queued = session.queued ∨
    action = .push ∧ ∃ data, session.reader = .received data ∧
      session'.queued = session.queued ++ data

/-- A step of the reader changes what `ReaderStep` says, and nothing else that the owner relies
on. -/
theorem readerStep {backend : Backend} {session session' : Session} {action : Action}
    (hstep : session.step backend action = some session') (hreader : action.byReader = true) :
    ReaderStep session action session' := by
  -- every outcome names the reader state it starts from, and none of these is an end
  have active : ∀ {reader}, session.reader = reader → reader ≠ .none → reader ≠ .finished →
      session.reader ≠ .none ∧ session.reader ≠ .finished := by
    rintro _ rfl hnone hfinished
    exact ⟨hnone, hfinished⟩
  -- all reader steps but one leave the queue alone
  have quiet : ∀ {reader}, session.reader = reader → reader ≠ .none → reader ≠ .finished →
      action ≠ .push → session'.owner = session.owner →
      session'.ledger.removals = session.ledger.removals → session'.ended = session.ended →
      session'.output = session.output → ReaderStep session action session' := by
    intro reader hcase hnone hfinished hpush howner hremovals hended houtput
    exact ⟨active hcase hnone hfinished, howner, hremovals, hended,
      .inl ⟨hpush, congrArg List.flatten houtput⟩⟩
  cases outcome_of_step hstep with
  | pushes data hcase =>
    refine ⟨active hcase ReaderState.noConfusion ReaderState.noConfusion, rfl, rfl, rfl,
      .inr ⟨rfl, data, hcase, ?_⟩⟩
    simp [Session.pushes, Session.queued]
  | testStop hcase | waits hcase | loads hcase | readNothing _ hcase | readFails _ hcase
  | reads _ _ hcase | leaves hcase | publishes hcase =>
    exact quiet hcase ReaderState.noConfusion ReaderState.noConfusion Action.noConfusion
      rfl rfl rfl rfl
  | takes | subtracts | discards | stops | joins | clears | stores | spawns | spawnFails =>
    contradiction

/-- All interleavings of the reader and the owner. -/
def sessionSystem (backend : Backend) : TransitionSystem Session Action where
  init session := session = {}
  step session action session' := session.step backend action = some session'

/-- Nothing is assumed of the order of steps. -/
abbrev AnyOrder (_ : Session) (_ : Action) : Prop := True

theorem reachable_of_runSteps {backend : Backend} {session : Session} (actions : List Action)
    (hrun : TransitionSystem.runSteps (Session.step backend) {} actions = some session) :
    (sessionSystem backend).Reachable AnyOrder session := by
  apply TransitionSystem.Reachable.runSteps (Session.step backend) actions _ (.init rfl) hrun
  intro _ _ _ hstep
  exact ⟨trivial, hstep⟩

/-- Once `Exited` is stored, the reader reads and queues nothing more. -/
theorem reader_of_exited {backend : Backend} {session : Session}
    (hreachable : (sessionSystem backend).Reachable AnyOrder session) :
    session.state = .exited → session.reader = .none ∨ session.reader = .finished := by
  refine TransitionSystem.Reachable.invariant
    (I := fun session => session.state = .exited →
      session.reader = .none ∨ session.reader = .finished)
    ?_ ?_ hreachable
  · rintro _ rfl hexited
    contradiction
  · intro session action session' _ ih _ hstep hexited
    -- a reader at its end takes no step, so an earlier `Exited` stays true
    have stuck : ∀ {reader}, session.reader = reader → reader ≠ .none → reader ≠ .finished →
        session.state = .exited → False := by
      rintro _ rfl hnone hfinished hstate
      cases ih hstate with
      | inl h => exact hnone h
      | inr h => exact hfinished h
    cases outcome_of_step hstep with
    | testStop hcase | waits hcase | loads hcase | readNothing _ hcase | readFails _ hcase
    | reads _ _ hcase | pushes _ hcase | leaves hcase =>
      exact (stuck hcase ReaderState.noConfusion ReaderState.noConfusion hexited).elim
    -- the store is the last thing the reader does
    | publishes => exact .inr rfl
    | takes | subtracts | discards | stops | clears => exact ih hexited
    -- `Stop` keeps `Exited`, and the thread is gone
    | joins => exact .inl rfl
    -- a new session has another state
    | stores | spawns | spawnFails => contradiction

/-- `Start` up to the first `read`. -/
def startActions : List Action :=
  [.stop true, .join, .clearOutput, .storeQueued, .spawn, .testStop, .loadQueued]

end SakuraTerminal.Transport
