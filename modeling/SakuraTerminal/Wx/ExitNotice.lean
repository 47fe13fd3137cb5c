import SakuraTerminal.Transport.OutputLedger

/-!
# The exit notice

`OnTimer` of the wx control takes a bounded number of bytes from the transport, feeds them to the
core, and then looks at the status of the transport; a process that exited gets a notice. The
reader thread runs beside this, so every step of the control between two accesses of the session is
a step of its own.

The notice comes last only where the tick took all that was queued and nothing was queued after that
(`exitNoticesLast_of_drained`). The limit of a tick may be smaller than the queue, and the queue may
grow until the status is read.

The control has a state of its own between two of its steps (`UiState`), and the session has the
points of its two threads. A step of the control moves both together. What is fed to the core is
recorded in order, with the number of the session it came from, since output of a session that was
restarted must not be compared with the notice of the one before.

`ControlInvariant` holds in every run and says where each byte is: fed, in flight between
`TakeOutput` and the core, or still in the session. The notice needs the second invariant, which
holds along runs of the condition only.
-/

set_option autoImplicit false

namespace SakuraTerminal.Wx

open SakuraTerminal.Foundations
open SakuraTerminal.Foundations.TransitionSystem
open SakuraTerminal.Transport

/-! ## The control -/

/-- The callers of `ShowTransportNotice`. -/
inductive NoticeSource where
  | restartTransport
  | updateTransportStatus
  deriving DecidableEq, Repr

/-- What the control feeds to the core. The text of a notice plays no part, but which function fed
it does. -/
inductive CoreInput where
  /-- A byte of a session's output. -/
  | output (session : Nat) (byte : UInt8)
  | notice (source : NoticeSource) (session : Nat) (state : TransportState)
  /-- The text of `RestartTransport` that clears the screen. -/
  | clearScreen
  /-- The text of the constructor when no process can be started. -/
  | notStarted
  deriving DecidableEq, Repr

/-- Where the UI thread is. -/
inductive UiState where
  | idle
  /-- `OnTimer`, inside `TakeOutput`. -/
  | taking
  /-- `OnTimer`, before `output` is fed. -/
  | feeding (output : List (List UInt8))
  /-- `OnTimer`, before `UpdateTransportStatus`. -/
  | checking
  /-- `RestartTransport`, inside `Stop`. -/
  | stopping
  /-- Inside `Start`, called by the constructor or by `RestartTransport`. -/
  | starting (restart : Bool)
  /-- After `Start`. -/
  | started (restart : Bool)
  deriving DecidableEq, Repr

/-- The control with its session. The last two fields are history variables for the condition. -/
structure Control where
  session : Session := {}
  lastTransportState : TransportState := .stopped
  /-- What was fed to the core, in order. -/
  fed : List CoreInput := []
  ui : UiState := .idle
  /-- The bytes queued when `TakeOutput` of the last tick held the lock. -/
  queuedAtTake : Nat := 0
  /-- Whether the reader queued anything since. -/
  pushedSinceTake : Bool := false
  deriving DecidableEq, Repr

/-- The number of the current session. -/
def Control.number (control : Control) : Nat := control.session.ended.length

/-- `std::max<std::size_t>(1, output_bytes_per_tick)`. -/
def tickLimit (outputBytesPerTick : UInt32) : Nat := max 1 outputBytesPerTick.toNat

/-- `UpdateTransportStatus`, which reads the state once. -/
def Control.updateTransportStatus (control : Control) : Control :=
  let state := control.session.state
  if state = control.lastTransportState then { control with ui := .idle }
  else
    { control with
      lastTransportState := state
      fed := control.fed ++
        if state = .exited ∨ state = .failed then
          [.notice .updateTransportStatus control.number state]
        else []
      ui := .idle }

/-- The constructor and `RestartTransport` after `Start`. -/
def Control.afterStart (control : Control) (restart : Bool) : Control :=
  let state := control.session.state
  { control with
    lastTransportState := if state = .failed then .failed else .stopped
    fed := control.fed ++
      if restart then [.clearScreen, .notice .restartTransport control.number state]
      else if state = .failed then [.notStarted]
      else []
    ui := .idle }

/-- A step of the reader thread or of the control. -/
inductive ControlAction where
  | reader (action : Action)
  /-- `OnTimer` up to the end of the critical section of `TakeOutput`. -/
  | onTimer
  | subtract
  | feedOutput
  | updateTransportStatus
  /-- The interrupt key. -/
  | discardOutput
  | restartTransport
  | start (action : Action)
  | afterStart
  deriving DecidableEq, Repr

/-- The steps of `Start`. -/
def startSteps : List Action :=
  [.stop true, .join, .clearOutput, .storeQueued, .spawn, .spawnFails]

/-- The step an action stands for, where it can be made. -/
def Control.step (backend : Backend) (outputBytesPerTick : UInt32) (control : Control) :
    ControlAction → Option Control
  | .reader action =>
    -- the reader thread may step whatever the control is doing
    if action.byReader then
      (control.session.step backend action).map fun session =>
        { control with
          session, pushedSinceTake := control.pushedSinceTake || decide (action = .push) }
    else none
  | .onTimer =>
    match control.ui with
    | .idle =>
      (control.session.step backend (.takeOutput (tickLimit outputBytesPerTick))).map fun session =>
        { control with
          session
          ui := .taking
          queuedAtTake := control.session.queued.length
          pushedSinceTake := false }
    | _ => none
  | .subtract =>
    match control.ui, control.session.owner with
    | .taking, .subtracting _ pending =>
      (control.session.step backend .subtract).map fun session =>
        { control with session, ui := .feeding pending }
    | _, _ => none
  | .feedOutput =>
    match control.ui with
    | .feeding output =>
      some { control with
        fed := control.fed ++ output.flatten.map (.output control.number), ui := .checking }
    | _ => none
  | .updateTransportStatus =>
    match control.ui with
    | .checking => some control.updateTransportStatus
    | _ => none
  | .discardOutput =>
    match control.ui with
    | .idle => (control.session.step backend .discardOutput).map fun session =>
        { control with session }
    | _ => none
  | .restartTransport =>
    match control.ui with
    | .idle => (control.session.step backend (.stop false)).map fun session =>
        { control with session, ui := .stopping }
    | _ => none
  | .start action =>
    match control.ui with
    | .stopping =>
      -- `Stop` of `RestartTransport`; the `Start` after it stops once more
      if action = .join then
        (control.session.step backend action).map fun session =>
          { control with session, ui := .starting true }
      else none
    | .starting restart =>
      if action ∈ startSteps then
        (control.session.step backend action).map fun session =>
          { control with
            session
            ui := if action = .spawn ∨ action = .spawnFails then .started restart
              else .starting restart }
      else none
    | _ => none
  | .afterStart =>
    match control.ui with
    | .started restart => some (control.afterStart restart)
    | _ => none

/-- All runs of the control and the reader thread; the constructor starts a process or not. -/
def controlSystem (backend : Backend) (outputBytesPerTick : UInt32) :
    TransitionSystem Control ControlAction where
  init control := control = { ui := .starting false } ∨ control = {}
  step control action control' := control.step backend outputBytesPerTick action = some control'

/-! ## What a step can do -/

/-- What a step can do, one constructor for each branch. -/
inductive ControlOutcome (backend : Backend) (outputBytesPerTick : UInt32) (control : Control) :
    ControlAction → Control → Prop where
  | reader (action : Action) (session : Session)
      (hstep : control.session.step backend action = some session)
      (hreader : action.byReader = true) :
      ControlOutcome backend outputBytesPerTick control (.reader action)
        { control with
          session, pushedSinceTake := control.pushedSinceTake || decide (action = .push) }
  | takes (hui : control.ui = .idle) (howner : control.session.owner = .ready) :
      ControlOutcome backend outputBytesPerTick control .onTimer
        { control with
          session := control.session.takes (tickLimit outputBytesPerTick)
          ui := .taking
          queuedAtTake := control.session.queued.length
          pushedSinceTake := false }
  | subtracts (taken : Nat) (pending : List (List UInt8)) (hui : control.ui = .taking)
      (howner : control.session.owner = .subtracting taken pending) :
      ControlOutcome backend outputBytesPerTick control .subtract
        { control with
          session := { control.session with
            queuedBytes := control.session.queuedBytes - taken.toUInt64, owner := .ready }
          ui := .feeding pending }
  | feeds (output : List (List UInt8)) (hui : control.ui = .feeding output) :
      ControlOutcome backend outputBytesPerTick control .feedOutput
        { control with
          fed := control.fed ++ output.flatten.map (.output control.number), ui := .checking }
  | checks (hui : control.ui = .checking) :
      ControlOutcome backend outputBytesPerTick control .updateTransportStatus
        control.updateTransportStatus
  | discards (hui : control.ui = .idle) (howner : control.session.owner = .ready) :
      ControlOutcome backend outputBytesPerTick control .discardOutput
        { control with session := control.session.discards }
  | stops (session : Session) (hui : control.ui = .idle)
      (hstep : control.session.step backend (.stop false) = some session) :
      ControlOutcome backend outputBytesPerTick control .restartTransport
        { control with session, ui := .stopping }
  | starts (action : Action) (session : Session) (restart : Bool)
      (hui : control.ui = .stopping ∨ control.ui = .starting restart)
      (hstep : control.session.step backend action = some session)
      (hstart : action ∈ startSteps) :
      ControlOutcome backend outputBytesPerTick control (.start action)
        { control with
          session
          ui := if action = .spawn ∨ action = .spawnFails then .started restart
            else .starting restart }
  | started (restart : Bool) (hui : control.ui = .started restart) :
      ControlOutcome backend outputBytesPerTick control .afterStart (control.afterStart restart)

/-- Every step is one of the outcomes. This is the only place where `Control.step` is unfolded. -/
theorem controlOutcome_of_step {backend : Backend} {outputBytesPerTick : UInt32}
    {control control' : Control} {action : ControlAction}
    (hstep : control.step backend outputBytesPerTick action = some control') :
    ControlOutcome backend outputBytesPerTick control action control' := by
  -- in each case the state of the control enables one step of the session
  cases action with
  | reader action =>
    simp only [Control.step] at hstep
    by_cases hreader : action.byReader = true
    · rw [if_pos hreader] at hstep
      obtain ⟨session, hsession, rfl⟩ := Option.map_eq_some_iff.mp hstep
      exact .reader action session hsession hreader
    · rw [if_neg hreader] at hstep
      contradiction
  | onTimer =>
    simp only [Control.step] at hstep
    split at hstep
    next hui =>
      obtain ⟨session, hsession, rfl⟩ := Option.map_eq_some_iff.mp hstep
      cases outcome_of_step hsession with
      | takes _ howner => exact .takes hui howner
    next => contradiction
  | subtract =>
    simp only [Control.step] at hstep
    split at hstep
    next taken pending hui howner =>
      obtain ⟨session, hsession, rfl⟩ := Option.map_eq_some_iff.mp hstep
      cases outcome_of_step hsession with
      | subtracts taken' pending' howner' =>
        -- the session's owner is in the call that the control waits for
        rw [howner] at howner'
        cases howner'
        exact .subtracts taken pending hui howner
    next => contradiction
  | feedOutput =>
    simp only [Control.step] at hstep
    split at hstep
    next output hui =>
      cases hstep
      exact .feeds output hui
    next => contradiction
  | updateTransportStatus =>
    simp only [Control.step] at hstep
    split at hstep
    next hui =>
      cases hstep
      exact .checks hui
    next => contradiction
  | discardOutput =>
    simp only [Control.step] at hstep
    split at hstep
    next hui =>
      obtain ⟨session, hsession, rfl⟩ := Option.map_eq_some_iff.mp hstep
      cases outcome_of_step hsession with
      | discards howner => exact .discards hui howner
    next => contradiction
  | restartTransport =>
    simp only [Control.step] at hstep
    split at hstep
    next hui =>
      obtain ⟨session, hsession, rfl⟩ := Option.map_eq_some_iff.mp hstep
      exact .stops session hui hsession
    next => contradiction
  | start action =>
    simp only [Control.step] at hstep
    split at hstep
    next hui =>
      by_cases hjoin : action = .join
      · rw [if_pos hjoin] at hstep
        obtain ⟨session, hsession, rfl⟩ := Option.map_eq_some_iff.mp hstep
        subst hjoin
        exact .starts .join session true (.inl hui) hsession (by decide)
      · rw [if_neg hjoin] at hstep
        contradiction
    next restart hui =>
      by_cases hstart : action ∈ startSteps
      · rw [if_pos hstart] at hstep
        obtain ⟨session, hsession, rfl⟩ := Option.map_eq_some_iff.mp hstep
        exact .starts action session restart (.inr hui) hsession hstart
      · rw [if_neg hstart] at hstep
        contradiction
    next => contradiction
  | afterStart =>
    simp only [Control.step] at hstep
    split at hstep
    next restart hui =>
      cases hstep
      exact .started restart hui
    next => contradiction

/-! ## The order of what is fed -/

/-- The session of an input; texts of the control belong to none. -/
def CoreInput.session : CoreInput → Nat
  | .output session _ | .notice _ session _ => session
  | .clearScreen | .notStarted => 0

/-- The byte, if it is output of that session. -/
def CoreInput.outputOf (number : Nat) : CoreInput → Option UInt8
  | .output session byte => if session = number then some byte else none
  | _ => none

/-- The notice of `UpdateTransportStatus` that a session's process exited. -/
def exitNotice (number : Nat) : CoreInput := .notice .updateTransportStatus number .exited

/-- Output does not follow the exit notice of its own session. -/
def CoreInput.MayPrecede : CoreInput → CoreInput → Prop
  | .notice .updateTransportStatus number .exited, .output session _ => session ≠ number
  | _, _ => True

/-- The output of the current session that was fed. -/
def Control.fedOutput (control : Control) : List UInt8 :=
  control.fed.filterMap (CoreInput.outputOf control.number)

/-- Bytes that `TakeOutput` removed and `OnTimer` did not feed yet. -/
def Control.inFlight (control : Control) : List UInt8 :=
  match control.ui, control.session.owner with
  | .taking, .subtracting _ pending => pending.flatten
  | .feeding output, _ => output.flatten
  | _, _ => []

/-- The exit notice comes after all output of its session: when it was fed, every byte the reader
queued had been taken or discarded, what was taken had been fed, and nothing follows. Bytes that
were discarded are removed and need not be fed. -/
structure ExitNoticesLast (control : Control) : Prop where
  complete : exitNotice control.number ∈ control.fed →
    control.session.ledger.read = control.session.ledger.removed ∧
      control.fedOutput = control.session.ledger.taken
  last : control.fed.Pairwise CoreInput.MayPrecede

/-- At the tick that reports the exit, `TakeOutput` may return all that is queued, and the reader
queues nothing between `TakeOutput` and `GetStatus`. Other ticks are free to leave something
behind. -/
def DrainedAtExit (outputBytesPerTick : UInt32) (control : Control) (action : ControlAction) :
    Prop :=
  action = .updateTransportStatus → control.session.state = .exited →
    control.lastTransportState ≠ .exited →
      control.queuedAtTake ≤ tickLimit outputBytesPerTick ∧ control.pushedSinceTake = false

instance (outputBytesPerTick : UInt32) (control : Control) (action : ControlAction) :
    Decidable (DrainedAtExit outputBytesPerTick control action) :=
  inferInstanceAs (Decidable (action = .updateTransportStatus → _ → _ → _ ∧ _))

/-- Only output has to keep an order. -/
theorem mayPrecede_of_outputs (earlier : CoreInput) {later : CoreInput}
    (hlater : ∀ number byte, later ≠ .output number byte) : earlier.MayPrecede later := by
  simp only [CoreInput.MayPrecede]
  split
  next number session byte => exact absurd rfl (hlater session byte)
  next => trivial

/-! ## What holds in every run -/

/-- `OnTimer` between `TakeOutput` and `GetStatus`. -/
def UiState.ticking : UiState → Bool
  | .taking | .feeding _ | .checking => true
  | _ => false

/-- Where the bytes of the current session are, and which inputs there may be of which session. -/
structure ControlInvariant (backend : Backend) (outputBytesPerTick : UInt32) (control : Control) :
    Prop where
  session : Reachable (sessionSystem backend) AnyOrder control.session
  numbered : ∀ input ∈ control.fed, input.session ≤ control.number
  /-- `Start` does not feed, and its session is new from the moment it clears the queue. -/
  fresh : control.session.owner = .storing ∨ control.session.owner = .starting →
    (∃ restart, control.ui = .starting restart) ∧
      ∀ input ∈ control.fed, input.session < control.number
  taken : control.fedOutput ++ control.inFlight = control.session.ledger.taken
  left : control.ui.ticking = true → control.pushedSinceTake = false →
    control.session.queued.length = control.queuedAtTake - tickLimit outputBytesPerTick
  grown : control.ui.ticking = true → control.pushedSinceTake = true → control.session.queued ≠ []

/-! Reading the log after a step. -/

theorem filterMap_output (number : Nat) (bytes : List UInt8) :
    (bytes.map (CoreInput.output number)).filterMap (CoreInput.outputOf number) = bytes := by
  induction bytes with
  | nil => rfl
  | cons byte bytes ih =>
    rw [List.map_cons, List.filterMap_cons]
    simp only [CoreInput.outputOf, if_pos trivial]
    rw [ih]

/-- A session that nothing was fed for has no fed output. -/
theorem filterMap_eq_nil {fed : List CoreInput} {number : Nat}
    (hnew : ∀ input ∈ fed, input.session < number) :
    fed.filterMap (CoreInput.outputOf number) = [] := by
  rw [List.filterMap_eq_nil_iff]
  intro input hinput
  have hlt := hnew input hinput
  -- only output counts, and this one is of an earlier session
  cases input with
  | output session byte => exact if_neg (Nat.ne_of_lt hlt)
  | _ => rfl

theorem not_exitNotice_mem {fed : List CoreInput} {number : Nat}
    (hnew : ∀ input ∈ fed, input.session < number) : exitNotice number ∉ fed := by
  intro hmem
  exact Nat.lt_irrefl _ (hnew _ hmem)

/-- The inputs that are not output. -/
theorem filterMap_append_texts {fed texts : List CoreInput} {number : Nat}
    (htexts : ∀ input ∈ texts, input.outputOf number = none) :
    (fed ++ texts).filterMap (CoreInput.outputOf number) =
      fed.filterMap (CoreInput.outputOf number) := by
  rw [List.filterMap_append, List.filterMap_eq_nil_iff.mpr htexts, List.append_nil]

/-- What `UpdateTransportStatus` feeds. -/
def Control.statusTexts (control : Control) : List CoreInput :=
  if control.session.state = control.lastTransportState then []
  else if control.session.state = .exited ∨ control.session.state = .failed then
    [.notice .updateTransportStatus control.number control.session.state]
  else []

theorem Control.updateTransportStatus_eq (control : Control) :
    control.updateTransportStatus.session = control.session ∧
      control.updateTransportStatus.ui = .idle ∧
      control.updateTransportStatus.fed = control.fed ++ control.statusTexts := by
  unfold Control.updateTransportStatus Control.statusTexts
  dsimp only
  split
  · exact ⟨rfl, rfl, (List.append_nil _).symm⟩
  · exact ⟨rfl, rfl, rfl⟩

/-- `UpdateTransportStatus` feeds a notice, and only for a state that is another one. -/
theorem Control.mem_statusTexts {control : Control} {input : CoreInput}
    (hinput : input ∈ control.statusTexts) :
    control.session.state ≠ control.lastTransportState ∧
      input = .notice .updateTransportStatus control.number control.session.state := by
  rw [Control.statusTexts] at hinput
  by_cases hsame : control.session.state = control.lastTransportState
  · rw [if_pos hsame] at hinput
    contradiction
  · rw [if_neg hsame] at hinput
    split at hinput
    · exact ⟨hsame, List.mem_singleton.mp hinput⟩
    · contradiction

/-- What is fed after `Start`. -/
def Control.startTexts (control : Control) (restart : Bool) : List CoreInput :=
  if restart then
    [.clearScreen, .notice .restartTransport control.number control.session.state]
  else if control.session.state = .failed then [.notStarted]
  else []

theorem Control.afterStart_fed (control : Control) (restart : Bool) :
    (control.afterStart restart).fed = control.fed ++ control.startTexts restart := rfl

/-- After `Start` the control feeds two texts and a notice at most, and no output. -/
theorem Control.mem_startTexts {control : Control} {restart : Bool} {input : CoreInput}
    (hinput : input ∈ control.startTexts restart) :
    input = .clearScreen ∨ input = .notStarted ∨
      input = .notice .restartTransport control.number control.session.state := by
  rw [Control.startTexts] at hinput
  split at hinput
  · cases List.mem_cons.mp hinput with
    | inl hclear => exact .inl hclear
    | inr hnotice => exact .inr (.inr (List.mem_singleton.mp hnotice))
  · split at hinput
    · exact .inr (.inl (List.mem_singleton.mp hinput))
    · contradiction

namespace ControlInvariant

variable {backend : Backend} {outputBytesPerTick : UInt32} {control : Control}

/-- Feeding texts and returning to the event loop. -/
theorem feedTexts (h : ControlInvariant backend outputBytesPerTick control) {control' : Control}
    {texts : List CoreInput} (hsession : control'.session = control.session)
    (hui : control'.ui = .idle) (hfed : control'.fed = control.fed ++ texts)
    (hnotStarting : ∀ restart, control.ui ≠ .starting restart) (hinFlight : control.inFlight = [])
    (htexts : ∀ input ∈ texts,
      input.session ≤ control.number ∧ input.outputOf control.number = none) :
    ControlInvariant backend outputBytesPerTick control' := by
  have hnumber : control'.number = control.number := by
    simp only [Control.number]
    rw [hsession]
  constructor
  case session =>
    rw [hsession]
    exact h.session
  case numbered =>
    intro input hinput
    rw [hnumber]
    rw [hfed] at hinput
    cases List.mem_append.mp hinput with
    | inl hold => exact h.numbered input hold
    | inr htext => exact (htexts input htext).1
  case fresh =>
    intro howner
    rw [hsession] at howner
    -- `Start` has returned when texts are fed
    obtain ⟨restart, hstarting⟩ := (h.fresh howner).1
    exact absurd hstarting (hnotStarting restart)
  case taken =>
    have hempty : control'.inFlight = [] := by
      rw [Control.inFlight, hui]
    -- texts are no output, and nothing is in flight before and after
    rw [Control.fedOutput, hfed, hnumber, hempty, hsession,
      filterMap_append_texts fun input hinput => (htexts input hinput).2, ← hinFlight]
    exact h.taken
  case left =>
    rw [hui]
    intro hticking
    contradiction
  case grown =>
    rw [hui]
    intro hticking
    contradiction

/-- Steps of the reader. -/
theorem reader (h : ControlInvariant backend outputBytesPerTick control) {action : Action}
    {session : Session} (hstep : control.session.step backend action = some session)
    (hreader : action.byReader = true) :
    ControlInvariant backend outputBytesPerTick
      { control with
        session, pushedSinceTake := control.pushedSinceTake || decide (action = .push) } := by
  have hquiet := readerStep hstep hreader
  have hnumber : session.ended.length = control.session.ended.length :=
    congrArg List.length hquiet.ended
  constructor
  case session => exact .step h.session trivial hstep
  case numbered =>
    intro input hinput
    exact Nat.le_trans (h.numbered input hinput) (Nat.le_of_eq hnumber.symm)
  case fresh =>
    intro howner
    rw [show session.owner = control.session.owner from hquiet.owner] at howner
    obtain ⟨hstarting, hnew⟩ := h.fresh howner
    exact ⟨hstarting, fun input hinput => Nat.lt_of_lt_of_eq (hnew input hinput) hnumber.symm⟩
  case taken =>
    -- the reader removes nothing, so what was taken is what it was
    have htaken : session.ledger.taken = control.session.ledger.taken := by
      simp only [Ledger.taken]
      rw [hquiet.removals]
    change control.fed.filterMap (CoreInput.outputOf session.ended.length) ++ _ =
      session.ledger.taken
    rw [hnumber, htaken, ← h.taken]
    congr 1
    unfold Control.inFlight
    dsimp only
    rw [hquiet.owner]
  case left =>
    intro hticking hpushed
    obtain ⟨hold, hpush⟩ := Bool.or_eq_false_iff.mp hpushed
    -- the queue can only have changed by a push, and there was none
    obtain ⟨-, hqueued⟩ | ⟨hispush, -⟩ := hquiet.queued
    · change session.queued.length = _
      rw [hqueued]
      exact h.left hticking hold
    · exact absurd hispush (of_decide_eq_false hpush)
  case grown =>
    intro hticking hpushed
    change session.queued ≠ []
    obtain ⟨hother, hqueued⟩ | ⟨-, data, hdata, hqueued⟩ := hquiet.queued
    · rw [hqueued]
      apply h.grown hticking
      rw [decide_eq_false hother, Bool.or_false] at hpushed
      exact hpushed
    · -- a push appends at least one byte
      have hsome := ((QueueInvariant.reachable h.session).fits data hdata).1
      rw [hqueued]
      exact List.append_ne_nil_of_right_ne_nil _ (List.ne_nil_of_length_pos hsome)

/-- `TakeOutput` moves bytes from the queue into the hands of the control. -/
theorem takes (h : ControlInvariant backend outputBytesPerTick control) (hui : control.ui = .idle)
    (hreachable : Reachable (sessionSystem backend) AnyOrder
      (control.session.takes (tickLimit outputBytesPerTick))) :
    ControlInvariant backend outputBytesPerTick
      { control with
        session := control.session.takes (tickLimit outputBytesPerTick)
        ui := .taking
        queuedAtTake := control.session.queued.length
        pushedSinceTake := false } := by
  obtain ⟨pending, htakes, hpending⟩ := control.session.owner_takes (tickLimit outputBytesPerTick)
  constructor
  case session => exact hreachable
  case numbered => exact h.numbered
  case fresh =>
    intro hstarting
    rw [htakes] at hstarting
    cases hstarting <;> contradiction
  case taken =>
    have hidle : control.inFlight = [] := by
      rw [Control.inFlight, hui]
    have htaken := h.taken
    rw [hidle, List.append_nil] at htaken
    -- the bytes taken are the last removal, and they are in flight now
    rw [Session.ledger_takes, Ledger.taken_takeOutput, ← htaken]
    congr 1
    rw [Control.inFlight]
    dsimp only
    rw [htakes]
    exact hpending
  case left =>
    intro _ _
    -- the reader has not run since, so the rest is what is beyond the limit
    rw [Session.queued_takes]
    exact List.length_drop
  case grown =>
    intro _ hpushed
    contradiction

/-- The subtraction moves no bytes. -/
theorem subtracts (h : ControlInvariant backend outputBytesPerTick control) {taken : Nat}
    {pending : List (List UInt8)} (hui : control.ui = .taking)
    (howner : control.session.owner = .subtracting taken pending)
    (hreachable : Reachable (sessionSystem backend) AnyOrder { control.session with
      queuedBytes := control.session.queuedBytes - taken.toUInt64, owner := .ready }) :
    ControlInvariant backend outputBytesPerTick
      { control with
        session := { control.session with
          queuedBytes := control.session.queuedBytes - taken.toUInt64, owner := .ready }
        ui := .feeding pending } := by
  have hticking : control.ui.ticking = true := by
    rw [hui]
    rfl
  constructor
  case session => exact hreachable
  case numbered => exact h.numbered
  case fresh =>
    intro hstarting
    cases hstarting <;> contradiction
  case taken =>
    have hinFlight : control.inFlight = pending.flatten := by
      rw [Control.inFlight, hui, howner]
    -- the same bytes stay in flight, now in the hands of `OnTimer`
    rw [← h.taken, hinFlight]
    rfl
  case left =>
    intro _ hpushed
    exact h.left hticking hpushed
  case grown =>
    intro _ hpushed
    exact h.grown hticking hpushed

/-- The bytes in hand are fed, with the number of their session. -/
theorem feeds (h : ControlInvariant backend outputBytesPerTick control)
    {output : List (List UInt8)} (hui : control.ui = .feeding output) :
    ControlInvariant backend outputBytesPerTick
      { control with
        fed := control.fed ++ output.flatten.map (.output control.number), ui := .checking } := by
  have hticking : control.ui.ticking = true := by
    rw [hui]
    rfl
  constructor
  case session => exact h.session
  case numbered =>
    intro input hinput
    cases List.mem_append.mp hinput with
    | inl hold => exact h.numbered input hold
    | inr houtput =>
      obtain ⟨byte, -, rfl⟩ := List.mem_map.mp houtput
      exact Nat.le_refl _
  case fresh =>
    intro howner
    obtain ⟨⟨restart, hstarting⟩, -⟩ := h.fresh howner
    rw [hui] at hstarting
    contradiction
  case taken =>
    have hinFlight : control.inFlight = output.flatten := by
      rw [Control.inFlight, hui]
    change (control.fed ++ output.flatten.map (CoreInput.output control.number)).filterMap
      (CoreInput.outputOf control.number) ++ [] = _
    -- what was in flight is now at the end of the log
    rw [List.append_nil, List.filterMap_append, filterMap_output, ← hinFlight]
    exact h.taken
  case left =>
    intro _ hpushed
    exact h.left hticking hpushed
  case grown =>
    intro _ hpushed
    exact h.grown hticking hpushed

/-- Steps of the owner outside of a tick that keep the ledger. -/
theorem moves (h : ControlInvariant backend outputBytesPerTick control) {session : Session}
    {ui : UiState} (hreachable : Reachable (sessionSystem backend) AnyOrder session)
    (hended : session.ended = control.session.ended)
    (htaken : session.ledger.taken = control.session.ledger.taken)
    (hinFlight : control.inFlight = [])
    (hui : ui = .idle ∨ ui = .stopping ∨ ∃ restart, ui = .starting restart ∨ ui = .started restart)
    (hfresh : session.owner = .storing ∨ session.owner = .starting →
      (∃ restart, ui = .starting restart) ∧ ∀ input ∈ control.fed, input.session < control.number) :
    ControlInvariant backend outputBytesPerTick { control with session, ui } := by
  have hnumber : session.ended.length = control.number := congrArg List.length hended
  -- none of these states belongs to a tick
  have hticking : ui.ticking = false := by
    rcases hui with rfl | rfl | ⟨restart, rfl | rfl⟩ <;> rfl
  constructor
  case session => exact hreachable
  case numbered =>
    intro input hinput
    exact Nat.le_trans (h.numbered input hinput) (Nat.le_of_eq hnumber.symm)
  case fresh =>
    intro howner
    obtain ⟨hstarting, hnew⟩ := hfresh howner
    exact ⟨hstarting, fun input hinput => Nat.lt_of_lt_of_eq (hnew input hinput) hnumber.symm⟩
  case taken =>
    have hempty : ({ control with session, ui } : Control).inFlight = [] := by
      rw [Control.inFlight]
      rcases hui with rfl | rfl | ⟨restart, rfl | rfl⟩ <;> rfl
    have hold := h.taken
    rw [hinFlight, List.append_nil] at hold
    rw [hempty, List.append_nil, htaken, ← hold]
    change control.fed.filterMap (CoreInput.outputOf session.ended.length) = _
    rw [hnumber]
    rfl
  case left =>
    intro htick
    rw [show ui.ticking = true from htick] at hticking
    contradiction
  case grown =>
    intro htick
    rw [show ui.ticking = true from htick] at hticking
    contradiction

/-- The clearing step of `Start`: nothing was fed for the new session. -/
theorem clears (h : ControlInvariant backend outputBytesPerTick control)
    (hreachable : Reachable (sessionSystem backend) AnyOrder control.session.clears)
    (restart : Bool) :
    ControlInvariant backend outputBytesPerTick
      { control with session := control.session.clears, ui := .starting restart } := by
  have hnew : ∀ input ∈ control.fed, input.session < control.number + 1 :=
    fun input hinput => Nat.lt_succ_of_le (h.numbered input hinput)
  constructor
  case session => exact hreachable
  case numbered => exact fun input hinput => Nat.le_of_lt (hnew input hinput)
  case fresh => exact fun _ => ⟨⟨restart, rfl⟩, hnew⟩
  case taken =>
    change control.fed.filterMap (CoreInput.outputOf (control.number + 1)) ++ [] = []
    rw [filterMap_eq_nil hnew]
    rfl
  case left => exact fun hticking => nomatch hticking
  case grown => exact fun hticking => nomatch hticking

/-- Outside of a tick nothing is in flight. -/
theorem inFlight_eq_nil (hticking : control.ui.ticking = false) : control.inFlight = [] := by
  rw [Control.inFlight]
  split
  next hui _ =>
    rw [hui] at hticking
    contradiction
  next hui =>
    rw [hui] at hticking
    contradiction
  next => rfl

/-- A step of `Stop` or `Start` in the control. The session changes its number where `Start` clears
the queue, and nothing was fed for the new one. -/
theorem starts (h : ControlInvariant backend outputBytesPerTick control) {action : Action}
    {session : Session} {restart : Bool}
    (hui : control.ui = .stopping ∨ control.ui = .starting restart)
    (hstep : control.session.step backend action = some session) (hstart : action ∈ startSteps) :
    ControlInvariant backend outputBytesPerTick
      { control with
        session
        ui := if action = .spawn ∨ action = .spawnFails then .started restart
          else .starting restart } := by
  have hreachable : Reachable (sessionSystem backend) AnyOrder session :=
    .step h.session trivial hstep
  have hinFlight : control.inFlight = [] := by
    apply inFlight_eq_nil
    rcases hui with hui | hui <;> rw [hui] <;> rfl
  -- only four steps of `Start` and the join pass `startSteps`
  cases outcome_of_step hstep with
  | stops | spawns | spawnFails =>
    refine h.moves hreachable rfl rfl hinFlight (.inr (.inr ⟨restart, ?_⟩)) ?_
    · split
      · exact .inr rfl
      · exact .inl rfl
    · rintro (howner | howner) <;> contradiction
  | joins again howner =>
    refine h.moves hreachable rfl rfl hinFlight (.inr (.inr ⟨restart, .inl rfl⟩)) ?_
    intro howner'
    change (if again then OwnerState.clearing else .ready) = _ ∨
      (if again then OwnerState.clearing else .ready) = _ at howner'
    -- after a join the queue is not cleared yet
    cases again <;> rcases howner' with howner' | howner' <;> contradiction
  | clears => exact h.clears hreachable restart
  | stores howner =>
    refine h.moves hreachable rfl rfl hinFlight (.inr (.inr ⟨restart, .inl rfl⟩)) ?_
    intro _
    exact ⟨⟨restart, rfl⟩, (h.fresh (.inl howner)).2⟩
  | testStop | waits | loads | readNothing | readFails | reads | pushes | leaves | publishes
  | takes | subtracts | discards => simp [startSteps] at hstart

/-- Every step of the control preserves the invariant. -/
theorem step (h : ControlInvariant backend outputBytesPerTick control) {action : ControlAction}
    {control' : Control}
    (hstep : control.step backend outputBytesPerTick action = some control') :
    ControlInvariant backend outputBytesPerTick control' := by
  cases controlOutcome_of_step hstep with
  | reader action session hsession hreader => exact h.reader hsession hreader
  | takes hui howner =>
    apply h.takes hui
    apply Reachable.step h.session trivial
    change Session.step backend _ (.takeOutput (tickLimit outputBytesPerTick)) = _
    rw [Session.step, howner]
  | subtracts taken pending hui howner =>
    apply h.subtracts hui howner
    apply Reachable.step h.session trivial
    change Session.step backend _ .subtract = _
    rw [Session.step, howner]
  | feeds output hui => exact h.feeds hui
  | checks hui =>
    obtain ⟨hsession, hidle, hfed⟩ := control.updateTransportStatus_eq
    apply h.feedTexts hsession hidle hfed
    · rw [hui]
      exact fun _ => UiState.noConfusion
    · rw [Control.inFlight, hui]
    · intro input hinput
      -- a notice belongs to the current session and is no output
      rw [(Control.mem_statusTexts hinput).2]
      exact ⟨Nat.le_refl _, rfl⟩
  | discards hui howner =>
    suffices hmoved : ControlInvariant backend outputBytesPerTick
        { control with session := control.session.discards, ui := control.ui } from hmoved
    refine h.moves ?_ rfl ?_ (inFlight_eq_nil ?_) (.inl hui) ?_
    · apply Reachable.step h.session trivial
      change Session.step backend _ .discardOutput = _
      rw [Session.step, howner]
    · -- discarded bytes are removed but not taken
      rw [Session.ledger_discards, Ledger.taken_discardOutput]
    · rw [hui]
      rfl
    · change control.session.owner = _ ∨ control.session.owner = _ → _
      rw [howner]
      rintro (hcase | hcase) <;> contradiction
  | stops session hui hsession =>
    have hreachable : Reachable (sessionSystem backend) AnyOrder session :=
      .step h.session trivial hsession
    cases outcome_of_step hsession with
    | stops =>
      refine h.moves hreachable rfl rfl (inFlight_eq_nil ?_) (.inr (.inl rfl)) ?_
      · rw [hui]
        rfl
      · rintro (howner | howner) <;> contradiction
  | starts action session restart hui hsession hstart => exact h.starts hui hsession hstart
  | started restart hui =>
    refine h.feedTexts rfl rfl (control.afterStart_fed restart) ?_ (inFlight_eq_nil ?_) ?_
    · rw [hui]
      exact fun _ => UiState.noConfusion
    · rw [hui]
      rfl
    · intro input hinput
      rcases Control.mem_startTexts hinput with rfl | rfl | rfl
      · exact ⟨Nat.zero_le _, rfl⟩
      · exact ⟨Nat.zero_le _, rfl⟩
      · exact ⟨Nat.le_refl _, rfl⟩

/-- The invariant holds in every run, whatever is assumed of it. -/
theorem reachable {allowed : Control → ControlAction → Prop}
    (h : Reachable (controlSystem backend outputBytesPerTick) allowed control) :
    ControlInvariant backend outputBytesPerTick control := by
  have hempty : ∀ ui : UiState, ui = .idle ∨ ui = .starting false →
      ControlInvariant backend outputBytesPerTick { ui } := by
    intro ui hui
    constructor
    case session => exact .init rfl
    case numbered => exact fun _ hinput => nomatch hinput
    case fresh => rintro (howner | howner) <;> contradiction
    case taken => rcases hui with rfl | rfl <;> rfl
    case left => rcases hui with rfl | rfl <;> exact fun hticking => nomatch hticking
    case grown => rcases hui with rfl | rfl <;> exact fun hticking => nomatch hticking
  refine Reachable.invariant ?_ ?_ h
  · rintro _ (rfl | rfl)
    · exact hempty _ (.inr rfl)
    · exact hempty _ (.inl rfl)
  · intro _ _ _ _ hinvariant _ hstep
    exact hinvariant.step hstep

/-- The tick left nothing in the queue exactly where its limit allowed all of it and the reader
queued nothing since. -/
theorem queued_eq_nil_iff (h : ControlInvariant backend outputBytesPerTick control)
    (hticking : control.ui.ticking = true) : control.session.queued = [] ↔
      control.queuedAtTake ≤ tickLimit outputBytesPerTick ∧ control.pushedSinceTake = false := by
  constructor
  · intro hqueued
    -- a push during the tick leaves the queue nonempty
    have hpushed : control.pushedSinceTake = false := by
      rw [← Bool.not_eq_true]
      exact fun hpushed => h.grown hticking hpushed hqueued
    have hleft := h.left hticking hpushed
    rw [hqueued] at hleft
    exact ⟨Nat.sub_eq_zero_iff_le.mp hleft.symm, hpushed⟩
  · rintro ⟨hlimit, hpushed⟩
    rw [← List.length_eq_zero_iff, h.left hticking hpushed]
    exact Nat.sub_eq_zero_of_le hlimit

end ControlInvariant

/-! ## The notice -/

/-- What an exit notice of the current session leaves behind. The process has exited and nothing of
its output is on the way. -/
structure NoticeInvariant (control : Control) : Prop where
  noticed : exitNotice control.number ∈ control.fed →
    control.session.state = .exited ∧ control.session.queued = [] ∧ control.inFlight = []
  last : control.fed.Pairwise CoreInput.MayPrecede

namespace NoticeInvariant

variable {backend : Backend} {outputBytesPerTick : UInt32} {control : Control}

/-- Texts may follow everything. -/
theorem last_append_texts (h : NoticeInvariant control) {texts : List CoreInput}
    (htexts : ∀ earlier, ∀ text ∈ texts, CoreInput.MayPrecede earlier text) :
    (control.fed ++ texts).Pairwise CoreInput.MayPrecede := by
  rw [List.pairwise_append]
  refine ⟨h.last, ?_, fun earlier _ text htext => htexts earlier text htext⟩
  exact List.pairwise_of_forall_mem_list fun earlier _ text htext => htexts earlier text htext

/-- After the notice the reader is at its end. -/
theorem reader (h : NoticeInvariant control)
    (hinvariant : ControlInvariant backend outputBytesPerTick control) {action : Action}
    {session : Session} (hstep : control.session.step backend action = some session)
    (hreader : action.byReader = true) :
    NoticeInvariant
      { control with
        session, pushedSinceTake := control.pushedSinceTake || decide (action = .push) } where
  noticed := by
    intro hnotice
    have hquiet := readerStep hstep hreader
    have hnumber : session.ended.length = control.number := congrArg List.length hquiet.ended
    change exitNotice session.ended.length ∈ control.fed at hnotice
    rw [hnumber] at hnotice
    cases reader_of_exited hinvariant.session (h.noticed hnotice).1 with
    | inl hnone => exact absurd hnone hquiet.active.1
    | inr hfinished => exact absurd hfinished hquiet.active.2
  last := h.last

/-- There is nothing to take after the notice. -/
theorem takes (h : NoticeInvariant control) (maxBytes queuedAtTake : Nat) :
    NoticeInvariant
      { control with
        session := control.session.takes maxBytes
        ui := .taking
        queuedAtTake
        pushedSinceTake := false } where
  noticed := by
    intro hnotice
    obtain ⟨hstate, hqueued, -⟩ := h.noticed hnotice
    obtain ⟨pending, htakes, hpending⟩ := control.session.owner_takes maxBytes
    refine ⟨hstate, ?_, ?_⟩
    · -- an empty queue yields nothing and stays empty
      rw [Session.queued_takes, hqueued]
      exact List.drop_nil
    · rw [Control.inFlight]
      dsimp only
      rw [htakes]
      change pending.flatten = []
      rw [hpending, hqueued]
      exact List.take_nil
  last := h.last

/-- Nothing was in hand when the notice was fed, so this is no output of its session. -/
theorem feeds (h : NoticeInvariant control) {output : List (List UInt8)}
    (hui : control.ui = .feeding output) :
    NoticeInvariant
      { control with
        fed := control.fed ++ output.flatten.map (.output control.number), ui := .checking } where
  noticed := by
    intro hnotice
    cases List.mem_append.mp hnotice with
    | inl hold =>
      obtain ⟨hstate, hqueued, -⟩ := h.noticed hold
      exact ⟨hstate, hqueued, rfl⟩
    | inr hnew =>
      obtain ⟨byte, -, heq⟩ := List.mem_map.mp hnew
      contradiction
  last := by
    rw [List.pairwise_append]
    refine ⟨h.last, ?_, ?_⟩
    · rw [List.pairwise_map]
      exact List.pairwise_of_forall fun _ _ => trivial
    · intro earlier hearlier later hlater
      obtain ⟨byte, hbyte, rfl⟩ := List.mem_map.mp hlater
      simp only [CoreInput.MayPrecede]
      split
      next number session byte' hlast =>
        cases hlast
        rintro rfl
        -- after the notice of this session the tick has nothing to feed
        have hempty := (h.noticed hearlier).2.2
        rw [Control.inFlight, hui] at hempty
        change output.flatten = [] at hempty
        rw [hempty] at hbyte
        contradiction
      next => trivial

/-- The status is read; this is where the run's condition is used. -/
theorem checks (h : NoticeInvariant control)
    (hinvariant : ControlInvariant backend outputBytesPerTick control)
    (hui : control.ui = .checking)
    (hallowed : DrainedAtExit outputBytesPerTick control .updateTransportStatus) :
    NoticeInvariant control.updateTransportStatus := by
  obtain ⟨hsession, hidle, hfed⟩ := control.updateTransportStatus_eq
  have hinFlight : control.updateTransportStatus.inFlight = [] := by
    rw [Control.inFlight, hidle]
  constructor
  case noticed =>
    intro hnotice
    rw [Control.number, hsession, hfed] at hnotice
    rw [hsession, hinFlight]
    cases List.mem_append.mp hnotice with
    | inl hold =>
      obtain ⟨hstate, hqueued, -⟩ := h.noticed hold
      exact ⟨hstate, hqueued, rfl⟩
    | inr hnew =>
      -- the notice is new: the tick that feeds it drained the queue
      obtain ⟨hchanged, hstatus⟩ := Control.mem_statusTexts hnew
      have hstate : control.session.state = .exited := by
        injection hstatus with _ _ hstate
        exact hstate.symm
      have hlast : control.lastTransportState ≠ .exited := by
        rw [← hstate]
        exact hchanged.symm
      have hticking : control.ui.ticking = true := by
        rw [hui]
        rfl
      exact ⟨hstate, (hinvariant.queued_eq_nil_iff hticking).mpr (hallowed rfl hstate hlast), rfl⟩
  case last =>
    rw [hfed]
    apply h.last_append_texts
    intro earlier text htext
    apply mayPrecede_of_outputs
    rw [(Control.mem_statusTexts htext).2]
    exact fun _ _ => CoreInput.noConfusion

/-- A new session has no notice yet. -/
theorem starts (h : NoticeInvariant control)
    (hinvariant : ControlInvariant backend outputBytesPerTick control) {action : Action}
    {session : Session} {restart : Bool}
    (hstep : control.session.step backend action = some session) (hstart : action ∈ startSteps) :
    NoticeInvariant
      { control with
        session
        ui := if action = .spawn ∨ action = .spawnFails then .started restart
          else .starting restart } where
  noticed := by
    intro hnotice
    have hidle : ∀ session : Session, ({ control with
        session
        ui := if action = .spawn ∨ action = .spawnFails then .started restart
          else .starting restart } : Control).inFlight = [] := by
      intro session
      apply ControlInvariant.inFlight_eq_nil
      change UiState.ticking (if _ then _ else _) = false
      split <;> rfl
    cases outcome_of_step hstep with
    | stops =>
      obtain ⟨hstate, hqueued, -⟩ := h.noticed hnotice
      exact ⟨hstate, hqueued, hidle _⟩
    | joins again howner =>
      obtain ⟨hstate, hqueued, -⟩ := h.noticed hnotice
      refine ⟨?_, hqueued, hidle _⟩
      change (if control.session.state = .starting ∨ control.session.state = .running then
        TransportState.stopped else control.session.state) = .exited
      -- `Stop` overwrites only `Starting` and `Running`
      rw [hstate]
      rfl
    | clears =>
      -- the new session has no notice yet
      exact absurd hnotice (not_exitNotice_mem fun input hinput =>
        Nat.lt_succ_of_le (hinvariant.numbered input hinput))
    | stores howner =>
      exact absurd hnotice (not_exitNotice_mem (hinvariant.fresh (.inl howner)).2)
    | spawns howner | spawnFails howner =>
      exact absurd hnotice (not_exitNotice_mem (hinvariant.fresh (.inr howner)).2)
    | testStop | waits | loads | readNothing | readFails | reads | pushes | leaves | publishes
    | takes | subtracts | discards => simp [startSteps] at hstart
  last := h.last

/-- Every step keeps the notice last, where the tick that feeds it has drained the queue. -/
theorem step (h : NoticeInvariant control)
    (hinvariant : ControlInvariant backend outputBytesPerTick control) {action : ControlAction}
    {control' : Control} (hallowed : DrainedAtExit outputBytesPerTick control action)
    (hstep : control.step backend outputBytesPerTick action = some control') :
    NoticeInvariant control' := by
  cases controlOutcome_of_step hstep with
  | reader action session hsession hreader => exact h.reader hinvariant hsession hreader
  | takes hui howner => exact h.takes _ _
  | subtracts taken pending hui howner =>
    constructor
    case noticed =>
      intro hnotice
      obtain ⟨hstate, hqueued, hinFlight⟩ := h.noticed hnotice
      rw [Control.inFlight, hui, howner] at hinFlight
      exact ⟨hstate, hqueued, hinFlight⟩
    case last => exact h.last
  | feeds output hui => exact h.feeds hui
  | checks hui => exact h.checks hinvariant hui hallowed
  | discards hui howner =>
    constructor
    case noticed =>
      intro hnotice
      refine ⟨(h.noticed hnotice).1, rfl, ControlInvariant.inFlight_eq_nil ?_⟩
      change control.ui.ticking = false
      rw [hui]
      rfl
    case last => exact h.last
  | stops session hui hsession =>
    cases outcome_of_step hsession with
    | stops =>
      constructor
      case noticed =>
        intro hnotice
        obtain ⟨hstate, hqueued, -⟩ := h.noticed hnotice
        exact ⟨hstate, hqueued, rfl⟩
      case last => exact h.last
  | starts action session restart hui hsession hstart =>
    exact h.starts hinvariant hsession hstart
  | started restart hui =>
    constructor
    case noticed =>
      intro hnotice
      rw [control.afterStart_fed restart] at hnotice
      cases List.mem_append.mp hnotice with
      | inl hold =>
        obtain ⟨hstate, hqueued, -⟩ := h.noticed hold
        exact ⟨hstate, hqueued, rfl⟩
      | inr hnew =>
        -- the texts after `Start` are no exit notice of `UpdateTransportStatus`
        rcases Control.mem_startTexts hnew with heq | heq | heq <;> simp [exitNotice] at heq
    case last =>
      rw [control.afterStart_fed restart]
      apply h.last_append_texts
      intro earlier text htext
      apply mayPrecede_of_outputs
      rcases Control.mem_startTexts htext with rfl | rfl | rfl <;>
        exact fun _ _ => CoreInput.noConfusion

theorem reachable
    (h : Reachable (controlSystem backend outputBytesPerTick) (DrainedAtExit outputBytesPerTick)
      control) : NoticeInvariant control := by
  refine Reachable.invariant (I := NoticeInvariant) ?_ ?_ h
  · rintro _ (rfl | rfl)
    · exact ⟨fun hnotice => absurd hnotice List.not_mem_nil, .nil⟩
    · exact ⟨fun hnotice => absurd hnotice List.not_mem_nil, .nil⟩
  · intro _ _ _ hreachable hnotice hallowed hstep
    exact hnotice.step (.reachable hreachable) hallowed hstep

end NoticeInvariant

theorem held_of_exited {backend : Backend} {session : Session}
    (hreachable : Reachable (sessionSystem backend) AnyOrder session)
    (hstate : session.state = .exited) : session.reader.held = [] := by
  cases reader_of_exited hreachable hstate with
  | inl hnone =>
    rw [hnone]
    rfl
  | inr hfinished =>
    rw [hfinished]
    rfl

/-- When the exit is reported, everything the reader queued was fed or discarded exactly where the
tick drained the queue. -/
theorem allFed_iff_drained {backend : Backend} {outputBytesPerTick : UInt32} {control : Control}
    {allowed : Control → ControlAction → Prop}
    (hreachable : Reachable (controlSystem backend outputBytesPerTick) allowed control)
    (hui : control.ui = .checking) (hstate : control.session.state = .exited) :
    control.session.ledger.read = control.session.ledger.removed ∧
        control.fedOutput = control.session.ledger.taken ↔
      control.queuedAtTake ≤ tickLimit outputBytesPerTick ∧ control.pushedSinceTake = false := by
  have hinvariant := ControlInvariant.reachable hreachable
  have hticking : control.ui.ticking = true := by
    rw [hui]
    rfl
  -- the reader is at its end and holds nothing
  have hread := (LedgerInvariant.reachable hinvariant.session).read_eq
  rw [held_of_exited hinvariant.session hstate, List.append_nil] at hread
  have htaken := hinvariant.taken
  rw [Control.inFlight, hui, List.append_nil] at htaken
  -- all bytes were removed exactly if the queue is empty
  rw [← hinvariant.queued_eq_nil_iff hticking, hread, List.append_right_eq_self]
  exact and_iff_left htaken

/-- Where every tick that reports an exit drained the queue, the exit notice comes last. -/
theorem exitNoticesLast_of_drained (backend : Backend) (outputBytesPerTick : UInt32)
    {control : Control}
    (hreachable : Reachable (controlSystem backend outputBytesPerTick)
      (DrainedAtExit outputBytesPerTick) control) : ExitNoticesLast control := by
  have hinvariant := ControlInvariant.reachable hreachable
  have hnotice := NoticeInvariant.reachable hreachable
  constructor
  case complete =>
    intro hmem
    obtain ⟨hstate, hqueued, hinFlight⟩ := hnotice.noticed hmem
    -- queue, reader and control hold nothing of this session any more
    have hread := (LedgerInvariant.reachable hinvariant.session).read_eq
    rw [hqueued, held_of_exited hinvariant.session hstate, List.append_nil,
      List.append_nil] at hread
    have htaken := hinvariant.taken
    rw [hinFlight, List.append_nil] at htaken
    exact ⟨hread, htaken⟩
  case last => exact hnotice.last

/-- A process writes two bytes and exits; then the control ticks twice. -/
def exitingActions : List ControlAction :=
  [.start (.stop true), .start .join, .start .clearOutput, .start .storeQueued, .start .spawn,
    .afterStart, .reader .testStop, .reader .loadQueued, .reader (.read [65, 66]), .reader .push,
    .reader .testStop, .reader .loadQueued, .reader .readFails, .reader .leave,
    .reader .publishExit,
    .onTimer, .subtract, .feedOutput, .updateTransportStatus,
    .onTimer, .subtract, .feedOutput]

/-- The state after both ticks, for what the two ticks took and fed. -/
def exitedControl (taken : List Removal) (fed : List CoreInput) (queuedAtTake : Nat) : Control :=
  { session :=
      { maxQueuedBytes := 2
        state := .exited
        reader := .finished
        ledger := { read := [65, 66], removals := taken }
        ended := [{ removals := [⟨.start, [], []⟩] }] }
    lastTransportState := .exited
    fed
    ui := .checking
    queuedAtTake }

/-- At the default of 8 KiB a tick takes both bytes. -/
theorem exitNoticesLast_atDefault :
    ExitNoticesLast (exitedControl
      [⟨.takeOutput 8192, [65, 66], [65, 66]⟩, ⟨.takeOutput 8192, [], []⟩]
      [.output 1 65, .output 1 66, exitNotice 1] 0) := by
  apply exitNoticesLast_of_drained .posixPty 8192
  refine Reachable.runSteps (fun control action =>
    if DrainedAtExit 8192 control action then control.step .posixPty 8192 action else none)
    exitingActions ?_ (.init (.inl rfl)) (by decide)
  intro control action control' hstep
  by_cases hallowed : DrainedAtExit 8192 control action
  · rw [if_pos hallowed] at hstep
    exact ⟨hallowed, hstep⟩
  · rw [if_neg hallowed] at hstep
    contradiction

/-- At one byte a tick the second byte is fed after the notice. -/
theorem not_exitNoticesLast : ¬ ∀ (outputBytesPerTick : UInt32) (control : Control),
    Reachable (controlSystem .posixPty outputBytesPerTick) (fun _ _ => True) control →
      ExitNoticesLast control := by
  intro h
  have hreachable : Reachable (controlSystem .posixPty 1) (fun _ _ => True) (exitedControl
      [⟨.takeOutput 1, [65, 66], [65]⟩, ⟨.takeOutput 1, [66], [66]⟩]
      [.output 1 65, exitNotice 1, .output 1 66] 1) :=
    Reachable.runSteps (Control.step .posixPty 1) exitingActions
      (fun _ _ _ hstep => ⟨trivial, hstep⟩) (.init (.inl rfl)) (by decide)
  -- the notice stands before the output byte 66 of its own session
  obtain ⟨-, hafter⟩ := List.pairwise_cons.mp (h 1 _ hreachable).last
  exact (List.pairwise_cons.mp hafter).1 _ List.mem_cons_self rfl

end SakuraTerminal.Wx
