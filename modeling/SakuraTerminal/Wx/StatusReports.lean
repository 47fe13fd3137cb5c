import SakuraTerminal.Foundations.ChangeReports
import SakuraTerminal.Wx.ExitNotice

/-!
# Reports of the transport's status

The constructor, `RestartTransport` and `UpdateTransportStatus` of `src/wx/terminal_ctrl.cpp` call
`on_transport_status_changed`. The first two report the status they read after `Start`, and let
`last_transport_state_` say `Failed` or `Stopped`; a tick reports a state that differs from
`last_transport_state_`. Between these steps the transport may change its state in any way.

So a session reports each change once exactly when the state that was reported after `Start` is the
one that is remembered, or the first tick finds neither of the two (`statusReportedOnce_iff`). The
control of the exit notice, which has the session's threads in it, takes only runs of this kind
(`exists_statusControl`).
-/

set_option autoImplicit false

namespace SakuraTerminal.Wx

open SakuraTerminal.Foundations
open SakuraTerminal.Foundations.TransitionSystem
open SakuraTerminal.Transport

/-! ## The control -/

/-- The history of a session: the status that was reported after `Start`, and what each tick found.
-/
structure StatusSession where
  started : TransportState
  ticks : List (Observation TransportState) := []
  deriving DecidableEq, Repr

/-- The transport, what the control remembers of it, and the sessions of the control. The sessions
are kept for the theorems only. -/
structure StatusControl where
  /-- What `GetStatus` of the transport says. -/
  transportState : TransportState
  lastTransportState : TransportState
  session : StatusSession
  /-- The sessions before it, the latest one first. -/
  ended : List StatusSession := []
  deriving DecidableEq, Repr

/-- `last_transport_state_` after a start. -/
def startedState (status : TransportState) : TransportState :=
  if status = .failed then .failed else .stopped

/-- The constructor, whose `Start` left this status. -/
def StatusControl.construct (status : TransportState) : StatusControl where
  transportState := status
  lastTransportState := startedState status
  session := { started := status }

/-- `RestartTransport`, whose `Start` left this status. -/
def StatusControl.restartTransport (control : StatusControl) (status : TransportState) :
    StatusControl where
  transportState := status
  lastTransportState := startedState status
  session := { started := status }
  ended := control.session :: control.ended

/-- The session after one more tick. -/
def StatusSession.tick (session : StatusSession) (state : TransportState) (reported : Bool) :
    StatusSession :=
  { session with ticks := session.ticks ++ [⟨state, reported⟩] }

/-- `UpdateTransportStatus` of a tick. -/
def StatusControl.updateTransportStatus (control : StatusControl) : StatusControl :=
  let state := control.transportState
  if state = control.lastTransportState then
    { control with session := control.session.tick state false }
  else
    { control with
      lastTransportState := state
      session := control.session.tick state true }

/-- The transport changes its state, or the control takes a step. -/
inductive StatusAction where
  /-- The transport changes its state. -/
  | transport (state : TransportState)
  | onTimer
  | restartTransport (status : TransportState)
  deriving DecidableEq, Repr

/-- One step. -/
def StatusControl.step (control : StatusControl) : StatusAction → StatusControl
  | .transport state => { control with transportState := state }
  | .onTimer => control.updateTransportStatus
  | .restartTransport status => control.restartTransport status

/-- All runs of a control that was constructed with a started transport. -/
def statusSystem : TransitionSystem StatusControl StatusAction where
  init control := ∃ status, control = .construct status
  step control action control' := control.step action = control'

/-- All sessions, the current one first. -/
def StatusControl.sessions (control : StatusControl) : List StatusSession :=
  control.session :: control.ended

/-! ## The sessions of a run -/

/-- What the ticks of the session found. -/
def StatusSession.found (session : StatusSession) : List TransportState :=
  session.ticks.map (·.value)

/-- The ticks of a session report as an observer does that remembers `startedState`. -/
structure StatusSession.Observes (session : StatusSession) : Prop where
  ticks : session.ticks = observe (startedState session.started) session.found

/-- The control remembers what the last tick found. -/
structure StatusInvariant (control : StatusControl) : Prop where
  observes : ∀ session ∈ control.sessions, session.Observes
  last : control.lastTransportState =
    remembered (startedState control.session.started) control.session.found

theorem observes_started (status : TransportState) :
    StatusSession.Observes { started := status } := ⟨rfl⟩

theorem StatusSession.found_tick (session : StatusSession) (state : TransportState)
    (reported : Bool) : (session.tick state reported).found = session.found ++ [state] := by
  simp [StatusSession.found, StatusSession.tick]

theorem StatusSession.Observes.tick {session : StatusSession} (h : session.Observes)
    (state : TransportState) :
    (session.tick state
      (decide (state ≠ remembered (startedState session.started) session.found))).Observes := by
  constructor
  rw [StatusSession.found_tick]
  change session.ticks ++ _ = observe (startedState session.started) _
  rw [observe_concat, ← h.ticks]

/-- A tick, in the terms of an observer. -/
theorem StatusControl.updateTransportStatus_eq (control : StatusControl) :
    control.updateTransportStatus =
      { control with
        lastTransportState := control.transportState
        session := control.session.tick control.transportState
          (decide (control.transportState ≠ control.lastTransportState)) } := by
  unfold StatusControl.updateTransportStatus
  by_cases hsame : control.transportState = control.lastTransportState
  · simp [hsame]
  · simp [hsame]

/-- A tick is one more observation, and a restart begins a new session. -/
theorem StatusInvariant.step {control : StatusControl} (h : StatusInvariant control)
    (action : StatusAction) : StatusInvariant (control.step action) := by
  cases action with
  | transport state => exact ⟨h.observes, h.last⟩
  | onTimer =>
    simp only [StatusControl.step, StatusControl.updateTransportStatus_eq]
    refine ⟨fun session hsession => ?_, ?_⟩
    · rcases List.mem_cons.1 hsession with rfl | hended
      · rw [h.last]
        exact (h.observes _ List.mem_cons_self).tick _
      · exact h.observes _ (List.mem_cons_of_mem _ hended)
    · rw [StatusSession.found_tick, remembered_concat]
  | restartTransport status =>
    refine ⟨fun session hsession => ?_, rfl⟩
    rcases List.mem_cons.1 hsession with rfl | hended
    · exact observes_started status
    · exact h.observes _ hended

/-- What holds in every reachable state. -/
theorem statusInvariant {control : StatusControl}
    {allowed : StatusControl → StatusAction → Prop}
    (h : statusSystem.Reachable allowed control) : StatusInvariant control := by
  refine h.invariant (I := StatusInvariant) ?_ ?_
  · rintro _ ⟨status, rfl⟩
    refine ⟨fun session hsession => ?_, rfl⟩
    rw [List.mem_singleton.1 hsession]
    exact observes_started status
  · rintro control action _ - hinv - rfl
    exact hinv.step action

/-! ## The control with its threads -/

/-- The control is inside of its constructor. -/
def Control.Constructing (control : Control) : Prop :=
  control.ui = .starting false ∨ control.ui = .started false

/-- The two models agree on the state of the transport and on what the control remembers of it. -/
structure SameStatus (control : Control) (status : StatusControl) : Prop where
  transportState : status.transportState = control.session.state
  lastTransportState : status.lastTransportState = control.lastTransportState

/-- A reachable control of this module that agrees with it. -/
def HasStatusControl (control : Control) : Prop :=
  ∃ status, statusSystem.Reachable (fun _ _ => True) status ∧ SameStatus control status

/-- A step of the control that leaves `last_transport_state_` alone lets the transport change. -/
theorem HasStatusControl.transport {control control' : Control} (h : HasStatusControl control)
    (hlast : control'.lastTransportState = control.lastTransportState) :
    HasStatusControl control' := by
  obtain ⟨status, hreach, hsame⟩ := h
  refine ⟨status.step (.transport control'.session.state), .step hreach trivial rfl, rfl, ?_⟩
  rw [hlast]
  exact hsame.lastTransportState

theorem HasStatusControl.updateTransportStatus {control : Control} (h : HasStatusControl control) :
    HasStatusControl control.updateTransportStatus := by
  obtain ⟨status, hreach, hsame⟩ := h
  refine ⟨status.step .onTimer, .step hreach trivial rfl, ?_⟩
  simp only [StatusControl.step, StatusControl.updateTransportStatus_eq]
  rw [Control.updateTransportStatus]
  split
  · next hstate => exact ⟨hsame.transportState, hsame.transportState.trans hstate⟩
  · exact ⟨hsame.transportState, hsame.transportState⟩

theorem hasStatusControl_construct (control : Control) :
    HasStatusControl (control.afterStart false) :=
  ⟨.construct control.session.state, .init ⟨_, rfl⟩, rfl, rfl⟩

theorem HasStatusControl.restartTransport {control : Control} (h : HasStatusControl control) :
    HasStatusControl (control.afterStart true) := by
  obtain ⟨status, hreach, -⟩ := h
  exact ⟨status.step (.restartTransport control.session.state), .step hreach trivial rfl, rfl, rfl⟩

/-- The control of the exit notice takes steps of this module's control once it is constructed. -/
theorem exists_statusControl {backend : Backend} {outputBytesPerTick : UInt32} {control : Control}
    {allowed : Control → ControlAction → Prop}
    (h : (controlSystem backend outputBytesPerTick).Reachable allowed control) :
    control.Constructing ∨ HasStatusControl control := by
  refine h.invariant (I := fun control => control.Constructing ∨ HasStatusControl control) ?_ ?_
  · rintro _ (rfl | rfl)
    · exact .inl (.inl rfl)
    · exact .inr ⟨.construct .stopped, .init ⟨_, rfl⟩, rfl, rfl⟩
  · intro control action control' _ ih _ hstep
    have hconstructed : ¬ control.Constructing → HasStatusControl control := ih.resolve_left
    cases controlOutcome_of_step hstep with
    | reader action session _ _ =>
      exact ih.imp (fun hui => hui) fun hstatus => hstatus.transport rfl
    | takes hui _ =>
      exact .inr ((hconstructed (by simp [Control.Constructing, hui])).transport rfl)
    | subtracts taken pending hui _ =>
      exact .inr ((hconstructed (by simp [Control.Constructing, hui])).transport rfl)
    | feeds output hui =>
      exact .inr ((hconstructed (by simp [Control.Constructing, hui])).transport rfl)
    | checks hui =>
      exact .inr (hconstructed (by simp [Control.Constructing, hui])).updateTransportStatus
    | discards hui _ =>
      exact .inr ((hconstructed (by simp [Control.Constructing, hui])).transport rfl)
    | stops session hui _ =>
      exact .inr ((hconstructed (by simp [Control.Constructing, hui])).transport rfl)
    | starts action session restart hui _ _ =>
      rcases ih with hconstructing | hstatus
      · -- the first start of the constructor goes on
        have hrestart : restart = false := by
          rcases hconstructing with heq | heq <;> rcases hui with hui | hui <;> simp_all
        subst hrestart
        refine .inl ?_
        simp only [Control.Constructing]
        split <;> simp
      · exact .inr (hstatus.transport rfl)
    | started restart hui =>
      cases restart with
      | false => exact .inr (hasStatusControl_construct control)
      | true =>
        exact .inr (hconstructed (by simp [Control.Constructing, hui])).restartTransport

/-! ## Reports -/

/-- Consecutive reports of a session have different states, and a tick reports the state it finds if
that differs from the last report. -/
def StatusReportedOnce (control : StatusControl) : Prop :=
  ∀ session ∈ control.sessions, ReportedOnce session.started session.ticks

theorem started_eq_startedState (status : TransportState) :
    status = startedState status ↔ status = .failed ∨ status = .stopped := by
  cases status <;> simp [startedState]

/-- The status after the start is one that the control remembers, or the first tick finds another
one, and not `Stopped`. -/
def StatusSession.StartSettles (session : StatusSession) : Prop :=
  (session.started = .failed ∨ session.started = .stopped) ∨
    ∀ state ∈ session.found.head?, state ≠ session.started ∧ state ≠ .stopped

theorem StatusSession.Observes.reportedOnce_iff {session : StatusSession} (h : session.Observes) :
    ReportedOnce session.started session.ticks ↔ session.StartSettles := by
  rw [h.ticks, reportedOnce_observe_iff, started_eq_startedState, StatusSession.StartSettles]
  by_cases hstarted : session.started = .failed
  · exact iff_of_true (.inl (.inl hstarted)) (.inl (.inl hstarted))
  · rw [startedState, if_neg hstarted]

/-- In every run, each change is reported once exactly when the start of each session settles what
the control remembers. -/
theorem statusReportedOnce_iff {control : StatusControl}
    (h : statusSystem.Reachable (fun _ _ => True) control) :
    StatusReportedOnce control ↔ ∀ session ∈ control.sessions, session.StartSettles := by
  have hinv := statusInvariant h
  constructor
  · intro hreported session hsession
    exact (hinv.observes session hsession).reportedOnce_iff.1 (hreported session hsession)
  · intro hsettles session hsession
    exact (hinv.observes session hsession).reportedOnce_iff.2 (hsettles session hsession)

/-- A start that fails and is repeated. -/
theorem statusReportedOnce_iff_failed :
    StatusReportedOnce (((StatusControl.construct .failed).step .onTimer).step
      (.restartTransport .failed)) := by
  refine (statusReportedOnce_iff (.step (.step (.init ⟨.failed, rfl⟩) trivial rfl)
    trivial rfl)).2 fun session hsession => ?_
  rcases List.mem_cons.1 hsession with rfl | hended
  · exact .inl (.inl rfl)
  · rw [List.mem_singleton.1 hended]
    exact .inl (.inl rfl)

/-- The first tick of a running session reports again that it is running. -/
theorem not_statusReportedOnce : ¬ ∀ control : StatusControl,
    statusSystem.Reachable (fun _ _ => True) control → StatusReportedOnce control := by
  intro h
  have honce := h ((StatusControl.construct .running).step .onTimer)
    (.step (.init ⟨.running, rfl⟩) trivial rfl) _ List.mem_cons_self
  have hticks : ReportedOnce TransportState.running [⟨.running, true⟩] := honce
  exact (reportedOnce_cons_true.1 hticks).1 rfl

end SakuraTerminal.Wx
