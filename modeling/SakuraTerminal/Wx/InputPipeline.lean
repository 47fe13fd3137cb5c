import SakuraTerminal.Foundations.Delivery
import SakuraTerminal.Foundations.TransitionSystem
import SakuraTerminal.Transport.InputWrites
import Mathlib.Data.List.Forall2

/-!
# From the core to the process

Keys, pastes, mouse events and some of the output make libtsm write to the child. `VteWrite` of
`src/terminal_core.cpp` counts the bytes, and `WriteBridge` of `src/wx/terminal_ctrl.cpp` hands them
to `Write` of the transport and drops its result. So what libtsm writes may get lost, and the
counters of the core and those of the transport differ by that.

Over every run, with starts, stops and answers of the system in any order, the child of each period
is given a subsequence of what libtsm wrote in it, and all of it where no `Write` failed; the
counters of both sides tell the difference (`inputPipeline`).

What libtsm writes is part of the event. The control has a transport.

A period is what lies between two changes of the transport. `Delivery` of the library has the bytes
of one call, how many of them arrived, and whether success was reported; a period is the outcome of
a list of such deliveries, and what the theorem says of it is a fact about the list. The control
adds that every write is made into the current period.
-/

set_option autoImplicit false

namespace SakuraTerminal.Wx

open SakuraTerminal.Foundations
open SakuraTerminal.Foundations.TransitionSystem
open SakuraTerminal.Transport

/-! ## The control -/

/-- The time from one `Start` or `Stop` to the next. Kept for the theorems only. The child it
belongs to, if there is one, lives no longer than the period. -/
structure TransportPeriod where
  opened : Bool
  /-- What libtsm wrote. -/
  emitted : List (List UInt8) := []
  /-- What the system accepted for the child. -/
  child : List UInt8 := []
  /-- The calls of `Write` that returned false. -/
  failures : Nat := 0
  deriving DecidableEq, Repr

/-- `SakuraTerminalMetrics`, as far as input is concerned. `VteWrite` counts what libtsm wrote,
whatever became of it. -/
structure InputMetrics where
  inputEvents : Nat := 0
  pasteBytes : Nat := 0
  mouseEvents : Nat := 0
  mouseEventsForwarded : Nat := 0
  transportWriteBytes : Nat := 0
  transportWriteEvents : Nat := 0
  deriving DecidableEq, Repr

/-- The control with the members of its transport that `Write` uses. Periods that ended are kept for
the theorems only. -/
structure InputControl (σ : Type) where
  session : σ
  metrics : InputMetrics := {}
  period : TransportPeriod := { opened := false }
  past : List TransportPeriod := []

/-- One call of the write callback, and what the system answers the transport. libtsm may call it
several times in one event. -/
structure VteWriteCall (α : Type) where
  data : List UInt8
  answers : List α
  deriving DecidableEq, Repr

/-- An event with the writes of libtsm while it is handled. -/
inductive InputEvent (α : Type) where
  | handleKey (writes : List (VteWriteCall α))
  | paste (text : List UInt8) (writes : List (VteWriteCall α))
  /-- `HandleMouse`, and whether libtsm takes the event. -/
  | handleMouse (handled : Bool) (writes : List (VteWriteCall α))
  /-- Output, which libtsm may answer. -/
  | feedOutput (writes : List (VteWriteCall α))
  | start (succeeds : Bool)
  | stop
  deriving DecidableEq, Repr

section source

variable {σ α : Type} (transport : InputTransport σ α) (control : InputControl σ)

/-- `VteWrite` and `WriteBridge`. There is no result while `Write` waits for the system. -/
def InputControl.vteWrite (call : VteWriteCall α) : Option (InputControl σ) :=
  (transport.write control.session call.data call.answers).map
    fun (returned, accepted, session) =>
      { control with
        session := session
        metrics := { control.metrics with
          transportWriteBytes := control.metrics.transportWriteBytes + call.data.length
          transportWriteEvents := control.metrics.transportWriteEvents + 1 }
        period := { control.period with
          emitted := control.period.emitted ++ [call.data]
          child := control.period.child ++ accepted
          failures := control.period.failures + if returned then 0 else 1 } }

/-- The calls of one event, in order. -/
def InputControl.vteWrites : InputControl σ → List (VteWriteCall α) → Option (InputControl σ)
  | control, [] => some control
  | control, call :: calls => (control.vteWrite transport call).bind (·.vteWrites calls)

/-- A period begins. -/
def InputControl.begin (isOpen : Bool) : InputControl σ :=
  { control with
    session := transport.setOpen control.session isOpen
    period := { opened := isOpen }
    past := control.period :: control.past }

/-- An event, with all that it makes libtsm write. -/
def InputControl.next : InputEvent α → Option (InputControl σ)
  | .handleKey writes =>
    { control with metrics := { control.metrics with
        inputEvents := control.metrics.inputEvents + 1 } }.vteWrites transport writes
  | .paste text writes =>
    if text.isEmpty then some control
    else
      { control with metrics := { control.metrics with
          pasteBytes := control.metrics.pasteBytes + text.length } }.vteWrites transport writes
  | .handleMouse handled writes =>
    { control with metrics := { control.metrics with
        mouseEvents := control.metrics.mouseEvents + 1
        mouseEventsForwarded :=
          control.metrics.mouseEventsForwarded + if handled then 1 else 0 } }.vteWrites
      transport writes
  | .feedOutput writes => control.vteWrites transport writes
  -- `Start` stops first, and a session that could not be started is not open
  | .start succeeds => some (control.begin transport succeeds)
  | .stop => some (control.begin transport false)

end source

/-- All orders of events, from a control whose transport was not started. -/
def inputSystem {σ α : Type} (transport : InputTransport σ α) :
    TransitionSystem (InputControl σ) (InputEvent α) where
  init control := control = { session := transport.new }
  step control event control' := control.next transport event = some control'

/-! ## The property -/

/-- All periods, the current one first. -/
def InputControl.periods {σ : Type} (control : InputControl σ) : List TransportPeriod :=
  control.period :: control.past

/-- All that libtsm wrote in some periods. -/
def emittedBytes (periods : List TransportPeriod) : Nat :=
  (periods.map (·.emitted.flatten.length)).sum

/-- All that the children were given. -/
def childBytes (periods : List TransportPeriod) : Nat := (periods.map (·.child.length)).sum

/-- What the child of a period is given of what libtsm wrote. A write that failed half way leaves a
part of its bytes with the child. -/
structure PeriodDelivered (period : TransportPeriod) : Prop where
  order : period.child.Sublist period.emitted.flatten
  whole : period.failures = 0 → period.child = period.emitted.flatten
  /-- Without a session every write fails. -/
  closed : period.opened = false → period.child = [] ∧ period.failures = period.emitted.length

/-- What arrived in which period, and what the counters of both sides say of it. -/
structure InputPipeline {σ α : Type} (transport : InputTransport σ α) (control : InputControl σ) :
    Prop where
  periods : ∀ period ∈ control.periods, PeriodDelivered period
  /-- The core counts what libtsm writes. -/
  emitted : control.metrics.transportWriteBytes = emittedBytes control.periods ∧
    control.metrics.transportWriteEvents =
      (control.periods.map (·.emitted.length)).sum
  /-- The transport counts the writes that did not fail, and no more bytes than were given. -/
  counted : (transport.view control.session).bytesWritten ≤ childBytes control.periods ∧
    childBytes control.periods ≤ control.metrics.transportWriteBytes ∧
    (transport.view control.session).writeEvents + (control.periods.map (·.failures)).sum =
      control.metrics.transportWriteEvents
  agree : (∀ period ∈ control.periods, period.failures = 0) →
    (transport.view control.session).bytesWritten = control.metrics.transportWriteBytes
  mouse : control.metrics.mouseEventsForwarded ≤ control.metrics.mouseEvents

/-! ## The deliveries of a period -/

/-- The deliveries of which a period is the outcome. The list exists in every run; it is not part of
the state. -/
structure TransportPeriod.Records (period : TransportPeriod) (log : List (Delivery UInt8)) :
    Prop where
  emitted : period.emitted = log.map (·.chunk)
  child : period.child = Delivery.arrived log
  failures : period.failures = (log.filter (!·.reported)).length
  closed : period.opened = false →
    ∀ delivery ∈ log, delivery.reported = false ∧ delivery.accepted = []

namespace TransportPeriod.Records

variable {period : TransportPeriod} {log : List (Delivery UInt8)}

theorem new (isOpen : Bool) : Records { opened := isOpen } [] where
  emitted := rfl
  child := rfl
  failures := rfl
  closed := by
    intro _ delivery hdelivery
    simp at hdelivery

theorem flatten_emitted (h : period.Records log) : period.emitted.flatten = Delivery.sent log := by
  rw [h.emitted, Delivery.sent, List.flatMap_def]

/-- No failure is left out. -/
theorem reported (h : period.Records log) (hnone : period.failures = 0) :
    ∀ delivery ∈ log, delivery.reported = true := by
  intro delivery hdelivery
  have hempty := List.length_eq_zero_iff.mp (h.failures.symm.trans hnone)
  have hnot := List.filter_eq_nil_iff.mp hempty delivery hdelivery
  simpa using hnot

/-- What a period is the outcome of decides what its child was given. -/
theorem delivered (h : period.Records log) : PeriodDelivered period where
  order := by
    rw [h.child, h.flatten_emitted]
    exact Delivery.arrived_sublist_sent log
  whole := by
    intro hnone
    rw [h.child, h.flatten_emitted]
    exact Delivery.arrived_eq_sent (h.reported hnone)
  closed := by
    intro hclosed
    have hrefused := h.closed hclosed
    have hall : log.filter (!·.reported) = log := by
      rw [List.filter_eq_self]
      intro delivery hdelivery
      rw [(hrefused delivery hdelivery).1, Bool.not_false]
    refine ⟨?_, ?_⟩
    · rw [h.child]
      exact Delivery.arrived_eq_nil fun delivery hdelivery => (hrefused delivery hdelivery).2
    · rw [h.failures, hall, h.emitted, List.length_map]

/-- One more call of `Write`. -/
theorem write (h : period.Records log) {data accepted : List UInt8} {before after : WriterView}
    {returned : Bool} (hopened : period.opened = before.isOpen)
    (hspec : WriteSpec data before after returned accepted) :
    Records { period with
        emitted := period.emitted ++ [data]
        child := period.child ++ accepted
        failures := period.failures + if returned then 0 else 1 }
      (log ++ [⟨data, accepted, returned, hspec.front, hspec.whole⟩]) where
  emitted := by
    rw [h.emitted, List.map_append, List.map_singleton]
  child := by
    rw [h.child, Delivery.arrived_append]
    simp [Delivery.arrived]
  failures := by
    rw [h.failures, List.filter_append, List.length_append]
    cases returned <;> rfl
  closed := by
    intro hclosed delivery hdelivery
    rcases List.mem_append.mp hdelivery with hold | hnew
    · exact h.closed hclosed delivery hold
    · rw [List.mem_singleton.mp hnew]
      exact hspec.refused (hopened.symm.trans hclosed)

end TransportPeriod.Records

/-! ## The invariant -/

/-- Some deliveries lie behind the periods. The transport counts those that were reported. -/
structure InputInvariant {σ α : Type} (transport : InputTransport σ α) (control : InputControl σ) :
    Prop where
  opened : control.period.opened = (transport.view control.session).isOpen
  history : ∃ log logs, control.period.Records log ∧
    List.Forall₂ TransportPeriod.Records control.past logs ∧
    (transport.view control.session).bytesWritten =
      Delivery.counted log + (logs.map Delivery.counted).sum
  bytes : control.metrics.transportWriteBytes = emittedBytes control.periods
  events : control.metrics.transportWriteEvents = (control.periods.map (·.emitted.length)).sum
  failures : (transport.view control.session).writeEvents +
    (control.periods.map (·.failures)).sum = control.metrics.transportWriteEvents
  mouse : control.metrics.mouseEventsForwarded ≤ control.metrics.mouseEvents

namespace InputInvariant

variable {σ α : Type} {transport : InputTransport σ α} {control control' : InputControl σ}

theorem init : InputInvariant transport { session := transport.new } where
  opened := by rw [transport.view_new]
  history := ⟨[], [], .new false, .nil, by rw [transport.view_new]; rfl⟩
  bytes := rfl
  events := rfl
  failures := by rw [transport.view_new]; rfl
  mouse := Nat.le_refl 0

/-- Metrics that are not those of `VteWrite` are free. -/
theorem metrics (h : InputInvariant transport control) {metrics : InputMetrics}
    (hbytes : metrics.transportWriteBytes = control.metrics.transportWriteBytes)
    (hevents : metrics.transportWriteEvents = control.metrics.transportWriteEvents)
    (hmouse : metrics.mouseEventsForwarded ≤ metrics.mouseEvents) :
    InputInvariant transport { control with metrics := metrics } where
  opened := h.opened
  history := h.history
  bytes := hbytes.trans h.bytes
  events := hevents.trans h.events
  failures := h.failures.trans hevents.symm
  mouse := hmouse

/-- One write is one more delivery of the current period. -/
theorem vteWrite (h : InputInvariant transport control) {call : VteWriteCall α}
    (hwrite : control.vteWrite transport call = some control') :
    InputInvariant transport control' := by
  obtain ⟨⟨returned, accepted, session⟩, hcall, heq⟩ := Option.map_eq_some_iff.mp hwrite
  obtain rfl := heq
  have hspec := transport.write_spec _ _ _ _ _ _ hcall
  obtain ⟨log, logs, hlog, hlogs, hcounted⟩ := h.history
  constructor
  case opened => exact h.opened.trans hspec.isOpen.symm
  case history =>
    refine ⟨_, logs, hlog.write h.opened hspec, hlogs, ?_⟩
    rw [hspec.bytesWritten, hcounted, Delivery.counted_append]
    simp only [Delivery.counted_cons, Delivery.counted_nil]
    cases returned with
    | true => simp; omega
    | false => simp
  case bytes =>
    have hbytes := h.bytes
    simp only [emittedBytes, InputControl.periods, List.map_cons, List.sum_cons,
      List.flatten_append, List.length_append, List.flatten_singleton] at hbytes ⊢
    omega
  case events =>
    have hevents := h.events
    simp only [InputControl.periods, List.map_cons, List.sum_cons, List.length_append,
      List.length_singleton] at hevents ⊢
    omega
  case failures =>
    have hfailures := h.failures
    rw [hspec.writeEvents]
    simp only [InputControl.periods, List.map_cons, List.sum_cons] at hfailures ⊢
    cases returned <;> simp <;> omega
  case mouse => exact h.mouse

theorem vteWrites (h : InputInvariant transport control) {calls : List (VteWriteCall α)}
    (hwrites : control.vteWrites transport calls = some control') :
    InputInvariant transport control' := by
  induction calls generalizing control with
  | nil =>
    cases hwrites
    exact h
  | cons call calls ih =>
    obtain ⟨middle, hmiddle, hrest⟩ := Option.bind_eq_some_iff.mp hwrites
    exact ih (h.vteWrite hmiddle) hrest

/-- The deliveries of a period that ends are kept behind the new one. -/
theorem begin (h : InputInvariant transport control) (isOpen : Bool) :
    InputInvariant transport (control.begin transport isOpen) := by
  have hview := transport.view_setOpen control.session isOpen
  obtain ⟨log, logs, hlog, hlogs, hcounted⟩ := h.history
  constructor
  case opened =>
    change isOpen = (transport.view (transport.setOpen control.session isOpen)).isOpen
    rw [hview]
  case history =>
    refine ⟨[], log :: logs, .new isOpen, .cons hlog hlogs, ?_⟩
    change (transport.view (transport.setOpen control.session isOpen)).bytesWritten = _
    rw [hview, List.map_cons, List.sum_cons]
    exact hcounted.trans (Nat.zero_add _).symm
  case bytes => exact h.bytes.trans (Nat.zero_add _).symm
  case events => exact h.events.trans (Nat.zero_add _).symm
  case failures =>
    change (transport.view (transport.setOpen control.session isOpen)).writeEvents +
      (0 + (control.periods.map (·.failures)).sum) = control.metrics.transportWriteEvents
    rw [hview, Nat.zero_add]
    exact h.failures
  case mouse => exact h.mouse

/-- An event counts what it is and makes its writes, one after another. -/
theorem next (h : InputInvariant transport control) {event : InputEvent α}
    (hnext : control.next transport event = some control') : InputInvariant transport control' := by
  cases event with
  | handleKey writes =>
    simp only [InputControl.next] at hnext
    refine vteWrites ?_ hnext
    exact h.metrics rfl rfl h.mouse
  | paste text writes =>
    simp only [InputControl.next] at hnext
    split at hnext
    · cases hnext
      exact h
    · refine vteWrites ?_ hnext
      exact h.metrics rfl rfl h.mouse
  | handleMouse handled writes =>
    simp only [InputControl.next] at hnext
    refine vteWrites ?_ hnext
    refine h.metrics rfl rfl (Nat.add_le_add h.mouse ?_)
    split
    · exact Nat.le_refl 1
    · exact Nat.zero_le 1
  | feedOutput writes => exact h.vteWrites hnext
  | start succeeds =>
    cases hnext
    exact h.begin succeeds
  | stop =>
    cases hnext
    exact h.begin false

end InputInvariant

theorem inputInvariant {σ α : Type} {transport : InputTransport σ α} {control : InputControl σ}
    (h : (inputSystem transport).Reachable (fun _ _ => True) control) :
    InputInvariant transport control := by
  apply h.invariant
  · rintro _ rfl
    exact .init
  · intro control event control' _ hcontrol _ hstep
    exact hcontrol.next hstep

/-! ## Totals -/

section totals

variable {periods : List TransportPeriod} {logs : List (List (Delivery UInt8))}

theorem counted_le_childBytes (h : List.Forall₂ TransportPeriod.Records periods logs) :
    (logs.map Delivery.counted).sum ≤ childBytes periods := by
  induction h with
  | nil => exact Nat.le_refl 0
  | cons hperiod _ ih =>
    simp only [childBytes, List.map_cons, List.sum_cons] at ih ⊢
    rw [hperiod.child]
    exact Nat.add_le_add (Delivery.counted_le_arrived _) ih

theorem childBytes_le_emittedBytes (h : ∀ period ∈ periods, PeriodDelivered period) :
    childBytes periods ≤ emittedBytes periods := by
  induction periods with
  | nil => exact Nat.le_refl 0
  | cons period periods ih =>
    simp only [childBytes, emittedBytes, List.map_cons, List.sum_cons] at ih ⊢
    apply Nat.add_le_add (h period List.mem_cons_self).order.length_le
    exact ih fun other hother => h other (List.mem_cons_of_mem _ hother)

theorem counted_eq_emittedBytes (h : List.Forall₂ TransportPeriod.Records periods logs)
    (hnone : ∀ period ∈ periods, period.failures = 0) :
    (logs.map Delivery.counted).sum = emittedBytes periods := by
  induction h with
  | nil => rfl
  | cons hperiod _ ih =>
    simp only [emittedBytes, List.map_cons, List.sum_cons] at ih ⊢
    rw [ih fun other hother => hnone other (List.mem_cons_of_mem _ hother),
      Delivery.counted_eq_sent (hperiod.reported (hnone _ List.mem_cons_self)),
      hperiod.flatten_emitted]

theorem delivered_of_records (h : List.Forall₂ TransportPeriod.Records periods logs) :
    ∀ period ∈ periods, PeriodDelivered period := by
  induction h with
  | nil => simp
  | cons hperiod _ ih =>
    intro period hmem
    rcases List.mem_cons.mp hmem with rfl | hrest
    · exact hperiod.delivered
    · exact ih period hrest

end totals

/-- In every run the child of a period is given a subsequence of what libtsm wrote in it, all of it
where no `Write` failed, and the counters of the core and of the transport account for both. -/
theorem inputPipeline {σ α : Type} {transport : InputTransport σ α} {control : InputControl σ}
    (h : (inputSystem transport).Reachable (fun _ _ => True) control) :
    InputPipeline transport control := by
  have hcontrol := inputInvariant h
  obtain ⟨log, logs, hlog, hlogs, hcounted⟩ := hcontrol.history
  have hall : List.Forall₂ TransportPeriod.Records control.periods (log :: logs) :=
    .cons hlog hlogs
  have hdelivered := delivered_of_records hall
  constructor
  case periods => exact hdelivered
  case emitted => exact ⟨hcontrol.bytes, hcontrol.events⟩
  case counted =>
    refine ⟨?_, ?_, hcontrol.failures⟩
    · rw [hcounted]
      exact counted_le_childBytes hall
    · rw [hcontrol.bytes]
      exact childBytes_le_emittedBytes hdelivered
  case agree =>
    intro hnone
    rw [hcounted, hcontrol.bytes]
    exact counted_eq_emittedBytes hall hnone
  case mouse => exact hcontrol.mouse

/-- A key before the child is started, one that the terminal takes byte by byte, and a paste that
fails after its first byte. -/
def partlyEvents : List (InputEvent WriteAnswer) :=
  [.handleKey [⟨[97], []⟩], .start true, .handleKey [⟨[27, 79], [.written 1, .written 1]⟩],
    .paste [98, 99] [⟨[98, 99], [.written 1, .error]⟩]]

/-- The control after them. -/
def partlyDelivered : InputControl PtyWriter where
  session := ⟨true, 2, 1⟩
  metrics := ⟨2, 2, 0, 0, 5, 3⟩
  period := ⟨true, [[27, 79], [98, 99]], [27, 79, 98], 1⟩
  past := [⟨false, [[97]], [], 1⟩]

theorem inputPipeline_partlyDelivered :
    InputPipeline PosixPtySession.input partlyDelivered := by
  apply inputPipeline
  apply Reachable.runSteps (InputControl.next PosixPtySession.input) partlyEvents
  · exact fun _ _ _ hstep => ⟨trivial, hstep⟩
  · exact .init rfl
  · rfl

end SakuraTerminal.Wx
