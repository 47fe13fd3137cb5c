import SakuraTerminal.Foundations.TransitionSystem
import Mathlib.Algebra.BigOperators.Group.List.Basic
import Mathlib.Algebra.Ring.Int.Defs
import Mathlib.Data.List.Induction
import Mathlib.Tactic.Ring
import Mathlib.Tactic.Linarith

/-!
# Wheel scrolling

`QueueWheelScroll` and `FlushWheelScroll` of `src/wx/terminal_ctrl.cpp`. An event's rotation is
brought to 120 units per action, collected, and spent in whole actions; the lines of the actions
wait for the ticks of the timer.

The division that brings an event to 120 units truncates, so what it cuts off is lost
(`WheelInvariant`). Nothing is lost where every division is exact, and a device whose delta does not
divide 120 loses whole actions in the end.

Lines wait as one signed number, clamped to 64 in either direction. A queued line is passed to the
core, waits, is dropped by the clamp, or meets a waiting line of the other direction, which takes
both away (`LinesAccounted`). So every line that the clamp leaves is passed on exactly in the runs
in which no event queues lines against waiting ones. `wheelConserved_iff` has both conditions.
-/

set_option autoImplicit false

namespace SakuraTerminal.Wx

open SakuraTerminal.Foundations

/-! ## The control -/

/-- What `QueueWheelScroll` reads of a `wxMouseEvent`. -/
structure WheelInput where
  rotation : Int
  delta : Int := 120
  linesPerAction : Int := 3
  pageScroll : Bool := false
  deriving DecidableEq, Repr

/-- What `FlushWheelScroll` reads of the configuration and the renderer. -/
structure FlushInput where
  smoothScrolling : Bool := false
  scrollAnimationActive : Bool := false
  rows : Nat := 24
  deriving DecidableEq, Repr

/-- The members for wheel events. -/
structure Wheel where
  wheelRotation : Int := 0
  pendingWheelLines : Int := 0
  wheelEvents : Nat := 0
  wheelPartialEvents : Nat := 0
  wheelScrollUpdates : Nat := 0
  wheelLinesScrolled : Nat := 0
  deriving DecidableEq, Repr

/-- `kWheelDelta`. -/
def wheelDelta : Int := 120

/-- `kMaxPendingWheelLines`. -/
def maxPendingWheelLines : Int := 64

/-- The lines of a page. -/
def pageLines (rows : Nat) : Int := max 1 (if rows > 1 then (rows : Int) - 1 else 1)

/-- `normalized_rotation`; the division of C++ truncates. -/
def normalizedRotation (input : WheelInput) : Int :=
  (input.rotation * wheelDelta).tdiv (max 1 input.delta)

/-- `actions`. -/
def wheelActions (wheel : Wheel) (input : WheelInput) : Int :=
  (wheel.wheelRotation + normalizedRotation input).tdiv wheelDelta

/-- `lines_per_action`: a page, or what the system is set to. -/
def linesPerAction (rows : Nat) (input : WheelInput) : Int :=
  if input.pageScroll then pageLines rows else max 1 input.linesPerAction

/-- `QueueWheelScroll`. An event that completes no action is counted as a partial one. -/
def queueWheelScroll (wheel : Wheel) (rows : Nat) (input : WheelInput) : Wheel :=
  if input.rotation = 0 then wheel
  else
    let actions := wheelActions wheel input
    let wheel := { wheel with
      wheelRotation := wheel.wheelRotation + normalizedRotation input
      wheelEvents := wheel.wheelEvents + 1 }
    if actions = 0 then { wheel with wheelPartialEvents := wheel.wheelPartialEvents + 1 }
    else
      { wheel with
        wheelRotation := wheel.wheelRotation - actions * wheelDelta
        pendingWheelLines := max (-maxPendingWheelLines)
          (min (wheel.pendingWheelLines + actions * linesPerAction rows input)
            maxPendingWheelLines) }

/-- The lines that `FlushWheelScroll` passes to `sakura_terminal_scroll_lines`, if it calls it. -/
def flushLines (wheel : Wheel) (input : FlushInput) : Option Int :=
  if wheel.pendingWheelLines = 0 ∨ (input.smoothScrolling && input.scrollAnimationActive) then none
  else
    let maxLines := if input.smoothScrolling then pageLines input.rows else 1
    let magnitude := min (wheel.pendingWheelLines.natAbs : Int) maxLines
    some (if wheel.pendingWheelLines > 0 then magnitude else -magnitude)

/-- `FlushWheelScroll`. -/
def flushWheelScroll (wheel : Wheel) (input : FlushInput) : Wheel :=
  match flushLines wheel input with
  | none => wheel
  | some lines =>
    { wheel with
      pendingWheelLines := wheel.pendingWheelLines - lines
      wheelScrollUpdates := wheel.wheelScrollUpdates + 1
      wheelLinesScrolled := wheel.wheelLinesScrolled + lines.natAbs }

/-! ## Runs -/

/-- An event of the wheel, or a tick of the timer. -/
inductive WheelOp where
  | queue (rows : Nat) (input : WheelInput)
  | flush (input : FlushInput)

/-- The lines that an event queues: those of its whole actions, with the sign of their
direction. -/
def queuedLines (wheel : Wheel) (rows : Nat) (input : WheelInput) : Int :=
  if input.rotation = 0 then 0 else wheelActions wheel input * linesPerAction rows input

/-- What the clamp cuts off a number of lines, with the sign of their direction. -/
def droppedLines (lines : Int) : Int :=
  if lines > 64 then lines - 64 else if lines < -64 then lines + 64 else 0

/-- How many queued lines meet a pending line of the other direction. Each of them takes one pending
line away, and neither is passed on. -/
def cancelledLines (pending queued : Int) : Nat :=
  if (0 < pending ∧ queued < 0) ∨ (pending < 0 ∧ 0 < queued) then
    min pending.natAbs queued.natAbs
  else 0

/-- The members, with what happened so far, the latest first. Every wheel event adds its rotation
and its actions, and, from these and the lines that were pending before it, the lines it queues,
those of them and of the pending ones that the clamp drops, and those that cancel. What
`sakura_terminal_scroll_lines` is given is recorded with the lines that were pending before. -/
structure WheelRun where
  wheel : Wheel := {}
  rotations : List Int := []
  actions : List Int := []
  queued : List Int := []
  dropped : List Int := []
  cancelled : List Nat := []
  scrolled : List (Int × Int) := []

/-- One event or tick, and what it adds to the record. -/
def WheelRun.next (run : WheelRun) : WheelOp → WheelRun
  | .queue rows input =>
    let queued := queuedLines run.wheel rows input
    { run with
      wheel := queueWheelScroll run.wheel rows input
      rotations := input.rotation :: run.rotations
      actions := (if input.rotation = 0 then 0 else wheelActions run.wheel input) :: run.actions
      queued := queued :: run.queued
      dropped := droppedLines (run.wheel.pendingWheelLines + queued) :: run.dropped
      cancelled := cancelledLines run.wheel.pendingWheelLines queued :: run.cancelled }
  | .flush input =>
    { run with
      wheel := flushWheelScroll run.wheel input
      scrolled := ((flushLines run.wheel input).toList.map fun lines =>
        (run.wheel.pendingWheelLines, lines)) ++ run.scrolled }

/-- All orders of events and ticks. -/
def wheelSystem : TransitionSystem WheelRun WheelOp where
  init run := run = {}
  step run op run' := run' = run.next op

/-- All events have one delta. -/
def ConstantDelta (delta : Int) (_ : WheelRun) : WheelOp → Prop
  | .queue _ input => input.delta = delta
  | .flush _ => True

/-- The event completes no whole action against the direction of the pending lines. -/
def Unopposed (run : WheelRun) : WheelOp → Prop
  | .queue _ input =>
    ¬ (run.wheel.pendingWheelLines < 0 ∧
        120 ≤ run.wheel.wheelRotation + normalizedRotation input) ∧
      ¬ (0 < run.wheel.pendingWheelLines ∧
        run.wheel.wheelRotation + normalizedRotation input ≤ -120)
  | .flush _ => True

/-- All events have one delta, and the division of the event is exact. -/
def WholeUnits (delta : Int) (_ : WheelRun) : WheelOp → Prop
  | .queue _ input => input.delta = delta ∧ delta ∣ input.rotation * 120
  | .flush _ => True

/-- The lines of one direction. -/
def upLines (lines : List Int) : Int := (lines.map fun count => max count 0).sum

/-- Those of the other one. -/
def downLines (lines : List Int) : Int := (lines.map fun count => max (-count) 0).sum

/-- The actions differ from the exact rotation by less than an action. -/
def RotationConserved (delta : Int) (run : WheelRun) : Prop :=
  ((delta * run.actions.sum - run.rotations.sum).natAbs : Int) < delta

/-- Every queued line that the clamp did not drop was passed on in its direction, or still waits for
a flush. -/
structure LinesPassed (run : WheelRun) : Prop where
  up : upLines run.queued - upLines run.dropped =
    upLines (run.scrolled.map Prod.snd) + max run.wheel.pendingWheelLines 0
  down : downLines run.queued - downLines run.dropped =
    downLines (run.scrolled.map Prod.snd) + max (-run.wheel.pendingWheelLines) 0

/-- Where every queued line went, in any run: it was passed on in its direction, waits, was dropped
by the clamp, or met a line of the other direction. A call of `sakura_terminal_scroll_lines` has the
direction of the pending lines and no more than these, and flushes that wait for no animation pass
all that wait. -/
structure LinesAccounted (run : WheelRun) : Prop where
  up : upLines run.queued = upLines (run.scrolled.map Prod.snd) +
    max run.wheel.pendingWheelLines 0 + upLines run.dropped + (run.cancelled.sum : Nat)
  down : downLines run.queued = downLines (run.scrolled.map Prod.snd) +
    max (-run.wheel.pendingWheelLines) 0 + downLines run.dropped + (run.cancelled.sum : Nat)
  direction : ∀ call ∈ run.scrolled,
    (0 < call.2 ∧ call.2 ≤ call.1) ∨ (call.2 < 0 ∧ call.1 ≤ call.2)
  drains : ∀ flushes : List FlushInput,
    (∀ input ∈ flushes, (input.smoothScrolling && input.scrollAnimationActive) = false) →
    run.wheel.pendingWheelLines.natAbs ≤ flushes.length →
    (flushes.foldl flushWheelScroll run.wheel).pendingWheelLines = 0

/-- The wheel's rotation and lines are conserved. -/
structure WheelConserved (delta : Int) (run : WheelRun) : Prop where
  rotation : RotationConserved delta run
  passed : LinesPassed run
  accounted : LinesAccounted run

/-! ## The rotation -/

/-- What the divisions cut off, in parts of a unit. -/
def lostRotation (delta : Int) (rotations : List Int) : Int :=
  (rotations.map fun rotation => (rotation * wheelDelta).tmod delta).sum

/-- Actions, rest and losses together are the rotation. -/
structure WheelInvariant (delta : Int) (run : WheelRun) : Prop where
  rest : run.wheel.wheelRotation.natAbs < 120
  ledger : delta * (wheelDelta * run.actions.sum + run.wheel.wheelRotation) +
    lostRotation delta run.rotations = wheelDelta * run.rotations.sum

/-- An event spends whole actions and keeps the rest. -/
theorem queueWheelScroll_rotation (wheel : Wheel) (rows : Nat) (input : WheelInput)
    (hrest : wheel.wheelRotation.natAbs < 120) :
    let actions := if input.rotation = 0 then 0 else wheelActions wheel input
    (queueWheelScroll wheel rows input).wheelRotation.natAbs < 120 ∧
      wheelDelta * actions + (queueWheelScroll wheel rows input).wheelRotation =
        wheel.wheelRotation + normalizedRotation input := by
  intro actions
  by_cases hzero : input.rotation = 0
  · have hnormalized : normalizedRotation input = 0 := by
      rw [normalizedRotation, hzero, Int.zero_mul, Int.zero_tdiv]
    simp only [actions, queueWheelScroll, if_pos hzero, hnormalized, Int.mul_zero, Int.zero_add,
      Int.add_zero, and_true]
    exact hrest
  · have hactions : actions = wheelActions wheel input := if_neg hzero
    -- the rest is the remainder of the division by 120
    have hdivision := Int.mul_tdiv_add_tmod (wheel.wheelRotation + normalizedRotation input)
      wheelDelta
    have hremainder := Int.natAbs_tmod (wheel.wheelRotation + normalizedRotation input) wheelDelta
    have hlt := Nat.mod_lt (wheel.wheelRotation + normalizedRotation input).natAbs
      (show 0 < wheelDelta.natAbs by decide)
    rw [hactions]
    simp only [queueWheelScroll, if_neg hzero]
    rw [wheelDelta] at hremainder hlt hdivision
    split
    next hnone =>
      rw [wheelActions, wheelDelta] at hnone
      simp only [wheelActions, wheelDelta]
      omega
    next =>
      simp only [wheelActions, wheelDelta]
      omega

/-- The division of one event. -/
theorem normalizedRotation_lost {delta : Int} (hdelta : 1 ≤ delta) {input : WheelInput}
    (hinput : input.delta = delta) :
    delta * normalizedRotation input + (input.rotation * wheelDelta).tmod delta =
      wheelDelta * input.rotation := by
  rw [normalizedRotation, hinput, max_eq_right hdelta, Int.mul_tdiv_add_tmod, Int.mul_comm]

/-- One event adds to both sides what its division gives and what it cuts off. -/
theorem WheelInvariant.next {delta : Int} (hdelta : 1 ≤ delta) {run : WheelRun} {op : WheelOp}
    (h : WheelInvariant delta run) (hop : ConstantDelta delta run op) :
    WheelInvariant delta (run.next op) := by
  cases op with
  | queue rows input =>
    obtain ⟨hrest, hspent⟩ := queueWheelScroll_rotation run.wheel rows input h.rest
    refine ⟨hrest, ?_⟩
    have hledger := h.ledger
    have hlost := normalizedRotation_lost hdelta hop
    simp only [WheelRun.next, lostRotation, List.map_cons, List.sum_cons] at hledger ⊢
    have hscaled := congrArg (fun n => delta * n) hspent
    linarith
  | flush input =>
    have hrotation : (flushWheelScroll run.wheel input).wheelRotation =
        run.wheel.wheelRotation := by
      rw [flushWheelScroll]
      split <;> rfl
    constructor
    · change (flushWheelScroll run.wheel input).wheelRotation.natAbs < 120
      rw [hrotation]
      exact h.rest
    · change delta * (wheelDelta * run.actions.sum +
        (flushWheelScroll run.wheel input).wheelRotation) + _ = _
      rw [hrotation]
      exact h.ledger

theorem wheelInvariant {delta : Int} (hdelta : 1 ≤ delta) {run : WheelRun}
    (h : wheelSystem.Reachable (ConstantDelta delta) run) : WheelInvariant delta run := by
  apply h.invariant
  · rintro _ rfl
    exact ⟨by decide, by simp [lostRotation]⟩
  · rintro run op _ _ hrun hop rfl
    exact hrun.next hdelta hop

/-! ## The lines -/

theorem one_le_pageLines (rows : Nat) : 1 ≤ pageLines rows := le_max_left _ _

/-- A flush passes some of the pending lines, at least one and in their direction. -/
theorem flushLines_spec {wheel : Wheel} {input : FlushInput} {lines : Int}
    (h : flushLines wheel input = some lines) :
    (0 < lines ∧ lines ≤ wheel.pendingWheelLines) ∨
      (lines < 0 ∧ wheel.pendingWheelLines ≤ lines) := by
  have hpage := one_le_pageLines input.rows
  rw [flushLines] at h
  split at h
  · contradiction
  next hwaits =>
    rw [not_or] at hwaits
    cases h
    split <;> split <;> omega

theorem one_le_linesPerAction (rows : Nat) (input : WheelInput) :
    1 ≤ linesPerAction rows input := by
  rw [linesPerAction]
  split
  · exact one_le_pageLines rows
  · exact le_max_left _ _

/-- An event adds its lines to the pending ones, and the clamp takes what it drops. -/
theorem queueWheelScroll_pending (wheel : Wheel) (rows : Nat) (input : WheelInput)
    (hbound : wheel.pendingWheelLines.natAbs ≤ 64) :
    (queueWheelScroll wheel rows input).pendingWheelLines =
      wheel.pendingWheelLines + queuedLines wheel rows input -
        droppedLines (wheel.pendingWheelLines + queuedLines wheel rows input) := by
  rw [queueWheelScroll, queuedLines]
  split
  · rw [droppedLines]
    split_ifs <;> omega
  · dsimp only
    split
    next hnone =>
      rw [hnone, Int.zero_mul, droppedLines]
      dsimp only
      split_ifs <;> omega
    next =>
      simp only [maxPendingWheelLines, droppedLines]
      generalize wheelActions wheel input * linesPerAction rows input = lines
      split_ifs <;> omega

/-- Where the queued lines of each direction went. -/
structure LinesInvariant (run : WheelRun) : Prop where
  bound : run.wheel.pendingWheelLines.natAbs ≤ 64
  up : upLines run.queued = upLines (run.scrolled.map Prod.snd) +
    max run.wheel.pendingWheelLines 0 + upLines run.dropped + (run.cancelled.sum : Nat)
  down : downLines run.queued = downLines (run.scrolled.map Prod.snd) +
    max (-run.wheel.pendingWheelLines) 0 + downLines run.dropped + (run.cancelled.sum : Nat)
  direction : ∀ call ∈ run.scrolled,
    (0 < call.2 ∧ call.2 ≤ call.1) ∨ (call.2 < 0 ∧ call.1 ≤ call.2)

/-- The lines of an event wait, are dropped or cancel, and these three are all of them. -/
theorem LinesInvariant.queue {run : WheelRun} (h : LinesInvariant run) (rows : Nat)
    (input : WheelInput) : LinesInvariant (run.next (.queue rows input)) := by
  have hbound := h.bound
  have hup := h.up
  have hdown := h.down
  have hpending := queueWheelScroll_pending run.wheel rows input hbound
  constructor
  case direction => exact h.direction
  all_goals
    simp only [WheelRun.next, upLines, downLines, List.map_cons, List.sum_cons] at hup hdown ⊢
    rw [hpending]
    generalize queuedLines run.wheel rows input = queued
    generalize run.wheel.pendingWheelLines = pending at *
    simp only [droppedLines, cancelledLines]
    split_ifs <;> omega

/-- What a flush passes on is taken from the lines that wait, in their direction. -/
theorem LinesInvariant.flush {run : WheelRun} (h : LinesInvariant run) (input : FlushInput) :
    LinesInvariant (run.next (.flush input)) := by
  cases hlines : flushLines run.wheel input with
  | none =>
    have hsame : run.next (.flush input) = run := by
      simp [WheelRun.next, flushWheelScroll, hlines]
    rw [hsame]
    exact h
  | some lines =>
    have hbound := h.bound
    have hup := h.up
    have hdown := h.down
    have hspec := flushLines_spec hlines
    have hpending : (run.next (.flush input)).wheel.pendingWheelLines =
        run.wheel.pendingWheelLines - lines := by
      simp [WheelRun.next, flushWheelScroll, hlines]
    have hscrolled : (run.next (.flush input)).scrolled =
        (run.wheel.pendingWheelLines, lines) :: run.scrolled := by
      simp [WheelRun.next, hlines]
    constructor
    case direction =>
      rw [hscrolled]
      intro call hcall
      rcases List.mem_cons.1 hcall with rfl | hcall
      · exact hspec
      · exact h.direction call hcall
    case bound =>
      rw [hpending]
      omega
    -- What is passed in a direction leaves the pending lines of it; the other side is unchanged.
    all_goals
      rw [hpending, hscrolled]
      simp only [WheelRun.next, upLines, downLines, List.map_cons, List.sum_cons] at hup hdown ⊢
      omega

theorem linesInvariant {allowed : WheelRun → WheelOp → Prop} {run : WheelRun}
    (h : wheelSystem.Reachable allowed run) : LinesInvariant run := by
  apply h.invariant
  · rintro _ rfl
    exact ⟨by decide, by decide, by decide, by simp⟩
  · rintro run op _ _ hrun _ rfl
    cases op with
    | queue rows input => exact hrun.queue rows input
    | flush input => exact hrun.flush input

/-- A flush that does not wait for an animation passes a line. -/
theorem flushWheelScroll_lt {wheel : Wheel} {input : FlushInput}
    (hinput : (input.smoothScrolling && input.scrollAnimationActive) = false)
    (hpending : wheel.pendingWheelLines ≠ 0) :
    (flushWheelScroll wheel input).pendingWheelLines.natAbs < wheel.pendingWheelLines.natAbs := by
  have hcalls : ∃ lines, flushLines wheel input = some lines := by
    rw [flushLines, if_neg (by simp [hpending, hinput])]
    exact ⟨_, rfl⟩
  obtain ⟨lines, hlines⟩ := hcalls
  have hspec := flushLines_spec hlines
  simp only [flushWheelScroll, hlines]
  omega

/-- Every flush passes at least a line while there is one, so they are gone after as many
flushes. -/
theorem flushWheelScroll_drains {wheel : Wheel} {flushes : List FlushInput}
    (hflushes : ∀ input ∈ flushes, (input.smoothScrolling && input.scrollAnimationActive) = false)
    (hcount : wheel.pendingWheelLines.natAbs ≤ flushes.length) :
    (flushes.foldl flushWheelScroll wheel).pendingWheelLines = 0 := by
  induction flushes generalizing wheel with
  | nil => simpa using hcount
  | cons input flushes ih =>
    rw [List.foldl_cons]
    apply ih fun later hlater => hflushes later (List.mem_cons_of_mem _ hlater)
    by_cases hpending : wheel.pendingWheelLines = 0
    · -- nothing waits, and the call does nothing
      simp [flushWheelScroll, flushLines, hpending]
    · have hlt := flushWheelScroll_lt (hflushes input List.mem_cons_self) hpending
      rw [List.length_cons] at hcount
      omega

theorem linesAccounted {allowed : WheelRun → WheelOp → Prop} {run : WheelRun}
    (h : wheelSystem.Reachable allowed run) : LinesAccounted run where
  up := (linesInvariant h).up
  down := (linesInvariant h).down
  direction := (linesInvariant h).direction
  drains := fun _ hflushes hcount => flushWheelScroll_drains hflushes hcount

/-- There is an action in a direction from 120 units on. -/
theorem tdiv_wheelDelta_sign (units : Int) :
    (0 < units.tdiv wheelDelta ↔ 120 ≤ units) ∧ (units.tdiv wheelDelta < 0 ↔ units ≤ -120) := by
  rw [wheelDelta, Int.tdiv_eq_ediv, show Int.sign 120 = 1 from rfl]
  split <;> omega

/-- Lines cancel exactly where an event is opposed. -/
theorem cancelledLines_eq_zero_iff {run : WheelRun} {rows : Nat} {input : WheelInput}
    (hrest : run.wheel.wheelRotation.natAbs < 120) :
    cancelledLines run.wheel.pendingWheelLines (queuedLines run.wheel rows input) = 0 ↔
      Unopposed run (.queue rows input) := by
  have hlines := one_le_linesPerAction rows input
  have hsign : (0 < queuedLines run.wheel rows input ↔
        120 ≤ run.wheel.wheelRotation + normalizedRotation input) ∧
      (queuedLines run.wheel rows input < 0 ↔
        run.wheel.wheelRotation + normalizedRotation input ≤ -120) := by
    rw [queuedLines]
    split
    next hzero =>
      have hnormalized : normalizedRotation input = 0 := by
        rw [normalizedRotation, hzero, Int.zero_mul, Int.zero_tdiv]
      rw [hnormalized]
      omega
    next =>
      -- the lines of an action have the sign of the actions
      have hup : 0 < wheelActions run.wheel input * linesPerAction rows input ↔
          0 < wheelActions run.wheel input := mul_pos_iff_of_pos_right (by omega)
      have hdown : wheelActions run.wheel input * linesPerAction rows input < 0 ↔
          wheelActions run.wheel input < 0 := by
        rw [← Int.neg_pos, ← Int.neg_mul, ← Int.neg_pos (a := wheelActions run.wheel input)]
        exact mul_pos_iff_of_pos_right (by omega)
      rw [hup, hdown]
      exact tdiv_wheelDelta_sign _
  rw [Unopposed, ← hsign.1, ← hsign.2]
  generalize queuedLines run.wheel rows input = queued
  rw [cancelledLines]
  split_ifs <;> omega

/-- All that the clamp left was passed on exactly if no line met one of the other direction. -/
theorem LinesAccounted.passed_iff {run : WheelRun} (h : LinesAccounted run) :
    LinesPassed run ↔ ∀ count ∈ run.cancelled, count = 0 := by
  rw [← List.sum_eq_zero_iff_forall_eq_nat]
  have hup := h.up
  have hdown := h.down
  constructor
  · intro hpassed
    have hsame := hpassed.up
    omega
  · intro hnone
    rw [hnone] at hup hdown
    constructor
    · omega
    · omega

/-- These are the runs in which no event is opposed. -/
theorem reachable_unopposed_iff {delta : Int} (hdelta : 1 ≤ delta) {run : WheelRun}
    (h : wheelSystem.Reachable (ConstantDelta delta) run) :
    (∀ count ∈ run.cancelled, count = 0) ↔ wheelSystem.Reachable
      (fun run op => ConstantDelta delta run op ∧ Unopposed run op) run := by
  constructor
  · induction h with
    | init hinit => exact fun _ => .init hinit
    | @step run _ op hrun hop hstep ih =>
      subst hstep
      intro hall
      cases op with
      | queue rows input =>
        obtain ⟨hcancelled, hearlier⟩ := List.forall_mem_cons.1 hall
        exact .step (ih hearlier)
          ⟨hop, (cancelledLines_eq_zero_iff (wheelInvariant hdelta hrun).rest).1 hcancelled⟩ rfl
      | flush input => exact .step (ih hall) ⟨hop, trivial⟩ rfl
  · intro hrun
    have hboth : WheelInvariant delta run ∧ ∀ count ∈ run.cancelled, count = 0 := by
      refine hrun.invariant (I := fun run => WheelInvariant delta run ∧
        ∀ count ∈ run.cancelled, count = 0) ?_ ?_
      · rintro _ rfl
        exact ⟨wheelInvariant hdelta (.init rfl), by simp⟩
      · rintro run op _ _ ⟨hinv, hall⟩ ⟨hop, hunopposed⟩ rfl
        refine ⟨hinv.next hdelta hop, ?_⟩
        cases op with
        | queue rows input =>
          exact List.forall_mem_cons.2
            ⟨(cancelledLines_eq_zero_iff hinv.rest).2 hunopposed, hall⟩
        | flush input => exact hall
    exact hboth.2

/-! ## Both together -/

/-- Without losses the rotation is conserved. -/
theorem rotationConserved_of_lost {delta : Int} (hdelta : 1 ≤ delta) {run : WheelRun}
    (h : wheelSystem.Reachable (ConstantDelta delta) run)
    (hlost : lostRotation delta run.rotations = 0) : RotationConserved delta run := by
  obtain ⟨hrest, hledger⟩ := wheelInvariant hdelta h
  rw [hlost, wheelDelta] at hledger
  -- 120 times the difference is `delta` times the rest
  have hscaled : 120 * (delta * run.actions.sum - run.rotations.sum) =
      -(delta * run.wheel.wheelRotation) := by linarith
  have hlow : delta * -120 < delta * run.wheel.wheelRotation :=
    Int.mul_lt_mul_of_pos_left (by omega) (by omega)
  have hhigh : delta * run.wheel.wheelRotation < delta * 120 :=
    Int.mul_lt_mul_of_pos_left (by omega) (by omega)
  unfold RotationConserved
  omega

/-- Exact divisions lose nothing. -/
theorem lostRotation_of_wholeUnits {delta : Int} {run : WheelRun}
    (h : wheelSystem.Reachable (WholeUnits delta) run) : lostRotation delta run.rotations = 0 := by
  refine h.invariant (I := fun run => lostRotation delta run.rotations = 0) ?_ ?_
  · rintro _ rfl
    rfl
  · rintro run op _ _ hrun hop rfl
    cases op with
    | queue rows input =>
      have hexact : (input.rotation * wheelDelta).tmod delta = 0 := Int.tmod_eq_zero_of_dvd hop.2
      simp only [lostRotation, WheelRun.next, List.map_cons, List.sum_cons] at hrun ⊢
      rw [hexact, hrun, Int.add_zero]
    | flush input => exact hrun

theorem reachable_ops {delta : Int} (ops : List WheelOp)
    (hops : ∀ op ∈ ops, ∀ run, ConstantDelta delta run op) :
    wheelSystem.Reachable (ConstantDelta delta) (ops.foldl WheelRun.next {}) := by
  induction ops using List.reverseRecOn with
  | nil => exact .init rfl
  | append_singleton ops op ih =>
    rw [List.foldl_concat]
    refine .step (ih fun earlier hearlier => hops earlier (List.mem_append_left _ hearlier))
      (hops op (by simp) _) rfl

/-- `n` events of rotation 1. -/
def unitEvents (delta : Int) (n : Nat) : WheelRun :=
  (List.replicate n (WheelOp.queue 24 { rotation := 1, delta := delta })).foldl WheelRun.next {}

theorem reachable_unitEvents (delta : Int) (n : Nat) :
    wheelSystem.Reachable (ConstantDelta delta) (unitEvents delta n) := by
  apply reachable_ops
  intro op hop run
  rw [List.eq_of_mem_replicate hop]
  rfl

theorem unitEvents_rotations (delta : Int) (n : Nat) :
    (unitEvents delta n).rotations = List.replicate n 1 := by
  induction n with
  | zero => rfl
  | succ n ih =>
    rw [unitEvents, List.replicate_succ', List.foldl_concat, List.replicate_succ, ← ih]
    rfl

/-- Events of rotation 1 lose more than an action if their division is not exact. -/
theorem not_conserved_unitEvents {delta : Int} (hdelta : 1 ≤ delta) (hdvd : ¬ delta ∣ 120) :
    ¬ RotationConserved delta (unitEvents delta (240 * delta.toNat)) := by
  intro hrotation
  unfold RotationConserved at hrotation
  have hinv := wheelInvariant hdelta (reachable_unitEvents delta (240 * delta.toNat))
  have hrest := hinv.rest
  have hledger := hinv.ledger
  have hcount : ((240 * delta.toNat : Nat) : Int) = 240 * delta := by omega
  -- every event loses the same part of a unit, and at least one
  have hlost : 1 ≤ (120 : Int).tmod delta := by
    have hne : (120 : Int).tmod delta ≠ 0 := fun hzero => hdvd (Int.dvd_of_tmod_eq_zero hzero)
    have hnonneg := Int.tmod_nonneg delta (show 0 ≤ (120 : Int) by decide)
    omega
  rw [unitEvents_rotations] at hrotation hledger
  simp only [lostRotation, List.map_replicate, List.sum_replicate, nsmul_eq_mul, hcount, wheelDelta,
    Int.one_mul, mul_one] at hrotation hledger
  generalize (unitEvents delta (240 * delta.toNat)).actions.sum = actions at *
  generalize (unitEvents delta (240 * delta.toNat)).wheel.wheelRotation = rest at *
  have hlostAll : 240 * delta * 1 ≤ 240 * delta * (120 : Int).tmod delta :=
    Int.mul_le_mul_of_nonneg_left hlost (by omega)
  have hlow : delta * -120 < delta * rest := Int.mul_lt_mul_of_pos_left (by omega) (by omega)
  have hgap : 120 * (delta * actions - 240 * delta) < -(120 * delta) := by linarith
  omega

theorem WholeUnits.constant {delta : Int} {run : WheelRun} {op : WheelOp}
    (h : WholeUnits delta run op) : ConstantDelta delta run op := by
  cases op with
  | queue rows input => exact h.1
  | flush input => trivial

/-- Rotation and lines are conserved in every run whose divisions are exact and whose events are not
opposed. A device's runs conserve all rotations exactly if its delta divides 120. In any run all
lines are accounted for, and those that the clamp leaves are passed on exactly if no event was
opposed. -/
theorem wheelConserved_iff {delta : Int} (hdelta : 1 ≤ delta) :
    (∀ run, wheelSystem.Reachable (fun run op => WholeUnits delta run op ∧ Unopposed run op) run →
        WheelConserved delta run) ∧
      ((∀ run, wheelSystem.Reachable (ConstantDelta delta) run → RotationConserved delta run) ↔
        delta ∣ 120) ∧
      ∀ run, wheelSystem.Reachable (ConstantDelta delta) run →
        LinesAccounted run ∧ (LinesPassed run ↔ wheelSystem.Reachable
          (fun run op => ConstantDelta delta run op ∧ Unopposed run op) run) := by
  have hwhole : ∀ run, wheelSystem.Reachable (WholeUnits delta) run →
      RotationConserved delta run := fun run hrun =>
    rotationConserved_of_lost hdelta (hrun.mono fun _ _ _ hop => hop.constant)
      (lostRotation_of_wholeUnits hrun)
  have hlines : ∀ run, wheelSystem.Reachable (ConstantDelta delta) run →
      LinesAccounted run ∧ (LinesPassed run ↔ wheelSystem.Reachable
        (fun run op => ConstantDelta delta run op ∧ Unopposed run op) run) := fun run hrun =>
    ⟨linesAccounted hrun,
      (linesAccounted hrun).passed_iff.trans (reachable_unopposed_iff hdelta hrun)⟩
  refine ⟨fun run hrun => ?_, ⟨fun hall => ?_, fun hdvd run hrun => ?_⟩, hlines⟩
  · have hconstant : wheelSystem.Reachable (ConstantDelta delta) run :=
      hrun.mono fun _ _ _ hop => hop.1.constant
    exact ⟨hwhole run (hrun.mono fun _ _ _ hop => hop.1),
      (hlines run hconstant).2.2 (hrun.mono fun _ _ _ hop => ⟨hop.1.constant, hop.2⟩),
      (hlines run hconstant).1⟩
  · by_contra hdvd
    exact not_conserved_unitEvents hdelta hdvd (hall _ (reachable_unitEvents delta _))
  · refine hwhole run (hrun.mono fun _ op _ hop => ?_)
    cases op with
    | queue rows input => exact ⟨hop, hdvd.mul_left input.rotation⟩
    | flush input => trivial

/-- Half a turn up, another one, a tick, and one down while two of the lines wait: these cancel with
two lines of the turn down, and its third line is passed on. -/
def turnedBack : WheelRun :=
  [WheelOp.queue 24 { rotation := 60 }, .queue 24 { rotation := 60 }, .flush {},
    .queue 24 { rotation := -120 }, .flush {}].foldl WheelRun.next {}

theorem wheelConserved_iff_turnedBack :
    RotationConserved 120 turnedBack ∧ LinesAccounted turnedBack ∧
      turnedBack.cancelled.sum = 2 ∧ turnedBack.scrolled.map Prod.snd = [-1, 1] ∧
      ¬ LinesPassed turnedBack := by
  have hreach : wheelSystem.Reachable (ConstantDelta 120) turnedBack := by
    apply reachable_ops
    simp [ConstantDelta]
  obtain ⟨-, hrotation, hlines⟩ := @wheelConserved_iff 120 (by decide)
  refine ⟨hrotation.2 ⟨1, by decide⟩ _ hreach, (hlines _ hreach).1, by decide, by decide, ?_⟩
  intro hpassed
  exact absurd hpassed.up (by decide)

/-- 121 events of rotation 1 from a device with delta 121 are a whole action, and no unit of them
arrives. -/
theorem not_wheelConserved : ¬ ∀ delta ≥ 1, ∀ run,
    wheelSystem.Reachable (ConstantDelta delta) run → WheelConserved delta run := by
  intro h
  have hconserved := h 121 (by decide) _ (reachable_unitEvents 121 121)
  exact absurd hconserved.rotation (by unfold RotationConserved; decide +kernel)

end SakuraTerminal.Wx
