import SakuraTerminal.Core.Terminal
import SakuraTerminal.Foundations.TransitionSystem

/-!
# Runs of a terminal

The terminal core together with libtsm's screen, as a transition system. A label says which
function is called and what libtsm's screen is afterwards, so libtsm may do anything here; what it
is relied on to do is `DrawContract`, a condition on single steps. The state also records, for the
theorems only, the frames taken so far with the screens they were taken of, whether lines or the
viewport moved since the last draw, and the attributes libtsm last reported for every cell.

The conditions on steps are arguments of reachability, so each theorem says which part of libtsm's
contract it needs. `QuietStep` gathers what all steps but `TakePackedFrame` have in common, and
`next_cases` splits a step into the two kinds, so an invariant about the cache has one case for
each. The recorded history is not read by the core: forgetting it gives the core's own runs.
-/

set_option autoImplicit false

namespace SakuraTerminal.Core

open SakuraTerminal.Foundations

/-- The calls on a terminal, each with what libtsm makes of it. Calls that only libtsm answers, such
as `TerminalBackend::Title`, are no steps. -/
inductive Op where
  | feedOutput (data : List UInt8) (after : Screen)
  | scrollLines (lines : Int) (after : Screen)
  | scrollPageUp (pages : Nat) (after : Screen)
  | scrollPageDown (pages : Nat) (after : Screen)
  /-- `Resize` that libtsm carries out. -/
  | resize (after : Screen)
  /-- Selection, keyboard, mouse and paste calls, and a `Resize` that libtsm refuses: the core keeps
  nothing of them that a frame depends on. -/
  | input (after : Screen)
  | takePackedFrame (draw : Draw)

/-- A terminal, its screen and the history of its frames. The core itself has `impl` only; the other
fields say what it was asked and what it answered. -/
structure TerminalRun where
  impl : Impl
  screen : Screen
  /-- Lines moved since the last draw. -/
  linesMoved : Bool := false
  /-- The viewport was scrolled since the last draw. -/
  viewportMoved : Bool := false
  /-- The frames taken so far with the screens they were taken of, newest first. -/
  taken : List (Screen × PackedFrame) := []
  /-- The attributes libtsm last reported at a column and a row. -/
  reported : Nat → Nat → Option TsmScreenAttr := fun _ _ => none

namespace TerminalRun

/-- libtsm goes to another screen. -/
def shows (run : TerminalRun) (impl : Impl) (after : Screen) : TerminalRun :=
  { run with
    impl := impl
    screen := after
    linesMoved := run.linesMoved || decide (after.rowIds ≠ run.screen.rowIds) }

/-- libtsm goes to another screen by scrolling the viewport. -/
def scrolls (run : TerminalRun) (impl : Impl) (after : Screen) : TerminalRun :=
  { run.shows impl after with
    viewportMoved := run.viewportMoved || decide (after.sbLinePos ≠ run.screen.sbLinePos) }

end TerminalRun

/-- The attributes of the last call at a position, if there is one among `calls`. Positions that
were not drawn keep what was reported before. -/
def report (reported : Nat → Nat → Option TsmScreenAttr) (calls : List DrawCall)
    (column row : Nat) : Option TsmScreenAttr :=
  -- the last call at the position counts
  match calls.reverse.find? fun call => call.column == column && call.row == row with
  | some call => some call.cell.attr
  | none => reported column row

/-- A frame is taken. libtsm draws without changing its screen, and both marks of movement are
cleared, for its draw has reported what moved. -/
def TerminalRun.takes (tsmUcs4ToUtf8 : Nat → List UInt8) (run : TerminalRun) (draw : Draw) :
    TerminalRun where
  impl := afterTake tsmUcs4ToUtf8 run.impl run.screen draw
  screen := run.screen
  taken := (run.screen, takePackedFrame tsmUcs4ToUtf8 run.impl run.screen draw) :: run.taken
  reported := report run.reported draw.calls

/-- One call. -/
def TerminalRun.next (tsmUcs4ToUtf8 : Nat → List UInt8) (run : TerminalRun) : Op → TerminalRun
  | .feedOutput data after => run.shows (feedOutput run.impl run.screen data after) after
  | .scrollLines lines after =>
    run.scrolls (Core.scrollLines run.impl lines run.screen after) after
  | .scrollPageUp _ after => run.scrolls (scrollPageUp run.impl run.screen after) after
  | .scrollPageDown _ after => run.scrolls (scrollPageDown run.impl run.screen after) after
  | .resize after => run.shows (resize run.impl after) after
  | .input after => run.shows run.impl after
  | .takePackedFrame draw => run.takes tsmUcs4ToUtf8 draw

/-- A terminal that was just created. -/
def newRun (screen : Screen) : TerminalRun := { impl := newImpl screen, screen := screen }

/-- All runs of a terminal. A step is one call, and libtsm may go to any screen in it. -/
def terminalSystem (tsmUcs4ToUtf8 : Nat → List UInt8) : TransitionSystem TerminalRun Op where
  init run := ∃ screen, run = newRun screen
  step run op run' := run' = run.next tsmUcs4ToUtf8 op

/-- A sequence of calls. -/
def TerminalRun.calls (tsmUcs4ToUtf8 : Nat → List UInt8) (run : TerminalRun) (ops : List Op) :
    TerminalRun :=
  ops.foldl (TerminalRun.next tsmUcs4ToUtf8) run

/-- Every call of a sequence is allowed in the state it is made in. A closed run meets the condition
by evaluation. -/
def AllowedAlong (tsmUcs4ToUtf8 : Nat → List UInt8) (allowed : TerminalRun → Op → Prop) :
    TerminalRun → List Op → Prop
  | _, [] => True
  | run, op :: ops =>
    allowed run op ∧ AllowedAlong tsmUcs4ToUtf8 allowed (run.next tsmUcs4ToUtf8 op) ops

/-- Such a sequence ends in a reachable state. -/
theorem reachable_calls {tsmUcs4ToUtf8 : Nat → List UInt8} {allowed : TerminalRun → Op → Prop}
    {run : TerminalRun} (h : (terminalSystem tsmUcs4ToUtf8).Reachable allowed run) {ops : List Op}
    (hops : AllowedAlong tsmUcs4ToUtf8 allowed run ops) :
    (terminalSystem tsmUcs4ToUtf8).Reachable allowed (run.calls tsmUcs4ToUtf8 ops) := by
  induction ops generalizing run with
  | nil => exact h
  | cons op ops ih => exact ih (.step h hops.1 rfl) hops.2

/-! ## Steps that take no frame -/

/-- The members that only `TakePackedFrame` writes are the same. Most of a frame is decided by
them. -/
structure SameCache (impl impl' : Impl) : Prop where
  grid : impl'.packedGridCache = impl.packedGridCache
  valid : impl'.packedFrameValid = impl.packedFrameValid
  age : impl'.packedLastDrawAge = impl.packedLastDrawAge
  generation : impl'.packedGeneration = impl.packedGeneration
  columns : impl'.packedLastColumns = impl.packedLastColumns
  rows : impl'.packedLastRows = impl.packedLastRows
  cursorX : impl'.packedLastCursorX = impl.packedLastCursorX
  cursorY : impl'.packedLastCursorY = impl.packedLastCursorY
  cursorVisible : impl'.packedLastCursorVisible = impl.packedLastCursorVisible
  alternate : impl'.packedLastAlternateScreen = impl.packedLastAlternateScreen
  cursorStyle : impl'.packedLastCursorStyle = impl.packedLastCursorStyle

theorem SameCache.refl (impl : Impl) : SameCache impl impl :=
  ⟨rfl, rfl, rfl, rfl, rfl, rfl, rfl, rfl, rfl, rfl, rfl⟩

theorem SameCache.trans {a b c : Impl} (hab : SameCache a b) (hbc : SameCache b c) :
    SameCache a c where
  grid := hbc.grid.trans hab.grid
  valid := hbc.valid.trans hab.valid
  age := hbc.age.trans hab.age
  generation := hbc.generation.trans hab.generation
  columns := hbc.columns.trans hab.columns
  rows := hbc.rows.trans hab.rows
  cursorX := hbc.cursorX.trans hab.cursorX
  cursorY := hbc.cursorY.trans hab.cursorY
  cursorVisible := hbc.cursorVisible.trans hab.cursorVisible
  alternate := hbc.alternate.trans hab.alternate
  cursorStyle := hbc.cursorStyle.trans hab.cursorStyle

/-- A step without a frame: the history stays, and a pending viewport scroll means that the viewport
was moved. -/
structure QuietStep (run run' : TerminalRun) : Prop where
  cache : SameCache run.impl run'.impl
  taken : run'.taken = run.taken
  reported : run'.reported = run.reported
  linesMoved : run.linesMoved = true → run'.linesMoved = true
  viewportMoved : run.viewportMoved = true → run'.viewportMoved = true
  scrolled : run'.impl.pendingViewportScrollDelta ≠ 0 →
    run.impl.pendingViewportScrollDelta ≠ 0 ∨ run'.viewportMoved = true

/-- Output changes the observation and the cursor style only. -/
theorem sameCache_feedOutput (impl : Impl) (before : Screen) (data : List UInt8)
    (after : Screen) : SameCache impl (feedOutput impl before data after) := by
  rw [feedOutput]
  by_cases hdata : data = []
  · rw [if_pos hdata]
    exact .refl impl
  · rw [if_neg hdata]
    -- with or without the renewed observation, only observation, cursor and scroll members change
    by_cases hsize : impl.observedLines.length ≠ before.height
    · simp only [if_pos hsize]
      exact ⟨rfl, rfl, rfl, rfl, rfl, rfl, rfl, rfl, rfl, rfl, rfl⟩
    · simp only [if_neg hsize]
      exact ⟨rfl, rfl, rfl, rfl, rfl, rfl, rfl, rfl, rfl, rfl, rfl⟩

theorem feedOutput_pendingViewportScrollDelta (impl : Impl) (before : Screen)
    (data : List UInt8) (after : Screen) :
    (feedOutput impl before data after).pendingViewportScrollDelta =
      impl.pendingViewportScrollDelta := by
  rw [feedOutput]
  by_cases hdata : data = []
  · rw [if_pos hdata]
  · rw [if_neg hdata]
    by_cases hsize : impl.observedLines.length ≠ before.height
    · simp only [if_pos hsize]
      rfl
    · simp only [if_neg hsize]
      rfl

/-- A step that leaves the cache and the viewport alone. -/
theorem quietStep_shows (run : TerminalRun) {impl : Impl} (after : Screen)
    (hcache : SameCache run.impl impl)
    (hscroll : impl.pendingViewportScrollDelta ≠ 0 → run.impl.pendingViewportScrollDelta ≠ 0) :
    QuietStep run (run.shows impl after) where
  cache := hcache
  taken := rfl
  reported := rfl
  linesMoved := fun h => by simp [TerminalRun.shows, h]
  viewportMoved := id
  scrolled := fun h => Or.inl (hscroll h)

/-- A step that scrolls the viewport, or finds nothing to scroll. -/
theorem quietStep_scrolls (run : TerminalRun) {impl : Impl} (after : Screen)
    (himpl : impl = scrollViewport run.impl run.screen after ∨ impl = run.impl) :
    QuietStep run (run.scrolls impl after) where
  cache := by
    rcases himpl with rfl | rfl
    · exact ⟨rfl, rfl, rfl, rfl, rfl, rfl, rfl, rfl, rfl, rfl, rfl⟩
    · exact .refl _
  taken := rfl
  reported := rfl
  linesMoved := fun h => by simp [TerminalRun.scrolls, TerminalRun.shows, h]
  viewportMoved := fun h => by simp [TerminalRun.scrolls, h]
  scrolled := by
    intro h
    by_cases hpos : after.sbLinePos = run.screen.sbLinePos
    · left
      rcases himpl with rfl | rfl
      · -- the viewport stayed where it was, so nothing was added
        change run.impl.pendingViewportScrollDelta + _ ≠ 0 at h
        rwa [hpos, Int.sub_self, Int.add_zero] at h
      · exact h
    · right
      simp [TerminalRun.scrolls, hpos]

/-- A step takes a frame or is quiet. -/
theorem next_cases (tsmUcs4ToUtf8 : Nat → List UInt8) (run : TerminalRun) (op : Op) :
    (∃ draw, op = .takePackedFrame draw ∧
      run.next tsmUcs4ToUtf8 op = run.takes tsmUcs4ToUtf8 draw) ∨
    QuietStep run (run.next tsmUcs4ToUtf8 op) := by
  cases op with
  | feedOutput data after =>
    refine Or.inr (quietStep_shows run after (sameCache_feedOutput ..) fun h => ?_)
    rwa [feedOutput_pendingViewportScrollDelta] at h
  | scrollLines lines after =>
    refine Or.inr (quietStep_scrolls run after ?_)
    rw [scrollLines]
    split
    · exact Or.inr rfl
    · exact Or.inl rfl
  | scrollPageUp pages after => exact Or.inr (quietStep_scrolls run after (Or.inl rfl))
  | scrollPageDown pages after => exact Or.inr (quietStep_scrolls run after (Or.inl rfl))
  | resize after =>
    refine Or.inr (quietStep_shows run after ?_ fun h => absurd rfl h)
    exact ⟨rfl, rfl, rfl, rfl, rfl, rfl, rfl, rfl, rfl, rfl, rfl⟩
  | input after => exact Or.inr (quietStep_shows run after (.refl _) id)
  | takePackedFrame draw => exact Or.inl ⟨draw, rfl, rfl⟩

/-- A pending viewport scroll means that the viewport was moved since the last draw. -/
theorem viewportMoved_of_pending {tsmUcs4ToUtf8 : Nat → List UInt8}
    {allowed : TerminalRun → Op → Prop} {run : TerminalRun}
    (h : (terminalSystem tsmUcs4ToUtf8).Reachable allowed run) :
    run.impl.pendingViewportScrollDelta ≠ 0 → run.viewportMoved = true := by
  refine h.invariant
    (I := fun run => run.impl.pendingViewportScrollDelta ≠ 0 → run.viewportMoved = true) ?_ ?_
  · rintro _ ⟨screen, rfl⟩ hne
    exact absurd rfl hne
  · intro run op run' _ hrun _ hstep hne
    rw [hstep] at hne ⊢
    -- taking a frame clears the pending scroll, and a quiet step adds to it only by moving
    rcases next_cases tsmUcs4ToUtf8 run op with ⟨draw, rfl, -⟩ | hquiet
    · exact absurd rfl hne
    · rcases hquiet.scrolled hne with hpending | hmoved
      · exact hquiet.viewportMoved (hrun hpending)
      · exact hmoved

/-! ## The contract of libtsm -/

/-- A cell is reported with an age newer than `since`. A cell that is reported with an older age is
no change for the core. -/
def Reported (draw : Draw) (since column row : Nat) : Prop :=
  ∃ call ∈ draw.calls, call.column = column ∧ call.row = row ∧ call.age > since

instance (draw : Draw) (since column row : Nat) : Decidable (Reported draw since column row) :=
  inferInstanceAs (Decidable (∃ call ∈ draw.calls, _))

/-- Every cell of the viewport is reported with an age newer than `since`. -/
def ReportsAll (screen : Screen) (draw : Draw) (since : Nat) : Prop :=
  ∀ column < screen.width, ∀ row < screen.height, Reported draw since column row

instance (screen : Screen) (draw : Draw) (since : Nat) :
    Decidable (ReportsAll screen draw since) :=
  inferInstanceAs (Decidable (∀ column < screen.width, ∀ row < screen.height, _))

/-- The texts of the calls fit into the callback's buffer. -/
def CallsFit (tsmUcs4ToUtf8 : Nat → List UInt8) (draw : Draw) : Prop :=
  ∀ call ∈ draw.calls, (cellBytes tsmUcs4ToUtf8 call.cell).length ≤ 128

instance (tsmUcs4ToUtf8 : Nat → List UInt8) (draw : Draw) :
    Decidable (CallsFit tsmUcs4ToUtf8 draw) :=
  inferInstanceAs (Decidable (∀ call ∈ draw.calls, _))

/-- What libtsm promises of a draw: at most one call for a cell, with what the screen shows there
and a text that fits; an age that is not 0; and a report of every cell that differs from the last
screen drawn, or of all cells if the draw is complete or if lines or the viewport moved. This is
what `tsm_screen_draw_since` documents. The core does not check any of it, and none of it follows
from the steps, in which libtsm may do anything. -/
structure DrawContract (tsmUcs4ToUtf8 : Nat → List UInt8) (run : TerminalRun) (draw : Draw) :
    Prop where
  once : (draw.calls.map fun call => (call.column, call.row)).Nodup
  current : ∀ call ∈ draw.calls, call.column < run.screen.width → call.row < run.screen.height →
    call.cell = run.screen.cell call.column call.row
  fit : CallsFit tsmUcs4ToUtf8 draw
  age : draw.age ≠ 0
  all : drawSince run.impl run.screen = 0 ∨ run.linesMoved = true ∨ run.viewportMoved = true →
    ReportsAll run.screen draw (drawSince run.impl run.screen)
  changed : ∀ last ∈ run.taken.head?, ∀ column < run.screen.width, ∀ row < run.screen.height,
    run.screen.cell column row ≠ last.1.cell column row →
    Reported draw (drawSince run.impl run.screen) column row

/-! ## Screens for concrete runs -/

/-- Two lines of one column, out of lines that show `A`, `B`, `C` and so on and have the ids 0, 1,
2: the viewport begins at line `first`, and `history` lines can be scrolled back to. -/
def linesScreen (first history : Nat) : Screen where
  width := 1
  height := 2
  widthPos := Nat.one_pos
  widthLt := one_lt_unsigned
  heightPos := Nat.two_pos
  cell := fun _ row => { codepoints := [65 + first + row] }
  rowId := fun row => first + row
  sbLinePos := first
  sbLineCount := history

/-- A report of both cells of `linesScreen first`. -/
def linesDraw (first age : Nat) : Draw where
  calls := [⟨{ codepoints := [65 + first] }, 0, 0, age⟩,
    ⟨{ codepoints := [65 + first + 1] }, 0, 1, age⟩]
  age := age

end SakuraTerminal.Core
