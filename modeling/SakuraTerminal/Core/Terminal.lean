import SakuraTerminal.Core.DrawPackedCell

/-!
# The terminal core

`TerminalBackend::Impl` of `src/terminal_core.cpp`: what it remembers between two frames, how
output and scrolling change that, and `takePackedFrame`. libtsm is not part of the repository; what
it displays is a `Screen`, and a draw is the list of the callback's calls with the age it returns.
The other metrics, titles, the palette, the write callback and the owner thread play no part in a
frame and are left out.

The order of the definitions is that of the source: the state machine for cursor styles, the screen
as libtsm shows it, the observation of scrolling in `FeedOutput`, and then `TakePackedFrame`, cut at
its natural joints. `drawContext` is what is decided before libtsm draws, `takenContext` has the
cells of both cursors and the exposed rows included after the draw, `finishRegion` turns the region
into that of the frame, and `afterTake` is what the members remember until the next one.

A frame depends on two scroll distances that add up between frames. That of the content counts lines
that output moved, found by comparing the ids of the lines, and that of the viewport counts lines
the user scrolled by. Only the first can be answered by moving rows of the cache, and only if the
second is 0 and the viewport is at the end of the scrollback (`reuseScrolledRows`).
-/

set_option autoImplicit false

namespace SakuraTerminal.Core

/-! ## The cursor style -/

/-- Where in an escape sequence `TrackCursorStyle` is, as `Impl` keeps it between two chunks of
output. -/
inductive CursorSequenceState where
  | ground
  | escape
  | csi
  | csiIntermediate
  deriving DecidableEq, Repr

/-- The members of `Impl` that `TrackCursorStyle` reads and writes. -/
structure CursorTracking where
  cursorSequenceState : CursorSequenceState := .ground
  cursorSequenceParameters : List UInt8 := []
  cursorStyle : CursorStyle := .block
  /-- `metrics_.cursor_style_changes`. -/
  cursorStyleChanges : Nat := 0
  deriving DecidableEq, Repr

def isDigit (ch : UInt8) : Bool := decide (48 ≤ ch) && decide (ch ≤ 57)

/-- `strtoul` in base 10 on at most 16 digits and semicolons, where it neither skips nor saturates,
and the conversion to `unsigned int`. The parameters are at most 16 characters, so the value before
the conversion is exact. -/
def strtoul (parameters : List UInt8) : Nat :=
  u32 ((parameters.takeWhile isDigit).foldl (fun value ch => value * 10 + (ch.toNat - 48)) 0)

/-- The `switch` on the parameter of `CSI Ps SP q`. Values from 7 on leave the style as it is. -/
def cursorStyleFor (value : Nat) (cursorStyle : CursorStyle) : CursorStyle :=
  -- 0, 1 and 2 are the block
  if value ≤ 2 then .block
  else if value ≤ 4 then .underline
  else if value ≤ 6 then .bar
  else cursorStyle

/-- One turn of the loop of `TrackCursorStyle`. A digit or a semicolon past the sixteenth is
dropped, and any other byte ends the sequence; an escape that ends one begins the next. -/
def trackCursorByte (cursor : CursorTracking) (ch : UInt8) : CursorTracking :=
  let escapeOrGround : CursorSequenceState := if ch = 0x1b then .escape else .ground
  match cursor.cursorSequenceState with
  | .ground => if ch = 0x1b then { cursor with cursorSequenceState := .escape } else cursor
  | .escape =>
    if ch = 91 then -- '['
      { cursor with cursorSequenceState := .csi, cursorSequenceParameters := [] }
    else if ch ≠ 0x1b then { cursor with cursorSequenceState := .ground }
    else cursor
  | .csi =>
    if isDigit ch || ch == 59 then -- ';'
      if cursor.cursorSequenceParameters.length < 16 then
        { cursor with cursorSequenceParameters := cursor.cursorSequenceParameters ++ [ch] }
      else cursor
    else if ch = 32 then { cursor with cursorSequenceState := .csiIntermediate }
    else { cursor with cursorSequenceState := escapeOrGround }
  | .csiIntermediate =>
    if ch = 113 then -- 'q'
      let style := cursorStyleFor (strtoul cursor.cursorSequenceParameters) cursor.cursorStyle
      let cursor :=
        if style ≠ cursor.cursorStyle then
          { cursor with
            cursorStyle := style
            cursorStyleChanges := cursor.cursorStyleChanges + 1 }
        else cursor
      { cursor with cursorSequenceState := .ground }
    else { cursor with cursorSequenceState := escapeOrGround }

/-- `TrackCursorStyle`. The state goes from chunk to chunk, so the chunks do not matter. -/
def trackCursorStyle (cursor : CursorTracking) (data : List UInt8) : CursorTracking :=
  data.foldl trackCursorByte cursor

/-! ## libtsm's screen -/

/-- What libtsm displays and answers at one moment. The width is an `unsigned int`, and
`tsm_screen_resize` refuses empty screens. -/
structure Screen where
  width : Nat
  height : Nat
  widthPos : 0 < width
  widthLt : width < 4294967296
  heightPos : 0 < height
  /-- The cell at a column and a row of the viewport. -/
  cell : Nat → Nat → TsmCell
  rowId : Nat → Nat
  cursorX : Nat := 0
  cursorY : Nat := 0
  /-- `TSM_SCREEN_ALTERNATE`. -/
  alternate : Bool := false
  /-- `TSM_VTE_FLAG_TEXT_CURSOR_MODE`. -/
  textCursorMode : Bool := false
  sbLinePos : Nat := 0
  sbLineCount : Nat := 0

/-- Small widths are `unsigned int`s. -/
theorem one_lt_unsigned : 1 < 4294967296 := by decide

/-- The width of most screens in examples. -/
theorem two_lt_unsigned : 2 < 4294967296 := by decide

/-- The ids of the lines in the viewport, from the top. -/
def Screen.rowIds (screen : Screen) : List Nat := (List.range screen.height).map screen.rowId

/-- One `tsm_screen_draw_since`: the calls of the callback and the age it returns. An age of 0 says
that libtsm could not tell what changed. -/
structure Draw where
  calls : List DrawCall
  age : Nat

/-! ## The state -/

/-- `TerminalBackend::Impl`. The cache holds no grid before the first frame. The members with
`packed` in their names are written by `TakePackedFrame` only, and describe the last frame. -/
structure Impl where
  cursor : CursorTracking := {}
  observedLines : List Nat := []
  observedAlternateScreen : Bool := false
  pendingContentScrollDelta : Int := 0
  pendingViewportScrollDelta : Int := 0
  packedGridCache : Option PackedGrid := none
  packedFrameValid : Bool := false
  packedLastDrawAge : Nat := 0
  packedGeneration : Nat := 0
  packedLastColumns : Nat := 0
  packedLastRows : Nat := 0
  packedLastCursorX : Nat := 0
  packedLastCursorY : Nat := 0
  packedLastCursorVisible : Bool := false
  packedLastAlternateScreen : Bool := false
  packedLastCursorStyle : CursorStyle := .block
  deriving DecidableEq, Repr

/-- `ResetScreenObservation`: the core remembers the lines that are on the screen now. -/
def resetScreenObservation (impl : Impl) (screen : Screen) : Impl :=
  { impl with
    observedLines := screen.rowIds
    observedAlternateScreen := screen.alternate }

/-- The state a constructor leaves. -/
def newImpl (screen : Screen) : Impl := resetScreenObservation {} screen

/-! ## Output -/

/-- `moved_up` of `DetectFullScreenShift`: every line is `delta` rows higher than before. Rows
without a counterpart are not compared. -/
def movedUp (previousLines : List Nat) (screen : Screen) (delta : Nat) : Bool :=
  (List.range (screen.height - delta)).all fun row =>
    previousLines[row + delta]? == some (screen.rowId row)

/-- `moved_down` of `DetectFullScreenShift`. -/
def movedDown (previousLines : List Nat) (screen : Screen) (delta : Nat) : Bool :=
  (List.range (screen.height - delta)).all fun row =>
    previousLines[row]? == some (screen.rowId (row + delta))

/-- `DetectFullScreenShift`: the least distance at which all rows that both screens have are the
same, with the sign of the direction, as an `int`. Up is tried before down. -/
def detectFullScreenShift (previousLines : List Nat) (screen : Screen) : Int :=
  if previousLines.length ≠ screen.height ∨ screen.height < 2 then 0
  else
    -- the row loop also ends once both are false, and then neither becomes true again
    let found := (List.range' 1 (screen.height - 1)).find? fun delta =>
      movedUp previousLines screen delta || movedDown previousLines screen delta
    match found with
    | none => 0
    | some delta => if movedUp previousLines screen delta then i32 delta else -i32 delta

/-- The scroll that `ObserveScreenScroll` adds to the pending one. A change of screens, or a
viewport that is not at the end of the scrollback, is no scroll of the content. -/
def observedDelta (previousLines : List Nat) (previousAlternate : Bool) (screen : Screen) : Int :=
  if previousAlternate = screen.alternate ∧ ¬ screen.sbLinePos < screen.sbLineCount then
    detectFullScreenShift previousLines screen
  else 0

/-- `ObserveScreenScroll`: the shift is added to the pending one, and the lines are remembered. -/
def observeScreenScroll (impl : Impl) (previousLines : List Nat) (previousAlternate : Bool)
    (screen : Screen) : Impl :=
  resetScreenObservation
    { impl with
      pendingContentScrollDelta := impl.pendingContentScrollDelta +
        observedDelta previousLines previousAlternate screen }
    screen

/-- `FeedOutput`; libtsm takes the screen from `before` to `after`. -/
def feedOutput (impl : Impl) (before : Screen) (data : List UInt8) (after : Screen) : Impl :=
  if data = [] then impl
  else
    -- the observation is renewed if the screen was resized behind the core's back
    let impl := if impl.observedLines.length ≠ before.height then
      resetScreenObservation impl before else impl
    let previousLines := impl.observedLines
    let previousAlternate := impl.observedAlternateScreen
    let impl := { impl with cursor := trackCursorStyle impl.cursor data }
    observeScreenScroll impl previousLines previousAlternate after

/-- The cursor style is tracked in all output, whatever is observed of the screen. -/
theorem feedOutput_cursor (impl : Impl) (before : Screen) (data : List UInt8) (after : Screen) :
    (feedOutput impl before data after).cursor = trackCursorStyle impl.cursor data := by
  unfold feedOutput
  split
  case isTrue hempty =>
    rw [hempty]
    rfl
  case isFalse =>
    dsimp only [observeScreenScroll, resetScreenObservation]
    split <;> rfl

/-! ## Scrolling and resizing -/

/-- What the three scroll functions do: libtsm moves the viewport, and the distance it went is added
to the pending one. -/
def scrollViewport (impl : Impl) (before after : Screen) : Impl :=
  { impl with
    pendingViewportScrollDelta :=
      impl.pendingViewportScrollDelta + ((after.sbLinePos : Int) - before.sbLinePos) }

/-- `ScrollPageUp`. -/
def scrollPageUp (impl : Impl) (before after : Screen) : Impl := scrollViewport impl before after

/-- `ScrollPageDown`. -/
def scrollPageDown (impl : Impl) (before after : Screen) : Impl := scrollViewport impl before after

/-- `ScrollLines`, which returns at once for 0 lines. -/
def scrollLines (impl : Impl) (lines : Int) (before after : Screen) : Impl :=
  if lines = 0 then impl else scrollViewport impl before after

/-- `Resize` after `tsm_screen_resize` succeeded. Distances that were pending are of a screen that
is gone, so they are dropped. -/
def resize (impl : Impl) (after : Screen) : Impl :=
  { resetScreenObservation impl after with
    pendingContentScrollDelta := 0
    pendingViewportScrollDelta := 0 }

/-! ## Taking a frame -/

/-- `scroll_delta` of a frame: the distance of the content, or where that is 0 the distance of the
viewport. -/
def frameScrollDelta (impl : Impl) : Int :=
  if impl.pendingContentScrollDelta ≠ 0 then impl.pendingContentScrollDelta
  else impl.pendingViewportScrollDelta

/-- `scroll_kind` of a frame. Where both distances are pending it is mixed, and the distance is that
of the content. -/
def frameScrollKind (impl : Impl) : ScrollKind :=
  if impl.pendingContentScrollDelta ≠ 0 ∧ impl.pendingViewportScrollDelta ≠ 0 then .mixed
  else if impl.pendingContentScrollDelta ≠ 0 then .content
  else if impl.pendingViewportScrollDelta ≠ 0 then .viewport
  else .none

/-- `full_repaint` as the metadata alone decide it. There is no frame yet, or it had another size,
or it was of the other screen. -/
def initialFullRepaint (impl : Impl) (screen : Screen) : Bool :=
  !impl.packedFrameValid ||
    (decide (screen.width ≠ impl.packedLastColumns) ||
      decide (screen.height ≠ impl.packedLastRows) ||
      decide (screen.alternate ≠ impl.packedLastAlternateScreen))

/-- `reuse_scrolled_rows`: the frame is made by moving the rows of the cache and repainting what
changed, which needs a scroll of the content alone that leaves some row on the screen. -/
def reuseScrolledRows (impl : Impl) (screen : Screen) : Bool :=
  !initialFullRepaint impl screen &&
    decide (impl.pendingContentScrollDelta ≠ 0) && decide (impl.pendingViewportScrollDelta = 0) &&
    -- the viewport is at the end of the scrollback
    decide (screen.sbLinePos ≥ screen.sbLineCount) &&
    decide ((impl.pendingContentScrollDelta.natAbs : Int) < i32 screen.height)

/-- `full_repaint` when libtsm draws. A scroll of the content that cannot be answered by moving rows
makes it a full repaint. -/
def drawFullRepaint (impl : Impl) (screen : Screen) : Bool :=
  initialFullRepaint impl screen ||
    (decide (impl.pendingContentScrollDelta ≠ 0) && !reuseScrolledRows impl screen)

/-- The age libtsm is asked to draw since. -/
def drawSince (impl : Impl) (screen : Screen) : Nat :=
  if drawFullRepaint impl screen then 0 else impl.packedLastDrawAge

/-- The cached grid in the screen's size, rotated when scrolled rows are reused. -/
def drawGrid (impl : Impl) (screen : Screen) : PackedGrid :=
  let grid := ensurePackedGrid (impl.packedGridCache.getD {}) screen.width screen.height
  if reuseScrolledRows impl screen then rotatePackedRows grid impl.pendingContentScrollDelta
  else grid

/-- `cursor_changed`: the cursor moved, or was hidden or shown, or has another style. Before the
first frame there is no old cursor. -/
def cursorChanged (impl : Impl) (screen : Screen) : Bool :=
  impl.packedFrameValid &&
    (decide (screen.cursorX ≠ impl.packedLastCursorX) ||
      decide (screen.cursorY ≠ impl.packedLastCursorY) ||
      decide (screen.textCursorMode ≠ impl.packedLastCursorVisible) ||
      decide (impl.cursor.cursorStyle ≠ impl.packedLastCursorStyle))

/-- The context that libtsm draws into. -/
def drawContext (impl : Impl) (screen : Screen) : PackedDrawContext where
  grid := drawGrid impl screen
  previousAge := impl.packedLastDrawAge
  fullRepaint := drawFullRepaint impl screen
  cursorChanged := cursorChanged impl screen
  previousCursorX := impl.packedLastCursorX
  previousCursorY := impl.packedLastCursorY
  cursorX := screen.cursorX
  cursorY := screen.cursorY
  reuseScrolledRows := reuseScrolledRows impl screen

/-- The old and the new cursor cell are repainted when the cursor changed. -/
def includeCursor (impl : Impl) (screen : Screen) (context : PackedDrawContext) :
    PackedDrawContext :=
  if context.cursorChanged then
    { context with
      dirty := includeCell
        (includeCell context.dirty impl.packedLastCursorX impl.packedLastCursorY screen.width
          screen.height)
        screen.cursorX screen.cursorY screen.width screen.height
      dirtySpans := includeCellSpan
        (includeCellSpan context.dirtySpans impl.packedLastCursorX impl.packedLastCursorY 1
          screen.width screen.height)
        screen.cursorX screen.cursorY 1 screen.width screen.height }
  else context

/-- The first row and the row after the last one that scrolling by `delta` exposes. -/
def exposedRows (delta : Int) (rows : Nat) : Nat × Nat :=
  if delta > 0 then (rows - delta.natAbs, rows) else (0, delta.natAbs)

/-- The rows that reused scrolling exposes are repainted. -/
def includeExposedRows (impl : Impl) (screen : Screen) (context : PackedDrawContext) :
    PackedDrawContext :=
  if context.reuseScrolledRows then
    let (top, bottom) := exposedRows impl.pendingContentScrollDelta screen.height
    { context with
      dirty := includeRowsDirty context.dirty top bottom screen.width screen.height
      dirtySpans := includeRowsSpans context.dirtySpans top bottom screen.width screen.height }
  else context

/-- `full_repaint`, the rectangle and the spans of a frame. -/
structure FrameRegion where
  fullRepaint : Bool
  dirty : DirtyRegion
  dirtySpans : List DirtySpan
  deriving DecidableEq, Repr

/-- The rectangle of all cells. -/
def wholeGrid (columns rows : Nat) : DirtyRegion := ⟨0, 0, columns, rows⟩

/-- The rules that turn the region collected by a draw into the region of the frame. -/
def finishRegion (columns rows : Nat) (context : PackedDrawContext) (age : Nat) : FrameRegion :=
  let fullRepaint := context.fullRepaint || age == 0
  let dirty := if age = 0 then wholeGrid columns rows else context.dirty
  let dirty := if fullRepaint && dirtyEmpty dirty then wholeGrid columns rows else dirty
  -- a rectangle around everything is a full repaint, whatever made it that large
  let fullRepaint := fullRepaint || (!dirtyEmpty dirty && dirty == wholeGrid columns rows)
  { fullRepaint := fullRepaint
    dirty := dirty
    dirtySpans := if fullRepaint then fullSpans columns rows else context.dirtySpans }

section take

variable (tsmUcs4ToUtf8 : Nat → List UInt8) (impl : Impl) (screen : Screen) (draw : Draw)

/-- The context when libtsm has drawn and the cursor and the exposed rows are included. -/
def takenContext : PackedDrawContext :=
  includeExposedRows impl screen
    (includeCursor impl screen (drawPass tsmUcs4ToUtf8 (drawContext impl screen) draw.calls))

/-- The region of the frame. -/
def takenRegion : FrameRegion :=
  finishRegion screen.width screen.height (takenContext tsmUcs4ToUtf8 impl screen draw) draw.age

/-- The grid of the frame: the cache, with the cells that the draw recorded. -/
def takenGrid : PackedGrid :=
  let context := takenContext tsmUcs4ToUtf8 impl screen draw
  rebuildPackedRows context.grid context.changedCells context.changedText

/-- `changed` of the frame. -/
def takenChanged : Bool :=
  let region := takenRegion tsmUcs4ToUtf8 impl screen draw
  region.fullRepaint || !dirtyEmpty region.dirty

/-- The frame `TakePackedFrame` returns. The generation counts frames that changed something. -/
def takePackedFrame : PackedFrame :=
  let region := takenRegion tsmUcs4ToUtf8 impl screen draw
  let changed := takenChanged tsmUcs4ToUtf8 impl screen draw
  { generation := if changed then impl.packedGeneration + 1 else impl.packedGeneration
    changed := changed
    fullRepaint := region.fullRepaint
    scrollDelta := frameScrollDelta impl
    scrollKind := frameScrollKind impl
    dirty := region.dirty
    dirtySpans := region.dirtySpans
    columns := screen.width
    rows := screen.height
    cursorX := screen.cursorX
    cursorY := screen.cursorY
    cursorVisible := screen.textCursorMode
    cursorStyle := impl.cursor.cursorStyle
    alternateScreen := screen.alternate
    grid := takenGrid tsmUcs4ToUtf8 impl screen draw }

/-- What `TakePackedFrame` leaves in the members. A draw of age 0 makes the cache invalid, so that
the next draw is a full one. -/
def afterTake : Impl :=
  let frame := takePackedFrame tsmUcs4ToUtf8 impl screen draw
  { impl with
    pendingContentScrollDelta := 0
    pendingViewportScrollDelta := 0
    packedGridCache := some frame.grid
    packedFrameValid := draw.age != 0
    packedLastDrawAge := draw.age
    packedGeneration := frame.generation
    packedLastColumns := frame.columns
    packedLastRows := frame.rows
    packedLastAlternateScreen := frame.alternateScreen
    packedLastCursorX := frame.cursorX
    packedLastCursorY := frame.cursorY
    packedLastCursorVisible := frame.cursorVisible
    packedLastCursorStyle := frame.cursorStyle }

/-- Including the cursor and the exposed rows touches neither the grid nor the changes. -/
theorem takenGrid_eq :
    takenGrid tsmUcs4ToUtf8 impl screen draw =
      rebuildPackedRows (drawPass tsmUcs4ToUtf8 (drawContext impl screen) draw.calls).grid
        (drawPass tsmUcs4ToUtf8 (drawContext impl screen) draw.calls).changedCells
        (drawPass tsmUcs4ToUtf8 (drawContext impl screen) draw.calls).changedText := by
  rw [takenGrid, takenContext, includeExposedRows, includeCursor]
  dsimp only
  split <;> split <;> rfl

end take

end SakuraTerminal.Core
