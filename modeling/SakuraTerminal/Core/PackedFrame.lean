import SakuraTerminal.Core.PackedGrid

/-!
# Frames and the views on them

`PackedFrame` and the accessors of the C interface in `src/terminal_core.cpp`: one cell
(`sakura_terminal_frame_cell`), one run (`sakura_terminal_frame_row_run`) and the bounded spans of a
row (`sakura_terminal_frame_for_each_row_span`). An accessor that returns 0 is `none`; the span
visitor returns what it delivered together with its result. Borrowed text is the list of its bytes.

A frame refers to a grid that the core does not change any more, so all its views are functions of
the frame. They check what they read: an index outside of a list, a style that the table does not
have and a text outside of the row's string make a view fail instead of reading beyond the end.
`RowLayout` says of which rows no check ever fails.

`frameForEachRowSpan` cuts runs into spans of a bounded number of cells. A bound of 1 is raised to
2, so that a wide glyph fits into a span, and a span is one cell shorter if it would part a wide
glyph from its continuation.
-/

set_option autoImplicit false

namespace SakuraTerminal.Core

open SakuraTerminal.Foundations

/-- `SakuraTerminalDirtyRegion`. It is half-open on both axes, and empty where no column or no row
is between its bounds. -/
structure DirtyRegion where
  left : Nat := 0
  top : Nat := 0
  right : Nat := 0
  bottom : Nat := 0
  deriving DecidableEq, Repr

/-- `SakuraTerminalDirtySpan`. Cells of one row, the right bound not among them. -/
structure DirtySpan where
  row : Nat := 0
  left : Nat := 0
  right : Nat := 0
  deriving DecidableEq, Repr

/-- `SakuraTerminalCursorStyle`. -/
inductive CursorStyle where
  | block
  | underline
  | bar
  deriving DecidableEq, Repr

/-- `SakuraTerminalScrollKind`. -/
inductive ScrollKind where
  | none
  | content
  | viewport
  | mixed
  deriving DecidableEq, Repr

/-- `PackedFrame`: what changed since the last frame, the cursor, and the grid. `scrollDelta` and
the dirty region and spans are what a frontend needs to bring its picture of the last frame up to
date. -/
structure PackedFrame where
  generation : Nat := 0
  changed : Bool := false
  fullRepaint : Bool := false
  scrollDelta : Int := 0
  scrollKind : ScrollKind := .none
  dirty : DirtyRegion := {}
  dirtySpans : List DirtySpan := []
  columns : Nat := 0
  rows : Nat := 0
  cursorX : Nat := 0
  cursorY : Nat := 0
  cursorVisible : Bool := false
  cursorStyle : CursorStyle := .block
  alternateScreen : Bool := false
  grid : PackedGrid := {}
  deriving DecidableEq, Repr

/-- `SakuraTerminalCellView`. The text is UTF-8, and empty for a continuation cell. -/
structure CellView where
  codepoint : Nat
  text : List UInt8
  width : Nat
  foreground : Rgb
  background : Rgb
  attributes : UInt8
  deriving DecidableEq, Repr

/-- `SakuraTerminalRunView`. It has the text of all its cells in one piece. -/
structure RunView where
  row : Nat
  left : Nat
  cellCount : Nat
  styleId : Nat
  text : List UInt8
  foreground : Rgb
  background : Rgb
  attributes : UInt8
  deriving DecidableEq, Repr

/-! ## Cells -/

/-- The view of one cell of a row, under the checks of `sakura_terminal_frame_cell`. -/
def cellView (styles : List PackedStyle) (row : PackedRow) (cell : PackedCell) : Option CellView :=
  match styles[cell.styleIndex]? with
  | none => none
  | some style =>
    if textInBounds row.text cell.textOffset cell.textLength then
      some
        { codepoint := cell.codepoint
          text := slice row.text cell.textOffset cell.textLength
          width := cell.width.toNat
          foreground := style.foreground
          background := style.background
          attributes := style.attributes }
    else none

/-- `sakura_terminal_frame_cell`. -/
def frameCell (frame : PackedFrame) (column row : Nat) : Option CellView :=
  if column < frame.columns ∧ row < frame.rows then
    match frame.grid.rowData[row]? with
    | none => none
    | some source =>
      match source.cells[column]? with
      | none => none
      | some cell => cellView frame.grid.styles source cell
  else none

/-! ## Runs -/

/-- The id of a style: its attributes and colours, a byte for each, so that styles with one id are
the same. -/
def packedStyleId (style : PackedStyle) : Nat :=
  style.attributes.toNat + style.foreground.red.toNat * 2 ^ 8 +
    style.foreground.green.toNat * 2 ^ 16 + style.foreground.blue.toNat * 2 ^ 24 +
    style.background.red.toNat * 2 ^ 32 + style.background.green.toNat * 2 ^ 40 +
    style.background.blue.toNat * 2 ^ 48

/-- The view of a run or of a span of one, unless its style or its text is out of bounds. -/
def fillPackedRunView (grid : PackedGrid) (row : PackedRow) (rowIndex : Nat) (source : PackedRun) :
    Option RunView :=
  match grid.styles[source.styleIndex]? with
  | none => none
  | some style =>
    if textInBounds row.text source.textOffset source.textLength then
      some
        { row := rowIndex
          left := source.left
          cellCount := source.cellCount
          styleId := packedStyleId style
          text := slice row.text source.textOffset source.textLength
          foreground := style.foreground
          background := style.background
          attributes := style.attributes }
    else none

/-- The row a view of the frame reads, if there is one. -/
def frameRow (frame : PackedFrame) (row : Nat) : Option PackedRow :=
  if row < frame.rows then frame.grid.rowData[row]? else none

/-- `sakura_terminal_frame_row_run_count`. -/
def frameRowRunCount (frame : PackedFrame) (row : Nat) : Nat :=
  match frameRow frame row with
  | none => 0
  | some source => source.runs.length

/-- `sakura_terminal_frame_row_run`. -/
def frameRowRun (frame : PackedFrame) (row index : Nat) : Option RunView :=
  match frameRow frame row with
  | none => none
  | some source =>
    match source.runs[index]? with
    | none => none
    | some run => fillPackedRunView frame.grid source row run

/-! ## Bounded spans -/

/-- The number of cells in the span at `cellOffset`: `maxCells`, or what is left of the run, less
one cell if the span would end on a wide glyph inside the run. -/
def spanCellCount (row : PackedRow) (source : PackedRun) (maxCells cellOffset : Nat) : Nat :=
  let cellCount := min maxCells (source.cellCount - cellOffset)
  if cellCount < source.cellCount - cellOffset ∧ cellCount > 1 ∧
      ((row.cells[source.left + cellOffset + cellCount - 1]?).getD {}).width > 1 then
    cellCount - 1
  else cellCount

/-- A span takes at least one cell, so the loop ends. -/
theorem spanCellCount_pos (row : PackedRow) (source : PackedRun) {maxCells cellOffset : Nat}
    (hmax : 0 < maxCells) (hoff : cellOffset < source.cellCount) :
    0 < spanCellCount row source maxCells cellOffset := by
  unfold spanCellCount
  dsimp only
  split <;> omega

/-- The span of `cellCount` cells at `firstColumn`, unless a text check of the source fails. -/
def packedSpan (row : PackedRow) (source : PackedRun) (firstColumn cellCount : Nat) :
    Option PackedRun :=
  match row.cells[firstColumn]?, row.cells[firstColumn + cellCount - 1]? with
  | some firstCell, some lastCell =>
    if textInBounds row.text firstCell.textOffset firstCell.textLength ∧
        textInBounds row.text lastCell.textOffset lastCell.textLength ∧
        firstCell.textOffset ≤ u32 (lastCell.textOffset + lastCell.textLength) then
      some
        { left := firstColumn
          cellCount := cellCount
          styleIndex := source.styleIndex
          textOffset := firstCell.textOffset
          textLength := u32 (lastCell.textOffset + lastCell.textLength) - firstCell.textOffset }
    else none
  | _, _ => none

/-- The loop of `ForEachPackedRunSpan`. The callback turns a span into what it delivers and returns
`none` to stop; the result holds what was delivered and whether the loop ran to its end. Every turn
takes at least one cell, which is the termination argument. -/
def packedRunSpansFrom {β : Type} (row : PackedRow) (source : PackedRun) (maxCells : Nat)
    (callback : PackedRun → Option β) (cellOffset : Nat) : List β × Bool :=
  if _hoff : cellOffset < source.cellCount then
    if _hmax : maxCells = 0 then ([], false)
    else
      let cellCount := spanCellCount row source maxCells cellOffset
      match (packedSpan row source (source.left + cellOffset) cellCount).bind callback with
      | none => ([], false)
      | some delivered =>
        let (rest, complete) :=
          packedRunSpansFrom row source maxCells callback (cellOffset + cellCount)
        (delivered :: rest, complete)
  else ([], true)
termination_by source.cellCount - cellOffset
decreasing_by
  have := spanCellCount_pos row source (Nat.pos_of_ne_zero _hmax) _hoff
  omega

/-- `ForEachPackedRunSpan`, with the checks on the bound and on the cells of the run that come
before its loop. -/
def forEachPackedRunSpan {β : Type} (row : PackedRow) (source : PackedRun) (maxCells : Nat)
    (callback : PackedRun → Option β) : List β × Bool :=
  if maxCells = 0 ∨ source.cellCount = 0 ∨ source.left ≥ row.cells.length ∨
      source.cellCount > row.cells.length - source.left then ([], false)
  else packedRunSpansFrom row source (max 2 maxCells) callback 0

/-- The loop of `sakura_terminal_frame_for_each_row_span` over the runs of a row. -/
def rowSpans (grid : PackedGrid) (row : PackedRow) (rowIndex maxCells : Nat) :
    List PackedRun → List RunView × Bool
  | [] => ([], true)
  | run :: runs =>
    let (delivered, complete) :=
      forEachPackedRunSpan row run maxCells (fillPackedRunView grid row rowIndex)
    if complete then
      let (rest, restComplete) := rowSpans grid row rowIndex maxCells runs
      (delivered ++ rest, restComplete)
    else (delivered, false)

/-- `sakura_terminal_frame_for_each_row_span`: the delivered spans and the returned flag. -/
def frameForEachRowSpan (frame : PackedFrame) (row maxCells : Nat) : List RunView × Bool :=
  if maxCells = 0 then ([], false)
  else
    match frameRow frame row with
    | none => ([], false)
    | some source => rowSpans frame.grid source row maxCells source.runs

end SakuraTerminal.Core
