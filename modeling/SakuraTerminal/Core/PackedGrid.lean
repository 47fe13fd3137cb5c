import SakuraTerminal.Foundations.PackedText
import SakuraTerminal.Foundations.Grouping
import Mathlib.Data.List.Sort

/-!
# Packed grids

The cell cache of the terminal core (`src/terminal_core.cpp`): cells, rows, grids and the style
table, and the functions that build and change them. A row keeps the UTF-8 text of all its cells in
one string; a cell stores the offset and the length of its part as `uint32_t`, so `u32` marks every
place where the source narrows a size to 32 bits. A row is never changed once it is published
(`shared_ptr<const PackedRow>`), so a row is a value here; `SharedGrid` restores the heap objects.

The functions that take a grid and return one are `EnsurePackedGrid`, `RotatePackedRows` and
`RebuildPackedRows`. The last is taken apart along its loops, the outer one over the rows that have
changes (`rebuildGroup`), the one over the columns of a row (`rebuildColumn`, with the choice of a
cell in `selectCell`) and the one that makes the runs (`appendRun`), so that each loop has an
induction of its own.

Sizes and indices are `Nat`. Where the source computes in a narrower type and the result can differ,
the narrowing is written out (`u32`, `u16`, `i32`, `u32Sub`), and everywhere else the numbers stay
below the bounds of the types.
-/

set_option autoImplicit false

namespace SakuraTerminal.Core

open SakuraTerminal.Foundations

/-- Narrowing to `uint32_t`. -/
def u32 (n : Nat) : Nat := n % 4294967296

/-- Narrowing to `uint16_t`. -/
def u16 (n : Nat) : Nat := n % 65536

/-- `static_cast<int>` of an `unsigned int`. A value from 2^31 on is negative, as on every machine
of two's complement. -/
def i32 (n : Nat) : Int := if u32 n < 2147483648 then u32 n else (u32 n : Int) - 4294967296

theorem i32_of_lt {n : Nat} (h : n < 2147483648) : i32 n = n := by
  have hsame : u32 n = n := Nat.mod_eq_of_lt (by omega)
  rw [i32, hsame, if_pos h]

/-- The cast never makes a number larger. -/
theorem i32_le (n : Nat) : i32 n ≤ n := by
  have hle : u32 n ≤ n := Nat.mod_le n 4294967296
  rw [i32]
  split <;> omega

/-- `uint32_t` subtraction. It wraps where the result would be negative. -/
def u32Sub (a b : Nat) : Nat := (a + (4294967296 - b % 4294967296)) % 4294967296

/-- The space character, `' '`. -/
def space : Nat := 32

/-- `std::array<uint8_t, 3>`. -/
structure Rgb where
  red : UInt8 := 0
  green : UInt8 := 0
  blue : UInt8 := 0
  deriving DecidableEq, Repr

/-- `struct tsm_screen_attr`, the attributes libtsm reports with a cell. -/
structure TsmScreenAttr where
  fr : UInt8 := 0
  fg : UInt8 := 0
  fb : UInt8 := 0
  br : UInt8 := 0
  bg : UInt8 := 0
  bb : UInt8 := 0
  bold : Bool := false
  italic : Bool := false
  underline : Bool := false
  inverse : Bool := false
  blink : Bool := false
  dim : Bool := false
  deriving DecidableEq, Repr

/-- A cell of a row. The offset and the length say which part of the row's text is the cell's,
and the style is an index into the table of the grid. A continuation cell of a wide glyph has
width 0. -/
structure PackedCell where
  codepoint : Nat := space
  textOffset : Nat := 0
  textLength : Nat := 0
  styleIndex : Nat := 0
  width : UInt8 := 1
  deriving DecidableEq, Repr

/-- Colours and attribute bits, as the frontend draws them: `inverse` and `dim` are in the colours
already. -/
structure PackedStyle where
  foreground : Rgb := {}
  background : Rgb := {}
  attributes : UInt8 := 0
  deriving DecidableEq, Repr

/-- Neighbouring cells of one style, with the part of the row's text that belongs to them. -/
structure PackedRun where
  left : Nat := 0
  cellCount : Nat := 0
  styleIndex : Nat := 0
  textOffset : Nat := 0
  textLength : Nat := 0
  deriving DecidableEq, Repr

/-- The cells of a row, the texts of all of them in one string, and its runs. -/
structure PackedRow where
  cells : List PackedCell := []
  text : List UInt8 := []
  runs : List PackedRun := []
  deriving DecidableEq, Repr

/-- The rows of a screen with the table of their styles. `columns` and `rows` are the size that the
rows were made for. -/
structure PackedGrid where
  columns : Nat := 0
  rows : Nat := 0
  styles : List PackedStyle := []
  rowData : List PackedRow := []
  deriving DecidableEq, Repr

/-- `PackedChangedCell`: a reported cell that has to be written into its row. -/
structure PackedChangedCell where
  column : Nat := 0
  row : Nat := 0
  width : Nat := 1
  codepoint : Nat := space
  styleIndex : Nat := 0
  textOffset : Nat := 0
  textLength : Nat := 0
  deriving DecidableEq, Repr

/-! ## Styles -/

/-- The dimmed foreground: half of each colour, per channel. -/
def dimmed (foreground background : Rgb) : Rgb where
  red := background.red / 2 + foreground.red / 2
  green := background.green / 2 + foreground.green / 2
  blue := background.blue / 2 + foreground.blue / 2

/-- The style of an attribute record. Inverse swaps the colours first, and dim then takes the
foreground half way to the background, so a dim inverse cell is dimmed towards what was its
foreground. -/
def packedStyleFor (attr : TsmScreenAttr) : PackedStyle :=
  let foreground : Rgb := ⟨attr.fr, attr.fg, attr.fb⟩
  let background : Rgb := ⟨attr.br, attr.bg, attr.bb⟩
  let (foreground, background) :=
    if attr.inverse then (background, foreground) else (foreground, background)
  { foreground := if attr.dim then dimmed foreground background else foreground
    background := background
    attributes :=
      (if attr.bold then 0x01 else 0) ||| (if attr.italic then 0x02 else 0) |||
      (if attr.underline then 0x04 else 0) ||| (if attr.blink then 0x08 else 0) |||
      (if attr.dim then 0x10 else 0) }

/-- `std::numeric_limits<uint16_t>::max()`, the bound `StyleIndex` puts on the table. -/
def styleLimit : Nat := 65535

/-- `StyleIndex`: the index of `style` and the table it ends in. Past `styleLimit` entries nothing
is added and the index is 0. -/
def styleIndex (styles : List PackedStyle) (style : PackedStyle) : Nat × List PackedStyle :=
  match styles.findIdx? (· == style) with
  | some index => (u16 index, styles)
  | none =>
    -- the guard on a full table: the style is dropped and entry 0 stands for it
    if styles.length ≥ styleLimit then (0, styles)
    else (u16 styles.length, styles ++ [style])

/-! ## Blank rows, resizing and rotation -/

/-- A row of spaces in the first style. -/
def blankRow (columns : Nat) : PackedRow where
  cells := (List.range columns).map fun column =>
    { codepoint := space, textOffset := column, textLength := 1, styleIndex := 0, width := 1 }
  text := List.replicate columns 32
  runs := [⟨0, columns, 0, 0, columns⟩]

/-- A grid of the given size: the same one if it has that size, and a blank one otherwise. Its style
table is never empty, for index 0 stands for styles that found no room. -/
def ensurePackedGrid (grid : PackedGrid) (columns rows : Nat) : PackedGrid :=
  let styles := if grid.styles.isEmpty then [{}] else grid.styles
  if grid.columns = columns ∧ grid.rows = rows ∧ grid.rowData.length = rows then
    { grid with styles := styles }
  else
    -- another size drops all rows but keeps the styles
    { columns := columns, rows := rows, styles := styles
      rowData := List.replicate rows (blankRow columns) }

/-- Row `row` of the rotated grid: the row `delta` below it, or a blank row. -/
def rotatedRow (grid : PackedGrid) (delta : Int) (row : Nat) : PackedRow :=
  let source := (row : Int) + delta
  if 0 ≤ source ∧ source < grid.rows then
    -- `source` is below `rows`, and the draw path keeps `row_data` that long
    (grid.rowData[source.toNat]?).getD (blankRow grid.columns)
  else blankRow grid.columns

/-- `RotatePackedRows`: all rows move up by `delta`, or down if it is negative, and blank rows come
in behind them. -/
def rotatePackedRows (grid : PackedGrid) (delta : Int) : PackedGrid :=
  if delta = 0 ∨ grid.rows = 0 then grid
  else { grid with rowData := (List.range grid.rows).map (rotatedRow grid delta) }

/-! ## Rebuilding rows -/

/-- `text_offset <= text.size() && text_length <= text.size() - text_offset`, the test the source
makes before it reads a part of a row's text. -/
def textInBounds (text : List UInt8) (offset length : Nat) : Bool :=
  decide (offset ≤ text.length) && decide (length ≤ text.length - offset)

/-- What the column loop of `RebuildPackedRows` copies from the old row. -/
def oldCellSource (oldRow : Option PackedRow) (column : Nat) : PackedCell × List UInt8 :=
  match oldRow with
  | none => ({}, [])
  | some old =>
    match old.cells[column]? with
    | none => ({}, [])
    | some cell =>
      -- a cell whose text is out of bounds keeps its content and loses its text
      (cell, if textInBounds old.text cell.textOffset cell.textLength then
        slice old.text cell.textOffset cell.textLength else [])

/-- What the column loop copies from a changed cell. -/
def changedCellSource (changedText : List UInt8) (change : PackedChangedCell) :
    PackedCell × List UInt8 :=
  ({ codepoint := change.codepoint, styleIndex := change.styleIndex
     width := change.width.toUInt8 },
    slice changedText change.textOffset change.textLength)

/-- The choice at one column: the next change of the row if it is for this column, and the old cell
otherwise. The changes still to come are the third component. A change that is not for a column of
the row stays at the front and keeps all later ones from being taken. -/
def selectCell (oldRow : Option PackedRow) (changedText : List UInt8)
    (changes : List PackedChangedCell) (column : Nat) :
    (PackedCell × List UInt8) × List PackedChangedCell :=
  match changes with
  | change :: rest =>
    if change.column = column then (changedCellSource changedText change, rest)
    else (oldCellSource oldRow column, changes)
  | [] => (oldCellSource oldRow column, [])

/-- Append a cell and its text to a row under construction. -/
def appendCell (row : PackedRow) (source : PackedCell × List UInt8) : PackedRow :=
  { row with
    cells := row.cells ++
      [{ source.1 with textOffset := u32 row.text.length, textLength := u32 source.2.length }]
    text := row.text ++ source.2 }

/-- One turn of the column loop. -/
def rebuildColumn (oldRow : Option PackedRow) (changedText : List UInt8)
    (state : PackedRow × List PackedChangedCell) (column : Nat) :
    PackedRow × List PackedChangedCell :=
  let (source, rest) := selectCell oldRow changedText state.2 column
  (appendCell state.1 source, rest)

/-- One turn of the run loop: a new run, or one more cell in the last run. -/
def appendRun (runs : List PackedRun) (cell : PackedCell × Nat) : List PackedRun :=
  match runs.getLast? with
  | none => [⟨cell.2, 1, cell.1.styleIndex, cell.1.textOffset, cell.1.textLength⟩]
  | some run =>
    if run.styleIndex ≠ cell.1.styleIndex then
      runs ++ [⟨cell.2, 1, cell.1.styleIndex, cell.1.textOffset, cell.1.textLength⟩]
    else
      -- the run's text ends where the text of its new last cell ends, in `uint32_t`
      runs.dropLast ++ [{ run with
        cellCount := run.cellCount + 1
        textLength := u32Sub (u32 (cell.1.textOffset + cell.1.textLength)) run.textOffset }]

/-- The runs of the cells, from left to right. -/
def buildRuns (cells : List PackedCell) : List PackedRun :=
  cells.zipIdx.foldl appendRun []

/-- The new row for one group of changes. -/
def rebuildRow (columns : Nat) (oldRow : Option PackedRow) (changedText : List UInt8)
    (changes : List PackedChangedCell) : PackedRow :=
  let (row, _) := (List.range columns).foldl (rebuildColumn oldRow changedText) ({}, changes)
  { row with runs := buildRuns row.cells }

/-- The order of the sort: by row, then by column. -/
def changeOrder (left right : PackedChangedCell) : Prop :=
  left.row < right.row ∨ (left.row = right.row ∧ left.column ≤ right.column)

instance : DecidableRel changeOrder := fun _ _ =>
  inferInstanceAs (Decidable (_ ∨ _))

/-- One turn of the outer loop of `RebuildPackedRows`: replace the row of a group of changes. -/
def rebuildGroup (changedText : List UInt8) (grid : PackedGrid)
    (group : List PackedChangedCell) : PackedGrid :=
  match group with
  | [] => grid
  | change :: _ =>
    { grid with
      rowData := grid.rowData.set change.row
        (rebuildRow grid.columns grid.rowData[change.row]? changedText group) }

/-- The changes of one row, row by row, as the outer loop meets them. -/
def changeGroups (changes : List PackedChangedCell) : List (List PackedChangedCell) :=
  groupsBy PackedChangedCell.row (changes.insertionSort changeOrder)

/-- `RebuildPackedRows`: the changes are sorted, and every row that has some is built anew. All
others stay the rows they were. -/
def rebuildPackedRows (grid : PackedGrid) (changes : List PackedChangedCell)
    (changedText : List UInt8) : PackedGrid :=
  (changeGroups changes).foldl (rebuildGroup changedText) grid

end SakuraTerminal.Core
