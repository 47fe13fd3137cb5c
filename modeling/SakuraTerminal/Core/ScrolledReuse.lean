import SakuraTerminal.Core.ReportedCells
import SakuraTerminal.Core.WrappedOffsets

/-!
# Reuse of scrolled rows

Where only lines scrolled, `TakePackedFrame` rotates the cached rows and skips the reported cells
that equal the rotated cache. `scrolledGrid` is that path and `decodedGrid` the plain one, which
decodes the same calls into an empty grid. Both show the screen that libtsm reported
(`frameCell_drawnGrid`), so they agree whatever was cached and by whatever delta it was rotated
(`scrolledGrid_agrees`), as long as the texts of the screen stay below 4 GiB. Beyond that the plain
path reads a text at a wrapped offset that the other path never looks up
(`not_scrolledGrid_agrees`).

Nothing is asked of what the cache shows. A reported cell that happens to equal the rotated cache
may be skipped because skipping it leaves that very cell, and one that does not is recorded, so the
delta may even be wrong. This is why the agreement needs only the row layout of the cache, and why
its proof is one lemma about a draw of the whole screen into any grid, applied twice.
-/

set_option autoImplicit false

namespace SakuraTerminal.Core

open SakuraTerminal.Foundations SakuraTerminal.Foundations.InternTable

/-- Each cell of the screen is reported exactly once, with an age newer than the last draw. With
such ages the callback's age filter lets every call through, and the only calls that are skipped are
those the comparison with the cache skips. -/
structure ReportsScreen (screen : Screen) (previousAge : Nat) (calls : List DrawCall) : Prop where
  once : (calls.map fun call => (call.column, call.row)).Nodup
  all : ∀ column < screen.width, ∀ row < screen.height, ∃ call ∈ calls,
    call.column = column ∧ call.row = row
  current : ∀ call ∈ calls, call.column < screen.width → call.row < screen.height →
    call.cell = screen.cell call.column call.row
  newer : ∀ call ∈ calls, call.age > previousAge

/-- The context of a draw into `grid`; the cursor and the ages are those of `base`. -/
def passContext (base : PackedDrawContext) (grid : PackedGrid) (reuse : Bool) :
    PackedDrawContext :=
  { base with
    grid := grid
    changedCells := []
    changedText := []
    dirtySpans := []
    dirty := {}
    reuseScrolledRows := reuse }

/-- The draw and the rebuild of `TakePackedFrame`. -/
def drawnGrid (tsmUcs4ToUtf8 : Nat → List UInt8) (base : PackedDrawContext) (grid : PackedGrid)
    (reuse : Bool) (calls : List DrawCall) : PackedGrid :=
  let context := drawPass tsmUcs4ToUtf8 (passContext base grid reuse) calls
  rebuildPackedRows context.grid context.changedCells context.changedText

/-- The path with reuse: the cached grid is rotated by `delta`, and calls that equal it are
skipped. -/
def scrolledGrid (tsmUcs4ToUtf8 : Nat → List UInt8) (base : PackedDrawContext) (grid : PackedGrid)
    (delta : Int) (calls : List DrawCall) : PackedGrid :=
  drawnGrid tsmUcs4ToUtf8 base (rotatePackedRows grid delta) true calls

/-- The path without: an empty grid of the screen's size, and no call is skipped. -/
def decodedGrid (tsmUcs4ToUtf8 : Nat → List UInt8) (base : PackedDrawContext) (columns rows : Nat)
    (calls : List DrawCall) : PackedGrid :=
  drawnGrid tsmUcs4ToUtf8 base (ensurePackedGrid {} columns rows) false calls

/-- A draw of the whole screen into a cached grid with the row layout, after the lines moved by
`delta`. Every text fits the 128 bytes of the callback, and the style table never fills up. The
three bounds on tables exclude refused styles, whose cells would have the default style on one path
and their own on the other. -/
structure ScrolledDraw (tsmUcs4ToUtf8 : Nat → List UInt8) (base : PackedDrawContext)
    (screen : Screen) (grid : PackedGrid) (delta : Int) (calls : List DrawCall) : Prop where
  layout : GridLayout grid
  columns : grid.columns = screen.width
  rows : grid.rows = screen.height
  length : grid.rowData.length = grid.rows
  moved : delta ≠ 0
  inside : delta.natAbs < grid.rows
  reports : ReportsScreen screen base.previousAge calls
  fit : ∀ call ∈ calls, (cellBytes tsmUcs4ToUtf8 call.cell).length ≤ 128
  cached : grid.styles.length < 65535
  scrolled : (scrolledGrid tsmUcs4ToUtf8 base grid delta calls).styles.length < 65535
  decoded : (decodedGrid tsmUcs4ToUtf8 base screen.width screen.height calls).styles.length < 65535

/-! ## Either path shows the screen -/

section drawn

variable {tsmUcs4ToUtf8 : Nat → List UInt8} {base : PackedDrawContext} {grid : PackedGrid}
  {reuse : Bool} {screen : Screen} {calls : List DrawCall}

theorem FitsScreen.drawnSince (h : FitsScreen screen grid) :
    DrawnSince tsmUcs4ToUtf8 (passContext base grid reuse) calls
      (drawPass tsmUcs4ToUtf8 (passContext base grid reuse) calls) := by
  apply drawnSince_drawPass _ rfl rfl rfl
  apply h.table.styleTable
  rw [h.rows]
  exact screen.heightPos

/-- Every call inside the grid is looked at. -/
theorem ReportsScreen.accepts (h : ReportsScreen screen base.previousAge calls)
    (hgrid : FitsScreen screen grid) {call : DrawCall} (hcall : call ∈ calls)
    (hcolumn : call.column < screen.width) (hrow : call.row < screen.height) :
    Accepts (passContext base grid reuse) call := by
  refine ⟨hcolumn.trans_eq hgrid.columns.symm, hrow.trans_eq hgrid.rows.symm, ?_⟩
  have hnewer := h.newer call hcall
  simp [reportsChange, passContext, hnewer]

theorem ReportsScreen.reportsCells {previousAge : Nat}
    (h : ReportsScreen screen previousAge calls) : ReportsCells screen calls :=
  ⟨h.once, h.all, h.current⟩

/-- Whatever the grid and the cache, a draw of the whole screen shows the screen. -/
theorem ReportsScreen.frameCell_drawnGrid (h : ReportsScreen screen base.previousAge calls)
    (hgrid : FitsScreen screen grid)
    (hfit : ∀ call ∈ calls, (cellBytes tsmUcs4ToUtf8 call.cell).length ≤ 128)
    (hbytes : viewportBytes tsmUcs4ToUtf8 screen < 4294967296)
    (hstyles : (drawnGrid tsmUcs4ToUtf8 base grid reuse calls).styles.length < styleLimit)
    {column row : Nat} (hcolumn : column < screen.width) (hrow : row < screen.height) :
    frameCell (gridFrame (drawnGrid tsmUcs4ToUtf8 base grid reuse calls)) column row =
      some (decodeCell tsmUcs4ToUtf8 (screen.cell column row)) := by
  have hdraw : ReportedDraw tsmUcs4ToUtf8 screen (passContext base grid reuse) calls _ :=
    ⟨h.reportsCells, hgrid, rfl, hgrid.drawnSince, hfit⟩
  obtain ⟨call, hcall, rfl, rfl⟩ := h.all column hcolumn row hrow
  have hbelow := hdraw.textBelow4GiB hbytes fun call hcall hcolumn hrow hskipped =>
    absurd (h.accepts hgrid hcall hcolumn hrow) hskipped
  rw [drawnGrid, rebuildPackedRows_styles] at hstyles
  rw [← h.current call hcall hcolumn hrow]
  apply hdraw.frameCell_accepted hbytes hbelow hcall (h.accepts hgrid hcall hcolumn hrow)
  -- a table below the limit has never rejected a style
  rintro index (hfound | ⟨-, -, -, hfull⟩)
  · exact hfound
  · exact absurd hstyles (Nat.not_lt.mpr hfull)

end drawn

/-! ## The two paths -/

/-- Both paths show a cell everywhere, and the same one. Cells are compared as their views are: code
point, width, text and style. -/
def PathsAgree (tsmUcs4ToUtf8 : Nat → List UInt8) (base : PackedDrawContext) (screen : Screen)
    (grid : PackedGrid) (delta : Int) (calls : List DrawCall) : Prop :=
  ∀ column < screen.width, ∀ row < screen.height,
    (frameCell (gridFrame (scrolledGrid tsmUcs4ToUtf8 base grid delta calls)) column row).isSome ∧
    frameCell (gridFrame (scrolledGrid tsmUcs4ToUtf8 base grid delta calls)) column row =
      frameCell (gridFrame (decodedGrid tsmUcs4ToUtf8 base screen.width screen.height calls))
        column row

section paths

variable {tsmUcs4ToUtf8 : Nat → List UInt8} {base : PackedDrawContext} {grid : PackedGrid}
  {screen : Screen} {calls : List DrawCall}

theorem FitsScreen.rotate (h : FitsScreen screen grid) (delta : Int) :
    FitsScreen screen (rotatePackedRows grid delta) where
  columns := (rotatePackedRows_columns grid delta).trans h.columns
  rows := (rotatePackedRows_rows grid delta).trans h.rows
  table := h.table.rotate delta
  layout := by
    apply h.layout.rotate h.table
    · exact screen.widthPos.trans_eq h.columns.symm
    · exact h.columns.trans_lt screen.widthLt

theorem fitsScreen_ensure_empty (screen : Screen) :
    FitsScreen screen (ensurePackedGrid {} screen.width screen.height) where
  columns := ensurePackedGrid_columns ..
  rows := ensurePackedGrid_rows ..
  table := gridTable_empty.ensure _ _
  layout := GridLayout.ensure (fun _ hrow => absurd hrow List.not_mem_nil) gridTable_empty _
    screen.widthPos screen.widthLt

/-- The rows of the cache are inhabited, and their styles are in the table. -/
theorem ScrolledDraw.fitsScreen {delta : Int}
    (h : ScrolledDraw tsmUcs4ToUtf8 base screen grid delta calls) : FitsScreen screen grid := by
  refine ⟨h.columns, h.rows, ⟨Nat.le_of_lt h.cached, ?_, h.length⟩, h.layout⟩
  intro hne hnil
  obtain ⟨source, hsource⟩ := List.exists_mem_of_ne_nil _ hne
  have hlayout := h.layout source hsource
  have hpos : 0 < source.cells.length := by
    rw [hlayout.columns, h.columns]
    exact screen.widthPos
  have hstyle := hlayout.styles _ (List.getElem_mem hpos)
  rw [hnil] at hstyle
  exact Nat.not_lt_zero _ hstyle

/-- Rotating the cache and skipping what equals it gives the same cells as decoding everything. -/
theorem scrolledGrid_agrees {delta : Int}
    (h : ScrolledDraw tsmUcs4ToUtf8 base screen grid delta calls)
    (hbytes : viewportBytes tsmUcs4ToUtf8 screen < 4294967296) :
    PathsAgree tsmUcs4ToUtf8 base screen grid delta calls := by
  intro column hcolumn row hrow
  have hscrolled := h.reports.frameCell_drawnGrid (h.fitsScreen.rotate delta) h.fit hbytes
    h.scrolled hcolumn hrow
  have hdecoded := h.reports.frameCell_drawnGrid (fitsScreen_ensure_empty screen) h.fit hbytes
    h.decoded hcolumn hrow
  rw [scrolledGrid, decodedGrid, hscrolled, hdecoded]
  exact ⟨rfl, rfl⟩

end paths

/-! ## A screen of 4 GiB -/

/-- `rows` glyphs of 128 bytes, one below the other, and an empty cell in the last row. -/
def columnScreen (rows : Nat) : Screen where
  width := 1
  height := rows + 1
  widthPos := Nat.one_pos
  widthLt := one_lt_unsigned
  heightPos := Nat.succ_pos rows
  cell := fun _ row => if row < rows then glyphCell 0x10000 else {}
  rowId := fun row => row

/-- The calls for the glyphs. -/
def columnCalls (rows : Nat) : List DrawCall :=
  (List.range rows).map fun row => ⟨glyphCell 0x10000, 0, row, 1⟩

/-- All calls: the empty cell comes last, behind the texts of the glyphs. -/
def columnReport (rows : Nat) : List DrawCall := columnCalls rows ++ [⟨{}, 0, rows, 1⟩]

/-- Each row is reported once, the empty one last. -/
theorem reportsScreen_column (rows : Nat) :
    ReportsScreen (columnScreen rows) 0 (columnReport rows) := by
  have hcases : ∀ call ∈ columnReport rows,
      (∃ row < rows, call = ⟨glyphCell 0x10000, 0, row, 1⟩) ∨ call = ⟨{}, 0, rows, 1⟩ := by
    intro call hcall
    rcases List.mem_append.mp hcall with hglyph | hlast
    · obtain ⟨row, hrow, rfl⟩ := List.mem_map.mp hglyph
      exact .inl ⟨row, List.mem_range.mp hrow, rfl⟩
    · exact .inr (List.mem_singleton.mp hlast)
  constructor
  case once =>
    -- the positions are those of the rows from 0 to `rows`
    have hpositions : (columnReport rows).map (fun call => (call.column, call.row)) =
        (List.range (rows + 1)).map fun row => (0, row) := by
      rw [columnReport, columnCalls, List.map_append, List.map_map, List.range_succ,
        List.map_append]
      rfl
    rw [hpositions]
    exact List.Nodup.map (fun a b h => (Prod.mk.inj h).2) List.nodup_range
  case all =>
    intro column hcolumn row hrow
    have hzero : column = 0 := Nat.lt_one_iff.mp hcolumn
    subst hzero
    rcases Nat.lt_succ_iff_lt_or_eq.mp hrow with hlt | rfl
    · refine ⟨⟨glyphCell 0x10000, 0, row, 1⟩, List.mem_append_left _ ?_, rfl, rfl⟩
      exact List.mem_map.mpr ⟨row, List.mem_range.mpr hlt, rfl⟩
    · exact ⟨⟨{}, 0, row, 1⟩, List.mem_append_right _ (List.mem_singleton.mpr rfl), rfl, rfl⟩
  case current =>
    intro call hcall _ _
    rcases hcases call hcall with ⟨row, hrow, rfl⟩ | rfl
    · exact (if_pos hrow).symm
    · exact (if_neg (Nat.lt_irrefl rows)).symm
  case newer =>
    intro call hcall
    rcases hcases call hcall with ⟨row, hrow, rfl⟩ | rfl <;> exact Nat.one_pos

/-- Without reuse, calls that are looked at and fit leave their texts one after another. -/
theorem drawPass_changedText {tsmUcs4ToUtf8 : Nat → List UInt8} {start : PackedDrawContext}
    (htable : StyleTable start.grid.styles) (hcells : start.changedCells = [])
    (hdirty : start.dirty = {}) (hspans : start.dirtySpans = [])
    (hreuse : start.reuseScrolledRows = false) {calls : List DrawCall}
    (haccepts : ∀ call ∈ calls, Accepts start call)
    (hfit : ∀ call ∈ calls, (cellBytes tsmUcs4ToUtf8 call.cell).length ≤ 128) :
    (drawPass tsmUcs4ToUtf8 start calls).changedText =
      start.changedText ++ calls.flatMap fun call => cellBytes tsmUcs4ToUtf8 call.cell := by
  induction calls using List.reverseRecOn with
  | nil => exact (List.append_nil _).symm
  | append_singleton calls call ih =>
    have ih := ih (fun earlier h => haccepts earlier (List.mem_append_left _ h))
      fun earlier h => hfit earlier (List.mem_append_left _ h)
    have hdrawn : DrawnSince tsmUcs4ToUtf8 start calls _ :=
      drawnSince_drawPass htable hcells hdirty hspans calls
    have hlast : call ∈ calls ++ [call] := List.mem_append_right _ (List.mem_singleton.mpr rfl)
    have hencode := encodeText_of_length_le (hfit call hlast)
    rw [drawPass, List.foldl_concat, ← drawPass]
    generalize drawPass tsmUcs4ToUtf8 start calls = context at ih hdrawn ⊢
    have houtcome : DrawOutcome tsmUcs4ToUtf8 context call
        (drawPackedCell tsmUcs4ToUtf8 context call) := drawOutcome context call
    generalize drawPackedCell tsmUcs4ToUtf8 context call = context' at houtcome ⊢
    cases houtcome with
    | ignored hnot =>
      exact absurd ((hdrawn.setting.accepts call).mpr (haccepts call hlast)) hnot
    | tooLong index styles _ _ hnone =>
      rw [hencode] at hnone
      contradiction
    | cached index styles encoded _ _ _ hcached =>
      rw [hdrawn.setting.reuse, hreuse] at hcached
      contradiction
    | recorded index styles encoded _ _ hencoded =>
      change context.changedText ++ encoded = _
      rw [cellBytes_of_encodeText hencoded, ih, List.flatMap_append, List.append_assoc]
      exact congrArg _ (congrArg _ (List.append_nil _).symm)

/-- A change that is alone in its row of one column gives the row its text. -/
theorem gridText_rebuild_column {grid : PackedGrid} {changes : List PackedChangedCell}
    {changedText : List UInt8} (hcolumns : grid.columns = 1)
    (hnodup : (changes.map fun change => (change.column, change.row)).Nodup)
    {change : PackedChangedCell} (hmem : change ∈ changes) (hzero : change.column = 0)
    (hrow : change.row < grid.rowData.length)
    (hlt : (changedCellSource changedText change).2.length < 4294967296) :
    gridText (rebuildPackedRows grid changes changedText) 0 change.row =
      some (changedCellSource changedText change).2 := by
  have hne : rowChanges changes change.row ≠ [] :=
    List.ne_nil_of_mem (mem_rowChanges.2 ⟨hmem, rfl⟩)
  have hafter := rebuildPackedRows_row grid changes changedText change.row
  rw [if_neg hne, List.getElem?_eq_getElem hrow, Option.map_some] at hafter
  have hselected := selectedCells_changed changedText grid.rowData[change.row] hnodup hmem
    (by rw [hzero, hcolumns]; exact Nat.one_pos)
  obtain ⟨cell, hcell, -, htext⟩ := rebuildRow_cell hselected
  rw [hzero] at hcell hselected
  -- the only column has the text of the whole row
  have hrowText : (rebuildRow grid.columns (some grid.rowData[change.row]) changedText
      (rowChanges changes change.row)).text = (changedCellSource changedText change).2 := by
    have hlength := length_selectedCells (some grid.rowData[change.row]) changedText
      (rowChanges changes change.row) (List.range grid.columns)
    rw [List.length_range, hcolumns] at hlength
    obtain ⟨source, hsource⟩ := List.length_eq_one_iff.mp hlength
    rw [rebuildRow_text, hcolumns, hsource]
    rw [hcolumns, hsource] at hselected
    cases hselected
    simp
  rw [gridText, hafter, Option.bind_some, hcell, Option.map_some, htext (hrowText ▸ hlt)]

/-- A table that has the default style first finds it there. -/
theorem styleIndex_default {styles : List PackedStyle} (h : [{}] <+: styles) :
    styleIndex styles (packedStyleFor {}) = (0, styles) := by
  obtain ⟨rest, rfl⟩ := h
  have hdefault : packedStyleFor {} = {} := by decide
  rw [hdefault]
  simp [styleIndex, u16, List.findIdx?_cons]

section column

variable {rows : Nat}

/-- A draw after a draw of age 0, with the cursor where it was. -/
def columnBase : PackedDrawContext where
  grid := {}

/-- The blank cache of one column. -/
def columnGrid (rows : Nat) : PackedGrid := ensurePackedGrid {} 1 (rows + 1)

theorem fitsScreen_columnGrid (rows : Nat) : FitsScreen (columnScreen rows) (columnGrid rows) :=
  fitsScreen_ensure_empty (columnScreen rows)

/-- The last row of the rotated cache is blank too. -/
theorem rotate_columnGrid_last (rows : Nat) :
    (rotatePackedRows (columnGrid rows) 1).rowData[rows]? = some (blankRow 1) := by
  have hrows : (columnGrid rows).rows = rows + 1 := ensurePackedGrid_rows ..
  have hcolumns : (columnGrid rows).columns = 1 := ensurePackedGrid_columns ..
  rw [rotatePackedRows, if_neg (by rw [hrows]; omega)]
  simp only [List.getElem?_map, hrows, List.getElem?_range (Nat.lt_succ_self rows),
    Option.map_some, rotatedRow, hcolumns]
  rw [if_neg (by omega)]

/-- The calls for the glyphs. -/
theorem columnCalls_drawn {base : PackedDrawContext} {grid : PackedGrid} {reuse : Bool}
    (hgrid : FitsScreen (columnScreen rows) grid) (hstyles : grid.styles = [{}]) :
    let context := drawPass ucs4ToUtf8 (passContext base grid reuse) (columnCalls rows)
    DrawnSince ucs4ToUtf8 (passContext base grid reuse) (columnCalls rows) context ∧
      (∀ change ∈ context.changedCells, change.row < rows) ∧ [{}] <+: context.grid.styles := by
  intro context
  have hdrawn : DrawnSince ucs4ToUtf8 (passContext base grid reuse) (columnCalls rows) context :=
    hgrid.drawnSince
  refine ⟨hdrawn, ?_, hstyles ▸ hdrawn.growth.isPrefix⟩
  intro change hchange
  obtain ⟨call, hcall, -, hrecords⟩ := hdrawn.recorded change hchange
  obtain ⟨row, hrow, rfl⟩ := List.mem_map.mp hcall
  rw [hrecords.row]
  exact List.mem_range.mp hrow

/-- The empty cell equals the blank cache and is skipped. -/
theorem gridText_scrolled_column (rows : Nat) :
    gridText (scrolledGrid ucs4ToUtf8 columnBase (columnGrid rows) 1 (columnReport rows)) 0 rows =
      some [32] := by
  have hfits := (fitsScreen_columnGrid rows).rotate 1
  have hstyles : (rotatePackedRows (columnGrid rows) 1).styles = [{}] := by
    rw [rotatePackedRows_styles]
    rfl
  obtain ⟨hdrawn, hchanges, hprefix⟩ := @columnCalls_drawn rows columnBase _ true hfits hstyles
  rw [scrolledGrid, drawnGrid, columnReport, drawPass, List.foldl_concat, ← drawPass]
  generalize drawPass ucs4ToUtf8
    (passContext columnBase (rotatePackedRows (columnGrid rows) 1) true)
    (columnCalls rows) = context at hdrawn hchanges hprefix ⊢
  have hrow : context.grid.rowData[rows]? = some (blankRow 1) := by
    rw [hdrawn.setting.rowData]
    exact rotate_columnGrid_last rows
  have hmatch : cachedCellMatches context.grid ⟨{}, 0, rows, 1⟩ 0 [32] = true := by
    simp only [cachedCellMatches, hrow]
    decide
  have haccepts : Accepts (passContext columnBase (rotatePackedRows (columnGrid rows) 1) true)
      ⟨{}, 0, rows, 1⟩ :=
    (reportsScreen_column rows).accepts hfits
      (List.mem_append_right _ (List.mem_singleton.mpr rfl)) Nat.one_pos (Nat.lt_succ_self rows)
  have hlast : drawPackedCell ucs4ToUtf8 context ⟨{}, 0, rows, 1⟩ =
      context.withStyles context.grid.styles := by
    obtain ⟨hcolumn, hrange, hreports⟩ := (hdrawn.setting.accepts _).mpr haccepts
    have hreuse : context.reuseScrolledRows = true := hdrawn.setting.reuse
    have hencode : encodeText ucs4ToUtf8 {} = some [32] := by decide
    rw [drawPackedCell, if_neg (by omega), if_neg (by rw [hreports]; decide)]
    simp only [styleIndex_default hprefix, hencode]
    exact if_pos (Bool.and_eq_true_iff.mpr ⟨hreuse, hmatch⟩)
  have hnone : rowChanges context.changedCells rows = [] := by
    apply List.eq_nil_iff_forall_not_mem.mpr
    intro change hchange
    obtain ⟨hmem, hat⟩ := mem_rowChanges.mp hchange
    exact absurd (hchanges change hmem) (by omega)
  rw [hlast]
  change gridText (rebuildPackedRows context.grid context.changedCells context.changedText) 0 rows =
    _
  rw [gridText, rebuildPackedRows_row, if_pos hnone, hrow]
  rfl

/-- What is recorded for the empty cell after `text`. -/
def emptyChange (rows : Nat) (text : List UInt8) : PackedChangedCell where
  column := 0
  row := rows
  width := 1
  codepoint := 32
  styleIndex := 0
  textOffset := u32 text.length
  textLength := u32 ((text ++ [32]).length - u32 text.length)

theorem columnReport_accepts {grid : PackedGrid} {reuse : Bool}
    (hgrid : FitsScreen (columnScreen rows) grid) :
    ∀ call ∈ columnReport rows, Accepts (passContext columnBase grid reuse) call := by
  intro call hcall
  have hat : call.column < (columnScreen rows).width ∧ call.row < (columnScreen rows).height := by
    rcases List.mem_append.mp hcall with hglyph | hlast
    · obtain ⟨row, hrow, rfl⟩ := List.mem_map.mp hglyph
      exact ⟨Nat.one_pos, (List.mem_range.mp hrow).trans (Nat.lt_succ_self rows)⟩
    · rw [List.mem_singleton.mp hlast]
      exact ⟨Nat.one_pos, Nat.lt_succ_self rows⟩
  exact (reportsScreen_column rows).accepts hgrid hcall hat.1 hat.2

theorem columnReport_fit : ∀ call ∈ columnReport rows,
    (cellBytes ucs4ToUtf8 call.cell).length ≤ 128 := by
  intro call hcall
  rcases List.mem_append.mp hcall with hglyph | hlast
  · obtain ⟨row, -, rfl⟩ := List.mem_map.mp hglyph
    exact Nat.le_of_eq encodeText_glyph.2
  · rw [List.mem_singleton.mp hlast]
    change (cellBytes ucs4ToUtf8 {}).length ≤ 128
    decide

/-- The glyphs leave 128 bytes each. -/
theorem columnCalls_changedText (rows : Nat) :
    (drawPass ucs4ToUtf8 (passContext columnBase (columnGrid rows) false)
      (columnCalls rows)).changedText = (List.replicate rows glyphText).flatten := by
  have hfits := fitsScreen_columnGrid rows
  have htable : StyleTable (passContext columnBase (columnGrid rows) false).grid.styles :=
    hfits.table.styleTable (by rw [hfits.rows]; exact Nat.succ_pos rows)
  have htext := drawPass_changedText htable rfl rfl rfl rfl
    (fun call hcall => columnReport_accepts hfits call (List.mem_append_left _ hcall))
    fun call hcall => columnReport_fit call (List.mem_append_left _ hcall)
  have hglyphs : ((columnCalls rows).map fun call => cellBytes ucs4ToUtf8 call.cell) =
      List.replicate rows glyphText := by
    rw [columnCalls, List.map_map]
    change (List.range rows).map (fun _ => glyphText) = _
    rw [List.map_const', List.length_range]
  rw [htext, List.flatMap_def, hglyphs]
  rfl

/-- Without the cache the empty cell reads its text at the wrapped offset, from the first glyph. -/
theorem gridText_decoded_column (hpos : 0 < rows) (hwrap : u32 (128 * rows) = 0)
    (hone : u32 (128 * rows + 1) = 1) :
    gridText (decodedGrid ucs4ToUtf8 columnBase 1 (rows + 1) (columnReport rows)) 0 rows =
      some [240] := by
  have hfits := fitsScreen_columnGrid rows
  obtain ⟨hdrawn, hchanges, hprefix⟩ := @columnCalls_drawn rows columnBase _ false hfits rfl
  have hall : DrawnSince ucs4ToUtf8 (passContext columnBase (columnGrid rows) false)
      (columnReport rows) _ := hfits.drawnSince
  have htext := columnCalls_changedText rows
  have hlength : (List.replicate rows glyphText).flatten.length = 128 * rows := by
    rw [List.length_flatten, List.map_replicate, encodeText_glyph.2, List.sum_replicate_nat,
      Nat.mul_comm]
  have haccepts : Accepts (passContext columnBase (columnGrid rows) false) ⟨{}, 0, rows, 1⟩ :=
    columnReport_accepts hfits _ (List.mem_append_right _ (List.mem_singleton.mpr rfl))
  change gridText (drawnGrid ucs4ToUtf8 columnBase (columnGrid rows) false _) 0 rows = _
  rw [columnReport, drawPass, List.foldl_concat, ← drawPass] at hall
  rw [drawnGrid, columnReport, drawPass, List.foldl_concat, ← drawPass]
  generalize drawPass ucs4ToUtf8 (passContext columnBase (columnGrid rows) false)
    (columnCalls rows) = context at hdrawn hchanges hprefix htext hall ⊢
  have hlast : drawPackedCell ucs4ToUtf8 context ⟨{}, 0, rows, 1⟩ =
      recordChange (context.withStyles context.grid.styles) ⟨{}, 0, rows, 1⟩ 0 [32] := by
    obtain ⟨hcolumn, hrange, hreports⟩ := (hdrawn.setting.accepts _).mpr haccepts
    have hreuse : context.reuseScrolledRows = false := hdrawn.setting.reuse
    have hencode : encodeText ucs4ToUtf8 {} = some [32] := by decide
    rw [drawPackedCell, if_neg (by omega), if_neg (by rw [hreports]; decide)]
    simp only [styleIndex_default hprefix, hencode]
    apply if_neg
    change ¬(context.reuseScrolledRows && _) = true
    rw [hreuse]
    exact Bool.false_ne_true
  rw [hlast] at hall ⊢
  have hmem : emptyChange rows context.changedText ∈
      (recordChange (context.withStyles context.grid.styles)
        ⟨{}, 0, rows, 1⟩ 0 [32]).changedCells :=
    List.mem_append_right _ (List.mem_singleton.mpr rfl)
  have hsource : (changedCellSource (context.changedText ++ [32])
      (emptyChange rows context.changedText)).2 = [240] := by
    have hfirst : glyphText.take 1 = [240] := by decide +kernel
    obtain ⟨more, hmore⟩ : ∃ more, rows = more + 1 := ⟨rows - 1, by omega⟩
    rw [changedCellSource, emptyChange, List.length_append, htext, hlength, hwrap]
    change slice _ 0 (u32 (128 * rows + 1)) = _
    rw [hone, slice, List.drop_zero, hmore, List.replicate_succ, List.flatten_cons,
      List.append_assoc, List.take_append_of_le_length (by rw [encodeText_glyph.2]; decide)]
    exact hfirst
  have hrow : rows < context.grid.rowData.length := by
    have hrowData : context.grid.rowData = (columnGrid rows).rowData := hdrawn.setting.rowData
    rw [hrowData, hfits.table.rows, hfits.rows]
    exact Nat.lt_succ_self rows
  have hrebuilt := @gridText_rebuild_column context.grid _ (context.changedText ++ [32])
    (hdrawn.setting.columns.trans hfits.columns)
    (hall.positions.nodup (reportsScreen_column rows).once) _ hmem rfl hrow
    (by rw [hsource]; decide)
  rw [hsource] at hrebuilt
  exact hrebuilt

/-- All cells of the column have the default style. -/
theorem drawnGrid_column_styles {grid : PackedGrid} {reuse : Bool}
    (hgrid : FitsScreen (columnScreen rows) grid) (hstyles : grid.styles = [{}]) :
    (drawnGrid ucs4ToUtf8 columnBase grid reuse (columnReport rows)).styles.length < 65535 := by
  have hdrawn : DrawnSince ucs4ToUtf8 (passContext columnBase grid reuse) (columnReport rows) _ :=
    hgrid.drawnSince
  rw [drawnGrid, rebuildPackedRows_styles]
  generalize drawPass ucs4ToUtf8 (passContext columnBase grid reuse) (columnReport rows) = context
    at hdrawn ⊢
  have hnodup : context.grid.styles.Nodup := by
    apply hdrawn.nodup
    change grid.styles.Nodup
    rw [hstyles]
    exact List.nodup_singleton _
  have hdefault : ∀ style ∈ context.grid.styles, style = {} := by
    intro style hstyle
    rcases hdrawn.styles style hstyle with hold | ⟨call, hcall, -, rfl⟩
    · change style ∈ grid.styles at hold
      rw [hstyles] at hold
      exact List.mem_singleton.mp hold
    · rcases List.mem_append.mp hcall with hglyph | hlast
      · obtain ⟨row, -, rfl⟩ := List.mem_map.mp hglyph
        change packedStyleFor {} = {}
        decide
      · rw [List.mem_singleton.mp hlast]
        change packedStyleFor {} = {}
        decide
  have hreplicate := List.eq_replicate_iff.mpr ⟨rfl, hdefault⟩
  rw [hreplicate] at hnodup
  have hone := List.nodup_replicate.mp hnodup
  omega

/-- The column is a draw of the kind the theorem is about, for any number of glyphs. -/
theorem scrolledDraw_column (hpos : 0 < rows) :
    ScrolledDraw ucs4ToUtf8 columnBase (columnScreen rows) (columnGrid rows) 1
      (columnReport rows) where
  layout := (fitsScreen_columnGrid rows).layout
  columns := (fitsScreen_columnGrid rows).columns
  rows := (fitsScreen_columnGrid rows).rows
  length := (fitsScreen_columnGrid rows).table.rows
  moved := by decide
  inside := by
    rw [(fitsScreen_columnGrid rows).rows]
    exact Nat.succ_lt_succ hpos
  reports := reportsScreen_column rows
  fit := columnReport_fit
  cached := by
    change [PackedStyle.mk {} {} 0].length < 65535
    decide
  scrolled := by
    apply drawnGrid_column_styles ((fitsScreen_columnGrid rows).rotate 1)
    rw [rotatePackedRows_styles]
    rfl
  decoded := drawnGrid_column_styles (fitsScreen_columnGrid rows) rfl

/-- The texts of the empty cell differ. -/
theorem not_pathsAgree_column (hpos : 0 < rows) (hwrap : u32 (128 * rows) = 0)
    (hone : u32 (128 * rows + 1) = 1) :
    ¬ PathsAgree ucs4ToUtf8 columnBase (columnScreen rows) (columnGrid rows) 1
      (columnReport rows) := by
  intro h
  obtain ⟨hsome, hsame⟩ := h 0 Nat.one_pos rows (Nat.lt_succ_self rows)
  obtain ⟨view, hview⟩ := Option.isSome_iff_exists.mp hsome
  have hscrolled : gridText (scrolledGrid ucs4ToUtf8 columnBase (columnGrid rows) 1
      (columnReport rows)) 0 rows = some view.text := gridText_of_frameCell hview
  have hdecoded : gridText (decodedGrid ucs4ToUtf8 columnBase 1 (rows + 1)
      (columnReport rows)) 0 rows = some view.text :=
    gridText_of_frameCell (hsame.symm.trans hview)
  rw [gridText_scrolled_column] at hscrolled
  rw [gridText_decoded_column hpos hwrap hone, ← hscrolled] at hdecoded
  exact absurd hdecoded (by decide)

end column

/-- A glyph above an empty cell. -/
theorem scrolledGrid_agrees_column : PathsAgree ucs4ToUtf8 columnBase (columnScreen 1)
    (columnGrid 1) 1 (columnReport 1) :=
  scrolledGrid_agrees (scrolledDraw_column Nat.one_pos) (by decide +kernel)

/-- From `2 ^ 25` glyphs of 128 bytes on, the two paths differ in the empty cell. -/
theorem not_scrolledGrid_agrees : ¬ ∀ (tsmUcs4ToUtf8 : Nat → List UInt8) (base : PackedDrawContext)
    (screen : Screen) (grid : PackedGrid) (delta : Int) (calls : List DrawCall),
    ScrolledDraw tsmUcs4ToUtf8 base screen grid delta calls →
    PathsAgree tsmUcs4ToUtf8 base screen grid delta calls := by
  intro h
  have hpos : 0 < 33554432 := by decide
  exact not_pathsAgree_column hpos (by decide) (by decide)
    (h _ _ _ _ _ _ (scrolledDraw_column hpos))

end SakuraTerminal.Core
