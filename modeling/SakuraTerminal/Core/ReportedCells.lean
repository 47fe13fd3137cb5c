import SakuraTerminal.Core.FullDecode

/-!
# Draws that report every cell

In some draws libtsm reports each cell of the screen once (`ReportsCells`). The callback looks at
those calls that its age filter lets through. `ReportedDraw` collects what such a draw assumes; a
position whose call was looked at shows the reported cell afterwards (`ReportedDraw.rebuilt`,
`ReportedDraw.frameCell_accepted`), and one whose call was skipped shows what the grid had
(`ReportedDraw.frameCell_skipped`). Row texts stay below 4 GiB if the texts of the screen do and the
skipped cells have theirs already (`ReportedDraw.textBelow4GiB`).

A complete draw is what libtsm performs when its age filter is off, as on a first draw or after a
reset of the age counter. Its calls then come in the order of the screen, one for each cell, and the
only reason for the grid to keep an old cell is that the callback's own filter skipped the call. The
results of this module therefore come in pairs, one for each answer of the filter, and what they
leave to their users is which of the two answers a call got.

The modules on row texts and on resets of the age counter are both built on `CompleteDraw`, which is
the same assumption about the draw of a whole frame.
-/

set_option autoImplicit false

namespace SakuraTerminal.Core

open SakuraTerminal.Foundations SakuraTerminal.Foundations.InternTable

/-- Each cell of the screen is reported exactly once, as it is displayed. A position outside of
the screen may be reported too; `current` says nothing of it, and `FitsScreen` keeps it out of
the grid. -/
structure ReportsCells (screen : Screen) (calls : List DrawCall) : Prop where
  once : (calls.map fun call => (call.column, call.row)).Nodup
  all : ∀ column < screen.width, ∀ row < screen.height, ∃ call ∈ calls,
    call.column = column ∧ call.row = row
  current : ∀ call ∈ calls, call.column < screen.width → call.row < screen.height →
    call.cell = screen.cell call.column call.row

/-- A grid that a screen is drawn into. It has the size of the screen and a valid style table, and
its rows are laid out, so that every position of the screen has a cell to compare with. -/
structure FitsScreen (screen : Screen) (grid : PackedGrid) : Prop where
  columns : grid.columns = screen.width
  rows : grid.rows = screen.height
  table : GridTable grid
  layout : GridLayout grid

/-- Every position of the screen has a cell, with a text and a style. -/
theorem FitsScreen.exists_cell {screen : Screen} {grid : PackedGrid} (h : FitsScreen screen grid)
    {column row : Nat} (hcolumn : column < screen.width) (hrow : row < screen.height) :
    ∃ cell text style, gridCell grid column row = some cell ∧
      gridText grid column row = some text ∧ grid.styles[cell.styleIndex]? = some style := by
  have hlt : row < grid.rowData.length := by
    rw [h.table.rows, h.rows]
    exact hrow
  obtain ⟨cell, text, hcell, htext, hstyle⟩ :=
    h.layout.exists_cell (hcolumn.trans_eq h.columns.symm) hlt
  exact ⟨cell, text, _, hcell, htext, List.getElem?_eq_getElem hstyle⟩

/-- A frame that shows a grid. The views read only the grid and its size, so the remaining fields
may be anything; here they are what a new frame has. -/
def gridFrame (grid : PackedGrid) : PackedFrame where
  columns := grid.columns
  rows := grid.rows
  grid := grid

/-- The rows of a context after `RebuildPackedRows`. This is the grid that `TakePackedFrame` puts
into the frame it returns. -/
def rebuiltGrid (context : PackedDrawContext) : PackedGrid :=
  rebuildPackedRows context.grid context.changedCells context.changedText

/-- The view of a cell depends on the grid and its size only. -/
theorem frameCell_gridFrame {frame : PackedFrame} (hcolumns : frame.columns = frame.grid.columns)
    (hrows : frame.rows = frame.grid.rows) (column row : Nat) :
    frameCell (gridFrame frame.grid) column row = frameCell frame column row := by
  simp only [frameCell, gridFrame]
  rw [hcolumns, hrows]
  rfl

/-- The draw begins without collected texts and reports every cell of a screen that fits the grid;
the texts fit the callback's buffer. -/
structure ReportedDraw (tsmUcs4ToUtf8 : Nat → List UInt8) (screen : Screen)
    (start : PackedDrawContext) (calls : List DrawCall) (context : PackedDrawContext) : Prop where
  reports : ReportsCells screen calls
  grid : FitsScreen screen start.grid
  begun : start.changedText = []
  drawn : DrawnSince tsmUcs4ToUtf8 start calls context
  fit : ∀ call ∈ calls, (cellBytes tsmUcs4ToUtf8 call.cell).length ≤ 128

section reported

variable {tsmUcs4ToUtf8 : Nat → List UInt8} {screen : Screen} {start context : PackedDrawContext}
  {calls : List DrawCall} {call : DrawCall}

theorem ReportedDraw.columns (h : ReportedDraw tsmUcs4ToUtf8 screen start calls context) :
    context.grid.columns = screen.width :=
  h.drawn.setting.columns.trans h.grid.columns

theorem ReportedDraw.length (h : ReportedDraw tsmUcs4ToUtf8 screen start calls context) :
    context.grid.rowData.length = screen.height := by
  rw [h.drawn.setting.rowData]
  exact h.grid.table.rows.trans h.grid.rows

theorem ReportedDraw.layout (h : ReportedDraw tsmUcs4ToUtf8 screen start calls context) :
    GridLayout context.grid := h.grid.layout.drawn h.drawn

theorem ReportedDraw.nodup (h : ReportedDraw tsmUcs4ToUtf8 screen start calls context) :
    (context.changedCells.map fun change => (change.column, change.row)).Nodup :=
  h.drawn.positions.nodup h.reports.once

/-- A change is the change of the call at its position, which was looked at. -/
theorem ReportedDraw.records (h : ReportedDraw tsmUcs4ToUtf8 screen start calls context)
    (hcall : call ∈ calls) {change : PackedChangedCell} (hmem : change ∈ context.changedCells)
    (hcolumn : change.column = call.column) (hrow : change.row = call.row) :
    Accepts start call ∧ Records tsmUcs4ToUtf8 context call change := by
  obtain ⟨earlier, hearlier, haccepts, hrecords⟩ := h.drawn.recorded change hmem
  -- no other call is at this position
  have hsame : earlier = call := by
    apply List.inj_on_of_nodup_map h.reports.once hearlier hcall
    rw [← hrecords.column, ← hrecords.row, hcolumn, hrow]
  exact hsame ▸ ⟨haccepts, hrecords⟩

/-- A call that was looked at is recorded, or nothing is recorded there and the cache has its
cell. -/
theorem ReportedDraw.answered (h : ReportedDraw tsmUcs4ToUtf8 screen start calls context)
    (hcall : call ∈ calls) (haccepts : Accepts start call) :
    (∃ change ∈ context.changedCells, Records tsmUcs4ToUtf8 context call change) ∨
    (∀ change ∈ context.changedCells,
      ¬ (change.column = call.column ∧ change.row = call.row)) ∧
    FoundInCache tsmUcs4ToUtf8 context call := by
  by_cases hchange : ∃ change ∈ context.changedCells,
      change.column = call.column ∧ change.row = call.row
  · obtain ⟨change, hmem, hcolumn, hrow⟩ := hchange
    exact .inl ⟨change, hmem, (h.records hcall hmem hcolumn hrow).2⟩
  · have hno : ∀ change ∈ context.changedCells,
        ¬ (change.column = call.column ∧ change.row = call.row) :=
      fun change hmem hat => hchange ⟨change, hmem, hat⟩
    rcases h.drawn.answered call hcall haccepts with hrecorded | hfound | hnone
    · exact absurd hrecorded hchange
    · exact .inr ⟨hno, hfound⟩
    · rw [encodeText_of_length_le (h.fit call hcall)] at hnone
      contradiction

/-- Nothing is recorded where the call was skipped. -/
theorem ReportedDraw.skipped (h : ReportedDraw tsmUcs4ToUtf8 screen start calls context)
    (hcall : call ∈ calls) (hskipped : ¬ Accepts start call) :
    ∀ change ∈ context.changedCells, ¬ (change.column = call.column ∧ change.row = call.row) :=
  fun _ hmem hat => hskipped (h.records hcall hmem hat.1 hat.2).1

/-- The texts recorded stay below 4 GiB if those of the screen do. -/
theorem ReportedDraw.changedText_lt (h : ReportedDraw tsmUcs4ToUtf8 screen start calls context)
    (hbytes : viewportBytes tsmUcs4ToUtf8 screen < 4294967296) :
    context.changedText.length < 4294967296 := by
  have hlength := h.drawn.textLength
  have hcalls := callBytes_le_viewportBytes tsmUcs4ToUtf8 h.grid.columns h.grid.rows
    h.reports.once h.reports.current
  rw [h.begun, List.length_nil] at hlength
  omega

/-! ## Cells that were looked at -/

/-- After the rebuild a cell has the content of its call, and the text of its call too if the row
texts stay below 4 GiB. -/
theorem ReportedDraw.rebuilt (h : ReportedDraw tsmUcs4ToUtf8 screen start calls context)
    (hbytes : viewportBytes tsmUcs4ToUtf8 screen < 4294967296) (hcall : call ∈ calls)
    (haccepts : Accepts start call) :
    ∃ packed, gridCell (rebuiltGrid context) call.column call.row = some packed ∧
      ShowsCell context.grid.styles call.cell packed ∧
      (TextBelow4GiB (rebuiltGrid context) →
        gridText (rebuiltGrid context) call.column call.row =
          some (cellBytes tsmUcs4ToUtf8 call.cell)) := by
  have hcolumn : call.column < context.grid.columns :=
    haccepts.1.trans_eq h.drawn.setting.columns.symm
  rcases h.answered hcall haccepts with ⟨change, hmem, hrecords⟩ | ⟨hno, hfound⟩
  · have hrow : change.row < context.grid.rowData.length := by
      rw [h.length, ← h.grid.rows, hrecords.row]
      exact haccepts.2.1
    rw [← hrecords.column] at hcolumn
    obtain ⟨packed, hpacked, hsame, htext⟩ :=
      gridCell_rebuild_changed context.changedText h.nodup hmem hcolumn hrow
    rw [hrecords.column, hrecords.row] at hpacked htext
    refine ⟨packed, hpacked, hrecords.showsCell hsame, fun hbelow => ?_⟩
    rw [rebuiltGrid, htext hbelow]
    exact congrArg some (hrecords.text (h.changedText_lt hbytes)).2
  · obtain ⟨⟨cached, hcached, hshows⟩, htext⟩ := hfound.showsCell
    obtain ⟨packed, hpacked, hsame⟩ :=
      gridCell_rebuild_unchanged context.changedText hcolumn hno hcached
    refine ⟨packed, hpacked, hshows.growth (.refl _ _) hsame, fun hbelow => ?_⟩
    rw [rebuiltGrid, gridText_rebuild_unchanged h.layout hbelow hcolumn hno]
    exact htext

/-- Such a cell is viewed as it is displayed, if its style is in the table. -/
theorem ReportedDraw.frameCell_accepted (h : ReportedDraw tsmUcs4ToUtf8 screen start calls context)
    (hbytes : viewportBytes tsmUcs4ToUtf8 screen < 4294967296)
    (hbelow : TextBelow4GiB (rebuiltGrid context)) (hcall : call ∈ calls)
    (haccepts : Accepts start call)
    (hstyle : ∀ index, Stands styleLimit context.grid.styles index
      (packedStyleFor call.cell.attr) →
        context.grid.styles[index]? = some (packedStyleFor call.cell.attr)) :
    frameCell (gridFrame (rebuiltGrid context)) call.column call.row =
      some (decodeCell tsmUcs4ToUtf8 call.cell) := by
  obtain ⟨packed, hpacked, hshows, htext⟩ := h.rebuilt hbytes hcall haccepts
  have hlayout : GridLayout (rebuiltGrid context) := by
    apply h.layout.rebuild _ h.drawn.change_lt hbelow
    exact Nat.lt_of_le_of_lt (Nat.zero_le _) hshows.style.lt_length
  have hrow : call.row < (gridFrame (rebuiltGrid context)).rows := by
    change call.row < (rebuiltGrid context).rows
    rw [rebuiltGrid, rebuildPackedRows_rows, h.drawn.setting.rows]
    exact haccepts.2.1
  have hfound : (rebuiltGrid context).styles[packed.styleIndex]? =
      some (packedStyleFor call.cell.attr) := by
    rw [rebuiltGrid, rebuildPackedRows_styles]
    exact hstyle _ hshows.style
  rw [frameCell_of_grid hlayout rfl hrow hpacked (htext hbelow) hfound, hshows.codepoint,
    hshows.width]
  rfl

/-! ## Cells that were skipped -/

/-- A skipped call leaves the text of the grid. -/
theorem ReportedDraw.gridText_skipped (h : ReportedDraw tsmUcs4ToUtf8 screen start calls context)
    (hbelow : TextBelow4GiB (rebuiltGrid context)) (hcall : call ∈ calls)
    (hcolumn : call.column < screen.width) (hskipped : ¬ Accepts start call) :
    gridText (rebuiltGrid context) call.column call.row =
      gridText start.grid call.column call.row := by
  rw [← h.columns] at hcolumn
  rw [rebuiltGrid, gridText_rebuild_unchanged h.layout hbelow hcolumn (h.skipped hcall hskipped),
    gridText, h.drawn.setting.rowData, gridText]

/-- And its view. -/
theorem ReportedDraw.frameCell_skipped (h : ReportedDraw tsmUcs4ToUtf8 screen start calls context)
    (hbelow : TextBelow4GiB (rebuiltGrid context)) (hcall : call ∈ calls)
    (hcolumn : call.column < screen.width) (hrow : call.row < screen.height)
    (hskipped : ¬ Accepts start call) :
    frameCell (gridFrame (rebuiltGrid context)) call.column call.row =
      frameCell (gridFrame start.grid) call.column call.row := by
  obtain ⟨cell, text, style, hcell, htext, hstyle⟩ := h.grid.exists_cell hcolumn hrow
  have hgrowth := h.drawn.growth.isPrefix
  have hcontext : gridCell context.grid call.column call.row = some cell := by
    rw [gridCell, h.drawn.setting.rowData]
    exact hcell
  obtain ⟨packed, hpacked, hsame⟩ := gridCell_rebuild_unchanged context.changedText
    (hcolumn.trans_eq h.columns.symm) (h.skipped hcall hskipped) hcontext
  obtain ⟨hlt, hget⟩ := List.getElem?_eq_some_iff.1 hstyle
  -- the table only grew, so the index of the cell stands for the same style
  have hafter : (rebuiltGrid context).styles[packed.styleIndex]? = some style := by
    rw [rebuiltGrid, rebuildPackedRows_styles, hsame.styleIndex,
      List.getElem?_eq_getElem (hlt.trans_le hgrowth.length_le), ← hgrowth.getElem hlt, hget]
  have hlayout : GridLayout (rebuiltGrid context) := by
    apply h.layout.rebuild _ h.drawn.change_lt hbelow
    exact (Nat.lt_of_le_of_lt (Nat.zero_le _) hlt).trans_le hgrowth.length_le
  have hrows : call.row < (rebuiltGrid context).rows := by
    rw [rebuiltGrid, rebuildPackedRows_rows, h.drawn.setting.rows, h.grid.rows]
    exact hrow
  have htextAfter := (h.gridText_skipped hbelow hcall hcolumn hskipped).trans htext
  rw [frameCell_of_grid hlayout rfl hrows hpacked htextAfter hafter,
    frameCell_of_grid h.grid.layout rfl (hrow.trans_eq h.grid.rows.symm) hcell htext hstyle,
    hsame.codepoint, hsame.width]

/-! ## Texts -/

/-- If the skipped cells have their texts already, the texts of a rebuilt row are those of the
screen's row, so they stay below 4 GiB. Offsets into a row text are stored in 32 bits, so this is
what makes the texts of the views readable. -/
theorem ReportedDraw.textBelow4GiB (h : ReportedDraw tsmUcs4ToUtf8 screen start calls context)
    (hbytes : viewportBytes tsmUcs4ToUtf8 screen < 4294967296)
    (hkept : ∀ call ∈ calls, call.column < screen.width → call.row < screen.height →
      ¬ Accepts start call → gridText start.grid call.column call.row =
        some (cellBytes tsmUcs4ToUtf8 call.cell)) :
    TextBelow4GiB (rebuiltGrid context) := by
  intro source hsource
  obtain ⟨row, hat⟩ := List.mem_iff_getElem?.1 hsource
  have hrow : row < screen.height := by
    have hlt := (List.getElem?_eq_some_iff.1 hat).1
    rwa [rebuiltGrid, rebuildPackedRows_length, h.length] at hlt
  have htext : source.text = (List.range context.grid.columns).flatMap fun column =>
      cellBytes tsmUcs4ToUtf8 (screen.cell column row) := by
    apply rebuildPackedRows_text h.layout h.nodup hat
    · intro column hcolumn hno
      rw [h.columns] at hcolumn
      obtain ⟨call, hcall, rfl, rfl⟩ := h.reports.all column hcolumn row hrow
      rw [← h.reports.current call hcall hcolumn hrow]
      by_cases haccepts : Accepts start call
      · -- nothing is recorded here, so the text was found in the cache
        rcases h.answered hcall haccepts with ⟨change, hmem, hrecords⟩ | ⟨-, hfound⟩
        · exact absurd ⟨hrecords.column, hrecords.row⟩ (hno change hmem)
        · exact hfound.showsCell.2
      · rw [gridText, h.drawn.setting.rowData, ← gridText]
        exact hkept call hcall hcolumn hrow haccepts
    · rintro change hmem rfl hcolumn
      rw [h.columns] at hcolumn
      obtain ⟨call, hcall, -, hrecords⟩ := h.drawn.recorded change hmem
      rw [hrecords.column] at hcolumn
      rw [hrecords.row] at hrow
      rw [hrecords.column, hrecords.row, ← h.reports.current call hcall hcolumn hrow]
      exact (hrecords.text (h.changedText_lt hbytes)).2
  have hle := rowBytes_le_viewportBytes tsmUcs4ToUtf8 screen hrow
  rw [h.columns] at htext
  rw [← htext] at hle
  omega

/-- Then every cell has the text of the screen. -/
theorem ReportedDraw.gridText (h : ReportedDraw tsmUcs4ToUtf8 screen start calls context)
    (hbytes : viewportBytes tsmUcs4ToUtf8 screen < 4294967296)
    (hkept : ∀ call ∈ calls, call.column < screen.width → call.row < screen.height →
      ¬ Accepts start call → Core.gridText start.grid call.column call.row =
        some (cellBytes tsmUcs4ToUtf8 call.cell)) {column row : Nat}
    (hcolumn : column < screen.width) (hrow : row < screen.height) :
    Core.gridText (rebuiltGrid context) column row =
      some (cellBytes tsmUcs4ToUtf8 (screen.cell column row)) := by
  have hbelow := h.textBelow4GiB hbytes hkept
  obtain ⟨call, hcall, rfl, rfl⟩ := h.reports.all column hcolumn row hrow
  rw [← h.reports.current call hcall hcolumn hrow]
  by_cases haccepts : Accepts start call
  · obtain ⟨-, -, -, htext⟩ := h.rebuilt hbytes hcall haccepts
    exact htext hbelow
  · rw [h.gridText_skipped hbelow hcall hcolumn haccepts]
    exact hkept call hcall hcolumn hrow haccepts

end reported

/-! ## The draw of a frame -/

/-- A frame for which libtsm reports every cell; the cache is any grid with the row layout. Nothing
is assumed of what the cache shows, which may be any earlier screen. -/
structure CompleteDraw (tsmUcs4ToUtf8 : Nat → List UInt8) (impl : Impl) (screen : Screen)
    (draw : Draw) : Prop where
  table : GridTable (cachedGrid impl)
  layout : GridLayout (cachedGrid impl)
  reports : ReportsCells screen draw.calls
  fit : CallsFit tsmUcs4ToUtf8 draw

section take

variable {tsmUcs4ToUtf8 : Nat → List UInt8} {impl : Impl} {screen : Screen} {draw : Draw}

/-- The grid that is drawn into has the row layout, rotated or made anew. -/
theorem GridLayout.drawGrid (h : GridLayout (cachedGrid impl))
    (htable : GridTable (cachedGrid impl)) (screen : Screen) :
    GridLayout (drawGrid impl screen) := by
  have hensured := h.ensure htable screen.height screen.widthPos screen.widthLt
  unfold Core.drawGrid
  dsimp only
  split
  · apply hensured.rotate (htable.ensure _ _)
    · rw [ensurePackedGrid_columns]
      exact screen.widthPos
    · rw [ensurePackedGrid_columns]
      exact screen.widthLt
  · exact hensured

theorem CompleteDraw.reportedDraw (h : CompleteDraw tsmUcs4ToUtf8 impl screen draw) :
    ReportedDraw tsmUcs4ToUtf8 screen (drawContext impl screen) draw.calls
      (drawPass tsmUcs4ToUtf8 (drawContext impl screen) draw.calls) where
  reports := h.reports
  grid := ⟨drawGrid_columns impl screen, drawGrid_rows impl screen, h.table.drawGrid screen,
    h.layout.drawGrid h.table screen⟩
  begun := rfl
  drawn := (takeSpec h.table).drawn
  fit := h.fit

theorem takenGrid_eq_rebuiltGrid (tsmUcs4ToUtf8 : Nat → List UInt8) (impl : Impl)
    (screen : Screen) (draw : Draw) : takenGrid tsmUcs4ToUtf8 impl screen draw =
      rebuiltGrid (drawPass tsmUcs4ToUtf8 (drawContext impl screen) draw.calls) :=
  takenGrid_eq tsmUcs4ToUtf8 impl screen draw

/-- A frame is viewed as the grid it was given. -/
theorem CompleteDraw.frameCell_takePackedFrame (h : CompleteDraw tsmUcs4ToUtf8 impl screen draw)
    (column row : Nat) : frameCell (takePackedFrame tsmUcs4ToUtf8 impl screen draw) column row =
      frameCell (gridFrame (rebuiltGrid
        (drawPass tsmUcs4ToUtf8 (drawContext impl screen) draw.calls))) column row := by
  rw [← takenGrid_eq_rebuiltGrid]
  exact (frameCell_gridFrame (takenGrid_columns h.table).symm (takenGrid_rows h.table).symm
    column row).symm

end take

end SakuraTerminal.Core
