import SakuraTerminal.Core.ReportedCells

/-!
# Resets of the age counter

When libtsm's age counter has wrapped, a draw returns 0. `TakePackedFrame` then marks the frame as a
full repaint of the whole grid, but the cells were filtered during the draw, by comparing their ages
from after the wrap with the age from before it. The frame shows the screen exactly if every cell
that the filter skipped is shown by the cache already (`showsReset_iff`); a cell that changed and
got a small age is skipped all the same (`not_showsReset`).

The two halves of a reset do not know of each other. The callback compares the age of a cell with
the age of the last draw while the draw goes on, and only afterwards does its return value say that
the counter was reset. A cell whose age restarted at a small number is skipped by that comparison,
and the full repaint that follows paints what the cache has for it. Whether that is the displayed
cell depends on the state before the draw and on the calls, which is what `SkippedCellsShown`
states.
-/

set_option autoImplicit false

namespace SakuraTerminal.Core

open SakuraTerminal.Foundations SakuraTerminal.Foundations.InternTable

/-- A frame that repaints the whole grid and shows the screen. The first two fields hold after every
reset (`takenRegion_reset`); the third is the one that depends on the draw. -/
structure ShowsReset (tsmUcs4ToUtf8 : Nat → List UInt8) (screen : Screen) (frame : PackedFrame) :
    Prop where
  fullRepaint : frame.fullRepaint = true
  dirty : frame.dirty = wholeGrid screen.width screen.height
  decodes : DecodesViewport tsmUcs4ToUtf8 screen frame

/-- Every cell that the callback skips is shown by the grid that is drawn into. It is a condition on
the cache and on libtsm's calls: the frame that is returned does not occur in it. -/
def SkippedCellsShown (tsmUcs4ToUtf8 : Nat → List UInt8) (impl : Impl) (screen : Screen)
    (draw : Draw) : Prop :=
  ∀ call ∈ draw.calls, call.column < screen.width → call.row < screen.height →
    reportsChange (drawContext impl screen) call = false →
    frameCell (gridFrame (drawGrid impl screen)) call.column call.row =
      some (decodeCell tsmUcs4ToUtf8 call.cell)

/-- The styles of the cells of a screen. A style counts once, however many cells have it. -/
def screenStyles (screen : Screen) : Finset PackedStyle :=
  (Finset.range screen.width ×ˢ Finset.range screen.height).image fun position =>
    packedStyleFor (screen.cell position.1 position.2).attr

/-- The style table has no style twice, and it has room for the styles of the screen. A style that
comes when the table is full is refused, which is another defect than the one of this module. -/
structure StylesFit (impl : Impl) (screen : Screen) : Prop where
  nodup : (cachedGrid impl).styles.Nodup
  room : ((cachedGrid impl).styles.toFinset ∪ screenStyles screen).card < 65535

/-! ## Texts of a frame that shows the screen -/

/-- A view's text is as long as its cell says. -/
theorem length_of_frameCell {frame : PackedFrame} {column row : Nat} {view : CellView}
    (h : frameCell frame column row = some view) {source : PackedRow}
    (hsource : frame.grid.rowData[row]? = some source) :
    ∃ cell, source.cells[column]? = some cell ∧ cell.textLength = view.text.length := by
  rw [frameCell] at h
  split at h
  · rw [hsource] at h
    dsimp only at h
    cases hcell : source.cells[column]? with
    | none => simp [hcell] at h
    | some cell =>
      simp only [hcell, cellView] at h
      split at h
      · contradiction
      · split at h
        case isTrue hbounds =>
          cases h
          exact ⟨cell, rfl, (length_slice (textInBounds_iff.1 hbounds)).symm⟩
        case isFalse => contradiction
  · contradiction

section reset

variable {tsmUcs4ToUtf8 : Nat → List UInt8} {screen : Screen}

/-- If a frame shows the screen, its row texts stay below 4 GiB as those of the screen do. -/
theorem ReportedDraw.textBelow4GiB_of_frameCell {start context : PackedDrawContext}
    {calls : List DrawCall} (h : ReportedDraw tsmUcs4ToUtf8 screen start calls context)
    (hbytes : viewportBytes tsmUcs4ToUtf8 screen < 4294967296)
    (hshown : ∀ column < screen.width, ∀ row < screen.height,
      frameCell (gridFrame (rebuiltGrid context)) column row =
        some (decodeCell tsmUcs4ToUtf8 (screen.cell column row))) :
    TextBelow4GiB (rebuiltGrid context) := by
  intro source hsource
  rcases rebuildPackedRows_text_length h.layout (h.changedText_lt hbytes) hsource with hlt | hsum
  · exact hlt
  · obtain ⟨row, hat⟩ := List.mem_iff_getElem?.1 hsource
    have hrow : row < screen.height := by
      have hlt := (List.getElem?_eq_some_iff.1 hat).1
      rwa [rebuiltGrid, rebuildPackedRows_length, h.length] at hlt
    -- every cell is as long as the text that is shown
    have hlengths : source.cells.map PackedCell.textLength =
        (List.range screen.width).map fun column =>
          (cellBytes tsmUcs4ToUtf8 (screen.cell column row)).length := by
      have hcells : source.cells.length = screen.width := by
        rw [← h.columns]
        rcases rebuildPackedRows_mem hsource with hold | hnew
        · exact (h.layout source hold).columns
        · exact hnew.1
      apply List.ext_getElem
      · rw [List.length_map, List.length_map, List.length_range, hcells]
      · intro column hleft _
        have hcolumn : column < screen.width := by
          rwa [List.length_map, hcells] at hleft
        obtain ⟨cell, hcell, hlength⟩ :=
          length_of_frameCell (hshown column hcolumn row hrow) hat
        obtain ⟨hlt, rfl⟩ := List.getElem?_eq_some_iff.1 hcell
        rw [List.getElem_map, List.getElem_map, List.getElem_range, hlength]
        rfl
    have hle := rowBytes_le_viewportBytes tsmUcs4ToUtf8 screen hrow
    rw [List.length_flatMap, ← hlengths, ← hsum] at hle
    omega

variable {impl : Impl} {draw : Draw}

/-- A style of the screen is found where its index says. -/
theorem StylesFit.getElem? (hstyles : StylesFit impl screen)
    (h : CompleteDraw tsmUcs4ToUtf8 impl screen draw) {call : DrawCall} (hcall : call ∈ draw.calls)
    (hcolumn : call.column < screen.width) (hrow : call.row < screen.height) {index : Nat}
    (hstands : Stands styleLimit
      (drawPass tsmUcs4ToUtf8 (drawContext impl screen) draw.calls).grid.styles index
      (packedStyleFor call.cell.attr)) :
    (drawPass tsmUcs4ToUtf8 (drawContext impl screen) draw.calls).grid.styles[index]? =
      some (packedStyleFor call.cell.attr) := by
  have hmem : ∀ column < screen.width, ∀ row < screen.height,
      packedStyleFor (screen.cell column row).attr ∈
        (cachedGrid impl).styles.toFinset ∪ screenStyles screen := by
    intro column hcolumn row hrow
    apply Finset.mem_union_right
    rw [screenStyles, Finset.mem_image]
    exact ⟨(column, row), Finset.mem_product.2
      ⟨Finset.mem_range.2 hcolumn, Finset.mem_range.2 hrow⟩, rfl⟩
  have hcached : StylesAmong ((cachedGrid impl).styles.toFinset ∪ screenStyles screen)
      (cachedGrid impl).styles := by
    refine ⟨hstyles.nodup, fun style hstyle => ?_⟩
    apply Finset.mem_insert_of_mem
    apply Finset.mem_union_left
    exact List.mem_toFinset.2 hstyle
  have htaken : StylesAmong ((cachedGrid impl).styles.toFinset ∪ screenStyles screen)
      (takenGrid tsmUcs4ToUtf8 impl screen draw).styles :=
    hcached.takenGrid h.table h.reports.current hmem
  rw [takenGrid_eq, rebuildPackedRows_styles] at htaken
  apply htaken.getElem? hstyles.room _ hstands
  rw [h.reports.current call hcall hcolumn hrow]
  exact hmem _ hcolumn _ hrow

/-- A frame after a reset is marked as a full repaint, whatever was drawn. This is the branch of
`TakePackedFrame` for a draw that returned 0. -/
theorem takenRegion_reset (hage : draw.age = 0) :
    (takenRegion tsmUcs4ToUtf8 impl screen draw).fullRepaint = true ∧
      (takenRegion tsmUcs4ToUtf8 impl screen draw).dirty =
        wholeGrid screen.width screen.height := by
  simp [takenRegion, finishRegion, hage]

/-- A call for a cell of the screen is looked at if its age asks for it. -/
theorem accepts_drawContext (impl : Impl) {screen : Screen} {call : DrawCall}
    (hcolumn : call.column < screen.width) (hrow : call.row < screen.height)
    (hreports : reportsChange (drawContext impl screen) call = true) :
    Accepts (drawContext impl screen) call := by
  refine ⟨?_, ?_, hreports⟩
  · exact hcolumn.trans_eq (drawGrid_columns impl screen).symm
  · exact hrow.trans_eq (drawGrid_rows impl screen).symm

/-- What a frame with every cell reported shows, if its texts stay below 4 GiB. -/
theorem CompleteDraw.frameCell (h : CompleteDraw tsmUcs4ToUtf8 impl screen draw)
    (hstyles : StylesFit impl screen)
    (hbytes : viewportBytes tsmUcs4ToUtf8 screen < 4294967296)
    (hbelow : TextBelow4GiB
      (rebuiltGrid (drawPass tsmUcs4ToUtf8 (drawContext impl screen) draw.calls)))
    {call : DrawCall} (hcall : call ∈ draw.calls) (hcolumn : call.column < screen.width)
    (hrow : call.row < screen.height) :
    Core.frameCell (takePackedFrame tsmUcs4ToUtf8 impl screen draw) call.column call.row =
      if reportsChange (drawContext impl screen) call = true then
        some (decodeCell tsmUcs4ToUtf8 call.cell)
      else Core.frameCell (gridFrame (drawGrid impl screen)) call.column call.row := by
  rw [h.frameCell_takePackedFrame]
  split
  case isTrue hreports =>
    have haccepts := accepts_drawContext impl hcolumn hrow hreports
    exact h.reportedDraw.frameCell_accepted hbytes hbelow hcall haccepts
      fun index hstands => hstyles.getElem? h hcall hcolumn hrow hstands
  case isFalse hreports =>
    exact h.reportedDraw.frameCell_skipped hbelow hcall hcolumn hrow fun haccepts =>
      hreports haccepts.2.2

/-- After a reset the frame shows the screen exactly if the skipped cells were shown before. -/
theorem showsReset_iff (h : CompleteDraw tsmUcs4ToUtf8 impl screen draw) (hage : draw.age = 0)
    (hstyles : StylesFit impl screen)
    (hbytes : viewportBytes tsmUcs4ToUtf8 screen < 4294967296) :
    ShowsReset tsmUcs4ToUtf8 screen (takePackedFrame tsmUcs4ToUtf8 impl screen draw) ↔
      SkippedCellsShown tsmUcs4ToUtf8 impl screen draw := by
  constructor
  · intro hshows call hcall hcolumn hrow hskipped
    have hcell := hshows.decodes.cells call.column hcolumn call.row hrow
    have hbelow : TextBelow4GiB
        (rebuiltGrid (drawPass tsmUcs4ToUtf8 (drawContext impl screen) draw.calls)) := by
      apply h.reportedDraw.textBelow4GiB_of_frameCell hbytes
      intro column hcolumn row hrow
      rw [← h.frameCell_takePackedFrame]
      exact hshows.decodes.cells column hcolumn row hrow
    rw [h.frameCell hstyles hbytes hbelow hcall hcolumn hrow, if_neg (by simp [hskipped]),
      ← h.reports.current call hcall hcolumn hrow] at hcell
    exact hcell
  · intro hskipped
    have hbelow := h.reportedDraw.textBelow4GiB hbytes fun call hcall hcolumn hrow hnot => by
      have hreports : reportsChange (drawContext impl screen) call = false :=
        Bool.eq_false_iff.2 fun hreports => hnot (accepts_drawContext impl hcolumn hrow hreports)
      exact gridText_of_frameCell (hskipped call hcall hcolumn hrow hreports)
    obtain ⟨hfull, hdirty⟩ := @takenRegion_reset tsmUcs4ToUtf8 screen impl draw hage
    refine ⟨hfull, hdirty, rfl, rfl, fun column hcolumn row hrow => ?_⟩
    obtain ⟨call, hcall, rfl, rfl⟩ := h.reports.all column hcolumn row hrow
    rw [h.frameCell hstyles hbytes hbelow hcall hcolumn hrow,
      ← h.reports.current call hcall hcolumn hrow]
    split
    · rfl
    · rename_i hreports
      exact hskipped call hcall hcolumn hrow (by simpa using hreports)

end reset

/-! ## A cell that changes after the wrap -/

/-- A screen of one cell. -/
def cellScreen (codepoint : Nat) : Screen where
  width := 1
  height := 1
  widthPos := Nat.one_pos
  widthLt := one_lt_unsigned
  heightPos := Nat.one_pos
  cell := fun _ _ => { codepoints := [codepoint] }
  rowId := fun row => row

/-- A draw that reports the cell with an age, and what the draw returns. -/
def cellDraw (codepoint cellAge age : Nat) : Draw where
  calls := [⟨{ codepoints := [codepoint] }, 0, 0, cellAge⟩]
  age := age

/-- After a first frame that shows an `A`, whose draw returned 10. -/
def cellImpl : Impl :=
  afterTake ucs4ToUtf8 (newImpl (cellScreen 65)) (cellScreen 65) (cellDraw 65 10 10)

/-- The draw reports its one cell, whatever the age it gives it. -/
theorem completeDraw_cell {codepoint : Nat}
    (hfit : (cellBytes ucs4ToUtf8 { codepoints := [codepoint] }).length ≤ 128) (cellAge age : Nat) :
    CompleteDraw ucs4ToUtf8 cellImpl (cellScreen codepoint) (cellDraw codepoint cellAge age) := by
  have hempty : GridReachable ucs4ToUtf8 (cachedGrid (newImpl (cellScreen 65))) := .empty
  have hgrid : GridReachable ucs4ToUtf8 (cachedGrid cellImpl) := by
    apply hempty.takenGrid
    exact (by decide : TextBelow4GiB (takenGrid ucs4ToUtf8 (newImpl (cellScreen 65))
      (cellScreen 65) (cellDraw 65 10 10)))
  constructor
  case table => exact hgrid.invariant.table
  case layout => exact hgrid.invariant.layout
  case reports =>
    constructor
    case once => exact List.nodup_singleton _
    case all =>
      intro column hcolumn row hrow
      obtain rfl : column = 0 := Nat.lt_one_iff.1 hcolumn
      obtain rfl : row = 0 := Nat.lt_one_iff.1 hrow
      exact ⟨_, List.mem_cons_self, rfl, rfl⟩
    case current =>
      intro call hcall _ _
      rw [List.mem_singleton.1 hcall]
      rfl
  case fit =>
    intro call hcall
    rw [List.mem_singleton.1 hcall]
    exact hfit

theorem stylesFit_cell (codepoint : Nat) : StylesFit cellImpl (cellScreen codepoint) where
  nodup := by decide
  room := by
    have hscreen : screenStyles (cellScreen codepoint) = screenStyles (cellScreen 0) := rfl
    rw [hscreen]
    decide

/-- The cell is skipped, but the cache has it. -/
theorem showsReset_iff_unchanged : ShowsReset ucs4ToUtf8 (cellScreen 65)
    (takePackedFrame ucs4ToUtf8 cellImpl (cellScreen 65) (cellDraw 65 3 0)) := by
  refine (showsReset_iff (completeDraw_cell (by decide) 3 0) rfl (stylesFit_cell 65) ?_).2 ?_
  · decide
  · intro call hcall _ _ _
    rw [List.mem_singleton.1 hcall]
    decide

/-- The cell became a `B` after the wrap, and the frame of the reset still shows the `A`. -/
theorem not_showsReset : ¬ ∀ (tsmUcs4ToUtf8 : Nat → List UInt8) (impl : Impl) (screen : Screen)
    (draw : Draw), CompleteDraw tsmUcs4ToUtf8 impl screen draw → draw.age = 0 →
    StylesFit impl screen → viewportBytes tsmUcs4ToUtf8 screen < 4294967296 →
    ShowsReset tsmUcs4ToUtf8 screen (takePackedFrame tsmUcs4ToUtf8 impl screen draw) := by
  intro h
  have hbytes : viewportBytes ucs4ToUtf8 (cellScreen 66) < 4294967296 := by decide
  have hshows := h ucs4ToUtf8 cellImpl _ _ (completeDraw_cell (by decide) 3 0) rfl
    (stylesFit_cell 66) hbytes
  have hcell := hshows.decodes.cells 0 Nat.one_pos 0 Nat.one_pos
  revert hcell
  decide

end SakuraTerminal.Core
