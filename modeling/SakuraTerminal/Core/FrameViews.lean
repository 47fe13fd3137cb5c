import SakuraTerminal.Core.RebuildRows
import SakuraTerminal.Core.PackedFrame

/-!
# Views of rows in the row layout

On a row in the row layout every accessor succeeds. `PartOfRun` describes the runs of the row and
the bounded spans alike: cells of one style with the text between the first and the last of them. A
view of such a part shows its cells (`RunView.Shows`), the span loop delivers parts that tile the
run (`packedRunSpansFrom_tiles`), and the loop over all runs tiles the row (`rowSpans_tiles`).

The first half of the module is for rows in the layout, the second for any rows: there a view may
fail, and what is said is that what was delivered tiles as much as it should. The renderer relies on
the second (`rowSpans_tiles_of_complete`), for it draws what it is given.
-/

set_option autoImplicit false

namespace SakuraTerminal.Core

open SakuraTerminal.Foundations

/-- The text `sakura_terminal_frame_cell` reports for a cell. A cell that cannot be read has
none. -/
def frameCellText (frame : PackedFrame) (column row : Nat) : List UInt8 :=
  ((frameCell frame column row).map CellView.text).getD []

/-- A run view shows its cells: they all report its style, and its text is theirs in order. This is
what a consumer that draws runs relies on instead of reading cells. -/
structure RunView.Shows (frame : PackedFrame) (row : Nat) (view : RunView) : Prop where
  rowIndex : view.row = row
  style : ∀ column, view.left ≤ column → column < view.left + view.cellCount →
    ∃ cell, frameCell frame column row = some cell ∧ cell.foreground = view.foreground ∧
      cell.background = view.background ∧ cell.attributes = view.attributes
  text : view.text =
    (List.range' view.left view.cellCount).flatMap fun column => frameCellText frame column row

/-- Adjacent cells of a row, of one style, with the text from the first to the last of them. A run
of the row is one, and so is every span that is cut from it. -/
structure PartOfRun (row : PackedRow) (part : PackedRun) : Prop where
  nonempty : 0 < part.cellCount
  right : part.left + part.cellCount ≤ row.cells.length
  style : ∀ column cell, part.left ≤ column → column < part.left + part.cellCount →
    row.cells[column]? = some cell → cell.styleIndex = part.styleIndex
  text : RunTextSpan (cellTexts row) part

theorem textInBounds_iff {text : List UInt8} {offset length : Nat} :
    textInBounds text offset length = true ↔ offset + length ≤ text.length := by
  simp only [textInBounds, Bool.and_eq_true, decide_eq_true_eq]
  omega

section row

variable {columns styleCount : Nat} {row : PackedRow} {part : PackedRun}

/-- The runs of a row are parts of themselves. -/
theorem RowLayout.partOfRun (h : RowLayout columns styleCount row) {run : PackedRun}
    (hrun : run ∈ row.runs) : PartOfRun row run where
  nonempty := (h.runs.tile.bounds hrun).2.1
  right := (h.runs.tile.bounds hrun).2.2
  style := h.runs.style run hrun
  text := h.runText run hrun

/-- No text check fails on a part. -/
theorem PartOfRun.textInBounds (hpart : PartOfRun row part) (h : RowLayout columns styleCount row) :
    Core.textInBounds row.text part.textOffset part.textLength = true := by
  have hle := offsetOf_le (cellTexts row) (part.left + part.cellCount)
  rw [← h.text] at hle
  rw [textInBounds_iff, hpart.text.2]
  exact hle

theorem PartOfRun.styleIndex_lt (hpart : PartOfRun row part)
    (h : RowLayout columns styleCount row) : part.styleIndex < styleCount := by
  have hlt : part.left < row.cells.length := by
    have := hpart.nonempty
    have := hpart.right
    omega
  have hstyle := hpart.style part.left _ le_rfl (by have := hpart.nonempty; omega)
    (List.getElem?_eq_getElem hlt)
  rw [← hstyle]
  exact h.styles _ (List.getElem_mem hlt)

/-- The text of a part is the text of its cells. -/
theorem PartOfRun.slice_text (hpart : PartOfRun row part) (h : RowLayout columns styleCount row) :
    slice row.text part.textOffset part.textLength =
      (((cellTexts row).drop part.left).take part.cellCount).flatten := by
  obtain ⟨ho, he⟩ := hpart.text
  have hlen : part.textLength = offsetOf (cellTexts row) (part.left + part.cellCount) -
      offsetOf (cellTexts row) part.left := by omega
  rw [← slice_flatten, ← h.text, ho, hlen]

end row

/-! ## Cells and runs of a frame -/

section frame

variable {frame : PackedFrame} {row : Nat} {source : PackedRow}

/-- The frame reads this row, and the row has the row layout. -/
structure ShowsRow (frame : PackedFrame) (row : Nat) (source : PackedRow) : Prop where
  lt : row < frame.rows
  row : frame.grid.rowData[row]? = some source
  layout : RowLayout frame.columns frame.grid.styles.length source

theorem ShowsRow.frameRow (h : ShowsRow frame row source) : frameRow frame row = some source := by
  rw [Core.frameRow, if_pos h.lt, h.row]

/-- `sakura_terminal_frame_cell` reports the cell with its text. -/
theorem ShowsRow.frameCell (h : ShowsRow frame row source) {column : Nat} {cell : PackedCell}
    (hcell : source.cells[column]? = some cell) :
    ∃ style, frame.grid.styles[cell.styleIndex]? = some style ∧
      frameCell frame column row = some
        { codepoint := cell.codepoint
          text := cellText source cell
          width := cell.width.toNat
          foreground := style.foreground
          background := style.background
          attributes := style.attributes } := by
  have hcolumn : column < frame.columns := by
    rw [← h.layout.columns]
    exact (List.getElem?_eq_some_iff.1 hcell).1
  have hstyle := h.layout.styles cell (List.mem_of_getElem? hcell)
  refine ⟨_, List.getElem?_eq_getElem hstyle, ?_⟩
  rw [Core.frameCell, if_pos ⟨hcolumn, h.lt⟩, h.row]
  simp only [hcell, cellView, List.getElem?_eq_getElem hstyle, h.layout.textInBounds hcell,
    if_true, cellText]

/-- The text that is reported is the text of the cell in the row. -/
theorem ShowsRow.frameCellText (h : ShowsRow frame row source) {column : Nat}
    (hcolumn : column < (cellTexts source).length) :
    frameCellText frame column row = (cellTexts source)[column] := by
  have hlt : column < source.cells.length := by simpa [cellTexts] using hcolumn
  obtain ⟨style, -, hview⟩ := h.frameCell (List.getElem?_eq_getElem hlt)
  rw [Core.frameCellText, hview]
  simp [cellTexts]

/-- The view of a cell from its content, its text and its style in the grid. -/
theorem frameCell_of_grid (hlayout : GridLayout frame.grid)
    (hcolumns : frame.columns = frame.grid.columns) (hrow : row < frame.rows) {column : Nat}
    {cell : PackedCell} (hcell : gridCell frame.grid column row = some cell) {text : List UInt8}
    (htext : gridText frame.grid column row = some text) {style : PackedStyle}
    (hstyle : frame.grid.styles[cell.styleIndex]? = some style) :
    Core.frameCell frame column row = some
      { codepoint := cell.codepoint
        text := text
        width := cell.width.toNat
        foreground := style.foreground
        background := style.background
        attributes := style.attributes } := by
  rw [gridCell] at hcell
  rw [gridText] at htext
  cases hsource : frame.grid.rowData[row]? with
  | none => simp [hsource] at hcell
  | some source =>
    rw [hsource, Option.bind_some] at hcell htext
    rw [hcell, Option.map_some, Option.some.injEq] at htext
    have hshows : ShowsRow frame row source := by
      refine ⟨hrow, hsource, ?_⟩
      rw [hcolumns]
      exact hlayout source (List.mem_of_getElem? hsource)
    obtain ⟨style', hstyle', hview⟩ := hshows.frameCell hcell
    rw [hstyle, Option.some.injEq] at hstyle'
    rw [hview, htext, hstyle']

/-- The text of a view is the text of the grid's cell. -/
theorem gridText_of_frameCell {column : Nat} {view : CellView}
    (h : Core.frameCell frame column row = some view) :
    gridText frame.grid column row = some view.text := by
  rw [Core.frameCell] at h
  split at h
  · rw [gridText]
    cases hsource : frame.grid.rowData[row]? with
    | none => simp [hsource] at h
    | some source =>
      cases hcell : source.cells[column]? with
      | none => simp [hsource, hcell] at h
      | some cell =>
        simp only [hsource, hcell, cellView] at h
        split at h
        · contradiction
        · split at h
          · cases h
            simp [hcell, cellText]
          · contradiction
  · contradiction

/-- The texts of adjacent cells, one after another. -/
theorem ShowsRow.flatMap_frameCellText (h : ShowsRow frame row source) {left cellCount : Nat}
    (hright : left + cellCount ≤ source.cells.length) :
    ((List.range' left cellCount).flatMap fun column => Core.frameCellText frame column row) =
      (((cellTexts source).drop left).take cellCount).flatten := by
  have hlen : (cellTexts source).length = source.cells.length := by simp [cellTexts]
  rw [List.flatMap_def]
  refine congrArg List.flatten (List.ext_getElem ?_ fun i h₁ h₂ => ?_)
  · simp only [List.length_take, List.length_drop, List.length_map, List.length_range']
    omega
  · have hi : i < cellCount := by simpa using h₁
    rw [List.getElem_map, List.getElem_range', Nat.one_mul, List.getElem_take, List.getElem_drop,
      h.frameCellText (by omega)]

/-- The view of a part of a run shows its cells. -/
theorem ShowsRow.fillPackedRunView (h : ShowsRow frame row source) {part : PackedRun}
    (hpart : PartOfRun source part) :
    ∃ view, fillPackedRunView frame.grid source row part = some view ∧
      view.left = part.left ∧ view.cellCount = part.cellCount ∧ view.Shows frame row := by
  have hstyle := hpart.styleIndex_lt h.layout
  have hview : Core.fillPackedRunView frame.grid source row part = some
      { row := row
        left := part.left
        cellCount := part.cellCount
        styleId := packedStyleId frame.grid.styles[part.styleIndex]
        text := slice source.text part.textOffset part.textLength
        foreground := frame.grid.styles[part.styleIndex].foreground
        background := frame.grid.styles[part.styleIndex].background
        attributes := frame.grid.styles[part.styleIndex].attributes } := by
    rw [Core.fillPackedRunView, List.getElem?_eq_getElem hstyle]
    simp only [hpart.textInBounds h.layout, if_true]
  refine ⟨_, hview, rfl, rfl, rfl, ?_, ?_⟩
  · -- every cell of the part has the style of the part
    intro column hleft hright
    have hlt : column < source.cells.length := Nat.lt_of_lt_of_le hright hpart.right
    have hcell := List.getElem?_eq_getElem hlt
    obtain ⟨style, hget, hview⟩ := h.frameCell hcell
    rw [hpart.style column _ hleft hright hcell, List.getElem?_eq_getElem hstyle,
      Option.some.injEq] at hget
    subst hget
    exact ⟨_, hview, rfl, rfl, rfl⟩
  · exact (hpart.slice_text h.layout).trans (h.flatMap_frameCellText hpart.right).symm

end frame

/-! ## Bounded spans -/

section spans

variable {columns styleCount : Nat} {row : PackedRow} {run : PackedRun}

/-- A span has no more cells than it may have, nor than are left of the run. -/
theorem spanCellCount_le (row : PackedRow) (source : PackedRun) (maxCells cellOffset : Nat) :
    spanCellCount row source maxCells cellOffset ≤ maxCells ∧
      spanCellCount row source maxCells cellOffset ≤ source.cellCount - cellOffset := by
  unfold spanCellCount
  dsimp only
  split <;> omega

/-- The span of some cells of a run is a part of the run. -/
theorem packedSpan_of_partOfRun (h : RowLayout columns styleCount row) (hrun : PartOfRun row run)
    {firstColumn cellCount : Nat} (hleft : run.left ≤ firstColumn) (hpos : 0 < cellCount)
    (hright : firstColumn + cellCount ≤ run.left + run.cellCount) :
    ∃ span, packedSpan row run firstColumn cellCount = some span ∧ span.left = firstColumn ∧
      span.cellCount = cellCount ∧ PartOfRun row span := by
  have hcells := hrun.right
  have hfirst : firstColumn < row.cells.length := by omega
  have hlast : firstColumn + cellCount - 1 < row.cells.length := by omega
  obtain ⟨hfo, -⟩ := h.offsets _ _ (List.getElem?_eq_getElem hfirst)
  obtain ⟨-, hle⟩ := h.offsets _ _ (List.getElem?_eq_getElem hlast)
  rw [show firstColumn + cellCount - 1 + 1 = firstColumn + cellCount by omega] at hle
  have hmono := offsetOf_mono (cellTexts row) (Nat.le_add_right firstColumn cellCount)
  have hbound := offsetOf_le (cellTexts row) (firstColumn + cellCount)
  rw [← h.text] at hbound
  have htext := h.bound
  -- the three failure exits of the loop: both cells' texts are in bounds, and the span's text ends
  -- after it begins
  have hchecks : Core.textInBounds row.text row.cells[firstColumn].textOffset
        row.cells[firstColumn].textLength ∧
      Core.textInBounds row.text row.cells[firstColumn + cellCount - 1].textOffset
        row.cells[firstColumn + cellCount - 1].textLength ∧
      row.cells[firstColumn].textOffset ≤ u32 (row.cells[firstColumn + cellCount - 1].textOffset +
        row.cells[firstColumn + cellCount - 1].textLength) := by
    refine ⟨h.textInBounds (List.getElem?_eq_getElem hfirst),
      h.textInBounds (List.getElem?_eq_getElem hlast), ?_⟩
    rw [u32_of_lt (by omega), hfo, hle]
    exact hmono
  have hspan : packedSpan row run firstColumn cellCount = some
      { left := firstColumn
        cellCount := cellCount
        styleIndex := run.styleIndex
        textOffset := row.cells[firstColumn].textOffset
        textLength := u32 (row.cells[firstColumn + cellCount - 1].textOffset +
          row.cells[firstColumn + cellCount - 1].textLength) -
            row.cells[firstColumn].textOffset } := by
    rw [packedSpan, List.getElem?_eq_getElem hfirst, List.getElem?_eq_getElem hlast]
    exact if_pos hchecks
  refine ⟨_, hspan, rfl, rfl, ?_⟩
  constructor
  · exact hpos
  · exact hright.trans hcells
  · intro column cell hl hr hcell
    exact hrun.style column cell (hleft.trans hl) (Nat.lt_of_lt_of_le hr hright) hcell
  · constructor
    · exact hfo
    · simp only
      rw [u32_of_lt (by omega)]
      omega

/-- The span loop from an offset on delivers views that tile the rest of the run. -/
theorem packedRunSpansFrom_tiles {frame : PackedFrame} {rowIndex : Nat}
    (hrow : ShowsRow frame rowIndex row) (hrun : PartOfRun row run) {maxCells : Nat}
    (hmax : 0 < maxCells) (cellOffset : Nat) (hoffset : cellOffset ≤ run.cellCount) :
    ∃ views, packedRunSpansFrom row run maxCells (fillPackedRunView frame.grid row rowIndex)
        cellOffset = (views, true) ∧
      Tiles RunView.left RunView.cellCount (run.left + cellOffset) views
        (run.left + run.cellCount) ∧
      ∀ view ∈ views, view.cellCount ≤ maxCells ∧ view.Shows frame rowIndex := by
  -- every turn takes at least one cell, so the number of cells left is the measure
  induction hleft : run.cellCount - cellOffset using Nat.strongRecOn generalizing cellOffset with
  | ind cellsLeft ih =>
    rw [packedRunSpansFrom]
    by_cases hlt : cellOffset < run.cellCount
    · rw [dif_pos hlt, dif_neg (by omega)]
      have hpos := spanCellCount_pos row run hmax hlt
      obtain ⟨hcount, hrest⟩ := spanCellCount_le row run maxCells cellOffset
      generalize spanCellCount row run maxCells cellOffset = cellCount at hpos hcount hrest ⊢
      -- the span is built, its view is filled, and the loop goes on after its cells
      obtain ⟨span, hspan, hspanLeft, hspanCount, hpart⟩ :=
        packedSpan_of_partOfRun hrow.layout hrun (Nat.le_add_right run.left cellOffset) hpos
          (by omega)
      obtain ⟨view, hview, hviewLeft, hviewCount, hshows⟩ := hrow.fillPackedRunView hpart
      obtain ⟨views, hviews, htiles, hall⟩ :=
        ih (run.cellCount - (cellOffset + cellCount)) (by omega) (cellOffset + cellCount)
          (by omega) rfl
      simp only [hspan, Option.bind_some, hview, hviews]
      refine ⟨view :: views, rfl, ⟨?_, ?_, ?_⟩, ?_⟩
      · rw [hviewLeft, hspanLeft]
      · rwa [hviewCount, hspanCount]
      · rw [hviewCount, hspanCount, Nat.add_assoc]
        exact htiles
      · intro v hv
        rcases List.mem_cons.1 hv with rfl | hv
        · rw [hviewCount, hspanCount]
          exact ⟨hcount, hshows⟩
        · exact hall v hv
    · rw [dif_neg hlt]
      refine ⟨[], rfl, ?_, by simp⟩
      change run.left + cellOffset = run.left + run.cellCount
      omega

/-- The spans of all runs tile the row. -/
theorem rowSpans_tiles {frame : PackedFrame} {rowIndex : Nat} (hrow : ShowsRow frame rowIndex row)
    {maxCells : Nat} (hmax : 0 < maxCells) {first last : Nat} {runs : List PackedRun}
    (hruns : ∀ run ∈ runs, PartOfRun row run)
    (htiles : Tiles PackedRun.left PackedRun.cellCount first runs last) :
    ∃ views, rowSpans frame.grid row rowIndex maxCells runs = (views, true) ∧
      Tiles RunView.left RunView.cellCount first views last ∧
      ∀ view ∈ views, view.cellCount ≤ max 2 maxCells ∧ view.Shows frame rowIndex := by
  induction runs generalizing first with
  | nil => exact ⟨[], rfl, htiles, by simp⟩
  | cons run runs ih =>
    obtain ⟨hleft, hpos, hrest⟩ := htiles
    have hrun := hruns run List.mem_cons_self
    obtain ⟨views, hviews, hviewTiles, hviewAll⟩ :=
      packedRunSpansFrom_tiles hrow hrun (show 0 < max 2 maxCells by omega) 0 (Nat.zero_le _)
    obtain ⟨rest, hrestViews, hrestTiles, hrestAll⟩ :=
      ih (fun r hr => hruns r (List.mem_cons_of_mem _ hr)) hrest
    -- the early exits of `ForEachPackedRunSpan` do not apply to a run of the row
    have hguard : ¬ (maxCells = 0 ∨ run.cellCount = 0 ∨ run.left ≥ row.cells.length ∨
        run.cellCount > row.cells.length - run.left) := by
      have := hrun.right
      omega
    rw [rowSpans, forEachPackedRunSpan, if_neg hguard, hviews]
    simp only [if_true, hrestViews]
    refine ⟨views ++ rest, rfl, ?_, ?_⟩
    · rw [tiles_append]
      rw [Nat.add_zero, hleft] at hviewTiles
      exact ⟨_, hviewTiles, hrestTiles⟩
    · intro view hview
      rcases List.mem_append.1 hview with hview | hview
      · exact hviewAll view hview
      · exact hrestAll view hview

end spans

/-! ## Spans of any row

What the loop delivers when it runs to its end, whether or not the texts can be read. -/

section complete

variable {grid : PackedGrid} {row : PackedRow} {rowIndex maxCells : Nat}

/-- A span has the cells it was asked for. -/
theorem packedSpan_bounds {source span : PackedRun} {firstColumn cellCount : Nat}
    (h : packedSpan row source firstColumn cellCount = some span) :
    span.left = firstColumn ∧ span.cellCount = cellCount := by
  unfold packedSpan at h
  split at h
  case h_1 =>
    split at h
    case isTrue =>
      cases h
      exact ⟨rfl, rfl⟩
    case isFalse => cases h
  case h_2 => cases h

theorem fillPackedRunView_bounds {source : PackedRun} {view : RunView}
    (h : fillPackedRunView grid row rowIndex source = some view) :
    view.left = source.left ∧ view.cellCount = source.cellCount := by
  unfold fillPackedRunView at h
  split at h
  case h_1 => cases h
  case h_2 =>
    split at h
    case isTrue =>
      cases h
      exact ⟨rfl, rfl⟩
    case isFalse => cases h

/-- The last turn of the loop. -/
theorem packedRunSpansFrom_last {β : Type} {source : PackedRun} {cellOffset : Nat}
    {callback : PackedRun → Option β} {delivered : β} (hoffset : cellOffset < source.cellCount)
    (hmax : maxCells ≠ 0)
    (hlast : cellOffset + spanCellCount row source maxCells cellOffset = source.cellCount)
    (hcallback : (packedSpan row source (source.left + cellOffset)
      (spanCellCount row source maxCells cellOffset)).bind callback = some delivered) :
    packedRunSpansFrom row source maxCells callback cellOffset = ([delivered], true) := by
  rw [packedRunSpansFrom, dif_pos hoffset, dif_neg hmax]
  dsimp only
  rw [hcallback, packedRunSpansFrom, hlast, dif_neg (Nat.lt_irrefl _)]

/-- A loop that runs to its end delivers views that tile the rest of the run. -/
theorem packedRunSpansFrom_tiles_of_complete {run : PackedRun} {cellOffset : Nat}
    (hoffset : cellOffset ≤ run.cellCount) {views : List RunView}
    (h : packedRunSpansFrom row run maxCells (fillPackedRunView grid row rowIndex) cellOffset =
      (views, true)) :
    Tiles RunView.left RunView.cellCount (run.left + cellOffset) views
      (run.left + run.cellCount) := by
  induction hleft : run.cellCount - cellOffset using Nat.strongRecOn
      generalizing cellOffset views with
  | ind cellsLeft ih =>
    rw [packedRunSpansFrom] at h
    by_cases hlt : cellOffset < run.cellCount
    · rw [dif_pos hlt] at h
      by_cases hzero : maxCells = 0
      · rw [dif_pos hzero] at h
        cases h
      · rw [dif_neg hzero] at h
        have hpos := spanCellCount_pos row run (Nat.pos_of_ne_zero hzero) hlt
        have hrest := (spanCellCount_le row run maxCells cellOffset).2
        dsimp only at h
        generalize spanCellCount row run maxCells cellOffset = cellCount at hpos hrest h
        cases hbind : (packedSpan row run (run.left + cellOffset) cellCount).bind
            (fillPackedRunView grid row rowIndex) with
        | none =>
          rw [hbind] at h
          cases h
        | some view =>
          rw [hbind] at h
          obtain ⟨span, hspan, hview⟩ := Option.bind_eq_some_iff.1 hbind
          obtain ⟨hspanLeft, hspanCount⟩ := packedSpan_bounds hspan
          obtain ⟨hviewLeft, hviewCount⟩ := fillPackedRunView_bounds hview
          generalize hloop : packedRunSpansFrom row run maxCells
            (fillPackedRunView grid row rowIndex) (cellOffset + cellCount) = loop at h
          obtain ⟨rest, complete⟩ := loop
          cases h
          refine ⟨hviewLeft.trans hspanLeft, by omega, ?_⟩
          rw [hviewCount, hspanCount, Nat.add_assoc]
          exact ih _ (by omega) (by omega) hloop rfl
    · rw [dif_neg hlt] at h
      cases h
      change run.left + cellOffset = run.left + run.cellCount
      omega

/-- Spans of all runs tile the row. -/
theorem rowSpans_tiles_of_complete {first last : Nat} {runs : List PackedRun}
    (htiles : Tiles PackedRun.left PackedRun.cellCount first runs last) {views : List RunView}
    (h : rowSpans grid row rowIndex maxCells runs = (views, true)) :
    Tiles RunView.left RunView.cellCount first views last := by
  induction runs generalizing first views with
  | nil =>
    cases h
    exact htiles
  | cons run runs ih =>
    obtain ⟨hleft, -, hrest⟩ := htiles
    rw [rowSpans] at h
    generalize hrun : forEachPackedRunSpan row run maxCells
      (fillPackedRunView grid row rowIndex) = delivered at h
    generalize hruns : rowSpans grid row rowIndex maxCells runs = rest at h
    obtain ⟨delivered, _ | _⟩ := delivered
    · cases h
    · obtain ⟨rest, restComplete⟩ := rest
      cases h
      rw [forEachPackedRunSpan] at hrun
      split at hrun
      case isTrue => cases hrun
      case isFalse =>
        have hviews := packedRunSpansFrom_tiles_of_complete (Nat.zero_le _) hrun
        rw [Nat.add_zero, hleft] at hviews
        exact tiles_append.2 ⟨_, hviews, ih hrest hruns⟩

end complete

end SakuraTerminal.Core
