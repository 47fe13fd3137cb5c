import SakuraTerminal.Core.ViewsAgree

/-!
# Wide glyphs in runs and spans

Which cells the runs and the bounded spans of a row may separate. The span loop shortens a span that
would end on a wide cell inside its run (`CutAt` says where it may cut a run), but a run ends
wherever the style changes, also between the two halves of a glyph. No run or span separates the
halves of a glyph exactly in the rows with `UniformGlyphs` (`glyphsWhole_iff`); libtsm reports
attributes cell by cell, and a cursor on the lead alone breaks it (`not_glyphsWhole`).

`CutAt` is the key to both directions. Every span lies between two cuts of its run, whatever the
bound and however far the loop gets (`exists_spanOfRun`), so with uniform glyphs no cut is behind
the lead of a glyph. For the converse a bound is chosen at which the loop cuts at a given place,
which is the first span of a run (`ShowsRow.exists_first_span`); that needs rows whose texts can be
read, and so the 4 GiB.
-/

set_option autoImplicit false

namespace SakuraTerminal.Core

open SakuraTerminal.Foundations

/-- The first cell of a wide glyph. It says so by its width. -/
def WideLead (frame : PackedFrame) (column row : Nat) : Prop :=
  ∃ cell, gridCell frame.grid column row = some cell ∧ cell.width = 2

/-- A cell that continues the glyph before it. Its width is 0. -/
def Continuation (frame : PackedFrame) (column row : Nat) : Prop :=
  ∃ cell, gridCell frame.grid column row = some cell ∧ cell.width = 0

/-- No span ends on a wide cell before the last column or begins on its continuation, and no run
separates a wide cell from its continuation. A renderer that draws each span by itself then never
has to draw half a glyph. -/
structure GlyphsWhole (frame : PackedFrame) (row : Nat) : Prop where
  ends : ∀ maxCells ≥ 1, ∀ span ∈ (frameForEachRowSpan frame row maxCells).1,
    WideLead frame (span.left + span.cellCount - 1) row →
      span.left + span.cellCount = frame.columns
  begins : ∀ maxCells ≥ 1, ∀ span ∈ (frameForEachRowSpan frame row maxCells).1, 0 < span.left →
    WideLead frame (span.left - 1) row → ¬ Continuation frame span.left row
  runs : ∀ index run, frameRowRun frame row index = some run →
    WideLead frame (run.left + run.cellCount - 1) row →
      ¬ Continuation frame (run.left + run.cellCount) row

/-- The style index of a cell. -/
def cellStyleIndex (frame : PackedFrame) (column row : Nat) : Option Nat :=
  (gridCell frame.grid column row).map PackedCell.styleIndex

/-- Every wide cell has the style of the cell behind it. If that one is wide as well, it is the last
cell of its run. This is a condition on widths and style indices, so on what libtsm reports. -/
def UniformGlyphs (frame : PackedFrame) (row : Nat) : Prop :=
  ∀ column, WideLead frame column row → column + 1 < frame.columns →
    cellStyleIndex frame (column + 1) row = cellStyleIndex frame column row ∧
      ∀ next, gridCell frame.grid (column + 1) row = some next → next.width > 1 →
        column + 2 < frame.columns →
          cellStyleIndex frame (column + 2) row ≠ cellStyleIndex frame (column + 1) row

/-! ## Where the span loop cuts a run -/

/-- The width the loop reads at a column. -/
def widthAt (row : PackedRow) (column : Nat) : UInt8 := ((row.cells[column]?).getD {}).width

/-- The loop may cut a run `offset` cells after its left end: at its ends, behind a cell that is not
wide, and in front of a wide cell that is not the last one of the run. -/
def CutAt (row : PackedRow) (run : PackedRun) (offset : Nat) : Prop :=
  offset = 0 ∨ offset = run.cellCount ∨ ¬ widthAt row (run.left + offset - 1) > 1 ∨
    (widthAt row (run.left + offset) > 1 ∧ offset + 1 < run.cellCount)

/-- A span between two cuts of a run. -/
structure SpanOfRun (row : PackedRow) (run : PackedRun) (view : RunView) : Prop where
  left : run.left ≤ view.left
  nonempty : 0 < view.cellCount
  right : view.left + view.cellCount ≤ run.left + run.cellCount
  cutBefore : CutAt row run (view.left - run.left)
  cutAfter : CutAt row run (view.left + view.cellCount - run.left)

/-- The loop cuts a run in these places only. -/
theorem cutAt_spanCellCount {row : PackedRow} {run : PackedRun} {maxCells offset : Nat}
    (hmax : 2 ≤ maxCells) (hoffset : offset < run.cellCount) :
    CutAt row run (offset + spanCellCount row run maxCells offset) := by
  unfold spanCellCount
  dsimp only
  generalize hcount : min maxCells (run.cellCount - offset) = cellCount
  by_cases htrim : cellCount < run.cellCount - offset ∧ cellCount > 1 ∧
      ((row.cells[run.left + offset + cellCount - 1]?).getD {}).width > 1
  · rw [if_pos htrim]
    obtain ⟨hlt, hgt, hwide⟩ := htrim
    -- the wide cell at the boundary goes to the next span
    refine Or.inr (Or.inr (Or.inr ⟨?_, by omega⟩))
    rw [widthAt, show run.left + (offset + (cellCount - 1)) = run.left + offset + cellCount - 1 by
      omega]
    exact hwide
  · rw [if_neg htrim]
    by_cases hend : offset + cellCount = run.cellCount
    · exact Or.inr (Or.inl hend)
    · refine Or.inr (Or.inr (Or.inl fun hwide => htrim ⟨by omega, by omega, ?_⟩))
      rwa [widthAt, ← Nat.add_assoc] at hwide

/-- Whatever the loop delivers lies between two cuts, also when a text check stops it early. -/
theorem spanOfRun_of_mem {grid : PackedGrid} {row : PackedRow} {rowIndex : Nat} {run : PackedRun}
    {maxCells : Nat} (hmax : 2 ≤ maxCells) (offset : Nat) (hcut : CutAt row run offset) :
    ∀ view ∈ (packedRunSpansFrom row run maxCells (fillPackedRunView grid row rowIndex) offset).1,
      SpanOfRun row run view := by
  induction hleft : run.cellCount - offset using Nat.strongRecOn generalizing offset with
  | ind cellsLeft ih =>
    intro view hview
    rw [packedRunSpansFrom] at hview
    by_cases hlt : offset < run.cellCount
    · rw [dif_pos hlt, dif_neg (by omega)] at hview
      have hpos := spanCellCount_pos row run (show 0 < maxCells by omega) hlt
      obtain ⟨-, hle⟩ := spanCellCount_le row run maxCells offset
      have hnext : CutAt row run (offset + spanCellCount row run maxCells offset) :=
        cutAt_spanCellCount hmax hlt
      cases hspan : (packedSpan row run (run.left + offset)
          (spanCellCount row run maxCells offset)).bind (fillPackedRunView grid row rowIndex) with
      | none => simp [hspan] at hview
      | some delivered =>
        simp only [hspan] at hview
        rcases List.mem_cons.1 hview with rfl | hview
        · -- the span of this turn, from this cut to the next one
          obtain ⟨span, hbuilt, hfilled⟩ := Option.bind_eq_some_iff.1 hspan
          obtain ⟨hspanLeft, hspanCount⟩ := packedSpan_bounds hbuilt
          obtain ⟨hviewLeft, hviewCount⟩ := fillPackedRunView_bounds hfilled
          have hl : view.left = run.left + offset := hviewLeft.trans hspanLeft
          have hc := hviewCount.trans hspanCount
          constructor
          · omega
          · omega
          · omega
          · rwa [hl, Nat.add_sub_cancel_left]
          · rwa [hl, hc, Nat.add_assoc, Nat.add_sub_cancel_left]
        · exact ih _ (by omega) _ hnext rfl view hview
    · rw [dif_neg hlt] at hview
      simp at hview

/-- Every span of a row lies between two cuts of one of its runs. -/
theorem exists_spanOfRun {grid : PackedGrid} {row : PackedRow} {rowIndex maxCells : Nat}
    {runs : List PackedRun} :
    ∀ view ∈ (rowSpans grid row rowIndex maxCells runs).1,
      ∃ run ∈ runs, SpanOfRun row run view := by
  induction runs with
  | nil => simp [rowSpans]
  | cons run runs ih =>
    have hfirst : ∀ view ∈ (forEachPackedRunSpan row run maxCells
        (fillPackedRunView grid row rowIndex)).1, SpanOfRun row run view := by
      unfold forEachPackedRunSpan
      split
      · simp
      · exact spanOfRun_of_mem (le_max_left 2 maxCells) 0 (Or.inl rfl)
    rw [rowSpans]
    rcases hspans : forEachPackedRunSpan row run maxCells (fillPackedRunView grid row rowIndex) with
      ⟨delivered, complete⟩
    rw [hspans] at hfirst
    intro view hview
    cases complete with
    | false => exact ⟨run, List.mem_cons_self, hfirst view hview⟩
    | true =>
      rcases List.mem_append.1 hview with hview | hview
      · exact ⟨run, List.mem_cons_self, hfirst view hview⟩
      · obtain ⟨run', hrun', hspan⟩ := ih view hview
        exact ⟨run', List.mem_cons_of_mem _ hrun', hspan⟩

/-! ## Rows whose glyphs stay whole -/

section row

variable {frame : PackedFrame} {row : Nat} {source : PackedRow}

/-- The frame reads this row, which has one cell per column and is tiled by its runs. This is less
than the row layout, as nothing is said of texts. -/
structure ReadsRow (frame : PackedFrame) (row : Nat) (source : PackedRow) : Prop where
  lt : row < frame.rows
  stored : frame.grid.rowData[row]? = some source
  columns : source.cells.length = frame.columns
  runs : RunsTile source.cells source.runs

theorem ReadsRow.frameRow (h : ReadsRow frame row source) : frameRow frame row = some source := by
  rw [Core.frameRow, if_pos h.lt, h.stored]

theorem ReadsRow.gridCell (h : ReadsRow frame row source) (column : Nat) :
    gridCell frame.grid column row = source.cells[column]? := by
  rw [Core.gridCell, h.stored, Option.bind_some]

theorem ReadsRow.cellStyleIndex_of_mem (h : ReadsRow frame row source) {run : PackedRun}
    (hrun : run ∈ source.runs) {column : Nat} (hleft : run.left ≤ column)
    (hright : column < run.left + run.cellCount) :
    cellStyleIndex frame column row = some run.styleIndex := by
  have hlt : column < source.cells.length :=
    Nat.lt_of_lt_of_le hright (h.runs.tile.bounds hrun).2.2
  rw [cellStyleIndex, h.gridCell, List.getElem?_eq_getElem hlt, Option.map_some,
    h.runs.style run hrun column _ hleft hright (List.getElem?_eq_getElem hlt)]

/-- A wide lead is wide for the loop. -/
theorem ReadsRow.widthAt_of_wideLead (h : ReadsRow frame row source) {column : Nat}
    (hwide : WideLead frame column row) : widthAt source column > 1 := by
  obtain ⟨cell, hcell, hwidth⟩ := hwide
  rw [h.gridCell] at hcell
  rw [widthAt, hcell, Option.getD_some, hwidth]
  decide

/-- With uniform glyphs a run that ends before the last column does not end on a wide cell. -/
theorem UniformGlyphs.run_end (huniform : UniformGlyphs frame row) (h : ReadsRow frame row source)
    {run : PackedRun} (hrun : run ∈ source.runs)
    (hwide : WideLead frame (run.left + run.cellCount - 1) row) :
    run.left + run.cellCount = frame.columns := by
  rcases h.runs.tile.end_cases h.runs.differ hrun with hend | ⟨next, hnext, hstart, hdiffer⟩
  · rw [hend, h.columns]
  · exfalso
    obtain ⟨-, hpos, -⟩ := h.runs.tile.bounds hrun
    obtain ⟨-, hnextPos, hnextEnd⟩ := h.runs.tile.bounds hnext
    rw [h.columns] at hnextEnd
    have hsame := (huniform _ hwide (by omega)).1
    rw [h.cellStyleIndex_of_mem hnext (by omega) (by omega),
      h.cellStyleIndex_of_mem hrun (by omega) (by omega), Option.some.injEq] at hsame
    exact hdiffer hsame.symm

/-- With uniform glyphs a cut inside a run is not behind a wide cell. -/
theorem UniformGlyphs.cut_inside (huniform : UniformGlyphs frame row)
    (h : ReadsRow frame row source) {run : PackedRun} (hrun : run ∈ source.runs) {offset : Nat}
    (hcut : CutAt source run offset) (hpos : 0 < offset) (hlt : offset < run.cellCount) :
    ¬ WideLead frame (run.left + offset - 1) row := by
  intro hwide
  obtain ⟨-, -, hend⟩ := h.runs.tile.bounds hrun
  rw [h.columns] at hend
  rcases hcut with rfl | rfl | hnarrow | ⟨hnextWide, hlast⟩
  · exact Nat.lt_irrefl 0 hpos
  · exact Nat.lt_irrefl _ hlt
  · exact hnarrow (h.widthAt_of_wideLead hwide)
  · -- the loop moved a wide cell to the next span, and the cell before it is wide as well
    have hnextLt : run.left + offset - 1 + 1 < source.cells.length := by
      rw [h.columns]
      omega
    have hnext := List.getElem?_eq_getElem hnextLt
    refine (huniform _ hwide (by omega)).2 _ ((h.gridCell _).trans hnext) ?_ (by omega) ?_
    · rw [widthAt, show run.left + offset = run.left + offset - 1 + 1 by omega, hnext,
        Option.getD_some] at hnextWide
      exact hnextWide
    · rw [h.cellStyleIndex_of_mem hrun (by omega) (by omega),
        h.cellStyleIndex_of_mem hrun (by omega) (by omega)]

/-- What the loop over the row delivers. -/
theorem ReadsRow.frameForEachRowSpan (h : ReadsRow frame row source) {maxCells : Nat}
    (hmax : 1 ≤ maxCells) :
    frameForEachRowSpan frame row maxCells =
      rowSpans frame.grid source row maxCells source.runs := by
  rw [Core.frameForEachRowSpan, if_neg (by omega), h.frameRow]

/-- The view of a run has the cells of the run. -/
theorem ReadsRow.run_of_frameRowRun (h : ReadsRow frame row source) {index : Nat} {view : RunView}
    (hview : frameRowRun frame row index = some view) :
    ∃ run ∈ source.runs, view.left = run.left ∧ view.cellCount = run.cellCount := by
  rw [frameRowRun, h.frameRow] at hview
  cases hrun : source.runs[index]? with
  | none => simp [hrun] at hview
  | some run =>
    simp only [hrun] at hview
    exact ⟨run, List.mem_of_getElem? hrun, fillPackedRunView_bounds hview⟩

theorem ReadsRow.not_continuation (h : ReadsRow frame row source) :
    ¬ Continuation frame frame.columns row := by
  rintro ⟨cell, hcell, -⟩
  rw [h.gridCell, List.getElem?_eq_none (by rw [h.columns])] at hcell
  cases hcell

/-- In a row with uniform glyphs no run or span separates the halves of a glyph. -/
theorem UniformGlyphs.glyphsWhole (huniform : UniformGlyphs frame row)
    (h : ReadsRow frame row source) : GlyphsWhole frame row := by
  constructor
  case ends =>
    intro maxCells hmax span hspan hwide
    rw [h.frameForEachRowSpan hmax] at hspan
    obtain ⟨run, hrun, hof⟩ := exists_spanOfRun span hspan
    have hpos := hof.nonempty
    have hleft := hof.left
    have hright := hof.right
    by_cases hend : span.left + span.cellCount = run.left + run.cellCount
    · rw [hend] at hwide ⊢
      exact huniform.run_end h hrun hwide
    · refine absurd hwide ?_
      have hinside := huniform.cut_inside h hrun hof.cutAfter (by omega) (by omega)
      rwa [show run.left + (span.left + span.cellCount - run.left) = span.left + span.cellCount by
        omega] at hinside
  case begins =>
    intro maxCells hmax span hspan hfirst hwide hcontinuation
    rw [h.frameForEachRowSpan hmax] at hspan
    obtain ⟨run, hrun, hof⟩ := exists_spanOfRun span hspan
    have hpos := hof.nonempty
    have hleft := hof.left
    have hright := hof.right
    obtain ⟨-, -, hend⟩ := h.runs.tile.bounds hrun
    rw [h.columns] at hend
    by_cases hstart : span.left = run.left
    · -- the run before this one ends on the wide cell
      rcases h.runs.tile.start_cases h.runs.differ hrun with hzero | ⟨before, hbefore, hends, -⟩
      · omega
      · rw [hstart, ← hends] at hwide
        have := huniform.run_end h hbefore hwide
        omega
    · have hinside := huniform.cut_inside h hrun hof.cutBefore (by omega) (by omega)
      rw [show run.left + (span.left - run.left) = span.left by omega] at hinside
      exact hinside hwide
  case runs =>
    intro index view hview hwide
    obtain ⟨run, hrun, hleft, hcount⟩ := h.run_of_frameRowRun hview
    rw [hleft, hcount] at hwide ⊢
    rw [huniform.run_end h hrun hwide]
    exact h.not_continuation

end row

/-! ## Rows whose glyphs are cut -/

section cut

variable {frame : PackedFrame} {row : Nat} {source : PackedRow}

theorem ShowsRow.readsRow (h : ShowsRow frame row source) : ReadsRow frame row source :=
  ⟨h.lt, h.row, h.layout.columns, h.layout.runs⟩

/-- The spans of the runs, one run after another. -/
theorem ShowsRow.rowSpans_eq (h : ShowsRow frame row source) {maxCells : Nat}
    (hmax : 1 ≤ maxCells) {runs : List PackedRun} (hruns : ∀ run ∈ runs, PartOfRun source run) :
    rowSpans frame.grid source row maxCells runs =
      (runs.flatMap fun run => (packedRunSpansFrom source run (max 2 maxCells)
        (Core.fillPackedRunView frame.grid source row) 0).1, true) := by
  induction runs with
  | nil => rfl
  | cons run runs ih =>
    have hrun := hruns run List.mem_cons_self
    obtain ⟨views, hviews, -, -⟩ :=
      packedRunSpansFrom_tiles h hrun (show 0 < max 2 maxCells by omega) 0 (Nat.zero_le _)
    have hguard : ¬ (maxCells = 0 ∨ run.cellCount = 0 ∨ run.left ≥ source.cells.length ∨
        run.cellCount > source.cells.length - run.left) := by
      have := hrun.nonempty
      have := hrun.right
      omega
    have hrest := ih fun r hr => hruns r (List.mem_cons_of_mem _ hr)
    rw [rowSpans, forEachPackedRunSpan, if_neg hguard, List.flatMap_cons, hviews, hrest]
    rfl

/-- The first span of every run is delivered. -/
theorem ShowsRow.exists_first_span (h : ShowsRow frame row source) {maxCells : Nat}
    (hmax : 1 ≤ maxCells) {run : PackedRun} (hrun : run ∈ source.runs) :
    ∃ view ∈ (frameForEachRowSpan frame row maxCells).1, view.left = run.left ∧
      view.cellCount = spanCellCount source run (max 2 maxCells) 0 := by
  have hpart := h.layout.partOfRun hrun
  have hnonempty := hpart.nonempty
  have hpos := spanCellCount_pos source run (show 0 < max 2 maxCells by omega) hnonempty
  obtain ⟨-, hle⟩ := spanCellCount_le source run (max 2 maxCells) 0
  obtain ⟨span, hspan, hspanLeft, hspanCount, hspanPart⟩ :=
    packedSpan_of_partOfRun h.layout hpart (Nat.le_add_right run.left 0) hpos (by omega)
  obtain ⟨view, hview, hviewLeft, hviewCount, -⟩ := h.fillPackedRunView hspanPart
  refine ⟨view, ?_, hviewLeft.trans hspanLeft, hviewCount.trans hspanCount⟩
  rw [h.readsRow.frameForEachRowSpan hmax, h.rowSpans_eq hmax fun _ => h.layout.partOfRun]
  refine List.mem_flatMap.2 ⟨run, hrun, ?_⟩
  rw [packedRunSpansFrom, dif_pos hnonempty, dif_neg (by omega)]
  simp only [hspan, Option.bind_some, hview]
  exact List.mem_cons_self

/-- If no span separates the halves of a glyph, whatever the bound, glyphs are uniform. -/
theorem GlyphsWhole.uniformGlyphs (hwhole : GlyphsWhole frame row) (h : ShowsRow frame row source) :
    UniformGlyphs frame row := by
  have hreads := h.readsRow
  intro column hwide hcolumn
  obtain ⟨run, hrun, hleft, hright⟩ := h.layout.runs.tile.exists_mem (Nat.zero_le column)
    (show column < source.cells.length by rw [h.layout.columns]; omega)
  -- unbounded spans are the runs, so the wide cell is not the last one of its run
  have hinside : column + 1 < run.left + run.cellCount := by
    by_contra hlast
    obtain ⟨span, hspan, hspanLeft, hspanCount⟩ :=
      h.exists_first_span (show 1 ≤ run.cellCount by omega) hrun
    have hwholeRun : spanCellCount source run (max 2 run.cellCount) 0 = run.cellCount := by
      rw [spanCellCount, show min (max 2 run.cellCount) (run.cellCount - 0) = run.cellCount by
        omega]
      exact if_neg (by omega)
    have hend := hwhole.ends run.cellCount (by omega) span hspan
    rw [hspanLeft, hspanCount, hwholeRun,
      show run.left + run.cellCount - 1 = column by omega] at hend
    have := hend hwide
    omega
  constructor
  · rw [hreads.cellStyleIndex_of_mem hrun (by omega) hinside,
      hreads.cellStyleIndex_of_mem hrun hleft hright]
  · intro next hnext hnextWide hlt hsame
    rw [hreads.cellStyleIndex_of_mem hrun (by omega) hinside] at hsame
    have hthree : column + 2 < run.left + run.cellCount := by
      by_contra hlast
      rcases h.layout.runs.tile.end_cases h.layout.runs.differ hrun with
        hend | ⟨after, hafter, hstart, hdiffer⟩
      · rw [h.layout.columns] at hend
        omega
      · obtain ⟨-, hpos, -⟩ := h.layout.runs.tile.bounds hafter
        rw [hreads.cellStyleIndex_of_mem hafter (by omega) (by omega), Option.some.injEq] at hsame
        exact hdiffer hsame.symm
    -- a bound at which the first span would end on the second wide cell
    obtain ⟨span, hspan, hspanLeft, hspanCount⟩ :=
      h.exists_first_span (show 1 ≤ column + 2 - run.left by omega) hrun
    rw [hreads.gridCell] at hnext
    have htrimmed : spanCellCount source run (max 2 (column + 2 - run.left)) 0 =
        column + 1 - run.left := by
      have hboundary : ((source.cells[run.left + 0 + (column + 2 - run.left) - 1]?).getD {}).width >
          1 := by
        rw [show run.left + 0 + (column + 2 - run.left) - 1 = column + 1 by omega, hnext]
        exact hnextWide
      rw [spanCellCount, show min (max 2 (column + 2 - run.left)) (run.cellCount - 0) =
        column + 2 - run.left by omega]
      rw [if_pos ⟨by omega, by omega, hboundary⟩]
      omega
    have hend := hwhole.ends _ (show 1 ≤ column + 2 - run.left by omega) span hspan
    rw [hspanLeft, hspanCount, htrimmed,
      show run.left + (column + 1 - run.left) - 1 = column by omega] at hend
    have := hend hwide
    omega

end cut

/-! ## Frames of a terminal -/

/-- In every frame of every run no run or span separates the halves of a glyph in the rows with
uniform glyphs, and while the row texts stay below 4 GiB in no other rows. -/
theorem glyphsWhole_iff (tsmUcs4ToUtf8 : Nat → List UInt8) :
    (∀ run, (terminalSystem tsmUcs4ToUtf8).Reachable (fun _ _ => True) run →
      ∀ taken ∈ run.taken, ∀ row < taken.2.rows,
        UniformGlyphs taken.2 row → GlyphsWhole taken.2 row) ∧
    ∀ run, (terminalSystem tsmUcs4ToUtf8).Reachable (RowTextsFit tsmUcs4ToUtf8) run →
      ∀ taken ∈ run.taken, ∀ row < taken.2.rows,
        (GlyphsWhole taken.2 row ↔ UniformGlyphs taken.2 row) := by
  constructor
  · intro run hreach
    refine forall_taken (fun run draw hreach _ _ row hrow huniform => ?_) hreach
    have hinv := cacheInvariant hreach
    have hlt : row < (takenGrid tsmUcs4ToUtf8 run.impl run.screen draw).rowData.length := by
      rw [hinv.table.takenGrid.rows, takenGrid_rows hinv.table]
      exact hrow
    have hfit := hinv.fit.takenGrid hinv.table _ (List.getElem_mem hlt)
    refine huniform.glyphsWhole ⟨hrow, List.getElem?_eq_getElem hlt, ?_, hfit.runs⟩
    rw [hfit.columns, takenGrid_columns hinv.table]
    rfl
  · intro run hreach taken htaken row hrow
    obtain ⟨hgrid, -, hcolumns, hrows⟩ := gridReachable_of_taken hreach taken htaken
    obtain ⟨source, hshows⟩ := hgrid.invariant.showsRow hcolumns hrows hrow
    exact ⟨fun hwhole => hwhole.uniformGlyphs hshows,
      fun huniform => huniform.glyphsWhole hshows.readsRow⟩

/-- White on black, or black on white where the cursor is. -/
def glyphAttr (cursor : Bool) : TsmScreenAttr where
  fr := 255
  fg := 255
  fb := 255
  inverse := cursor

/-- A wide glyph that fills the screen, with or without a cursor on its lead. -/
def wideScreen (cursor : Bool) : Screen where
  width := 2
  height := 1
  widthPos := Nat.two_pos
  widthLt := two_lt_unsigned
  heightPos := Nat.one_pos
  cell := fun column _ =>
    if column = 0 then { codepoints := [0x4e00], width := 2, attr := glyphAttr cursor }
    else { width := 0, attr := glyphAttr false }
  rowId := fun row => row

/-- The two halves of the glyph, of which the lead may be inverted. -/
def wideDraw (cursor : Bool) : Draw where
  calls := [⟨{ codepoints := [0x4e00], width := 2, attr := glyphAttr cursor }, 0, 0, 1⟩,
    ⟨{ width := 0, attr := glyphAttr false }, 1, 0, 1⟩]
  age := 1

/-- The texts of the screen are short. -/
theorem rowTextsFit_wideDraw (cursor : Bool) :
    RowTextsFit ucs4ToUtf8 (newRun (wideScreen cursor)) (.takePackedFrame (wideDraw cursor)) := by
  unfold RowTextsFit TextBelow4GiB
  cases cursor <;> decide

/-- Without the cursor. -/
theorem glyphsWhole_iff_uniform :
    GlyphsWhole (takePackedFrame ucs4ToUtf8 (newImpl (wideScreen false)) (wideScreen false)
      (wideDraw false)) 0 := by
  have hreach : (terminalSystem ucs4ToUtf8).Reachable (RowTextsFit ucs4ToUtf8)
      ((newRun (wideScreen false)).calls ucs4ToUtf8 [.takePackedFrame (wideDraw false)]) :=
    reachable_calls (.init ⟨_, rfl⟩) ⟨rowTextsFit_wideDraw false, trivial⟩
  refine ((glyphsWhole_iff ucs4ToUtf8).2 _ hreach _ List.mem_cons_self 0 (by decide)).2 ?_
  intro column _ hcolumn
  obtain rfl : column = 0 := by
    change column + 1 < 2 at hcolumn
    omega
  exact ⟨by decide, fun _ _ _ hlt => absurd hlt (by decide)⟩

/-- A cursor that inverts the lead alone makes it a run of its own. -/
theorem not_glyphsWhole : ¬ ∀ run, (terminalSystem ucs4ToUtf8).Reachable
    (fun run op => RowTextsFit ucs4ToUtf8 run op ∧
      ∀ draw, op = .takePackedFrame draw → DrawContract ucs4ToUtf8 run draw) run →
    ∀ taken ∈ run.taken, ∀ row < taken.2.rows, GlyphsWhole taken.2 row := by
  intro h
  have hcontract : DrawContract ucs4ToUtf8 (newRun (wideScreen true)) (wideDraw true) :=
    { once := by decide
      current := by decide
      fit := by decide
      age := by decide
      all := fun _ => by decide
      changed := fun last hlast => by cases hlast }
  have hwhole := h ((newRun (wideScreen true)).calls ucs4ToUtf8 [.takePackedFrame (wideDraw true)])
    (reachable_calls (.init ⟨_, rfl⟩)
      ⟨⟨rowTextsFit_wideDraw true, fun _ hdraw => by cases hdraw; exact hcontract⟩, trivial⟩)
    _ List.mem_cons_self 0 (by decide)
  obtain ⟨view, hview, hleft, hcount⟩ : ∃ view, frameRowRun (takePackedFrame ucs4ToUtf8
      (newImpl (wideScreen true)) (wideScreen true) (wideDraw true)) 0 0 = some view ∧
      view.left = 0 ∧ view.cellCount = 1 := ⟨_, rfl, rfl, rfl⟩
  have hsplit := hwhole.runs 0 view hview
  rw [hleft, hcount] at hsplit
  exact hsplit ⟨_, rfl, by decide⟩ ⟨_, rfl, by decide⟩

end SakuraTerminal.Core
