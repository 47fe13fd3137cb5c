import SakuraTerminal.Core.FullDecode

/-!
# Displayed styles

The style table of a terminal lives as long as its cache and holds at most 65535 styles. A style
that was given an index keeps it, so every view reports the style of the attributes libtsm last
reported (`stylesShown`). A style that comes when the table is full is refused: its cells get index
0 and appear in the default style, entry 0 of the table (`not_stylesShown`). Sizes of texts play no
part here.

The attributes a cell should appear in are those that libtsm last reported for it, which need not be
those of this draw: a cell that did not change is not reported again, and a row that scrolled takes
its cells along. `TerminalRun.reported` keeps them as a history variable, moved with the rows like
the cells themselves. The invariant says that every frame shows that history through the table
(`StyledFrame`), and the theorem reads it off for the three kinds of views.

The full table is an explicit guard of `styleIndex`, so a displayed style is either the reported one
or the default. Up to 65535 styles the second case does not arise.
-/

set_option autoImplicit false

namespace SakuraTerminal.Core

open SakuraTerminal.Foundations SakuraTerminal.Foundations.InternTable

/-- The colours and attributes a cell view reports. A view has them as separate fields, as the C
structures do. -/
def CellView.packedStyle (view : CellView) : PackedStyle :=
  ⟨view.foreground, view.background, view.attributes⟩

/-- The colours and attributes a run view reports. -/
def RunView.packedStyle (view : RunView) : PackedStyle :=
  ⟨view.foreground, view.background, view.attributes⟩

/-- The style `ensurePackedGrid` puts first into a new table. It is what a cell appears in whose own
style was refused. -/
def defaultStyle : PackedStyle := {}

/-- What a style appears as: itself while it is in the table, and the default style otherwise. -/
def displayedStyle (table : List PackedStyle) (style : PackedStyle) : PackedStyle :=
  if style ∈ table then style else defaultStyle

/-- Every view of a frame reports the style of the attributes last reported for its cells, as far as
the table holds it; while the table is not full it holds all of them. Cells, runs and spans are
three ways to read the same row, and each of them reports a style of its own. -/
structure StylesShown (reported : Nat → Nat → Option TsmScreenAttr) (frame : PackedFrame) :
    Prop where
  known : ∀ column < frame.columns, ∀ row < frame.rows, (reported column row).isSome
  stored : frame.grid.styles.length < styleLimit → ∀ column < frame.columns, ∀ row < frame.rows,
    ∀ attr ∈ reported column row, packedStyleFor attr ∈ frame.grid.styles
  cells : ∀ column row, ∀ view ∈ frameCell frame column row, ∀ attr ∈ reported column row,
    view.packedStyle = displayedStyle frame.grid.styles (packedStyleFor attr)
  runs : ∀ row index, ∀ view ∈ frameRowRun frame row index, ∀ column, view.left ≤ column →
    column < view.left + view.cellCount → ∀ attr ∈ reported column row,
    view.packedStyle = displayedStyle frame.grid.styles (packedStyleFor attr)
  spans : ∀ row maxCells, ∀ view ∈ (frameForEachRowSpan frame row maxCells).1, ∀ column,
    view.left ≤ column → column < view.left + view.cellCount → ∀ attr ∈ reported column row,
    view.packedStyle = displayedStyle frame.grid.styles (packedStyleFor attr)

/-! ## Views and style indices -/

/-- A view lies within a run and has its style. Runs and the spans they are cut into both come with
such a view, so one lemma on styles serves for both. -/
structure ViewWithin (styles : List PackedStyle) (run : PackedRun) (view : RunView) : Prop where
  left : run.left ≤ view.left
  right : view.left + view.cellCount ≤ run.left + run.cellCount
  style : styles[run.styleIndex]? = some view.packedStyle

/-- A view of a part of a run has its place, and the style its index stands for. -/
theorem fillPackedRunView_eq_some {grid : PackedGrid} {row : PackedRow} {rowIndex : Nat}
    {part : PackedRun} {view : RunView} (h : fillPackedRunView grid row rowIndex part = some view) :
    view.left = part.left ∧ view.cellCount = part.cellCount ∧
      grid.styles[part.styleIndex]? = some view.packedStyle := by
  rw [fillPackedRunView] at h
  cases hstyle : grid.styles[part.styleIndex]? with
  | none => simp [hstyle] at h
  | some style =>
    simp only [hstyle] at h
    split at h
    · rw [Option.some.injEq] at h
      subst h
      exact ⟨rfl, rfl, rfl⟩
    · exact absurd h (by simp)

/-- A span has the style of its run. -/
theorem packedSpan_eq_some {row : PackedRow} {source span : PackedRun} {firstColumn cellCount : Nat}
    (h : packedSpan row source firstColumn cellCount = some span) :
    span.left = firstColumn ∧ span.cellCount = cellCount ∧
      span.styleIndex = source.styleIndex := by
  rw [packedSpan] at h
  split at h
  · split at h
    · rw [Option.some.injEq] at h
      subst h
      exact ⟨rfl, rfl, rfl⟩
    · exact absurd h (by simp)
  · exact absurd h (by simp)

/-- What the span loop delivers are views of spans within the run. -/
theorem mem_packedRunSpansFrom {grid : PackedGrid} {row : PackedRow} {rowIndex : Nat}
    {source : PackedRun} {maxCells : Nat} {view : RunView} (cellOffset : Nat)
    (h : view ∈ (packedRunSpansFrom row source maxCells (fillPackedRunView grid row rowIndex)
      cellOffset).1) :
    ViewWithin grid.styles source view := by
  induction hleft : source.cellCount - cellOffset using Nat.strongRecOn generalizing cellOffset with
  | ind cellsLeft ih =>
    rw [packedRunSpansFrom] at h
    by_cases hlt : cellOffset < source.cellCount
    · by_cases hmax : maxCells = 0
      · simp [hlt, hmax] at h
      · rw [dif_pos hlt, dif_neg hmax] at h
        have hpos := spanCellCount_pos row source (Nat.pos_of_ne_zero hmax) hlt
        obtain ⟨-, hrest⟩ := spanCellCount_le row source maxCells cellOffset
        generalize spanCellCount row source maxCells cellOffset = cellCount at h hpos hrest
        -- the loop delivers nothing for a span it cannot build or fill, and stops
        cases hspan : packedSpan row source (source.left + cellOffset) cellCount with
        | none => simp [hspan] at h
        | some span =>
          cases hfill : fillPackedRunView grid row rowIndex span with
          | none => simp [hspan, hfill] at h
          | some first =>
            simp only [hspan, Option.bind_some, hfill, List.mem_cons] at h
            rcases h with rfl | h
            · obtain ⟨hl, hc, hstyle⟩ := fillPackedRunView_eq_some hfill
              obtain ⟨hspanLeft, hspanCount, hspanStyle⟩ := packedSpan_eq_some hspan
              rw [hspanStyle] at hstyle
              exact ⟨by omega, by omega, hstyle⟩
            · exact ih _ (by omega) (cellOffset + cellCount) h rfl
    · simp [hlt] at h

/-- The views the span visitor delivers lie within the runs of the row. -/
theorem mem_rowSpans {grid : PackedGrid} {row : PackedRow} {rowIndex maxCells : Nat}
    {runs : List PackedRun} {view : RunView}
    (h : view ∈ (rowSpans grid row rowIndex maxCells runs).1) :
    ∃ run ∈ runs, ViewWithin grid.styles run view := by
  induction runs with
  | nil => simp [rowSpans] at h
  | cons run runs ih =>
    have hfirst : view ∈ (forEachPackedRunSpan row run maxCells
          (fillPackedRunView grid row rowIndex)).1 ∨
        view ∈ (rowSpans grid row rowIndex maxCells runs).1 := by
      rw [rowSpans] at h
      -- the views of the first run come first; the other runs follow if it was delivered completely
      dsimp only at h
      split at h
      · exact List.mem_append.1 h
      · exact Or.inl h
    rcases hfirst with hmem | hmem
    · rw [forEachPackedRunSpan] at hmem
      split at hmem
      · exact absurd hmem List.not_mem_nil
      · exact ⟨run, List.mem_cons_self, mem_packedRunSpansFrom 0 hmem⟩
    · obtain ⟨other, hother, h⟩ := ih hmem
      exact ⟨other, List.mem_cons_of_mem _ hother, h⟩

/-- The row a view reads. -/
theorem mem_frameRow {frame : PackedFrame} {row : Nat} {source : PackedRow}
    (h : source ∈ frameRow frame row) :
    row < frame.rows ∧ frame.grid.rowData[row]? = some source := by
  rw [frameRow] at h
  split at h
  · exact ⟨‹_›, h⟩
  · exact absurd h (by simp)

/-! ## Styles of a grid that shows a screen -/

section frame

variable {screen : Screen} {frame : PackedFrame}

/-- The style behind the index of a cell is the displayed one. -/
theorem ShowsCell.getElem? {styles : List PackedStyle} {cell : TsmCell} {packed : PackedCell}
    (h : ShowsCell styles cell packed) (hdefault : styles[0]? = some defaultStyle) :
    styles[packed.styleIndex]? = some (displayedStyle styles (packedStyleFor cell.attr)) := by
  rw [h.style.getElem?, shown, displayedStyle]
  -- an index for a style that is not in the table is 0, where the default style is
  split
  · rfl
  · exact hdefault

/-- A view of a cell is inside of the screen and has the displayed style of the cell there. -/
theorem GridShows.frameCell_packedStyle (h : GridShows screen frame.grid)
    (hcolumns : frame.columns = screen.width) (hrows : frame.rows = screen.height)
    (hdefault : frame.grid.styles[0]? = some defaultStyle) {column row : Nat} {view : CellView}
    (hview : frameCell frame column row = some view) :
    column < screen.width ∧ row < screen.height ∧ view.packedStyle =
      displayedStyle frame.grid.styles (packedStyleFor (screen.cell column row).attr) := by
  rw [frameCell] at hview
  by_cases hinside : column < frame.columns ∧ row < frame.rows
  · rw [if_pos hinside] at hview
    rw [hcolumns, hrows] at hinside
    obtain ⟨packed, hpacked, hcell⟩ := h column hinside.1 row hinside.2
    refine ⟨hinside.1, hinside.2, ?_⟩
    rw [gridCell] at hpacked
    cases hsource : frame.grid.rowData[row]? with
    | none => simp [hsource] at hpacked
    | some source =>
      rw [hsource, Option.bind_some] at hpacked
      simp only [hsource, hpacked, cellView, hcell.getElem? hdefault] at hview
      split at hview
      · rw [Option.some.injEq] at hview
        subst hview
        rfl
      · exact absurd hview (by simp)
  · rw [if_neg hinside] at hview
    exact absurd hview (by simp)

/-- A view of a part of a run has the displayed style of all its cells. -/
theorem GridShows.runView_packedStyle (h : GridShows screen frame.grid)
    (hcolumns : frame.grid.columns = screen.width) (hrows : frame.rows = screen.height)
    (hfit : RowsFit frame.grid) (hdefault : frame.grid.styles[0]? = some defaultStyle) {row : Nat}
    {source : PackedRow} (hsource : source ∈ frameRow frame row) {run : PackedRun}
    (hrun : run ∈ source.runs) {view : RunView} (hview : ViewWithin frame.grid.styles run view)
    {column : Nat} (hleft : view.left ≤ column) (hright : column < view.left + view.cellCount) :
    column < screen.width ∧ row < screen.height ∧ view.packedStyle =
      displayedStyle frame.grid.styles (packedStyleFor (screen.cell column row).attr) := by
  obtain ⟨hrow, hrowData⟩ := mem_frameRow hsource
  obtain ⟨hlen, hruns⟩ := hfit source (List.mem_of_getElem? hrowData)
  have hbounds := (hruns.tile.bounds hrun).2.2
  have hviewLeft := hview.left
  have hviewRight := hview.right
  have hcolumn : column < screen.width := by omega
  obtain ⟨packed, hpacked, hcell⟩ := h column hcolumn row (hrows ▸ hrow)
  rw [gridCell, hrowData, Option.bind_some] at hpacked
  -- the cell at the column has the style index of its run, and so the style of the view
  have hindex := hruns.style run hrun column packed (by omega) (by omega) hpacked
  refine ⟨hcolumn, hrows ▸ hrow, ?_⟩
  have hstyle := hcell.getElem? hdefault
  rw [hindex, hview.style, Option.some.injEq] at hstyle
  exact hstyle

end frame

/-! ## The attributes last reported -/

/-- After a draw, a position has the attributes of a call for it, if there is one. -/
theorem report_cases (reported : Nat → Nat → Option TsmScreenAttr) (calls : List DrawCall)
    (column row : Nat) :
    (∃ call ∈ calls, call.column = column ∧ call.row = row ∧
      report reported calls column row = some call.cell.attr) ∨
    ((∀ call ∈ calls, ¬ (call.column = column ∧ call.row = row)) ∧
      report reported calls column row = reported column row) := by
  rw [report]
  cases hfind : calls.reverse.find? (fun call => call.column == column && call.row == row) with
  | some call =>
    have hat := List.find?_some hfind
    simp only [Bool.and_eq_true, beq_iff_eq] at hat
    exact Or.inl ⟨call, List.mem_reverse.1 (List.mem_of_find?_eq_some hfind), hat.1, hat.2, rfl⟩
  | none =>
    refine Or.inr ⟨fun call hcall hat => ?_, rfl⟩
    have hnone := List.find?_eq_none.1 hfind call (List.mem_reverse.2 hcall)
    simp [hat.1, hat.2] at hnone

/-- libtsm keeps its contract, and rows are reused only when something moved. The second part
excludes the rows that an unmarked alternate screen would reuse wrongly, which is a defect of its
own. -/
def StyleContract (tsmUcs4ToUtf8 : Nat → List UInt8) (run : TerminalRun) (op : Op) : Prop :=
  ReuseJustified run op ∧
    match op with
    | .takePackedFrame draw => DrawContract tsmUcs4ToUtf8 run draw
    | _ => True

section run

variable {tsmUcs4ToUtf8 : Nat → List UInt8} {run : TerminalRun}

/-- What every frame has along such runs. The table belongs to the frame's grid, which a later frame
may extend but not reorder. -/
structure StyledFrame (taken : Screen × PackedFrame) : Prop where
  shows : GridShows taken.1 taken.2.grid
  default : taken.2.grid.styles[0]? = some defaultStyle

/-- A frame that is taken shows the styles, if the frames before it do: its grid was drawn over the
cache, and the table has only grown. -/
theorem styledFrame_step {draw : Draw}
    (hreach : (terminalSystem tsmUcs4ToUtf8).Reachable (StyleContract tsmUcs4ToUtf8) run)
    (hbefore : ∀ taken ∈ run.taken, StyledFrame taken)
    (hallowed : StyleContract tsmUcs4ToUtf8 run (.takePackedFrame draw)) :
    StyledFrame (run.screen, takePackedFrame tsmUcs4ToUtf8 run.impl run.screen draw) := by
  have hinv := cacheInvariant hreach
  have hspec : TakeSpec tsmUcs4ToUtf8 run.impl run.screen draw _ := takeSpec hinv.table
  constructor
  case shows =>
    exact GridShows.takenGrid hreach hallowed.2 hallowed.1 fun taken h => (hbefore taken h).shows
  case default =>
    -- the table starts with the default style, and nothing is ever put before it
    have hcache : (ensuredStyles (cachedGrid run.impl))[0]? = some defaultStyle := by
      have hremembers := remembersTaken hreach
      cases htaken : run.taken with
      | nil =>
        rw [cachedGrid, (hremembers.new htaken).2]
        rfl
      | cons last older =>
        have hlast := (hbefore last (by rw [htaken]; exact List.mem_cons_self)).default
        rw [(hremembers.lastTaken htaken).grid, ensuredStyles_of_ne_nil]
        · exact hlast
        · intro hnil
          rw [hnil] at hlast
          exact absurd hlast (by simp)
    have hgrowth := hspec.drawn.growth
    change Growth styleLimit (drawGrid run.impl run.screen).styles _ at hgrowth
    rw [drawGrid_styles] at hgrowth
    change (takenGrid tsmUcs4ToUtf8 run.impl run.screen draw).styles[0]? = _
    rw [takenGrid_eq, rebuildPackedRows_styles]
    exact hgrowth.getElem? hcache

/-- Along such runs libtsm has reported every cell of the newest frame, with its attributes. -/
theorem reported_eq
    (h : (terminalSystem tsmUcs4ToUtf8).Reachable (StyleContract tsmUcs4ToUtf8) run) :
    ∀ newest ∈ run.taken.head?, ∀ column < newest.1.width, ∀ row < newest.1.height,
      run.reported column row = some (newest.1.cell column row).attr := by
  refine h.invariant (I := fun run => ∀ newest ∈ run.taken.head?, ∀ column < newest.1.width,
    ∀ row < newest.1.height, run.reported column row = some (newest.1.cell column row).attr) ?_ ?_
  · rintro _ ⟨screen, rfl⟩ newest hnewest
    exact absurd hnewest (by simp [newRun])
  · intro run op run' hreach hrun hallowed hnext
    rw [hnext]
    rcases next_cases tsmUcs4ToUtf8 run op with ⟨draw, rfl, -⟩ | hquiet
    · rintro _ ⟨⟩ column hcolumn row hrow
      change report run.reported draw.calls column row = some (run.screen.cell column row).attr
      rcases report_cases run.reported draw.calls column row with
        ⟨call, hcall, rfl, rfl, heq⟩ | ⟨hno, heq⟩
      · rw [heq, hallowed.2.current call hcall hcolumn hrow]
      · -- without a call the cell is that of the last frame
        rw [heq]
        cases cellSource hreach hallowed.2 hallowed.1 hcolumn hrow with
        | recorded call _ hcall _ hrecords hc hr _ =>
          exact absurd ⟨hrecords.column.symm.trans hc, hrecords.row.symm.trans hr⟩ (hno call hcall)
        | found call hcall _ _ hc hr _ => exact absurd ⟨hc, hr⟩ (hno call hcall)
        | kept last older _ htaken _ hwidth hheight hcell =>
          rw [← hcell]
          exact hrun last (by rw [htaken]; rfl) column (hwidth ▸ hcolumn) row (hheight ▸ hrow)
    · rw [hquiet.taken, hquiet.reported]
      exact hrun

/-- In every run of libtsm's contract in which rows are reused only when something moved, the views
of every frame report the styles of the attributes last reported, as far as the table holds them. -/
theorem stylesShown (tsmUcs4ToUtf8 : Nat → List UInt8) {run : TerminalRun}
    (h : (terminalSystem tsmUcs4ToUtf8).Reachable (StyleContract tsmUcs4ToUtf8) run) :
    ∀ newest ∈ run.taken.head?, StylesShown run.reported newest.2 := by
  intro newest hnewest
  have hreported := reported_eq h newest hnewest
  obtain ⟨older, htaken⟩ : ∃ older, run.taken = newest :: older := by
    cases htaken : run.taken with
    | nil => simp [htaken] at hnewest
    | cons first older =>
      rw [htaken, List.head?_cons, Option.mem_some_iff] at hnewest
      exact ⟨older, by rw [hnewest]⟩
  have hlast := (remembersTaken h).lastTaken htaken
  have hstyled : StyledFrame newest :=
    forall_taken (fun _ _ hreach hbefore hallowed => styledFrame_step hreach hbefore hallowed) h
      newest (by rw [htaken]; exact List.mem_cons_self)
  have hfit : RowsFit newest.2.grid := by
    rw [← hlast.grid]
    exact (cacheInvariant h).fit
  have hgridColumns := hlast.gridColumns.trans hlast.frameColumns
  constructor
  case known =>
    intro column hcolumn row hrow
    rw [hreported column (hlast.frameColumns ▸ hcolumn) row (hlast.frameRows ▸ hrow)]
    rfl
  case stored =>
    intro hlength column hcolumn row hrow attr hattr
    rw [hlast.frameColumns] at hcolumn
    rw [hlast.frameRows] at hrow
    rw [hreported column hcolumn row hrow, Option.mem_some_iff] at hattr
    subst hattr
    obtain ⟨packed, -, hcell⟩ := hstyled.shows column hcolumn row hrow
    -- an index stands for another style only if the table is full
    rcases hcell.style with hindex | ⟨-, -, -, hfull⟩
    · exact List.mem_of_getElem? hindex
    · omega
  case cells =>
    intro column row view hview attr hattr
    obtain ⟨hcolumn, hrow, hstyle⟩ := hstyled.shows.frameCell_packedStyle hlast.frameColumns
      hlast.frameRows hstyled.default hview
    rw [hreported column hcolumn row hrow, Option.mem_some_iff] at hattr
    rw [← hattr]
    exact hstyle
  case runs =>
    intro row index view hview column hleft hright attr hattr
    rw [frameRowRun] at hview
    cases hsource : frameRow newest.2 row with
    | none => simp [hsource] at hview
    | some source =>
      cases hrun : source.runs[index]? with
      | none => simp [hsource, hrun] at hview
      | some part =>
        simp only [hsource, hrun, Option.mem_def] at hview
        obtain ⟨hl, hc, hpart⟩ := fillPackedRunView_eq_some hview
        obtain ⟨hcolumn, hrow, hstyle⟩ := hstyled.shows.runView_packedStyle hgridColumns
          hlast.frameRows hfit hstyled.default hsource (List.mem_of_getElem? hrun)
          ⟨hl.ge, by omega, hpart⟩ hleft hright
        rw [hreported column hcolumn row hrow, Option.mem_some_iff] at hattr
        rw [← hattr]
        exact hstyle
  case spans =>
    intro row maxCells view hview column hleft hright attr hattr
    rw [frameForEachRowSpan] at hview
    split at hview
    · exact absurd hview List.not_mem_nil
    · cases hsource : frameRow newest.2 row with
      | none => simp [hsource] at hview
      | some source =>
        simp only [hsource] at hview
        obtain ⟨part, hpart, hwithin⟩ := mem_rowSpans hview
        obtain ⟨hcolumn, hrow, hstyle⟩ := hstyled.shows.runView_packedStyle hgridColumns
          hlast.frameRows hfit hstyled.default hsource hpart hwithin hleft hright
        rw [hreported column hcolumn row hrow, Option.mem_some_iff] at hattr
        rw [← hattr]
        exact hstyle

end run

/-- A frame, output that scrolls one line, and the frame that reuses the scrolled row. -/
theorem stylesShown_scroll :
    let run := (newRun (linesScreen 0 0)).calls ucs4ToUtf8
      [.takePackedFrame (linesDraw 0 1), .feedOutput [10] (linesScreen 1 1),
        .takePackedFrame (linesDraw 1 2)]
    ∀ newest ∈ run.taken.head?, StylesShown run.reported newest.2 := by
  refine stylesShown ucs4ToUtf8 (reachable_calls (.init ⟨_, rfl⟩)
    ⟨⟨?_, ⟨by decide, by decide, by decide, by decide, ?_, ?_⟩⟩, ⟨trivial, trivial⟩,
      ⟨?_, ⟨by decide, by decide, by decide, by decide, ?_, ?_⟩⟩, trivial⟩)
  · exact fun h => absurd h (by decide)
  · exact fun _ => by decide
  · decide
  · exact fun _ => by decide
  · exact fun _ => by decide
  · decide

/-! ## A full table -/

/-- Different attributes for every number below 65536, none of them in the default style. -/
def paletteAttr (n : Nat) : TsmScreenAttr where
  fr := (n % 256).toUInt8
  fg := (n / 256).toUInt8
  fb := 1

theorem packedStyleFor_paletteAttr_ne (n : Nat) :
    packedStyleFor (paletteAttr n) ≠ defaultStyle := by
  intro h
  have hblue := congrArg (fun style => style.foreground.blue) h
  exact absurd hblue (by change ¬ (1 : UInt8) = 0; decide)

theorem packedStyleFor_paletteAttr_inj {m n : Nat} (hm : m < 65536) (hn : n < 65536)
    (h : packedStyleFor (paletteAttr m) = packedStyleFor (paletteAttr n)) : m = n := by
  have hred : (m % 256).toUInt8 = (n % 256).toUInt8 :=
    congrArg (fun style => style.foreground.red) h
  have hgreen : (m / 256).toUInt8 = (n / 256).toUInt8 :=
    congrArg (fun style => style.foreground.green) h
  -- the number is read back from the red and the green channel
  have hr := congrArg UInt8.toNat hred
  have hg := congrArg UInt8.toNat hgreen
  simp only [Nat.toUInt8_eq, UInt8.toNat_ofNat'] at hr hg
  omega

/-- One row of blank cells, each in another style. -/
def paletteScreen (columns : Nat) (hpos : 0 < columns) (hlt : columns < 4294967296) : Screen where
  width := columns
  height := 1
  widthPos := hpos
  widthLt := hlt
  heightPos := Nat.one_pos
  cell := fun column _ => { attr := paletteAttr column }
  rowId := fun row => row

/-- The first draw of it, which fills the table with as many styles as there are columns. -/
def paletteDraw (columns : Nat) : Draw where
  calls := (List.range columns).map fun column => ⟨{ attr := paletteAttr column }, column, 0, 1⟩
  age := 1

variable {columns : Nat} {hpos : 0 < columns} {hlt : columns < 4294967296}

/-- The draw meets libtsm's contract, as every cell is reported. -/
theorem drawContract_paletteDraw :
    DrawContract ucs4ToUtf8 (newRun (paletteScreen columns hpos hlt)) (paletteDraw columns) := by
  constructor
  case once =>
    rw [paletteDraw, List.map_map]
    refine List.Nodup.map (fun a b hab => ?_) List.nodup_range
    simpa using hab
  case current =>
    intro call hcall _ _
    obtain ⟨column, -, rfl⟩ := List.mem_map.1 hcall
    rfl
  case fit =>
    intro call hcall
    obtain ⟨column, -, rfl⟩ := List.mem_map.1 hcall
    exact show 1 ≤ 128 by decide
  case age =>
    exact Nat.one_ne_zero
  case all =>
    intro _ column hcolumn row hrow
    refine ⟨⟨{ attr := paletteAttr column }, column, 0, 1⟩, ?_, rfl, ?_, Nat.one_pos⟩
    · exact List.mem_map.2 ⟨column, List.mem_range.2 hcolumn, rfl⟩
    · exact (Nat.lt_one_iff.1 hrow).symm
  case changed =>
    intro last hlast
    exact absurd hlast (by simp [newRun])

theorem viewportBytes_paletteScreen :
    viewportBytes ucs4ToUtf8 (paletteScreen columns hpos hlt) = columns := by
  change ∑ _row ∈ Finset.range 1, ∑ _column ∈ Finset.range columns, 1 = columns
  rw [Finset.sum_range_one, ← Finset.card_eq_sum_ones, Finset.card_range]

/-- A table within the limit lacks one of the default style and 65535 others. -/
theorem exists_paletteStyle_not_mem {table : List PackedStyle}
    (hbounded : table.length ≤ styleLimit) (hdefault : table[0]? = some defaultStyle) :
    ∃ column < 65535, packedStyleFor (paletteAttr column) ∉ table := by
  by_contra hall
  simp only [not_exists, not_and, not_not] at hall
  have hnodup : (defaultStyle :: (List.range 65535).map
      fun column => packedStyleFor (paletteAttr column)).Nodup := by
    refine List.nodup_cons.2 ⟨fun hmem => ?_, ?_⟩
    · obtain ⟨column, -, heq⟩ := List.mem_map.1 hmem
      exact packedStyleFor_paletteAttr_ne column heq
    · refine List.Nodup.map_on (fun a ha b hb hab => ?_) List.nodup_range
      rw [List.mem_range] at ha hb
      exact packedStyleFor_paletteAttr_inj (by omega) (by omega) hab
  have hsub : (defaultStyle :: (List.range 65535).map
      fun column => packedStyleFor (paletteAttr column)) ⊆ table := by
    intro style hstyle
    rcases List.mem_cons.1 hstyle with rfl | hstyle
    · exact List.mem_of_getElem? hdefault
    · obtain ⟨column, hcolumn, rfl⟩ := List.mem_map.1 hstyle
      exact hall column (List.mem_range.1 hcolumn)
  -- 65536 different styles do not fit into a table of at most 65535
  have hle := (List.subperm_of_subset hnodup hsub).length_le
  rw [List.length_cons, List.length_map, List.length_range] at hle
  change _ ≤ 65535 at hbounded
  omega

theorem reuseJustified_newRun (screen : Screen) (draw : Draw) :
    ReuseJustified (newRun screen) (.takePackedFrame draw) := by
  intro hreuse
  have hinitial := (reuseScrolledRows_spec hreuse).1
  exact absurd hinitial Bool.noConfusion

/-- The frame of `paletteScreen` has a view of every cell. -/
theorem exists_frameCell_paletteScreen {column : Nat} (hcolumn : column < columns) :
    ∃ view, frameCell (takePackedFrame ucs4ToUtf8 (newImpl (paletteScreen columns hpos hlt))
      (paletteScreen columns hpos hlt) (paletteDraw columns)) column 0 = some view := by
  have hinit : (terminalSystem ucs4ToUtf8).Reachable (StyleContract ucs4ToUtf8)
      (newRun (paletteScreen columns hpos hlt)) := .init ⟨_, rfl⟩
  have hinv := cacheInvariant hinit
  have hbytes : viewportBytes ucs4ToUtf8 (paletteScreen columns hpos hlt) < 4294967296 :=
    viewportBytes_paletteScreen.trans_lt hlt
  have hbelow := (GridShowsText.takenGrid hinit drawContract_paletteDraw
    (reuseJustified_newRun _ _) hbytes .empty fun _ htaken => absurd htaken List.not_mem_nil).1
  have hgrid : GridReachable ucs4ToUtf8 (takenGrid ucs4ToUtf8
      (newImpl (paletteScreen columns hpos hlt)) (paletteScreen columns hpos hlt)
      (paletteDraw columns)) := GridReachable.empty.takenGrid hbelow
  have hagree : RowViewsAgree (takePackedFrame ucs4ToUtf8
      (newImpl (paletteScreen columns hpos hlt)) (paletteScreen columns hpos hlt)
      (paletteDraw columns)) 0 :=
    hgrid.invariant.rowViewsAgree (takenGrid_columns hinv.table).symm
      (takenGrid_rows hinv.table).symm Nat.one_pos
  exact hagree.cells column hcolumn

/-- Of 65535 styles besides the default one some style is refused, and its cell appears in the
default style. -/
theorem not_stylesShown : ¬ ∀ run, (terminalSystem ucs4ToUtf8).Reachable
    (StyleContract ucs4ToUtf8) run → ∀ newest ∈ run.taken.head?, ∀ column row,
    ∀ view ∈ frameCell newest.2 column row, ∀ attr ∈ run.reported column row,
    view.packedStyle = packedStyleFor attr := by
  intro h
  -- one frame of a screen with 65535 styles besides the default one
  let run := newRun (paletteScreen 65535 (by decide) (by decide))
  have hinit : (terminalSystem ucs4ToUtf8).Reachable (StyleContract ucs4ToUtf8) run :=
    .init ⟨_, rfl⟩
  have hallowed : StyleContract ucs4ToUtf8 run (.takePackedFrame (paletteDraw 65535)) :=
    ⟨reuseJustified_newRun _ _, drawContract_paletteDraw⟩
  have hreach : (terminalSystem ucs4ToUtf8).Reachable (StyleContract ucs4ToUtf8)
      (run.takes ucs4ToUtf8 (paletteDraw 65535)) := .step hinit hallowed rfl
  have hstyled := styledFrame_step hinit (fun _ htaken => absurd htaken List.not_mem_nil) hallowed
  have hbounded := (@GridTable.takenGrid ucs4ToUtf8 run.impl run.screen (paletteDraw 65535)
    (cacheInvariant hinit).table).bounded
  obtain ⟨column, hcolumn, hnot⟩ := exists_paletteStyle_not_mem hbounded hstyled.default
  -- the cell of a style that found no place appears in the default style
  obtain ⟨view, hview⟩ := exists_frameCell_paletteScreen hcolumn
  have hclaim := h _ hreach _ rfl column 0 view hview _
    (reported_eq hreach _ rfl column hcolumn 0 Nat.one_pos)
  obtain ⟨-, -, hdisplayed⟩ := hstyled.shows.frameCell_packedStyle rfl rfl hstyled.default hview
  rw [hclaim, displayedStyle] at hdisplayed
  split at hdisplayed
  · exact hnot ‹_›
  · exact packedStyleFor_paletteAttr_ne column hdisplayed

end SakuraTerminal.Core
