import SakuraTerminal.Core.WrappedOffsets

/-!
# Frames as deltas

A frame that is no full repaint tells a frontend to shift what it shows by `scroll_delta` rows and
to repaint the dirty spans. `FrameDelta` says that this is right for two frames in sequence, and
`frontendImage` is what such a frontend shows. Both hold along every run of libtsm's contract in
which the row texts stay below 4 GiB (`framesAreDeltas`).

The bound is needed. Past 4 GiB the 32-bit text offsets wrap, and a cell can show the text of
another one that changed; a row of `2 ^ 25 + 1` columns with 128 bytes of text in each is long
enough (`not_framesAreDeltas`).

The step lemma compares the grid of the new frame with the cache it was drawn over. A cell outside
of the dirty spans was not recorded, so it is the cell of that cache (`frameCell_of_uncovered`), and
the cache is the grid of the last frame, moved by `scroll_delta` rows where rows are reused
(`drawnOver`). A scroll without reuse makes the frame a full repaint, for which the deltas ask
nothing.
-/

set_option autoImplicit false

namespace SakuraTerminal.Core

open SakuraTerminal.Foundations SakuraTerminal.Foundations.InternTable

/-- `newer` is a sound delta of `older`: outside its dirty spans it shows the cells of `older`,
`scroll_delta` rows further down, and an unchanged frame shows the same cells. The source row of an
uncovered cell is a row of `older`, so a frontend never needs a cell that it does not have. -/
structure FrameDelta (older newer : PackedFrame) : Prop where
  size : newer.fullRepaint = false → older.columns = newer.columns ∧ older.rows = newer.rows
  moved : newer.fullRepaint = false → ∀ column < newer.columns, ∀ row < newer.rows,
    ¬ SpansCover newer.dirtySpans column row → ∃ source < older.rows,
      (source : Int) = row + newer.scrollDelta ∧
        frameCell newer column row = frameCell older column source ∧
        frameCell newer column row ≠ none
  unchanged : newer.changed = false → newer.scrollDelta = 0 ∧
    ∀ column < newer.columns, ∀ row < newer.rows,
      frameCell newer column row = frameCell older column row

/-- The image of a frontend that shifts it by `scroll_delta` and repaints the dirty spans only. A
full repaint begins a new image. -/
def frontendImage : List (Screen × PackedFrame) → Nat → Nat → Option CellView
  | [], _, _ => none
  | taken :: older, column, row =>
    if taken.2.fullRepaint = true ∨ SpansCover taken.2.dirtySpans column row then
      frameCell taken.2 column row
    -- the pixels the shift copies come from `scroll_delta` rows further down
    else frontendImage older column (row + taken.2.scrollDelta : Int).toNat

/-- Consecutive frames are deltas, and the frontend shows the cells of the newest frame. The second
part is what the deltas are for. -/
structure FramesAreDeltas (taken : List (Screen × PackedFrame)) : Prop where
  deltas : taken.IsChain fun newer older => FrameDelta older.2 newer.2
  frontend : ∀ newest ∈ taken.head?, ∀ column < newest.2.columns, ∀ row < newest.2.rows,
    frontendImage taken column row = frameCell newest.2 column row

/-- What is needed of libtsm: texts that fit, and every cell reported when the viewport was moved.
Nothing else is assumed of libtsm: it may draw what it likes as long as the user does not scroll. -/
def DeltaContract (tsmUcs4ToUtf8 : Nat → List UInt8) (run : TerminalRun) : Op → Prop
  | .takePackedFrame draw => CallsFit tsmUcs4ToUtf8 draw ∧
      (run.viewportMoved = true →
        ReportsAll run.screen draw (drawSince run.impl run.screen))
  | _ => True

section take

variable {tsmUcs4ToUtf8 : Nat → List UInt8} {impl : Impl} {screen : Screen} {draw : Draw}

/-- When all cells are reported and no rows are reused, the frame is a full repaint. -/
theorem fullRepaint_of_reportsAll (htable : GridTable (cachedGrid impl))
    (hfit : CallsFit tsmUcs4ToUtf8 draw)
    (hall : ReportsAll screen draw (drawSince impl screen))
    (hreuse : reuseScrolledRows impl screen = false) :
    (takenRegion tsmUcs4ToUtf8 impl screen draw).fullRepaint = true := by
  have hspec : TakeSpec tsmUcs4ToUtf8 impl screen draw _ := takeSpec htable
  cases hregion : (takenRegion tsmUcs4ToUtf8 impl screen draw).fullRepaint with
  | true => rfl
  | false =>
    obtain ⟨-, -, -, -, hne⟩ := takenRegion_notFull hregion
    refine absurd (dirty_eq_wholeGrid hspec.tracks screen.widthPos screen.heightPos ?_) hne
    intro column hcolumn row hrow
    obtain ⟨call, hcall, rfl, rfl, hage⟩ := hall column hcolumn row hrow
    have haccepts := accepts_of_newer hcolumn hrow hage
    -- a reported cell is recorded, found in a scrolled cache or too long; only the first is
    -- possible here
    rcases hspec.drawn.answered call hcall haccepts with ⟨change, hchange, hc, hr⟩ | hfound | hnone
    · rw [← hspec.changedCells] at hchange
      have hcover := hspec.covers change hchange
      rwa [hc, hr] at hcover
    · have := hspec.drawn.setting.reuse.symm.trans hfound.1
      rw [show (drawContext impl screen).reuseScrolledRows = reuseScrolledRows impl screen from rfl,
        hreuse] at this
      exact absurd this Bool.false_ne_true
    · rw [encodeText_of_length_le (hfit call hcall)] at hnone
      exact absurd hnone (Option.some_ne_none _)

/-- An uncovered cell keeps content, text and style of the cell it was drawn over. -/
theorem frameCell_of_uncovered (hreach : GridReachable tsmUcs4ToUtf8 (cachedGrid impl))
    (htext : TextBelow4GiB (takenGrid tsmUcs4ToUtf8 impl screen draw)) {older : PackedFrame}
    (hgrid : cachedGrid impl = older.grid) (hcolumns : older.grid.columns = older.columns)
    (hsize : older.columns = screen.width) {column row source : Nat}
    (hcolumn : column < screen.width) (hrow : row < screen.height) (hsource : source < older.rows)
    (hrows : older.grid.rows = older.rows)
    (hsame : (drawGrid impl screen).rowData[row]? = (cachedGrid impl).rowData[source]?)
    (huncovered :
      ¬ SpansCover (takenContext tsmUcs4ToUtf8 impl screen draw).dirtySpans column row) :
    frameCell (takePackedFrame tsmUcs4ToUtf8 impl screen draw) column row =
        frameCell older column source ∧
      frameCell (takePackedFrame tsmUcs4ToUtf8 impl screen draw) column row ≠ none := by
  have hinv := hreach.invariant
  have hspec : TakeSpec tsmUcs4ToUtf8 impl screen draw _ := takeSpec hinv.table
  have hdrawGrid := (hreach.drawGrid screen).invariant
  have htaken := (hreach.takenGrid htext).invariant
  have htakenColumns := @takenGrid_columns tsmUcs4ToUtf8 impl screen draw hinv.table
  -- no cell recorded by the draw lies at this position
  have hno : ∀ change ∈ (drawPass tsmUcs4ToUtf8 (drawContext impl screen) draw.calls).changedCells,
      ¬ (change.column = column ∧ change.row = row) := by
    rintro change hchange ⟨rfl, rfl⟩
    rw [← hspec.changedCells] at hchange
    exact huncovered (hspec.covers change hchange)
  have hgridColumns : column < (drawPass tsmUcs4ToUtf8 (drawContext impl screen)
      draw.calls).grid.columns := by
    rw [drawnGrid_columns hspec]
    exact hcolumn
  have hrowData : (drawPass tsmUcs4ToUtf8 (drawContext impl screen)
      draw.calls).grid.rowData[row]? = older.grid.rowData[source]? := by
    rw [hspec.drawn.setting.rowData, ← hgrid]
    exact hsame
  have hcellOld : gridCell (drawPass tsmUcs4ToUtf8 (drawContext impl screen) draw.calls).grid
      column row = gridCell older.grid column source := by rw [gridCell, gridCell, hrowData]
  have htextOld : gridText (drawPass tsmUcs4ToUtf8 (drawContext impl screen) draw.calls).grid
      column row = gridText older.grid column source := by rw [gridText, gridText, hrowData]
  have hsourceLt : source < older.grid.rowData.length := by
    rw [← hgrid, hinv.table.rows, hgrid, hrows]
    exact hsource
  have hlayout := hgrid ▸ hinv.layout
  have hrowLayout := hlayout _ (List.getElem_mem hsourceLt)
  have hcolumnOld : column < (older.grid.rowData[source]).cells.length := by
    rw [hrowLayout.columns, hcolumns, hsize]
    exact hcolumn
  have hcell : gridCell older.grid column source =
      some (older.grid.rowData[source]).cells[column] := by
    rw [gridCell, List.getElem?_eq_getElem hsourceLt, Option.bind_some,
      List.getElem?_eq_getElem hcolumnOld]
  have htextSome : gridText older.grid column source = some
      (cellText older.grid.rowData[source] (older.grid.rowData[source]).cells[column]) := by
    rw [gridText, List.getElem?_eq_getElem hsourceLt, Option.bind_some,
      List.getElem?_eq_getElem hcolumnOld, Option.map_some]
  have hstyleLt := hrowLayout.styles _ (List.getElem_mem hcolumnOld)
  have hstyle := List.getElem?_eq_getElem hstyleLt
  -- the view of the older frame
  have hviewOld := frameCell_of_grid hlayout hcolumns.symm hsource hcell htextSome hstyle
  -- the view of the newer frame: same content, same text, and a style table that only grew
  rw [takenGrid_eq] at htext
  obtain ⟨cell', hcell', hcontent⟩ := gridCell_rebuild_unchanged
    (drawPass tsmUcs4ToUtf8 (drawContext impl screen) draw.calls).changedText hgridColumns hno
    (hcellOld.trans hcell)
  have htext' := gridText_rebuild_unchanged (hdrawGrid.layout.drawn hspec.drawn) htext
    hgridColumns hno
  rw [← takenGrid_eq] at hcell' htext'
  have hstyle' : (takenGrid tsmUcs4ToUtf8 impl screen draw).styles[cell'.styleIndex]? =
      some older.grid.styles[((older.grid.rowData[source]).cells[column]).styleIndex] := by
    rw [takenGrid_eq, rebuildPackedRows_styles, hcontent.styleIndex]
    refine hspec.drawn.growth.getElem? ?_
    change (drawGrid impl screen).styles[_]? = _
    rw [drawGrid_styles, hgrid, ensuredStyles_of_ne_nil (List.ne_nil_of_length_pos (by omega))]
    exact hstyle
  have hviewNew := @frameCell_of_grid (takePackedFrame tsmUcs4ToUtf8 impl screen draw) row
    htaken.layout htakenColumns.symm hrow column cell' hcell' _
    (htext'.trans (htextOld.trans htextSome)) _ hstyle'
  rw [hviewNew, hviewOld, hcontent.codepoint, hcontent.width]
  exact ⟨rfl, Option.some_ne_none _⟩

end take

section run

variable {tsmUcs4ToUtf8 : Nat → List UInt8}

/-- The assumptions under which frames are deltas. -/
def DeltaAllowed (tsmUcs4ToUtf8 : Nat → List UInt8) (run : TerminalRun) (op : Op) : Prop :=
  DeltaContract tsmUcs4ToUtf8 run op ∧ RowTextsFit tsmUcs4ToUtf8 run op

/-- Without a full repaint nothing was scrolled, or the scrolled rows are reused. -/
theorem scrolled_of_notFull {run : TerminalRun} (hinv : CacheInvariant run.impl)
    (hmoved : run.impl.pendingViewportScrollDelta ≠ 0 → run.viewportMoved = true) {draw : Draw}
    (hcontract : DeltaContract tsmUcs4ToUtf8 run (.takePackedFrame draw))
    (hnotFull : (takenRegion tsmUcs4ToUtf8 run.impl run.screen draw).fullRepaint = false) :
    (frameScrollDelta run.impl = 0 ∧ reuseScrolledRows run.impl run.screen = false) ∨
      (run.impl.pendingContentScrollDelta ≠ 0 ∧
        frameScrollDelta run.impl = run.impl.pendingContentScrollDelta ∧
        reuseScrolledRows run.impl run.screen = true) := by
  have hspec : TakeSpec tsmUcs4ToUtf8 run.impl run.screen draw _ := takeSpec hinv.table
  obtain ⟨hfull, -, -, -, -⟩ := takenRegion_notFull hnotFull
  have hparts : initialFullRepaint run.impl run.screen = false ∧
      (run.impl.pendingContentScrollDelta ≠ 0 → reuseScrolledRows run.impl run.screen = true) := by
    simpa [drawFullRepaint] using hspec.fullRepaint.symm.trans hfull
  by_cases hcontent : run.impl.pendingContentScrollDelta = 0
  · left
    -- nothing was rotated, and a pending viewport scroll would have repainted everything
    have hreuse : reuseScrolledRows run.impl run.screen = false := by
      cases h : reuseScrolledRows run.impl run.screen with
      | false => rfl
      | true => exact absurd hcontent (reuseScrolledRows_spec h).2.1
    have hviewport : run.impl.pendingViewportScrollDelta = 0 := by
      by_contra hne
      have hall := hcontract.2 (hmoved hne)
      rw [fullRepaint_of_reportsAll hinv.table hcontract.1 hall hreuse] at hnotFull
      exact absurd hnotFull (by simp)
    exact ⟨by simp [frameScrollDelta, hcontent, hviewport], hreuse⟩
  · right
    exact ⟨hcontent, if_pos hcontent, hparts.2 hcontent⟩

/-- Without a full repaint the frame is drawn over the cached grid, moved by `scroll_delta`. -/
theorem drawnOver {run : TerminalRun} {frame : PackedFrame} {screen : Screen}
    (hinv : CacheInvariant run.impl) (hlast : LastTaken run.impl screen frame)
    (hmoved : run.impl.pendingViewportScrollDelta ≠ 0 → run.viewportMoved = true) {draw : Draw}
    (hcontract : DeltaContract tsmUcs4ToUtf8 run (.takePackedFrame draw))
    (hnotFull : (takenRegion tsmUcs4ToUtf8 run.impl run.screen draw).fullRepaint = false) :
    frame.columns = run.screen.width ∧ frame.rows = run.screen.height ∧
      ∀ column < run.screen.width, ∀ row < run.screen.height,
        ¬ SpansCover (takenContext tsmUcs4ToUtf8 run.impl run.screen draw).dirtySpans column row →
        ∃ source < run.screen.height, (source : Int) = row + frameScrollDelta run.impl ∧
          (drawGrid run.impl run.screen).rowData[row]? =
            (cachedGrid run.impl).rowData[source]? := by
  have hspec : TakeSpec tsmUcs4ToUtf8 run.impl run.screen draw _ := takeSpec hinv.table
  obtain ⟨hfull, -, -, -, -⟩ := takenRegion_notFull hnotFull
  have hinitial : initialFullRepaint run.impl run.screen = false := by
    have hdraw := hspec.fullRepaint.symm.trans hfull
    rw [drawFullRepaint, Bool.or_eq_false_iff] at hdraw
    exact hdraw.1
  have hsize : run.screen.width = run.impl.packedLastColumns ∧
      run.screen.height = run.impl.packedLastRows := by
    simp only [initialFullRepaint, Bool.or_eq_false_iff, decide_eq_false_iff_not, not_not]
      at hinitial
    exact ⟨hinitial.2.1.1, hinitial.2.1.2⟩
  have hcolumns : frame.columns = run.screen.width := (hsize.1.trans hlast.columns).symm
  have hrows : frame.rows = run.screen.height := (hsize.2.trans hlast.rows).symm
  have hgridColumns : (cachedGrid run.impl).columns = run.screen.width := by
    rw [hlast.grid, hlast.gridColumns, hcolumns]
  have hgridRows : (cachedGrid run.impl).rows = run.screen.height := by
    rw [hlast.grid, hlast.gridRows, hrows]
  refine ⟨hcolumns, hrows, fun column hcolumn row hrow huncovered => ?_⟩
  rcases scrolled_of_notFull hinv hmoved hcontract hnotFull with
    ⟨hdelta, hreuse⟩ | ⟨hcontent, hdelta, hreuse⟩
  · refine ⟨row, hrow, ?_, ?_⟩
    · rw [hdelta, Int.add_zero]
    · rw [drawGrid_eq_cachedGrid hinv.table hgridColumns hgridRows hreuse]
  · -- the rows were rotated, and the exposed ones are covered
    have hlt := (reuseScrolledRows_spec hreuse).2.2.2.2
    have hinside : 0 ≤ (row : Int) + run.impl.pendingContentScrollDelta ∧
        (row : Int) + run.impl.pendingContentScrollDelta < run.screen.height := by
      by_contra hout
      refine huncovered (hspec.exposed hreuse column row hcolumn hrow ?_ ?_)
      · rw [exposedRows]
        split
        · simp only
          omega
        · exact Nat.zero_le _
      · rw [exposedRows]
        split
        · exact hrow
        · simp only
          omega
    refine ⟨((row : Int) + run.impl.pendingContentScrollDelta).toNat, by omega, ?_, ?_⟩
    · rw [hdelta]
      omega
    · exact drawGrid_row hinv.table hgridColumns hgridRows hreuse hrow (by omega) (by omega)

/-- A new frame is a delta of the newest one before it. -/
theorem frameDelta_step {run : TerminalRun} {taken : Screen × PackedFrame}
    {older : List (Screen × PackedFrame)}
    (hreach : (terminalSystem tsmUcs4ToUtf8).Reachable (DeltaAllowed tsmUcs4ToUtf8) run)
    {draw : Draw} (hallowed : DeltaAllowed tsmUcs4ToUtf8 run (.takePackedFrame draw))
    (htaken : run.taken = taken :: older) :
    FrameDelta taken.2 (takePackedFrame tsmUcs4ToUtf8 run.impl run.screen draw) := by
  have hinv := cacheInvariant hreach
  have hlast := (remembersTaken hreach).lastTaken htaken
  have hmoved := viewportMoved_of_pending hreach
  have hgrid := gridReachable_cachedGrid (fun _ _ h => h.2) hreach
  have hover := drawnOver hinv hlast hmoved hallowed.1
  -- an uncovered cell is the cell it was drawn over, which is the old one moved by `scroll_delta`
  have hcells : ∀ {column row : Nat}, column < run.screen.width → row < run.screen.height →
      (takenRegion tsmUcs4ToUtf8 run.impl run.screen draw).fullRepaint = false →
      ¬ SpansCover (takenContext tsmUcs4ToUtf8 run.impl run.screen draw).dirtySpans column row →
      ∃ source < taken.2.rows, (source : Int) = row + frameScrollDelta run.impl ∧
        frameCell (takePackedFrame tsmUcs4ToUtf8 run.impl run.screen draw) column row =
            frameCell taken.2 column source ∧
          frameCell (takePackedFrame tsmUcs4ToUtf8 run.impl run.screen draw) column row ≠ none := by
    intro column row hcolumn hrow hnotFull huncovered
    obtain ⟨hcolumns, hrows, hsources⟩ := hover hnotFull
    obtain ⟨source, hsource, heq, hsame⟩ := hsources column hcolumn row hrow huncovered
    rw [← hrows] at hsource
    exact ⟨source, hsource, heq, frameCell_of_uncovered hgrid hallowed.2 hlast.grid
      hlast.gridColumns hcolumns hcolumn hrow hsource hlast.gridRows hsame huncovered⟩
  constructor
  case size =>
    intro hnotFull
    obtain ⟨hcolumns, hrows, -⟩ := hover hnotFull
    exact ⟨hcolumns, hrows⟩
  case moved =>
    intro hnotFull column hcolumn row hrow huncovered
    obtain ⟨-, -, -, hspans, -⟩ := takenRegion_notFull hnotFull
    change ¬ SpansCover (takenRegion tsmUcs4ToUtf8 run.impl run.screen draw).dirtySpans _ _
      at huncovered
    rw [hspans] at huncovered
    exact hcells hcolumn hrow hnotFull huncovered
  case unchanged =>
    intro hchanged
    change takenChanged tsmUcs4ToUtf8 run.impl run.screen draw = false at hchanged
    obtain ⟨-, -, hnotFull, hspans⟩ := takenChanged_false hinv.table hchanged
    have huncovered : ∀ column row, ¬ SpansCover
        (takenContext tsmUcs4ToUtf8 run.impl run.screen draw).dirtySpans column row := by
      intro column row
      rw [hspans]
      exact not_spansCover_nil column row
    have hzero : frameScrollDelta run.impl = 0 := by
      -- the first and the last row both have a source in the grid
      have hfirst := hcells run.screen.widthPos run.screen.heightPos hnotFull (huncovered 0 0)
      have hlastRow := hcells run.screen.widthPos
        (show run.screen.height - 1 < run.screen.height by have := run.screen.heightPos; omega)
        hnotFull (huncovered 0 _)
      obtain ⟨-, hrows, -⟩ := hover hnotFull
      obtain ⟨first, hfirstLt, hfirstEq, -⟩ := hfirst
      obtain ⟨last, hlastLt, hlastEq, -⟩ := hlastRow
      have := run.screen.heightPos
      omega
    refine ⟨hzero, fun column hcolumn row hrow => ?_⟩
    obtain ⟨source, -, heq, hcell, -⟩ := hcells hcolumn hrow hnotFull (huncovered column row)
    rw [hzero, Int.add_zero, Int.ofNat_inj] at heq
    rwa [heq] at hcell

/-- A frontend that follows deltas shows the newest frame. -/
theorem frontendImage_eq {taken : List (Screen × PackedFrame)}
    (hdeltas : taken.IsChain fun newer older => FrameDelta older.2 newer.2)
    (hfirst : ∀ oldest ∈ taken.getLast?, oldest.2.fullRepaint = true) :
    ∀ newest ∈ taken.head?, ∀ column < newest.2.columns, ∀ row < newest.2.rows,
      frontendImage taken column row = frameCell newest.2 column row := by
  induction taken with
  | nil => simp
  | cons newest older ih =>
    intro _ hnewest column hcolumn row hrow
    simp only [List.head?_cons, Option.mem_some_iff] at hnewest
    subst hnewest
    rw [frontendImage]
    by_cases hpaint : newest.2.fullRepaint = true ∨ SpansCover newest.2.dirtySpans column row
    · rw [if_pos hpaint]
    · rw [if_neg hpaint]
      simp only [not_or, Bool.not_eq_true] at hpaint
      -- the induction is on the frames, newest first: an uncovered cell is followed to the frame
      -- before
      cases older with
      | nil =>
        have := hfirst newest (by simp)
        rw [hpaint.1] at this
        exact absurd this Bool.false_ne_true
      | cons previous older =>
        rw [List.isChain_cons_cons] at hdeltas
        have hdelta := hdeltas.1
        obtain ⟨source, hsource, heq, hcell, -⟩ :=
          hdelta.moved hpaint.1 column hcolumn row hrow hpaint.2
        have hsize := hdelta.size hpaint.1
        rw [← heq, Int.toNat_natCast, hcell]
        refine ih hdeltas.2 ?_ previous (by simp) column (by omega) source hsource
        intro oldest holdest
        exact hfirst oldest (by simpa using holdest)

/-- The first frame of a terminal is a full repaint. -/
theorem fullRepaint_first {allowed : TerminalRun → Op → Prop} {run : TerminalRun}
    (h : (terminalSystem tsmUcs4ToUtf8).Reachable allowed run) :
    ∀ oldest ∈ run.taken.getLast?, oldest.2.fullRepaint = true := by
  refine h.invariant
    (I := fun run => ∀ oldest ∈ run.taken.getLast?, oldest.2.fullRepaint = true) ?_ ?_
  · rintro _ ⟨screen, rfl⟩ oldest holdest
    simp [newRun] at holdest
  · intro run op run' hreach hrun _ hstep
    rw [hstep]
    rcases next_cases tsmUcs4ToUtf8 run op with ⟨draw, rfl, -⟩ | hquiet
    · intro oldest holdest
      change oldest ∈ (_ :: run.taken).getLast? at holdest
      cases htaken : run.taken with
      | nil =>
        rw [htaken, List.getLast?_singleton, Option.mem_some_iff] at holdest
        subst holdest
        have hinvalid := ((remembersTaken hreach).new htaken).1
        -- `packed_frame_valid_` is still false, so the metadata alone ask for a full repaint
        cases hregion : (takenRegion tsmUcs4ToUtf8 run.impl run.screen draw).fullRepaint with
        | true => exact hregion
        | false =>
          have hspec : TakeSpec tsmUcs4ToUtf8 run.impl run.screen draw _ :=
            takeSpec (cacheInvariant hreach).table
          have hfull := hspec.fullRepaint.symm.trans (takenRegion_notFull hregion).1
          simp [drawFullRepaint, initialFullRepaint, hinvalid] at hfull
      | cons taken older =>
        rw [htaken, List.getLast?_cons_cons] at holdest
        exact hrun oldest (by rw [htaken]; exact holdest)
    · rw [hquiet.taken]
      exact hrun

/-- Along every run of the contract in which row texts stay below 4 GiB, frames are deltas. -/
theorem framesAreDeltas (tsmUcs4ToUtf8 : Nat → List UInt8) {run : TerminalRun}
    (h : (terminalSystem tsmUcs4ToUtf8).Reachable (DeltaAllowed tsmUcs4ToUtf8) run) :
    FramesAreDeltas run.taken := by
  have hdeltas : run.taken.IsChain fun newer older => FrameDelta older.2 newer.2 :=
    taken_isChain (fun _ _ _ _ hreach hallowed htaken => frameDelta_step hreach hallowed htaken) h
  exact ⟨hdeltas, frontendImage_eq hdeltas (fullRepaint_first h)⟩

end run

/-- A frame, output that scrolls one line, and the frame that reuses the scrolled row. -/
theorem framesAreDeltas_scroll : FramesAreDeltas ((newRun (linesScreen 0 0)).calls ucs4ToUtf8
    [.takePackedFrame (linesDraw 0 1), .feedOutput [10] (linesScreen 1 1),
      .takePackedFrame (linesDraw 1 2)]).taken := by
  refine framesAreDeltas ucs4ToUtf8 (reachable_calls (.init ⟨_, rfl⟩) ⟨⟨?_, ?_⟩, ⟨trivial, trivial⟩,
    ⟨?_, ?_⟩, trivial⟩)
  · exact ⟨by decide, fun h => absurd h (by decide)⟩
  · change TextBelow4GiB _
    decide
  · exact ⟨by decide, fun h => absurd h (by decide)⟩
  · change TextBelow4GiB _
    decide

/-- With a wrapped offset in the last column, the second of the two frames is no delta of the
first one. -/
theorem not_frameDelta_of_wrap (columns : Nat) (hpos : 0 < columns) (hlt : columns < 4294967296)
    (hone : columns ≠ 1) (hwrap : u32 (128 * (columns - 1)) = 0) :
    ¬ FrameDelta (glyphFrame columns hpos hlt) (otherFrame columns hpos hlt) := by
  intro h
  obtain ⟨hnotFull, -, -⟩ := otherFrame_spans columns hpos hlt hone
  obtain ⟨hglyph, hother, huncovered⟩ := lastCell_of_wrap columns hpos hlt hone hwrap
  have hlast : columns - 1 < columns := by omega
  obtain ⟨source, hsource, -, hcell, -⟩ :=
    h.moved hnotFull (columns - 1) hlast 0 Nat.one_pos huncovered
  have hzero : source = 0 := by
    have : source < 1 := hsource
    omega
  subst hzero
  rw [hcell, hglyph] at hother
  exact absurd hother (by decide +kernel)

/-- The contract alone does not make frames deltas: `2 ^ 25 + 1` columns of 128 bytes each. -/
theorem not_framesAreDeltas : ¬ ∀ (tsmUcs4ToUtf8 : Nat → List UInt8) (run : TerminalRun),
    (terminalSystem tsmUcs4ToUtf8).Reachable (DeltaContract tsmUcs4ToUtf8) run →
    FramesAreDeltas run.taken := by
  intro h
  have hpos : 0 < 33554433 := by decide
  have hlt : 33554433 < 4294967296 := by decide
  have hfit : ∀ codepoint, (cellBytes ucs4ToUtf8 (glyphCell codepoint)).length ≤ 128 →
      ∀ calls : List DrawCall, (∀ call ∈ calls, call.cell = glyphCell codepoint) →
      ∀ age, CallsFit ucs4ToUtf8 ⟨calls, age⟩ := by
    intro codepoint hbytes calls hcalls age call hcall
    rw [hcalls call hcall]
    exact hbytes
  have hreach : (terminalSystem ucs4ToUtf8).Reachable (DeltaContract ucs4ToUtf8)
      ((newRun (glyphScreen 33554433 hpos hlt 0x10000)).calls ucs4ToUtf8
        [.takePackedFrame (glyphDraw 33554433),
          .feedOutput otherText (glyphScreen 33554433 hpos hlt 0x10001),
          .takePackedFrame otherDraw]) := by
    refine reachable_calls (.init ⟨_, rfl⟩) ⟨⟨?_, fun h => absurd h Bool.false_ne_true⟩, trivial,
      ⟨?_, fun h => absurd h Bool.false_ne_true⟩, trivial⟩
    · refine hfit 0x10000 (by rw [← glyphText, encodeText_glyph.2]) _ ?_ 1
      intro call hcall
      obtain ⟨column, -, rfl⟩ := List.mem_map.1 hcall
      rfl
    · refine hfit 0x10001 (by rw [← otherText, encodeText_other.2]) _ ?_ 2
      intro call hcall
      rw [List.mem_singleton.1 hcall]
  have hdeltas := (h ucs4ToUtf8 _ hreach).deltas
  exact not_frameDelta_of_wrap 33554433 hpos hlt (by decide) (by decide)
    (List.isChain_cons_cons.1 hdeltas).1

end SakuraTerminal.Core
