import SakuraTerminal.Core.TerminalRun
import SakuraTerminal.Core.ReachableGrid

/-!
# What taking a frame does

`TakePackedFrame` draws into a context and then includes the cursor and the exposed rows.
`TakeSpec` collects what is known of the context afterwards, `takenRegion_notFull` what it means
that a frame is no full repaint, and `GridReachable.takenGrid` that the grid of a frame is
reachable. Along a run the cache is the grid of the newest frame (`CacheInvariant`).

The theorems about frames are proved along the history that `TerminalRun` keeps. `taken_isChain` and
`forall_taken` turn a statement about one step, `TakePackedFrame` from a reachable state, into one
about all frames of a run or about each frame and its predecessor. `LastTaken` is the link between
the two: the members of the core describe the newest frame of the history, so what the step reads
from its members can be said in terms of the frame before.
-/

set_option autoImplicit false

namespace SakuraTerminal.Core

open SakuraTerminal.Foundations SakuraTerminal.Foundations.InternTable

/-- The cache that `TakePackedFrame` starts from. -/
def cachedGrid (impl : Impl) : PackedGrid := impl.packedGridCache.getD {}

section take

variable {tsmUcs4ToUtf8 : Nat → List UInt8} {impl : Impl} {screen : Screen} {draw : Draw}

/-! ## The grid libtsm draws into -/

/-- libtsm draws into a grid of the size of its screen. -/
theorem drawGrid_columns (impl : Impl) (screen : Screen) :
    (drawGrid impl screen).columns = screen.width := by
  unfold drawGrid
  dsimp only
  split <;> simp

theorem drawGrid_rows (impl : Impl) (screen : Screen) :
    (drawGrid impl screen).rows = screen.height := by
  unfold drawGrid
  dsimp only
  split <;> simp

theorem drawGrid_styles (impl : Impl) (screen : Screen) :
    (drawGrid impl screen).styles = ensuredStyles (cachedGrid impl) := by
  unfold drawGrid cachedGrid
  dsimp only
  split <;> simp

/-- Sizing and rotating the cache keep its table. -/
theorem GridTable.drawGrid (h : GridTable (cachedGrid impl)) (screen : Screen) :
    GridTable (drawGrid impl screen) := by
  have hensured := h.ensure screen.width screen.height
  unfold Core.drawGrid
  dsimp only
  split
  · exact hensured.rotate _
  · exact hensured

/-- The grid that is drawn into has as many rows as it says, of the columns it says. -/
theorem RowsFit.drawGrid (h : RowsFit (cachedGrid impl)) (screen : Screen) :
    RowsFit (drawGrid impl screen) := by
  have hensured := h.ensure screen.height screen.widthPos screen.widthLt
  unfold Core.drawGrid
  dsimp only
  split
  · refine hensured.rotate _ ?_ ?_
    · rw [ensurePackedGrid_columns]
      exact screen.widthPos
    · rw [ensurePackedGrid_columns]
      exact screen.widthLt
  · exact hensured

/-- What it takes to reuse scrolled rows: a frame of the same kind before it, a scroll of the
content alone, and fewer lines than the screen has. -/
theorem reuseScrolledRows_spec (h : reuseScrolledRows impl screen = true) :
    initialFullRepaint impl screen = false ∧ impl.pendingContentScrollDelta ≠ 0 ∧
      impl.pendingViewportScrollDelta = 0 ∧ screen.sbLinePos ≥ screen.sbLineCount ∧
      impl.pendingContentScrollDelta.natAbs < screen.height := by
  have hle := i32_le screen.height
  simp only [reuseScrolledRows, Bool.and_eq_true, Bool.not_eq_true', decide_eq_true_eq] at h
  obtain ⟨⟨⟨⟨hrepaint, hcontent⟩, hviewport⟩, hposition⟩, hdelta⟩ := h
  exact ⟨hrepaint, hcontent, hviewport, hposition, by omega⟩

/-- The grid that libtsm draws into is reachable if the cache is. -/
theorem GridReachable.drawGrid (h : GridReachable tsmUcs4ToUtf8 (cachedGrid impl))
    (screen : Screen) : GridReachable tsmUcs4ToUtf8 (drawGrid impl screen) := by
  have hensured := GridReachable.ensure screen.width screen.height h screen.widthPos
    screen.heightPos screen.widthLt
  unfold Core.drawGrid
  dsimp only
  split
  · rename_i hreuse
    refine hensured.rotate _ ?_
    rw [ensurePackedGrid_rows]
    exact (reuseScrolledRows_spec hreuse).2.2.2.2
  · exact hensured

/-- When nothing is rotated and the size has not changed, libtsm draws into the cached grid. -/
theorem drawGrid_eq_cachedGrid (htable : GridTable (cachedGrid impl))
    (hcolumns : (cachedGrid impl).columns = screen.width)
    (hrows : (cachedGrid impl).rows = screen.height)
    (hreuse : reuseScrolledRows impl screen = false) :
    drawGrid impl screen = cachedGrid impl := by
  have hensured := ensurePackedGrid_of_size htable hcolumns hrows screen.heightPos
  unfold drawGrid
  dsimp only
  rw [if_neg (by simp [hreuse])]
  exact hensured

/-- Reused rows are those `delta` below in the cached grid. -/
theorem drawGrid_row (htable : GridTable (cachedGrid impl))
    (hcolumns : (cachedGrid impl).columns = screen.width)
    (hrows : (cachedGrid impl).rows = screen.height)
    (hreuse : reuseScrolledRows impl screen = true) {row source : Nat}
    (hrow : row < screen.height) (hsource : source < screen.height)
    (heq : (source : Int) = row + impl.pendingContentScrollDelta) :
    (drawGrid impl screen).rowData[row]? = (cachedGrid impl).rowData[source]? := by
  have hensured := ensurePackedGrid_of_size htable hcolumns hrows screen.heightPos
  unfold drawGrid
  dsimp only
  rw [if_pos hreuse]
  change (rotatePackedRows (ensurePackedGrid (cachedGrid impl) screen.width screen.height)
    _).rowData[row]? = _
  rw [hensured]
  exact rotatePackedRows_row htable (by omega) (by omega) heq

/-! ## The context after the draw -/

/-- The callback accepts a call for a cell of the viewport that is newer than the last draw. -/
theorem accepts_of_newer {call : DrawCall} (hcolumn : call.column < screen.width)
    (hrow : call.row < screen.height) (hage : call.age > drawSince impl screen) :
    Accepts (drawContext impl screen) call := by
  refine ⟨?_, ?_, ?_⟩
  · exact hcolumn.trans_eq (drawGrid_columns impl screen).symm
  · exact hrow.trans_eq (drawGrid_rows impl screen).symm
  · -- a draw since 0 is a full repaint, and otherwise the age is newer than the last one
    rw [drawSince] at hage
    rw [reportsChange]
    change (drawFullRepaint impl screen || _ || decide (call.age > impl.packedLastDrawAge) || _)
      = true
    cases hfull : drawFullRepaint impl screen with
    | true => rfl
    | false =>
      rw [hfull, if_neg Bool.false_ne_true] at hage
      simp [hage]

/-- The cells of the cursor are dirty, and nothing is recorded for them. -/
theorem includeCursor_grid (impl : Impl) (screen : Screen) (context : PackedDrawContext) :
    (includeCursor impl screen context).grid = context.grid ∧
      (includeCursor impl screen context).changedCells = context.changedCells ∧
      (includeCursor impl screen context).changedText = context.changedText ∧
      (includeCursor impl screen context).fullRepaint = context.fullRepaint ∧
      (includeCursor impl screen context).reuseScrolledRows = context.reuseScrolledRows := by
  rw [includeCursor]
  split <;> exact ⟨rfl, rfl, rfl, rfl, rfl⟩

theorem includeExposedRows_grid (impl : Impl) (screen : Screen) (context : PackedDrawContext) :
    (includeExposedRows impl screen context).grid = context.grid ∧
      (includeExposedRows impl screen context).changedCells = context.changedCells ∧
      (includeExposedRows impl screen context).changedText = context.changedText ∧
      (includeExposedRows impl screen context).fullRepaint = context.fullRepaint := by
  rw [includeExposedRows]
  split <;> exact ⟨rfl, rfl, rfl, rfl⟩

theorem includeCursor_tracks {context : PackedDrawContext}
    (h : RegionTracks screen.width screen.height context.dirty context.dirtySpans) :
    RegionTracks screen.width screen.height (includeCursor impl screen context).dirty
      (includeCursor impl screen context).dirtySpans := by
  rw [includeCursor]
  split
  · exact (h.includeCellSpan _ _ 1).includeCellSpan _ _ 1
  · exact h

/-- Exposed rows are included in the rectangle and in the spans alike. -/
theorem includeExposedRows_tracks {context : PackedDrawContext}
    (h : RegionTracks screen.width screen.height context.dirty context.dirtySpans)
    (hdelta : context.reuseScrolledRows = true →
      impl.pendingContentScrollDelta.natAbs < screen.height) :
    RegionTracks screen.width screen.height (includeExposedRows impl screen context).dirty
      (includeExposedRows impl screen context).dirtySpans := by
  rw [includeExposedRows]
  split
  · rename_i hreuse
    have hbottom : (exposedRows impl.pendingContentScrollDelta screen.height).2 ≤
        screen.height := by
      have := hdelta hreuse
      rw [exposedRows]
      split
      · exact le_rfl
      · exact this.le
    exact h.includeRows hbottom
  · exact h

/-- What was dirty stays dirty. -/
theorem includeCursor_covers {context : PackedDrawContext} {column row : Nat}
    (h : SpansCover context.dirtySpans column row) :
    SpansCover (includeCursor impl screen context).dirtySpans column row := by
  rw [includeCursor]
  split
  · exact (h.includeCellSpan ..).includeCellSpan ..
  · exact h

theorem includeExposedRows_covers {context : PackedDrawContext} {column row : Nat}
    (h : SpansCover context.dirtySpans column row) :
    SpansCover (includeExposedRows impl screen context).dirtySpans column row := by
  rw [includeExposedRows]
  split
  · exact h.includeRows ..
  · exact h

/-- The context of a frame, for any libtsm. It takes the definition of `takenContext` apart once.
Proofs about frames use its fields and no definition below it. -/
structure TakeSpec (tsmUcs4ToUtf8 : Nat → List UInt8) (impl : Impl) (screen : Screen)
    (draw : Draw) (context : PackedDrawContext) : Prop where
  drawn : DrawnSince tsmUcs4ToUtf8 (drawContext impl screen) draw.calls
    (drawPass tsmUcs4ToUtf8 (drawContext impl screen) draw.calls)
  grid : context.grid = (drawPass tsmUcs4ToUtf8 (drawContext impl screen) draw.calls).grid
  changedCells : context.changedCells =
    (drawPass tsmUcs4ToUtf8 (drawContext impl screen) draw.calls).changedCells
  changedText : context.changedText =
    (drawPass tsmUcs4ToUtf8 (drawContext impl screen) draw.calls).changedText
  fullRepaint : context.fullRepaint = drawFullRepaint impl screen
  tracks : RegionTracks screen.width screen.height context.dirty context.dirtySpans
  covers : ∀ change ∈ context.changedCells,
    SpansCover context.dirtySpans change.column change.row
  cursor : cursorChanged impl screen = true → ∀ column row,
    (column = impl.packedLastCursorX ∧ row = impl.packedLastCursorY) ∨
      (column = screen.cursorX ∧ row = screen.cursorY) →
    column < screen.width → row < screen.height → SpansCover context.dirtySpans column row
  exposed : reuseScrolledRows impl screen = true → ∀ column row, column < screen.width →
    row < screen.height →
    (exposedRows impl.pendingContentScrollDelta screen.height).1 ≤ row →
    row < (exposedRows impl.pendingContentScrollDelta screen.height).2 →
    SpansCover context.dirtySpans column row

/-- The context of a frame is as `TakeSpec` says, whatever libtsm draws. -/
theorem takeSpec (htable : GridTable (cachedGrid impl)) :
    TakeSpec tsmUcs4ToUtf8 impl screen draw (takenContext tsmUcs4ToUtf8 impl screen draw) := by
  have hstyles : StyleTable (drawContext impl screen).grid.styles :=
    (htable.drawGrid screen).styleTable (by rw [drawGrid_rows]; exact screen.heightPos)
  have hdrawn : DrawnSince tsmUcs4ToUtf8 (drawContext impl screen) draw.calls
      (drawPass tsmUcs4ToUtf8 (drawContext impl screen) draw.calls) :=
    drawnSince_drawPass hstyles rfl rfl rfl draw.calls
  rw [takenContext]
  generalize hpass : drawPass tsmUcs4ToUtf8 (drawContext impl screen) draw.calls = pass at hdrawn
  obtain ⟨hcg, hcc, hct, hcf, hcr⟩ := includeCursor_grid impl screen pass
  obtain ⟨heg, hec, het, hef⟩ :=
    includeExposedRows_grid impl screen (includeCursor impl screen pass)
  have hreuse : pass.reuseScrolledRows = reuseScrolledRows impl screen := hdrawn.setting.reuse
  have htracks : RegionTracks screen.width screen.height pass.dirty pass.dirtySpans := by
    have h := hdrawn.tracks
    change RegionTracks (drawGrid impl screen).columns (drawGrid impl screen).rows _ _ at h
    rwa [drawGrid_columns, drawGrid_rows] at h
  constructor
  case drawn =>
    rw [hpass]
    exact hdrawn
  case grid =>
    rw [hpass, heg, hcg]
  case changedCells =>
    rw [hpass, hec, hcc]
  case changedText =>
    rw [hpass, het, hct]
  case fullRepaint =>
    rw [hef, hcf]
    exact hdrawn.setting.fullRepaint
  case tracks =>
    refine includeExposedRows_tracks (includeCursor_tracks htracks) fun h => ?_
    rw [hcr, hreuse] at h
    exact (reuseScrolledRows_spec h).2.2.2.2
  case covers =>
    intro change hchange
    rw [hec, hcc] at hchange
    exact includeExposedRows_covers (includeCursor_covers (hdrawn.covered change hchange))
  case cursor =>
    intro hchanged column row hcell hcolumn hrow
    apply includeExposedRows_covers
    have hpassChanged : pass.cursorChanged = true := hdrawn.setting.cursorChanged.trans hchanged
    rw [includeCursor, if_pos hpassChanged]
    rcases hcell with ⟨rfl, rfl⟩ | ⟨rfl, rfl⟩
    · exact (spansCover_includeCellSpan _ 1 hcolumn hrow).includeCellSpan ..
    · exact spansCover_includeCellSpan _ 1 hcolumn hrow
  case exposed =>
    intro hreused column row hcolumn hrow htop hbottom
    rw [includeExposedRows, hcr, hreuse, if_pos hreused]
    exact spansCover_includeRows _ hcolumn htop hbottom hrow

/-! ## The region of a frame -/

/-- What it takes for a frame to be no full repaint. -/
theorem takenRegion_notFull
    (h : (takenRegion tsmUcs4ToUtf8 impl screen draw).fullRepaint = false) :
    (takenContext tsmUcs4ToUtf8 impl screen draw).fullRepaint = false ∧ draw.age ≠ 0 ∧
      (takenRegion tsmUcs4ToUtf8 impl screen draw).dirty =
        (takenContext tsmUcs4ToUtf8 impl screen draw).dirty ∧
      (takenRegion tsmUcs4ToUtf8 impl screen draw).dirtySpans =
        (takenContext tsmUcs4ToUtf8 impl screen draw).dirtySpans ∧
      (takenContext tsmUcs4ToUtf8 impl screen draw).dirty ≠
        wholeGrid screen.width screen.height := by
  rw [takenRegion, finishRegion] at h ⊢
  generalize takenContext tsmUcs4ToUtf8 impl screen draw = context at h ⊢
  dsimp only at h ⊢
  cases hfull : context.fullRepaint with
  | true => simp [hfull] at h
  | false =>
    by_cases hage : draw.age = 0
    · simp [hage] at h
    · have hage' : (draw.age == 0) = false := by simpa using hage
      simp only [hfull, hage', Bool.or_self, Bool.false_and, if_neg hage,
        Bool.false_or, Bool.false_eq_true, if_false] at h ⊢
      refine ⟨trivial, hage, trivial, by rw [h]; rfl, fun hwhole => ?_⟩
      -- the whole grid is not empty, so a rectangle that large would have made the frame a full
      -- repaint
      have hne : dirtyEmpty (wholeGrid screen.width screen.height) = false := by
        rw [dirtyEmpty_eq_false_iff]
        exact ⟨screen.widthPos, screen.heightPos⟩
      rw [hwhole, hne] at h
      simp at h

/-- A frame is unchanged only if nothing was to be repainted. -/
theorem takenChanged_false (htable : GridTable (cachedGrid impl))
    (h : takenChanged tsmUcs4ToUtf8 impl screen draw = false) :
    drawFullRepaint impl screen = false ∧ draw.age ≠ 0 ∧
      (takenRegion tsmUcs4ToUtf8 impl screen draw).fullRepaint = false ∧
      (takenContext tsmUcs4ToUtf8 impl screen draw).dirtySpans = [] := by
  have hspec : TakeSpec tsmUcs4ToUtf8 impl screen draw _ := takeSpec htable
  rw [takenChanged, Bool.or_eq_false_iff] at h
  obtain ⟨hfull, hage, hdirty, -, -⟩ := takenRegion_notFull h.1
  refine ⟨hspec.fullRepaint.symm.trans hfull, hage, h.1, hspec.tracks.empty.1 ?_⟩
  rw [← hdirty]
  simpa using h.2

/-- If every cell is covered, the rectangle is the whole grid. -/
theorem dirty_eq_wholeGrid {dirty : DirtyRegion} {spans : List DirtySpan} {columns rows : Nat}
    (htracks : RegionTracks columns rows dirty spans) (hcolumns : 0 < columns) (hrows : 0 < rows)
    (hcover : ∀ column < columns, ∀ row < rows, SpansCover spans column row) :
    dirty = wholeGrid columns rows := by
  obtain ⟨first, hfirst, hfirstRow, hfirstLeft, -⟩ := hcover 0 hcolumns 0 hrows
  obtain ⟨last, hlast, hlastRow, -, hlastRight⟩ :=
    hcover (columns - 1) (by omega) (rows - 1) (by omega)
  -- the corners decide: a span begins in the first cell, and a span ends in the last one
  have hf := htracks.inside first hfirst
  have hl := htracks.inside last hlast
  have := hf.dirtyLeft
  have := hf.dirtyTop
  have := hl.dirtyRight
  have := hl.dirtyBottom
  have := htracks.right
  have := htracks.bottom
  obtain ⟨left, top, right, bottom⟩ := dirty
  simp only [wholeGrid, DirtyRegion.mk.injEq] at *
  omega

/-! ## The grid of a frame -/

theorem drawnGrid_columns {context : PackedDrawContext}
    (hspec : TakeSpec tsmUcs4ToUtf8 impl screen draw context) :
    (drawPass tsmUcs4ToUtf8 (drawContext impl screen) draw.calls).grid.columns =
      screen.width :=
  hspec.drawn.setting.columns.trans (drawGrid_columns impl screen)

theorem drawnGrid_rows {context : PackedDrawContext}
    (hspec : TakeSpec tsmUcs4ToUtf8 impl screen draw context) :
    (drawPass tsmUcs4ToUtf8 (drawContext impl screen) draw.calls).grid.rows = screen.height :=
  hspec.drawn.setting.rows.trans (drawGrid_rows impl screen)

theorem takenGrid_columns (htable : GridTable (cachedGrid impl)) :
    (takenGrid tsmUcs4ToUtf8 impl screen draw).columns = screen.width := by
  rw [takenGrid_eq, rebuildPackedRows_columns]
  exact drawnGrid_columns (takeSpec htable)

theorem takenGrid_rows (htable : GridTable (cachedGrid impl)) :
    (takenGrid tsmUcs4ToUtf8 impl screen draw).rows = screen.height := by
  rw [takenGrid_eq, rebuildPackedRows_rows]
  exact drawnGrid_rows (takeSpec htable)

theorem GridTable.takenGrid (h : GridTable (cachedGrid impl)) :
    GridTable (takenGrid tsmUcs4ToUtf8 impl screen draw) := by
  rw [takenGrid_eq]
  exact ((h.drawGrid screen).drawn (takeSpec h).drawn).rebuild _ _

theorem RowsFit.takenGrid (htable : GridTable (cachedGrid impl)) (h : RowsFit (cachedGrid impl)) :
    RowsFit (takenGrid tsmUcs4ToUtf8 impl screen draw) := by
  have hdrawn := (@takeSpec tsmUcs4ToUtf8 impl screen draw htable).drawn
  rw [takenGrid_eq]
  rw [RowsFit, rebuildPackedRows_columns]
  intro source hsource
  -- rows without changes are old ones; rebuilt rows fit by construction
  refine (rebuildPackedRows_mem hsource).elim (fun hold => ?_) fun hnew => ⟨hnew.1, hnew.2⟩
  rw [hdrawn.setting.rowData] at hold
  rw [hdrawn.setting.columns]
  exact h.drawGrid screen source hold

/-- The grid of a frame is reachable where its texts stay below 4 GiB. -/
theorem GridReachable.takenGrid (h : GridReachable tsmUcs4ToUtf8 (cachedGrid impl))
    (htext : TextBelow4GiB (takenGrid tsmUcs4ToUtf8 impl screen draw)) :
    GridReachable tsmUcs4ToUtf8 (takenGrid tsmUcs4ToUtf8 impl screen draw) := by
  rw [takenGrid_eq] at htext ⊢
  exact .draw draw.calls (h.drawGrid screen) rfl rfl rfl htext

end take

/-! ## The cache along a run -/

section run

variable {tsmUcs4ToUtf8 : Nat → List UInt8}

/-- What is known of the cache in every run. It does not depend on the size of the texts. -/
structure CacheInvariant (impl : Impl) : Prop where
  table : GridTable (cachedGrid impl)
  fit : RowsFit (cachedGrid impl)

theorem SameCache.cachedGrid {impl impl' : Impl} (h : SameCache impl impl') :
    cachedGrid impl' = cachedGrid impl := by
  simp only [Core.cachedGrid]
  rw [h.grid]

/-- The invariant holds in every run. -/
theorem cacheInvariant {allowed : TerminalRun → Op → Prop} {run : TerminalRun}
    (h : (terminalSystem tsmUcs4ToUtf8).Reachable allowed run) : CacheInvariant run.impl := by
  apply h.invariant (I := fun run => CacheInvariant run.impl)
  · rintro _ ⟨screen, rfl⟩
    exact ⟨gridTable_empty, fun row hrow => absurd hrow List.not_mem_nil⟩
  · intro run op run' _ hrun _ hstep
    rw [hstep]
    rcases next_cases tsmUcs4ToUtf8 run op with ⟨draw, rfl, -⟩ | hquiet
    · exact ⟨hrun.table.takenGrid, hrun.fit.takenGrid hrun.table⟩
    · have hgrid := hquiet.cache.cachedGrid
      exact ⟨hgrid ▸ hrun.table, hgrid ▸ hrun.fit⟩

/-- The members written by `TakePackedFrame` are those the newest frame left. Before the first frame
they are as the constructor left them. -/
structure RemembersTaken (tsmUcs4ToUtf8 : Nat → List UInt8) (run : TerminalRun) : Prop where
  new : run.taken = [] → run.impl.packedFrameValid = false ∧ run.impl.packedGridCache = none
  last : ∀ taken older, run.taken = taken :: older → ∃ impl draw, CacheInvariant impl ∧
    taken.2 = takePackedFrame tsmUcs4ToUtf8 impl taken.1 draw ∧
      SameCache (afterTake tsmUcs4ToUtf8 impl taken.1 draw) run.impl

/-- In every run the core remembers the newest frame. -/
theorem remembersTaken {allowed : TerminalRun → Op → Prop} {run : TerminalRun}
    (h : (terminalSystem tsmUcs4ToUtf8).Reachable allowed run) :
    RemembersTaken tsmUcs4ToUtf8 run := by
  apply h.invariant
  · rintro _ ⟨screen, rfl⟩
    exact ⟨fun _ => ⟨rfl, rfl⟩, fun _ _ hnil => by simp [newRun] at hnil⟩
  · intro run op run' hreach hrun _ hstep
    rw [hstep]
    -- either this step takes the newest frame, or it leaves the members of the last one alone
    rcases next_cases tsmUcs4ToUtf8 run op with ⟨draw, rfl, -⟩ | hquiet
    · refine ⟨fun hnil => absurd hnil (List.cons_ne_nil _ _), ?_⟩
      intro taken older htaken
      obtain ⟨rfl, -⟩ := List.cons.inj htaken
      exact ⟨run.impl, draw, cacheInvariant hreach, rfl, .refl _⟩
    · refine ⟨fun hnil => ?_, fun taken older htaken => ?_⟩
      · rw [hquiet.taken] at hnil
        obtain ⟨hvalid, hgrid⟩ := hrun.new hnil
        exact ⟨hquiet.cache.valid.trans hvalid, hquiet.cache.grid.trans hgrid⟩
      · rw [hquiet.taken] at htaken
        obtain ⟨impl, draw, hinv, hframe, hcache⟩ := hrun.last taken older htaken
        exact ⟨impl, draw, hinv, hframe, hcache.trans hquiet.cache⟩

/-- The newest frame and the members of the core. What the core compares with in the next
`TakePackedFrame` is this frame. -/
structure LastTaken (impl : Impl) (screen : Screen) (frame : PackedFrame) : Prop where
  grid : cachedGrid impl = frame.grid
  gridColumns : frame.grid.columns = frame.columns
  gridRows : frame.grid.rows = frame.rows
  frameColumns : frame.columns = screen.width
  frameRows : frame.rows = screen.height
  columns : impl.packedLastColumns = frame.columns
  rows : impl.packedLastRows = frame.rows
  generation : impl.packedGeneration = frame.generation
  cursorX : impl.packedLastCursorX = frame.cursorX
  cursorY : impl.packedLastCursorY = frame.cursorY
  cursorVisible : impl.packedLastCursorVisible = frame.cursorVisible
  cursorStyle : impl.packedLastCursorStyle = frame.cursorStyle
  alternate : impl.packedLastAlternateScreen = frame.alternateScreen

/-- The newest frame, in a run that has taken one. -/
theorem RemembersTaken.lastTaken {run : TerminalRun} (h : RemembersTaken tsmUcs4ToUtf8 run)
    {taken : Screen × PackedFrame} {older : List (Screen × PackedFrame)}
    (htaken : run.taken = taken :: older) : LastTaken run.impl taken.1 taken.2 := by
  obtain ⟨impl, draw, hinv, hframe, hcache⟩ := h.last taken older htaken
  have hcolumns := @takenGrid_columns tsmUcs4ToUtf8 impl taken.1 draw hinv.table
  have hrows := @takenGrid_rows tsmUcs4ToUtf8 impl taken.1 draw hinv.table
  rw [hframe]
  exact
    { grid := hcache.cachedGrid
      gridColumns := hcolumns
      gridRows := hrows
      frameColumns := rfl
      frameRows := rfl
      columns := hcache.columns
      rows := hcache.rows
      generation := hcache.generation
      cursorX := hcache.cursorX
      cursorY := hcache.cursorY
      cursorVisible := hcache.cursorVisible
      cursorStyle := hcache.cursorStyle
      alternate := hcache.alternate }

/-- Run rule for consecutive frames: what every new frame has in relation to its predecessor holds
along the whole history. -/
theorem taken_isChain {allowed : TerminalRun → Op → Prop}
    {R : Screen × PackedFrame → Screen × PackedFrame → Prop}
    (hstep : ∀ run draw taken older, (terminalSystem tsmUcs4ToUtf8).Reachable allowed run →
      allowed run (.takePackedFrame draw) → run.taken = taken :: older →
      R (run.screen, takePackedFrame tsmUcs4ToUtf8 run.impl run.screen draw) taken)
    {run : TerminalRun} (h : (terminalSystem tsmUcs4ToUtf8).Reachable allowed run) :
    run.taken.IsChain R := by
  apply h.invariant (I := fun run => run.taken.IsChain R)
  · rintro _ ⟨screen, rfl⟩
    exact .nil
  · intro run op run' hreach hrun hallowed hnext
    rw [hnext]
    -- the invariant is the chain itself: a new frame is related to the head, and other steps add
    -- none
    rcases next_cases tsmUcs4ToUtf8 run op with ⟨draw, rfl, -⟩ | hquiet
    · change (_ :: run.taken).IsChain R
      cases htaken : run.taken with
      | nil => exact .singleton _
      | cons taken older =>
        rw [htaken] at hrun
        exact .cons_cons (hstep run draw taken older hreach hallowed htaken) hrun
    · rw [hquiet.taken]
      exact hrun

/-- Run rule for single frames: every new frame has a property if all frames before it have. -/
theorem forall_taken {allowed : TerminalRun → Op → Prop} {P : Screen × PackedFrame → Prop}
    (hstep : ∀ run draw, (terminalSystem tsmUcs4ToUtf8).Reachable allowed run →
      (∀ taken ∈ run.taken, P taken) → allowed run (.takePackedFrame draw) →
      P (run.screen, takePackedFrame tsmUcs4ToUtf8 run.impl run.screen draw))
    {run : TerminalRun} (h : (terminalSystem tsmUcs4ToUtf8).Reachable allowed run) :
    ∀ taken ∈ run.taken, P taken := by
  apply h.invariant (I := fun run => ∀ taken ∈ run.taken, P taken)
  · rintro _ ⟨screen, rfl⟩ taken htaken
    exact absurd htaken List.not_mem_nil
  · intro run op run' hreach hrun hallowed hnext
    rw [hnext]
    rcases next_cases tsmUcs4ToUtf8 run op with ⟨draw, rfl, -⟩ | hquiet
    · intro taken htaken
      rcases List.mem_cons.1 htaken with rfl | htaken
      · exact hstep run draw hreach hrun hallowed
      · exact hrun taken htaken
    · rw [hquiet.taken]
      exact hrun

/-- The texts of all rows of a frame stay below 4 GiB. -/
def RowTextsFit (tsmUcs4ToUtf8 : Nat → List UInt8) (run : TerminalRun) : Op → Prop
  | .takePackedFrame draw => TextBelow4GiB (takenGrid tsmUcs4ToUtf8 run.impl run.screen draw)
  | _ => True

/-- With small enough row texts the cache stays a reachable grid. -/
theorem gridReachable_cachedGrid {allowed : TerminalRun → Op → Prop}
    (hfit : ∀ run op, allowed run op → RowTextsFit tsmUcs4ToUtf8 run op) {run : TerminalRun}
    (h : (terminalSystem tsmUcs4ToUtf8).Reachable allowed run) :
    GridReachable tsmUcs4ToUtf8 (cachedGrid run.impl) := by
  apply h.invariant (I := fun run => GridReachable tsmUcs4ToUtf8 (cachedGrid run.impl))
  · rintro _ ⟨screen, rfl⟩
    exact .empty
  · intro run op run' hreach hrun hallowed hstep
    rw [hstep]
    rcases next_cases tsmUcs4ToUtf8 run op with ⟨draw, rfl, -⟩ | hquiet
    · exact hrun.takenGrid (hfit _ _ hallowed)
    · rw [hquiet.cache.cachedGrid]
      exact hrun

end run

end SakuraTerminal.Core
