import SakuraTerminal.Wx.RenderFrame

/-!
# Painting frames on the framebuffer

`PaintFrame` of `src/wx/terminal_renderer.cpp` on the cells that `RenderFrame` draws. Frames are
merged on pictures of cell views, where a paint copies the cells of the rectangle and no others
(`Wx.paintFrame`). A framebuffer depicts such a picture when every cell has the colours of the view
at its place, the stroke of an underlined view and no other, and the glyphs of a run of a frame in
which the same view stood over its column (`Depicts`).

The relation asks for less than what a full repaint would show. A cell outside of the rectangle
keeps the glyphs of the run it was drawn with, while the runs of its row may have been cut in
another way since. The cursor is no part of it.

A scroll moves both pictures alike, and drawing a rectangle keeps the relation when the whole
picture shows the frame afterwards and no bitmap takes a stroke away beyond the rectangle
(`renderFrame_refines`). So `PaintFrame` on cells refines `Wx.paintFrame` on views
(`paintFrame_refines`).
-/

set_option autoImplicit false

namespace SakuraTerminal.Wx.Renderer

open SakuraTerminal.Core SakuraTerminal.Foundations

/-! ## The source -/

/-- `PaintFrame` on the bitmap. `whole` is set when the framebuffer is not valid or a full repaint
was asked for: the bitmap is cleared and the whole grid is drawn. -/
def paintFrame (wx : Toolkit) (config : RenderConfig) (frame : PackedFrame) (paint : PendingPaint)
    (whole : Bool) (picture : Picture PaintedCell) : Picture PaintedCell :=
  let info := renderInfo frame paint.info.scrollDelta
  if whole then
    renderFrame wx config frame info (wholeGrid info.columns info.rows)
      fun _ => { background := config.themeBackground }
  else if paint.info.changed then
    renderFrame wx config frame info paint.dirty
      (if info.scrollDelta ≠ 0 then
        scrollFramebuffer picture info.scrollDelta info.columns info.rows
      else picture)
  else picture

/-! ## What a cell shows -/

/-- A cell of the framebuffer shows a view of a column. The background and the stroke are those of
the view. The glyphs belong to a run of some frame that was taken, and in that frame the run has the
same view over the column; the piece of its text there is the text of the view. -/
structure PaintedCell.Shows (wx : Toolkit) (taken : List (Screen × PackedFrame)) (column : Nat)
    (view : CellView) (cell : PaintedCell) : Prop where
  background : cell.background = view.background
  underline : cell.underline =
    if (view.attributes &&& 0x04 != 0) = true then some view.foreground else none
  glyph : ∃ source ∈ taken, ∃ row run, run.Shows source.2 row ∧
    (run.left ≤ column ∧ column < run.left + run.cellCount) ∧
    frameCell source.2 column row = some view ∧ cell.glyph = drawnGlyph wx run

/-- Where the picture has a view, the framebuffer shows it. A position without a view can show
anything, as in a bitmap that was not drawn to yet. -/
def Depicts (wx : Toolkit) (taken : List (Screen × PackedFrame)) (painted : Picture PaintedCell)
    (picture : Picture (Option CellView)) : Prop :=
  ∀ position view, picture position = some view → (painted position).Shows wx taken position.1 view

/-- No bitmap that is drawn is of an underlined run with cells beyond the columns of the rectangle.
Such a bitmap covers their strokes, which are not drawn again. -/
def StrokesSpared (wx : Toolkit) (config : RenderConfig) (frame : PackedFrame) (info : RenderInfo)
    (dirty : DirtyRegion) : Prop :=
  cacheGlyphs config info = true →
    ∀ row, InRows (clipDirty info dirty) row →
      ∀ run ∈ rowRuns config frame info row, Drawn info (clipDirty info dirty) run →
        (drawnGlyph wx run).isSome = true → wx.bitmapIsOk run = true → underlined run = true →
          ∀ column, run.left ≤ column → column < run.left + run.cellCount →
            InColumns (clipDirty info dirty) column

section depicts

variable {wx : Toolkit} {config : RenderConfig} {taken : List (Screen × PackedFrame)}
  {frame : PackedFrame} {info : RenderInfo} {dirty : DirtyRegion} {painted : Picture PaintedCell}
  {picture : Picture (Option CellView)} {run : RunView} {view : CellView} {cell : PaintedCell}
  {column row : Nat}

theorem Depicts.mono (h : Depicts wx taken painted picture)
    {taken' : List (Screen × PackedFrame)} (hsub : taken ⊆ taken') :
    Depicts wx taken' painted picture := by
  intro position view hview
  have hshows := h position view hview
  obtain ⟨source, hsource, hglyph⟩ := hshows.glyph
  exact ⟨hshows.background, hshows.underline, source, hsub hsource, hglyph⟩

/-- Which bitmaps are valid does not matter for what is shown. -/
theorem Depicts.of_fromUtf8 (h : Depicts wx taken painted picture) {wx' : Toolkit}
    (hsame : wx'.fromUtf8 = wx.fromUtf8) : Depicts wx' taken painted picture := by
  intro position view hview
  have hshows := h position view hview
  obtain ⟨source, hsource, row, run, hrun, hunder, hcell, hglyph⟩ := hshows.glyph
  refine ⟨hshows.background, hshows.underline, source, hsource, row, run, hrun, hunder, hcell, ?_⟩
  rw [hglyph, drawnGlyph, drawnGlyph, hsame]

theorem depicts_blank (painted : Picture PaintedCell) : Depicts wx taken painted fun _ => none :=
  fun _ _ hnone => absurd hnone (Option.some_ne_none _).symm

/-- Whatever a picture is made of, a scroll takes a position from the same place, in the same
column. -/
theorem scrollFramebuffer_source (delta : Int) (columns rows : Nat) (position : Nat × Nat) :
    ∃ source : Nat × Nat, source.1 = position.1 ∧ ∀ {γ : Type} (picture : Picture γ),
      scrollFramebuffer picture delta columns rows position = picture source := by
  by_cases hgrid : position.1 < columns ∧ position.2 < rows
  · exact ⟨(position.1, scrollSource delta rows position.2), rfl, fun picture =>
      scrollFramebuffer_apply picture delta hgrid.1 hgrid.2⟩
  · refine ⟨position, rfl, fun picture => ?_⟩
    unfold scrollFramebuffer
    split
    · rfl
    · dsimp only
      split
      · rfl
      · split
        · refine if_neg fun hin => hgrid ?_
          omega
        · refine if_neg fun hin => hgrid ?_
          omega

theorem Depicts.scroll (h : Depicts wx taken painted picture) (delta : Int) (columns rows : Nat) :
    Depicts wx taken (scrollFramebuffer painted delta columns rows)
      (scrollFramebuffer picture delta columns rows) := by
  intro position view hview
  obtain ⟨source, hcolumn, hsource⟩ := scrollFramebuffer_source delta columns rows position
  rw [hsource] at hview ⊢
  rw [← hcolumn]
  exact h source view hview

/-! ### Drawing a run -/

/-- The runs that are drawn show the cells of their row. -/
theorem rowRuns_shows (h : RowViewsAgree frame row) (info : RenderInfo)
    (hrun : run ∈ rowRuns config frame info row) : run.Shows frame row := by
  unfold rowRuns at hrun
  dsimp only at hrun
  split at hrun
  case isTrue =>
    obtain ⟨spans, hspans, -, hall⟩ := h.spans (max 2 config.glyphCacheMaxRunCells) (by omega)
    rw [hspans] at hrun
    exact (hall run hrun).2.2
  case isFalse =>
    obtain ⟨runs, -, hget, -, hall⟩ := h.runs
    rw [logicalRuns, List.mem_filterMap] at hrun
    obtain ⟨index, -, hindex⟩ := hrun
    rw [hget index] at hindex
    exact hall run (List.mem_of_getElem? hindex)

/-- The style of a run is that of the views under it. -/
theorem style_of_shows (h : run.Shows frame row) (hleft : run.left ≤ column)
    (hright : column < run.left + run.cellCount) (hview : frameCell frame column row = some view) :
    view.foreground = run.foreground ∧ view.background = run.background ∧
      view.attributes = run.attributes := by
  obtain ⟨cell, hcell, hstyle⟩ := h.style column hleft hright
  rw [hview, Option.some.injEq] at hcell
  rw [hcell]
  exact hstyle

section shown

variable {screen : Screen} (hmem : (screen, frame) ∈ taken) (hrun : run.Shows frame row)
  (hleft : run.left ≤ column) (hright : column < run.left + run.cellCount)
  (hview : frameCell frame column row = some view)

include hmem hrun hleft hright hview

/-- A cell of the rectangle shows the view that the frame has there. -/
theorem shownCell_shows (info : RenderInfo) (position : Nat × Nat) :
    (shownCell wx info run position).Shows wx taken column view := by
  obtain ⟨hforeground, hbackground, hattributes⟩ := style_of_shows hrun hleft hright hview
  constructor
  case background => exact hbackground.symm
  case underline =>
    rw [hforeground, hattributes]
    rfl
  case glyph => exact ⟨_, hmem, row, run, hrun, ⟨hleft, hright⟩, hview, rfl⟩

/-- Glyphs drawn over a cell that shows the view already leave it showing the view, unless they are
a bitmap and the view is underlined. -/
theorem glyphCell_shows (h : cell.Shows wx taken column view)
    (hspared : cacheGlyphs config info = true → (drawnGlyph wx run).isSome = true →
      wx.bitmapIsOk run = true → underlined run = false) :
    (glyphCell wx config info run cell).Shows wx taken column view := by
  obtain ⟨-, hbackground, hattributes⟩ := style_of_shows hrun hleft hright hview
  unfold glyphCell
  cases hglyph : drawnGlyph wx run with
  | none => exact h
  | some glyph =>
    have hdrawn : ∃ source ∈ taken, ∃ row run, run.Shows source.2 row ∧
        (run.left ≤ column ∧ column < run.left + run.cellCount) ∧
        frameCell source.2 column row = some view ∧ some glyph = drawnGlyph wx run :=
      ⟨_, hmem, row, run, hrun, ⟨hleft, hright⟩, hview, hglyph.symm⟩
    dsimp only
    split
    case isTrue hbitmap =>
      -- the bitmap takes the stroke away, and there is none
      have hplain := hspared hbitmap.1 (by rw [hglyph]; rfl) hbitmap.2
      rw [underlined, ← hattributes] at hplain
      constructor
      case background => exact hbackground.symm
      case underline =>
        rw [hplain]
        rfl
      case glyph => exact hdrawn
    case isFalse =>
      constructor
      case background => exact h.background
      case underline => exact h.underline
      case glyph => exact hdrawn

end shown

/-! ### Drawing a rectangle -/

/-- Nothing beyond the grid is drawn on a picture of views. -/
theorem renderFrame_of_beyond {γ : Type} (picture : Picture γ) (frame : Frame γ)
    {info : FrameInfo} {position : Nat × Nat}
    (h : ¬ (position.1 < info.columns ∧ position.2 < info.rows)) :
    Wx.renderFrame picture frame info dirty position = picture position := by
  unfold Wx.renderFrame
  split
  · rfl
  · refine if_neg fun hin => h ?_
    omega

/-- `RenderFrame` on the cells of the framebuffer draws what it draws on views: where the views show
the frame after it, the framebuffer depicts them again. -/
theorem renderFrame_refines (h : Depicts wx taken painted picture) {screen : Screen}
    (hmem : (screen, frame) ∈ taken) (hagree : ∀ row < frame.rows, RowViewsAgree frame row)
    {scrollDelta : Int}
    (hspared : StrokesSpared wx config frame (renderInfo frame scrollDelta) dirty)
    {merged : FrameInfo} (hcolumns : merged.columns = frame.columns)
    (hrows : merged.rows = frame.rows)
    (hright : ∀ column < frame.columns, ∀ row < frame.rows,
      Wx.renderFrame picture (coreFrame frame) merged dirty (column, row) =
        frameCell frame column row) :
    Depicts wx taken (renderFrame wx config frame (renderInfo frame scrollDelta) dirty painted)
      (Wx.renderFrame picture (coreFrame frame) merged dirty) := by
  have htiles : ∀ row < frame.rows, Tiles RunView.left RunView.cellCount 0
      (rowRuns config frame (renderInfo frame scrollDelta) row) frame.columns :=
    fun row hrow => rowRuns_tiles (hagree row hrow) _
  have hspaced : RunsSpaced config frame (renderInfo frame scrollDelta) :=
    fun row hrow => (htiles row hrow).spaced
  rintro ⟨column, row⟩ view hview
  by_cases hgrid : column < frame.columns ∧ row < frame.rows
  · obtain ⟨hcolumn, hrow⟩ := hgrid
    have hcell : frameCell frame column row = some view :=
      (hright column hcolumn row hrow).symm.trans hview
    obtain ⟨run, hrun, hleft, hlt⟩ := (htiles row hrow).exists_mem (Nat.zero_le column) hcolumn
    have hshows := rowRuns_shows (hagree row hrow) _ hrun
    have hunder : UnderRun run row (column, row) := ⟨rfl, hleft, hlt⟩
    have hclip : RegionCovers (clipDirty (renderInfo frame scrollDelta) dirty) column row ↔
        RegionCovers dirty column row := covers_clipDirty hcolumn hrow
    rcases renderFrame_apply picture (coreFrame frame) dirty (hcolumns ▸ hcolumn) (hrows ▸ hrow)
      with ⟨hcovers, -⟩ | ⟨hcovers, hkept⟩
    · rw [renderFrame_of_covers hspaced (hclip.2 hcovers) hrun hunder]
      exact shownCell_shows hmem hshows hleft hlt hcell _ _
    · rw [renderFrame_of_not_covers hspaced (hclip.not.2 hcovers) hrun hunder]
      have hbefore := h (column, row) view (hkept.symm.trans hview)
      split
      case isTrue hdrawn =>
        refine glyphCell_shows hmem hshows hleft hlt hcell hbefore fun hcache hglyph hok => ?_
        -- in a row of the rectangle the cell is beyond its columns
        rw [← Bool.not_eq_true]
        intro hunderlined
        have hin := hspared hcache row hdrawn.1 run hrun hdrawn.2 hglyph hok hunderlined column
          hleft hlt
        exact hcovers (hclip.1 ⟨hin.1, hin.2, hdrawn.1⟩)
      case isFalse => exact hbefore
  · have hbeyond : ¬ (column < merged.columns ∧ row < merged.rows) := by
      rw [hcolumns, hrows]
      exact hgrid
    rw [renderFrame_of_beyond _ _ hbeyond] at hview
    rw [renderFrame_beyond hspaced hgrid]
    exact h (column, row) view hview

/-- With the whole grid for a rectangle nothing is beyond it. -/
theorem strokesSpared_wholeGrid (hagree : ∀ row < frame.rows, RowViewsAgree frame row)
    (scrollDelta : Int) :
    StrokesSpared wx config frame (renderInfo frame scrollDelta)
      (wholeGrid frame.columns frame.rows) := by
  intro _ row hrow run hrun _ _ _ _ column _ hlt
  have hinside : row < frame.rows := hrow.2.trans_le (Nat.min_le_right _ _)
  have hright := ((rowRuns_tiles (hagree row hinside) _).bounds hrun).2.2
  refine ⟨Nat.zero_le _, ?_⟩
  change column < min frame.columns frame.columns
  omega

/-! ### Painting a frame -/

/-- `PaintFrame` on the cells of the framebuffer refines `PaintFrame` on views. A partial repaint
has to spare the strokes beyond its rectangle. -/
theorem paintFrame_refines (h : Depicts wx taken painted picture) {screen : Screen}
    (hmem : (screen, frame) ∈ taken) (hagree : ∀ row < frame.rows, RowViewsAgree frame row)
    {paint : PendingPaint} (hcolumns : paint.info.columns = frame.columns)
    (hrows : paint.info.rows = frame.rows) {whole : Bool}
    (hspared : whole = false → StrokesSpared wx config frame
      (renderInfo frame paint.info.scrollDelta) paint.dirty)
    (hright : ∀ column < frame.columns, ∀ row < frame.rows,
      Wx.paintFrame none picture (coreFrame frame) paint.info paint.dirty whole (column, row) =
        frameCell frame column row) :
    Depicts wx taken (paintFrame wx config frame paint whole painted)
      (Wx.paintFrame none picture (coreFrame frame) paint.info paint.dirty whole) := by
  unfold paintFrame
  unfold Wx.paintFrame at hright ⊢
  cases whole with
  | true =>
    simp only [if_true] at hright ⊢
    rw [hcolumns, hrows] at hright ⊢
    exact renderFrame_refines (depicts_blank _) hmem hagree (strokesSpared_wholeGrid hagree _)
      hcolumns hrows hright
  | false =>
    simp only [Bool.false_eq_true, if_false] at hright ⊢
    cases hchanged : paint.info.changed with
    | false => exact h
    | true =>
      simp only [hchanged, if_true] at hright ⊢
      refine renderFrame_refines ?_ hmem hagree (hspared rfl) hcolumns hrows hright
      -- both are scrolled by the merged distance, or neither is
      change Depicts wx taken
        (if paint.info.scrollDelta ≠ 0 then
          scrollFramebuffer painted paint.info.scrollDelta frame.columns frame.rows
        else painted) _
      rw [hcolumns, hrows]
      split
      · exact h.scroll _ _ _
      · exact h

end depicts

end SakuraTerminal.Wx.Renderer
