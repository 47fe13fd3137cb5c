import SakuraTerminal.Core.ViewsAgree
import SakuraTerminal.Foundations.Painting
import SakuraTerminal.Wx.FrameMerge
import SakuraTerminal.Wx.GlyphCache
import Mathlib.Algebra.GroupWithZero.Nat

/-!
# Drawing a frame

`RenderFrame` of `src/wx/terminal_renderer.cpp` cell by cell. A cell of the framebuffer shows a
background, the piece of a run's glyphs that lies over it, an underline stroke and the cursor; a
filled rectangle and a bitmap cover what was there, a text, a stroke and the cursor are drawn over
it. The passes are those of the source: the rectangle is filled, then each row draws its
backgrounds, with neighbours of one colour joined, and its runs, and the cursor comes last.

Backgrounds, strokes and the cursor are clipped to the rectangle, and a run's glyphs are not. As a
text they show what is there already. As a bitmap they cover the strokes and the cursor that the
rest of the run showed, and these are not drawn again, so a partial repaint does what a full one
does exactly when no bitmap it draws has any of them outside of the rectangle
(`partialRepaint_iff`).

Glyphs lie inside the cells of their run. The bitmap of `GlyphRunBitmap` is the one that would be
drawn for the run without a cache (`Painter.Holds.answer` of `RenderCaches`), so of the cache only
its setting and the validity of the bitmap matter here.
-/

set_option autoImplicit false

namespace SakuraTerminal.Wx.Renderer

open SakuraTerminal.Core SakuraTerminal.Foundations

/-- The text of a run as it is drawn. A cell shows the piece that lies over it. -/
structure GlyphRun where
  left : Nat
  cellCount : Nat
  glyph : List Nat
  font : UInt8
  foreground : Rgb
  deriving DecidableEq, Repr

/-- What a cell of the framebuffer shows. A rectangle and a bitmap replace what was there, a text, a
stroke and a cursor add their own part or replace that part alone. The order in which glyphs, stroke
and cursor came is not kept: a text that is drawn over an existing cursor, say, leaves the same cell
as one drawn under it. -/
structure PaintedCell where
  background : Rgb
  glyph : Option GlyphRun := none
  underline : Option Rgb := none
  cursor : Option CursorStyle := none
  deriving DecidableEq, Repr

/-- `TerminalConfig`, as far as `RenderFrame` reads it. -/
structure RenderConfig where
  themeBackground : Rgb := {}
  glyphCacheEnabled : Bool := true
  glyphCacheBypassScroll : Bool := true
  glyphCacheMaxRunCells : Nat := 32
  deriving DecidableEq, Repr

/-- `SakuraTerminalFrameInfo`, as far as `RenderFrame` reads it. -/
structure RenderInfo where
  scrollDelta : Int := 0
  columns : Nat := 0
  rows : Nat := 0
  cursorX : Nat := 0
  cursorY : Nat := 0
  cursorVisible : Bool := false
  cursorStyle : CursorStyle := .block
  deriving DecidableEq, Repr

/-- The information of a frame with the scroll distance that was merged into it. -/
def renderInfo (frame : PackedFrame) (scrollDelta : Int) : RenderInfo where
  scrollDelta := scrollDelta
  columns := frame.columns
  rows := frame.rows
  cursorX := frame.cursorX
  cursorY := frame.cursorY
  cursorVisible := frame.cursorVisible
  cursorStyle := frame.cursorStyle

/-- What `RenderFrame` gets from wxWidgets: the characters of a text, none if it is not UTF-8, and
whether the bitmap `GlyphRunBitmap` returns for a run is valid. -/
structure Toolkit where
  fromUtf8 : List UInt8 → List Nat
  bitmapIsOk : RunView → Bool

/-! ## Drawing -/

section drawing

variable (picture : Picture PaintedCell)

/-- `wxDC::DrawRectangle` with a brush of this colour and no pen. -/
def drawRectangle (left top right bottom : Nat) (colour : Rgb) : Picture PaintedCell :=
  paintWhere (fun position => (left ≤ position.1 ∧ position.1 < right) ∧
    top ≤ position.2 ∧ position.2 < bottom) (fun _ => { background := colour }) picture

/-- The cell lies under the run. -/
def UnderRun (run : RunView) (row : Nat) (position : Nat × Nat) : Prop :=
  position.2 = row ∧ run.left ≤ position.1 ∧ position.1 < run.left + run.cellCount

instance (run : RunView) (row : Nat) : DecidablePred (UnderRun run row) :=
  fun _ => inferInstanceAs (Decidable (_ ∧ _))

/-- `wxDC::DrawBitmap` with the bitmap of a run. -/
def drawBitmap (row : Nat) (run : RunView) (glyph : GlyphRun) : Picture PaintedCell :=
  paintWhere (UnderRun run row)
    (fun _ => { background := run.background, glyph := some glyph }) picture

/-- `wxDC::DrawText`. -/
def drawText (row : Nat) (run : RunView) (glyph : GlyphRun) : Picture PaintedCell :=
  paintWhere (UnderRun run row) (fun cell => { cell with glyph := some glyph }) picture

/-- `wxDC::DrawLine` along the bottom of cells. -/
def drawUnderline (row left right : Nat) (colour : Rgb) : Picture PaintedCell :=
  paintWhere (fun position => position.2 = row ∧ left ≤ position.1 ∧ position.1 < right)
    (fun cell => { cell with underline := some colour }) picture

/-- The cursor is drawn over the cell. -/
def drawCursor (x y : Nat) (style : CursorStyle) : Picture PaintedCell :=
  paintWhere (fun position => position = (x, y))
    (fun cell => { cell with cursor := some style }) picture

end drawing

/-! ## The source -/

section source

variable (wx : Toolkit) (config : RenderConfig) (frame : PackedFrame) (info : RenderInfo)

/-- Runs are drawn as bitmaps, in this frame. -/
def cacheGlyphs : Bool :=
  config.glyphCacheEnabled && (!config.glyphCacheBypassScroll || info.scrollDelta == 0)

/-- The runs of a row that can be read. -/
def logicalRuns (row : Nat) : List RunView :=
  (List.range (frameRowRunCount frame row)).filterMap (frameRowRun frame row)

/-- `row_runs`: the bounded spans of the row, or its runs. -/
def rowRuns (row : Nat) : List RunView :=
  let spans := frameForEachRowSpan frame row (max 2 config.glyphCacheMaxRunCells)
  if cacheGlyphs config info && spans.2 && !spans.1.isEmpty then spans.1
  else logicalRuns frame row

/-- The rectangle inside of the frame. -/
def clipDirty (dirty : DirtyRegion) : DirtyRegion where
  left := min dirty.left info.columns
  top := min dirty.top info.rows
  right := min dirty.right info.columns
  bottom := min dirty.bottom info.rows

/-- The column behind a run, within the grid; a run without cells has one. -/
def runRight (run : RunView) : Nat := min info.columns (run.left + max 1 run.cellCount)

/-- The first column of a run inside of the rectangle. -/
def drawLeft (clip : DirtyRegion) (run : RunView) : Nat := max clip.left run.left

/-- The column behind its last one. -/
def drawRight (clip : DirtyRegion) (run : RunView) : Nat := min clip.right (runRight info run)

/-- The background that waits for its neighbours. The colour and its key are kept together, and the
span has a cell. -/
structure PendingBackground where
  key : UInt32
  colour : Rgb
  left : Nat
  right : Nat
  keyed : key = colorKey colour
  ordered : left < right

/-- The loop over the backgrounds of a row: what was drawn, and what waits. -/
structure BackgroundPass where
  picture : Picture PaintedCell
  pending : Option PendingBackground := none

/-- The background that waits is drawn. -/
def flushBackground (row : Nat) (pass : BackgroundPass) : BackgroundPass :=
  match pass.pending with
  | none => pass
  | some pending =>
    { picture :=
        drawRectangle pass.picture pending.left row pending.right (row + 1) pending.colour }

/-- One turn of the loop over the backgrounds of a row. -/
def renderBackground (clip : DirtyRegion) (row : Nat) (pass : BackgroundPass) (run : RunView) :
    BackgroundPass :=
  if h : drawLeft clip run ≥ drawRight info clip run then pass
  else if colorKey run.background = colorKey config.themeBackground then flushBackground row pass
  else
    let new : PendingBackground :=
      { key := colorKey run.background
        colour := run.background
        left := drawLeft clip run
        right := drawRight info clip run
        keyed := rfl
        ordered := Nat.lt_of_not_le h }
    match pass.pending with
    | none => { pass with pending := some new }
    | some pending =>
      if hsame : pending.key = new.key ∧ pending.right = new.left then
        { pass with
          pending := some
            { pending with
              right := new.right
              ordered := (hsame.2 ▸ pending.ordered).trans new.ordered } }
      else { flushBackground row pass with pending := some new }

/-- The backgrounds of a row; the last one is drawn after the loop. -/
def renderBackgrounds (clip : DirtyRegion) (row : Nat) (runs : List RunView)
    (picture : Picture PaintedCell) : Picture PaintedCell :=
  (flushBackground row
    (runs.foldl (renderBackground config info clip row) { picture := picture })).picture

/-- The glyphs of a run, unless it is blank. A text ends at its first NUL. -/
def drawnGlyph (run : RunView) : Option GlyphRun :=
  if run.text.isEmpty || run.text.all (· == 0x20) then none
  else
    let glyph := wx.fromUtf8 (run.text.takeWhile (· != 0))
    if glyph.isEmpty then none
    else some
      { left := run.left
        cellCount := run.cellCount
        glyph := glyph
        font := run.attributes &&& 0x07
        foreground := run.foreground }

/-- The glyphs are drawn as a bitmap or, where there is none, as a text. -/
def drawGlyphRun (row : Nat) (picture : Picture PaintedCell) (run : RunView) (glyph : GlyphRun) :
    Picture PaintedCell :=
  if cacheGlyphs config info then
    if wx.bitmapIsOk run then drawBitmap picture row run glyph
    else drawText picture row run glyph
  else drawText picture row run glyph

/-- `draw_text_run`, which draws nothing for blanks. -/
def drawTextRun (row : Nat) (picture : Picture PaintedCell) (run : RunView) :
    Picture PaintedCell :=
  match drawnGlyph wx run with
  | none => picture
  | some glyph => drawGlyphRun wx config info row picture run glyph

/-- The bit `0x04` of the attributes. -/
def underlined (run : RunView) : Bool := run.attributes &&& 0x04 != 0

/-- One turn of the loop over the runs of a row. -/
def renderRun (clip : DirtyRegion) (row : Nat) (picture : Picture PaintedCell) (run : RunView) :
    Picture PaintedCell :=
  if drawLeft clip run ≥ drawRight info clip run then picture
  else
    let picture := drawTextRun wx config info row picture run
    if underlined run then
      drawUnderline picture row (drawLeft clip run) (drawRight info clip run) run.foreground
    else picture

/-- Both loops over a row. -/
def renderRow (clip : DirtyRegion) (picture : Picture PaintedCell) (row : Nat) :
    Picture PaintedCell :=
  let runs := rowRuns config frame info row
  runs.foldl (renderRun wx config info clip row)
    (renderBackgrounds config info clip row runs picture)

/-- The cursor is drawn if it is visible, in the grid and in the rectangle. -/
def renderCursor (clip : DirtyRegion) (picture : Picture PaintedCell) : Picture PaintedCell :=
  let cursorInDirtyRegion := clip.left ≤ info.cursorX ∧ info.cursorX < clip.right ∧
    clip.top ≤ info.cursorY ∧ info.cursorY < clip.bottom
  if cursorInDirtyRegion ∧ info.cursorVisible = true ∧ info.cursorX < info.columns ∧
      info.cursorY < info.rows then
    drawCursor picture info.cursorX info.cursorY info.cursorStyle
  else picture

/-- `RenderFrame` on a bitmap; an empty rectangle draws nothing. -/
def renderFrame (dirty : DirtyRegion) (picture : Picture PaintedCell) : Picture PaintedCell :=
  if dirty.left ≥ dirty.right ∨ dirty.top ≥ dirty.bottom ∨ info.columns = 0 ∨ info.rows = 0 then
    picture
  else
    let clip := clipDirty info dirty
    if clip.left ≥ clip.right ∨ clip.top ≥ clip.bottom then picture
    else
      let picture :=
        drawRectangle picture clip.left clip.top clip.right clip.bottom config.themeBackground
      let rows := List.range' clip.top (clip.bottom - clip.top)
      renderCursor info clip (rows.foldl (renderRow wx config frame info clip) picture)

/-- What `RenderFrame` adds to `*painted_cells`. -/
def paintedCells (dirty : DirtyRegion) : Nat :=
  let clip := clipDirty info dirty
  ((List.range' clip.top (clip.bottom - clip.top)).map fun row =>
    ((rowRuns config frame info row).map fun run =>
      drawRight info clip run - drawLeft clip run).sum).sum

end source

/-! ## One pass over a row -/

section passes

variable {wx : Toolkit} {config : RenderConfig} {info : RenderInfo} {clip : DirtyRegion}
  {row : Nat} {run : RunView} {picture : Picture PaintedCell} {position : Nat × Nat}

theorem drawRectangle_append {left middle right top bottom : Nat} {colour : Rgb}
    (hleft : left ≤ middle) (hright : middle ≤ right) :
    drawRectangle (drawRectangle picture left top middle bottom colour) middle top right bottom
      colour = drawRectangle picture left top right bottom colour := by
  funext position
  simp only [drawRectangle, paintWhere_apply]
  split_ifs with h₁ h₂ h₃ h₂ h₃
  all_goals first | rfl | omega

theorem drawRectangle_of_mem {left top right bottom : Nat} {colour : Rgb}
    (hleft : left ≤ position.1) (hright : position.1 < right) (htop : top ≤ position.2)
    (hbottom : position.2 < bottom) :
    drawRectangle picture left top right bottom colour position = { background := colour } :=
  if_pos ⟨⟨hleft, hright⟩, htop, hbottom⟩

/-- The background of one run, drawn on its own. -/
def drawBackground (config : RenderConfig) (info : RenderInfo) (clip : DirtyRegion) (row : Nat)
    (picture : Picture PaintedCell) (run : RunView) : Picture PaintedCell :=
  if run.background = config.themeBackground then picture
  else
    drawRectangle picture (drawLeft clip run) row (drawRight info clip run) (row + 1)
      run.background

/-- A rectangle without columns. -/
theorem drawRectangle_of_le {left right top bottom : Nat} {colour : Rgb} (h : right ≤ left) :
    drawRectangle picture left top right bottom colour = picture := by
  funext position
  exact paintWhere_of_not_mem (by omega)

/-- Whether a background waits or not, it is drawn in the end. -/
theorem flush_renderBackground (pass : BackgroundPass) (run : RunView) :
    (flushBackground row (renderBackground config info clip row pass run)).picture =
      drawBackground config info clip row (flushBackground row pass).picture run := by
  unfold renderBackground drawBackground
  by_cases hempty : drawLeft clip run ≥ drawRight info clip run
  · rw [dif_pos hempty, drawRectangle_of_le hempty, ite_self]
  · rw [dif_neg hempty]
    by_cases hdefault : run.background = config.themeBackground
    · rw [if_pos (congrArg colorKey hdefault), if_pos hdefault]
      obtain ⟨picture, _ | pending⟩ := pass <;> rfl
    · have hkey : colorKey run.background ≠ colorKey config.themeBackground :=
        fun h => hdefault (colorKey_injective h)
      rw [if_neg hkey, if_neg hdefault]
      obtain ⟨picture, _ | pending⟩ := pass
      · rfl
      · dsimp only
        split
        case isTrue hsame =>
          -- the colours agree because their keys do
          obtain ⟨hsameKey, hadjacent⟩ := hsame
          have hcolour : pending.colour = run.background :=
            colorKey_injective (pending.keyed.symm.trans hsameKey)
          have hnew := Nat.lt_of_not_le hempty
          simp only [flushBackground, hcolour]
          rw [← hadjacent, drawRectangle_append (Nat.le_of_lt pending.ordered)]
          rw [hadjacent]
          exact Nat.le_of_lt hnew
        case isFalse => rfl

/-- Joining neighbours makes no difference. -/
theorem renderBackgrounds_eq (runs : List RunView) :
    renderBackgrounds config info clip row runs picture =
      runs.foldl (drawBackground config info clip row) picture := by
  have hfold : ∀ pass : BackgroundPass,
      (flushBackground row (runs.foldl (renderBackground config info clip row) pass)).picture =
        runs.foldl (drawBackground config info clip row) (flushBackground row pass).picture := by
    induction runs with
    | nil => exact fun pass => rfl
    | cons run runs ih =>
      intro pass
      rw [List.foldl_cons, ih, flush_renderBackground, List.foldl_cons]
  exact hfold { picture := picture }

/-! ### What a run does to a cell -/

/-- The columns of the rectangle. -/
def InColumns (clip : DirtyRegion) (column : Nat) : Prop :=
  clip.left ≤ column ∧ column < clip.right

instance (clip : DirtyRegion) (column : Nat) : Decidable (InColumns clip column) :=
  inferInstanceAs (Decidable (_ ∧ _))

/-- Some cell of the run lies in the columns of the rectangle. -/
def Drawn (info : RenderInfo) (clip : DirtyRegion) (run : RunView) : Prop :=
  drawLeft clip run < drawRight info clip run

instance (info : RenderInfo) (clip : DirtyRegion) (run : RunView) :
    Decidable (Drawn info clip run) :=
  inferInstanceAs (Decidable (_ < _))

/-- The run lies in the grid. -/
structure RunFits (info : RenderInfo) (run : RunView) : Prop where
  nonempty : 0 < run.cellCount
  right : run.left + run.cellCount ≤ info.columns

/-- Of the cells under a run those in the columns of the rectangle are painted. -/
theorem RunFits.columns (h : RunFits info run) (clip : DirtyRegion) {column : Nat}
    (hleft : run.left ≤ column) (hright : column < run.left + run.cellCount) :
    (drawLeft clip run ≤ column ∧ column < drawRight info clip run) ↔ InColumns clip column := by
  have hfits := h.right
  unfold drawLeft drawRight runRight InColumns
  omega

/-- Nothing outside of a run is painted. -/
theorem RunFits.outside (h : RunFits info run) (clip : DirtyRegion)
    (hunder : ¬ UnderRun run row position) :
    ¬ (position.2 = row ∧ drawLeft clip run ≤ position.1 ∧
      position.1 < drawRight info clip run) := by
  have hpos := h.nonempty
  unfold UnderRun at hunder
  unfold drawLeft drawRight runRight
  omega

/-- A cell after the background of its run was drawn. -/
def backgroundCell (config : RenderConfig) (clip : DirtyRegion) (run : RunView) (column : Nat)
    (cell : PaintedCell) : PaintedCell :=
  if run.background ≠ config.themeBackground ∧ InColumns clip column then
    { background := run.background }
  else cell

/-- A cell after the glyphs of its run were drawn. -/
def glyphCell (wx : Toolkit) (config : RenderConfig) (info : RenderInfo) (run : RunView)
    (cell : PaintedCell) : PaintedCell :=
  match drawnGlyph wx run with
  | none => cell
  | some glyph =>
    if cacheGlyphs config info = true ∧ wx.bitmapIsOk run = true then
      { background := run.background, glyph := some glyph }
    else { cell with glyph := some glyph }

/-- A cell after its run was drawn. -/
def runCell (wx : Toolkit) (config : RenderConfig) (info : RenderInfo) (clip : DirtyRegion)
    (run : RunView) (column : Nat) (cell : PaintedCell) : PaintedCell :=
  if underlined run = true ∧ InColumns clip column then
    { glyphCell wx config info run cell with underline := some run.foreground }
  else if Drawn info clip run then glyphCell wx config info run cell
  else cell

/-- A cell after both loops over its row. -/
def rowCell (wx : Toolkit) (config : RenderConfig) (info : RenderInfo) (clip : DirtyRegion)
    (run : RunView) (column : Nat) (cell : PaintedCell) : PaintedCell :=
  runCell wx config info clip run column (backgroundCell config clip run column cell)

theorem drawBackground_of_not_under (hfits : RunFits info run)
    (hunder : ¬ UnderRun run row position) :
    drawBackground config info clip row picture run position = picture position := by
  have houtside := hfits.outside clip hunder
  unfold drawBackground
  split
  · rfl
  · exact paintWhere_of_not_mem (by omega)

theorem drawBackground_of_under (hfits : RunFits info run) (hunder : UnderRun run row position) :
    drawBackground config info clip row picture run position =
      backgroundCell config clip run position.1 (picture position) := by
  obtain ⟨hrow, hleft, hright⟩ := hunder
  unfold drawBackground backgroundCell
  by_cases hdefault : run.background = config.themeBackground
  · rw [if_pos hdefault, if_neg fun h => h.1 hdefault]
  · rw [if_neg hdefault, drawRectangle, paintWhere_apply]
    refine if_congr ?_ rfl rfl
    rw [hfits.columns clip hleft hright, and_iff_left (by omega)]
    exact (and_iff_right hdefault).symm

/-- The glyphs of a run are drawn under the run and nowhere else. -/
theorem drawTextRun_apply :
    drawTextRun wx config info row picture run position =
      if UnderRun run row position then glyphCell wx config info run (picture position)
      else picture position := by
  unfold drawTextRun drawGlyphRun glyphCell
  cases drawnGlyph wx run with
  | none => exact (ite_self _).symm
  | some glyph =>
    cases hcache : cacheGlyphs config info with
    | false => rfl
    | true =>
      cases hok : wx.bitmapIsOk run with
      | false => rfl
      | true => rfl

/-- A run in the grid changes no cell that does not lie under it. -/
theorem renderRun_of_not_under (hfits : RunFits info run)
    (hunder : ¬ UnderRun run row position) :
    renderRun wx config info clip row picture run position = picture position := by
  have htext : drawTextRun wx config info row picture run position = picture position := by
    rw [drawTextRun_apply, if_neg hunder]
  unfold renderRun
  split
  · rfl
  · dsimp only
    split
    · rw [drawUnderline, paintWhere_apply, if_neg (hfits.outside clip hunder), htext]
    · exact htext

/-- And the cells under it as `runCell` says, one by one. -/
theorem renderRun_of_under (hfits : RunFits info run) (hunder : UnderRun run row position) :
    renderRun wx config info clip row picture run position =
      runCell wx config info clip run position.1 (picture position) := by
  have htext : drawTextRun wx config info row picture run position =
      glyphCell wx config info run (picture position) := by
    rw [drawTextRun_apply, if_pos hunder]
  obtain ⟨hrow, hleft, hright⟩ := hunder
  have hcolumns := hfits.columns clip hleft hright
  unfold renderRun runCell
  by_cases hdrawn : Drawn info clip run
  · rw [if_neg (Nat.not_le_of_lt hdrawn), if_pos hdrawn]
    dsimp only
    cases hunderlined : underlined run with
    | false => simpa using htext
    | true =>
      rw [if_pos rfl, drawUnderline, paintWhere_apply, htext]
      refine if_congr ?_ rfl rfl
      rw [hcolumns, and_iff_right hrow, and_iff_right rfl]
  · rw [if_pos (Nat.le_of_not_lt hdrawn), if_neg hdrawn, if_neg]
    rintro ⟨-, hin⟩
    exact hdrawn ((hcolumns.2 hin).1.trans_lt (hcolumns.2 hin).2)

end passes

/-! ## One row -/

section row

variable {wx : Toolkit} {config : RenderConfig} {frame : PackedFrame} {info : RenderInfo}
  {clip : DirtyRegion} {row : Nat} {run : RunView} {picture : Picture PaintedCell}
  {position : Nat × Nat}

/-- The runs of every row are apart and lie in the grid. -/
def RunsSpaced (config : RenderConfig) (frame : PackedFrame) (info : RenderInfo) : Prop :=
  ∀ row < info.rows,
    Spaced RunView.left RunView.cellCount info.columns (rowRuns config frame info row)

theorem RunsSpaced.fits (h : RunsSpaced config frame info) (hrow : row < info.rows)
    (hrun : run ∈ rowRuns config frame info row) : RunFits info run where
  nonempty := (h row hrow).nonempty run hrun
  right := (h row hrow).right run hrun

/-- A cell under no run of the row. -/
theorem renderRow_eq_self (h : RunsSpaced config frame info) (hrow : row < info.rows)
    (hunder : ∀ run ∈ rowRuns config frame info row, ¬ UnderRun run row position) :
    renderRow wx config frame info clip picture row position = picture position := by
  unfold renderRow
  rw [renderBackgrounds_eq, foldl_apply_eq_self, foldl_apply_eq_self]
  · exact fun run hrun _ => drawBackground_of_not_under (h.fits hrow hrun) (hunder run hrun)
  · exact fun run hrun _ => renderRun_of_not_under (h.fits hrow hrun) (hunder run hrun)

/-- A cell under a run of the row. -/
theorem renderRow_of_under (h : RunsSpaced config frame info) (hrow : row < info.rows)
    (hrun : run ∈ rowRuns config frame info row) (hunder : UnderRun run row position) :
    renderRow wx config frame info clip picture row position =
      rowCell wx config info clip run position.1 (picture position) := by
  have hother : ∀ other : RunView,
      ¬ (other.left ≤ position.1 ∧ position.1 < other.left + other.cellCount) →
      ¬ UnderRun other row position := fun other hout hunder => hout hunder.2
  have hbackgrounds : renderBackgrounds config info clip row (rowRuns config frame info row)
      picture position = backgroundCell config clip run position.1 (picture position) := by
    rw [renderBackgrounds_eq]
    apply (h row hrow).foldl_apply _ hrun hunder.2.1 hunder.2.2
    · exact fun _ => drawBackground_of_under (h.fits hrow hrun) hunder
    · exact fun other hmem hout _ =>
        drawBackground_of_not_under (h.fits hrow hmem) (hother other hout)
  rw [rowCell, ← hbackgrounds]
  apply (h row hrow).foldl_apply _ hrun hunder.2.1 hunder.2.2
  · exact fun _ => renderRun_of_under (h.fits hrow hrun) hunder
  · exact fun other hmem hout _ => renderRun_of_not_under (h.fits hrow hmem) (hother other hout)

/-- The rows of the rectangle. -/
def InRows (clip : DirtyRegion) (row : Nat) : Prop := clip.top ≤ row ∧ row < clip.bottom

instance (clip : DirtyRegion) (row : Nat) : Decidable (InRows clip row) :=
  inferInstanceAs (Decidable (_ ∧ _))

/-- The rows of the rectangle, one after another. -/
theorem renderRows_of_inRows (h : RunsSpaced config frame info) (hbottom : clip.bottom ≤ info.rows)
    (hrow : InRows clip position.2) (hrun : run ∈ rowRuns config frame info position.2)
    (hunder : UnderRun run position.2 position) :
    (List.range' clip.top (clip.bottom - clip.top)).foldl (renderRow wx config frame info clip)
        picture position =
      rowCell wx config info clip run position.1 (picture position) := by
  obtain ⟨htop, hlt⟩ := hrow
  have hmem : position.2 ∈ List.range' clip.top (clip.bottom - clip.top) := by
    rw [List.mem_range'_1]
    omega
  apply (spaced_range' clip.top _).foldl_apply _ hmem le_rfl (Nat.lt_succ_self _)
  · exact fun _ => renderRow_of_under h (by omega) hrun hunder
  · intro other hother hout _
    rw [List.mem_range'_1] at hother
    refine renderRow_eq_self h (by omega) fun run _ hunder => hout ?_
    have hsame : position.2 = other := hunder.1
    exact ⟨Nat.le_of_eq hsame.symm, Nat.lt_succ_of_le (Nat.le_of_eq hsame)⟩

theorem renderRows_eq_self (h : RunsSpaced config frame info) (hbottom : clip.bottom ≤ info.rows)
    (hnone : InRows clip position.2 → ∀ run ∈ rowRuns config frame info position.2,
      ¬ UnderRun run position.2 position) :
    (List.range' clip.top (clip.bottom - clip.top)).foldl (renderRow wx config frame info clip)
        picture position = picture position := by
  apply foldl_apply_eq_self
  intro row hrow _
  rw [List.mem_range'_1] at hrow
  refine renderRow_eq_self h (by omega) fun run hrun hunder => ?_
  obtain rfl : position.2 = row := hunder.1
  exact hnone ⟨hrow.1, by omega⟩ run hrun hunder

end row

/-! ## A frame -/

section frame

variable {wx : Toolkit} {config : RenderConfig} {frame : PackedFrame} {info : RenderInfo}
  {dirty : DirtyRegion} {run : RunView} {picture : Picture PaintedCell} {position : Nat × Nat}

/-- The cell the cursor is drawn in. -/
def CursorAt (info : RenderInfo) (position : Nat × Nat) : Prop :=
  info.cursorVisible = true ∧ position = (info.cursorX, info.cursorY)

instance (info : RenderInfo) (position : Nat × Nat) : Decidable (CursorAt info position) :=
  inferInstanceAs (Decidable (_ ∧ _))

/-- What a cell under a run is to show. -/
def shownCell (wx : Toolkit) (info : RenderInfo) (run : RunView) (position : Nat × Nat) :
    PaintedCell where
  background := run.background
  glyph := drawnGlyph wx run
  underline := if underlined run = true then some run.foreground else none
  cursor := if CursorAt info position then some info.cursorStyle else none

theorem clipDirty_le (info : RenderInfo) (dirty : DirtyRegion) :
    (clipDirty info dirty).right ≤ info.columns ∧ (clipDirty info dirty).bottom ≤ info.rows :=
  ⟨Nat.min_le_right _ _, Nat.min_le_right _ _⟩

/-- In the grid, the clipped rectangle has the cells of the rectangle. -/
theorem covers_clipDirty {column row : Nat} (hcolumn : column < info.columns)
    (hrow : row < info.rows) :
    RegionCovers (clipDirty info dirty) column row ↔ RegionCovers dirty column row := by
  unfold RegionCovers clipDirty
  dsimp only
  omega

/-- The early returns are those of an empty clipped rectangle. -/
theorem renderFrame_eq :
    renderFrame wx config frame info dirty picture =
      let clip := clipDirty info dirty
      if clip.left ≥ clip.right ∨ clip.top ≥ clip.bottom then picture
      else
        renderCursor info clip
          ((List.range' clip.top (clip.bottom - clip.top)).foldl
            (renderRow wx config frame info clip)
            (drawRectangle picture clip.left clip.top clip.right clip.bottom
              config.themeBackground)) := by
  unfold renderFrame
  split
  case isTrue hempty =>
    refine (if_pos ?_).symm
    unfold clipDirty
    dsimp only
    omega
  case isFalse => rfl

/-- The cursor changes one cell, if that is in the rectangle. -/
theorem renderCursor_apply :
    renderCursor info (clipDirty info dirty) picture position =
      if CursorAt info position ∧ RegionCovers (clipDirty info dirty) position.1 position.2 then
        { picture position with cursor := some info.cursorStyle }
      else picture position := by
  have hle := clipDirty_le info dirty
  unfold renderCursor drawCursor
  dsimp only
  split
  case isTrue hcursor =>
    obtain ⟨⟨hleft, hright, htop, hbottom⟩, hvisible, -, -⟩ := hcursor
    rw [paintWhere_apply]
    refine if_congr ?_ rfl rfl
    constructor
    · rintro rfl
      exact ⟨⟨hvisible, rfl⟩, hleft, hright, htop, hbottom⟩
    · exact fun h => h.1.2
  case isFalse hcursor =>
    refine (if_neg ?_).symm
    rintro ⟨⟨hvisible, rfl⟩, hleft, hright, htop, hbottom⟩
    exact hcursor ⟨⟨hleft, hright, htop, hbottom⟩, hvisible, by omega, by omega⟩

/-- A cell under no run is to show the cursor at most. -/
def emptyCell (config : RenderConfig) (info : RenderInfo) (position : Nat × Nat) : PaintedCell where
  background := config.themeBackground
  cursor := if CursorAt info position then some info.cursorStyle else none

/-- Both loops over a row give a cleared cell of the rectangle what its run shows. -/
theorem rowCell_cleared (hfits : RunFits info run) {clip : DirtyRegion}
    (hin : InColumns clip position.1) (hunder : UnderRun run position.2 position) :
    rowCell wx config info clip run position.1 { background := config.themeBackground } =
      { background := run.background
        glyph := drawnGlyph wx run
        underline := if underlined run = true then some run.foreground else none } := by
  have hcolumns := (hfits.columns clip hunder.2.1 hunder.2.2).2 hin
  have hdrawn : Drawn info clip run := hcolumns.1.trans_lt hcolumns.2
  have hbackground : backgroundCell config clip run position.1
      { background := config.themeBackground } = { background := run.background } := by
    unfold backgroundCell
    by_cases hdefault : run.background = config.themeBackground
    · rw [if_neg fun h => h.1 hdefault, hdefault]
    · rw [if_pos ⟨hdefault, hin⟩]
  have hglyph : glyphCell wx config info run { background := run.background } =
      { background := run.background, glyph := drawnGlyph wx run } := by
    unfold glyphCell
    cases drawnGlyph wx run with
    | none => rfl
    | some glyph => exact ite_self _
  unfold rowCell runCell
  rw [hbackground, hglyph, if_pos hdrawn]
  cases underlined run with
  | true => exact if_pos ⟨rfl, hin⟩
  | false => exact if_neg fun h => Bool.noConfusion h.1

/-- Only the glyphs of a run go beyond the rectangle. -/
theorem rowCell_outside {clip : DirtyRegion} {column : Nat} (hout : ¬ InColumns clip column)
    (cell : PaintedCell) :
    rowCell wx config info clip run column cell =
      if Drawn info clip run then glyphCell wx config info run cell else cell := by
  have hbackground : backgroundCell config clip run column cell = cell :=
    if_neg fun hin => hout hin.2
  unfold rowCell runCell
  rw [hbackground, if_neg fun hin => hout hin.2]

section spaced

variable (h : RunsSpaced config frame info)
include h

/-- A cell of the rectangle shows what it is to show. -/
theorem renderFrame_of_covers
    (hcovers : RegionCovers (clipDirty info dirty) position.1 position.2)
    (hrun : run ∈ rowRuns config frame info position.2)
    (hunder : UnderRun run position.2 position) :
    renderFrame wx config frame info dirty picture position = shownCell wx info run position := by
  obtain ⟨hleft, hright, htop, hbottom⟩ := id hcovers
  have hle := (clipDirty_le info dirty).2
  rw [renderFrame_eq]
  dsimp only
  rw [if_neg (by omega), renderCursor_apply,
    renderRows_of_inRows h hle ⟨htop, hbottom⟩ hrun hunder,
    drawRectangle_of_mem hleft hright htop hbottom,
    rowCell_cleared (h.fits (by omega) hrun) ⟨hleft, hright⟩ hunder]
  unfold shownCell
  by_cases hcursor : CursorAt info position
  · rw [if_pos ⟨hcursor, hcovers⟩, if_pos hcursor]
  · rw [if_neg fun h => hcursor h.1, if_neg hcursor]

/-- A cell outside of the rectangle. -/
theorem renderFrame_of_not_covers
    (hcovers : ¬ RegionCovers (clipDirty info dirty) position.1 position.2)
    (hrun : run ∈ rowRuns config frame info position.2)
    (hunder : UnderRun run position.2 position) :
    renderFrame wx config frame info dirty picture position =
      if InRows (clipDirty info dirty) position.2 ∧ Drawn info (clipDirty info dirty) run then
        glyphCell wx config info run (picture position)
      else picture position := by
  have hle := (clipDirty_le info dirty).2
  rw [renderFrame_eq]
  dsimp only
  split
  case isTrue hempty =>
    refine (if_neg ?_).symm
    rintro ⟨⟨htop, hbottom⟩, hdrawn⟩
    unfold Drawn drawLeft drawRight at hdrawn
    omega
  case isFalse =>
    have hrectangle : ∀ colour, drawRectangle picture (clipDirty info dirty).left
        (clipDirty info dirty).top (clipDirty info dirty).right (clipDirty info dirty).bottom
        colour position = picture position := fun colour =>
      paintWhere_of_not_mem fun hin => hcovers ⟨hin.1.1, hin.1.2, hin.2⟩
    rw [renderCursor_apply, if_neg fun h => hcovers h.2]
    by_cases hrows : InRows (clipDirty info dirty) position.2
    · have hout : ¬ InColumns (clipDirty info dirty) position.1 :=
        fun hin => hcovers ⟨hin.1, hin.2, hrows⟩
      rw [renderRows_of_inRows h hle hrows hrun hunder, hrectangle, rowCell_outside hout]
      exact if_congr (and_iff_right hrows).symm rfl rfl
    · rw [renderRows_eq_self h hle fun hin => absurd hin hrows, hrectangle,
        if_neg fun hin => hrows hin.1]

/-- A cell under no run. -/
theorem renderFrame_of_none
    (hnone : position.2 < info.rows → ∀ run ∈ rowRuns config frame info position.2,
      ¬ UnderRun run position.2 position) :
    renderFrame wx config frame info dirty picture position =
      if RegionCovers (clipDirty info dirty) position.1 position.2 then
        emptyCell config info position
      else picture position := by
  have hle := (clipDirty_le info dirty).2
  rw [renderFrame_eq]
  dsimp only
  split
  case isTrue hempty =>
    refine (if_neg ?_).symm
    rintro ⟨hleft, hright, htop, hbottom⟩
    omega
  case isFalse =>
    rw [renderCursor_apply, renderRows_eq_self h hle fun hin => hnone (hin.2.trans_le hle)]
    by_cases hcovers : RegionCovers (clipDirty info dirty) position.1 position.2
    · obtain ⟨hleft, hright, htop, hbottom⟩ := id hcovers
      rw [if_pos hcovers, drawRectangle_of_mem hleft hright htop hbottom]
      unfold emptyCell
      by_cases hcursor : CursorAt info position
      · rw [if_pos ⟨hcursor, hcovers⟩, if_pos hcursor]
      · rw [if_neg fun hin => hcursor hin.1, if_neg hcursor]
    · rw [if_neg fun hin => hcovers hin.2, if_neg hcovers]
      exact paintWhere_of_not_mem fun hin => hcovers ⟨hin.1.1, hin.1.2, hin.2⟩

end spaced

/-! ### Partial and full repaints -/

/-- `RenderFrame` with the whole grid, when bitmaps turn out valid as `bitmapIsOk` says. -/
def renderWholeFrame (wx : Toolkit) (bitmapIsOk : RunView → Bool) (config : RenderConfig)
    (frame : PackedFrame) (info : RenderInfo) (picture : Picture PaintedCell) :
    Picture PaintedCell :=
  renderFrame { wx with bitmapIsOk := bitmapIsOk } config frame info
    (wholeGrid info.columns info.rows) picture

/-- The bitmaps that are drawn have neither a stroke nor the cursor beyond the columns of the
rectangle. -/
def BitmapsSpareOutside (wx : Toolkit) (config : RenderConfig) (frame : PackedFrame)
    (info : RenderInfo) (dirty : DirtyRegion) : Prop :=
  cacheGlyphs config info = true →
    ∀ row, InRows (clipDirty info dirty) row →
      ∀ run ∈ rowRuns config frame info row, Drawn info (clipDirty info dirty) run →
        (drawnGlyph wx run).isSome = true → wx.bitmapIsOk run = true →
          ∀ column, run.left ≤ column → column < run.left + run.cellCount →
            ¬ InColumns (clipDirty info dirty) column →
            underlined run = false ∧ ¬ CursorAt info (column, row)

/-- Drawing its glyphs again spares a cell unless they are a bitmap and the cell shows more. -/
theorem glyphCell_shownCell_iff :
    glyphCell wx config info run (shownCell wx info run position) =
        shownCell wx info run position ↔
      (cacheGlyphs config info = true → (drawnGlyph wx run).isSome = true →
        wx.bitmapIsOk run = true → underlined run = false ∧ ¬ CursorAt info position) := by
  unfold glyphCell shownCell
  cases drawnGlyph wx run with
  | none => simp
  | some glyph =>
    by_cases hbitmap : cacheGlyphs config info = true ∧ wx.bitmapIsOk run = true
    · obtain ⟨hcache, hok⟩ := hbitmap
      cases underlined run <;> by_cases hcursor : CursorAt info position <;>
        simp [hcache, hok, hcursor]
    · simp only [if_neg hbitmap]
      exact iff_of_true trivial fun hcache _ hok => absurd ⟨hcache, hok⟩ hbitmap

theorem renderWholeFrame_of_under (h : RunsSpaced config frame info) (bitmapIsOk : RunView → Bool)
    (hrow : position.2 < info.rows) (hrun : run ∈ rowRuns config frame info position.2)
    (hunder : UnderRun run position.2 position) :
    renderWholeFrame wx bitmapIsOk config frame info picture position =
      shownCell wx info run position := by
  have hcolumn := hunder.2.2.trans_le (h.fits hrow hrun).right
  refine renderFrame_of_covers h ?_ hrun hunder
  rw [covers_clipDirty hcolumn hrow]
  exact ⟨Nat.zero_le _, hcolumn, Nat.zero_le _, hrow⟩

/-- Nothing beyond the grid is drawn. -/
theorem renderFrame_beyond (h : RunsSpaced config frame info)
    (hbeyond : ¬ (position.1 < info.columns ∧ position.2 < info.rows)) :
    renderFrame wx config frame info dirty picture position = picture position := by
  have hnone : position.2 < info.rows → ∀ run ∈ rowRuns config frame info position.2,
      ¬ UnderRun run position.2 position := fun hrow run hrun hunder =>
    hbeyond ⟨hunder.2.2.trans_le (h.fits hrow hrun).right, hrow⟩
  have hle := clipDirty_le info dirty
  rw [renderFrame_of_none h hnone]
  exact if_neg fun hcovers =>
    hbeyond ⟨hcovers.2.1.trans_le hle.1, hcovers.2.2.2.trans_le hle.2⟩

/-- Where everything outside of the rectangle is right, a repaint of the rectangle makes the whole
framebuffer right exactly when its bitmaps spare the outside. -/
theorem renderFrame_eq_whole_iff (h : RunsSpaced config frame info) (bitmapIsOk : RunView → Bool)
    (hshown : ∀ position, ¬ RegionCovers dirty position.1 position.2 →
      picture position = renderWholeFrame wx bitmapIsOk config frame info picture position) :
    renderFrame wx config frame info dirty picture =
        renderWholeFrame wx bitmapIsOk config frame info picture ↔
      BitmapsSpareOutside wx config frame info dirty := by
  constructor
  · intro hsame hcache row hrows run hrun hdrawn hglyph hok column hleft hright hout
    have hrow : row < info.rows := hrows.2.trans_le (clipDirty_le info dirty).2
    have hunder : UnderRun run row (column, row) := ⟨rfl, hleft, hright⟩
    have hcovers : ¬ RegionCovers (clipDirty info dirty) column row :=
      fun hcovers => hout ⟨hcovers.1, hcovers.2.1⟩
    have hcolumn := hright.trans_le (h.fits hrow hrun).right
    have hbefore := hshown (column, row) ((covers_clipDirty hcolumn hrow).not.1 hcovers)
    have hwhole : renderWholeFrame wx bitmapIsOk config frame info picture (column, row) =
        shownCell wx info run (column, row) :=
      renderWholeFrame_of_under h bitmapIsOk hrow hrun hunder
    -- the repaint draws the glyphs of the run over a cell that is right
    have hupdated : renderFrame wx config frame info dirty picture (column, row) =
        glyphCell wx config info run (picture (column, row)) :=
      (renderFrame_of_not_covers h hcovers hrun hunder).trans (if_pos ⟨hrows, hdrawn⟩)
    have hcell := congrFun hsame (column, row)
    rw [hupdated, hbefore, hwhole] at hcell
    exact glyphCell_shownCell_iff.1 hcell hcache hglyph hok
  · intro hspare
    funext position
    by_cases hsome : position.2 < info.rows ∧
        ∃ run ∈ rowRuns config frame info position.2, UnderRun run position.2 position
    · obtain ⟨hrow, run, hrun, hunder⟩ := hsome
      have hcolumn := hunder.2.2.trans_le (h.fits hrow hrun).right
      have hwhole : renderWholeFrame wx bitmapIsOk config frame info picture position =
          shownCell wx info run position :=
        renderWholeFrame_of_under h bitmapIsOk hrow hrun hunder
      by_cases hcovers : RegionCovers (clipDirty info dirty) position.1 position.2
      · rw [renderFrame_of_covers h hcovers hrun hunder, hwhole]
      · have hbefore := hshown position ((covers_clipDirty hcolumn hrow).not.1 hcovers)
        rw [renderFrame_of_not_covers h hcovers hrun hunder, hbefore, hwhole]
        split
        case isTrue hdrawn =>
          -- in a row of the rectangle the cell is beyond its columns
          have hout : ¬ InColumns (clipDirty info dirty) position.1 :=
            fun hin => hcovers ⟨hin.1, hin.2, hdrawn.1⟩
          exact glyphCell_shownCell_iff.2 fun hcache hglyph hok =>
            hspare hcache position.2 hdrawn.1 run hrun hdrawn.2 hglyph hok position.1 hunder.2.1
              hunder.2.2 hout
        case isFalse => rfl
    · have hnone : position.2 < info.rows → ∀ run ∈ rowRuns config frame info position.2,
          ¬ UnderRun run position.2 position :=
        fun hrow run hrun hunder => hsome ⟨hrow, run, hrun, hunder⟩
      rw [renderFrame_of_none h hnone]
      split
      case isTrue hcovers =>
        obtain ⟨-, hright, -, hbottom⟩ := id hcovers
        have hle := clipDirty_le info dirty
        refine ((renderFrame_of_none h hnone).trans (if_pos ?_)).symm
        rw [covers_clipDirty (by omega) (by omega)]
        exact ⟨Nat.zero_le _, hright.trans_le hle.1, Nat.zero_le _, hbottom.trans_le hle.2⟩
      case isFalse hcovers =>
        by_cases hgrid : position.1 < info.columns ∧ position.2 < info.rows
        · exact hshown position ((covers_clipDirty hgrid.1 hgrid.2).not.1 hcovers)
        · exact (renderFrame_beyond h hgrid).symm

/-- A full repaint of what a full repaint shows changes nothing. -/
theorem renderWholeFrame_idem (h : RunsSpaced config frame info) (bitmapIsOk : RunView → Bool) :
    renderWholeFrame wx bitmapIsOk config frame info
        (renderWholeFrame wx bitmapIsOk config frame info picture) =
      renderWholeFrame wx bitmapIsOk config frame info picture := by
  funext position
  by_cases hsome : position.2 < info.rows ∧
      ∃ run ∈ rowRuns config frame info position.2, UnderRun run position.2 position
  · obtain ⟨hrow, run, hrun, hunder⟩ := hsome
    rw [renderWholeFrame_of_under h bitmapIsOk hrow hrun hunder,
      renderWholeFrame_of_under h bitmapIsOk hrow hrun hunder]
  · have hnone : position.2 < info.rows → ∀ run ∈ rowRuns config frame info position.2,
        ¬ UnderRun run position.2 position :=
      fun hrow run hrun hunder => hsome ⟨hrow, run, hrun, hunder⟩
    unfold renderWholeFrame
    rw [renderFrame_of_none h hnone, renderFrame_of_none h hnone]
    split <;> rfl

end frame

/-! ## Frames of a terminal -/

section terminal

variable {config : RenderConfig} {frame : PackedFrame} {tsmUcs4ToUtf8 : Nat → List UInt8}

/-- Reading a list by its indices is reading it in order. -/
theorem filterMap_range_getElem? {α β : Type} (f : α → Option β) (l : List α) :
    (List.range l.length).filterMap (fun index => (l[index]?).bind f) = l.filterMap f := by
  induction l using List.reverseRecOn with
  | nil => rfl
  | append_singleton l a ih =>
    rw [List.length_append, List.length_singleton, List.range_succ, List.filterMap_append,
      List.filterMap_append]
    have hinit : (List.range l.length).filterMap (fun index => ((l ++ [a])[index]?).bind f) =
        (List.range l.length).filterMap fun index => (l[index]?).bind f := by
      refine List.filterMap_congr fun index hindex => ?_
      rw [List.getElem?_append_left (List.mem_range.1 hindex)]
    have hlast : ((l ++ [a])[l.length]?).bind f = f a := by
      rw [List.getElem?_concat_length, Option.bind_some]
    rw [hinit, ih, List.filterMap_cons, List.filterMap_cons, hlast]
    rfl

theorem logicalRuns_eq {row : Nat} {source : PackedRow}
    (hsource : frameRow frame row = some source) :
    logicalRuns frame row = source.runs.filterMap (fillPackedRunView frame.grid source row) := by
  rw [← filterMap_range_getElem?, logicalRuns, frameRowRunCount, hsource]
  refine List.filterMap_congr fun index _ => ?_
  rw [frameRowRun, hsource]
  cases hrun : source.runs[index]? <;> simp [hrun]

/-- Whatever texts can be read, the runs that are drawn are apart. -/
theorem runsSpaced_of_rowsFit (hfit : RowsFit frame.grid)
    (hcolumns : frame.columns = frame.grid.columns) (scrollDelta : Int) :
    RunsSpaced config frame (renderInfo frame scrollDelta) := by
  intro row hrow
  change Spaced _ _ frame.columns _
  cases hsource : frameRow frame row with
  | none =>
    have hempty : rowRuns config frame (renderInfo frame scrollDelta) row = [] := by
      simp [rowRuns, logicalRuns, frameForEachRowSpan, frameRowRunCount, hsource]
    rw [hempty]
    exact ⟨by simp, by simp, List.Pairwise.nil⟩
  | some source =>
    have hmem : source ∈ frame.grid.rowData := by
      rw [frameRow, if_pos (show row < frame.rows from hrow)] at hsource
      exact List.mem_of_getElem? hsource
    have htiles := (hfit source hmem).runs.tile
    rw [(hfit source hmem).columns, ← hcolumns] at htiles
    unfold rowRuns
    dsimp only
    split
    case isTrue hspans =>
      generalize hviews : frameForEachRowSpan frame row (max 2 config.glyphCacheMaxRunCells) =
        spans at hspans
      obtain ⟨views, complete⟩ := spans
      simp only [Bool.and_eq_true] at hspans
      obtain ⟨⟨-, rfl⟩, -⟩ := hspans
      rw [frameForEachRowSpan, if_neg (by omega), hsource] at hviews
      exact (rowSpans_tiles_of_complete htiles hviews).spaced
    case isFalse =>
      rw [logicalRuns_eq hsource]
      exact htiles.spaced.filterMap _ fun _ _ hview => fillPackedRunView_bounds hview

theorem runsSpaced_of_taken {allowed : TerminalRun → Op → Prop} {terminal : TerminalRun}
    (h : (terminalSystem tsmUcs4ToUtf8).Reachable allowed terminal)
    {taken : Screen × PackedFrame} (htaken : taken ∈ terminal.taken) (scrollDelta : Int) :
    RunsSpaced config taken.2 (renderInfo taken.2 scrollDelta) := by
  have hfits : ∀ taken ∈ terminal.taken,
      RowsFit taken.2.grid ∧ taken.2.columns = taken.2.grid.columns := by
    refine forall_taken (fun run draw hreach _ _ => ?_) h
    have hcache := cacheInvariant hreach
    exact ⟨hcache.fit.takenGrid hcache.table, (takenGrid_columns hcache.table).symm⟩
  obtain ⟨hfit, hcolumns⟩ := hfits taken htaken
  exact runsSpaced_of_rowsFit hfit hcolumns scrollDelta

/-- Where the texts of a row can be read, the runs that are drawn tile it. -/
theorem rowRuns_tiles {row : Nat} (h : RowViewsAgree frame row) (info : RenderInfo) :
    Tiles RunView.left RunView.cellCount 0 (rowRuns config frame info row) frame.columns := by
  unfold rowRuns
  dsimp only
  split
  case isTrue =>
    obtain ⟨spans, hspans, htiles, -⟩ := h.spans (max 2 config.glyphCacheMaxRunCells) (by omega)
    rw [hspans]
    exact htiles
  case isFalse =>
    obtain ⟨runs, hcount, hget, htiles, -⟩ := h.runs
    have hruns : logicalRuns frame row = runs := by
      have hall := filterMap_range_getElem? some runs
      rw [List.filterMap_some] at hall
      refine Eq.trans ?_ hall
      rw [logicalRuns, hcount]
      refine List.filterMap_congr fun index _ => ?_
      rw [hget index]
      cases runs[index]? <;> rfl
    rwa [hruns]

/-- `*painted_cells` grows by the cells of the rectangle in the frame. -/
theorem paintedCells_eq (h : ∀ row < frame.rows, RowViewsAgree frame row) (scrollDelta : Int)
    (dirty : DirtyRegion) :
    paintedCells config frame (renderInfo frame scrollDelta) dirty =
      (min dirty.right frame.columns - min dirty.left frame.columns) *
        (min dirty.bottom frame.rows - min dirty.top frame.rows) := by
  have hrow : ∀ row < frame.rows,
      ((rowRuns config frame (renderInfo frame scrollDelta) row).map fun run =>
        drawRight (renderInfo frame scrollDelta)
            (clipDirty (renderInfo frame scrollDelta) dirty) run -
          drawLeft (clipDirty (renderInfo frame scrollDelta) dirty) run).sum =
        min dirty.right frame.columns - min dirty.left frame.columns := by
    intro row hrow
    have htiles : Tiles RunView.left RunView.cellCount 0
        (rowRuns config frame (renderInfo frame scrollDelta) row) frame.columns :=
      rowRuns_tiles (h row hrow) _
    by_cases hle : min dirty.left frame.columns ≤ min dirty.right frame.columns
    · refine Eq.trans ?_ ((htiles.sum_overlap hle).trans (by omega))
      refine congrArg List.sum (List.map_congr_left fun run hrun => ?_)
      obtain ⟨-, hpos, hright⟩ := htiles.bounds hrun
      simp only [drawRight, drawLeft, runRight, clipDirty, renderInfo]
      omega
    · rw [List.sum_eq_zero, Nat.sub_eq_zero_of_le (by omega)]
      intro cells hcells
      obtain ⟨run, -, rfl⟩ := List.mem_map.1 hcells
      simp only [drawRight, drawLeft, clipDirty, renderInfo]
      omega
  unfold paintedCells
  dsimp only
  rw [List.map_congr_left fun row hmem => hrow row ?_]
  · rw [List.map_const', List.sum_replicate_nat, List.length_range', Nat.mul_comm]
    rfl
  · rw [List.mem_range'_1] at hmem
    have hbottom := (clipDirty_le (renderInfo frame scrollDelta) dirty).2
    change _ ≤ frame.rows at hbottom
    omega

/-- For every frame, rectangle and setting: where everything outside of the rectangle is what a full
repaint shows, a partial repaint leaves what a full repaint would exactly when the bitmaps it draws
spare the outside. Bitmaps may be valid in one and not in the other. -/
theorem partialRepaint_iff {terminal : TerminalRun}
    (h : (terminalSystem tsmUcs4ToUtf8).Reachable (fun _ _ => True) terminal)
    {taken : Screen × PackedFrame} (htaken : taken ∈ terminal.taken) (wx : Toolkit)
    (bitmapIsOk : RunView → Bool) (config : RenderConfig) (scrollDelta : Int)
    (dirty : DirtyRegion) (picture : Picture PaintedCell)
    (hshown : ∀ position, ¬ RegionCovers dirty position.1 position.2 →
      picture position = renderWholeFrame wx bitmapIsOk config taken.2
        (renderInfo taken.2 scrollDelta) picture position) :
    renderFrame wx config taken.2 (renderInfo taken.2 scrollDelta) dirty picture =
        renderWholeFrame wx bitmapIsOk config taken.2 (renderInfo taken.2 scrollDelta) picture ↔
      BitmapsSpareOutside wx config taken.2 (renderInfo taken.2 scrollDelta) dirty :=
  renderFrame_eq_whole_iff (runsSpaced_of_taken h htaken scrollDelta) bitmapIsOk hshown

end terminal

/-! ### Two cells of one run -/

/-- `ab` with the cursor on the `b`. -/
def pairScreen : Screen where
  width := 2
  height := 1
  widthPos := Nat.two_pos
  widthLt := two_lt_unsigned
  heightPos := Nat.one_pos
  cell := fun column _ => { codepoints := [97 + column] }
  rowId := fun row => row
  cursorX := 1
  textCursorMode := true

def pairDraw : Draw where
  calls := [⟨{ codepoints := [97] }, 0, 0, 1⟩, ⟨{ codepoints := [98] }, 1, 0, 1⟩]
  age := 1

def pairFrame : PackedFrame :=
  takePackedFrame ucs4ToUtf8 (newImpl pairScreen) pairScreen pairDraw

def pairRun : RunView := ⟨0, 0, 2, 0, [97, 98], {}, {}, 0⟩

/-- ASCII, and bitmaps that are always valid. -/
def asciiToolkit : Toolkit where
  fromUtf8 := fun text => text.map UInt8.toNat
  bitmapIsOk := fun _ => true

/-- What a full repaint of the two cells shows. -/
def pairPicture : Picture PaintedCell :=
  renderWholeFrame asciiToolkit (fun _ => true) {} pairFrame (renderInfo pairFrame 0)
    fun _ => { background := {} }

theorem rowRuns_pairFrame : rowRuns {} pairFrame (renderInfo pairFrame 0) 0 = [pairRun] := by
  have hrow : frameRow pairFrame 0 = some ((frameRow pairFrame 0).getD {}) := rfl
  have hruns : ((frameRow pairFrame 0).getD {}).runs = [⟨0, 2, 0, 0, 2⟩] := by decide
  have hspans : frameForEachRowSpan pairFrame 0 32 = ([pairRun], true) := by
    rw [frameForEachRowSpan, if_neg (by decide), hrow]
    dsimp only
    rw [hruns, rowSpans, forEachPackedRunSpan, if_neg (by decide),
      packedRunSpansFrom_last (by decide) (by decide) (by decide) (by rfl)]
    rfl
  rw [rowRuns, show max 2 (RenderConfig.glyphCacheMaxRunCells {}) = 32 from rfl, hspans]
  rfl

theorem reachable_pair : (terminalSystem ucs4ToUtf8).Reachable (fun _ _ => True)
    ((newRun pairScreen).calls ucs4ToUtf8 [.takePackedFrame pairDraw]) :=
  reachable_calls (.init ⟨_, rfl⟩) ⟨trivial, trivial⟩

theorem pairPicture_shown (position : Nat × Nat) :
    pairPicture position = renderWholeFrame asciiToolkit (fun _ => true) {} pairFrame
      (renderInfo pairFrame 0) pairPicture position :=
  (congrFun (renderWholeFrame_idem (runsSpaced_of_taken reachable_pair List.mem_cons_self 0)
    fun _ => true) position).symm

/-- The rectangle of the cursor. -/
theorem partialRepaint_iff_cursor :
    renderFrame asciiToolkit {} pairFrame (renderInfo pairFrame 0) ⟨1, 0, 2, 1⟩ pairPicture =
      renderWholeFrame asciiToolkit (fun _ => true) {} pairFrame (renderInfo pairFrame 0)
        pairPicture := by
  refine (partialRepaint_iff reachable_pair List.mem_cons_self asciiToolkit (fun _ => true) {} 0
    ⟨1, 0, 2, 1⟩ pairPicture fun position _ => pairPicture_shown position).2 ?_
  change BitmapsSpareOutside asciiToolkit {} pairFrame (renderInfo pairFrame 0) ⟨1, 0, 2, 1⟩
  intro _ row hrow run hrun _ _ _ column _ hright hout
  obtain rfl : row = 0 := Nat.lt_one_iff.1 hrow.2
  rw [rowRuns_pairFrame, List.mem_singleton] at hrun
  subst hrun
  obtain rfl : column = 0 := by
    change column < 2 at hright
    by_contra hne
    exact hout ⟨Nat.pos_of_ne_zero hne, hright⟩
  exact ⟨by decide, by decide⟩

/-- A repaint of the `a` draws the bitmap of both letters over the cursor. -/
theorem not_partialRepaint : ¬ ∀ terminal,
    (terminalSystem ucs4ToUtf8).Reachable (fun _ _ => True) terminal →
    ∀ taken ∈ terminal.taken, ∀ (wx : Toolkit) (bitmapIsOk : RunView → Bool)
      (config : RenderConfig) (scrollDelta : Int) (dirty : DirtyRegion)
      (picture : Picture PaintedCell), dirtyEmpty dirty = false →
      dirty.right ≤ taken.2.columns → dirty.bottom ≤ taken.2.rows →
      (∀ position, ¬ RegionCovers dirty position.1 position.2 →
        picture position = renderWholeFrame wx bitmapIsOk config taken.2
          (renderInfo taken.2 scrollDelta) picture position) →
      renderFrame wx config taken.2 (renderInfo taken.2 scrollDelta) dirty picture =
        renderWholeFrame wx bitmapIsOk config taken.2 (renderInfo taken.2 scrollDelta)
          picture := by
  intro h
  have hsame := h _ reachable_pair _ List.mem_cons_self asciiToolkit (fun _ => true) {} 0
    ⟨0, 0, 1, 1⟩ pairPicture (by decide) (by decide) (by decide)
    fun position _ => pairPicture_shown position
  have hspare := (renderFrame_eq_whole_iff
    (runsSpaced_of_taken reachable_pair List.mem_cons_self 0) (fun _ => true)
    fun position _ => pairPicture_shown position).1 hsame
  have hrun : pairRun ∈ rowRuns {} pairFrame (renderInfo pairFrame 0) 0 := by
    rw [rowRuns_pairFrame]
    exact List.mem_cons_self
  have hcursor := hspare (by decide) 0 (by decide) pairRun hrun (by decide) (by decide) (by decide)
    1 (by decide) (by decide) (by decide)
  exact hcursor.2 ⟨rfl, rfl⟩

end SakuraTerminal.Wx.Renderer
