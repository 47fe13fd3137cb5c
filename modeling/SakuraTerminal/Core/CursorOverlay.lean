import SakuraTerminal.Core.FrameDelta

/-!
# Cursor overlays across frames

A frontend draws the cursor as an overlay on what it shows. With a frame that is no full repaint it
shifts everything by `scroll_delta` and repaints the dirty spans, and the overlay should end up on
the frame's cursor (`OverlayMoves`). `TakePackedFrame` dirties the old cursor cell where it was
before the shift; the cell the shift takes the overlay to is dirty only if libtsm redraws it with
another content than the rotated cache has. The overlay is right in every run in which it does
(`overlayMoves_of_redrawn`), and stays behind where the contents happen to be equal
(`not_overlayMoves`).

An overlay is a property of the frontend's picture, not of the frame: it stays where it was drawn
until its cell is repainted, and the shift takes it along. `ShiftedOverlay` leaves open what the
shift brings into the rows that it exposes, so the results hold for a frontend that clears them and
for one that does not. `Redrawn` is a condition on the calls of the draw, with the style table after
the earlier calls (`stylesAfter`), and does not mention the spans.
-/

set_option autoImplicit false

namespace SakuraTerminal.Core

open SakuraTerminal.Foundations SakuraTerminal.Foundations.InternTable

/-! ## Overlays -/

/-- The cursor of a frame lies in its grid. -/
def CursorInside (frame : PackedFrame) : Prop :=
  frame.cursorX < frame.columns ∧ frame.cursorY < frame.rows

instance (frame : PackedFrame) : Decidable (CursorInside frame) :=
  inferInstanceAs (Decidable (_ ∧ _))

/-- The overlay at a cell when the cursor of a frame is drawn. There is at most one, in the cursor's
own cell. -/
def cursorOverlay (frame : PackedFrame) (column row : Nat) : Option CursorStyle :=
  if frame.cursorVisible = true ∧ column = frame.cursorX ∧ row = frame.cursorY then
    some frame.cursorStyle
  else none

/-- The overlays of `older`, shifted by the scroll of `newer`. What the shift leaves in the rows it
exposes is not known. -/
def ShiftedOverlay (older newer : PackedFrame) (shifted : Nat → Nat → Option CursorStyle) : Prop :=
  ∀ column row source : Nat, source < older.rows → (source : Int) = row + newer.scrollDelta →
    shifted column row = cursorOverlay older column source

/-- The overlays after the dirty spans of `newer` were repainted with its cursor. -/
def repaintOverlay (newer : PackedFrame) (shifted : Nat → Nat → Option CursorStyle)
    (column row : Nat) : Option CursorStyle :=
  if SpansCover newer.dirtySpans column row then cursorOverlay newer column row
  else shifted column row

/-- Shifting and repainting takes the overlay from the cursor of `older` to that of `newer`, and the
cells where this needs a repaint are dirty. A cell whose overlay is right after the shift need not
be dirty. -/
structure OverlayMoves (older newer : PackedFrame) : Prop where
  overlay : ∀ shifted, ShiftedOverlay older newer shifted →
    ∀ column < newer.columns, ∀ row < newer.rows,
      repaintOverlay newer shifted column row = cursorOverlay newer column row
  old : older.cursorVisible = true → ∀ row < newer.rows,
    (older.cursorY : Int) = row + newer.scrollDelta →
    cursorOverlay newer older.cursorX row ≠ some older.cursorStyle →
      SpansCover newer.dirtySpans older.cursorX row
  new : newer.cursorVisible = true → ¬ (older.cursorVisible = true ∧
      older.cursorX = newer.cursorX ∧ (older.cursorY : Int) = newer.cursorY + newer.scrollDelta ∧
      older.cursorStyle = newer.cursorStyle) →
      SpansCover newer.dirtySpans newer.cursorX newer.cursorY

/-- The overlay moves, where the newer frame is a delta and both cursors are in the grid. A cursor
behind the last column has no cell to be drawn over. -/
def OverlayFollows (older newer : PackedFrame) : Prop :=
  newer.fullRepaint = false → CursorInside older → CursorInside newer → OverlayMoves older newer

/-- The cell of an overlay is that of a visible cursor. -/
theorem cursorOverlay_eq_some_iff {frame : PackedFrame} {column row : Nat} {style : CursorStyle} :
    cursorOverlay frame column row = some style ↔ frame.cursorVisible = true ∧
      column = frame.cursorX ∧ row = frame.cursorY ∧ frame.cursorStyle = style := by
  simp [cursorOverlay, and_assoc]

theorem cursorOverlay_eq_none {frame : PackedFrame} {column row : Nat}
    (h : frame.cursorVisible = true → ¬ (column = frame.cursorX ∧ row = frame.cursorY)) :
    cursorOverlay frame column row = none := by
  rw [cursorOverlay, if_neg]
  rintro ⟨hvisible, hcell⟩
  exact h hvisible hcell

theorem cursorOverlay_congr {frame frame' : PackedFrame} (hx : frame.cursorX = frame'.cursorX)
    (hy : frame.cursorY = frame'.cursorY) (hvisible : frame.cursorVisible = frame'.cursorVisible)
    (hstyle : frame.cursorStyle = frame'.cursorStyle) (column row : Nat) :
    cursorOverlay frame column row = cursorOverlay frame' column row := by
  simp only [cursorOverlay, hx, hy, hvisible, hstyle]

theorem cursorOverlay_cursor {frame : PackedFrame} (h : frame.cursorVisible = true) :
    cursorOverlay frame frame.cursorX frame.cursorY = some frame.cursorStyle :=
  cursorOverlay_eq_some_iff.2 ⟨h, rfl, rfl, rfl⟩

/-- It is enough that in every cell that is not repainted the shifted overlay is the new one. -/
theorem overlayMoves_of_uncovered {older newer : PackedFrame} (holder : CursorInside older)
    (hnewer : CursorInside newer) (hcolumns : older.columns = newer.columns)
    (huncovered : ∀ column < newer.columns, ∀ row < newer.rows,
      ¬ SpansCover newer.dirtySpans column row → ∃ source < older.rows,
        (source : Int) = row + newer.scrollDelta ∧
          cursorOverlay older column source = cursorOverlay newer column row) :
    OverlayMoves older newer := by
  constructor
  case overlay =>
    intro shifted hshifted column hcolumn row hrow
    rw [repaintOverlay]
    split
    · rfl
    · rename_i hclean
      obtain ⟨source, hsource, heq, hsame⟩ := huncovered column hcolumn row hrow hclean
      rw [hshifted column row source hsource heq, hsame]
  case old =>
    intro hvisible row hrow heq hdiffers
    by_contra hclean
    have hcolumn : older.cursorX < newer.columns := hcolumns ▸ holder.1
    obtain ⟨source, -, hsource, hsame⟩ := huncovered _ hcolumn row hrow hclean
    obtain rfl : source = older.cursorY := by omega
    exact hdiffers (hsame.symm.trans (cursorOverlay_cursor hvisible))
  case new =>
    intro hvisible hdiffers
    by_contra hclean
    obtain ⟨source, -, hsource, hsame⟩ := huncovered _ hnewer.1 _ hnewer.2 hclean
    rw [cursorOverlay_cursor hvisible, cursorOverlay_eq_some_iff] at hsame
    obtain ⟨holdVisible, hx, hy, hstyle⟩ := hsame
    exact hdiffers ⟨holdVisible, hx.symm, by rw [← hy, hsource], hstyle⟩

/-! ## Cells that libtsm redraws -/

/-- The style table after some calls: every accepted call interns its style. A call that is ignored
interns nothing. -/
def stylesAfter (context : PackedDrawContext) (calls : List DrawCall) : List PackedStyle :=
  calls.foldl (fun styles call =>
    if Accepts context call then (styleIndex styles (packedStyleFor call.cell.attr)).2 else styles)
    context.grid.styles

section redrawn

variable {tsmUcs4ToUtf8 : Nat → List UInt8}

/-- One of the calls is for a cell that repaints this one, is accepted with its text, and differs
from the cell in the (rotated) cache. The cells between are those that a wide cell covers. -/
def Redrawn (tsmUcs4ToUtf8 : Nat → List UInt8) (context : PackedDrawContext)
    (calls : List DrawCall) (column row : Nat) : Prop :=
  ∃ before call after, calls = before ++ call :: after ∧ Accepts context call ∧ call.row = row ∧
    cellLeft call.column call.cell.width ≤ column ∧
    column < cellRight call.column call.cell.width context.grid.columns ∧
    ∃ encoded, encodeText tsmUcs4ToUtf8 call.cell = some encoded ∧
      cachedCellMatches context.grid call
        (styleIndex (stylesAfter context before) (packedStyleFor call.cell.attr)).1 encoded = false

/-- One call interns its style, if it is accepted. -/
theorem drawPackedCell_styles (context : PackedDrawContext) (call : DrawCall) :
    (drawPackedCell tsmUcs4ToUtf8 context call).grid.styles =
      if Accepts context call then
        (styleIndex context.grid.styles (packedStyleFor call.cell.attr)).2
      else context.grid.styles := by
  have houtcome : DrawOutcome tsmUcs4ToUtf8 context call
      (drawPackedCell tsmUcs4ToUtf8 context call) := drawOutcome context call
  generalize drawPackedCell tsmUcs4ToUtf8 context call = context' at houtcome ⊢
  cases houtcome with
  | ignored hnot => rw [if_neg hnot]
  | tooLong index styles haccepts hindex hencode => rw [if_pos haccepts, hindex]; rfl
  | cached index styles encoded haccepts hindex => rw [if_pos haccepts, hindex]; rfl
  | recorded index styles encoded haccepts hindex => rw [if_pos haccepts, hindex]; rfl

/-- The style table after a pass is that of its calls. -/
theorem drawPass_styles {start : PackedDrawContext} (htable : StyleTable start.grid.styles)
    (hcells : start.changedCells = []) (hdirty : start.dirty = {})
    (hspans : start.dirtySpans = []) (calls : List DrawCall) :
    (drawPass tsmUcs4ToUtf8 start calls).grid.styles = stylesAfter start calls := by
  induction calls using List.reverseRecOn with
  | nil => rfl
  | append_singleton calls call ih =>
    have hdrawn : DrawnSince tsmUcs4ToUtf8 start calls (drawPass tsmUcs4ToUtf8 start calls) :=
      drawnSince_drawPass htable hcells hdirty hspans calls
    rw [stylesAfter, List.foldl_concat, drawPass, List.foldl_concat]
    rw [drawPass] at ih hdrawn
    rw [drawPackedCell_styles, ih]
    -- the callback accepts the same calls before and in the pass
    simp only [hdrawn.setting.accepts]
    rfl

/-- Later calls keep what is dirty. -/
theorem SpansCover.drawPass {context : PackedDrawContext} {column row : Nat}
    (h : SpansCover context.dirtySpans column row) (calls : List DrawCall) :
    SpansCover (drawPass tsmUcs4ToUtf8 context calls).dirtySpans column row := by
  induction calls using List.reverseRecOn with
  | nil => exact h
  | append_singleton calls call ih =>
    rw [Core.drawPass, List.foldl_concat]
    rw [Core.drawPass] at ih
    have houtcome := @drawOutcome tsmUcs4ToUtf8
      (calls.foldl (drawPackedCell tsmUcs4ToUtf8) context) call
    generalize drawPackedCell tsmUcs4ToUtf8 _ call = context' at houtcome ⊢
    cases houtcome with
    | ignored hnot => exact ih
    | tooLong index styles haccepts hindex hencode => exact ih
    | cached index styles encoded haccepts hindex hencode hreuse hmatch => exact ih
    | recorded index styles encoded haccepts hindex hencode => exact ih.includeCellSpan ..

/-- A redrawn cell is dirty. -/
theorem Redrawn.spansCover {start : PackedDrawContext} {calls : List DrawCall} {column row : Nat}
    (h : Redrawn tsmUcs4ToUtf8 start calls column row) (htable : StyleTable start.grid.styles)
    (hcells : start.changedCells = []) (hdirty : start.dirty = {})
    (hspans : start.dirtySpans = []) :
    SpansCover (drawPass tsmUcs4ToUtf8 start calls).dirtySpans column row := by
  obtain ⟨before, call, after, rfl, haccepts, rfl, hleft, hright, encoded, hencode, hdiffers⟩ := h
  have hdrawn : DrawnSince tsmUcs4ToUtf8 start before (drawPass tsmUcs4ToUtf8 start before) :=
    drawnSince_drawPass htable hcells hdirty hspans before
  have hstyles : (drawPass tsmUcs4ToUtf8 start before).grid.styles = stylesAfter start before :=
    drawPass_styles htable hcells hdirty hspans before
  rw [drawPass, List.foldl_append, List.foldl_cons]
  rw [drawPass] at hdrawn hstyles
  refine SpansCover.drawPass ?_ after
  have houtcome := @drawOutcome tsmUcs4ToUtf8
    (before.foldl (drawPackedCell tsmUcs4ToUtf8) start) call
  generalize drawPackedCell tsmUcs4ToUtf8 _ call = context' at houtcome ⊢
  have hcolumns := hdrawn.setting.columns
  have hrows := hdrawn.setting.rows
  cases houtcome with
  | ignored hnot => exact absurd ((hdrawn.setting.accepts call).2 haccepts) hnot
  | tooLong index styles _ _ hnone =>
    rw [hencode] at hnone
    cases hnone
  | cached index styles text _ hindex htext _ hmatch =>
    -- the callback compares with the cell and the style index of the condition
    rw [hstyles] at hindex
    rw [hencode, Option.some.injEq] at htext
    rw [hindex] at hdiffers
    rw [cachedCellMatches, hdrawn.setting.rowData, ← htext] at hmatch
    exact absurd (hmatch.symm.trans hdiffers) (by simp)
  | recorded index styles text _ hindex htext =>
    apply spansCover_includeCellSpan_of_between
    · exact haccepts.1.trans_eq hcolumns.symm
    · exact haccepts.2.1.trans_eq hrows.symm
    · exact hleft
    · exact hright.trans_eq (congrArg _ hcolumns.symm)

end redrawn

/-! ## Runs in which the overlay moves -/

section run

variable {tsmUcs4ToUtf8 : Nat → List UInt8}

/-- libtsm redraws the cell to which the shift takes a visible old cursor, unless the new cursor is
there, and the cell of a visible cursor that did not change, unless its row is exposed. In both
cases the source dirties no cell of itself: it includes the old cursor where it was before the
shift, and nothing for a cursor that did not change. -/
structure CursorRedrawn (tsmUcs4ToUtf8 : Nat → List UInt8) (run : TerminalRun) (draw : Draw) :
    Prop where
  old : run.impl.packedLastCursorVisible = true → ∀ row < run.screen.height,
    (run.impl.packedLastCursorY : Int) = row + run.impl.pendingContentScrollDelta →
    ¬ (run.impl.packedLastCursorX = run.screen.cursorX ∧ row = run.screen.cursorY) →
      Redrawn tsmUcs4ToUtf8 (drawContext run.impl run.screen) draw.calls
        run.impl.packedLastCursorX row
  new : cursorChanged run.impl run.screen = false → run.screen.textCursorMode = true →
    ¬ ((exposedRows run.impl.pendingContentScrollDelta run.screen.height).1 ≤
        run.screen.cursorY ∧
      run.screen.cursorY <
        (exposedRows run.impl.pendingContentScrollDelta run.screen.height).2) →
      Redrawn tsmUcs4ToUtf8 (drawContext run.impl run.screen) draw.calls run.screen.cursorX
        run.screen.cursorY

/-- The cursor of the frame before and libtsm's cursor lie in the grid. A cursor behind the last
column, where libtsm leaves it until the next character wraps, has no cell and no overlay. -/
def CursorsInside (run : TerminalRun) : Prop :=
  (run.impl.packedLastCursorX < run.screen.width ∧
      run.impl.packedLastCursorY < run.screen.height) ∧
    run.screen.cursorX < run.screen.width ∧ run.screen.cursorY < run.screen.height

instance (run : TerminalRun) : Decidable (CursorsInside run) :=
  inferInstanceAs (Decidable (_ ∧ _))

/-- libtsm keeps its contract, and every frame that reuses scrolled rows, is no full repaint and has
both cursors in the grid redraws their cells. Of other frames nothing is asked: without reuse the
whole grid is decoded, and a full repaint draws every overlay anew. -/
def OverlayAllowed (tsmUcs4ToUtf8 : Nat → List UInt8) (run : TerminalRun) (op : Op) : Prop :=
  DeltaContract tsmUcs4ToUtf8 run op ∧
    match op with
    | .takePackedFrame draw =>
      (takePackedFrame tsmUcs4ToUtf8 run.impl run.screen draw).fullRepaint = false →
        reuseScrolledRows run.impl run.screen = true → CursorsInside run →
          CursorRedrawn tsmUcs4ToUtf8 run draw
    | _ => True

/-- A cell redrawn by libtsm is dirty in the frame. -/
theorem Redrawn.covered {impl : Impl} {screen : Screen} {draw : Draw} {column row : Nat}
    (h : Redrawn tsmUcs4ToUtf8 (drawContext impl screen) draw.calls column row)
    (htable : GridTable (cachedGrid impl)) :
    SpansCover (takenContext tsmUcs4ToUtf8 impl screen draw).dirtySpans column row := by
  have hstyles : StyleTable (drawContext impl screen).grid.styles :=
    (htable.drawGrid screen).styleTable (by rw [drawGrid_rows]; exact screen.heightPos)
  rw [takenContext]
  apply includeExposedRows_covers
  apply includeCursor_covers
  exact h.spansCover hstyles rfl rfl rfl

/-- The cursor as the frame before left it in the members, and as the new frame has it. -/
theorem cursor_of_unchanged {impl : Impl} {screen : Screen} (hvalid : impl.packedFrameValid = true)
    (h : cursorChanged impl screen = false) :
    screen.cursorX = impl.packedLastCursorX ∧ screen.cursorY = impl.packedLastCursorY ∧
      screen.textCursorMode = impl.packedLastCursorVisible ∧
      impl.cursor.cursorStyle = impl.packedLastCursorStyle := by
  simpa [cursorChanged, hvalid, and_assoc] using h

/-- Without a scroll the old and the new cursor are repainted if they differ at all. -/
theorem overlay_of_still {run : TerminalRun} {draw : Draw} {screen : Screen} {frame : PackedFrame}
    (hlast : LastTaken run.impl screen frame) (hvalid : run.impl.packedFrameValid = true)
    (hspec : TakeSpec tsmUcs4ToUtf8 run.impl run.screen draw
      (takenContext tsmUcs4ToUtf8 run.impl run.screen draw)) {column row : Nat}
    (hcolumn : column < run.screen.width) (hrow : row < run.screen.height)
    (hclean : ¬ SpansCover (takenContext tsmUcs4ToUtf8 run.impl run.screen draw).dirtySpans
      column row) :
    cursorOverlay frame column row =
      cursorOverlay (takePackedFrame tsmUcs4ToUtf8 run.impl run.screen draw) column row := by
  cases hchanged : cursorChanged run.impl run.screen with
  | false =>
    obtain ⟨hx, hy, hvisible, hstyle⟩ := cursor_of_unchanged hvalid hchanged
    apply cursorOverlay_congr
    · exact hlast.cursorX.symm.trans hx.symm
    · exact hlast.cursorY.symm.trans hy.symm
    · exact hlast.cursorVisible.symm.trans hvisible.symm
    · exact hlast.cursorStyle.symm.trans hstyle.symm
  | true =>
    rw [cursorOverlay_eq_none, cursorOverlay_eq_none]
    · exact fun _ hcell => hclean (hspec.cursor hchanged _ _ (Or.inr hcell) hcolumn hrow)
    · rw [← hlast.cursorX, ← hlast.cursorY]
      exact fun _ hcell => hclean (hspec.cursor hchanged _ _ (Or.inl hcell) hcolumn hrow)

/-- With reused rows neither overlay is in a cell that is not repainted. -/
theorem overlay_of_reused {run : TerminalRun} {draw : Draw} {screen : Screen} {frame : PackedFrame}
    (hinv : CacheInvariant run.impl) (hlast : LastTaken run.impl screen frame)
    (hvalid : run.impl.packedFrameValid = true)
    (hcontent : run.impl.pendingContentScrollDelta ≠ 0)
    (hreuse : reuseScrolledRows run.impl run.screen = true)
    (hredrawn : CursorRedrawn tsmUcs4ToUtf8 run draw) {column row source : Nat}
    (hcolumn : column < run.screen.width) (hrow : row < run.screen.height)
    (hsource : (source : Int) = row + run.impl.pendingContentScrollDelta)
    (hclean : ¬ SpansCover (takenContext tsmUcs4ToUtf8 run.impl run.screen draw).dirtySpans
      column row) :
    cursorOverlay frame column source =
      cursorOverlay (takePackedFrame tsmUcs4ToUtf8 run.impl run.screen draw) column row := by
  have hspec : TakeSpec tsmUcs4ToUtf8 run.impl run.screen draw _ := takeSpec hinv.table
  rw [cursorOverlay_eq_none, cursorOverlay_eq_none]
  · -- the new cursor's cell is repainted if the cursor changed, and exposed or redrawn if not
    rintro hvisible ⟨rfl, rfl⟩
    cases hchanged : cursorChanged run.impl run.screen with
    | true => exact hclean (hspec.cursor hchanged _ _ (Or.inr ⟨rfl, rfl⟩) hcolumn hrow)
    | false =>
      by_cases hexposed : (exposedRows run.impl.pendingContentScrollDelta run.screen.height).1 ≤
          run.screen.cursorY ∧ run.screen.cursorY <
            (exposedRows run.impl.pendingContentScrollDelta run.screen.height).2
      · exact hclean (hspec.exposed hreuse _ _ hcolumn hrow hexposed.1 hexposed.2)
      · exact hclean ((hredrawn.new hchanged hvisible hexposed).covered hinv.table)
  · -- the shift takes the old cursor to a cell that is redrawn, or to the new cursor
    rw [← hlast.cursorX, ← hlast.cursorY, ← hlast.cursorVisible]
    rintro hvisible ⟨rfl, rfl⟩
    by_cases hnew : run.impl.packedLastCursorX = run.screen.cursorX ∧ row = run.screen.cursorY
    · have hchanged : cursorChanged run.impl run.screen = true := by
        cases hchanged : cursorChanged run.impl run.screen with
        | true => rfl
        | false =>
          obtain ⟨-, hy, -, -⟩ := cursor_of_unchanged hvalid hchanged
          omega
      exact hclean (hspec.cursor hchanged _ _ (Or.inr hnew) hcolumn hrow)
    · exact hclean ((hredrawn.old hvisible row hrow hsource hnew).covered hinv.table)

/-- A new frame takes the overlay along. -/
theorem overlayFollows_step {run : TerminalRun} {taken : Screen × PackedFrame}
    {older : List (Screen × PackedFrame)}
    (hreach : (terminalSystem tsmUcs4ToUtf8).Reachable (OverlayAllowed tsmUcs4ToUtf8) run)
    {draw : Draw} (hallowed : OverlayAllowed tsmUcs4ToUtf8 run (.takePackedFrame draw))
    (htaken : run.taken = taken :: older) :
    OverlayFollows taken.2 (takePackedFrame tsmUcs4ToUtf8 run.impl run.screen draw) := by
  intro hnotFull holder hnewer
  have hinv := cacheInvariant hreach
  have hlast := (remembersTaken hreach).lastTaken htaken
  have hmoved := viewportMoved_of_pending hreach
  have hspec : TakeSpec tsmUcs4ToUtf8 run.impl run.screen draw _ := takeSpec hinv.table
  obtain ⟨hfull, -, -, hspans, -⟩ := takenRegion_notFull hnotFull
  have hvalid : run.impl.packedFrameValid = true := by
    have hdraw := hspec.fullRepaint.symm.trans hfull
    simp only [drawFullRepaint, initialFullRepaint, Bool.or_eq_false_iff,
      Bool.not_eq_false'] at hdraw
    exact hdraw.1.1
  obtain ⟨hcolumns, hrows, hsources⟩ := drawnOver hinv hlast hmoved hallowed.1 hnotFull
  apply overlayMoves_of_uncovered holder hnewer hcolumns
  intro column hcolumn row hrow hclean
  change ¬ SpansCover (takenRegion tsmUcs4ToUtf8 run.impl run.screen draw).dirtySpans column row
    at hclean
  rw [hspans] at hclean
  obtain ⟨source, hsource, heq, -⟩ := hsources column hcolumn row hrow hclean
  refine ⟨source, by rwa [hrows], heq, ?_⟩
  rcases scrolled_of_notFull hinv hmoved hallowed.1 hnotFull with
    ⟨hdelta, -⟩ | ⟨hcontent, hdelta, hreuse⟩
  · obtain rfl : source = row := by
      rw [hdelta] at heq
      omega
    exact overlay_of_still hlast hvalid hspec hcolumn hrow hclean
  · rw [hdelta] at heq
    -- the cursors of both frames are those of the members and of the screen
    have hinside : CursorsInside run :=
      ⟨⟨(hlast.cursorX.trans_lt holder.1).trans_eq hcolumns,
        (hlast.cursorY.trans_lt holder.2).trans_eq hrows⟩, hnewer⟩
    exact overlay_of_reused hinv hlast hvalid hcontent hreuse
      (hallowed.2 hnotFull hreuse hinside) hcolumn hrow heq hclean

/-- In every run in which the cells of the cursors are redrawn, the overlay follows the cursor. -/
theorem overlayMoves_of_redrawn (tsmUcs4ToUtf8 : Nat → List UInt8) {run : TerminalRun}
    (h : (terminalSystem tsmUcs4ToUtf8).Reachable (OverlayAllowed tsmUcs4ToUtf8) run) :
    run.taken.IsChain fun newer older => OverlayFollows older.2 newer.2 :=
  taken_isChain (fun _ _ _ _ hreach hallowed htaken =>
    overlayFollows_step hreach hallowed htaken) h

end run

/-! ## Reverse video under the cursor -/

/-- An empty cell in white on black or, in reverse video and under the cursor, in black on white. -/
def blankCell (inverse : Bool) : TsmCell where
  attr := { fr := 255, fg := 255, fb := 255, inverse := inverse }

/-- Two empty lines, with the cursor in the second one; the first one may be in reverse video. -/
def promptScreen (first : Nat) (reverse : Bool) : Screen where
  width := 1
  height := 2
  widthPos := Nat.one_pos
  widthLt := one_lt_unsigned
  heightPos := Nat.two_pos
  cell := fun _ row => blankCell (reverse || row == 1)
  rowId := fun row => first + row
  cursorY := 1
  textCursorMode := true

/-- Both cells are reported, the second one with the cursor on it. -/
def promptDraw (reverse : Bool) (age : Nat) : Draw where
  calls := [⟨blankCell reverse, 0, 0, age⟩, ⟨blankCell true, 0, 1, age⟩]
  age := age

/-- A frame, output that scrolls one line, and the next frame. -/
def promptOps (reverse : Bool) : List Op :=
  [.takePackedFrame (promptDraw false 1), .feedOutput [10] (promptScreen 1 reverse),
    .takePackedFrame (promptDraw reverse 2)]

/-- The line that was scrolled up is plain, so libtsm redraws it without the cursor. -/
theorem overlayMoves_of_redrawn_plain :
    ((newRun (promptScreen 0 false)).calls ucs4ToUtf8 (promptOps false)).taken.IsChain
      fun newer older => OverlayFollows older.2 newer.2 := by
  refine overlayMoves_of_redrawn ucs4ToUtf8 (reachable_calls (.init ⟨_, rfl⟩)
    ⟨⟨⟨by decide, fun h => absurd h (by decide)⟩, fun h => absurd h (by decide)⟩,
      ⟨trivial, trivial⟩,
      ⟨⟨by decide, fun h => absurd h (by decide)⟩, fun _ _ _ => ⟨?_, ?_⟩⟩, trivial⟩)
  · intro _ row _ hrow _
    obtain rfl : row = 0 := by
      change ((1 : Nat) : Int) = row + 1 at hrow
      omega
    exact ⟨[], _, _, rfl, by decide, rfl, by decide, by decide, _, rfl, by decide⟩
  · intro _ _ hexposed
    exact absurd ⟨by decide, by decide⟩ hexposed

/-- The line that was scrolled up is in reverse video: its cell equals the cached one under the
cursor, is not repainted, and the shifted overlay stays on it. -/
theorem not_overlayMoves : ¬ ∀ run, (terminalSystem ucs4ToUtf8).Reachable
    (fun run op => ∀ draw, op = .takePackedFrame draw → DrawContract ucs4ToUtf8 run draw) run →
    run.taken.IsChain fun newer older => OverlayFollows older.2 newer.2 := by
  intro h
  have hfirst : DrawContract ucs4ToUtf8 (newRun (promptScreen 0 false)) (promptDraw false 1) :=
    { once := by decide
      current := by decide
      fit := by decide
      age := by decide
      all := fun _ => by decide
      changed := fun last hlast => by cases hlast }
  have hsecond : DrawContract ucs4ToUtf8
      ((newRun (promptScreen 0 false)).calls ucs4ToUtf8 ((promptOps true).take 2))
      (promptDraw true 2) :=
    { once := by decide
      current := by decide
      fit := by decide
      age := by decide
      all := fun _ => by decide
      changed := fun last hlast => by cases hlast; decide }
  have hreach : (terminalSystem ucs4ToUtf8).Reachable
      (fun run op => ∀ draw, op = .takePackedFrame draw → DrawContract ucs4ToUtf8 run draw)
      ((newRun (promptScreen 0 false)).calls ucs4ToUtf8 (promptOps true)) := by
    refine reachable_calls (.init ⟨_, rfl⟩) ⟨?_, ?_, ?_, trivial⟩
    · intro draw hdraw
      cases hdraw
      exact hfirst
    · intro draw hdraw
      cases hdraw
    · intro draw hdraw
      cases hdraw
      exact hsecond
  -- the overlay of the first frame is shifted to the first line, which is clean
  have hfollows := (List.isChain_cons_cons.1 (h _ hreach)).1
  have hmoves := hfollows (by decide) (by decide) (by decide)
  exact absurd (hmoves.old (by decide) 0 (by decide) (by decide) (by decide)) (by decide)

end SakuraTerminal.Core
