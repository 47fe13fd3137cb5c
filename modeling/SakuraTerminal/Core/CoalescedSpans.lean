import SakuraTerminal.Core.DirtyBounds
import SakuraTerminal.Core.SpanPieces

/-!
# Coalesced spans

`IncludeSpan` merges a span with the last one only. A row-major draw needs no more: every cell comes
right of, or below, all cells before it, so what it touches is the last span
(`spansOf_drawnPieces`). The cells of the old and the new cursor and the rows exposed by a scroll
come after the draw and may lie in any row, so they may repeat or touch spans that are not the last
one.

Whether the spans of a frame are coalesced is read off the drawn cells, the two cursor cells and the
exposed rows (`LateCellsApart`): each of the late ones joins the cells before it through the last of
them only. `coalescedRun_iff` says this of whole runs.

The pieces of a frame are listed in the order of the source: the cells that the draw repaints, the
cells of the two cursors, and the exposed rows. `takenContext_dirtySpans` says that the spans of the
frame are the fold of `IncludeSpan` over them. A frame that covers the whole grid is promoted to a
full repaint, and its spans are then made anew, one for each row. `FullFrame` says when that
happens, in the terms of the pieces, so no condition has to be met by such a frame.
-/

set_option autoImplicit false

namespace SakuraTerminal.Core

open SakuraTerminal.Foundations

/-! ## The pieces of a frame -/

/-- What `IncludeCellSpan` includes: the cells that a cell of libtsm repaints, if it is in the
grid. -/
def cellPiece (column row width columns rows : Nat) : Option DirtySpan :=
  if columns = 0 ∨ rows = 0 ∨ row ≥ rows ∨ column ≥ columns then none
  else some ⟨row, cellLeft column width, cellRight column width columns⟩

/-- What `IncludeRows` includes. -/
def rowPieces (top bottom columns rows : Nat) : List DirtySpan :=
  let top := min top rows
  let bottom := min bottom rows
  if columns = 0 ∨ top ≥ bottom then [] else wholeRows columns top (bottom - top)

section pieces

variable (tsmUcs4ToUtf8 : Nat → List UInt8) (impl : Impl) (screen : Screen) (draw : Draw)

/-- The cells that libtsm's draw repaints, call by call: those of the calls that are accepted and
differ from what the cache has. -/
def drawnPieces : List DirtySpan :=
  (redrawnCalls tsmUcs4ToUtf8 (drawContext impl screen) draw.calls).filterMap fun call =>
    cellPiece call.column call.row call.cell.width screen.width screen.height

/-- The cell of the frame before's cursor, where it was, if the cursor changed. -/
def oldCursorPiece : Option DirtySpan :=
  if cursorChanged impl screen then
    cellPiece impl.packedLastCursorX impl.packedLastCursorY 1 screen.width screen.height
  else none

/-- The cell of the new cursor, if the cursor changed. -/
def newCursorPiece : Option DirtySpan :=
  if cursorChanged impl screen then
    cellPiece screen.cursorX screen.cursorY 1 screen.width screen.height
  else none

/-- The rows that the reuse of scrolled rows exposes. -/
def exposedPieces : List DirtySpan :=
  if reuseScrolledRows impl screen then
    rowPieces (exposedRows impl.pendingContentScrollDelta screen.height).1
      (exposedRows impl.pendingContentScrollDelta screen.height).2 screen.width screen.height
  else []

/-- What is included after the draw, in this order. Their places are decided by the cursor and the
scroll, not by the draw. -/
def latePieces : List DirtySpan :=
  (oldCursorPiece impl screen).toList ++
    ((newCursorPiece impl screen).toList ++ exposedPieces impl screen)

/-- All pieces of a frame. -/
def framePieces : List DirtySpan :=
  drawnPieces tsmUcs4ToUtf8 impl screen draw ++ latePieces impl screen

end pieces

theorem inGrid_cellPiece {column row width columns rows : Nat} {piece : DirtySpan}
    (h : piece ∈ cellPiece column row width columns rows) : InGrid columns rows piece := by
  rw [cellPiece] at h
  split at h
  · contradiction
  · next hin =>
    cases h
    refine ⟨by simp only; omega, ?_, cellRight_le column width columns⟩
    exact Nat.lt_of_le_of_lt (cellLeft_le column width) (lt_cellRight (by omega))

theorem inGrid_rowPieces {top bottom columns rows : Nat} {piece : DirtySpan}
    (h : piece ∈ rowPieces top bottom columns rows) : InGrid columns rows piece := by
  simp only [rowPieces] at h
  split at h
  · simp at h
  · next hin =>
    obtain ⟨row, hrow, rfl⟩ := List.mem_map.1 h
    rw [List.mem_range'_1] at hrow
    exact ⟨by simp only; omega, by simp only; omega, le_rfl⟩

/-- `IncludeCellSpan` includes the piece of the cell. -/
theorem includeCellSpan_eq (spans : List DirtySpan) (column row width columns rows : Nat) :
    includeCellSpan spans column row width columns rows =
      (cellPiece column row width columns rows).toList.foldl includePiece spans := by
  rw [includeCellSpan, cellPiece]
  split <;> rfl

/-- `IncludeRows` includes a piece for each row. -/
theorem includeRowsSpans_eq (spans : List DirtySpan) (top bottom columns rows : Nat) :
    includeRowsSpans spans top bottom columns rows =
      (rowPieces top bottom columns rows).foldl includePiece spans := by
  simp only [includeRowsSpans, rowPieces]
  split
  · rfl
  · rw [wholeRows, List.foldl_map]
    rfl

section frame

variable {tsmUcs4ToUtf8 : Nat → List UInt8} {impl : Impl} {screen : Screen} {draw : Draw}

theorem inGrid_oldCursorPiece {piece : DirtySpan} (h : piece ∈ oldCursorPiece impl screen) :
    InGrid screen.width screen.height piece := by
  rw [oldCursorPiece] at h
  split at h
  · exact inGrid_cellPiece h
  · contradiction

theorem inGrid_newCursorPiece {piece : DirtySpan} (h : piece ∈ newCursorPiece impl screen) :
    InGrid screen.width screen.height piece := by
  rw [newCursorPiece] at h
  split at h
  · exact inGrid_cellPiece h
  · contradiction

theorem inGrid_exposedPieces {piece : DirtySpan} (h : piece ∈ exposedPieces impl screen) :
    InGrid screen.width screen.height piece := by
  rw [exposedPieces] at h
  split at h
  · exact inGrid_rowPieces h
  · contradiction

theorem inGrid_latePieces {piece : DirtySpan} (h : piece ∈ latePieces impl screen) :
    InGrid screen.width screen.height piece := by
  rcases List.mem_append.1 h with hold | h
  · exact inGrid_oldCursorPiece (Option.mem_toList.1 hold)
  · rcases List.mem_append.1 h with hnew | hexposed
    · exact inGrid_newCursorPiece (Option.mem_toList.1 hnew)
    · exact inGrid_exposedPieces hexposed

theorem inGrid_drawnPieces {piece : DirtySpan}
    (h : piece ∈ drawnPieces tsmUcs4ToUtf8 impl screen draw) :
    InGrid screen.width screen.height piece := by
  obtain ⟨call, -, hpiece⟩ := List.mem_filterMap.1 h
  exact inGrid_cellPiece hpiece

theorem inGrid_framePieces {piece : DirtySpan}
    (h : piece ∈ framePieces tsmUcs4ToUtf8 impl screen draw) :
    InGrid screen.width screen.height piece := by
  rcases List.mem_append.1 h with h | h
  · exact inGrid_drawnPieces h
  · exact inGrid_latePieces h

theorem includeCursor_dirtySpans {context : PackedDrawContext}
    (h : context.cursorChanged = cursorChanged impl screen) :
    (includeCursor impl screen context).dirtySpans =
      (newCursorPiece impl screen).toList.foldl includePiece
        ((oldCursorPiece impl screen).toList.foldl includePiece context.dirtySpans) := by
  rw [includeCursor, newCursorPiece, oldCursorPiece, h]
  split
  · rw [← includeCellSpan_eq, ← includeCellSpan_eq]
  · rfl

theorem includeExposedRows_dirtySpans {context : PackedDrawContext}
    (h : context.reuseScrolledRows = reuseScrolledRows impl screen) :
    (includeExposedRows impl screen context).dirtySpans =
      (exposedPieces impl screen).foldl includePiece context.dirtySpans := by
  rw [includeExposedRows, exposedPieces, h]
  split
  · exact includeRowsSpans_eq ..
  · rfl

/-- The draw includes the cells of the calls that it records. -/
theorem drawPass_dirtySpans :
    (drawPass tsmUcs4ToUtf8 (drawContext impl screen) draw.calls).dirtySpans =
      (drawnPieces tsmUcs4ToUtf8 impl screen draw).foldl includePiece [] := by
  have hcolumns : (drawContext impl screen).grid.columns = screen.width :=
    drawGrid_columns impl screen
  have hrows : (drawContext impl screen).grid.rows = screen.height := drawGrid_rows impl screen
  rw [(@drawPass_region tsmUcs4ToUtf8 (drawContext impl screen) draw.calls).2, drawnPieces,
    List.foldl_filterMap]
  simp only [callsSpans, hcolumns, hrows, includeCellSpan_eq]
  refine congrArg (fun step => List.foldl step _ _) ?_
  funext spans call
  cases cellPiece call.column call.row call.cell.width screen.width screen.height <;> rfl

/-- The spans that are collected for a frame are made of the frame's pieces. -/
theorem takenContext_dirtySpans :
    (takenContext tsmUcs4ToUtf8 impl screen draw).dirtySpans =
      (framePieces tsmUcs4ToUtf8 impl screen draw).foldl includePiece [] := by
  have hsetting := sameSetting_drawPass tsmUcs4ToUtf8 (drawContext impl screen) draw.calls
  have hreuse := (includeCursor_grid impl screen
    (drawPass tsmUcs4ToUtf8 (drawContext impl screen) draw.calls)).2.2.2.2
  rw [takenContext, includeExposedRows_dirtySpans (hreuse.trans hsetting.reuse),
    includeCursor_dirtySpans hsetting.cursorChanged, drawPass_dirtySpans, framePieces, latePieces,
    List.foldl_append, List.foldl_append, List.foldl_append]

/-! ## Full repaints -/

/-- The pieces reach all four borders of the grid. -/
structure ReachesBorders (columns rows : Nat) (pieces : List DirtySpan) : Prop where
  top : ∃ piece ∈ pieces, piece.row = 0
  bottom : ∃ piece ∈ pieces, piece.row + 1 = rows
  left : ∃ piece ∈ pieces, piece.left = 0
  right : ∃ piece ∈ pieces, piece.right = columns

theorem forall_spanWithin_foldl {box : DirtyRegion} {spans pieces : List DirtySpan}
    (hpieces : ∀ piece ∈ pieces, piece.left < piece.right) :
    (∀ span ∈ pieces.foldl includePiece spans, SpanWithin box span) ↔
      (∀ span ∈ spans, SpanWithin box span) ∧ ∀ piece ∈ pieces, SpanWithin box piece := by
  induction pieces generalizing spans with
  | nil => simp
  | cons piece pieces ih =>
    rw [List.foldl_cons, ih fun other hother => hpieces other (List.mem_cons_of_mem _ hother),
      includePiece, forall_spanWithin_includeSpan (hpieces piece List.mem_cons_self),
      List.forall_mem_cons, and_assoc]

/-- The boxes around the pieces are those around the rectangle. -/
theorem forall_framePieces_iff (hpieces : framePieces tsmUcs4ToUtf8 impl screen draw ≠ [])
    (box : DirtyRegion) :
    (∀ piece ∈ framePieces tsmUcs4ToUtf8 impl screen draw, SpanWithin box piece) ↔
      RegionWithin box (takenContext tsmUcs4ToUtf8 impl screen draw).dirty := by
  have hbounds := dirtyBounds_takenContext tsmUcs4ToUtf8 impl screen draw
  have hnonempty : ∀ piece ∈ framePieces tsmUcs4ToUtf8 impl screen draw,
      piece.left < piece.right := fun piece hpiece => (inGrid_framePieces hpiece).nonempty
  have hwithin : ∀ other, (∀ span ∈ (takenContext tsmUcs4ToUtf8 impl screen draw).dirtySpans,
      SpanWithin other span) ↔
        ∀ piece ∈ framePieces tsmUcs4ToUtf8 impl screen draw, SpanWithin other piece := by
    intro other
    rw [takenContext_dirtySpans, forall_spanWithin_foldl hnonempty]
    simp
  have hspans : (takenContext tsmUcs4ToUtf8 impl screen draw).dirtySpans ≠ [] := by
    intro hnil
    -- no box would miss a piece
    obtain ⟨piece, hpiece⟩ := List.exists_mem_of_ne_nil _ hpieces
    have hin := (hwithin ⟨0, 0, 0, 0⟩).1 (by simp [hnil]) piece hpiece
    exact absurd hin.bottom (Nat.not_lt_zero _)
  rw [← hwithin, isBoundingBox_iff.1 (hbounds.box hspans) box]

/-- Where every box around the pieces has the whole grid in it, the pieces reach all borders. -/
theorem reachesBorders_of_within {columns rows : Nat} {pieces : List DirtySpan}
    (hgrid : ∀ piece ∈ pieces, InGrid columns rows piece) (hcolumns : 0 < columns)
    (hrows : 0 < rows) (hwhole : ∀ box : DirtyRegion,
      (∀ piece ∈ pieces, SpanWithin box piece) → RegionWithin box (wholeGrid columns rows)) :
    ReachesBorders columns rows pieces := by
  -- a border that no piece reaches could be cut off
  constructor
  case top =>
    by_contra hnone
    have hbox := hwhole ⟨0, 1, columns, rows⟩ fun piece hpiece =>
      ⟨Nat.zero_le _, (hgrid piece hpiece).right,
        Nat.one_le_iff_ne_zero.2 fun h => hnone ⟨piece, hpiece, h⟩, (hgrid piece hpiece).row⟩
    exact absurd hbox.top (by simp [wholeGrid])
  case bottom =>
    by_contra hnone
    have hbox := hwhole ⟨0, 0, columns, rows - 1⟩ fun piece hpiece => by
      have hrow := (hgrid piece hpiece).row
      have hne : piece.row + 1 ≠ rows := fun h => hnone ⟨piece, hpiece, h⟩
      exact ⟨Nat.zero_le _, (hgrid piece hpiece).right, Nat.zero_le _, by simp only; omega⟩
    have hbottom := hbox.bottom
    simp only [wholeGrid] at hbottom
    omega
  case left =>
    by_contra hnone
    have hbox := hwhole ⟨1, 0, columns, rows⟩ fun piece hpiece =>
      ⟨Nat.one_le_iff_ne_zero.2 fun h => hnone ⟨piece, hpiece, h⟩,
        (hgrid piece hpiece).right, Nat.zero_le _, (hgrid piece hpiece).row⟩
    exact absurd hbox.left (by simp [wholeGrid])
  case right =>
    by_contra hnone
    have hbox := hwhole ⟨0, 0, columns - 1, rows⟩ fun piece hpiece => by
      have hright := (hgrid piece hpiece).right
      have hne : piece.right ≠ columns := fun h => hnone ⟨piece, hpiece, h⟩
      exact ⟨Nat.zero_le _, by simp only; omega, Nat.zero_le _, (hgrid piece hpiece).row⟩
    have hright := hbox.right
    simp only [wholeGrid] at hright
    omega

/-- And a box in the grid around pieces that reach all borders is the whole grid. -/
theorem ReachesBorders.eq_wholeGrid {columns rows : Nat} {pieces : List DirtySpan}
    (h : ReachesBorders columns rows pieces) {box : DirtyRegion}
    (hinside : ∀ piece ∈ pieces, SpanWithin box piece) (hcolumns : box.right ≤ columns)
    (hrows : box.bottom ≤ rows) : box = wholeGrid columns rows := by
  obtain ⟨topmost, htop, htopRow⟩ := h.top
  obtain ⟨lowest, hlow, hlowRow⟩ := h.bottom
  obtain ⟨leftmost, hleft, hleftColumn⟩ := h.left
  obtain ⟨rightmost, hright, hrightColumn⟩ := h.right
  have hboxTop := (hinside topmost htop).top
  have hboxBottom := (hinside lowest hlow).bottom
  have hboxLeft := (hinside leftmost hleft).left
  have hboxRight := (hinside rightmost hright).right
  obtain ⟨left, top, right, bottom⟩ := box
  simp only [wholeGrid, DirtyRegion.mk.injEq] at *
  omega

/-- The rectangle is the whole grid where the pieces reach its borders. -/
theorem dirty_eq_wholeGrid_iff :
    (takenContext tsmUcs4ToUtf8 impl screen draw).dirty = wholeGrid screen.width screen.height ↔
      ReachesBorders screen.width screen.height
        (framePieces tsmUcs4ToUtf8 impl screen draw) := by
  have hbounds := dirtyBounds_takenContext tsmUcs4ToUtf8 impl screen draw
  have hwidth := screen.widthPos
  constructor
  · intro hwhole
    have hpieces : framePieces tsmUcs4ToUtf8 impl screen draw ≠ [] := by
      intro hnil
      have hempty := hbounds.tracks.empty.2 (by rw [takenContext_dirtySpans, hnil]; rfl)
      have hfull : dirtyEmpty (wholeGrid screen.width screen.height) = false :=
        dirtyEmpty_eq_false_iff.2 ⟨hwidth, screen.heightPos⟩
      rw [hwhole, hfull] at hempty
      contradiction
    apply reachesBorders_of_within (fun _ => inGrid_framePieces) hwidth screen.heightPos
    intro box hbox
    rw [← hwhole]
    exact (forall_framePieces_iff hpieces box).1 hbox
  · intro hborders
    obtain ⟨piece, hpiece, -⟩ := hborders.top
    apply hborders.eq_wholeGrid _ hbounds.tracks.right hbounds.tracks.bottom
    apply (forall_framePieces_iff (List.ne_nil_of_mem hpiece) _).2
    exact .refl _

/-- What makes a frame a full repaint. -/
def FullFrame (tsmUcs4ToUtf8 : Nat → List UInt8) (impl : Impl) (screen : Screen) (draw : Draw) :
    Prop :=
  drawFullRepaint impl screen = true ∨ draw.age = 0 ∨
    ReachesBorders screen.width screen.height (framePieces tsmUcs4ToUtf8 impl screen draw)

/-- A frame is a full repaint in exactly these cases. -/
theorem takenRegion_fullRepaint_iff :
    (takenRegion tsmUcs4ToUtf8 impl screen draw).fullRepaint = true ↔
      FullFrame tsmUcs4ToUtf8 impl screen draw := by
  have hfullRepaint : (takenContext tsmUcs4ToUtf8 impl screen draw).fullRepaint =
      drawFullRepaint impl screen := by
    have hsetting := sameSetting_drawPass tsmUcs4ToUtf8 (drawContext impl screen) draw.calls
    rw [takenContext, (includeExposedRows_grid impl screen _).2.2.2,
      (includeCursor_grid impl screen _).2.2.2.1]
    exact hsetting.fullRepaint
  have hne : dirtyEmpty (wholeGrid screen.width screen.height) = false := by
    rw [dirtyEmpty_eq_false_iff]
    exact ⟨screen.widthPos, screen.heightPos⟩
  rw [FullFrame, ← dirty_eq_wholeGrid_iff, takenRegion, finishRegion, hfullRepaint]
  generalize takenContext tsmUcs4ToUtf8 impl screen draw = context
  cases hdraw : drawFullRepaint impl screen with
  | true => simp
  | false =>
    by_cases hage : draw.age = 0
    · simp [hage]
    · by_cases hwhole : context.dirty = wholeGrid screen.width screen.height
      · simp [hage, hwhole, hne]
      · simp [hage, hwhole]

/-- A span for each row is coalesced. -/
theorem coalesced_fullSpans (columns rows : Nat) : Coalesced (fullSpans columns rows) := by
  rw [fullSpans]
  split
  · exact .nil
  · rw [Coalesced, List.pairwise_map]
    exact List.pairwise_lt_range.imp fun hlt heq => absurd heq (Nat.ne_of_lt hlt)

/-- The spans of a frame that is no full repaint are made of its pieces. -/
theorem coalesced_takePackedFrame :
    Coalesced (takePackedFrame tsmUcs4ToUtf8 impl screen draw).dirtySpans ↔
      FullFrame tsmUcs4ToUtf8 impl screen draw ∨
        Coalesced ((framePieces tsmUcs4ToUtf8 impl screen draw).foldl includePiece []) := by
  have hfullIff : (takenRegion tsmUcs4ToUtf8 impl screen draw).fullRepaint = true ↔
      FullFrame tsmUcs4ToUtf8 impl screen draw := takenRegion_fullRepaint_iff
  change Coalesced (takenRegion tsmUcs4ToUtf8 impl screen draw).dirtySpans ↔ _
  by_cases hfull : FullFrame tsmUcs4ToUtf8 impl screen draw
  · have hspans : (takenRegion tsmUcs4ToUtf8 impl screen draw).dirtySpans =
        fullSpans screen.width screen.height := if_pos (hfullIff.2 hfull)
    rw [hspans]
    exact iff_of_true (coalesced_fullSpans _ _) (.inl hfull)
  · have hspans : (takenRegion tsmUcs4ToUtf8 impl screen draw).dirtySpans =
        (framePieces tsmUcs4ToUtf8 impl screen draw).foldl includePiece [] :=
      (if_neg fun h => hfull (hfullIff.1 h)).trans takenContext_dirtySpans
    rw [hspans, or_iff_right hfull]

end frame

/-! ## Row-major draws -/

/-- libtsm draws row by row, and each row from the left. Within a row the columns ascend, so a
position comes once. -/
def RowMajor (calls : List DrawCall) : Prop :=
  calls.Pairwise fun first second => first.row < second.row ∨
    (first.row = second.row ∧ first.column < second.column)

instance (calls : List DrawCall) : Decidable (RowMajor calls) :=
  inferInstanceAs (Decidable (calls.Pairwise _))

/-- The calls that are recorded keep the order in which libtsm made them. -/
theorem redrawnFrom_sublist (tsmUcs4ToUtf8 : Nat → List UInt8) (context : PackedDrawContext)
    (styles : List PackedStyle) (calls : List DrawCall) :
    (redrawnFrom tsmUcs4ToUtf8 context styles calls).Sublist calls := by
  induction calls generalizing styles with
  | nil => exact .refl _
  | cons call calls ih =>
    rw [redrawnFrom]
    split
    · dsimp only
      split
      · exact (ih _).cons _
      · split
        · exact (ih _).cons _
        · exact (ih _).cons_cons _
    · exact (ih _).cons _

/-- Cells of one row repaint their columns in the order of the cells. -/
theorem cellLeft_le_cellLeft {column column' : Nat} (h : column < column') (width width' : Nat) :
    cellLeft column width ≤ cellLeft column' width' := by
  rw [cellLeft, cellLeft]
  split <;> split <;> omega

section rowMajor

variable {tsmUcs4ToUtf8 : Nat → List UInt8} {impl : Impl} {screen : Screen} {draw : Draw}

/-- A row-major draw includes its pieces in the order of their cells. -/
theorem drawnPieces_sorted (h : RowMajor draw.calls) :
    (drawnPieces tsmUcs4ToUtf8 impl screen draw).Pairwise PieceBefore := by
  have hredrawn := h.sublist (redrawnFrom_sublist tsmUcs4ToUtf8 (drawContext impl screen)
    (drawContext impl screen).grid.styles draw.calls)
  have hpieceEq : ∀ {call : DrawCall} {piece : DirtySpan},
      cellPiece call.column call.row call.cell.width screen.width screen.height = some piece →
        piece.row = call.row ∧ piece.left = cellLeft call.column call.cell.width := by
    intro call piece hpiece
    rw [cellPiece] at hpiece
    split at hpiece
    · contradiction
    · cases hpiece
      exact ⟨rfl, rfl⟩
  rw [drawnPieces, List.pairwise_filterMap]
  refine hredrawn.imp fun {first second} hbefore piece hpiece other hother => ?_
  obtain ⟨hrow, hleft⟩ := hpieceEq hpiece
  obtain ⟨hrow', hleft'⟩ := hpieceEq hother
  rw [PieceBefore, hrow, hrow', hleft, hleft']
  exact hbefore.imp_right fun ⟨hsame, hcolumn⟩ => ⟨hsame, cellLeft_le_cellLeft hcolumn _ _⟩

/-- The spans of a row-major draw alone are coalesced. -/
theorem spansOf_drawnPieces (h : RowMajor draw.calls) :
    SpansOf (drawnPieces tsmUcs4ToUtf8 impl screen draw)
      ((drawnPieces tsmUcs4ToUtf8 impl screen draw).foldl includePiece []) :=
  spansOf_sorted (drawnPieces_sorted h) fun _ hpiece => (inGrid_drawnPieces hpiece).nonempty

end rowMajor

/-! ## Cells that come after the draw -/

section frame

variable {tsmUcs4ToUtf8 : Nat → List UInt8} {impl : Impl} {screen : Screen} {draw : Draw}

/-- The drawn cells with the cell of the old cursor. -/
def drawnAndOld (tsmUcs4ToUtf8 : Nat → List UInt8) (impl : Impl) (screen : Screen) (draw : Draw) :
    List DirtySpan :=
  (oldCursorPiece impl screen).toList.foldl addPiece (drawnPieces tsmUcs4ToUtf8 impl screen draw)

/-- The drawn cells with the cells of both cursors. -/
def drawnAndCursors (tsmUcs4ToUtf8 : Nat → List UInt8) (impl : Impl) (screen : Screen)
    (draw : Draw) : List DirtySpan :=
  (newCursorPiece impl screen).toList.foldl addPiece (drawnAndOld tsmUcs4ToUtf8 impl screen draw)

/-- The condition on the cells that come after the draw. The old cursor's cell joins the drawn cells
through the last of them only, the new cursor's cell joins these and the old cursor's through the
last, and the exposed rows have no repainted cells but in the first of them, linked to the last. It
is a condition on the calls that libtsm makes, on the two cursors and on the scroll, all of which
are known before any span is included. -/
structure LateCellsApart (tsmUcs4ToUtf8 : Nat → List UInt8) (impl : Impl) (screen : Screen)
    (draw : Draw) : Prop where
  old : ∀ cell ∈ oldCursorPiece impl screen,
    JoinsLast (drawnPieces tsmUcs4ToUtf8 impl screen draw) cell
  new : ∀ cell ∈ newCursorPiece impl screen,
    JoinsLast (drawnAndOld tsmUcs4ToUtf8 impl screen draw) cell
  exposed : reuseScrolledRows impl screen = true →
    RowsJoinLast (drawnAndCursors tsmUcs4ToUtf8 impl screen draw)
      (exposedRows impl.pendingContentScrollDelta screen.height).1
      (exposedRows impl.pendingContentScrollDelta screen.height).2

theorem inGrid_foldl_addPiece {columns rows : Nat} {pieces : List DirtySpan}
    (hpieces : ∀ piece ∈ pieces, InGrid columns rows piece) {piece : Option DirtySpan}
    (hpiece : ∀ new ∈ piece, InGrid columns rows new) :
    ∀ other ∈ piece.toList.foldl addPiece pieces, InGrid columns rows other := by
  cases piece with
  | none => exact hpieces
  | some new => exact inGrid_addPiece hpieces (hpiece new rfl)

theorem inGrid_drawnAndCursors {piece : DirtySpan}
    (h : piece ∈ drawnAndCursors tsmUcs4ToUtf8 impl screen draw) :
    InGrid screen.width screen.height piece :=
  inGrid_foldl_addPiece
    (inGrid_foldl_addPiece (fun _ => inGrid_drawnPieces) fun _ => inGrid_oldCursorPiece)
    (fun _ => inGrid_newCursorPiece) piece h

/-- The exposed rows after the cells of the cursors. -/
theorem coalesced_exposedPieces_iff {spans : List DirtySpan}
    (h : SpansOf (drawnAndCursors tsmUcs4ToUtf8 impl screen draw) spans) :
    Coalesced ((exposedPieces impl screen).foldl includePiece spans) ↔
      (reuseScrolledRows impl screen = true →
        RowsJoinLast (drawnAndCursors tsmUcs4ToUtf8 impl screen draw)
          (exposedRows impl.pendingContentScrollDelta screen.height).1
          (exposedRows impl.pendingContentScrollDelta screen.height).2) := by
  rw [exposedPieces]
  split
  next hreuse =>
    rw [forall_prop_of_true hreuse]
    have hlt := (reuseScrolledRows_spec hreuse).2.2.2.2
    have hrows : (exposedRows impl.pendingContentScrollDelta screen.height).1 ≤
        (exposedRows impl.pendingContentScrollDelta screen.height).2 ∧
        (exposedRows impl.pendingContentScrollDelta screen.height).2 ≤ screen.height := by
      rw [exposedRows]
      split
      · exact ⟨Nat.sub_le _ _, le_rfl⟩
      · exact ⟨Nat.zero_le _, hlt.le⟩
    generalize exposedRows impl.pendingContentScrollDelta screen.height = exposed at hrows ⊢
    have hpieces : rowPieces exposed.1 exposed.2 screen.width screen.height =
        wholeRows screen.width exposed.1 (exposed.2 - exposed.1) := by
      have hwidth := screen.widthPos
      simp only [rowPieces, min_eq_left hrows.2, min_eq_left (hrows.1.trans hrows.2)]
      split
      next hnone =>
        have hcount : exposed.2 - exposed.1 = 0 := by omega
        rw [hcount]
        rfl
      next => rfl
    have hbottom : exposed.2 = exposed.1 + (exposed.2 - exposed.1) := by omega
    rw [hpieces, (h.coalesced_wholeRows_iff (fun _ => inGrid_drawnAndCursors) screen.widthPos _
      _).1, ← hbottom]
  next hnot => exact iff_of_true h.coalesced fun hreuse => absurd hreuse hnot

/-- After a row-major draw the spans of a frame are coalesced exactly when the cells that come later
meet their condition, or the frame is a full repaint. -/
theorem coalesced_takePackedFrame_iff (h : RowMajor draw.calls) :
    Coalesced (takePackedFrame tsmUcs4ToUtf8 impl screen draw).dirtySpans ↔
      FullFrame tsmUcs4ToUtf8 impl screen draw ∨
        LateCellsApart tsmUcs4ToUtf8 impl screen draw := by
  have hdrawn : SpansOf (drawnPieces tsmUcs4ToUtf8 impl screen draw) _ := spansOf_drawnPieces h
  have hafterNew : ∀ piece ∈ exposedPieces impl screen, piece.left < piece.right :=
    fun piece hpiece => (inGrid_exposedPieces hpiece).nonempty
  have hafterOld : ∀ piece ∈ (newCursorPiece impl screen).toList ++ exposedPieces impl screen,
      piece.left < piece.right := by
    intro piece hpiece
    rcases List.mem_append.1 hpiece with hnew | hexposed
    · exact (inGrid_newCursorPiece (Option.mem_toList.1 hnew)).nonempty
    · exact hafterNew piece hexposed
  rw [coalesced_takePackedFrame, framePieces, latePieces, List.foldl_append]
  refine or_congr_right ?_
  rw [hdrawn.coalesced_foldl_iff (fun _ hold => (inGrid_oldCursorPiece hold).nonempty) hafterOld
    fun _ hold => hold.coalesced_foldl_iff (fun _ hnew => (inGrid_newCursorPiece hnew).nonempty)
      hafterNew fun _ hnew => coalesced_exposedPieces_iff hnew]
  exact ⟨fun ⟨hold, hnew, hexposed⟩ => ⟨hold, hnew, hexposed⟩,
    fun ⟨hold, hnew, hexposed⟩ => ⟨hold, hnew, hexposed⟩⟩

end frame

/-! ## Runs -/

/-- A condition on the steps that take a frame. -/
def OnTakes (condition : TerminalRun → Draw → Prop) (run : TerminalRun) : Op → Prop
  | .takePackedFrame draw => condition run draw
  | _ => True

/-- Run rule: if a frame has the property exactly when its step meets the condition, all frames of a
run have it exactly when all its steps meet the condition. -/
theorem forall_taken_calls_iff {tsmUcs4ToUtf8 : Nat → List UInt8}
    {allowed condition : TerminalRun → Draw → Prop} {P : Screen × PackedFrame → Prop}
    (hstep : ∀ run draw, allowed run draw →
      (P (run.screen, takePackedFrame tsmUcs4ToUtf8 run.impl run.screen draw) ↔
        condition run draw)) {run : TerminalRun} {ops : List Op}
    (h : AllowedAlong tsmUcs4ToUtf8 (OnTakes allowed) run ops) :
    (∀ taken ∈ (run.calls tsmUcs4ToUtf8 ops).taken, P taken) ↔
      (∀ taken ∈ run.taken, P taken) ∧
        AllowedAlong tsmUcs4ToUtf8 (OnTakes condition) run ops := by
  induction ops generalizing run with
  | nil => exact (and_iff_left trivial).symm
  | cons op ops ih =>
    have hnext := ih h.2
    rw [TerminalRun.calls, List.foldl_cons, ← TerminalRun.calls, hnext, AllowedAlong, ← and_assoc]
    refine and_congr_left fun _ => ?_
    cases op with
    | takePackedFrame draw =>
      change (∀ taken ∈ _ :: run.taken, P taken) ↔ _ ∧ condition run draw
      rw [List.forall_mem_cons, hstep run draw h.1, and_comm]
    | feedOutput data after => exact (and_iff_left trivial).symm
    | scrollLines lines after => exact (and_iff_left trivial).symm
    | scrollPageUp pages after => exact (and_iff_left trivial).symm
    | scrollPageDown pages after => exact (and_iff_left trivial).symm
    | resize after => exact (and_iff_left trivial).symm
    | input after => exact (and_iff_left trivial).symm

/-- libtsm draws row by row. -/
def RowMajorDraw (_ : TerminalRun) (draw : Draw) : Prop := RowMajor draw.calls

/-- The frame is a full repaint, or the cells that come after its draw meet their condition. -/
def SpansStayApart (tsmUcs4ToUtf8 : Nat → List UInt8) (run : TerminalRun) (draw : Draw) : Prop :=
  FullFrame tsmUcs4ToUtf8 run.impl run.screen draw ∨
    LateCellsApart tsmUcs4ToUtf8 run.impl run.screen draw

/-- In a run of row-major draws the spans of all frames are coalesced exactly when in every frame
that is no full repaint the cells of the cursors and the exposed rows meet the condition. -/
theorem coalescedRun_iff {tsmUcs4ToUtf8 : Nat → List UInt8} {screen : Screen} {ops : List Op}
    (h : AllowedAlong tsmUcs4ToUtf8 (OnTakes RowMajorDraw) (newRun screen) ops) :
    (∀ taken ∈ ((newRun screen).calls tsmUcs4ToUtf8 ops).taken, Coalesced taken.2.dirtySpans) ↔
      AllowedAlong tsmUcs4ToUtf8 (OnTakes (SpansStayApart tsmUcs4ToUtf8)) (newRun screen) ops := by
  rw [forall_taken_calls_iff (P := fun taken => Coalesced taken.2.dirtySpans)
    (fun _ _ hdraw => coalesced_takePackedFrame_iff hdraw) h]
  refine and_iff_right fun taken htaken => ?_
  exact absurd htaken List.not_mem_nil

/-- Three empty cells in one column. -/
def threeRows (cursorY : Nat) : Screen where
  width := 1
  height := 3
  widthPos := Nat.one_pos
  widthLt := one_lt_unsigned
  heightPos := Nat.succ_pos 2
  cell := fun _ _ => {}
  rowId := fun row => row
  cursorY := cursorY
  textCursorMode := true

/-- A full draw, the cursor goes to the second row, and a draw of some rows. -/
def cursorDownOps (rows : List Nat) : List Op :=
  [.takePackedFrame ⟨[⟨{}, 0, 0, 1⟩, ⟨{}, 0, 1, 1⟩, ⟨{}, 0, 2, 1⟩], 1⟩,
    .input (threeRows 1),
    .takePackedFrame ⟨rows.map fun row => ⟨{}, 0, row, 2⟩, 2⟩]

theorem rowMajor_cursorDown {rows : List Nat} (h : rows.Pairwise (· < ·)) :
    AllowedAlong ucs4ToUtf8 (OnTakes RowMajorDraw) (newRun (threeRows 0)) (cursorDownOps rows) := by
  refine ⟨?_, trivial, ?_, trivial⟩
  · show RowMajor _
    decide
  · show RowMajor (rows.map _)
    rw [RowMajor, List.pairwise_map]
    exact h.imp fun hlt => .inl hlt

/-- A draw of the first row: the old cursor cell is the last drawn cell, and the new one is in a row
of its own. -/
theorem coalescedRun_iff_firstRow :
    ((newRun (threeRows 0)).calls ucs4ToUtf8 (cursorDownOps [0])).taken.Forall
      fun taken => Coalesced taken.2.dirtySpans := by
  rw [List.forall_iff_forall_mem]
  refine (coalescedRun_iff (rowMajor_cursorDown (by simp))).2 ?_
  refine ⟨.inl (.inl (by decide)), trivial, .inr ?_, trivial⟩
  generalize hrun : ((newRun (threeRows 0)).next ucs4ToUtf8 _).next ucs4ToUtf8 _ = run
  have hdrawn : drawnPieces ucs4ToUtf8 run.impl run.screen
      ⟨[0].map fun row => ⟨{}, 0, row, 2⟩, 2⟩ = [⟨0, 0, 1⟩] := by
    rw [← hrun]
    decide
  have hold : oldCursorPiece run.impl run.screen = some ⟨0, 0, 1⟩ := by
    rw [← hrun]
    decide
  have hnew : newCursorPiece run.impl run.screen = some ⟨1, 0, 1⟩ := by
    rw [← hrun]
    decide
  constructor
  case old =>
    rw [hold, hdrawn]
    rintro _ ⟨⟩ _ ⟨⟩ column hcovered - -
    rw [spansCover_singleton] at hcovered
    obtain rfl : column = 0 := Nat.lt_one_iff.1 hcovered.2.2
    exact ⟨rfl, fun between hmin hmax =>
      spansCover_singleton.2 ⟨rfl, hmin, hmax.trans_lt (by decide)⟩⟩
  case new =>
    rw [drawnAndOld, hnew, hold, hdrawn]
    rintro _ ⟨⟩ _ ⟨⟩ column hcovered - -
    -- nothing is drawn in the second row
    rcases spansCover_append.1 hcovered with hcovered | hcovered
    · exact absurd (spansCover_singleton.1 hcovered).1 Nat.zero_ne_one
    · exact absurd (spansCover_singleton.1 hcovered).1 Nat.zero_ne_one
  case exposed =>
    rw [← hrun]
    exact fun hreuse => absurd hreuse (by decide)

/-- A draw of the first two rows: both cursor cells are spans for a second time. -/
theorem not_coalescedRun : ¬ ∀ (tsmUcs4ToUtf8 : Nat → List UInt8) (screen : Screen)
    (ops : List Op), AllowedAlong tsmUcs4ToUtf8 (OnTakes RowMajorDraw) (newRun screen) ops →
      ∀ taken ∈ ((newRun screen).calls tsmUcs4ToUtf8 ops).taken,
        Coalesced taken.2.dirtySpans := by
  intro h
  have hframes := h ucs4ToUtf8 (threeRows 0) (cursorDownOps [0, 1])
    (rowMajor_cursorDown (by simp))
  exact absurd (hframes _ List.mem_cons_self) (by decide)

end SakuraTerminal.Core
