import SakuraTerminal.Core.TakenFrame

/-!
# The rectangle around the dirty spans

A frame has its dirty region twice, as a rectangle and as spans. The rectangle is the bounding box
of the spans: a box contains all spans exactly when it contains the rectangle (`DirtyBounds`). Each
`Include` function adds the same cells to both, so this is kept from call to call; a region that was
promoted to a full repaint has the whole grid in both.

A pass of the draw callback includes the cells of the calls it redraws, one after another
(`redrawnCalls`, `drawPass_region`).

`isBoundingBox_iff` is the form in which the property is kept: a box is known by the boxes that
contain it, so growing the rectangle and including a span are compared by what they add to that
condition. `redrawnCalls` lists the calls of a pass that the callback records, in their order. It is
defined by the tests of the callback, with the style table threaded through, so it can be read off
the calls without running the pass, and `drawPass_region` says that the region of the pass is made
from these.
-/

set_option autoImplicit false

namespace SakuraTerminal.Core

open SakuraTerminal.Foundations SakuraTerminal.Foundations.InternTable

/-! ## Boxes -/

/-- The span lies inside the box. -/
structure SpanWithin (box : DirtyRegion) (span : DirtySpan) : Prop where
  left : box.left ≤ span.left
  right : span.right ≤ box.right
  top : box.top ≤ span.row
  bottom : span.row < box.bottom

/-- One box lies inside the other. -/
structure RegionWithin (box inner : DirtyRegion) : Prop where
  left : box.left ≤ inner.left
  right : inner.right ≤ box.right
  top : box.top ≤ inner.top
  bottom : inner.bottom ≤ box.bottom

/-- The smallest box around the spans. -/
structure IsBoundingBox (box : DirtyRegion) (spans : List DirtySpan) : Prop where
  contains : ∀ span ∈ spans, SpanWithin box span
  smallest : ∀ other, (∀ span ∈ spans, SpanWithin other span) → RegionWithin other box

section boxes

variable {box inner : DirtyRegion} {span : DirtySpan} {spans : List DirtySpan}
  {left top right bottom row : Nat}

/-- A box lies inside itself. -/
theorem RegionWithin.refl (box : DirtyRegion) : RegionWithin box box :=
  ⟨le_rfl, le_rfl, le_rfl, le_rfl⟩

theorem RegionWithin.spanWithin (h : RegionWithin box inner) (hspan : SpanWithin inner span) :
    SpanWithin box span :=
  ⟨h.left.trans hspan.left, hspan.right.trans h.right, h.top.trans hspan.top,
    hspan.bottom.trans_le h.bottom⟩

/-- A bounding box is known by the boxes it lies in. -/
theorem isBoundingBox_iff :
    IsBoundingBox box spans ↔
      ∀ other, (∀ span ∈ spans, SpanWithin other span) ↔ RegionWithin other box := by
  constructor
  · intro h other
    exact ⟨h.smallest other, fun hwithin span hspan =>
      hwithin.spanWithin (h.contains span hspan)⟩
  · intro h
    exact ⟨(h box).2 (.refl box), fun other => (h other).1⟩

/-- A span is a box of one row. -/
theorem spanWithin_iff_regionWithin :
    SpanWithin box ⟨row, left, right⟩ ↔ RegionWithin box ⟨left, row, right, row + 1⟩ := by
  constructor
  · rintro ⟨hleft, hright, htop, hbottom⟩
    exact ⟨hleft, hright, htop, hbottom⟩
  · rintro ⟨hleft, hright, htop, hbottom⟩
    exact ⟨hleft, hright, htop, hbottom⟩

/-- The boxes around the spans after one more is included. -/
theorem forall_spanWithin_includeSpan (hlr : left < right) :
    (∀ span ∈ includeSpan spans row left right, SpanWithin box span) ↔
      (∀ span ∈ spans, SpanWithin box span) ∧ SpanWithin box ⟨row, left, right⟩ := by
  cases hlast : spans.getLast? with
  | none =>
    rw [List.getLast?_eq_none_iff.1 hlast, includeSpan_nil _ _ _ hlr]
    simp
  | some previous =>
    obtain ⟨init, rfl⟩ := List.getLast?_eq_some_iff.1 hlast
    rw [includeSpan_concat _ _ _ _ _ hlr]
    split
    · next hmerge =>
      -- the merged span lies inside exactly when its two parts do
      obtain ⟨rfl, -⟩ := hmerge
      have hparts : SpanWithin box
            ⟨previous.row, min previous.left left, max previous.right right⟩ ↔
          SpanWithin box previous ∧ SpanWithin box ⟨previous.row, left, right⟩ := by
        constructor
        · rintro ⟨hleft, hright, htop, hbottom⟩
          simp only at hleft hright htop hbottom
          exact ⟨⟨by omega, by omega, htop, hbottom⟩, ⟨by simp only; omega, by simp only; omega,
            htop, hbottom⟩⟩
        · rintro ⟨⟨hleft, hright, htop, hbottom⟩, ⟨hleft', hright', -, -⟩⟩
          simp only at hleft' hright'
          exact ⟨by simp only; omega, by simp only; omega, htop, hbottom⟩
      simp only [List.forall_mem_append, List.forall_mem_singleton, hparts, and_assoc]
    · simp only [List.forall_mem_append, List.forall_mem_cons, List.not_mem_nil, false_implies,
        implies_true, and_true, and_assoc]

/-- The boxes around the rectangle that has grown. -/
theorem regionWithin_growDirty (hempty : dirtyEmpty inner = false) :
    RegionWithin box (growDirty inner left top right bottom) ↔
      RegionWithin box inner ∧ RegionWithin box ⟨left, top, right, bottom⟩ := by
  rw [growDirty_of_nonempty hempty]
  constructor
  · rintro ⟨hleft, hright, htop, hbottom⟩
    simp only at hleft hright htop hbottom
    exact ⟨⟨by omega, by omega, by omega, by omega⟩,
      ⟨by simp only; omega, by simp only; omega, by simp only; omega, by simp only; omega⟩⟩
  · rintro ⟨⟨hleft, hright, htop, hbottom⟩, ⟨hleft', hright', htop', hbottom'⟩⟩
    simp only at hleft' hright' htop' hbottom'
    exact ⟨by simp only; omega, by simp only; omega, by simp only; omega, by simp only; omega⟩

end boxes

/-! ## The rectangle and the spans -/

/-- The spans lie in the grid, and the rectangle is the bounding box around them. -/
structure DirtyBounds (columns rows : Nat) (dirty : DirtyRegion) (spans : List DirtySpan) :
    Prop where
  tracks : RegionTracks columns rows dirty spans
  box : spans ≠ [] → IsBoundingBox dirty spans

section bounds

variable {columns rows : Nat} {dirty : DirtyRegion} {spans : List DirtySpan}

theorem dirtyBounds_nil (columns rows : Nat) : DirtyBounds columns rows {} [] :=
  ⟨regionTracks_nil columns rows, fun h => absurd rfl h⟩

/-- Growing keeps the rectangle a bounding box. -/
theorem DirtyBounds.grow (h : DirtyBounds columns rows dirty spans) {row left right : Nat}
    (hrow : row < rows) (hlr : left < right) (hright : right ≤ columns) :
    DirtyBounds columns rows (growDirty dirty left row right (row + 1))
      (includeSpan spans row left right) := by
  refine ⟨h.tracks.grow hrow hlr hright, fun _ => isBoundingBox_iff.2 fun other => ?_⟩
  rw [forall_spanWithin_includeSpan hlr, spanWithin_iff_regionWithin]
  cases hempty : dirtyEmpty dirty with
  | true =>
    rw [h.tracks.empty.1 hempty, growDirty_of_empty hempty]
    simp
  | false =>
    have hspans : spans ≠ [] := by
      intro hnil
      rw [h.tracks.empty.2 hnil] at hempty
      contradiction
    rw [regionWithin_growDirty hempty, isBoundingBox_iff.1 (h.box hspans) other]

end bounds

/-! ## What a draw includes -/

section redrawn

variable (tsmUcs4ToUtf8 : Nat → List UInt8)

/-- The calls that the callback records, where `styles` is the style table: it accepts them, their
texts fit, and no equal cell is in the (rotated) cache. Interning depends on the order of the calls,
so the table goes along. -/
def redrawnFrom (context : PackedDrawContext) : List PackedStyle → List DrawCall → List DrawCall
  | _, [] => []
  | styles, call :: calls =>
    if Accepts context call then
      let (index, styles) := styleIndex styles (packedStyleFor call.cell.attr)
      match encodeText tsmUcs4ToUtf8 call.cell with
      | none => redrawnFrom context styles calls
      | some encoded =>
        if context.reuseScrolledRows && cachedCellMatches context.grid call index encoded then
          redrawnFrom context styles calls
        else call :: redrawnFrom context styles calls
    else redrawnFrom context styles calls

/-- The calls of a pass that the callback records. -/
def redrawnCalls (context : PackedDrawContext) (calls : List DrawCall) : List DrawCall :=
  redrawnFrom tsmUcs4ToUtf8 context context.grid.styles calls

end redrawn

/-- The rectangle after including the cells of the calls. -/
def callsDirty (columns rows : Nat) (dirty : DirtyRegion) (calls : List DrawCall) : DirtyRegion :=
  calls.foldl (fun dirty call =>
    includeDirty dirty call.column call.row call.cell.width columns rows) dirty

/-- The spans after including the cells of the calls. -/
def callsSpans (columns rows : Nat) (spans : List DirtySpan) (calls : List DrawCall) :
    List DirtySpan :=
  calls.foldl (fun spans call =>
    includeCellSpan spans call.column call.row call.cell.width columns rows) spans

section pass

variable {tsmUcs4ToUtf8 : Nat → List UInt8} {start context : PackedDrawContext}

theorem SameSetting.refl (context : PackedDrawContext) : SameSetting context context :=
  ⟨rfl, rfl, rfl, rfl, rfl, rfl, fun _ => rfl⟩

/-- A call that the callback looks at. -/
theorem drawPackedCell_of_accepts {call : DrawCall} (h : Accepts context call) {index : Nat}
    {styles : List PackedStyle}
    (hindex : styleIndex context.grid.styles (packedStyleFor call.cell.attr) = (index, styles)) :
    drawPackedCell tsmUcs4ToUtf8 context call =
      match encodeText tsmUcs4ToUtf8 call.cell with
      | none => context.withStyles styles
      | some encoded =>
        if context.reuseScrolledRows && cachedCellMatches context.grid call index encoded then
          context.withStyles styles
        else recordChange (context.withStyles styles) call index encoded := by
  obtain ⟨hcolumn, hrow, hreports⟩ := h
  rw [drawPackedCell, if_neg (by omega), if_neg (by simp [hreports]), hindex]
  rfl

theorem drawPackedCell_of_not_accepts {call : DrawCall} (h : ¬ Accepts context call) :
    drawPackedCell tsmUcs4ToUtf8 context call = context := by
  have houtcome : DrawOutcome tsmUcs4ToUtf8 context call
      (drawPackedCell tsmUcs4ToUtf8 context call) := drawOutcome context call
  generalize drawPackedCell tsmUcs4ToUtf8 context call = context' at houtcome ⊢
  cases houtcome with
  | ignored _ => rfl
  | tooLong _ _ haccepts => exact absurd haccepts h
  | cached _ _ _ haccepts => exact absurd haccepts h
  | recorded _ _ _ haccepts => exact absurd haccepts h

theorem SameSetting.trans {last : PackedDrawContext} (h : SameSetting start context)
    (h' : SameSetting context last) : SameSetting start last where
  columns := h'.columns.trans h.columns
  rows := h'.rows.trans h.rows
  rowData := h'.rowData.trans h.rowData
  fullRepaint := h'.fullRepaint.trans h.fullRepaint
  cursorChanged := h'.cursorChanged.trans h.cursorChanged
  reuse := h'.reuse.trans h.reuse
  reports := fun call => (h'.reports call).trans (h.reports call)

theorem sameSetting_drawPackedCell (tsmUcs4ToUtf8 : Nat → List UInt8)
    (context : PackedDrawContext) (call : DrawCall) :
    SameSetting context (drawPackedCell tsmUcs4ToUtf8 context call) := by
  have houtcome : DrawOutcome tsmUcs4ToUtf8 context call
      (drawPackedCell tsmUcs4ToUtf8 context call) := drawOutcome context call
  generalize drawPackedCell tsmUcs4ToUtf8 context call = context' at houtcome ⊢
  cases houtcome with
  | ignored _ => exact .refl context
  | tooLong _ _ _ _ _ => exact ⟨rfl, rfl, rfl, rfl, rfl, rfl, fun _ => rfl⟩
  | cached _ _ _ _ _ _ _ _ => exact ⟨rfl, rfl, rfl, rfl, rfl, rfl, fun _ => rfl⟩
  | recorded _ _ _ _ _ _ => exact ⟨rfl, rfl, rfl, rfl, rfl, rfl, fun _ => rfl⟩

/-- A pass leaves the parts of the context that it only reads. -/
theorem sameSetting_drawPass (tsmUcs4ToUtf8 : Nat → List UInt8) (start : PackedDrawContext)
    (calls : List DrawCall) : SameSetting start (drawPass tsmUcs4ToUtf8 start calls) := by
  induction calls generalizing start with
  | nil => exact .refl start
  | cons call calls ih =>
    rw [drawPass, List.foldl_cons, ← drawPass]
    exact (sameSetting_drawPackedCell tsmUcs4ToUtf8 start call).trans (ih _)

/-- The rest of a pass, from a context that earlier calls left. -/
theorem SameSetting.drawPass_region (h : SameSetting start context) (calls : List DrawCall) :
    (drawPass tsmUcs4ToUtf8 context calls).dirty =
        callsDirty start.grid.columns start.grid.rows context.dirty
          (redrawnFrom tsmUcs4ToUtf8 start context.grid.styles calls) ∧
      (drawPass tsmUcs4ToUtf8 context calls).dirtySpans =
        callsSpans start.grid.columns start.grid.rows context.dirtySpans
          (redrawnFrom tsmUcs4ToUtf8 start context.grid.styles calls) := by
  induction calls generalizing context with
  | nil => exact ⟨rfl, rfl⟩
  | cons call calls ih =>
    rw [drawPass, List.foldl_cons, ← drawPass, redrawnFrom]
    by_cases haccepts : Accepts context call
    · rw [if_pos ((h.accepts call).1 haccepts)]
      cases hindex : styleIndex context.grid.styles (packedStyleFor call.cell.attr) with
      | mk index styles =>
        have hstyles : SameSetting start (context.withStyles styles) :=
          ⟨h.columns, h.rows, h.rowData, h.fullRepaint, h.cursorChanged, h.reuse, h.reports⟩
        rw [drawPackedCell_of_accepts haccepts hindex]
        cases hencode : encodeText tsmUcs4ToUtf8 call.cell with
        | none => exact ih hstyles
        | some encoded =>
          have hcached : (start.reuseScrolledRows &&
                cachedCellMatches start.grid call index encoded) =
              (context.reuseScrolledRows &&
                cachedCellMatches context.grid call index encoded) := by
            rw [cachedCellMatches, cachedCellMatches, h.rowData, h.reuse]
          simp only [hcached]
          split
          · exact ih hstyles
          · -- the cell is recorded, and included in both
            have hrecord : SameSetting start
                (recordChange (context.withStyles styles) call index encoded) :=
              ⟨h.columns, h.rows, h.rowData, h.fullRepaint, h.cursorChanged, h.reuse, h.reports⟩
            obtain ⟨hdirty, hspans⟩ := ih hrecord
            rw [hdirty, hspans]
            constructor
            · simp only [recordChange, PackedDrawContext.withStyles, callsDirty, List.foldl_cons,
                h.columns, h.rows]
            · simp only [recordChange, PackedDrawContext.withStyles, callsSpans, List.foldl_cons,
                h.columns, h.rows]
    · rw [if_neg fun hstart => haccepts ((h.accepts call).2 hstart),
        drawPackedCell_of_not_accepts haccepts]
      exact ih h

/-- A pass includes the cells of the calls it redraws in the rectangle and in the spans. -/
theorem drawPass_region (start : PackedDrawContext) (calls : List DrawCall) :
    (drawPass tsmUcs4ToUtf8 start calls).dirty =
        callsDirty start.grid.columns start.grid.rows start.dirty
          (redrawnCalls tsmUcs4ToUtf8 start calls) ∧
      (drawPass tsmUcs4ToUtf8 start calls).dirtySpans =
        callsSpans start.grid.columns start.grid.rows start.dirtySpans
          (redrawnCalls tsmUcs4ToUtf8 start calls) :=
  (SameSetting.refl start).drawPass_region calls

end pass

/-! ## The region of a frame -/

theorem keptByGrow_dirtyBounds (columns rows : Nat) :
    KeptByGrow columns rows (DirtyBounds columns rows) :=
  ⟨fun h hrow hlr hright => h.grow hrow hlr hright⟩

section frame

variable {tsmUcs4ToUtf8 : Nat → List UInt8} {impl : Impl} {screen : Screen} {draw : Draw}

/-- Including the cells of calls keeps the bounding box. -/
theorem DirtyBounds.calls {columns rows : Nat} {dirty : DirtyRegion} {spans : List DirtySpan}
    (h : DirtyBounds columns rows dirty spans) (calls : List DrawCall) :
    DirtyBounds columns rows (callsDirty columns rows dirty calls)
      (callsSpans columns rows spans calls) := by
  induction calls generalizing dirty spans with
  | nil => exact h
  | cons call calls ih => exact ih ((keptByGrow_dirtyBounds columns rows).includeCellSpan h _ _ _)

/-- The rectangle of the collected region is the bounding box of its spans. -/
theorem dirtyBounds_takenContext (tsmUcs4ToUtf8 : Nat → List UInt8) (impl : Impl)
    (screen : Screen) (draw : Draw) :
    DirtyBounds screen.width screen.height (takenContext tsmUcs4ToUtf8 impl screen draw).dirty
      (takenContext tsmUcs4ToUtf8 impl screen draw).dirtySpans := by
  have hkept := keptByGrow_dirtyBounds screen.width screen.height
  have hpass : DirtyBounds screen.width screen.height
      (drawPass tsmUcs4ToUtf8 (drawContext impl screen) draw.calls).dirty
      (drawPass tsmUcs4ToUtf8 (drawContext impl screen) draw.calls).dirtySpans := by
    obtain ⟨hdirty, hspans⟩ := @drawPass_region tsmUcs4ToUtf8 (drawContext impl screen) draw.calls
    have hcolumns : (drawContext impl screen).grid.columns = screen.width :=
      drawGrid_columns impl screen
    have hrows : (drawContext impl screen).grid.rows = screen.height := drawGrid_rows impl screen
    rw [hdirty, hspans, hcolumns, hrows]
    exact (dirtyBounds_nil screen.width screen.height).calls _
  have hcursor : DirtyBounds screen.width screen.height
      (includeCursor impl screen
        (drawPass tsmUcs4ToUtf8 (drawContext impl screen) draw.calls)).dirty
      (includeCursor impl screen
        (drawPass tsmUcs4ToUtf8 (drawContext impl screen) draw.calls)).dirtySpans := by
    rw [includeCursor]
    split
    · exact hkept.includeCellSpan (hkept.includeCellSpan hpass _ _ 1) _ _ 1
    · exact hpass
  rw [takenContext, includeExposedRows]
  split
  · next hreuse =>
    refine hkept.includeRows hcursor ?_
    -- scrolled rows are reused only for distances below the height
    have hpassReuse := (includeCursor_grid impl screen
      (drawPass tsmUcs4ToUtf8 (drawContext impl screen) draw.calls)).2.2.2.2
    rw [hpassReuse] at hreuse
    have hsetting := sameSetting_drawPass tsmUcs4ToUtf8 (drawContext impl screen) draw.calls
    have hdelta := (reuseScrolledRows_spec (hsetting.reuse.symm.trans hreuse)).2.2.2.2
    rw [exposedRows]
    split
    · exact le_rfl
    · exact hdelta.le
  · exact hcursor

/-- The two forms of a frame's dirty region. A consumer can use the rectangle or the spans, and
finds the whole grid in both where the frame is a full repaint. -/
structure DirtyAgrees (frame : PackedFrame) : Prop where
  spans : ∀ span ∈ frame.dirtySpans,
    span.row < frame.rows ∧ span.left < span.right ∧ span.right ≤ frame.columns
  empty : dirtyEmpty frame.dirty = true ↔ frame.dirtySpans = []
  box : frame.dirtySpans ≠ [] → IsBoundingBox frame.dirty frame.dirtySpans
  full : frame.fullRepaint = true ↔ frame.dirty = wholeGrid frame.columns frame.rows
  fullSpans : frame.fullRepaint = true →
    frame.dirtySpans = (List.range frame.rows).map fun row => ⟨row, 0, frame.columns⟩

/-- Every cell is reported when libtsm draws since 0, and every text fits. A frame of a full draw
has the whole grid for its rectangle, whatever was reported, so its spans must cover the grid as
well. -/
def FullDrawsReport (tsmUcs4ToUtf8 : Nat → List UInt8) (run : TerminalRun) : Op → Prop
  | .takePackedFrame draw =>
    (drawSince run.impl run.screen = 0 → ∀ column < run.screen.width,
      ∀ row < run.screen.height, ∃ call ∈ draw.calls, call.column = column ∧ call.row = row) ∧
    CallsFit tsmUcs4ToUtf8 draw
  | _ => True

/-- The whole grid, with a span for each row. -/
theorem dirtyAgrees_full {frame : PackedFrame} (hcolumns : 0 < frame.columns)
    (hrows : 0 < frame.rows) (hfull : frame.fullRepaint = true)
    (hdirty : frame.dirty = wholeGrid frame.columns frame.rows)
    (hspans : frame.dirtySpans = fullSpans frame.columns frame.rows) : DirtyAgrees frame := by
  have heq : frame.dirtySpans = (List.range frame.rows).map fun row => ⟨row, 0, frame.columns⟩ := by
    rw [hspans, fullSpans, if_neg (by omega)]
  have hmem : ∀ span, span ∈ frame.dirtySpans ↔
      ∃ row < frame.rows, (⟨row, 0, frame.columns⟩ : DirtySpan) = span := by
    intro span
    rw [heq]
    simp
  constructor
  case spans =>
    intro span hspan
    obtain ⟨row, hrow, rfl⟩ := (hmem span).1 hspan
    exact ⟨hrow, hcolumns, le_rfl⟩
  case empty =>
    rw [hdirty, heq]
    simp [dirtyEmpty, wholeGrid]
    omega
  case box =>
    intro _
    rw [hdirty]
    constructor
    · intro span hspan
      obtain ⟨row, hrow, rfl⟩ := (hmem span).1 hspan
      exact ⟨Nat.zero_le _, le_rfl, Nat.zero_le _, hrow⟩
    · intro other hother
      have hfirst := hother _ ((hmem _).2 ⟨0, hrows, rfl⟩)
      have hlast := hother _ ((hmem _).2 ⟨frame.rows - 1, by omega, rfl⟩)
      have hbottom : frame.rows - 1 < other.bottom := hlast.bottom
      exact ⟨hfirst.left, hfirst.right, hfirst.top, by simp only [wholeGrid]; omega⟩
  case full => exact iff_of_true hfull hdirty
  case fullSpans => exact fun _ => heq

/-- A full draw that reports every cell covers the grid. -/
theorem takenContext_wholeGrid (htable : GridTable (cachedGrid impl))
    (hfull : drawFullRepaint impl screen = true)
    (hreports : ∀ column < screen.width, ∀ row < screen.height, ∃ call ∈ draw.calls,
      call.column = column ∧ call.row = row) (hfit : CallsFit tsmUcs4ToUtf8 draw) :
    (takenContext tsmUcs4ToUtf8 impl screen draw).dirty =
      wholeGrid screen.width screen.height := by
  have hspec : TakeSpec tsmUcs4ToUtf8 impl screen draw _ := takeSpec htable
  apply dirty_eq_wholeGrid hspec.tracks screen.widthPos screen.heightPos
  intro column hcolumn row hrow
  obtain ⟨call, hcall, rfl, rfl⟩ := hreports column hcolumn row hrow
  have haccepts : Accepts (drawContext impl screen) call := by
    refine ⟨hcolumn.trans_eq (drawGrid_columns impl screen).symm,
      hrow.trans_eq (drawGrid_rows impl screen).symm, ?_⟩
    simp [reportsChange, drawContext, hfull]
  have hreuse : reuseScrolledRows impl screen = false := by
    rw [← Bool.not_eq_true]
    intro hreuse
    have hinitial := (reuseScrolledRows_spec hreuse).1
    simp [drawFullRepaint, hinitial, hreuse] at hfull
  -- without reuse an accepted call whose text fits is recorded
  rcases hspec.drawn.answered call hcall haccepts with ⟨change, hchange, hcell⟩ | hfound | hnone
  · rw [← hspec.changedCells] at hchange
    have hcover := hspec.covers change hchange
    rwa [hcell.1, hcell.2] at hcover
  · have hsetting := hspec.drawn.setting.reuse.symm.trans hfound.1
    rw [show (drawContext impl screen).reuseScrolledRows = false from hreuse] at hsetting
    contradiction
  · rw [encodeText_of_length_le (hfit call hcall)] at hnone
    contradiction

/-- A frame that is a full repaint. -/
theorem takenRegion_full (htable : GridTable (cachedGrid impl))
    (hreports : drawFullRepaint impl screen = true → ∀ column < screen.width,
      ∀ row < screen.height, ∃ call ∈ draw.calls, call.column = column ∧ call.row = row)
    (hfit : CallsFit tsmUcs4ToUtf8 draw)
    (h : (takenRegion tsmUcs4ToUtf8 impl screen draw).fullRepaint = true) :
    (takenRegion tsmUcs4ToUtf8 impl screen draw).dirty = wholeGrid screen.width screen.height ∧
      (takenRegion tsmUcs4ToUtf8 impl screen draw).dirtySpans =
        fullSpans screen.width screen.height := by
  have hspec : TakeSpec tsmUcs4ToUtf8 impl screen draw
    (takenContext tsmUcs4ToUtf8 impl screen draw) := takeSpec htable
  have hgrid := fun hfull => takenContext_wholeGrid htable hfull (hreports hfull) hfit
  rw [← hspec.fullRepaint] at hgrid
  rw [takenRegion, finishRegion] at h ⊢
  generalize takenContext tsmUcs4ToUtf8 impl screen draw = context at h hgrid ⊢
  dsimp only at h ⊢
  refine ⟨?_, if_pos h⟩
  by_cases hage : draw.age = 0
  · simp [hage]
  · simp only [hage, if_false] at h ⊢
    cases hfull : context.fullRepaint with
    | true =>
      rw [hgrid hfull]
      split <;> rfl
    | false =>
      -- only a rectangle around everything is left
      have hwhole : dirtyEmpty context.dirty = false ∧
          context.dirty = wholeGrid screen.width screen.height := by
        simpa [hfull, hage] using h
      simp [hwhole.2]

end frame

section run

variable {tsmUcs4ToUtf8 : Nat → List UInt8}

/-- One frame, of a draw since 0 that reports every cell. -/
theorem dirtyAgrees_takePackedFrame {impl : Impl} {screen : Screen} {draw : Draw}
    (htable : GridTable (cachedGrid impl))
    (hreports : drawFullRepaint impl screen = true → ∀ column < screen.width,
      ∀ row < screen.height, ∃ call ∈ draw.calls, call.column = column ∧ call.row = row)
    (hfit : CallsFit tsmUcs4ToUtf8 draw) :
    DirtyAgrees (takePackedFrame tsmUcs4ToUtf8 impl screen draw) := by
  cases hfull : (takenRegion tsmUcs4ToUtf8 impl screen draw).fullRepaint with
  | true =>
    obtain ⟨hdirty, hspans⟩ := takenRegion_full htable hreports hfit hfull
    exact dirtyAgrees_full screen.widthPos screen.heightPos hfull hdirty hspans
  | false =>
    obtain ⟨-, -, hdirty, hspans, hnot⟩ := takenRegion_notFull hfull
    have hbounds := dirtyBounds_takenContext tsmUcs4ToUtf8 impl screen draw
    rw [← hdirty, ← hspans] at hbounds
    rw [← hdirty] at hnot
    constructor
    case spans =>
      intro span hspan
      have hinside := hbounds.tracks.inside span hspan
      exact ⟨hinside.row, hinside.nonempty, hinside.right⟩
    case empty => exact hbounds.tracks.empty
    case box => exact hbounds.box
    case full =>
      refine iff_of_false (fun h => ?_) hnot
      exact absurd (h.symm.trans hfull) (by simp)
    case fullSpans =>
      intro h
      exact absurd (h.symm.trans hfull) (by simp)

/-- In every frame of every run the rectangle is the bounding box of the spans. -/
theorem dirtyAgrees {run : TerminalRun}
    (h : (terminalSystem tsmUcs4ToUtf8).Reachable (FullDrawsReport tsmUcs4ToUtf8) run) :
    ∀ taken ∈ run.taken, DirtyAgrees taken.2 := by
  refine forall_taken (P := fun taken => DirtyAgrees taken.2) ?_ h
  intro run draw hreach _ hallowed
  refine dirtyAgrees_takePackedFrame (cacheInvariant hreach).table (fun hfull => ?_) hallowed.2
  apply hallowed.1
  rw [drawSince, if_pos hfull]

end run

/-- A full draw, and a draw of the lower cell. -/
def lowerCellOps : List Op :=
  [.takePackedFrame (linesDraw 0 1),
    .takePackedFrame ⟨[⟨{ codepoints := [90] }, 0, 1, 2⟩], 2⟩]

theorem dirtyAgrees_lowerCell :
    ((newRun (linesScreen 0 0)).calls ucs4ToUtf8 lowerCellOps).taken.Forall
      fun taken => DirtyAgrees taken.2 := by
  rw [List.forall_iff_forall_mem]
  refine dirtyAgrees (reachable_calls (.init ⟨_, rfl⟩) ⟨⟨?_, by decide⟩, ⟨?_, by decide⟩, trivial⟩)
  · exact fun _ => by decide
  · exact fun h => absurd h (by decide)

end SakuraTerminal.Core
