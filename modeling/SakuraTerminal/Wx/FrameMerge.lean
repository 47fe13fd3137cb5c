import SakuraTerminal.Core.FrameDelta
import SakuraTerminal.Foundations.Patch
import Mathlib.Algebra.Ring.Int.Defs

/-!
# Merging frames that were not painted yet

`WxTerminalCtrl::RequestFrameRefresh` (`src/wx/terminal_ctrl.cpp`) keeps one pending frame. A frame
taken before the pending one was painted replaces it, and the scroll distances and the dirty
rectangles of both are merged. `PaintFrame` and `ScrollFramebuffer` (`src/wx/terminal_renderer.cpp`)
apply the result to the framebuffer.

As a patch of the framebuffer a frame copies what it scrolls and draws its dirty rectangle. The
merged rectangle is not moved by the scrolls that come after it, so a pending frame stands for all
its frames only when every cell outside the rectangle is traced to where `ScrollFramebuffer` copies
it from (`mergeLosesNothing_iff`). A framebuffer is a picture of cells here; cell sizes and glyphs
are left out.

A frame is right as a delta of a picture if painting it alone shows its cells (`PaintsRight`), and
the frames that wait are right one after another. The question is whether the merged paint leads to
the same picture as the separate ones. `Patch` is what both sides are instances of: it copies some
cells and draws the others, and a chain of patches is traced back cell by cell. Distances add up in
the merge while rectangles are united where they stand, and the theorem says exactly where this
difference can be seen.
-/

set_option autoImplicit false

namespace SakuraTerminal.Wx

open SakuraTerminal.Core SakuraTerminal.Foundations

/-- `SakuraTerminalFrameInfo`, as far as painting reads it. -/
structure FrameInfo where
  changed : Bool := false
  fullRepaint : Bool := false
  scrollDelta : Int := 0
  scrollKind : ScrollKind := .none
  dirty : DirtyRegion := {}
  columns : Nat := 0
  rows : Nat := 0
  deriving DecidableEq, Repr

/-- `sakura_terminal_frame_info`. -/
def frameInfo (frame : PackedFrame) : FrameInfo where
  changed := frame.changed
  fullRepaint := frame.fullRepaint
  scrollDelta := frame.scrollDelta
  scrollKind := frame.scrollKind
  dirty := frame.dirty
  columns := frame.columns
  rows := frame.rows

/-- A picture of cells, by column and row. There is one for the framebuffer and one for each
frame. -/
abbrev Picture (γ : Type) := Nat × Nat → γ

/-- A frame as the control handles it: its information and the cells it draws. The cells outside of
the dirty rectangle are those a full decode would have. -/
structure Frame (γ : Type) where
  info : FrameInfo
  cell : Picture γ

/-- A frame of the core. -/
def coreFrame (frame : PackedFrame) : Frame (Option CellView) where
  info := frameInfo frame
  cell := fun position => frameCell frame position.1 position.2

/-! ## The pending frame -/

/-- `pending_info_`, `pending_dirty_` and `pending_full_repaint_`. The pending frame itself is the
newest one, with all of its cells. -/
structure PendingPaint where
  info : FrameInfo
  dirty : DirtyRegion
  fullRepaint : Bool
  deriving DecidableEq, Repr

/-- The kind of a merged scroll. -/
def mergeScrollKind (pendingKind scrollKind : ScrollKind) : ScrollKind :=
  if pendingKind ≠ .none ∧ scrollKind ≠ .none ∧ pendingKind ≠ scrollKind then .mixed
  else if scrollKind = .none then pendingKind
  else scrollKind

/-- The merged rectangle. -/
def mergeDirty (pending : PendingPaint) (info : FrameInfo) (dirty : DirtyRegion) : DirtyRegion :=
  if pending.fullRepaint then wholeGrid info.columns info.rows
  else if !dirtyEmpty dirty && !dirtyEmpty pending.dirty then
    { left := min dirty.left pending.dirty.left
      top := min dirty.top pending.dirty.top
      right := max dirty.right pending.dirty.right
      bottom := max dirty.bottom pending.dirty.bottom }
  else dirty

/-- What `RequestFrameRefresh` makes of a changed frame. -/
def mergePending (pending : Option PendingPaint) (info : FrameInfo) : PendingPaint :=
  let dirty := if info.fullRepaint then wholeGrid info.columns info.rows else info.dirty
  match pending with
  | none =>
    { info := { info with dirty := dirty }
      dirty := dirty
      fullRepaint := info.fullRepaint }
  | some pending =>
    let dirty := mergeDirty pending info dirty
    let fullRepaint := info.fullRepaint || pending.fullRepaint
    { info :=
        { info with
          scrollDelta := info.scrollDelta + pending.info.scrollDelta
          scrollKind := mergeScrollKind pending.info.scrollKind info.scrollKind
          fullRepaint := fullRepaint
          dirty := dirty }
      dirty := dirty
      fullRepaint := fullRepaint }

/-- `RequestFrameRefresh` with the frame it takes; an unchanged frame is dropped. -/
def requestFrameRefresh {γ : Type} (pending : Option (Frame γ × PendingPaint)) (frame : Frame γ) :
    Option (Frame γ × PendingPaint) :=
  if frame.info.changed then some (frame, mergePending (pending.map Prod.snd) frame.info)
  else pending

/-! ## Painting -/

/-- `wxDC::Blit` within one bitmap. -/
def blit {γ : Type} (picture : Picture γ) (x y width height sourceX sourceY : Nat) : Picture γ :=
  fun position =>
    if (x ≤ position.1 ∧ position.1 < x + width) ∧ y ≤ position.2 ∧ position.2 < y + height then
      picture (position.1 - x + sourceX, position.2 - y + sourceY)
    else picture position

/-- `ScrollFramebuffer`: the rows that stay visible are copied, and nothing is copied if none
does. -/
def scrollFramebuffer {γ : Type} (picture : Picture γ) (delta : Int) (columns rows : Nat) :
    Picture γ :=
  if delta = 0 ∨ columns = 0 ∨ rows = 0 then picture
  else
    let distance := min delta.natAbs rows
    if distance ≥ rows then picture
    else if delta > 0 then blit picture 0 0 columns (rows - distance) 0 distance
    else blit picture 0 distance columns (rows - distance) 0 0

/-- `RenderFrame`: the cells of the dirty rectangle, clipped to the frame, are drawn. -/
def renderFrame {γ : Type} (picture : Picture γ) (frame : Frame γ) (info : FrameInfo)
    (dirty : DirtyRegion) : Picture γ :=
  if dirtyEmpty dirty || info.columns == 0 || info.rows == 0 then picture
  else fun position =>
    if (min dirty.left info.columns ≤ position.1 ∧ position.1 < min dirty.right info.columns) ∧
        min dirty.top info.rows ≤ position.2 ∧ position.2 < min dirty.bottom info.rows then
      frame.cell position
    else picture position

/-- `PaintFrame` with a valid framebuffer; `background` is what `Clear` leaves. -/
def paintFrame {γ : Type} (background : γ) (picture : Picture γ) (frame : Frame γ)
    (info : FrameInfo) (dirty : DirtyRegion) (fullRepaint : Bool) : Picture γ :=
  if fullRepaint then
    renderFrame (fun _ => background) frame info (wholeGrid info.columns info.rows)
  else if info.changed then
    renderFrame
      (if info.scrollDelta ≠ 0 then
        scrollFramebuffer picture info.scrollDelta info.columns info.rows
      else picture)
      frame info dirty
  else picture

/-- `OnPaint`: the pending frame is painted with the merged information. -/
def onPaint {γ : Type} (background : γ) (picture : Picture γ)
    (pending : Option (Frame γ × PendingPaint)) : Picture γ :=
  match pending with
  | none => picture
  | some (frame, paint) =>
    paintFrame background picture frame paint.info paint.dirty paint.fullRepaint

/-! ## The property -/

/-- The frame is right as a delta: painting it alone over the picture before it shows its cells. -/
def PaintsRight {γ : Type} (background : γ) (picture : Picture γ) (frame : Frame γ) : Prop :=
  ∀ column < frame.info.columns, ∀ row < frame.info.rows,
    paintFrame background picture frame frame.info frame.info.dirty frame.info.fullRepaint
      (column, row) = frame.cell (column, row)

/-- A sequence of frames, each right as a delta of the one before. -/
def FramesRight {γ : Type} (background : γ) : Picture γ → List (Frame γ) → Prop
  | _, [] => True
  | picture, frame :: frames =>
    PaintsRight background picture frame ∧ FramesRight background frame.cell frames

/-- Painting the merged frames shows the cells of the last one. -/
def MergeLosesNothing {γ : Type} (background : γ) (picture : Picture γ) (frames : List (Frame γ)) :
    Prop :=
  ∀ newest ∈ frames.getLast?, ∀ column < newest.info.columns, ∀ row < newest.info.rows,
    onPaint background picture (frames.foldl requestFrameRefresh none) (column, row) =
      newest.cell (column, row)

/-! ## When merging loses nothing -/

/-- A changed frame of the core: it repaints everything, or its rectangle is not empty. The core
reports a change only with one of the two. -/
structure IsChanged (info : FrameInfo) : Prop where
  changed : info.changed = true
  painted : info.fullRepaint = true ∨ dirtyEmpty info.dirty = false

/-- The row whose content a scroll puts into `row`. -/
def scrollSource (delta : Int) (rows row : Nat) : Nat :=
  if delta.natAbs ≥ rows then row
  else if delta > 0 then (if row < rows - delta.natAbs then row + delta.natAbs else row)
  else if delta.natAbs ≤ row then row - delta.natAbs
  else row

/-- A paint as a patch: the cells of the frame outside the rectangle are copied. It stands for
`paintFrame` and is easier to compose. -/
def paintPatch (info : FrameInfo) (dirty : DirtyRegion) (fullRepaint : Bool) : Patch (Nat × Nat) :=
  fun position =>
    if position.1 < info.columns ∧ position.2 < info.rows ∧ fullRepaint = false ∧
        ¬ RegionCovers dirty position.1 position.2 then
      some (position.1, scrollSource info.scrollDelta info.rows position.2)
    else none

/-- The patch of a frame that is painted alone. -/
def framePatch (info : FrameInfo) : Patch (Nat × Nat) :=
  paintPatch info info.dirty info.fullRepaint

/-- The smallest rectangle around the rectangles of all frames contains the cell. -/
def InHull (infos : List FrameInfo) (column row : Nat) : Prop :=
  ((∃ info ∈ infos, info.dirty.left ≤ column) ∧ ∃ info ∈ infos, column < info.dirty.right) ∧
    (∃ info ∈ infos, info.dirty.top ≤ row) ∧ ∃ info ∈ infos, row < info.dirty.bottom

/-- The condition: a frame repaints everything, or every cell outside the common rectangle lies,
when it is followed back through the scrolls of all frames, in no frame's rectangle, and comes from
the row that one scroll by the sum of all distances copies. It speaks of rectangles, distances and
sizes, which a frame has before it is painted. -/
def MergeSafe (infos : List FrameInfo) : Prop :=
  (∃ info ∈ infos, info.fullRepaint = true) ∨
    ∀ newest ∈ infos.getLast?, ∀ column < newest.columns, ∀ row < newest.rows,
      InHull infos column row ∨ Patch.trace (infos.map framePatch) (column, row) =
        some (column, scrollSource (infos.map FrameInfo.scrollDelta).sum newest.rows row)

/-! ## Painting as a patch -/

section paint

variable {γ : Type} {background : γ} {picture : Picture γ} {frame : Frame γ}

theorem blit_apply (picture : Picture γ) {x y width height sourceX sourceY column row : Nat}
    (hcolumn : x ≤ column ∧ column < x + width) :
    blit picture x y width height sourceX sourceY (column, row) =
      if y ≤ row ∧ row < y + height then picture (column - x + sourceX, row - y + sourceY)
      else picture (column, row) := by
  rw [blit]
  by_cases hrow : y ≤ row ∧ row < y + height
  · rw [if_pos hrow, if_pos ⟨hcolumn, hrow⟩]
  · rw [if_neg hrow, if_neg fun h => hrow h.2]

/-- Within the frame, scrolling copies from `scrollSource`. -/
theorem scrollFramebuffer_apply (picture : Picture γ) (delta : Int) {columns rows column row : Nat}
    (hcolumn : column < columns) (hrow : row < rows) :
    scrollFramebuffer picture delta columns rows (column, row) =
      picture (column, scrollSource delta rows row) := by
  have hinside : 0 ≤ column ∧ column < 0 + columns := by omega
  rw [scrollFramebuffer, scrollSource]
  -- distance 0, at least a screen, upwards and downwards, as the source tests them
  by_cases hstay : delta = 0
  · subst hstay
    rw [if_pos (Or.inl rfl), if_neg (by omega), if_neg (by omega)]
    simp
  · rw [if_neg (by omega)]
    by_cases hfar : delta.natAbs ≥ rows
    · rw [if_pos (by omega), if_pos hfar]
    · rw [if_neg (by omega), if_neg hfar]
      by_cases hup : delta > 0
      · rw [if_pos hup, if_pos hup, blit_apply picture hinside]
        -- the rows at the bottom keep what they had
        by_cases hlast : row < rows - delta.natAbs
        · rw [if_pos (by omega), if_pos hlast, Nat.sub_zero, Nat.sub_zero, Nat.add_zero,
            Nat.min_eq_left (by omega)]
        · rw [if_neg (by omega), if_neg hlast]
      · rw [if_neg hup, if_neg hup, blit_apply picture hinside]
        -- here it is the rows at the top
        by_cases hfirst : delta.natAbs ≤ row
        · rw [if_pos (by omega), if_pos hfirst, Nat.sub_zero, Nat.add_zero, Nat.add_zero,
            Nat.min_eq_left (by omega)]
        · rw [if_neg (by omega), if_neg hfirst]

/-- Within the frame, exactly the cells of the rectangle are drawn. -/
theorem renderFrame_apply (picture : Picture γ) (frame : Frame γ) {info : FrameInfo}
    (dirty : DirtyRegion) {column row : Nat} (hcolumn : column < info.columns)
    (hrow : row < info.rows) :
    (RegionCovers dirty column row ∧
      renderFrame picture frame info dirty (column, row) = frame.cell (column, row)) ∨
    (¬ RegionCovers dirty column row ∧
      renderFrame picture frame info dirty (column, row) = picture (column, row)) := by
  rw [renderFrame]
  by_cases hcovers : RegionCovers dirty column row
  · refine Or.inl ⟨hcovers, ?_⟩
    rw [RegionCovers] at hcovers
    -- a rectangle that contains a cell is not empty, so the guard lets it through
    have hne : dirtyEmpty dirty = false := by
      rw [dirtyEmpty_eq_false_iff]
      omega
    rw [if_neg, if_pos]
    · simp only
      omega
    · simp only [hne, Bool.false_or, Bool.or_eq_true, beq_iff_eq]
      omega
  · refine Or.inr ⟨hcovers, ?_⟩
    rw [RegionCovers] at hcovers
    -- either nothing is drawn, or the clipped rectangle misses the cell too
    split
    · rfl
    · simp only
      rw [if_neg (by omega)]

/-- Painting is patching. -/
theorem paintFrame_eq_apply (background : γ) (picture : Picture γ) (frame : Frame γ)
    {info : FrameInfo} (hchanged : info.changed = true) (dirty : DirtyRegion) (fullRepaint : Bool)
    {column row : Nat} (hcolumn : column < info.columns) (hrow : row < info.rows) :
    paintFrame background picture frame info dirty fullRepaint (column, row) =
      Patch.apply (paintPatch info dirty fullRepaint) picture frame.cell (column, row) := by
  -- a full repaint copies nothing; otherwise the rectangle decides what is copied
  cases fullRepaint with
  | true =>
    have hpatch : paintPatch info dirty true (column, row) = none :=
      if_neg fun h => Bool.noConfusion h.2.2.1
    rw [Patch.apply, hpatch, paintFrame, if_pos rfl]
    rcases renderFrame_apply (fun _ => background) frame (wholeGrid info.columns info.rows) hcolumn
      hrow with ⟨-, h⟩ | ⟨hnot, -⟩
    · exact h
    · exact absurd ⟨Nat.zero_le _, hcolumn, Nat.zero_le _, hrow⟩ hnot
  | false =>
    rw [paintFrame, if_neg Bool.false_ne_true, if_pos hchanged]
    rcases renderFrame_apply (if info.scrollDelta ≠ 0 then
        scrollFramebuffer picture info.scrollDelta info.columns info.rows else picture)
      frame dirty hcolumn hrow with ⟨hcovers, h⟩ | ⟨hnot, h⟩
    · have hpatch : paintPatch info dirty false (column, row) = none :=
        if_neg fun hout => hout.2.2.2 hcovers
      rw [h, Patch.apply, hpatch]
    · have hpatch : paintPatch info dirty false (column, row) =
          some (column, scrollSource info.scrollDelta info.rows row) :=
        if_pos ⟨hcolumn, hrow, rfl, hnot⟩
      rw [h, Patch.apply, hpatch]
      have hscroll := scrollFramebuffer_apply picture info.scrollDelta hcolumn hrow
      by_cases hdelta : info.scrollDelta ≠ 0
      · rw [if_pos hdelta, hscroll]
      · -- without a distance the framebuffer stays as it is
        rw [if_neg hdelta]
        rw [scrollFramebuffer, if_pos (Or.inl (not_not.1 hdelta))] at hscroll
        exact hscroll

theorem paintPatch_of_outside {info : FrameInfo} {dirty : DirtyRegion} {fullRepaint : Bool}
    {position : Nat × Nat} (h : ¬ (position.1 < info.columns ∧ position.2 < info.rows)) :
    paintPatch info dirty fullRepaint position = none :=
  if_neg fun hin => h ⟨hin.1, hin.2.1⟩

/-- A paint shows the frame exactly if it is a sound patch. -/
theorem sound_paintPatch_iff (background : γ) {info : FrameInfo} (hchanged : info.changed = true)
    (dirty : DirtyRegion) (fullRepaint : Bool) :
    Patch.Sound (paintPatch info dirty fullRepaint) picture frame.cell ↔
      ∀ column < info.columns, ∀ row < info.rows,
        paintFrame background picture frame info dirty fullRepaint (column, row) =
          frame.cell (column, row) := by
  constructor
  · intro h column hcolumn row hrow
    rw [paintFrame_eq_apply background picture frame hchanged dirty fullRepaint hcolumn hrow]
    exact h (column, row)
  · rintro h ⟨column, row⟩
    by_cases hinside : column < info.columns ∧ row < info.rows
    · rw [← paintFrame_eq_apply background picture frame hchanged dirty fullRepaint hinside.1
        hinside.2]
      exact h column hinside.1 row hinside.2
    · -- outside of the frame the patch takes the new picture's cell
      rw [Patch.apply, paintPatch_of_outside hinside]

/-- Frames that are right as deltas are a chain of sound patches. -/
theorem framesRight_iff (background : γ) {frames : List (Frame γ)}
    (hchanged : ∀ frame ∈ frames, IsChanged frame.info) :
    FramesRight background picture frames ↔
      Patch.Chain picture (frames.map fun frame => (framePatch frame.info, frame.cell)) := by
  -- each frame is the picture for the next one
  induction frames generalizing picture with
  | nil => exact Iff.rfl
  | cons frame frames ih =>
    have hrest := @ih frame.cell fun f hf => hchanged f (List.mem_cons_of_mem _ hf)
    exact and_congr
      (sound_paintPatch_iff background (hchanged frame List.mem_cons_self).changed _ _).symm hrest

end paint

/-! ## The merged information -/

/-- The pending information after changed frames. -/
def mergeAll (infos : List FrameInfo) : Option PendingPaint :=
  infos.foldl (fun pending info => some (mergePending pending info)) none

theorem mergeAll_concat (infos : List FrameInfo) (info : FrameInfo) :
    mergeAll (infos ++ [info]) = some (mergePending (mergeAll infos) info) :=
  List.foldl_concat ..

/-- What merging keeps of the frames: the size of the newest one, the sum of all distances, whether
some frame repaints everything, and otherwise the common rectangle. The rectangle is the common one
only while no frame repaints everything. -/
structure MergedSpec (infos : List FrameInfo) (paint : PendingPaint) : Prop where
  size : ∀ newest ∈ infos.getLast?,
    paint.info.columns = newest.columns ∧ paint.info.rows = newest.rows
  changed : paint.info.changed = true
  delta : paint.info.scrollDelta = (infos.map FrameInfo.scrollDelta).sum
  full : paint.fullRepaint = true ↔ ∃ info ∈ infos, info.fullRepaint = true
  nonempty : paint.fullRepaint = false → dirtyEmpty paint.dirty = false
  left : paint.fullRepaint = false → ∀ column,
    paint.dirty.left ≤ column ↔ ∃ info ∈ infos, info.dirty.left ≤ column
  right : paint.fullRepaint = false → ∀ column,
    column < paint.dirty.right ↔ ∃ info ∈ infos, column < info.dirty.right
  top : paint.fullRepaint = false → ∀ row,
    paint.dirty.top ≤ row ↔ ∃ info ∈ infos, info.dirty.top ≤ row
  bottom : paint.fullRepaint = false → ∀ row,
    row < paint.dirty.bottom ↔ ∃ info ∈ infos, row < info.dirty.bottom

/-- The first pending frame. -/
theorem mergedSpec_singleton {info : FrameInfo} (h : IsChanged info) :
    MergedSpec [info] (mergePending none info) := by
  have hdirty : info.fullRepaint = false →
      (if info.fullRepaint = true then wholeGrid info.columns info.rows else info.dirty) =
        info.dirty := fun hfull => by rw [hfull, if_neg Bool.false_ne_true]
  rw [mergePending]
  constructor
  · rintro _ ⟨⟩
    exact ⟨rfl, rfl⟩
  · exact h.changed
  · simp
  · simp
  · intro hfull
    simp only at hfull ⊢
    rw [hdirty hfull]
    exact h.painted.resolve_left (by simp [hfull])
  all_goals
    intro hfull
    simp only at hfull ⊢
    rw [hdirty hfull]
    simp

/-- One more frame. -/
theorem MergedSpec.merge {infos : List FrameInfo} {paint : PendingPaint}
    (h : MergedSpec infos paint) {info : FrameInfo} (hinfo : IsChanged info) :
    MergedSpec (infos ++ [info]) (mergePending (some paint) info) := by
  have hparts : (info.fullRepaint || paint.fullRepaint) = false →
      info.fullRepaint = false ∧ paint.fullRepaint = false := Bool.or_eq_false_iff.1
  -- without a full repaint both rectangles are nonempty, and the merged one surrounds them
  have hdirty : (info.fullRepaint || paint.fullRepaint) = false →
      (mergePending (some paint) info).dirty =
        { left := min info.dirty.left paint.dirty.left
          top := min info.dirty.top paint.dirty.top
          right := max info.dirty.right paint.dirty.right
          bottom := max info.dirty.bottom paint.dirty.bottom } := by
    intro hfull
    obtain ⟨hi, hp⟩ := hparts hfull
    have hni := hinfo.painted.resolve_left (by simp [hi])
    simp [mergePending, mergeDirty, hi, hp, hni, h.nonempty hp]
  constructor
  · intro newest hnewest
    rw [List.getLast?_concat, Option.mem_some_iff] at hnewest
    subst hnewest
    exact ⟨rfl, rfl⟩
  · exact hinfo.changed
  · rw [List.map_append, List.sum_append, ← h.delta]
    simp [mergePending, Int.add_comm]
  · change (info.fullRepaint || paint.fullRepaint) = true ↔ _
    rw [Bool.or_eq_true, h.full]
    simp [or_and_right, exists_or, or_comm]
  · intro hfull
    obtain ⟨hi, hp⟩ := hparts hfull
    have hni := dirtyEmpty_eq_false_iff.1 (hinfo.painted.resolve_left (by simp [hi]))
    rw [hdirty hfull, dirtyEmpty_eq_false_iff]
    simp only
    omega
  · intro hfull column
    rw [hdirty hfull]
    simp only [min_le_iff, h.left (hparts hfull).2]
    simp [or_and_right, exists_or, or_comm]
  · intro hfull column
    rw [hdirty hfull]
    simp only [lt_max_iff, h.right (hparts hfull).2]
    simp [or_and_right, exists_or, or_comm]
  · intro hfull row
    rw [hdirty hfull]
    simp only [min_le_iff, h.top (hparts hfull).2]
    simp [or_and_right, exists_or, or_comm]
  · intro hfull row
    rw [hdirty hfull]
    simp only [lt_max_iff, h.bottom (hparts hfull).2]
    simp [or_and_right, exists_or, or_comm]

/-- Any number of changed frames. -/
theorem mergedSpec_mergeAll {infos : List FrameInfo} (hne : infos ≠ [])
    (hchanged : ∀ info ∈ infos, IsChanged info) :
    ∃ paint, mergeAll infos = some paint ∧ MergedSpec infos paint := by
  -- the newest frame is merged last, so the induction adds frames at the end
  induction infos using List.reverseRecOn with
  | nil => exact absurd rfl hne
  | append_singleton infos info ih =>
    have hinfo : IsChanged info := hchanged info (by simp)
    rw [mergeAll_concat]
    by_cases hnil : infos = []
    · subst hnil
      exact ⟨_, rfl, mergedSpec_singleton hinfo⟩
    · obtain ⟨paint, hpaint, hspec⟩ :=
        ih hnil fun i hi => hchanged i (List.mem_append_left _ hi)
      rw [hpaint]
      exact ⟨_, rfl, hspec.merge hinfo⟩

section frames

variable {γ : Type} {background : γ} {picture : Picture γ}

/-- The control merges the information and keeps the newest frame. -/
theorem foldl_requestFrameRefresh {frames : List (Frame γ)}
    (hchanged : ∀ frame ∈ frames, IsChanged frame.info) :
    (frames.foldl requestFrameRefresh none).map Prod.fst = frames.getLast? ∧
      (frames.foldl requestFrameRefresh none).map Prod.snd = mergeAll (frames.map Frame.info) := by
  -- again from the end: the last frame replaces the pending one
  induction frames using List.reverseRecOn with
  | nil => exact ⟨rfl, rfl⟩
  | append_singleton frames frame ih =>
    have hframe := (hchanged frame (by simp)).changed
    obtain ⟨-, hmerged⟩ := ih fun f hf => hchanged f (List.mem_append_left _ hf)
    rw [List.foldl_concat, requestFrameRefresh, if_pos hframe, hmerged, List.map_append,
      List.map_singleton, mergeAll_concat, List.getLast?_concat]
    exact ⟨rfl, rfl⟩

/-- The last picture of the chain is the one of the newest frame. -/
theorem last_eq_newest {frames : List (Frame γ)} {newest : Frame γ}
    (h : frames.getLast? = some newest) (picture : Picture γ) :
    Patch.last picture (frames.map fun frame => (framePatch frame.info, frame.cell)) =
      newest.cell := by
  induction frames generalizing picture with
  | nil => simp at h
  | cons frame frames ih =>
    rw [List.map_cons, Patch.last]
    cases frames with
    | nil =>
      rw [List.getLast?_singleton, Option.some.injEq] at h
      rw [← h]
      rfl
    | cons next frames =>
      rw [List.getLast?_cons_cons] at h
      exact ih h frame.cell

/-- Every chain of patches of frames comes from frames. -/
theorem exists_frames {infos : List FrameInfo} {steps : List (Patch (Nat × Nat) × Picture γ)}
    (h : steps.map Prod.fst = infos.map framePatch) :
    ∃ frames : List (Frame γ), frames.map Frame.info = infos ∧
      frames.map (fun frame => (framePatch frame.info, frame.cell)) = steps := by
  induction infos generalizing steps with
  | nil => exact ⟨[], rfl, (List.map_eq_nil_iff.1 h).symm⟩
  | cons info infos ih =>
    cases steps with
    | nil => simp at h
    | cons step steps =>
      rw [List.map_cons, List.map_cons, List.cons.injEq] at h
      -- a frame is its information and its picture, and both are given
      obtain ⟨frames, hinfos, hsteps⟩ := ih h.2
      refine ⟨⟨info, step.2⟩ :: frames, by rw [List.map_cons, hinfos], ?_⟩
      rw [List.map_cons, hsteps, ← h.1]

/-- Painting the merged frames is the merged patch. -/
theorem mergeLosesNothing_iff_sound {frames : List (Frame γ)}
    (hchanged : ∀ frame ∈ frames, IsChanged frame.info) {paint : PendingPaint}
    (hpaint : mergeAll (frames.map Frame.info) = some paint)
    (hspec : MergedSpec (frames.map Frame.info) paint) :
    MergeLosesNothing background picture frames ↔
      Patch.Sound (paintPatch paint.info paint.dirty paint.fullRepaint) picture
        (Patch.last picture (frames.map fun frame => (framePatch frame.info, frame.cell))) := by
  obtain ⟨hfst, hsnd⟩ := foldl_requestFrameRefresh hchanged
  rw [hpaint] at hsnd
  -- there is a pending frame, since something was merged
  cases hpending : frames.foldl requestFrameRefresh none with
  | none => simp [hpending] at hsnd
  | some pending =>
    obtain ⟨newest, paint'⟩ := pending
    rw [hpending, Option.map_some] at hfst hsnd
    obtain rfl : paint' = paint := Option.some.inj hsnd
    obtain ⟨hcolumns, hrows⟩ := hspec.size newest.info (by
      rw [List.getLast?_map, ← hfst]
      rfl)
    rw [MergeLosesNothing]
    -- the pending frame is the newest one, which ends the chain of patches
    rw [last_eq_newest hfst.symm, sound_paintPatch_iff background hspec.changed,
      hpending, ← hfst]
    simp only [Option.mem_some_iff, forall_eq', onPaint, hcolumns, hrows]

end frames

/-- Merging is safe exactly if the merged patch copies only what the frames copy. -/
theorem mergeSafe_iff_trace {infos : List FrameInfo} {paint : PendingPaint}
    {newest : FrameInfo} (hnewest : infos.getLast? = some newest) (hspec : MergedSpec infos paint) :
    (∀ i j, paintPatch paint.info paint.dirty paint.fullRepaint i = some j →
      Patch.trace (infos.map framePatch) i = some j) ↔ MergeSafe infos := by
  obtain ⟨hcolumns, hrows⟩ := hspec.size newest hnewest
  constructor
  · intro h
    cases hfull : paint.fullRepaint with
    | true => exact Or.inl (hspec.full.1 hfull)
    | false =>
      refine Or.inr fun _ hmem column hcolumn row hrow => ?_
      rw [hnewest, Option.mem_some_iff] at hmem
      subst hmem
      -- the merged rectangle is the hull; outside of it the merged patch copies
      by_cases hcovers : RegionCovers paint.dirty column row
      · obtain ⟨hl, hr, ht, hb⟩ := hcovers
        exact Or.inl ⟨⟨(hspec.left hfull column).1 hl, (hspec.right hfull column).1 hr⟩,
          (hspec.top hfull row).1 ht, (hspec.bottom hfull row).1 hb⟩
      · refine Or.inr (h _ _ ?_)
        rw [← hspec.delta, ← hrows, hfull]
        exact if_pos ⟨hcolumns ▸ hcolumn, hrows ▸ hrow, rfl, hcovers⟩
  · rintro hsafe ⟨column, row⟩ j hj
    rw [paintPatch] at hj
    split at hj
    · rename_i hcopied
      obtain ⟨hcolumn, hrow, hfull, hcovers⟩ := hcopied
      rcases hsafe with hany | hall
      · rw [hspec.full.2 hany] at hfull
        exact absurd hfull (by simp)
      · -- a copied cell is outside of the hull, so its trace is known
        rcases hall newest hnewest column (hcolumns ▸ hcolumn) row (hrows ▸ hrow) with
          ⟨⟨hl, hr⟩, ht, hb⟩ | htrace
        · exact absurd ⟨(hspec.left hfull column).2 hl, (hspec.right hfull column).2 hr,
            (hspec.top hfull row).2 ht, (hspec.bottom hfull row).2 hb⟩ hcovers
        · rw [htrace, ← hspec.delta, ← hrows]
          exact hj
    · exact absurd hj (by simp)

/-- For changed frames, each right as a delta, painting the merged frames shows the newest one,
whatever the frames show, exactly if merging them is safe. -/
theorem mergeLosesNothing_iff (background : Option CellView) (infos : List FrameInfo)
    (hchanged : ∀ info ∈ infos, IsChanged info) :
    (∀ (picture : Picture (Option CellView)) (frames : List (Frame (Option CellView))),
      frames.map Frame.info = infos → FramesRight background picture frames →
      MergeLosesNothing background picture frames) ↔ MergeSafe infos := by
  have hframes : ∀ {frames : List (Frame (Option CellView))}, frames.map Frame.info = infos →
      ∀ frame ∈ frames, IsChanged frame.info := fun hinfos frame hframe =>
    hchanged _ (hinfos ▸ List.mem_map_of_mem hframe)
  cases hlast : infos.getLast? with
  | none =>
    -- no frames: nothing is painted and nothing is claimed
    rw [List.getLast?_eq_none_iff] at hlast
    subst hlast
    constructor
    · exact fun _ => Or.inr fun _ h => absurd h (by simp)
    · intro _ picture frames hinfos _ newest hnewest
      rw [List.map_eq_nil_iff.1 hinfos] at hnewest
      exact absurd hnewest (by simp)
  | some newest =>
    have hne : infos ≠ [] := fun hnil => by simp [hnil] at hlast
    obtain ⟨paint, hpaint, hspec⟩ := mergedSpec_mergeAll hne hchanged
    -- the rule for patches needs two values a cell can have
    rw [← mergeSafe_iff_trace hlast hspec, ← @Patch.merge_iff _ (Option CellView)
      ⟨none, some ⟨0, [], 0, {}, {}, 0⟩, by simp⟩]
    constructor
    · intro h old steps hpatches hchain
      obtain ⟨frames, hinfos, rfl⟩ := exists_frames hpatches
      have hright := (framesRight_iff background (hframes hinfos)).2 hchain
      have hmerged := h old frames hinfos hright
      subst hinfos
      exact (mergeLosesNothing_iff_sound (hframes rfl) hpaint hspec).1 hmerged
    · rintro h picture frames rfl hright
      rw [mergeLosesNothing_iff_sound (hframes rfl) hpaint hspec]
      refine h picture _ ?_ ((framesRight_iff background (hframes rfl)).1 hright)
      rw [List.map_map, List.map_map]
      rfl

/-- Two frames without scrolling, with rectangles at both ends of a row of three cells. -/
def bothEndsOfRow : List FrameInfo :=
  [{ changed := true, dirty := ⟨0, 0, 1, 1⟩, columns := 3, rows := 1 },
    { changed := true, dirty := ⟨2, 0, 3, 1⟩, columns := 3, rows := 1 }]

/-- Without scrolls the common rectangle is enough. -/
theorem mergeLosesNothing_noScroll : MergeSafe bothEndsOfRow ∧
    ∀ (picture : Picture (Option CellView)) (frames : List (Frame (Option CellView))),
      frames.map Frame.info = bothEndsOfRow → FramesRight none picture frames →
      MergeLosesNothing none picture frames := by
  have hsafe : MergeSafe bothEndsOfRow := by
    right
    rintro _ ⟨⟩
    simp only [InHull]
    decide
  refine ⟨hsafe, (mergeLosesNothing_iff none _ ?_).2 hsafe⟩
  intro info hinfo
  simp only [bothEndsOfRow, List.mem_cons, List.not_mem_nil, or_false] at hinfo
  rcases hinfo with rfl | rfl
  · exact ⟨rfl, Or.inr (by decide)⟩
  · exact ⟨rfl, Or.inr (by decide)⟩

/-! ## Frames of the core -/

section core

variable {tsmUcs4ToUtf8 : Nat → List UInt8}

theorem isChanged_takePackedFrame {impl : Impl} {screen : Screen} {draw : Draw}
    (h : (takePackedFrame tsmUcs4ToUtf8 impl screen draw).changed = true) :
    IsChanged (frameInfo (takePackedFrame tsmUcs4ToUtf8 impl screen draw)) := by
  refine ⟨h, ?_⟩
  change takenChanged tsmUcs4ToUtf8 impl screen draw = true at h
  rw [takenChanged, Bool.or_eq_true, Bool.not_eq_true'] at h
  exact h

/-- A sound delta whose rectangle surrounds its spans is right when it is painted. -/
theorem paintsRight_of_frameDelta {older newer : PackedFrame} (hdelta : FrameDelta older newer)
    (hchanged : newer.changed = true)
    (hspans : newer.fullRepaint = false → ∀ column row, SpansCover newer.dirtySpans column row →
      RegionCovers newer.dirty column row) :
    PaintsRight none (coreFrame older).cell (coreFrame newer) := by
  intro column hcolumn row hrow
  -- cells that are drawn are right; only the copied ones need the delta
  rw [paintFrame_eq_apply none _ _ hchanged _ _ hcolumn hrow, Patch.apply]
  cases hpatch : paintPatch (coreFrame newer).info (coreFrame newer).info.dirty
      (coreFrame newer).info.fullRepaint (column, row) with
  | none => rfl
  | some source =>
    rw [paintPatch] at hpatch
    split at hpatch
    · rename_i hcopied
      obtain ⟨-, -, hfull, huncovered⟩ := hcopied
      obtain ⟨source', hsource, heq, hcell, -⟩ := hdelta.moved hfull column hcolumn row hrow
        fun hcover => huncovered (hspans hfull column row hcover)
      obtain ⟨-, hrows⟩ := hdelta.size hfull
      rw [Option.some.injEq] at hpatch
      -- the delta's source row is where `ScrollFramebuffer` copies from
      have hscroll : scrollSource newer.scrollDelta newer.rows row = source' := by
        have hrow' : row < newer.rows := hrow
        rw [scrollSource]
        split
        · omega
        · split
          · split <;> omega
          · split <;> omega
      rw [← hpatch]
      change frameCell older column (scrollSource newer.scrollDelta newer.rows row) =
        frameCell newer column row
      rw [hscroll]
      exact hcell.symm
    · exact absurd hpatch (by simp)

/-- The frames of a terminal are right as deltas. -/
theorem framesPaintRight {run : TerminalRun}
    (h : (terminalSystem tsmUcs4ToUtf8).Reachable (DeltaAllowed tsmUcs4ToUtf8) run) :
    run.taken.IsChain fun newer older => newer.2.changed = true →
      PaintsRight none (coreFrame older.2).cell (coreFrame newer.2) := by
  refine taken_isChain (fun run draw taken older hreach hallowed htaken hchanged => ?_) h
  apply paintsRight_of_frameDelta (frameDelta_step hreach hallowed htaken) hchanged
  -- the rectangle of a frame surrounds its dirty spans
  intro hfull column row hcover
  have hspec : TakeSpec tsmUcs4ToUtf8 run.impl run.screen draw _ :=
    takeSpec (cacheInvariant hreach).table
  obtain ⟨-, -, hdirty, hspans, -⟩ := takenRegion_notFull hfull
  change SpansCover (takenRegion tsmUcs4ToUtf8 run.impl run.screen draw).dirtySpans _ _ at hcover
  rw [hspans] at hcover
  obtain ⟨span, hspan, rfl, hleft, hright⟩ := hcover
  have hinside := hspec.tracks.inside span hspan
  change RegionCovers (takenRegion tsmUcs4ToUtf8 run.impl run.screen draw).dirty _ _
  rw [hdirty]
  exact ⟨hinside.dirtyLeft.trans hleft, hright.trans_le hinside.dirtyRight, hinside.dirtyTop,
    hinside.dirtyBottom⟩

end core

/-- The lines `A` and `B` become `A` and `X`, and then `X` and `C` one line further down. -/
def typedScreen : Screen :=
  { linesScreen 0 0 with cell := fun _ row => { codepoints := [if row = 0 then 65 else 88] } }

/-- The third of these screens: `X` has moved up, and `C` follows. -/
def scrolledScreen : Screen :=
  { linesScreen 1 1 with cell := fun _ row => { codepoints := [if row = 0 then 88 else 67] } }

/-- The frames of these three screens, the third one taken before the second was painted. -/
def overtakenFrame (index : Nat) : PackedFrame :=
  (((newRun (linesScreen 0 0)).calls ucs4ToUtf8
    [.takePackedFrame (linesDraw 0 1), .feedOutput [88] typedScreen,
      .takePackedFrame ⟨[⟨{ codepoints := [88] }, 0, 1, 2⟩], 2⟩, .feedOutput [10] scrolledScreen,
      .takePackedFrame ⟨[⟨{ codepoints := [88] }, 0, 0, 3⟩, ⟨{ codepoints := [67] }, 0, 1, 3⟩],
        3⟩]).taken.reverse.map Prod.snd).getD index {}

/-- The second frame scrolls up the row that the first one was to draw. -/
theorem not_mergeLosesNothing : ¬ ∀ (picture : Picture (Option CellView))
    (frames : List (Frame (Option CellView))), (∀ frame ∈ frames, IsChanged frame.info) →
    FramesRight none picture frames → MergeLosesNothing none picture frames := by
  intro h
  have hmerged := h (coreFrame (overtakenFrame 0)).cell
    [coreFrame (overtakenFrame 1), coreFrame (overtakenFrame 2)] ?_ ?_
  · -- the merged paint copies `B` up, and the typed `X` is lost
    have hcell := hmerged _ rfl 0 (by decide) 0 (by decide)
    revert hcell
    decide
  · intro frame hframe
    simp only [List.mem_cons, List.not_mem_nil, or_false] at hframe
    rcases hframe with rfl | rfl
    · exact ⟨by decide, by decide⟩
    · exact ⟨by decide, by decide⟩
  · -- each frame is right as a delta of the one before
    refine ⟨?_, ?_, trivial⟩
    · rw [PaintsRight]
      decide
    · rw [PaintsRight]
      decide

end SakuraTerminal.Wx
