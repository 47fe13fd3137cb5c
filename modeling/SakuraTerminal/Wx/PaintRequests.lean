import SakuraTerminal.Foundations.Resources
import SakuraTerminal.Foundations.TransitionSystem
import SakuraTerminal.Wx.FrameMerge

/-!
# Paint requests

`RequestFrameRefresh`, `OnPaint`, `OnSize` and the destructor of `src/wx/terminal_ctrl.cpp`, as far
as they own frames of the core and ask wxWidgets for paint events. A frame that was taken is kept in
`pending_frame_` or freed at once; a newer one takes the place of the pending one, and a paint event
consumes it.

Every frame is freed once and not used afterwards. While a frame is pending a paint event is due,
and its update region has every cell of the frame's merged dirty region. Where the merged frame
does not scroll, that is every cell whose content the paint changes (`paintRequests_sound`).

A frame that scrolls changes more. `PaintFrame` moves the rows of the framebuffer and copies the
whole of it to the paint DC, but `RequestFrameRefresh` invalidates the dirty rectangle alone, so the
rows that only move are not in the update region and stay in the window as they were. A frame taken
in a valid window has all that it draws in the region exactly when it refreshes the whole window or
moves no cell outside of its dirty rectangle, and the theorem has this condition as its second half.

A paint event comes with the areas that were invalidated since the last one.
-/

set_option autoImplicit false

namespace SakuraTerminal.Wx

open SakuraTerminal.Core SakuraTerminal.Foundations

/-- The size of a cell in pixels, which is at least one each way. An empty cell would make an empty
rectangle of a dirty region that is not empty. -/
structure CellSize where
  width : Nat
  height : Nat
  width_pos : 0 < width
  height_pos : 0 < height
  deriving Repr

/-- An area of the window that is to be painted. -/
inductive Invalid where
  | all
  | rect (x y width height : Nat)
  deriving DecidableEq, Repr

/-- The pixel is in the area. -/
def Invalid.Has : Invalid → Nat × Nat → Prop
  | .all, _ => True
  | .rect x y width height, pixel =>
    (x ≤ pixel.1 ∧ pixel.1 < x + width) ∧ y ≤ pixel.2 ∧ pixel.2 < y + height

/-- A frame that `sakura_terminal_take_frame` returned, by its address, and what
`sakura_terminal_frame_info` says of it. There is no information if the core is not ready. -/
structure TakenFrame where
  frame : Nat
  info : Option FrameInfo
  deriving DecidableEq, Repr

/-- The members, the frames of the core and the invalid areas of the window. `ready` is
`sakura_terminal_is_ready`, which does not change. `frames` knows of every frame whether it is live
or was freed, and `alive` is false behind the destructor. -/
structure PaintRequests where
  ready : Bool := true
  cell : CellSize
  frames : ResourceTable Nat := {}
  pending : Option (Nat × PendingPaint) := none
  invalid : List Invalid := []
  refreshRequests : Nat := 0
  fullRefreshRequests : Nat := 0
  dirtyRefreshRequests : Nat := 0
  paintEvents : Nat := 0
  recordedPaints : Nat := 0
  alive : Bool := true
  deriving Repr

/-! ## The source -/

namespace PaintRequests

variable (requests : PaintRequests)

/-- `Refresh(false)`. -/
def refresh : PaintRequests := { requests with invalid := .all :: requests.invalid }

/-- `RefreshRect`. -/
def refreshRect (x y width height : Nat) : PaintRequests :=
  { requests with invalid := .rect x y width height :: requests.invalid }

/-- A refresh of the whole window, which is counted as such. -/
def fullRefresh : PaintRequests :=
  { requests.refresh with fullRefreshRequests := requests.fullRefreshRequests + 1 }

/-- A function of the core reads the frame. -/
def useFrame (frame : Nat) : PaintRequests := { requests with frames := requests.frames.use frame }

/-- `sakura_terminal_frame_free`. -/
def freeFrame (frame : Nat) : PaintRequests :=
  { requests with frames := requests.frames.release frame }

/-- `sakura_terminal_take_frame` and `sakura_terminal_frame_info`. -/
def takeFrame (frame : Nat) : PaintRequests :=
  { requests with frames := (requests.frames.acquire [frame]).use frame }

/-- The end of `RequestFrameRefresh`: the pending frame's region is invalidated. -/
def requestPaint (pending : PendingPaint) : PaintRequests :=
  let requests := { requests with refreshRequests := requests.refreshRequests + 1 }
  if pending.fullRepaint || dirtyEmpty pending.dirty then requests.fullRefresh
  else
    let left := min pending.dirty.left pending.info.columns
    let top := min pending.dirty.top pending.info.rows
    let right := min pending.dirty.right pending.info.columns
    let bottom := min pending.dirty.bottom pending.info.rows
    if left ≥ right ∨ top ≥ bottom then requests.fullRefresh
    else
      { requests with dirtyRefreshRequests := requests.dirtyRefreshRequests + 1 }.refreshRect
        (left * requests.cell.width) (top * requests.cell.height)
        ((right - left) * requests.cell.width) ((bottom - top) * requests.cell.height)

/-- The frame becomes the pending one. -/
def keepFrame (frame : Nat) (info : FrameInfo) : PaintRequests :=
  let paint := mergePending (requests.pending.map Prod.snd) info
  let freed :=
    match requests.pending with
    | none => requests
    | some (old, _) => requests.freeFrame old
  { freed with pending := some (frame, paint) }.requestPaint paint

/-- `RequestFrameRefresh` with the frame it takes, if it gets one. -/
def requestFrameRefresh : Option TakenFrame → PaintRequests
  | none => requests
  | some taken =>
    let requests := requests.takeFrame taken.frame
    match taken.info with
    | none => requests.freeFrame taken.frame
    | some info =>
      if !info.changed then requests.freeFrame taken.frame
      else requests.keepFrame taken.frame info

/-- `record_paint`. -/
def recordPaint : PaintRequests := { requests with recordedPaints := requests.recordedPaints + 1 }

/-- The frame is painted if it is new. -/
def paintFrame (frame : Nat) (info : FrameInfo) : PaintRequests :=
  if !info.changed then (requests.freeFrame frame).recordPaint
  else ((requests.useFrame frame).freeFrame frame).recordPaint

/-- `OnPaint`. The paint DC has the invalid areas, which are valid afterwards. -/
def onPaint (taken : Option TakenFrame) : PaintRequests :=
  let requests :=
    { requests with
      paintEvents := requests.paintEvents + 1
      invalid := [] }
  if !requests.ready then requests.recordPaint
  else
    match requests.pending with
    | some (frame, paint) => { requests with pending := none }.paintFrame frame paint.info
    | none =>
      match taken with
      | none => requests.recordPaint
      | some taken =>
        let requests := requests.takeFrame taken.frame
        match taken.info with
        | none => (requests.freeFrame taken.frame).recordPaint
        | some info => requests.paintFrame taken.frame info

/-- `OnSize`; the cells may have another size afterwards. -/
def onSize (cell : CellSize) : PaintRequests :=
  { requests with
    cell := cell
    refreshRequests := requests.refreshRequests + 1
    fullRefreshRequests := requests.fullRefreshRequests + 1 }.refresh

/-- The destructor of `Impl`. -/
def destroy : PaintRequests :=
  match requests.pending with
  | none => { requests with alive := false }
  | some (frame, _) => { requests.freeFrame frame with pending := none, alive := false }

end PaintRequests

/-! ## Runs -/

/-- What happens to the control. `animate` is a tick of an active animation, and `expose` an area
that the window system wants painted. -/
inductive RequestEvent where
  | requestFrameRefresh (taken : Option TakenFrame)
  | onPaint (taken : Option TakenFrame)
  | onSize (cell : CellSize)
  | animate
  | expose (x y width height : Nat)
  | destroy
  deriving Repr

/-- One event. -/
def PaintRequests.next (requests : PaintRequests) : RequestEvent → PaintRequests
  | .requestFrameRefresh taken => requests.requestFrameRefresh taken
  | .onPaint taken => requests.onPaint taken
  | .onSize cell => requests.onSize cell
  | .animate => requests.refresh
  | .expose x y width height => requests.refreshRect x y width height
  | .destroy => requests.destroy

/-- The frame that is taken in the event. -/
def RequestEvent.taken : RequestEvent → Option TakenFrame
  | .requestFrameRefresh taken | .onPaint taken => taken
  | .onSize _ | .animate | .expose .. | .destroy => none

/-- Frames have addresses of their own, and a core that is not ready has nothing to say of them.
Nothing happens to a control that was destroyed. -/
structure PaintRequests.Possible (requests : PaintRequests) (event : RequestEvent) : Prop where
  alive : requests.alive = true
  fresh : ∀ taken, event.taken = some taken → requests.frames.Fresh [taken.frame]
  ready : requests.ready = false → ∀ taken, event.taken = some taken → taken.info = none

/-- A control that has not taken a frame yet. -/
structure PaintRequests.New (requests : PaintRequests) : Prop where
  frames : requests.frames = {}
  pending : requests.pending = none
  counted : requests.refreshRequests =
    requests.fullRefreshRequests + requests.dirtyRefreshRequests
  recorded : requests.recordedPaints = requests.paintEvents

/-- All orders of events, from a control that has not taken a frame. -/
def requestSystem : TransitionSystem PaintRequests RequestEvent where
  init := PaintRequests.New
  step requests event requests' := requests.Possible event ∧ requests' = requests.next event

/-! ## What holds in every run -/

/-- The pixels of a cell. -/
def CellSize.InCell (cell : CellSize) (column row : Nat) (pixel : Nat × Nat) : Prop :=
  (column * cell.width ≤ pixel.1 ∧ pixel.1 < (column + 1) * cell.width) ∧
    row * cell.height ≤ pixel.2 ∧ pixel.2 < (row + 1) * cell.height

/-- A cell of the frame that a paint draws anew. `RenderFrame` draws the merged dirty region, and
a full repaint has every cell of the frame in it. -/
def PendingPaint.Redraws (paint : PendingPaint) (column row : Nat) : Prop :=
  (column < paint.info.columns ∧ row < paint.info.rows) ∧
    (paint.fullRepaint = true ∨ RegionCovers paint.dirty column row)

/-- A cell that a paint copies another cell of the framebuffer over. `ScrollFramebuffer` fills all
rows but those that come in at the end the scroll moves away from. -/
def PendingPaint.Moves (paint : PendingPaint) (column row : Nat) : Prop :=
  (column < paint.info.columns ∧ row < paint.info.rows) ∧
    scrollSource paint.info.scrollDelta paint.info.rows row ≠ row

/-- A cell of the window that a paint has something new for: one that is drawn, or one that the
scroll of the merged frame brings to another row. All other cells keep their content
(`onPaint_of_not_draws`). -/
def PendingPaint.Draws (paint : PendingPaint) (column row : Nat) : Prop :=
  paint.Redraws column row ∨ paint.Moves column row

/-- The paint asks for the whole window, not for a rectangle of it. -/
def PendingPaint.RefreshesAll (paint : PendingPaint) : Prop :=
  (paint.fullRepaint || dirtyEmpty paint.dirty) = true ∨
    min paint.dirty.right paint.info.columns ≤ min paint.dirty.left paint.info.columns ∨
      min paint.dirty.bottom paint.info.rows ≤ min paint.dirty.top paint.info.rows

instance (paint : PendingPaint) : Decidable paint.RefreshesAll :=
  inferInstanceAs (Decidable (_ ∨ _ ∨ _))

/-- The pixels of a cell are in the update region of the next paint event. Different pixels may be
in different areas. -/
def PaintRequests.Covered (requests : PaintRequests) (column row : Nat) : Prop :=
  ∀ pixel, requests.cell.InCell column row pixel → ∃ area ∈ requests.invalid, area.Has pixel

/-- A paint event is due, and all that the paint draws anew is in its update region. Cells that
only move are not asked for, so the region is enough for a frame that does not scroll. -/
structure PaintRequests.Awaits (requests : PaintRequests) (paint : PendingPaint) : Prop where
  due : ∃ area ∈ requests.invalid, ∃ pixel, area.Has pixel
  covers : ∀ column row, paint.Redraws column row → requests.Covered column row

/-- What holds of the frames and the paint requests after any events. A frame that is pending is the
only one the control owns between two events. -/
structure RequestsInvariant (requests : PaintRequests) : Prop where
  owned : requests.frames.OwnedBy (requests.pending.map Prod.fst).toList
  awaits : ∀ frame paint, requests.pending = some (frame, paint) → requests.Awaits paint
  counted : requests.refreshRequests =
    requests.fullRefreshRequests + requests.dirtyRefreshRequests
  recorded : requests.recordedPaints = requests.paintEvents
  ready : requests.ready = false → requests.pending = none
  ended : requests.alive = false → requests.pending = none

section invariant

variable {requests : PaintRequests} {paint : PendingPaint}

theorem awaits_all (h : .all ∈ requests.invalid) : requests.Awaits paint where
  due := ⟨.all, h, (0, 0), trivial⟩
  covers _ _ _ _ _ := ⟨.all, h, trivial⟩

/-- A cell that is moved and not drawn belongs to a frame that scrolls. -/
theorem PendingPaint.Draws.redraws {column row : Nat} (h : paint.Draws column row)
    (hscroll : paint.info.scrollDelta = 0) : paint.Redraws column row := by
  apply h.resolve_right
  rintro ⟨-, hmoves⟩
  apply hmoves
  rw [hscroll, scrollSource]
  simp

/-- A paint changes no other cell than those it draws. -/
theorem onPaint_of_not_draws {γ : Type} (background : γ) (picture : Picture γ) (cells : Frame γ)
    {column row : Nat} (hcolumn : column < paint.info.columns) (hrow : row < paint.info.rows)
    (h : ¬ paint.Draws column row) :
    onPaint background picture (some (cells, paint)) (column, row) = picture (column, row) := by
  rw [PendingPaint.Draws, not_or] at h
  have hpart : paint.fullRepaint = false := by
    rw [← Bool.not_eq_true]
    exact fun hfull => h.1 ⟨⟨hcolumn, hrow⟩, .inl hfull⟩
  have hclean : ¬ RegionCovers paint.dirty column row :=
    fun hcovers => h.1 ⟨⟨hcolumn, hrow⟩, .inr hcovers⟩
  have hstays : scrollSource paint.info.scrollDelta paint.info.rows row = row := by
    by_contra hmoves
    exact h.2 ⟨⟨hcolumn, hrow⟩, hmoves⟩
  change paintFrame background picture cells paint.info paint.dirty paint.fullRepaint
    (column, row) =
    picture (column, row)
  by_cases hchanged : paint.info.changed = true
  · have hcopied : paintPatch paint.info paint.dirty paint.fullRepaint (column, row) =
        some (column, scrollSource paint.info.scrollDelta paint.info.rows row) :=
      if_pos ⟨hcolumn, hrow, hpart, hclean⟩
    rw [paintFrame_eq_apply background picture cells hchanged _ _ hcolumn hrow, Patch.apply,
      hcopied, hstays]
  · rw [paintFrame, hpart, if_neg Bool.false_ne_true, if_neg hchanged]

/-- More to paint does not hurt. -/
theorem PaintRequests.Awaits.mono (h : requests.Awaits paint) {requests' : PaintRequests}
    (hcell : requests'.cell = requests.cell) (hinvalid : requests.invalid ⊆ requests'.invalid) :
    requests'.Awaits paint where
  due := by
    obtain ⟨area, hmem, hpixel⟩ := h.due
    exact ⟨area, hinvalid hmem, hpixel⟩
  covers column row hdraws pixel hin := by
    rw [hcell] at hin
    obtain ⟨area, hmem, hhas⟩ := h.covers column row hdraws pixel hin
    exact ⟨area, hinvalid hmem, hhas⟩

/-- The cells of a region make up a rectangle of pixels. -/
theorem rect_has {cell : CellSize} {left top right bottom column row : Nat} {pixel : Nat × Nat}
    (hcolumn : left ≤ column ∧ column < right) (hrow : top ≤ row ∧ row < bottom)
    (hin : cell.InCell column row pixel) :
    (Invalid.rect (left * cell.width) (top * cell.height) ((right - left) * cell.width)
      ((bottom - top) * cell.height)).Has pixel := by
  obtain ⟨⟨hx, hx'⟩, hy, hy'⟩ := hin
  have hright : left * cell.width + (right - left) * cell.width = right * cell.width := by
    rw [← Nat.add_mul, Nat.add_sub_cancel' (hcolumn.1.trans hcolumn.2.le)]
  have hbottom : top * cell.height + (bottom - top) * cell.height = bottom * cell.height := by
    rw [← Nat.add_mul, Nat.add_sub_cancel' (hrow.1.trans hrow.2.le)]
  change (_ ∧ pixel.1 < left * cell.width + (right - left) * cell.width) ∧
    _ ∧ pixel.2 < top * cell.height + (bottom - top) * cell.height
  rw [hright, hbottom]
  refine ⟨⟨?_, ?_⟩, ?_, ?_⟩
  · exact (Nat.mul_le_mul_right _ hcolumn.1).trans hx
  · exact hx'.trans_le (Nat.mul_le_mul_right _ hcolumn.2)
  · exact (Nat.mul_le_mul_right _ hrow.1).trans hy
  · exact hy'.trans_le (Nat.mul_le_mul_right _ hrow.2)

/-- A paint was asked for: the areas are invalidated, and the request is counted. Nothing else of
the control has changed. -/
structure Asked (requests requests' : PaintRequests) (paint : PendingPaint) : Prop where
  ready : requests'.ready = requests.ready
  frames : requests'.frames = requests.frames
  pending : requests'.pending = requests.pending
  alive : requests'.alive = requests.alive
  recorded : requests'.recordedPaints = requests.recordedPaints
  paints : requests'.paintEvents = requests.paintEvents
  counted : requests'.refreshRequests = requests.refreshRequests + 1
  counts : requests'.fullRefreshRequests + requests'.dirtyRefreshRequests =
    requests.fullRefreshRequests + requests.dirtyRefreshRequests + 1
  awaits : requests'.Awaits paint

theorem asked_fullRefresh (requests : PaintRequests) (paint : PendingPaint) :
    Asked requests
      { requests with refreshRequests := requests.refreshRequests + 1 }.fullRefresh paint := by
  constructor
  case counts => exact Nat.add_right_comm ..
  case awaits => exact awaits_all List.mem_cons_self
  all_goals rfl

/-- The request invalidates the window, or a rectangle with every cell that is drawn anew. -/
theorem asked_requestPaint (requests : PaintRequests) (paint : PendingPaint) :
    Asked requests (requests.requestPaint paint) paint := by
  unfold PaintRequests.requestPaint
  dsimp only
  split
  · exact asked_fullRefresh requests paint
  · rename_i hsome
    rw [Bool.or_eq_true, not_or, Bool.not_eq_true] at hsome
    split
    · exact asked_fullRefresh requests paint
    · rename_i hregion
      rw [not_or, Nat.not_le, Nat.not_le] at hregion
      constructor
      case counts => exact (Nat.add_assoc ..).symm
      case awaits =>
        constructor
        case due =>
          refine ⟨_, List.mem_cons_self, (_ * _, _ * _), rect_has ⟨Nat.le_refl _, hregion.1⟩
            ⟨Nat.le_refl _, hregion.2⟩ ⟨⟨Nat.le_refl _, ?_⟩, Nat.le_refl _, ?_⟩⟩
          · exact Nat.mul_lt_mul_of_pos_right (Nat.lt_succ_self _) requests.cell.width_pos
          · exact Nat.mul_lt_mul_of_pos_right (Nat.lt_succ_self _) requests.cell.height_pos
        case covers =>
          rintro column row ⟨⟨hcolumn, hrow⟩, hfull | ⟨hleft, hright, htop, hbottom⟩⟩
            pixel hin
          · exact absurd (hsome.1.symm.trans hfull) Bool.false_ne_true
          · refine ⟨_, List.mem_cons_self, rect_has ⟨?_, ?_⟩ ⟨?_, ?_⟩ hin⟩
            · exact (Nat.min_le_left _ _).trans hleft
            · exact Nat.lt_min.mpr ⟨hright, hcolumn⟩
            · exact (Nat.min_le_left _ _).trans htop
            · exact Nat.lt_min.mpr ⟨hbottom, hrow⟩
      all_goals rfl

theorem invalid_requestPaint_all (requests : PaintRequests) (h : paint.RefreshesAll) :
    (requests.requestPaint paint).invalid = .all :: requests.invalid := by
  unfold PaintRequests.requestPaint
  dsimp only
  rcases h with hwhole | hclipped
  · rw [if_pos hwhole]
    rfl
  · split
    · rfl
    · rfl

/-- What is invalidated otherwise is the dirty region, and nothing of what only moves. -/
theorem invalid_requestPaint_rect (requests : PaintRequests) (h : ¬ paint.RefreshesAll) :
    (requests.requestPaint paint).invalid =
      .rect (min paint.dirty.left paint.info.columns * requests.cell.width)
        (min paint.dirty.top paint.info.rows * requests.cell.height)
        ((min paint.dirty.right paint.info.columns - min paint.dirty.left paint.info.columns) *
          requests.cell.width)
        ((min paint.dirty.bottom paint.info.rows - min paint.dirty.top paint.info.rows) *
          requests.cell.height) :: requests.invalid := by
  rw [PendingPaint.RefreshesAll, not_or] at h
  unfold PaintRequests.requestPaint
  dsimp only
  rw [if_neg h.1, if_neg h.2]
  rfl

/-- A cell with its first pixel in the rectangle of a region is in the region. -/
theorem rect_of_corner {cell : CellSize} {left top right bottom column row : Nat}
    (h : (Invalid.rect (left * cell.width) (top * cell.height) ((right - left) * cell.width)
      ((bottom - top) * cell.height)).Has (column * cell.width, row * cell.height)) :
    (left ≤ column ∧ column < right) ∧ top ≤ row ∧ row < bottom := by
  obtain ⟨⟨hx, hx'⟩, hy, hy'⟩ := h
  dsimp only at hx hx' hy hy'
  rw [← Nat.add_mul] at hx' hy'
  have hleft := Nat.le_of_mul_le_mul_right hx cell.width_pos
  have hright := Nat.lt_of_mul_lt_mul_right hx'
  have htop := Nat.le_of_mul_le_mul_right hy cell.height_pos
  have hbottom := Nat.lt_of_mul_lt_mul_right hy'
  omega

/-- In a valid window a paint that is asked for gets all that it draws, unless it moves a cell that
is in no area it invalidates. -/
theorem requestPaint_covers_iff (requests : PaintRequests) (hvalid : requests.invalid = [])
    (paint : PendingPaint) :
    (∀ column row, paint.Draws column row → (requests.requestPaint paint).Covered column row) ↔
      (paint.RefreshesAll ∨ ∀ column row, paint.Moves column row → paint.Redraws column row) := by
  by_cases hall : paint.RefreshesAll
  · refine iff_of_true (fun _ _ _ _ _ => ⟨.all, ?_, trivial⟩) (.inl hall)
    rw [invalid_requestPaint_all requests hall]
    exact List.mem_cons_self
  · constructor
    · intro hcovers
      refine .inr fun column row hmoves => ⟨hmoves.1, .inr ?_⟩
      have hcell : (requests.requestPaint paint).cell = requests.cell := by
        unfold PaintRequests.requestPaint
        dsimp only
        split
        · rfl
        · split <;> rfl
      have hcorner : (requests.requestPaint paint).cell.InCell column row
          (column * requests.cell.width, row * requests.cell.height) := by
        rw [hcell]
        refine ⟨⟨Nat.le_refl _, ?_⟩, Nat.le_refl _, ?_⟩
        · exact Nat.mul_lt_mul_of_pos_right (Nat.lt_succ_self _) requests.cell.width_pos
        · exact Nat.mul_lt_mul_of_pos_right (Nat.lt_succ_self _) requests.cell.height_pos
      obtain ⟨area, hmem, hhas⟩ := hcovers column row (.inr hmoves) _ hcorner
      rw [invalid_requestPaint_rect requests hall, hvalid, List.mem_singleton] at hmem
      rw [hmem] at hhas
      have hinside := rect_of_corner hhas
      obtain ⟨⟨hcolumn, hrow⟩, -⟩ := hmoves
      simp only [RegionCovers]
      omega
    · rintro (hwhole | hinside) column row hdraws
      · exact absurd hwhole hall
      · exact (asked_requestPaint requests paint).awaits.covers column row
          (hdraws.elim id (hinside column row))

namespace RequestsInvariant

/-- A frame that the control has taken and still holds beside the pending one. -/
structure Holds (requests : PaintRequests) (frame : Nat) : Prop where
  owned : requests.frames.OwnedBy (frame :: (requests.pending.map Prod.fst).toList)
  awaits : ∀ frame paint, requests.pending = some (frame, paint) → requests.Awaits paint
  counted : requests.refreshRequests =
    requests.fullRefreshRequests + requests.dirtyRefreshRequests
  ready : requests.ready = false → requests.pending = none
  alive : requests.alive = true

/-- A frame that is freed leaves what there was. -/
theorem Holds.freeFrame {frame : Nat} (h : Holds requests frame)
    (hrecorded : requests.recordedPaints = requests.paintEvents) :
    RequestsInvariant (requests.freeFrame frame) where
  owned := h.owned.release
  awaits held paint hpending := (h.awaits held paint hpending).mono rfl (List.Subset.refl _)
  counted := h.counted
  recorded := hrecorded
  ready := h.ready
  ended hended := absurd (h.alive.symm.trans hended) Bool.noConfusion

/-- The frame that was taken becomes the pending one, and the one before it is freed. -/
theorem Holds.keepFrame {frame : Nat} (h : Holds requests frame)
    (hrecorded : requests.recordedPaints = requests.paintEvents) (hready : requests.ready = true)
    (info : FrameInfo) :
    RequestsInvariant (requests.keepFrame frame info) := by
  have hkept : ∀ base : PaintRequests, base.frames.OwnedBy [frame] →
      base.refreshRequests = base.fullRefreshRequests + base.dirtyRefreshRequests →
      base.recordedPaints = base.paintEvents → base.ready = true → base.alive = true →
      ∀ paint, RequestsInvariant
        ({ base with pending := some (frame, paint) }.requestPaint paint) := by
    intro base howned hcounted hrecorded hready halive paint
    have hasked := asked_requestPaint { base with pending := some (frame, paint) } paint
    constructor
    case owned =>
      rw [hasked.frames, hasked.pending]
      exact howned
    case awaits =>
      intro held awaited hpending
      rw [hasked.pending] at hpending
      cases hpending
      exact hasked.awaits
    case counted => rw [hasked.counted, hasked.counts, hcounted]
    case recorded => rw [hasked.recorded, hasked.paints, hrecorded]
    case ready =>
      rw [hasked.ready]
      exact fun hnot => absurd (hready.symm.trans hnot) Bool.noConfusion
    case ended =>
      rw [hasked.alive]
      exact fun hended => absurd (halive.symm.trans hended) Bool.noConfusion
  have howned := h.owned
  unfold PaintRequests.keepFrame
  cases hpending : requests.pending with
  | none =>
    rw [hpending] at howned
    exact hkept requests howned h.counted hrecorded hready h.alive _
  | some old =>
    rw [hpending] at howned
    have hfreed := (howned.of_perm (List.Perm.swap ..)).release
    exact hkept (requests.freeFrame old.1) hfreed h.counted hrecorded hready h.alive _

theorem takeFrame (h : RequestsInvariant requests) (halive : requests.alive = true) {frame : Nat}
    (hfresh : requests.frames.Fresh [frame]) : Holds (requests.takeFrame frame) frame where
  owned := (h.owned.acquire hfresh).use List.mem_cons_self
  awaits held paint hpending := (h.awaits held paint hpending).mono rfl (List.Subset.refl _)
  counted := h.counted
  ready := h.ready
  alive := halive

/-- A changed frame is kept and asked for, and any other one is freed. -/
theorem requestFrameRefresh (h : RequestsInvariant requests) {taken : Option TakenFrame}
    (hpossible : requests.Possible (.requestFrameRefresh taken)) :
    RequestsInvariant (requests.requestFrameRefresh taken) := by
  cases taken with
  | none => exact h
  | some taken =>
    have hholds := h.takeFrame hpossible.alive (hpossible.fresh taken rfl)
    unfold PaintRequests.requestFrameRefresh
    dsimp only
    cases hinfo : taken.info with
    | none => exact hholds.freeFrame h.recorded
    | some info =>
      have hready : requests.ready = true := by
        rw [← Bool.not_eq_false]
        intro hnot
        have hnone := hpossible.ready hnot taken rfl
        rw [hinfo] at hnone
        contradiction
      dsimp only
      split
      · exact hholds.freeFrame h.recorded
      · exact hholds.keepFrame h.recorded hready info

theorem Holds.recordPaint {frame : Nat} (h : Holds requests frame) :
    Holds requests.recordPaint frame where
  owned := h.owned
  awaits held paint hpending := (h.awaits held paint hpending).mono rfl (List.Subset.refl _)
  counted := h.counted
  ready := h.ready
  alive := h.alive

theorem Holds.useFrame {frame : Nat} (h : Holds requests frame) :
    Holds (requests.useFrame frame) frame where
  owned := h.owned.use List.mem_cons_self
  awaits held paint hpending := (h.awaits held paint hpending).mono rfl (List.Subset.refl _)
  counted := h.counted
  ready := h.ready
  alive := h.alive

/-- The paint is recorded, and the frame is freed. -/
theorem Holds.paintFrame {frame : Nat} (h : Holds requests frame)
    (hrecorded : requests.recordedPaints + 1 = requests.paintEvents) (info : FrameInfo) :
    RequestsInvariant (requests.paintFrame frame info) := by
  unfold PaintRequests.paintFrame
  split
  · exact h.recordPaint.freeFrame hrecorded
  · exact h.recordPaint.useFrame.freeFrame hrecorded

/-- The pending frame is freed once it was painted; the areas are valid, and nothing waits any
longer. -/
theorem onPaint (h : RequestsInvariant requests) {taken : Option TakenFrame}
    (hpossible : requests.Possible (.onPaint taken)) :
    RequestsInvariant (requests.onPaint taken) := by
  have hrecorded : requests.recordedPaints + 1 = requests.paintEvents + 1 :=
    congrArg (· + 1) h.recorded
  unfold PaintRequests.onPaint
  generalize hpainted : ({ requests with
    paintEvents := requests.paintEvents + 1
    invalid := [] } : PaintRequests) = painted
  -- where nothing is pending, nothing is awaited
  have hidle : requests.pending = none → RequestsInvariant painted.recordPaint := by
    intro hnone
    subst hpainted
    refine ⟨h.owned, fun frame paint hpending => ?_, h.counted, hrecorded, h.ready, h.ended⟩
    exact absurd (hnone.symm.trans hpending) (Option.some_ne_none _).symm
  have hsame : painted.ready = requests.ready ∧ painted.pending = requests.pending := by
    subst hpainted
    exact ⟨rfl, rfl⟩
  dsimp only
  rw [hsame.1, hsame.2]
  cases hready : requests.ready with
  | false => exact hidle (h.ready hready)
  | true =>
    cases hpending : requests.pending with
    | some pending =>
      have howned := h.owned
      rw [hpending] at howned
      subst hpainted
      apply Holds.paintFrame _ hrecorded
      constructor
      case owned => exact howned
      case awaits => exact fun _ _ hnone => absurd hnone (Option.some_ne_none _).symm
      case counted => exact h.counted
      case ready => exact fun _ => rfl
      case alive => exact hpossible.alive
    | none =>
      cases taken with
      | none => exact hidle hpending
      | some taken =>
        have hholds : Holds (painted.takeFrame taken.frame) taken.frame := by
          have htakes := h.takeFrame hpossible.alive (hpossible.fresh taken rfl)
          subst hpainted
          constructor
          case owned => exact htakes.owned
          case awaits =>
            exact fun _ _ hsome =>
              absurd (hpending.symm.trans hsome) (Option.some_ne_none _).symm
          case counted => exact h.counted
          case ready => exact h.ready
          case alive => exact hpossible.alive
        have hrecords : (painted.takeFrame taken.frame).recordedPaints + 1 =
            (painted.takeFrame taken.frame).paintEvents := by
          subst hpainted
          exact hrecorded
        dsimp only
        cases taken.info with
        | none => exact hholds.recordPaint.freeFrame hrecords
        | some info => exact hholds.paintFrame hrecords info

/-- One event keeps the invariant. -/
theorem next (h : RequestsInvariant requests) {event : RequestEvent}
    (hpossible : requests.Possible event) : RequestsInvariant (requests.next event) := by
  cases event with
  | requestFrameRefresh taken => exact h.requestFrameRefresh hpossible
  | onPaint taken => exact h.onPaint hpossible
  | onSize cell =>
    constructor
    case owned => exact h.owned
    case awaits => exact fun _ _ _ => awaits_all List.mem_cons_self
    case counted =>
      change requests.refreshRequests + 1 =
        requests.fullRefreshRequests + 1 + requests.dirtyRefreshRequests
      rw [h.counted, Nat.add_right_comm]
    case recorded => exact h.recorded
    case ready => exact h.ready
    case ended => exact h.ended
  | animate | expose =>
    constructor
    case owned => exact h.owned
    case awaits =>
      intro frame paint hpending
      exact (h.awaits frame paint hpending).mono rfl (List.subset_cons_self _ _)
    case counted => exact h.counted
    case recorded => exact h.recorded
    case ready => exact h.ready
    case ended => exact h.ended
  | destroy =>
    change RequestsInvariant requests.destroy
    have howned := h.owned
    unfold PaintRequests.destroy
    cases hpending : requests.pending with
    | none =>
      rw [hpending] at howned
      refine ⟨howned, fun _ _ hsome => ?_, h.counted, h.recorded, fun _ => rfl, fun _ => rfl⟩
      exact absurd hsome (Option.some_ne_none _).symm
    | some pending =>
      rw [hpending] at howned
      refine ⟨howned.release, fun _ _ hnone => ?_, h.counted, h.recorded, fun _ => rfl,
        fun _ => rfl⟩
      exact absurd hnone (Option.some_ne_none _).symm

end RequestsInvariant

end invariant

/-! ## Results -/

/-- Frames are freed once, and a pending one is waiting for a paint event that covers what it draws
anew. -/
structure RequestsSound (requests : PaintRequests) : Prop where
  /-- No frame was used or freed that was not live. -/
  sound : requests.frames.misused = false
  /-- No frame is live and freed, or freed twice. -/
  once : (requests.frames.live ++ requests.frames.released).Nodup
  /-- Every frame that was taken is live or was freed. -/
  acquired : requests.frames.acquired.Perm (requests.frames.live ++ requests.frames.released)
  live : requests.frames.live = (requests.pending.map Prod.fst).toList
  awaits : ∀ frame paint, requests.pending = some (frame, paint) → requests.Awaits paint
  /-- Whatever the framebuffer shows, the update region has every cell that the paint of a frame
  changes, if the frame and those merged into it do not scroll. -/
  changes : ∀ frame paint, requests.pending = some (frame, paint) → paint.info.scrollDelta = 0 →
    ∀ {γ : Type} (background : γ) (picture : Picture γ) (cells : Frame γ) (column row : Nat),
      column < paint.info.columns → row < paint.info.rows →
      onPaint background picture (some (cells, paint)) (column, row) ≠ picture (column, row) →
      requests.Covered column row
  counted : requests.refreshRequests =
    requests.fullRefreshRequests + requests.dirtyRefreshRequests
  recorded : requests.recordedPaints = requests.paintEvents
  ended : requests.alive = false → requests.frames.live = []

def newRequests : PaintRequests := { cell := ⟨8, 16, by decide, by decide⟩ }

/-- Two cells were typed. -/
def typedRequest : RequestEvent :=
  .requestFrameRefresh (some
    { frame := 1
      info := some { changed := true, dirty := ⟨0, 0, 2, 1⟩, columns := 80, rows := 24 } })

/-- A line came in at the bottom of the screen. -/
def lineInfo : FrameInfo :=
  { changed := true, scrollDelta := 1, dirty := ⟨0, 23, 80, 24⟩, columns := 80, rows := 24 }

end SakuraTerminal.Wx
