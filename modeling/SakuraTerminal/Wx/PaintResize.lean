import SakuraTerminal.Core.UnchangedFrame
import SakuraTerminal.Wx.FrameMerge

/-!
# Painting after a resize

`WxTerminalCtrl` of `src/wx/terminal_ctrl.cpp` and `WxRenderer` of `src/wx/terminal_renderer.cpp`,
as far as sizes are concerned: the window, the geometry of the renderer, the core's screen, the
pending frame and the framebuffer bitmap. `OnSize` changes the first three. The bitmap follows in
`EnsureFramebuffer`, and the frame on it when it is painted.

`OnPaint` paints the pending frame, whatever its size, and paints nothing when there is none and the
core's frame is unchanged. So the bitmap and the frame on it follow the window exactly when neither
happens at the wrong time (`onPaint_follows_iff`).

Scroll animations are left out: they draw from the framebuffer, and never to it.
-/

set_option autoImplicit false

namespace SakuraTerminal.Wx

open SakuraTerminal.Core SakuraTerminal.Foundations

/-! ## The source -/

/-- The members of `WxRenderer::Impl` that the size of the window bears on. `picture` and `shown`
say what was painted, which the source has in the bitmap only. -/
structure WxRenderer where
  cellWidth : Int := 8
  cellHeight : Int := 16
  columns : Nat := 80
  rows : Nat := 24
  /-- The width and the height of the bitmap, if there is one. -/
  framebuffer : Option (Int × Int) := none
  framebufferValid : Bool := false
  /-- The cells on the bitmap. -/
  picture : Picture (Option CellView) := fun _ => none
  /-- The frame that was last rendered to the bitmap. -/
  shown : Option FrameInfo := none

/-- `UpdateGeometry`: the renderer afterwards, and whether columns or rows changed. `textExtent` is
the extent of an `M`. -/
def WxRenderer.updateGeometry (renderer : WxRenderer) (clientSize textExtent : Int × Int) :
    WxRenderer × Bool :=
  let cellWidth := max textExtent.1 1
  let cellHeight := max textExtent.2 1
  let columns := (max 1 (clientSize.1.tdiv cellWidth)).toNat
  let rows := (max 1 (clientSize.2.tdiv cellHeight)).toNat
  let renderer := { renderer with cellWidth := cellWidth, cellHeight := cellHeight }
  if columns = renderer.columns ∧ rows = renderer.rows then (renderer, false)
  else ({ renderer with columns := columns, rows := rows }, true)

/-- The size of a bitmap for the window. -/
def bitmapSize (clientSize : Int × Int) : Int × Int := (max 1 clientSize.1, max 1 clientSize.2)

/-- `EnsureFramebuffer`: a bitmap of another size is replaced, and the new one is not valid. -/
def WxRenderer.ensureFramebuffer (renderer : WxRenderer) (clientSize : Int × Int) : WxRenderer :=
  if renderer.framebuffer = some (bitmapSize clientSize) then renderer
  else
    { renderer with
      framebuffer := some (bitmapSize clientSize)
      framebufferValid := false
      picture := fun _ => none
      shown := none }

/-- `PaintFrame`. -/
def WxRenderer.paintFrame (renderer : WxRenderer) (clientSize : Int × Int)
    (frame : Frame (Option CellView)) (paint : PendingPaint) : WxRenderer :=
  let renderer := renderer.ensureFramebuffer clientSize
  let whole := !renderer.framebufferValid || paint.fullRepaint
  { renderer with
    framebufferValid := true
    picture := Wx.paintFrame none renderer.picture frame paint.info paint.dirty whole
    shown := if whole || paint.info.changed then some paint.info else renderer.shown }

/-- The control with its window and its core. The core comes with the run that led to it. -/
structure WxTerminalCtrl where
  /-- `GetClientSize`. -/
  clientSize : Int × Int := (0, 0)
  renderer : WxRenderer := {}
  pending : Option (Frame (Option CellView) × PendingPaint) := none
  core : TerminalRun

section source

variable (tsmUcs4ToUtf8 : Nat → List UInt8) (ctrl : WxTerminalCtrl)

/-- `UpdateGeometry` in a window of another size; `after` is what libtsm shows if it is resized. -/
def WxTerminalCtrl.updateGeometry (clientSize textExtent : Int × Int) (after : Screen) :
    WxTerminalCtrl :=
  let (renderer, changed) := ctrl.renderer.updateGeometry clientSize textExtent
  { ctrl with
    clientSize := clientSize
    renderer := renderer
    core := if changed then ctrl.core.next tsmUcs4ToUtf8 (.resize after) else ctrl.core }

/-- `OnSize`. -/
def WxTerminalCtrl.onSize (clientSize textExtent : Int × Int) (after : Screen) : WxTerminalCtrl :=
  ctrl.updateGeometry tsmUcs4ToUtf8 clientSize textExtent after

/-- The frame `sakura_terminal_take_frame` returns. -/
def WxTerminalCtrl.takenFrame (draw : Draw) : PackedFrame :=
  takePackedFrame tsmUcs4ToUtf8 ctrl.core.impl ctrl.core.screen draw

/-- `RequestFrameRefresh`, which keeps a changed frame and drops an unchanged one. -/
def WxTerminalCtrl.requestFrameRefresh (draw : Draw) : WxTerminalCtrl :=
  { ctrl with
    pending := Wx.requestFrameRefresh ctrl.pending (coreFrame (ctrl.takenFrame tsmUcs4ToUtf8 draw))
    core := ctrl.core.next tsmUcs4ToUtf8 (.takePackedFrame draw) }

/-- The end of `OnPaint`. An unchanged frame is not painted: `Draw` shows the framebuffer. -/
def WxTerminalCtrl.paintOrDraw (frame : Frame (Option CellView)) (paint : PendingPaint) :
    WxTerminalCtrl :=
  if !paint.info.changed then ctrl
  else { ctrl with renderer := ctrl.renderer.paintFrame ctrl.clientSize frame paint }

/-- `OnPaint`: the pending frame is painted, or else one that is taken now. -/
def WxTerminalCtrl.onPaint (draw : Draw) : WxTerminalCtrl :=
  match ctrl.pending with
  | some (frame, paint) => { ctrl with pending := none }.paintOrDraw frame paint
  | none =>
    let frame := coreFrame (ctrl.takenFrame tsmUcs4ToUtf8 draw)
    { ctrl with core := ctrl.core.next tsmUcs4ToUtf8 (.takePackedFrame draw) }.paintOrDraw frame
      ⟨frame.info, frame.info.dirty, frame.info.fullRepaint⟩

end source

/-! ## Runs -/

/-- The events of the control, and between them output, scrolling and input of the core. -/
inductive PaintEvent where
  | core (op : Op)
  | requestFrameRefresh (draw : Draw)
  | onSize (clientSize textExtent : Int × Int) (after : Screen)
  | onPaint (draw : Draw)

/-- The control handles an event. -/
def WxTerminalCtrl.next (tsmUcs4ToUtf8 : Nat → List UInt8) (ctrl : WxTerminalCtrl) :
    PaintEvent → WxTerminalCtrl
  | .core op => { ctrl with core := ctrl.core.next tsmUcs4ToUtf8 op }
  | .requestFrameRefresh draw => ctrl.requestFrameRefresh tsmUcs4ToUtf8 draw
  | .onSize clientSize textExtent after => ctrl.onSize tsmUcs4ToUtf8 clientSize textExtent after
  | .onPaint draw => ctrl.onPaint tsmUcs4ToUtf8 draw

/-- `sakura_terminal_resize` succeeds, if it is called. -/
def ResizeSucceeds (renderer : WxRenderer) (clientSize textExtent : Int × Int) (after : Screen) :
    Prop :=
  (renderer.updateGeometry clientSize textExtent).2 = true →
    after.width = (renderer.updateGeometry clientSize textExtent).1.columns ∧
      after.height = (renderer.updateGeometry clientSize textExtent).1.rows

/-- Resizes succeed. Nothing else changes the size of libtsm's screen, and only the control takes
frames. -/
def ResizesSucceed (tsmUcs4ToUtf8 : Nat → List UInt8) (ctrl : WxTerminalCtrl) : PaintEvent → Prop
  | .core op => (∀ draw, op ≠ .takePackedFrame draw) ∧
      (ctrl.core.next tsmUcs4ToUtf8 op).screen.width = ctrl.core.screen.width ∧
      (ctrl.core.next tsmUcs4ToUtf8 op).screen.height = ctrl.core.screen.height
  | .onSize clientSize textExtent after =>
    ResizeSucceeds ctrl.renderer clientSize textExtent after
  | .requestFrameRefresh _ | .onPaint _ => True

/-- The constructor: libtsm begins with 80 columns and 24 rows, and the geometry is updated. -/
def NewCtrl (tsmUcs4ToUtf8 : Nat → List UInt8) (ctrl : WxTerminalCtrl) : Prop :=
  ∃ screen clientSize textExtent after, screen.width = 80 ∧ screen.height = 24 ∧
    ResizeSucceeds {} clientSize textExtent after ∧
    ctrl = ({ core := newRun screen } : WxTerminalCtrl).updateGeometry tsmUcs4ToUtf8 clientSize
      textExtent after

/-- All orders of events, from a control that was just constructed. -/
def paintSystem (tsmUcs4ToUtf8 : Nat → List UInt8) :
    TransitionSystem WxTerminalCtrl PaintEvent where
  init := NewCtrl tsmUcs4ToUtf8
  step ctrl event ctrl' := ctrl' = ctrl.next tsmUcs4ToUtf8 event

/-! ## The property -/

/-- A frame has the columns and the rows of the renderer. -/
def FitsRenderer (info : FrameInfo) (renderer : WxRenderer) : Prop :=
  info.columns = renderer.columns ∧ info.rows = renderer.rows

/-- The bitmap has the size of the window, and shows a frame of the renderer's columns and rows. It
may be an older frame, as long as it has that size. -/
structure PaintFollows (ctrl : WxTerminalCtrl) : Prop where
  bitmap : ctrl.renderer.framebuffer = some (bitmapSize ctrl.clientSize)
  valid : ctrl.renderer.framebufferValid = true
  shown : ∃ info, ctrl.renderer.shown = some info ∧ FitsRenderer info ctrl.renderer

/-- The condition: a pending frame has the renderer's size, and without a pending frame the core's
is changed or the bitmap has the size of the window already. -/
structure PaintIsCurrent (tsmUcs4ToUtf8 : Nat → List UInt8) (ctrl : WxTerminalCtrl) (draw : Draw) :
    Prop where
  pending : ∀ frame paint, ctrl.pending = some (frame, paint) →
    FitsRenderer paint.info ctrl.renderer
  resized : ctrl.pending = none → (ctrl.takenFrame tsmUcs4ToUtf8 draw).changed = true ∨
    ctrl.renderer.framebuffer = some (bitmapSize ctrl.clientSize)

/-! ## The renderer -/

section renderer

variable {renderer : WxRenderer} {clientSize : Int × Int}

theorem WxRenderer.ensureFramebuffer_spec (renderer : WxRenderer) (clientSize : Int × Int) :
    (renderer.ensureFramebuffer clientSize).framebuffer = some (bitmapSize clientSize) ∧
      (renderer.ensureFramebuffer clientSize).columns = renderer.columns ∧
      (renderer.ensureFramebuffer clientSize).rows = renderer.rows := by
  unfold WxRenderer.ensureFramebuffer
  split
  · rename_i hsize
    exact ⟨hsize, rfl, rfl⟩
  · exact ⟨rfl, rfl, rfl⟩

/-- Painting a changed frame puts it on a bitmap of the window's size. -/
theorem WxRenderer.paintFrame_shown {frame : Frame (Option CellView)} {paint : PendingPaint}
    (hchanged : paint.info.changed = true) :
    (renderer.paintFrame clientSize frame paint).shown = some paint.info := by
  unfold WxRenderer.paintFrame
  dsimp only
  rw [hchanged, Bool.or_true, if_pos rfl]

/-- The geometry does not touch the framebuffer. -/
theorem WxRenderer.updateGeometry_shown (renderer : WxRenderer)
    (clientSize textExtent : Int × Int) :
    (renderer.updateGeometry clientSize textExtent).1.shown = renderer.shown ∧
      (renderer.updateGeometry clientSize textExtent).1.framebufferValid =
        renderer.framebufferValid := by
  unfold WxRenderer.updateGeometry
  dsimp only
  split <;> exact ⟨rfl, rfl⟩

/-- Without a change of columns or rows the geometry keeps both. -/
theorem WxRenderer.updateGeometry_same {textExtent : Int × Int}
    (h : (renderer.updateGeometry clientSize textExtent).2 = false) :
    (renderer.updateGeometry clientSize textExtent).1.columns = renderer.columns ∧
      (renderer.updateGeometry clientSize textExtent).1.rows = renderer.rows := by
  unfold WxRenderer.updateGeometry at h ⊢
  dsimp only at h ⊢
  split at h
  · rename_i hsame
    rw [if_pos hsame]
    exact ⟨rfl, rfl⟩
  · cases h

end renderer

/-! ## The invariant -/

/-- A frame has the size of the frame the core took last. -/
def LastSize (info : FrameInfo) (impl : Impl) : Prop :=
  info.columns = impl.packedLastColumns ∧ info.rows = impl.packedLastRows

/-- The core has the renderer's size. The frame it took last, or one of that size, is pending, or
else on the framebuffer. -/
structure CtrlInvariant (tsmUcs4ToUtf8 : Nat → List UInt8) (ctrl : WxTerminalCtrl) : Prop where
  core : (terminalSystem tsmUcs4ToUtf8).Reachable (fun _ _ => True) ctrl.core
  width : ctrl.core.screen.width = ctrl.renderer.columns
  height : ctrl.core.screen.height = ctrl.renderer.rows
  pending : ∀ frame paint, ctrl.pending = some (frame, paint) →
    paint.info.changed = true ∧ LastSize paint.info ctrl.core.impl
  shown : ctrl.pending = none → ctrl.core.taken ≠ [] → ctrl.renderer.framebufferValid = true ∧
    ∃ info, ctrl.renderer.shown = some info ∧ LastSize info ctrl.core.impl

section invariant

variable {tsmUcs4ToUtf8 : Nat → List UInt8} {core : TerminalRun} {ctrl : WxTerminalCtrl}

theorem reachable_next (hcore : (terminalSystem tsmUcs4ToUtf8).Reachable (fun _ _ => True) core)
    (op : Op) : (terminalSystem tsmUcs4ToUtf8).Reachable (fun _ _ => True)
      (core.next tsmUcs4ToUtf8 op) :=
  .step hcore trivial rfl

/-- An unchanged frame is not the first one, and has the size of the one before. -/
theorem size_of_unchanged
    (hcore : (terminalSystem tsmUcs4ToUtf8).Reachable (fun _ _ => True) core) {draw : Draw}
    (h : (takePackedFrame tsmUcs4ToUtf8 core.impl core.screen draw).changed = false) :
    core.taken ≠ [] ∧ core.screen.width = core.impl.packedLastColumns ∧
      core.screen.height = core.impl.packedLastRows := by
  have hfull := (takenChanged_false (cacheInvariant hcore).table h).1
  rw [drawFullRepaint, Bool.or_eq_false_iff] at hfull
  have hinitial := hfull.1
  rw [initialFullRepaint, Bool.or_eq_false_iff, Bool.or_eq_false_iff, Bool.or_eq_false_iff,
    decide_eq_false_iff_not, decide_eq_false_iff_not, not_not, not_not] at hinitial
  obtain ⟨hvalid, ⟨hwidth, hheight⟩, -⟩ := hinitial
  refine ⟨fun hnone => ?_, hwidth, hheight⟩
  have hnew := ((remembersTaken hcore).new hnone).1
  rw [hnew] at hvalid
  cases hvalid

/-- The frame just taken has the size of the screen, which the core remembers. -/
theorem lastSize_taken (core : TerminalRun) (draw : Draw) :
    LastSize (frameInfo (takePackedFrame tsmUcs4ToUtf8 core.impl core.screen draw))
      (core.next tsmUcs4ToUtf8 (.takePackedFrame draw)).impl :=
  ⟨rfl, rfl⟩

/-- An unchanged frame leaves the remembered size. -/
theorem LastSize.of_unchanged {info : FrameInfo} (h : LastSize info core.impl) {draw : Draw}
    (hcore : (terminalSystem tsmUcs4ToUtf8).Reachable (fun _ _ => True) core)
    (hunchanged : (takePackedFrame tsmUcs4ToUtf8 core.impl core.screen draw).changed = false) :
    LastSize info (core.next tsmUcs4ToUtf8 (.takePackedFrame draw)).impl := by
  obtain ⟨-, hwidth, hheight⟩ := size_of_unchanged hcore hunchanged
  exact ⟨h.1.trans hwidth.symm, h.2.trans hheight.symm⟩

theorem LastSize.quiet {info : FrameInfo} (h : LastSize info core.impl) {core' : TerminalRun}
    (hquiet : QuietStep core core') : LastSize info core'.impl :=
  ⟨h.1.trans hquiet.cache.columns.symm, h.2.trans hquiet.cache.rows.symm⟩

/-- Steps of the core that take no frame, with or without another geometry. -/
theorem CtrlInvariant.quiet (h : CtrlInvariant tsmUcs4ToUtf8 ctrl) {core' : TerminalRun}
    (hcore : (terminalSystem tsmUcs4ToUtf8).Reachable (fun _ _ => True) core')
    (hquiet : QuietStep ctrl.core core') {renderer : WxRenderer} (clientSize : Int × Int)
    (hshown : renderer.shown = ctrl.renderer.shown)
    (hvalid : renderer.framebufferValid = ctrl.renderer.framebufferValid)
    (hwidth : core'.screen.width = renderer.columns)
    (hheight : core'.screen.height = renderer.rows) :
    CtrlInvariant tsmUcs4ToUtf8
      { ctrl with clientSize := clientSize, renderer := renderer, core := core' } where
  core := hcore
  width := hwidth
  height := hheight
  pending := by
    intro frame paint hpending
    obtain ⟨hchanged, hsize⟩ := h.pending frame paint hpending
    exact ⟨hchanged, hsize.quiet hquiet⟩
  shown := by
    intro hpending htaken
    rw [hquiet.taken] at htaken
    obtain ⟨hvalid', info, hinfo, hsize⟩ := h.shown hpending htaken
    exact ⟨hvalid.trans hvalid', info, hshown.trans hinfo, hsize.quiet hquiet⟩

theorem CtrlInvariant.coreOp (h : CtrlInvariant tsmUcs4ToUtf8 ctrl) {op : Op}
    (hop : ResizesSucceed tsmUcs4ToUtf8 ctrl (.core op)) :
    CtrlInvariant tsmUcs4ToUtf8 (ctrl.next tsmUcs4ToUtf8 (.core op)) := by
  obtain ⟨htakes, hwidth, hheight⟩ := hop
  rcases next_cases tsmUcs4ToUtf8 ctrl.core op with ⟨draw, hdraw, -⟩ | hquiet
  · exact absurd hdraw (htakes draw)
  · apply h.quiet (reachable_next h.core op) hquiet ctrl.clientSize rfl rfl
    · exact hwidth.trans h.width
    · exact hheight.trans h.height

/-- A resize changes the geometry and the core together, and not the frames. -/
theorem CtrlInvariant.onSize (h : CtrlInvariant tsmUcs4ToUtf8 ctrl)
    {clientSize textExtent : Int × Int} {after : Screen}
    (hsucceeds : ResizeSucceeds ctrl.renderer clientSize textExtent after) :
    CtrlInvariant tsmUcs4ToUtf8 (ctrl.onSize tsmUcs4ToUtf8 clientSize textExtent after) := by
  obtain ⟨hshown, hvalid⟩ := ctrl.renderer.updateGeometry_shown clientSize textExtent
  unfold WxTerminalCtrl.onSize WxTerminalCtrl.updateGeometry
  dsimp only
  cases hchanged : (ctrl.renderer.updateGeometry clientSize textExtent).2 with
  | true =>
    obtain ⟨hwidth, hheight⟩ := hsucceeds hchanged
    rcases next_cases tsmUcs4ToUtf8 ctrl.core (.resize after) with ⟨draw, hdraw, -⟩ | hquiet
    · cases hdraw
    · exact h.quiet (reachable_next h.core _) hquiet clientSize hshown hvalid hwidth hheight
  | false =>
    obtain ⟨hcolumns, hrows⟩ := WxRenderer.updateGeometry_same hchanged
    have hstay : QuietStep ctrl.core ctrl.core :=
      ⟨.refl _, rfl, rfl, id, id, Or.inl⟩
    apply h.quiet h.core hstay clientSize hshown hvalid
    · exact h.width.trans hcolumns.symm
    · exact h.height.trans hrows.symm

/-- An unchanged frame is taken and dropped: the frame that is pending or shown has its size. -/
theorem CtrlInvariant.dropsUnchanged (h : CtrlInvariant tsmUcs4ToUtf8 ctrl) {draw : Draw}
    (hunchanged : (ctrl.takenFrame tsmUcs4ToUtf8 draw).changed = false) :
    CtrlInvariant tsmUcs4ToUtf8
      { ctrl with core := ctrl.core.next tsmUcs4ToUtf8 (.takePackedFrame draw) } where
  core := reachable_next h.core (.takePackedFrame draw)
  width := h.width
  height := h.height
  pending := by
    intro frame paint hpending
    obtain ⟨hchanged, hsize⟩ := h.pending frame paint hpending
    exact ⟨hchanged, hsize.of_unchanged h.core hunchanged⟩
  shown := by
    intro hpending _
    have htaken := (size_of_unchanged h.core hunchanged).1
    obtain ⟨hvalid, info, hinfo, hsize⟩ := h.shown hpending htaken
    exact ⟨hvalid, info, hinfo, hsize.of_unchanged h.core hunchanged⟩

/-- Merging keeps the size of the newest frame. -/
theorem mergePending_size (pending : Option PendingPaint) (info : FrameInfo) :
    (mergePending pending info).info.changed = info.changed ∧
      (mergePending pending info).info.columns = info.columns ∧
      (mergePending pending info).info.rows = info.rows := by
  cases pending <;> exact ⟨rfl, rfl, rfl⟩

/-- A frame that is taken has the size of the screen; a changed one is pending from here on. -/
theorem CtrlInvariant.requestFrameRefresh (h : CtrlInvariant tsmUcs4ToUtf8 ctrl) (draw : Draw) :
    CtrlInvariant tsmUcs4ToUtf8 (ctrl.requestFrameRefresh tsmUcs4ToUtf8 draw) := by
  cases hchanged : (ctrl.takenFrame tsmUcs4ToUtf8 draw).changed with
  | true =>
    have hpending : (ctrl.requestFrameRefresh tsmUcs4ToUtf8 draw).pending =
        some (coreFrame (ctrl.takenFrame tsmUcs4ToUtf8 draw),
          mergePending (ctrl.pending.map Prod.snd)
            (frameInfo (ctrl.takenFrame tsmUcs4ToUtf8 draw))) := if_pos hchanged
    refine ⟨reachable_next h.core (.takePackedFrame draw), h.width, h.height, ?_, ?_⟩
    · intro frame paint hsome
      obtain ⟨-, rfl⟩ := Prod.mk.inj (Option.some.inj (hpending.symm.trans hsome))
      obtain ⟨hmerged, hcolumns, hrows⟩ := mergePending_size (ctrl.pending.map Prod.snd)
        (frameInfo (ctrl.takenFrame tsmUcs4ToUtf8 draw))
      obtain ⟨hlastColumns, hlastRows⟩ :
        LastSize (frameInfo (ctrl.takenFrame tsmUcs4ToUtf8 draw)) _ := lastSize_taken ctrl.core draw
      exact ⟨hmerged.trans hchanged, hcolumns.trans hlastColumns, hrows.trans hlastRows⟩
    · intro hnone
      cases hpending.symm.trans hnone
  | false =>
    have hpending : Wx.requestFrameRefresh ctrl.pending
        (coreFrame (ctrl.takenFrame tsmUcs4ToUtf8 draw)) = ctrl.pending :=
      if_neg (by rw [Bool.not_eq_true]; exact hchanged)
    unfold WxTerminalCtrl.requestFrameRefresh
    rw [hpending]
    exact h.dropsUnchanged hchanged

/-- The three exits of `OnPaint`: it paints the pending frame, paints the frame it takes, or draws
the framebuffer as it is. -/
theorem CtrlInvariant.onPaint_cases (h : CtrlInvariant tsmUcs4ToUtf8 ctrl) (draw : Draw) :
    (∃ frame paint, ctrl.pending = some (frame, paint) ∧ paint.info.changed = true ∧
      ctrl.onPaint tsmUcs4ToUtf8 draw =
        { ctrl with
          pending := none
          renderer := ctrl.renderer.paintFrame ctrl.clientSize frame paint }) ∨
    (ctrl.pending = none ∧ (ctrl.takenFrame tsmUcs4ToUtf8 draw).changed = true ∧
      ∃ frame paint, paint.info = frameInfo (ctrl.takenFrame tsmUcs4ToUtf8 draw) ∧
        ctrl.onPaint tsmUcs4ToUtf8 draw =
          { ctrl with
            core := ctrl.core.next tsmUcs4ToUtf8 (.takePackedFrame draw)
            renderer := ctrl.renderer.paintFrame ctrl.clientSize frame paint }) ∨
    (ctrl.pending = none ∧ (ctrl.takenFrame tsmUcs4ToUtf8 draw).changed = false ∧
      ctrl.onPaint tsmUcs4ToUtf8 draw =
        { ctrl with core := ctrl.core.next tsmUcs4ToUtf8 (.takePackedFrame draw) }) := by
  unfold WxTerminalCtrl.onPaint
  cases hpending : ctrl.pending with
  | some pending =>
    obtain ⟨frame, paint⟩ := pending
    have hchanged := (h.pending frame paint hpending).1
    refine Or.inl ⟨frame, paint, rfl, hchanged, ?_⟩
    dsimp only [WxTerminalCtrl.paintOrDraw]
    rw [hchanged, Bool.not_true, if_neg Bool.false_ne_true]
  | none =>
    dsimp only [WxTerminalCtrl.paintOrDraw]
    cases hchanged : (ctrl.takenFrame tsmUcs4ToUtf8 draw).changed with
    | true =>
      refine Or.inr (Or.inl ⟨rfl, rfl, _, _, ?_, if_neg ?_⟩)
      · rfl
      · change ¬ (!(ctrl.takenFrame tsmUcs4ToUtf8 draw).changed) = true
        rw [hchanged]
        exact Bool.false_ne_true
    | false =>
      refine Or.inr (Or.inr ⟨rfl, rfl, if_pos ?_⟩)
      change (!(ctrl.takenFrame tsmUcs4ToUtf8 draw).changed) = true
      rw [hchanged]
      rfl

/-- A changed frame of the last size was painted, and none is pending. -/
theorem ctrlInvariant_painted
    (hcore : (terminalSystem tsmUcs4ToUtf8).Reachable (fun _ _ => True) core)
    {renderer : WxRenderer} (hwidth : core.screen.width = renderer.columns)
    (hheight : core.screen.height = renderer.rows) (clientSize : Int × Int)
    (frame : Frame (Option CellView)) {paint : PendingPaint} (hchanged : paint.info.changed = true)
    (hsize : LastSize paint.info core.impl) :
    CtrlInvariant tsmUcs4ToUtf8
      { clientSize := clientSize
        renderer := renderer.paintFrame clientSize frame paint
        pending := none
        core := core } := by
  obtain ⟨-, hcolumns, hrows⟩ := renderer.ensureFramebuffer_spec clientSize
  refine ⟨hcore, hwidth.trans hcolumns.symm, hheight.trans hrows.symm, ?_, fun _ _ => ?_⟩
  · intro _ _ hsome
    cases hsome
  · exact ⟨rfl, paint.info, WxRenderer.paintFrame_shown hchanged, hsize⟩

/-- One case for each exit of `OnPaint`. -/
theorem CtrlInvariant.onPaint (h : CtrlInvariant tsmUcs4ToUtf8 ctrl) (draw : Draw) :
    CtrlInvariant tsmUcs4ToUtf8 (ctrl.onPaint tsmUcs4ToUtf8 draw) := by
  rcases h.onPaint_cases draw with ⟨frame, paint, hpending, hchanged, hpaint⟩ |
    ⟨hpending, hchanged, frame, paint, hinfo, hpaint⟩ | ⟨hpending, hchanged, hpaint⟩
  · rw [hpaint]
    exact ctrlInvariant_painted h.core h.width h.height ctrl.clientSize frame hchanged
      (h.pending frame paint hpending).2
  · rw [hpaint, hpending]
    apply ctrlInvariant_painted (reachable_next h.core (.takePackedFrame draw)) h.width h.height
      ctrl.clientSize frame
    · rw [hinfo]
      exact hchanged
    · rw [hinfo]
      exact lastSize_taken ctrl.core draw
  · rw [hpaint]
    exact h.dropsUnchanged hchanged

theorem ctrlInvariant_new (h : NewCtrl tsmUcs4ToUtf8 ctrl) : CtrlInvariant tsmUcs4ToUtf8 ctrl := by
  obtain ⟨screen, clientSize, textExtent, after, hwidth, hheight, hsucceeds, rfl⟩ := h
  have hcreated : CtrlInvariant tsmUcs4ToUtf8 { core := newRun screen } := by
    refine ⟨.init ⟨screen, rfl⟩, hwidth, hheight, ?_, ?_⟩
    · intro _ _ hsome
      cases hsome
    · exact fun _ htaken => absurd rfl htaken
  exact hcreated.onSize hsucceeds

theorem ctrlInvariant
    (h : (paintSystem tsmUcs4ToUtf8).Reachable (ResizesSucceed tsmUcs4ToUtf8) ctrl) :
    CtrlInvariant tsmUcs4ToUtf8 ctrl := by
  apply h.invariant
  · exact fun _ hnew => ctrlInvariant_new hnew
  · rintro ctrl event _ - hctrl hsucceeds rfl
    cases event with
    | core op => exact hctrl.coreOp hsucceeds
    | requestFrameRefresh draw => exact hctrl.requestFrameRefresh draw
    | onSize clientSize textExtent after => exact hctrl.onSize hsucceeds
    | onPaint draw => exact hctrl.onPaint draw

end invariant

/-- Nothing is pending after `OnPaint`. -/
theorem WxTerminalCtrl.onPaint_pending (tsmUcs4ToUtf8 : Nat → List UInt8) (ctrl : WxTerminalCtrl)
    (draw : Draw) : (ctrl.onPaint tsmUcs4ToUtf8 draw).pending = none := by
  unfold WxTerminalCtrl.onPaint
  cases ctrl.pending with
  | some pending =>
    dsimp only [WxTerminalCtrl.paintOrDraw]
    split <;> rfl
  | none =>
    dsimp only [WxTerminalCtrl.paintOrDraw]
    split <;> rfl

/-! ## When painting follows -/

section property

variable {tsmUcs4ToUtf8 : Nat → List UInt8} {ctrl : WxTerminalCtrl}

/-- After a frame was painted, only its size is in question. -/
theorem paintFollows_painted (ctrl : WxTerminalCtrl) (frame : Frame (Option CellView))
    {paint : PendingPaint} (hchanged : paint.info.changed = true)
    (pending : Option (Frame (Option CellView) × PendingPaint)) (core : TerminalRun) :
    PaintFollows
      { ctrl with
        pending := pending
        core := core
        renderer := ctrl.renderer.paintFrame ctrl.clientSize frame paint } ↔
      FitsRenderer paint.info ctrl.renderer := by
  obtain ⟨hsize, hcolumns, hrows⟩ := ctrl.renderer.ensureFramebuffer_spec ctrl.clientSize
  have hshown : (ctrl.renderer.paintFrame ctrl.clientSize frame paint).shown = some paint.info :=
    WxRenderer.paintFrame_shown hchanged
  constructor
  · rintro ⟨-, -, info, hinfo, hfits⟩
    obtain rfl := Option.some.inj (hshown.symm.trans hinfo)
    exact ⟨hfits.1.trans hcolumns, hfits.2.trans hrows⟩
  · rintro ⟨hinfoColumns, hinfoRows⟩
    refine ⟨hsize, rfl, paint.info, hshown, ?_⟩
    exact ⟨hinfoColumns.trans hcolumns.symm, hinfoRows.trans hrows.symm⟩

/-- In every run, `OnPaint` leaves a bitmap of the window's size with a frame of the renderer's size
exactly when the condition holds. -/
theorem onPaint_follows_iff
    (h : (paintSystem tsmUcs4ToUtf8).Reachable (ResizesSucceed tsmUcs4ToUtf8) ctrl) (draw : Draw) :
    PaintFollows (ctrl.onPaint tsmUcs4ToUtf8 draw) ↔ PaintIsCurrent tsmUcs4ToUtf8 ctrl draw := by
  have hctrl := ctrlInvariant h
  rcases hctrl.onPaint_cases draw with ⟨frame, paint, hpending, hchanged, hpaint⟩ |
    ⟨hpending, hchanged, frame, paint, hinfo, hpaint⟩ | ⟨hpending, hchanged, hpaint⟩
  · -- the pending frame decides
    rw [hpaint, paintFollows_painted ctrl frame hchanged none ctrl.core]
    constructor
    · intro hfits
      refine ⟨fun frame' paint' hsome => ?_, fun hnone => ?_⟩
      · obtain ⟨-, rfl⟩ := Prod.mk.inj (Option.some.inj (hpending.symm.trans hsome))
        exact hfits
      · cases hpending.symm.trans hnone
    · exact fun hcurrent => hcurrent.pending frame paint hpending
  · -- a frame just taken has the core's size, and so the renderer's
    have hpaintChanged : paint.info.changed = true := by rw [hinfo]; exact hchanged
    rw [hpaint, paintFollows_painted ctrl frame hpaintChanged ctrl.pending]
    constructor
    · refine fun _ => ⟨fun frame' paint' hsome => ?_, fun _ => Or.inl hchanged⟩
      cases hpending.symm.trans hsome
    · intro _
      rw [hinfo]
      exact ⟨hctrl.width, hctrl.height⟩
  · -- the framebuffer stays, and only its size is in question
    obtain ⟨htaken, hwidth, hheight⟩ := size_of_unchanged hctrl.core hchanged
    obtain ⟨hvalid, info, hinfo, hcolumns, hrows⟩ := hctrl.shown hpending htaken
    rw [hpaint]
    constructor
    · intro hfollows
      refine ⟨fun frame' paint' hsome => ?_, fun _ => Or.inr hfollows.bitmap⟩
      cases hpending.symm.trans hsome
    · intro hcurrent
      rcases hcurrent.resized hpending with htakenChanged | hsize
      · cases hchanged.symm.trans htakenChanged
      · refine ⟨hsize, hvalid, info, hinfo, ?_, ?_⟩
        · exact hcolumns.trans (hwidth.symm.trans hctrl.width)
        · exact hrows.trans (hheight.symm.trans hctrl.height)

end property

theorem WxTerminalCtrl.reachable_next {tsmUcs4ToUtf8 : Nat → List UInt8}
    {allowed : WxTerminalCtrl → PaintEvent → Prop} {ctrl : WxTerminalCtrl}
    (h : (paintSystem tsmUcs4ToUtf8).Reachable allowed ctrl) (event : PaintEvent)
    (hallowed : allowed ctrl event) :
    (paintSystem tsmUcs4ToUtf8).Reachable allowed (ctrl.next tsmUcs4ToUtf8 event) :=
  .step h hallowed rfl

/-- The screen libtsm begins with. -/
def startScreen : Screen where
  width := 80
  height := 24
  widthPos := by decide
  widthLt := by decide
  heightPos := by decide
  cell := fun _ _ => {}
  rowId := fun row => row

/-- A new control in a window of one cell of 8 by 16 pixels. -/
def oneCellCtrl : WxTerminalCtrl :=
  ({ core := newRun startScreen } : WxTerminalCtrl).updateGeometry ucs4ToUtf8 (8, 16) (8, 16)
    (oneCellScreen 0)

/-- A report of the cell of `oneCellScreen`. -/
def oneCellDraw : Draw := ⟨[⟨{}, 0, 0, 1⟩], 1⟩

theorem newCtrl_oneCell : NewCtrl ucs4ToUtf8 oneCellCtrl :=
  ⟨startScreen, (8, 16), (8, 16), oneCellScreen 0, rfl, rfl, fun _ => ⟨by decide, by decide⟩, rfl⟩

/-- The window grows by a row, and nothing is pending. -/
def grownCtrl (ctrl : WxTerminalCtrl) : WxTerminalCtrl :=
  ctrl.next ucs4ToUtf8 (.onSize (8, 32) (8, 16) (linesScreen 0 0))

/-- The window grows by one pixel. -/
def widenedCtrl (ctrl : WxTerminalCtrl) : WxTerminalCtrl :=
  ctrl.next ucs4ToUtf8 (.onSize (9, 16) (8, 16) (oneCellScreen 0))

theorem onPaint_follows_iff_grown : PaintFollows ((grownCtrl (oneCellCtrl.next ucs4ToUtf8
    (.onPaint oneCellDraw))).onPaint ucs4ToUtf8 (linesDraw 0 2)) := by
  refine (onPaint_follows_iff ?_ (linesDraw 0 2)).2 ⟨?_, fun _ => Or.inl (by decide)⟩
  · apply WxTerminalCtrl.reachable_next
    · exact WxTerminalCtrl.reachable_next (.init newCtrl_oneCell) _ trivial
    · exact fun _ => ⟨by decide, by decide⟩
  · intro frame paint hsome
    cases (oneCellCtrl.onPaint_pending ucs4ToUtf8 oneCellDraw).symm.trans hsome

/-- After one more pixel the bitmap keeps its size. After a resize with a pending frame that frame
is shown. -/
theorem not_onPaint_follows :
    (¬ ∀ ctrl, (paintSystem ucs4ToUtf8).Reachable (ResizesSucceed ucs4ToUtf8) ctrl → ∀ draw,
      (ctrl.onPaint ucs4ToUtf8 draw).renderer.framebuffer =
        some (bitmapSize (ctrl.onPaint ucs4ToUtf8 draw).clientSize)) ∧
    ¬ ∀ ctrl, (paintSystem ucs4ToUtf8).Reachable (ResizesSucceed ucs4ToUtf8) ctrl → ∀ draw,
      ∃ info, (ctrl.onPaint ucs4ToUtf8 draw).renderer.shown = some info ∧
        FitsRenderer info (ctrl.onPaint ucs4ToUtf8 draw).renderer := by
  constructor
  · intro h
    have hreach : (paintSystem ucs4ToUtf8).Reachable (ResizesSucceed ucs4ToUtf8)
        (widenedCtrl (oneCellCtrl.next ucs4ToUtf8 (.onPaint oneCellDraw))) := by
      apply WxTerminalCtrl.reachable_next
      · exact WxTerminalCtrl.reachable_next (.init newCtrl_oneCell) _ trivial
      · exact fun _ => ⟨by decide, by decide⟩
    exact absurd (h _ hreach ⟨[], 1⟩) (by decide)
  · intro h
    have hreach : (paintSystem ucs4ToUtf8).Reachable (ResizesSucceed ucs4ToUtf8)
        (grownCtrl (oneCellCtrl.next ucs4ToUtf8 (.requestFrameRefresh oneCellDraw))) := by
      apply WxTerminalCtrl.reachable_next
      · exact WxTerminalCtrl.reachable_next (.init newCtrl_oneCell) _ trivial
      · exact fun _ => ⟨by decide, by decide⟩
    obtain ⟨info, hinfo, -, hrows⟩ := h _ hreach ⟨[], 1⟩
    have hshown : ((grownCtrl (oneCellCtrl.next ucs4ToUtf8 (.requestFrameRefresh
        oneCellDraw))).onPaint ucs4ToUtf8 ⟨[], 1⟩).renderer.shown.map FrameInfo.rows = some 1 := by
      decide
    rw [hinfo, Option.map_some, hrows] at hshown
    exact absurd hshown (by decide)

end SakuraTerminal.Wx
