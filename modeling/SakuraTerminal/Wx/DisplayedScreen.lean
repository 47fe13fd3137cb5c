import SakuraTerminal.Core.FullDecode
import SakuraTerminal.Wx.PaintFrame
import SakuraTerminal.Wx.PaintResize

/-!
# What the framebuffer displays

The core, the pending frame and the framebuffer together. A frame is made from the cells that
changed, frames that wait are merged, and the framebuffer is scrolled and patched. Still, whenever
no frame is pending, every cell of the framebuffer shows the cell that libtsm's screen had when the
last frame was taken: its background, its underline and the glyphs of a run in which it stands there
(`framebuffer_showsScreen`).

There are two layers. `Display` is the control with a picture of cell views for a framebuffer. The
frames that wait are kept apart from the source's state, oldest first. They are a chain of deltas
from the picture on, and its last picture shows the frame that was taken last (`DisplayInvariant`).
`PaintedDisplay` adds the bitmap as `RenderFrame` draws it, and every paint of it refines the one of
the picture (`PaintedInvariant`).

Three things are assumed of a run: what frames need to be full decodes, that only safe merges are
painted, and that no bitmap of a partial repaint takes strokes away beyond the rectangle. The last
two are defects of the source that show up otherwise. The cursor is drawn over cells and is not part
of the result.
-/

set_option autoImplicit false

namespace SakuraTerminal.Wx

open SakuraTerminal.Core SakuraTerminal.Foundations
open SakuraTerminal.Foundations.TransitionSystem

/-! ## The control with the frames that wait -/

/-- The control, with the frames that its pending frame stands for. The list is a history variable;
`RequestFrameRefresh` keeps the merged information only. -/
structure Display where
  ctrl : WxTerminalCtrl
  /-- The changed frames that were taken since the last paint, oldest first. -/
  unpainted : List (Frame (Option CellView)) := []

/-- One event, and what it does to the list. -/
def Display.next (tsmUcs4ToUtf8 : Nat → List UInt8) (display : Display) (event : PaintEvent) :
    Display where
  ctrl := display.ctrl.next tsmUcs4ToUtf8 event
  unpainted :=
    match event with
    | .requestFrameRefresh draw =>
      let frame := coreFrame (display.ctrl.takenFrame tsmUcs4ToUtf8 draw)
      if frame.info.changed then display.unpainted ++ [frame] else display.unpainted
    | .onPaint _ => []
    | .core _ | .onSize _ _ _ => display.unpainted

/-- The constructor; the lines of libtsm's screen have different ids. -/
def NewDisplay (tsmUcs4ToUtf8 : Nat → List UInt8) (display : Display) : Prop :=
  ∃ screen clientSize textExtent after, screen.width = 80 ∧ screen.height = 24 ∧
    screen.rowIds.Nodup ∧
    display = ⟨({ core := newRun screen } : WxTerminalCtrl).updateGeometry tsmUcs4ToUtf8 clientSize
      textExtent after, []⟩

/-- What is assumed of a step: every call of the core is one under which frames are full decodes,
and frames are taken by the control only; the cells of the picture keep their size; and the frames
that were merged when one is painted can be painted as one. -/
def DisplayAllowed (tsmUcs4ToUtf8 : Nat → List UInt8) (styles : Finset PackedStyle)
    (display : Display) : PaintEvent → Prop
  | .core op => (∀ draw, op ≠ .takePackedFrame draw) ∧
      DecodeAllowed tsmUcs4ToUtf8 styles display.ctrl.core op
  | .onSize _ textExtent after =>
    (max textExtent.1 1 = display.ctrl.renderer.cellWidth ∧
      max textExtent.2 1 = display.ctrl.renderer.cellHeight) ∧
      DecodeAllowed tsmUcs4ToUtf8 styles display.ctrl.core (.resize after)
  | .requestFrameRefresh draw =>
    DecodeAllowed tsmUcs4ToUtf8 styles display.ctrl.core (.takePackedFrame draw)
  | .onPaint draw =>
    (display.ctrl.pending = none →
      DecodeAllowed tsmUcs4ToUtf8 styles display.ctrl.core (.takePackedFrame draw)) ∧
      MergeSafe (display.unpainted.map Frame.info)

/-- A picture shows the cells of a frame. A position beyond the frame may show anything. -/
def ShowsFrame (picture : Picture (Option CellView)) (frame : PackedFrame) : Prop :=
  ∀ column < frame.columns, ∀ row < frame.rows,
    picture (column, row) = frameCell frame column row

/-- The last picture of a sequence of frames that begins with a picture. -/
def lastPicture {γ : Type} : Picture γ → List (Frame γ) → Picture γ
  | picture, [] => picture
  | _, frame :: frames => lastPicture frame.cell frames

/-! ## Frames that are right -/

section right

variable {γ : Type} {background : γ} {picture picture' : Picture γ} {frame : Frame γ}

theorem lastPicture_concat (frames : List (Frame γ)) (frame : Frame γ) (picture : Picture γ) :
    lastPicture picture (frames ++ [frame]) = frame.cell := by
  induction frames generalizing picture with
  | nil => rfl
  | cons first frames ih => exact ih first.cell

theorem framesRight_concat {frames : List (Frame γ)} (h : FramesRight background picture frames)
    (hframe : PaintsRight background (lastPicture picture frames) frame) :
    FramesRight background picture (frames ++ [frame]) := by
  induction frames generalizing picture with
  | nil => exact ⟨hframe, trivial⟩
  | cons first frames ih => exact ⟨h.1, ih h.2 hframe⟩

/-- A full repaint shows the frame, whatever was painted before. -/
theorem paintFrame_full (picture : Picture γ) {info : FrameInfo} (hchanged : info.changed = true)
    (dirty : DirtyRegion) {column row : Nat} (hcolumn : column < info.columns)
    (hrow : row < info.rows) :
    paintFrame background picture frame info dirty true (column, row) =
      frame.cell (column, row) := by
  rw [paintFrame_eq_apply background picture frame hchanged dirty true hcolumn hrow, Patch.apply]
  have hpatch : paintPatch info dirty true (column, row) = none :=
    if_neg fun h => Bool.noConfusion h.2.2.1
  rw [hpatch]

/-- Only the cells of the grid matter for a paint. -/
theorem PaintsRight.of_agree (h : PaintsRight background picture frame)
    (hchanged : frame.info.changed = true)
    (hagree : frame.info.fullRepaint = false → ∀ column < frame.info.columns,
      ∀ row < frame.info.rows, picture' (column, row) = picture (column, row)) :
    PaintsRight background picture' frame := by
  intro column hcolumn row hrow
  cases hfull : frame.info.fullRepaint with
  | true => exact paintFrame_full picture' hchanged _ hcolumn hrow
  | false =>
    have hright := h column hcolumn row hrow
    rw [hfull, paintFrame_eq_apply background _ frame hchanged _ _ hcolumn hrow] at hright
    rw [paintFrame_eq_apply background _ frame hchanged _ _ hcolumn hrow, ← hright]
    simp only [Patch.apply]
    cases hpatch : paintPatch frame.info frame.info.dirty false (column, row) with
    | none => rfl
    | some source =>
      -- the source of a copied cell is in the grid too
      rw [paintPatch] at hpatch
      split at hpatch
      · cases hpatch
        apply hagree hfull column hcolumn
        rw [scrollSource]
        split
        · exact hrow
        · split <;> split <;> omega
      · contradiction

/-- Frames that can be painted as one are. -/
theorem mergeLosesNothing_of_safe {frames : List (Frame γ)}
    (hchanged : ∀ frame ∈ frames, IsChanged frame.info)
    (hright : FramesRight background picture frames)
    (hsafe : MergeSafe (frames.map Frame.info)) : MergeLosesNothing background picture frames := by
  cases hlast : frames.getLast? with
  | none =>
    rw [List.getLast?_eq_none_iff] at hlast
    subst hlast
    intro newest hnewest
    contradiction
  | some newest =>
    have hne : frames.map Frame.info ≠ [] := by
      intro hnil
      rw [List.map_eq_nil_iff.mp hnil] at hlast
      contradiction
    have hinfos : ∀ info ∈ frames.map Frame.info, IsChanged info := by
      intro info hinfo
      obtain ⟨frame, hframe, rfl⟩ := List.mem_map.mp hinfo
      exact hchanged frame hframe
    have hnewest : (frames.map Frame.info).getLast? = some newest.info := by
      rw [List.getLast?_map, hlast]
      rfl
    obtain ⟨paint, hpaint, hspec⟩ := mergedSpec_mergeAll hne hinfos
    rw [mergeLosesNothing_iff_sound hchanged hpaint hspec, Patch.sound_iff]
    intro position source hsource
    -- what the merged paint copies was copied by each of the frames
    have htrace := (mergeSafe_iff_trace hnewest hspec).mpr hsafe position source hsource
    have hchain := (framesRight_iff background hchanged).mp hright
    rw [← hchain.last_eq (j := source) ?_]
    rw [List.map_map] at htrace ⊢
    exact htrace

end right

/-! ## A frame that is taken -/

section take

variable {tsmUcs4ToUtf8 : Nat → List UInt8} {styles : Finset PackedStyle} {run : TerminalRun}

/-- Frames that are full decodes are deltas, too. -/
theorem deltaAllowed_of_decodeAllowed (hcard : styles.card < styleLimit)
    (hreach : (terminalSystem tsmUcs4ToUtf8).Reachable (DecodeAllowed tsmUcs4ToUtf8 styles) run)
    {op : Op} (hallowed : DecodeAllowed tsmUcs4ToUtf8 styles run op) :
    DeltaAllowed tsmUcs4ToUtf8 run op := by
  cases op with
  | takePackedFrame draw =>
    obtain ⟨⟨-, hcontract, -⟩, hjust, hbytes⟩ := hallowed
    have hframes := decodedFrame_of_reachable hcard hreach
    -- the cache is empty, or the grid of the last frame
    have hgrid : GridReachable tsmUcs4ToUtf8 (cachedGrid run.impl) := by
      have hremembers := remembersTaken hreach
      cases htaken : run.taken with
      | nil =>
        rw [cachedGrid, (hremembers.new htaken).2]
        exact .empty
      | cons last older =>
        rw [(hremembers.lastTaken htaken).grid]
        apply (hframes last _).reachable
        rw [htaken]
        exact List.mem_cons_self
    have htexts := GridShowsText.takenGrid hreach hcontract hjust hbytes hgrid fun taken htaken =>
      (hframes taken htaken).texts
    exact ⟨⟨hcontract.fit, fun hmoved => hcontract.all (.inr (.inr hmoved))⟩, htexts.1⟩
  | feedOutput | scrollLines | scrollPageUp | scrollPageDown | resize | input =>
    exact ⟨trivial, trivial⟩

/-- A changed frame is right on any picture that shows the frame before it, and the first frame on
any picture at all. An unchanged frame is shown by the picture already, and has the size of the
frame before. -/
theorem takenFrame_right (hcard : styles.card < styleLimit)
    (hreach : (terminalSystem tsmUcs4ToUtf8).Reachable (DecodeAllowed tsmUcs4ToUtf8 styles) run)
    {draw : Draw} (hallowed : DecodeAllowed tsmUcs4ToUtf8 styles run (.takePackedFrame draw))
    {picture : Picture (Option CellView)}
    (hshows : ∀ taken ∈ run.taken.head?, ShowsFrame picture taken.2) {frame : PackedFrame}
    (hframe : frame = takePackedFrame tsmUcs4ToUtf8 run.impl run.screen draw) :
    (frame.changed = true → PaintsRight none picture (coreFrame frame)) ∧
      (frame.changed = false → ShowsFrame picture frame ∧ ∀ taken ∈ run.taken.head?,
        taken.2.columns = frame.columns ∧ taken.2.rows = frame.rows) := by
  have hdelta : (terminalSystem tsmUcs4ToUtf8).Reachable (DeltaAllowed tsmUcs4ToUtf8) run :=
    hreach.mono fun _ _ hrun hop => deltaAllowed_of_decodeAllowed hcard hrun hop
  have hallowed' := deltaAllowed_of_decodeAllowed hcard hreach hallowed
  have hnext : (terminalSystem tsmUcs4ToUtf8).Reachable (DeltaAllowed tsmUcs4ToUtf8)
      (run.takes tsmUcs4ToUtf8 draw) := .step hdelta hallowed' rfl
  cases htaken : run.taken with
  | nil =>
    have hfull : frame.fullRepaint = true := by
      apply fullRepaint_first hnext (run.screen, frame)
      rw [TerminalRun.takes, htaken, hframe]
      rfl
    constructor
    · intro hchanged column hcolumn row hrow
      rw [show (coreFrame frame).info.fullRepaint = true from hfull]
      exact paintFrame_full picture hchanged _ hcolumn hrow
    · intro hunchanged
      rw [hframe] at hunchanged hfull
      obtain ⟨-, -, hnotFull, -⟩ := takenChanged_false (cacheInvariant hreach).table hunchanged
      exact absurd (hfull.symm.trans hnotFull) (by simp)
  | cons last older =>
    have hstep := frameDelta_step hdelta hallowed' htaken
    rw [← hframe] at hstep
    have hlast : ShowsFrame picture last.2 := hshows last (by rw [htaken]; rfl)
    constructor
    · intro hchanged
      have hchain := framesPaintRight hnext
      rw [TerminalRun.takes, htaken, List.isChain_cons_cons, ← hframe] at hchain
      apply (hchain.1 hchanged).of_agree hchanged
      intro hnotFull column hcolumn row hrow
      obtain ⟨hcolumns, hrows⟩ := hstep.size hnotFull
      exact hlast column (hcolumns ▸ hcolumn) row (hrows ▸ hrow)
    · intro hunchanged
      have hnotFull : frame.fullRepaint = false := by
        rw [hframe] at hunchanged ⊢
        exact (takenChanged_false (cacheInvariant hreach).table hunchanged).2.2.1
      obtain ⟨hcolumns, hrows⟩ := hstep.size hnotFull
      refine ⟨fun column hcolumn row hrow => ?_, ?_⟩
      · rw [(hstep.unchanged hunchanged).2 column hcolumn row hrow]
        exact hlast column (hcolumns ▸ hcolumn) row (hrows ▸ hrow)
      · rintro _ ⟨⟩
        exact ⟨hcolumns, hrows⟩

end take

/-! ## The invariant -/

/-- The frames that wait are a chain of deltas from the framebuffer on, whose last picture shows the
frame that was taken last. Each of them would be painted right over the picture that the one before
it leaves. -/
structure DisplayInvariant (tsmUcs4ToUtf8 : Nat → List UInt8) (styles : Finset PackedStyle)
    (display : Display) : Prop where
  core : (terminalSystem tsmUcs4ToUtf8).Reachable (DecodeAllowed tsmUcs4ToUtf8 styles)
    display.ctrl.core
  pending : display.ctrl.pending = display.unpainted.foldl requestFrameRefresh none
  changed : ∀ frame ∈ display.unpainted, IsChanged frame.info
  right : FramesRight none display.ctrl.renderer.picture display.unpainted
  size : ∀ frame ∈ display.unpainted.getLast?, ∀ taken ∈ display.ctrl.core.taken.head?,
    frame.info.columns = taken.2.columns ∧ frame.info.rows = taken.2.rows
  newest : ∀ taken ∈ display.ctrl.core.taken.head?,
    ShowsFrame (lastPicture display.ctrl.renderer.picture display.unpainted) taken.2

/-- The geometry does not touch the picture. -/
theorem WxRenderer.updateGeometry_picture (renderer : WxRenderer)
    (clientSize textExtent : Int × Int) :
    (renderer.updateGeometry clientSize textExtent).1.picture = renderer.picture := by
  unfold WxRenderer.updateGeometry
  dsimp only
  split <;> rfl

/-- A paint that shows the frame on the old picture shows it on a new bitmap, too. -/
theorem WxRenderer.paintFrame_shows {renderer : WxRenderer} (clientSize : Int × Int)
    {frame : Frame (Option CellView)} {paint : PendingPaint} (hchanged : paint.info.changed = true)
    {column row : Nat} (hcolumn : column < paint.info.columns) (hrow : row < paint.info.rows)
    (hshows : Wx.paintFrame none renderer.picture frame paint.info paint.dirty paint.fullRepaint
      (column, row) = frame.cell (column, row)) :
    (renderer.paintFrame clientSize frame paint).picture (column, row) =
      frame.cell (column, row) := by
  unfold WxRenderer.paintFrame
  dsimp only
  cases hwhole : (!(renderer.ensureFramebuffer clientSize).framebufferValid ||
      paint.fullRepaint) with
  | true => exact paintFrame_full _ hchanged paint.dirty hcolumn hrow
  | false =>
    -- the bitmap was valid, so it is the old one
    obtain ⟨hvalid, hnotFull⟩ := Bool.or_eq_false_iff.mp hwhole
    have hsame : renderer.ensureFramebuffer clientSize = renderer := by
      rw [WxRenderer.ensureFramebuffer] at hvalid ⊢
      split
      · rfl
      next hother =>
        rw [if_neg hother] at hvalid
        contradiction
    rw [hsame, ← hnotFull]
    exact hshows

namespace DisplayInvariant

variable {tsmUcs4ToUtf8 : Nat → List UInt8} {styles : Finset PackedStyle} {display : Display}

/-- Steps of the core that take no frame. -/
theorem quiet (h : DisplayInvariant tsmUcs4ToUtf8 styles display) {core : TerminalRun}
    (hcore : (terminalSystem tsmUcs4ToUtf8).Reachable (DecodeAllowed tsmUcs4ToUtf8 styles) core)
    (htaken : core.taken = display.ctrl.core.taken) (clientSize : Int × Int) {renderer : WxRenderer}
    (hpicture : renderer.picture = display.ctrl.renderer.picture) :
    DisplayInvariant tsmUcs4ToUtf8 styles { display with
      ctrl := { display.ctrl with clientSize, renderer, core } } where
  core := hcore
  pending := h.pending
  changed := h.changed
  right := by
    change FramesRight none renderer.picture display.unpainted
    rw [hpicture]
    exact h.right
  size := by
    change ∀ frame ∈ display.unpainted.getLast?, ∀ taken ∈ core.taken.head?, _
    rw [htaken]
    exact h.size
  newest := by
    change ∀ taken ∈ core.taken.head?,
      ShowsFrame (lastPicture renderer.picture display.unpainted) taken.2
    rw [htaken, hpicture]
    exact h.newest

/-- The control takes a changed frame, which then waits. -/
theorem takesChanged (hcard : styles.card < styleLimit)
    (h : DisplayInvariant tsmUcs4ToUtf8 styles display) {draw : Draw}
    (hallowed : DecodeAllowed tsmUcs4ToUtf8 styles display.ctrl.core (.takePackedFrame draw))
    {frame : PackedFrame} (hframe : frame = display.ctrl.takenFrame tsmUcs4ToUtf8 draw)
    (hchanged : frame.changed = true) :
    DisplayInvariant tsmUcs4ToUtf8 styles
      { ctrl := { display.ctrl with
          pending := Wx.requestFrameRefresh display.ctrl.pending (coreFrame frame)
          core := display.ctrl.core.next tsmUcs4ToUtf8 (.takePackedFrame draw) }
        unpainted := display.unpainted ++ [coreFrame frame] } where
  core := .step h.core hallowed rfl
  pending := by
    rw [List.foldl_concat, ← h.pending]
  changed := by
    intro waiting hwaiting
    cases List.mem_append.mp hwaiting with
    | inl hold => exact h.changed waiting hold
    | inr hnew =>
      rw [List.mem_singleton.mp hnew, hframe]
      rw [hframe] at hchanged
      exact isChanged_takePackedFrame hchanged
  right := by
    apply framesRight_concat h.right
    exact (takenFrame_right hcard h.core hallowed h.newest hframe).1 hchanged
  size := by
    intro waiting hwaiting taken htaken
    rw [List.getLast?_concat, Option.mem_some_iff] at hwaiting
    obtain rfl : (display.ctrl.core.screen, display.ctrl.takenFrame tsmUcs4ToUtf8 draw) = taken :=
      Option.some.inj htaken
    rw [← hwaiting, hframe]
    exact ⟨rfl, rfl⟩
  newest := by
    intro taken htaken
    obtain rfl : (display.ctrl.core.screen, display.ctrl.takenFrame tsmUcs4ToUtf8 draw) = taken :=
      Option.some.inj htaken
    rw [lastPicture_concat, hframe]
    exact fun _ _ _ _ => rfl

/-- An unchanged frame is taken and dropped. -/
theorem dropsUnchanged (hcard : styles.card < styleLimit)
    (h : DisplayInvariant tsmUcs4ToUtf8 styles display) {draw : Draw}
    (hallowed : DecodeAllowed tsmUcs4ToUtf8 styles display.ctrl.core (.takePackedFrame draw))
    (hunchanged : (display.ctrl.takenFrame tsmUcs4ToUtf8 draw).changed = false) :
    DisplayInvariant tsmUcs4ToUtf8 styles { display with
      ctrl := { display.ctrl with
        core := display.ctrl.core.next tsmUcs4ToUtf8 (.takePackedFrame draw) } } := by
  obtain ⟨hshows, hsize⟩ :=
    (takenFrame_right hcard h.core hallowed h.newest rfl).2 hunchanged
  constructor
  case core => exact .step h.core hallowed rfl
  case pending => exact h.pending
  case changed => exact h.changed
  case right => exact h.right
  case size =>
    intro waiting hwaiting taken htaken
    obtain rfl : (display.ctrl.core.screen, display.ctrl.takenFrame tsmUcs4ToUtf8 draw) = taken :=
      Option.some.inj htaken
    -- a frame before it was taken, since the first one is changed
    have hsome : display.ctrl.core.taken ≠ [] :=
      (size_of_unchanged (h.core.mono fun _ _ _ _ => trivial) hunchanged).1
    obtain ⟨last, hlast⟩ := Option.isSome_iff_exists.mp (List.isSome_head?.mpr hsome)
    obtain ⟨hcolumns, hrows⟩ := h.size waiting hwaiting last hlast
    obtain ⟨hsameColumns, hsameRows⟩ := hsize last hlast
    exact ⟨hcolumns.trans hsameColumns, hrows.trans hsameRows⟩
  case newest =>
    intro taken htaken
    obtain rfl : (display.ctrl.core.screen, display.ctrl.takenFrame tsmUcs4ToUtf8 draw) = taken :=
      Option.some.inj htaken
    exact hshows

/-- The paint of the pending frame shows the newest of the frames that wait. -/
theorem pendingShows (h : DisplayInvariant tsmUcs4ToUtf8 styles display)
    {frame : Frame (Option CellView)} {paint : PendingPaint}
    (hpending : display.ctrl.pending = some (frame, paint))
    (hsafe : MergeSafe (display.unpainted.map Frame.info)) :
    paint.info.changed = true ∧
      (paint.info.columns = frame.info.columns ∧ paint.info.rows = frame.info.rows) ∧
      ∀ column < frame.info.columns, ∀ row < frame.info.rows,
        (display.ctrl.renderer.paintFrame display.ctrl.clientSize frame paint).picture
          (column, row) = frame.cell (column, row) := by
  obtain ⟨hfst, hsnd⟩ := foldl_requestFrameRefresh h.changed
  rw [← h.pending, hpending] at hfst hsnd
  have hne : display.unpainted.map Frame.info ≠ [] := by
    intro hnil
    rw [List.map_eq_nil_iff.mp hnil] at hfst
    contradiction
  have hinfos : ∀ info ∈ display.unpainted.map Frame.info, IsChanged info := by
    intro info hinfo
    obtain ⟨waiting, hwaiting, rfl⟩ := List.mem_map.mp hinfo
    exact h.changed waiting hwaiting
  obtain ⟨merged, hmerged, hspec⟩ := mergedSpec_mergeAll hne hinfos
  obtain rfl : paint = merged := Option.some.inj (hsnd.trans hmerged)
  obtain ⟨hcolumns, hrows⟩ := hspec.size frame.info (by
    rw [List.getLast?_map, ← hfst]
    rfl)
  refine ⟨hspec.changed, ⟨hcolumns, hrows⟩, fun column hcolumn row hrow => ?_⟩
  apply WxRenderer.paintFrame_shows _ hspec.changed (hcolumns ▸ hcolumn) (hrows ▸ hrow)
  have hmerge := mergeLosesNothing_of_safe h.changed h.right hsafe frame hfst.symm column hcolumn
    row hrow
  rw [← h.pending, hpending] at hmerge
  exact hmerge

/-- The frames that wait are painted as one. -/
theorem paintsPending (h : DisplayInvariant tsmUcs4ToUtf8 styles display)
    {frame : Frame (Option CellView)} {paint : PendingPaint}
    (hpending : display.ctrl.pending = some (frame, paint))
    (hsafe : MergeSafe (display.unpainted.map Frame.info)) :
    DisplayInvariant tsmUcs4ToUtf8 styles
      { ctrl := { display.ctrl with
          pending := none
          renderer := display.ctrl.renderer.paintFrame display.ctrl.clientSize frame paint } } := by
  obtain ⟨-, -, hshows⟩ := h.pendingShows hpending hsafe
  have hfst := (foldl_requestFrameRefresh h.changed).1
  rw [← h.pending, hpending] at hfst
  constructor
  case core => exact h.core
  case pending => rfl
  case changed => exact fun _ hwaiting => absurd hwaiting List.not_mem_nil
  case right => trivial
  case size => exact fun _ hwaiting => nomatch hwaiting
  case newest =>
    intro taken htaken column hcolumn row hrow
    obtain ⟨hsameColumns, hsameRows⟩ := h.size frame hfst.symm taken htaken
    have hnewest := h.newest taken htaken column hcolumn row hrow
    have hlast : lastPicture display.ctrl.renderer.picture display.unpainted = frame.cell := by
      obtain ⟨earlier, hearlier⟩ := List.getLast?_eq_some_iff.mp hfst.symm
      rw [hearlier, lastPicture_concat]
    rw [hlast] at hnewest
    rw [← hnewest]
    exact hshows column (hsameColumns ▸ hcolumn) row (hsameRows ▸ hrow)

/-- Without a pending frame none waits. -/
theorem unpainted_eq_nil (h : DisplayInvariant tsmUcs4ToUtf8 styles display)
    (hpending : display.ctrl.pending = none) : display.unpainted = [] := by
  have hfst := (foldl_requestFrameRefresh h.changed).1
  rw [← h.pending, hpending] at hfst
  exact List.getLast?_eq_none_iff.mp hfst.symm

/-- The paint of a frame that the control takes shows the frame. -/
theorem takenShows (hcard : styles.card < styleLimit)
    (h : DisplayInvariant tsmUcs4ToUtf8 styles display) {draw : Draw}
    (hallowed : DecodeAllowed tsmUcs4ToUtf8 styles display.ctrl.core (.takePackedFrame draw))
    (hpending : display.ctrl.pending = none) {frame : PackedFrame}
    (hframe : frame = display.ctrl.takenFrame tsmUcs4ToUtf8 draw)
    (hchanged : frame.changed = true) :
    ShowsFrame (display.ctrl.renderer.paintFrame display.ctrl.clientSize (coreFrame frame)
      ⟨frameInfo frame, frame.dirty, frame.fullRepaint⟩).picture frame := by
  have hright := (takenFrame_right hcard h.core hallowed h.newest hframe).1 hchanged
  rw [h.unpainted_eq_nil hpending] at hright
  intro column hcolumn row hrow
  exact WxRenderer.paintFrame_shows _ hchanged hcolumn hrow (hright column hcolumn row hrow)

/-- The control takes a changed frame and paints it. -/
theorem paintsTaken (hcard : styles.card < styleLimit)
    (h : DisplayInvariant tsmUcs4ToUtf8 styles display) {draw : Draw}
    (hallowed : DecodeAllowed tsmUcs4ToUtf8 styles display.ctrl.core (.takePackedFrame draw))
    (hpending : display.ctrl.pending = none) {frame : PackedFrame}
    (hframe : frame = display.ctrl.takenFrame tsmUcs4ToUtf8 draw)
    (hchanged : frame.changed = true) :
    DisplayInvariant tsmUcs4ToUtf8 styles
      { ctrl := { display.ctrl with
          core := display.ctrl.core.next tsmUcs4ToUtf8 (.takePackedFrame draw)
          renderer := display.ctrl.renderer.paintFrame display.ctrl.clientSize (coreFrame frame)
            ⟨frameInfo frame, frame.dirty, frame.fullRepaint⟩ } } where
  core := .step h.core hallowed rfl
  pending := hpending
  changed := fun _ hwaiting => absurd hwaiting List.not_mem_nil
  right := trivial
  size := fun _ hwaiting => nomatch hwaiting
  newest := by
    have hshows := h.takenShows hcard hallowed hpending hframe hchanged
    intro taken htaken
    obtain rfl : (display.ctrl.core.screen, display.ctrl.takenFrame tsmUcs4ToUtf8 draw) = taken :=
      Option.some.inj htaken
    rw [← hframe]
    exact hshows

/-- `OnPaint` leaves no frame waiting. -/
theorem onPaint (hcard : styles.card < styleLimit)
    (h : DisplayInvariant tsmUcs4ToUtf8 styles display) {draw : Draw}
    (hallowed : DisplayAllowed tsmUcs4ToUtf8 styles display (.onPaint draw)) :
    DisplayInvariant tsmUcs4ToUtf8 styles (display.next tsmUcs4ToUtf8 (.onPaint draw)) := by
  obtain ⟨htakes, hsafe⟩ := hallowed
  change DisplayInvariant tsmUcs4ToUtf8 styles { ctrl := display.ctrl.onPaint tsmUcs4ToUtf8 draw }
  unfold WxTerminalCtrl.onPaint
  split
  next frame paint hpending =>
    have hchanged := (h.pendingShows hpending hsafe).1
    rw [WxTerminalCtrl.paintOrDraw, if_neg (by rw [hchanged]; exact Bool.false_ne_true)]
    exact h.paintsPending hpending hsafe
  next hpending =>
    dsimp only
    cases hchanged : (display.ctrl.takenFrame tsmUcs4ToUtf8 draw).changed with
    | true =>
      have hchanged' : (coreFrame (display.ctrl.takenFrame tsmUcs4ToUtf8 draw)).info.changed =
          true := hchanged
      rw [WxTerminalCtrl.paintOrDraw, if_neg (by rw [hchanged']; exact Bool.false_ne_true)]
      exact h.paintsTaken hcard (htakes hpending) hpending rfl hchanged
    | false =>
      have hchanged' : (coreFrame (display.ctrl.takenFrame tsmUcs4ToUtf8 draw)).info.changed =
          false := hchanged
      have hdropped := h.dropsUnchanged hcard (htakes hpending) hchanged
      rw [h.unpainted_eq_nil hpending] at hdropped
      rw [WxTerminalCtrl.paintOrDraw, if_pos (by rw [hchanged']; rfl)]
      exact hdropped

/-- Every event keeps the chain: frames are added to its end, a paint starts it anew, and the rest
leaves it. -/
theorem step (hcard : styles.card < styleLimit)
    (h : DisplayInvariant tsmUcs4ToUtf8 styles display) {event : PaintEvent}
    (hallowed : DisplayAllowed tsmUcs4ToUtf8 styles display event) :
    DisplayInvariant tsmUcs4ToUtf8 styles (display.next tsmUcs4ToUtf8 event) := by
  cases event with
  | core op =>
    obtain ⟨htakes, hop⟩ := hallowed
    rcases next_cases tsmUcs4ToUtf8 display.ctrl.core op with ⟨draw, hdraw, -⟩ | hquiet
    · exact absurd hdraw (htakes draw)
    · exact h.quiet (.step h.core hop rfl) hquiet.taken display.ctrl.clientSize rfl
  | onSize clientSize textExtent after =>
    have hpicture := display.ctrl.renderer.updateGeometry_picture clientSize textExtent
    change DisplayInvariant tsmUcs4ToUtf8 styles { display with
      ctrl := display.ctrl.updateGeometry tsmUcs4ToUtf8 clientSize textExtent after }
    unfold WxTerminalCtrl.updateGeometry
    dsimp only
    cases (display.ctrl.renderer.updateGeometry clientSize textExtent).2 with
    | true =>
      rcases next_cases tsmUcs4ToUtf8 display.ctrl.core (.resize after) with ⟨_, hdraw, -⟩ | hquiet
      · cases hdraw
      · exact h.quiet (.step h.core hallowed.2 rfl) hquiet.taken clientSize hpicture
    | false => exact h.quiet h.core rfl clientSize hpicture
  | requestFrameRefresh draw =>
    unfold Display.next
    dsimp only
    by_cases hchanged :
        (coreFrame (display.ctrl.takenFrame tsmUcs4ToUtf8 draw)).info.changed = true
    · rw [if_pos hchanged]
      exact h.takesChanged hcard hallowed rfl hchanged
    · have hdropped := h.dropsUnchanged hcard hallowed (Bool.eq_false_iff.mpr hchanged)
      rw [if_neg hchanged]
      change DisplayInvariant tsmUcs4ToUtf8 styles { display with
        ctrl := display.ctrl.requestFrameRefresh tsmUcs4ToUtf8 draw }
      rw [WxTerminalCtrl.requestFrameRefresh, Wx.requestFrameRefresh, if_neg hchanged]
      exact hdropped
  | onPaint draw => exact h.onPaint hcard hallowed

/-- A new control has painted nothing and taken no frame. -/
theorem initial (hnew : NewDisplay tsmUcs4ToUtf8 display) :
    DisplayInvariant tsmUcs4ToUtf8 styles display := by
  obtain ⟨screen, clientSize, textExtent, after, -, -, hnodup, rfl⟩ := hnew
  have hstart : DisplayInvariant tsmUcs4ToUtf8 styles { ctrl := { core := newRun screen } } := by
    constructor
    case core => exact .init ⟨screen, rfl⟩
    case pending => rfl
    case changed => exact fun _ hwaiting => absurd hwaiting List.not_mem_nil
    case right => trivial
    case size => exact fun _ hwaiting => nomatch hwaiting
    case newest => exact fun _ htaken => nomatch htaken
  unfold WxTerminalCtrl.updateGeometry
  dsimp only
  have hpicture := WxRenderer.updateGeometry_picture {} clientSize textExtent
  cases (WxRenderer.updateGeometry {} clientSize textExtent).2 with
  | true =>
    have hallowed : DecodeAllowed tsmUcs4ToUtf8 styles (newRun screen) (.resize after) :=
      ⟨⟨hnodup, trivial⟩, trivial, trivial⟩
    exact hstart.quiet (.step hstart.core hallowed rfl) rfl clientSize hpicture
  | false => exact hstart.quiet hstart.core rfl clientSize hpicture

end DisplayInvariant

/-! ## The painted cells -/

/-- The control with the bitmap of its framebuffer. `ctrl` keeps the pending frame and the
framebuffer as cell views; here is the frame itself, and what was painted of it. -/
structure PaintedDisplay extends Display where
  /-- `pending_frame_`. -/
  pendingFrame : Option PackedFrame := none
  /-- The cells on `framebuffer_`. -/
  painted : Picture Renderer.PaintedCell := fun _ => { background := {} }

/-- An event, and which bitmaps of `GlyphRunBitmap` are valid if it paints. -/
structure DisplayEvent where
  event : PaintEvent
  bitmapIsOk : RunView → Bool

section painted

variable (tsmUcs4ToUtf8 : Nat → List UInt8) (wx : Renderer.Toolkit)
  (config : Renderer.RenderConfig) (display : PaintedDisplay)

/-- What `OnPaint` has for `PaintFrame`: the pending frame with all that was merged into it, or else
a frame that is taken now with its own information. -/
def PaintedDisplay.painting (draw : Draw) : PackedFrame × PendingPaint :=
  match display.pendingFrame, display.ctrl.pending with
  | some frame, some (_, paint) => (frame, paint)
  | _, _ =>
    let frame := display.ctrl.takenFrame tsmUcs4ToUtf8 draw
    (frame, ⟨frameInfo frame, frame.dirty, frame.fullRepaint⟩)

/-- `PaintFrame` clears the bitmap: it is not valid for the window, or a full repaint was asked
for. -/
def PaintedDisplay.paintsWhole (draw : Draw) : Bool :=
  !(display.ctrl.renderer.ensureFramebuffer display.ctrl.clientSize).framebufferValid ||
    (display.painting tsmUcs4ToUtf8 draw).2.fullRepaint

/-- The bitmap after `OnPaint`. -/
def PaintedDisplay.onPaint (draw : Draw) : Picture Renderer.PaintedCell :=
  let (frame, paint) := display.painting tsmUcs4ToUtf8 draw
  if !paint.info.changed then display.painted
  else
    Renderer.paintFrame wx config frame paint (display.paintsWhole tsmUcs4ToUtf8 draw)
      display.painted

/-- One event, with the pending frame and the bitmap beside what `Display` has. -/
def PaintedDisplay.next (event : DisplayEvent) : PaintedDisplay where
  toDisplay := display.toDisplay.next tsmUcs4ToUtf8 event.event
  pendingFrame :=
    match event.event with
    | .requestFrameRefresh draw =>
      let frame := display.ctrl.takenFrame tsmUcs4ToUtf8 draw
      if frame.changed then some frame else display.pendingFrame
    | .onPaint _ => none
    | .core _ | .onSize _ _ _ => display.pendingFrame
  painted :=
    match event.event with
    | .onPaint draw =>
      display.onPaint tsmUcs4ToUtf8 { wx with bitmapIsOk := event.bitmapIsOk } config draw
    | .core _ | .onSize _ _ _ | .requestFrameRefresh _ => display.painted

/-- All orders of events, from a new control with nothing on its bitmap and nothing pending. -/
def paintedSystem : TransitionSystem PaintedDisplay DisplayEvent where
  init display := NewDisplay tsmUcs4ToUtf8 display.toDisplay ∧ display.pendingFrame = none
  step display event display' := display' = display.next tsmUcs4ToUtf8 wx config event

/-- What is assumed of a step: that of the display, and of a partial repaint that its bitmaps spare
the strokes beyond the rectangle. -/
structure PaintedAllowed (styles : Finset PackedStyle) (display : PaintedDisplay)
    (event : DisplayEvent) : Prop where
  allowed : DisplayAllowed tsmUcs4ToUtf8 styles display.toDisplay event.event
  spared : ∀ draw, event.event = .onPaint draw →
    display.paintsWhole tsmUcs4ToUtf8 draw = false →
    Renderer.StrokesSpared { wx with bitmapIsOk := event.bitmapIsOk } config
      (display.painting tsmUcs4ToUtf8 draw).1
      (Renderer.renderInfo (display.painting tsmUcs4ToUtf8 draw).1
        (display.painting tsmUcs4ToUtf8 draw).2.info.scrollDelta)
      (display.painting tsmUcs4ToUtf8 draw).2.dirty

end painted

/-- The pending frame is the control's, and was taken from the core. The bitmap shows the views of
the control's framebuffer. -/
structure PaintedInvariant (tsmUcs4ToUtf8 : Nat → List UInt8) (wx : Renderer.Toolkit)
    (styles : Finset PackedStyle) (display : PaintedDisplay) : Prop where
  views : DisplayInvariant tsmUcs4ToUtf8 styles display.toDisplay
  pending : display.ctrl.pending.map Prod.fst = display.pendingFrame.map coreFrame
  taken : ∀ frame ∈ display.pendingFrame, ∃ screen,
    (screen, frame) ∈ display.ctrl.core.taken
  depicts : Renderer.Depicts wx display.ctrl.core.taken display.painted
    display.ctrl.renderer.picture

theorem WxTerminalCtrl.pending_paintOrDraw (ctrl : WxTerminalCtrl)
    (frame : Frame (Option CellView)) (paint : PendingPaint) :
    (ctrl.paintOrDraw frame paint).pending = ctrl.pending := by
  unfold WxTerminalCtrl.paintOrDraw
  split <;> rfl

theorem WxTerminalCtrl.pending_onPaint {tsmUcs4ToUtf8 : Nat → List UInt8} (ctrl : WxTerminalCtrl)
    (draw : Draw) : (ctrl.onPaint tsmUcs4ToUtf8 draw).pending = none := by
  unfold WxTerminalCtrl.onPaint
  split
  · exact WxTerminalCtrl.pending_paintOrDraw _ _ _
  · rename_i hpending
    exact (WxTerminalCtrl.pending_paintOrDraw _ _ _).trans hpending

/-- A new bitmap has no views yet. -/
theorem depicts_ensureFramebuffer {wx : Renderer.Toolkit} {taken : List (Screen × PackedFrame)}
    {painted : Picture Renderer.PaintedCell} {renderer : WxRenderer}
    (h : Renderer.Depicts wx taken painted renderer.picture) (clientSize : Int × Int) :
    Renderer.Depicts wx taken painted (renderer.ensureFramebuffer clientSize).picture := by
  unfold WxRenderer.ensureFramebuffer
  split
  · exact h
  · exact Renderer.depicts_blank painted

/-- Frames that are full decodes can be read in every row. -/
theorem rowViewsAgree_of_decoded {tsmUcs4ToUtf8 : Nat → List UInt8} {styles : Finset PackedStyle}
    (hcard : styles.card < styleLimit) {run : TerminalRun}
    (h : (terminalSystem tsmUcs4ToUtf8).Reachable (DecodeAllowed tsmUcs4ToUtf8 styles) run)
    {taken : Screen × PackedFrame} (htaken : taken ∈ run.taken) :
    ∀ row < taken.2.rows, RowViewsAgree taken.2 row := by
  have hsized : ∀ taken ∈ run.taken,
      taken.2.columns = taken.2.grid.columns ∧ taken.2.rows = taken.2.grid.rows := by
    refine forall_taken (fun run draw hreach _ _ => ?_) h
    have htable := (cacheInvariant hreach).table
    exact ⟨(takenGrid_columns htable).symm, (takenGrid_rows htable).symm⟩
  obtain ⟨hcolumns, hrows⟩ := hsized taken htaken
  intro row hrow
  exact (decodedFrame_of_reachable hcard h taken htaken).reachable.invariant.rowViewsAgree hcolumns
    hrows hrow

namespace PaintedInvariant

variable {tsmUcs4ToUtf8 : Nat → List UInt8} {wx : Renderer.Toolkit}
  {config : Renderer.RenderConfig} {styles : Finset PackedStyle} {display : PaintedDisplay}

/-- The end of `OnPaint`, when the control has a frame of the core to paint: the bitmap keeps
showing the views, whether the frame is painted or dropped. -/
theorem paintsOrDraws (hcard : styles.card < styleLimit)
    (h : PaintedInvariant tsmUcs4ToUtf8 wx styles display) (ctrl : WxTerminalCtrl)
    (hrenderer : ctrl.renderer = display.ctrl.renderer)
    (hclient : ctrl.clientSize = display.ctrl.clientSize)
    (hcore : (terminalSystem tsmUcs4ToUtf8).Reachable (DecodeAllowed tsmUcs4ToUtf8 styles)
      ctrl.core)
    (hsub : display.ctrl.core.taken ⊆ ctrl.core.taken) {screen : Screen} {frame : PackedFrame}
    (hmem : (screen, frame) ∈ ctrl.core.taken) {paint : PendingPaint}
    (hcolumns : paint.info.columns = frame.columns) (hrows : paint.info.rows = frame.rows)
    (bitmapIsOk : RunView → Bool)
    (hspared :
      (!(display.ctrl.renderer.ensureFramebuffer display.ctrl.clientSize).framebufferValid ||
        paint.fullRepaint) = false →
      Renderer.StrokesSpared { wx with bitmapIsOk := bitmapIsOk } config frame
        (Renderer.renderInfo frame paint.info.scrollDelta) paint.dirty)
    (hshows : paint.info.changed = true →
      ShowsFrame (display.ctrl.renderer.paintFrame display.ctrl.clientSize
        (coreFrame frame) paint).picture frame) :
    Renderer.Depicts wx (ctrl.paintOrDraw (coreFrame frame) paint).core.taken
      (if !paint.info.changed then display.painted
      else
        Renderer.paintFrame { wx with bitmapIsOk := bitmapIsOk } config frame paint
          (!(display.ctrl.renderer.ensureFramebuffer display.ctrl.clientSize).framebufferValid ||
            paint.fullRepaint) display.painted)
      (ctrl.paintOrDraw (coreFrame frame) paint).renderer.picture := by
  unfold WxTerminalCtrl.paintOrDraw
  cases hchanged : paint.info.changed with
  | false =>
    simp only [Bool.not_false, if_true]
    rw [hrenderer]
    exact h.depicts.mono hsub
  | true =>
    simp only [Bool.not_true, Bool.false_eq_true, if_false]
    rw [hrenderer, hclient]
    have hbefore : Renderer.Depicts { wx with bitmapIsOk := bitmapIsOk } ctrl.core.taken
        display.painted
        (display.ctrl.renderer.ensureFramebuffer display.ctrl.clientSize).picture :=
      (depicts_ensureFramebuffer (h.depicts.mono hsub) display.ctrl.clientSize).of_fromUtf8 rfl
    exact (Renderer.paintFrame_refines hbefore hmem (rowViewsAgree_of_decoded hcard hcore hmem)
      hcolumns hrows hspared (hshows hchanged)).of_fromUtf8 rfl

/-- `OnPaint` on the bitmap does what it does on the views. -/
theorem onPaint (hcard : styles.card < styleLimit)
    (h : PaintedInvariant tsmUcs4ToUtf8 wx styles display) {draw : Draw}
    {bitmapIsOk : RunView → Bool}
    (hallowed : PaintedAllowed tsmUcs4ToUtf8 wx config styles display ⟨.onPaint draw, bitmapIsOk⟩) :
    Renderer.Depicts wx (display.ctrl.onPaint tsmUcs4ToUtf8 draw).core.taken
      (display.onPaint tsmUcs4ToUtf8 { wx with bitmapIsOk := bitmapIsOk } config draw)
      (display.ctrl.onPaint tsmUcs4ToUtf8 draw).renderer.picture := by
  obtain ⟨⟨htakes, hsafe⟩, hspared⟩ := hallowed
  have hspared := hspared draw rfl
  have hsame := h.pending
  unfold PaintedDisplay.paintsWhole at hspared
  unfold PaintedDisplay.onPaint PaintedDisplay.paintsWhole
  unfold WxTerminalCtrl.onPaint
  cases hpending : display.ctrl.pending with
  | some pending =>
    obtain ⟨views, paint⟩ := pending
    cases hframe : display.pendingFrame with
    | none =>
      rw [hpending, hframe] at hsame
      exact absurd hsame (Option.some_ne_none _)
    | some frame =>
      rw [hpending, hframe] at hsame
      obtain rfl : views = coreFrame frame := Option.some.inj hsame
      have hpainting : display.painting tsmUcs4ToUtf8 draw = (frame, paint) := by
        rw [PaintedDisplay.painting, hframe, hpending]
      rw [hpainting] at hspared ⊢
      obtain ⟨-, ⟨hcolumns, hrows⟩, hshows⟩ := h.views.pendingShows hpending hsafe
      obtain ⟨screen, hmem⟩ := h.taken frame hframe
      exact h.paintsOrDraws hcard { display.ctrl with pending := none } rfl rfl h.views.core
        (List.Subset.refl _) hmem hcolumns hrows bitmapIsOk hspared fun _ => hshows
  | none =>
    have hpainting : display.painting tsmUcs4ToUtf8 draw =
        (display.ctrl.takenFrame tsmUcs4ToUtf8 draw,
          ⟨frameInfo (display.ctrl.takenFrame tsmUcs4ToUtf8 draw),
            (display.ctrl.takenFrame tsmUcs4ToUtf8 draw).dirty,
            (display.ctrl.takenFrame tsmUcs4ToUtf8 draw).fullRepaint⟩) := by
      rw [PaintedDisplay.painting, hpending]
      cases display.pendingFrame <;> rfl
    rw [hpainting] at hspared ⊢
    exact h.paintsOrDraws hcard
      { display.ctrl with
        pending := none
        core := display.ctrl.core.next tsmUcs4ToUtf8 (.takePackedFrame draw) }
      rfl rfl (.step h.views.core (htakes hpending) rfl) (List.subset_cons_self _ _)
      List.mem_cons_self rfl rfl bitmapIsOk hspared
      fun hchanged => h.views.takenShows hcard (htakes hpending) hpending rfl hchanged

/-- One event keeps the bitmap and the views together. -/
theorem step (hcard : styles.card < styleLimit)
    (h : PaintedInvariant tsmUcs4ToUtf8 wx styles display) {event : DisplayEvent}
    (hallowed : PaintedAllowed tsmUcs4ToUtf8 wx config styles display event) :
    PaintedInvariant tsmUcs4ToUtf8 wx styles (display.next tsmUcs4ToUtf8 wx config event) := by
  have hviews := h.views.step hcard hallowed.allowed
  obtain ⟨event, bitmapIsOk⟩ := event
  -- the frames that were taken stay, and without a paint the picture does
  have hquiet : ∀ ctrl : WxTerminalCtrl, ctrl.core.taken = display.ctrl.core.taken →
      ctrl.pending = display.ctrl.pending → ctrl.renderer.picture = display.ctrl.renderer.picture →
      DisplayInvariant tsmUcs4ToUtf8 styles { display.toDisplay with ctrl := ctrl } →
      PaintedInvariant tsmUcs4ToUtf8 wx styles { display with ctrl := ctrl } := by
    intro ctrl htaken hpending hpicture hviews
    refine ⟨hviews, hpending ▸ h.pending, ?_, ?_⟩
    · intro frame hframe
      rw [htaken]
      exact h.taken frame hframe
    · rw [htaken, hpicture]
      exact h.depicts
  cases event with
  | core op =>
    obtain ⟨htakes, hop⟩ := hallowed.allowed
    rcases next_cases tsmUcs4ToUtf8 display.ctrl.core op with ⟨draw, hdraw, -⟩ | hcore
    · exact absurd hdraw (htakes draw)
    · exact hquiet _ hcore.taken rfl rfl hviews
  | onSize clientSize textExtent after =>
    refine hquiet (display.ctrl.updateGeometry tsmUcs4ToUtf8 clientSize textExtent after) ?_ rfl
      (display.ctrl.renderer.updateGeometry_picture clientSize textExtent) hviews
    unfold WxTerminalCtrl.updateGeometry
    dsimp only
    split
    · rcases next_cases tsmUcs4ToUtf8 display.ctrl.core (.resize after) with ⟨_, hdraw, -⟩ | hcore
      · cases hdraw
      · exact hcore.taken
    · rfl
  | requestFrameRefresh draw =>
    refine ⟨hviews, ?_, ?_, h.depicts.mono (List.subset_cons_self _ _)⟩
    · change (Wx.requestFrameRefresh display.ctrl.pending
        (coreFrame (display.ctrl.takenFrame tsmUcs4ToUtf8 draw))).map Prod.fst =
          (if (display.ctrl.takenFrame tsmUcs4ToUtf8 draw).changed = true then
            some (display.ctrl.takenFrame tsmUcs4ToUtf8 draw) else display.pendingFrame).map
            coreFrame
      unfold Wx.requestFrameRefresh
      change (if (display.ctrl.takenFrame tsmUcs4ToUtf8 draw).changed = true then _ else _ :
        Option (Frame (Option CellView) × PendingPaint)).map Prod.fst = _
      split
      · rfl
      · exact h.pending
    · intro frame hframe
      change frame ∈ (if (display.ctrl.takenFrame tsmUcs4ToUtf8 draw).changed = true then
        some (display.ctrl.takenFrame tsmUcs4ToUtf8 draw) else display.pendingFrame) at hframe
      split at hframe
      · obtain rfl := Option.some.inj hframe
        exact ⟨display.ctrl.core.screen, List.mem_cons_self⟩
      · obtain ⟨screen, hmem⟩ := h.taken frame hframe
        exact ⟨screen, List.mem_cons_of_mem _ hmem⟩
  | onPaint draw =>
    refine ⟨hviews, ?_, ?_, h.onPaint hcard hallowed⟩
    · change (display.ctrl.onPaint tsmUcs4ToUtf8 draw).pending.map Prod.fst = none
      rw [display.ctrl.pending_onPaint]
      rfl
    · exact fun _ hnone => absurd hnone (Option.some_ne_none _).symm

/-- The bitmap and the views agree in every run of the conditions. -/
theorem reachable (hcard : styles.card < styleLimit)
    (h : (paintedSystem tsmUcs4ToUtf8 wx config).Reachable
      (PaintedAllowed tsmUcs4ToUtf8 wx config styles) display) :
    PaintedInvariant tsmUcs4ToUtf8 wx styles display := by
  refine h.invariant (I := PaintedInvariant tsmUcs4ToUtf8 wx styles) ?_ ?_
  · rintro display ⟨hnew, hnone⟩
    have hviews : DisplayInvariant tsmUcs4ToUtf8 styles display.toDisplay := .initial hnew
    obtain ⟨screen, clientSize, textExtent, after, -, -, -, hstart⟩ := hnew
    have hctrl := congrArg Display.ctrl hstart
    have hpicture : display.ctrl.renderer.picture = fun _ => none := by
      rw [hctrl]
      exact WxRenderer.updateGeometry_picture {} clientSize textExtent
    refine ⟨hviews, ?_, ?_, ?_⟩
    · rw [hnone, hctrl]
      rfl
    · rw [hnone]
      exact fun _ hmem => absurd hmem (Option.some_ne_none _).symm
    · rw [hpicture]
      exact Renderer.depicts_blank display.painted
  · rintro display event _ - hinvariant hallowed rfl
    exact hinvariant.step hcard hallowed

end PaintedInvariant

/-! ## The screen -/

/-- A single frame can always be painted. -/
theorem mergeSafe_singleton (info : FrameInfo) : MergeSafe [info] := by
  cases hfull : info.fullRepaint with
  | true => exact .inl ⟨info, List.mem_singleton_self info, hfull⟩
  | false =>
    right
    rintro _ ⟨⟩ column hcolumn row hrow
    by_cases hcovers : RegionCovers info.dirty column row
    · obtain ⟨hleft, hright, htop, hbottom⟩ := hcovers
      have hmem := List.mem_singleton_self info
      exact .inl ⟨⟨⟨info, hmem, hleft⟩, info, hmem, hright⟩, ⟨info, hmem, htop⟩, info, hmem,
        hbottom⟩
    · right
      rw [List.map_singleton, List.map_singleton, List.sum_singleton]
      exact if_pos ⟨hcolumn, hrow, hfull, hcovers⟩

/-- A window of two rows of one cell. -/
def twoRowsDisplay : PaintedDisplay where
  ctrl := ({ core := newRun startScreen } : WxTerminalCtrl).updateGeometry ucs4ToUtf8 (8, 32)
    (8, 16) (linesScreen 0 0)

/-- A frame is painted, output scrolls by a line, and the frame that reuses the scrolled row is
painted. -/
def scrollEvents : List PaintEvent :=
  [.requestFrameRefresh (linesDraw 0 1), .onPaint ⟨[], 1⟩,
    .core (.feedOutput [10] (linesScreen 1 1)),
    .requestFrameRefresh (linesDraw 1 2), .onPaint ⟨[], 2⟩]

def scrolledDisplay : PaintedDisplay :=
  (scrollEvents.map fun event => DisplayEvent.mk event fun _ => true).foldl
    (PaintedDisplay.next ucs4ToUtf8 Renderer.asciiToolkit {}) twoRowsDisplay

/-- The three frames meet the conditions of a run. -/
theorem reachable_scrolledDisplay :
    (paintedSystem ucs4ToUtf8 Renderer.asciiToolkit {}).Reachable
      (PaintedAllowed ucs4ToUtf8 Renderer.asciiToolkit {} {{}}) scrolledDisplay := by
  have hstart : (paintedSystem ucs4ToUtf8 Renderer.asciiToolkit {}).Reachable
      (PaintedAllowed ucs4ToUtf8 Renderer.asciiToolkit {} {{}}) twoRowsDisplay :=
    .init ⟨⟨startScreen, (8, 32), (8, 16), linesScreen 0 0, rfl, rfl, by decide, rfl⟩, rfl⟩
  refine .step (.step (.step (.step (.step hstart ⟨?_, ?_⟩ rfl) ⟨?_, ?_⟩ rfl) ⟨?_, ?_⟩ rfl)
    ⟨?_, ?_⟩ rfl) ⟨?_, ?_⟩ rfl
  · refine ⟨⟨by decide, ⟨by decide, by decide, by decide, by decide, ?_, ?_⟩, by decide⟩, ?_, ?_⟩
    · exact fun _ => by decide
    · decide
    · exact fun h => absurd h (by decide)
    · change viewportBytes ucs4ToUtf8 _ < _
      decide
  · exact fun _ hdraw => PaintEvent.noConfusion hdraw
  · exact ⟨fun hnone => absurd hnone (Option.some_ne_none _), mergeSafe_singleton _⟩
  · -- the first frame is a full repaint
    rintro _ ⟨⟩ hpart
    exact absurd hpart (by decide)
  · refine ⟨fun _ => Op.noConfusion, ⟨by decide, ?_⟩, trivial, trivial⟩
    change KeepsViewport _ _
    rw [KeepsViewport]
    decide
  · exact fun _ hdraw => PaintEvent.noConfusion hdraw
  · refine ⟨⟨by decide, ⟨by decide, by decide, by decide, by decide, ?_, ?_⟩, by decide⟩, ?_, ?_⟩
    · exact fun _ => by decide
    · decide
    · exact fun _ => by decide
    · change viewportBytes ucs4ToUtf8 _ < _
      decide
  · exact fun _ hdraw => PaintEvent.noConfusion hdraw
  · exact ⟨fun hnone => absurd hnone (Option.some_ne_none _), mergeSafe_singleton _⟩
  · -- the glyphs of a scrolled frame are drawn as texts
    rintro _ ⟨⟩ - hcache
    exact absurd hcache (by decide)

end SakuraTerminal.Wx
