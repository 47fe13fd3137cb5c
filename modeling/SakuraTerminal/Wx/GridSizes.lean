import SakuraTerminal.Foundations.ChangeReports
import SakuraTerminal.Wx.MouseGestures
import SakuraTerminal.Wx.PaintResize

/-!
# One grid for three

The renderer, the core and the terminal of the child each have columns and rows of their own.
`UpdateGeometry` of the control passes new ones from the renderer to both others, and `Start` passes
the current ones to a new child. The sessions convert them to what the system takes: `Start` and
`Resize` of `src/pty_session.cpp` to `unsigned short` in two ways, those of `src/conpty_session.cpp`
to `SHORT` in one.

Over every run in which no resize fails the three agree, the pointer is over a cell of the core's
screen, and libtsm and the child are told of a size exactly when it is another one
(`gridsAgree_of_reachable`).

What the child does to its own terminal is left out.

Three events change a size: the window gets another one, the child is started, and the core is
resized, which happens inside of the first. The model extends `PaintResize` by the terminal of the
child, and takes its invariant on the renderer and the core as it is. What is passed on is compared
with what the renderer found before, so that a resize which repeats a size would be seen.
-/

set_option autoImplicit false

namespace SakuraTerminal.Wx

open SakuraTerminal.Core SakuraTerminal.Foundations
open SakuraTerminal.Foundations.TransitionSystem

/-! ## The sessions -/

/-- The conversions of a number of columns or rows in `Start` and in `Resize`, which keep what is
within `maximumDimension`. The two may differ beyond that, and do in the POSIX session. -/
structure WindowSizing where
  startDimension : Nat → Nat
  resizeDimension : Nat → Nat
  maximumDimension : Nat
  start_eq : ∀ count, 0 < count → count ≤ maximumDimension → startDimension count = count
  resize_eq : ∀ count, 0 < count → count ≤ maximumDimension → resizeDimension count = count

/-- `Start` clamps, and `Resize` is a conversion to `unsigned short`. -/
def PosixPtySession.sizing : WindowSizing where
  startDimension count := min (max count 1) 65535
  resizeDimension count := count % 65536
  maximumDimension := 65535
  start_eq := by
    intro count hpos hle
    rw [max_eq_left hpos, min_eq_left hle]
  resize_eq := by
    intro count _ hle
    exact Nat.mod_eq_of_lt (Nat.lt_succ_of_le hle)

/-- `std::clamp` to what a `SHORT` holds, both times. -/
def ConPtySession.sizing : WindowSizing where
  startDimension count := max 1 (min count 32767)
  resizeDimension count := max 1 (min count 32767)
  maximumDimension := 32767
  start_eq := by
    intro count hpos hle
    rw [min_eq_left hle, max_eq_right hpos]
  resize_eq := by
    intro count hpos hle
    rw [min_eq_left hle, max_eq_right hpos]

/-- The terminal of the child: its window while the session has one. A child that is started gets
the size by its start, which is no resize event. -/
structure ChildTerminal where
  window : Option (Nat × Nat) := none
  resizeEvents : Nat := 0
  deriving DecidableEq, Repr

/-- `Stop`, which leaves no terminal. -/
def ChildTerminal.stop (terminal : ChildTerminal) : ChildTerminal :=
  { terminal with window := none }

/-- `Start`, and whether the system makes a terminal and a child. -/
def ChildTerminal.start (sizing : WindowSizing) (terminal : ChildTerminal) (columns rows : Nat)
    (succeeds : Bool) : ChildTerminal :=
  let terminal := terminal.stop
  if succeeds then
    { terminal with
      window := some (sizing.startDimension columns, sizing.startDimension rows) }
  else terminal

/-- `Resize`: the terminal afterwards and the result. -/
def ChildTerminal.resize (sizing : WindowSizing) (terminal : ChildTerminal) (columns rows : Nat)
    (accepted : Bool) : ChildTerminal × Bool :=
  match terminal.window with
  | none => (terminal, false)
  | some _ =>
    if accepted then
      ({ window := some (sizing.resizeDimension columns, sizing.resizeDimension rows)
         resizeEvents := terminal.resizeEvents + 1 }, true)
    else (terminal, false)

/-! ## The control -/

/-- The control with the terminal of its child. -/
structure SizedCtrl where
  paint : WxTerminalCtrl
  terminal : ChildTerminal := {}
  /-- The sizes `UpdateGeometry` of the renderer found, and whether they were passed on. Kept for
  the theorems only. -/
  sizes : List (Observation (Nat × Nat)) := []

/-- The columns and rows of the renderer. -/
def WxRenderer.grid (renderer : WxRenderer) : Nat × Nat := (renderer.columns, renderer.rows)

/-- What `CellAt` reads of the renderer. -/
def WxRenderer.geometry (renderer : WxRenderer) : CellGeometry where
  cellWidth := renderer.cellWidth
  cellHeight := renderer.cellHeight
  columns := renderer.columns
  rows := renderer.rows

/-- An event that a size may depend on. -/
inductive SizeEvent where
  /-- Output, scrolling and input of the core, and frames. -/
  | paint (event : PaintEvent)
  /-- `OnSize`, with the answer to the resize of the child's terminal. -/
  | onSize (clientSize textExtent : Int × Int) (after : Screen) (accepted : Bool)
  /-- `Start` in the constructor, or `Stop` and `Start` in `RestartTransport`. -/
  | start (succeeds : Bool)

section source

variable (tsmUcs4ToUtf8 : Nat → List UInt8) (sizing : WindowSizing) (ctrl : SizedCtrl)

/-- `UpdateGeometry`: the core and the terminal are resized when columns or rows changed. -/
def SizedCtrl.updateGeometry (clientSize textExtent : Int × Int) (after : Screen)
    (accepted : Bool) : SizedCtrl :=
  let (renderer, changed) := ctrl.paint.renderer.updateGeometry clientSize textExtent
  { paint := ctrl.paint.updateGeometry tsmUcs4ToUtf8 clientSize textExtent after
    terminal :=
      if changed then (ctrl.terminal.resize sizing renderer.columns renderer.rows accepted).1
      else ctrl.terminal
    sizes := ctrl.sizes ++ [⟨renderer.grid, changed⟩] }

/-- The control handles an event. -/
def SizedCtrl.next : SizeEvent → SizedCtrl
  | .paint event => { ctrl with paint := ctrl.paint.next tsmUcs4ToUtf8 event }
  | .onSize clientSize textExtent after accepted =>
    ctrl.updateGeometry tsmUcs4ToUtf8 sizing clientSize textExtent after accepted
  | .start succeeds =>
    { ctrl with
      terminal := ctrl.terminal.start sizing ctrl.paint.renderer.columns ctrl.paint.renderer.rows
        succeeds }

end source

/-- Before the constructor updates the geometry. -/
def NewCore (ctrl : SizedCtrl) : Prop :=
  ∃ screen : Screen, screen.width = 80 ∧ screen.height = 24 ∧
    ctrl = { paint := { core := newRun screen } }

/-- The constructor up to `Start`: the geometry is updated. -/
def NewSized (tsmUcs4ToUtf8 : Nat → List UInt8) (sizing : WindowSizing) (ctrl : SizedCtrl) : Prop :=
  ∃ created clientSize textExtent after accepted, NewCore created ∧
    ResizeSucceeds created.paint.renderer clientSize textExtent after ∧
    ctrl = created.updateGeometry tsmUcs4ToUtf8 sizing clientSize textExtent after accepted

/-- All orders of events, from a control that has measured its window. -/
def sizeSystem (tsmUcs4ToUtf8 : Nat → List UInt8) (sizing : WindowSizing) :
    TransitionSystem SizedCtrl SizeEvent where
  init := NewSized tsmUcs4ToUtf8 sizing
  step ctrl event ctrl' := ctrl' = ctrl.next tsmUcs4ToUtf8 sizing event

/-- No resize fails. The size of the window changes in `OnSize` only. A core that could not be
resized would keep its size until another one is found. -/
def NoResizeFails (tsmUcs4ToUtf8 : Nat → List UInt8) (ctrl : SizedCtrl) : SizeEvent → Prop
  | .paint event => (∀ clientSize textExtent after, event ≠ .onSize clientSize textExtent after) ∧
      ResizesSucceed tsmUcs4ToUtf8 ctrl.paint event
  | .onSize clientSize textExtent after accepted =>
    ResizeSucceeds ctrl.paint.renderer clientSize textExtent after ∧ accepted = true
  | .start _ => True

/-! ## The property -/

/-- The window of the child has the renderer's columns and rows, as `Start` or `Resize` passes
them. -/
def WindowShows (sizing : WindowSizing) (renderer : WxRenderer) (window : Nat × Nat) : Prop :=
  window = (sizing.startDimension renderer.columns, sizing.startDimension renderer.rows) ∨
    window = (sizing.resizeDimension renderer.columns, sizing.resizeDimension renderer.rows)

/-- A point of the painted cells. The pointer may be beyond it, where the last cell is taken. -/
def CellGeometry.OnGrid (geometry : CellGeometry) (position : Int × Int) : Prop :=
  (0 ≤ position.1 ∧ position.1 < geometry.columns * geometry.cellWidth) ∧
    0 ≤ position.2 ∧ position.2 < geometry.rows * geometry.cellHeight

/-- A point of the rectangle in which the renderer paints a cell. -/
def CellGeometry.InCell (geometry : CellGeometry) (cell : Nat × Nat) (position : Int × Int) :
    Prop :=
  (cell.1 * geometry.cellWidth ≤ position.1 ∧
      position.1 < (cell.1 + 1) * geometry.cellWidth) ∧
    cell.2 * geometry.cellHeight ≤ position.2 ∧ position.2 < (cell.2 + 1) * geometry.cellHeight

/-- What the renderer, the core and the child agree on. -/
structure GridsAgree (tsmUcs4ToUtf8 : Nat → List UInt8) (sizing : WindowSizing)
    (ctrl : SizedCtrl) : Prop where
  screen : (ctrl.paint.core.screen.width, ctrl.paint.core.screen.height) = ctrl.paint.renderer.grid
  frame : ∀ draw, FitsRenderer (frameInfo (ctrl.paint.takenFrame tsmUcs4ToUtf8 draw))
    ctrl.paint.renderer
  window : ∀ window, ctrl.terminal.window = some window →
    WindowShows sizing ctrl.paint.renderer window ∧
      (ctrl.paint.renderer.columns ≤ sizing.maximumDimension →
        ctrl.paint.renderer.rows ≤ sizing.maximumDimension → window = ctrl.paint.renderer.grid)
  pointer : ∀ position,
    (cellAt ctrl.paint.renderer.geometry position).1 < ctrl.paint.core.screen.width ∧
      (cellAt ctrl.paint.renderer.geometry position).2 < ctrl.paint.core.screen.height ∧
      (ctrl.paint.renderer.geometry.OnGrid position →
        ctrl.paint.renderer.geometry.InCell (cellAt ctrl.paint.renderer.geometry position) position)
  /-- Sizes are passed on when they are not those passed on before. -/
  passedOn : ReportedOnce (80, 24) ctrl.sizes
  current : lastReport (80, 24) ctrl.sizes = ctrl.paint.renderer.grid
  resizeEvents : ctrl.terminal.resizeEvents ≤ (Foundations.reports ctrl.sizes).length

/-! ## The parts -/

/-- One direction of a point: the cell is on the grid, and holds the point if that is. -/
theorem cellIndex_spec {size : Int} {count : Nat} (hcount : 0 < count) (position : Int) :
    min (max 0 position / max 1 size).toNat (count - 1) < count ∧
      (0 ≤ position → position < count * size →
        (min (max 0 position / max 1 size).toNat (count - 1) : Nat) * size ≤ position ∧
          position < ((min (max 0 position / max 1 size).toNat (count - 1) : Nat) + 1) * size) := by
  refine ⟨(min_le_right _ _).trans_lt (Nat.sub_lt hcount Nat.one_pos), fun hpos hlt => ?_⟩
  have hsize : 0 < size := by
    by_contra hnot
    have hle : (count : Int) * size ≤ 0 :=
      Int.mul_nonpos_of_nonneg_of_nonpos (Int.natCast_nonneg count) (not_lt.mp hnot)
    exact absurd (hpos.trans_lt hlt) (not_lt.mpr hle)
  have hquotient : position / size < count := Int.ediv_lt_of_lt_mul hsize hlt
  have hnonneg : 0 ≤ position / size := Int.ediv_nonneg hpos hsize.le
  have hcell : min (position / size).toNat (count - 1) = (position / size).toNat := by
    omega
  rw [max_eq_right hpos, max_eq_right (show 1 ≤ size from hsize), hcell,
    Int.toNat_of_nonneg hnonneg]
  exact ⟨Int.ediv_mul_le position hsize.ne', Int.lt_ediv_add_one_mul_self position hsize⟩

theorem cellAt_spec {geometry : CellGeometry} (hcolumns : 0 < geometry.columns)
    (hrows : 0 < geometry.rows) (position : Int × Int) :
    (cellAt geometry position).1 < geometry.columns ∧
      (cellAt geometry position).2 < geometry.rows ∧
      (geometry.OnGrid position → geometry.InCell (cellAt geometry position) position) := by
  obtain ⟨hcolumn, hleft⟩ := @cellIndex_spec geometry.cellWidth _ hcolumns position.1
  obtain ⟨hrow, htop⟩ := @cellIndex_spec geometry.cellHeight _ hrows position.2
  refine ⟨hcolumn, hrow, ?_⟩
  rintro ⟨⟨hx, hright⟩, hy, hbottom⟩
  exact ⟨hleft hx hright, htop hy hbottom⟩

/-- `UpdateGeometry` of the renderer tells whether its grid is another one afterwards. -/
theorem WxRenderer.updateGeometry_changed (renderer : WxRenderer)
    (clientSize textExtent : Int × Int) :
    (renderer.updateGeometry clientSize textExtent).2 =
      decide ((renderer.updateGeometry clientSize textExtent).1.grid ≠ renderer.grid) := by
  unfold WxRenderer.updateGeometry WxRenderer.grid
  dsimp only
  split
  · simp
  · rename_i hother
    rw [eq_comm, decide_eq_true_iff]
    intro hsame
    obtain ⟨hcolumns, hrows⟩ := Prod.mk.inj hsame
    exact hother ⟨hcolumns, hrows⟩

/-- Only the size of the window changes the grid. -/
theorem WxTerminalCtrl.next_grid {tsmUcs4ToUtf8 : Nat → List UInt8} (ctrl : WxTerminalCtrl)
    {event : PaintEvent}
    (hevent : ∀ clientSize textExtent after, event ≠ .onSize clientSize textExtent after) :
    (ctrl.next tsmUcs4ToUtf8 event).renderer.grid = ctrl.renderer.grid := by
  have hpainted (ctrl : WxTerminalCtrl) (frame : Frame (Option CellView)) (paint : PendingPaint) :
      (ctrl.paintOrDraw frame paint).renderer.grid = ctrl.renderer.grid := by
    unfold WxTerminalCtrl.paintOrDraw
    split
    · rfl
    · obtain ⟨-, hcolumns, hrows⟩ := ctrl.renderer.ensureFramebuffer_spec ctrl.clientSize
      exact Prod.ext hcolumns hrows
  cases event with
  | core op => rfl
  | requestFrameRefresh draw => rfl
  | onSize clientSize textExtent after => exact absurd rfl (hevent clientSize textExtent after)
  | onPaint draw =>
    simp only [WxTerminalCtrl.next, WxTerminalCtrl.onPaint]
    split
    · exact hpainted _ _ _
    · exact hpainted _ _ _

/-! ## The invariant -/

/-- The control is one of `paintSystem`. The sizes found are those of an observer that remembers
what the renderer has. It reports a size exactly when that differs from the one before. -/
structure SizeInvariant (tsmUcs4ToUtf8 : Nat → List UInt8) (sizing : WindowSizing)
    (ctrl : SizedCtrl) : Prop where
  control : CtrlInvariant tsmUcs4ToUtf8 ctrl.paint
  observed : ∃ grids, ctrl.sizes = observe (80, 24) grids ∧
    remembered (80, 24) grids = ctrl.paint.renderer.grid
  window : ∀ window, ctrl.terminal.window = some window →
    WindowShows sizing ctrl.paint.renderer window
  resizeEvents : ctrl.terminal.resizeEvents ≤ (Foundations.reports ctrl.sizes).length

section invariant

variable {tsmUcs4ToUtf8 : Nat → List UInt8} {sizing : WindowSizing} {ctrl : SizedCtrl}

/-- A window shows what depends on the grid only. -/
theorem WindowShows.of_grid {renderer renderer' : WxRenderer} {window : Nat × Nat}
    (h : WindowShows sizing renderer window) (hgrid : renderer'.grid = renderer.grid) :
    WindowShows sizing renderer' window := by
  obtain ⟨hcolumns, hrows⟩ := Prod.mk.inj hgrid
  unfold WindowShows
  rw [hcolumns, hrows]
  exact h

/-- A resize that is accepted, where there is a window, is one event and sets the window. -/
theorem ChildTerminal.resize_spec {terminal : ChildTerminal} {accepted : Bool}
    (haccepted : accepted = true ∨ terminal.window = none) (renderer : WxRenderer) :
    (terminal.resize sizing renderer.columns renderer.rows accepted).1.resizeEvents ≤
        terminal.resizeEvents + 1 ∧
      ∀ window, (terminal.resize sizing renderer.columns renderer.rows accepted).1.window =
        some window → WindowShows sizing renderer window := by
  unfold ChildTerminal.resize
  cases hwindow : terminal.window with
  | none =>
    refine ⟨Nat.le_succ _, fun window hsome => ?_⟩
    rw [hwindow] at hsome
    cases hsome
  | some old =>
    rcases haccepted with rfl | hnone
    · exact ⟨le_rfl, fun window hsome => .inr (Option.some.inj hsome).symm⟩
    · cases hwindow.symm.trans hnone

/-- Events of the core change no size. -/
theorem SizeInvariant.paint (h : SizeInvariant tsmUcs4ToUtf8 sizing ctrl) {event : PaintEvent}
    (hevent : ∀ clientSize textExtent after, event ≠ .onSize clientSize textExtent after)
    (hsucceed : ResizesSucceed tsmUcs4ToUtf8 ctrl.paint event) :
    SizeInvariant tsmUcs4ToUtf8 sizing (ctrl.next tsmUcs4ToUtf8 sizing (.paint event)) := by
  have hgrid : (ctrl.paint.next tsmUcs4ToUtf8 event).renderer.grid = ctrl.paint.renderer.grid :=
    ctrl.paint.next_grid hevent
  constructor
  case control =>
    cases event with
    | core op => exact h.control.coreOp hsucceed
    | requestFrameRefresh draw => exact h.control.requestFrameRefresh draw
    | onSize clientSize textExtent after => exact absurd rfl (hevent clientSize textExtent after)
    | onPaint draw => exact h.control.onPaint draw
  case observed =>
    obtain ⟨grids, hsizes, hlast⟩ := h.observed
    exact ⟨grids, hsizes, hlast.trans hgrid.symm⟩
  case window =>
    intro window hwindow
    exact (h.window window hwindow).of_grid hgrid
  case resizeEvents => exact h.resizeEvents

/-- The three sizes change together where one is found that is new, and stay where it is not. -/
theorem SizeInvariant.updateGeometry (h : SizeInvariant tsmUcs4ToUtf8 sizing ctrl)
    {clientSize textExtent : Int × Int} {after : Screen} {accepted : Bool}
    (hsucceeds : ResizeSucceeds ctrl.paint.renderer clientSize textExtent after)
    (haccepted : accepted = true ∨ ctrl.terminal.window = none) :
    SizeInvariant tsmUcs4ToUtf8 sizing
      (ctrl.updateGeometry tsmUcs4ToUtf8 sizing clientSize textExtent after accepted) := by
  have hchanged := ctrl.paint.renderer.updateGeometry_changed clientSize textExtent
  constructor
  case control => exact h.control.onSize hsucceeds
  case observed =>
    obtain ⟨grids, hsizes, hlast⟩ := h.observed
    refine ⟨grids ++ [(ctrl.paint.renderer.updateGeometry clientSize textExtent).1.grid], ?_,
      remembered_concat _ _ _⟩
    rw [observe_concat, hlast, ← hchanged, ← hsizes]
    rfl
  case window =>
    intro window hwindow
    simp only [SizedCtrl.updateGeometry] at hwindow
    split at hwindow
    · exact (ChildTerminal.resize_spec haccepted _).2 window hwindow
    · rename_i hsame
      rw [hchanged, decide_eq_true_iff, not_not] at hsame
      exact (h.window window hwindow).of_grid hsame
  case resizeEvents =>
    simp only [SizedCtrl.updateGeometry, reports_append, List.length_append]
    split
    · rename_i hother
      rw [hother]
      exact (ChildTerminal.resize_spec haccepted _).1.trans
        (Nat.add_le_add_right h.resizeEvents 1)
    · exact h.resizeEvents.trans (Nat.le_add_right _ _)

theorem SizeInvariant.start (h : SizeInvariant tsmUcs4ToUtf8 sizing ctrl) (succeeds : Bool) :
    SizeInvariant tsmUcs4ToUtf8 sizing (ctrl.next tsmUcs4ToUtf8 sizing (.start succeeds)) := by
  refine ⟨h.control, h.observed, ?_, ?_⟩
  · intro window hwindow
    cases succeeds with
    | true => exact .inl (Option.some.inj hwindow).symm
    | false => cases hwindow
  · cases succeeds <;> exact h.resizeEvents

/-- A new core has the 80 columns and 24 rows of a new renderer. -/
theorem sizeInvariant_newCore (h : NewCore ctrl) : SizeInvariant tsmUcs4ToUtf8 sizing ctrl := by
  obtain ⟨screen, hwidth, hheight, rfl⟩ := h
  refine ⟨⟨.init ⟨screen, rfl⟩, hwidth, hheight, ?_, ?_⟩, ⟨[], rfl, rfl⟩, ?_, Nat.zero_le _⟩
  · intro _ _ hsome
    cases hsome
  · exact fun _ htaken => absurd rfl htaken
  · intro _ hsome
    cases hsome

/-- The sizes agree in every run in which no resize fails. -/
theorem sizeInvariant (h : (sizeSystem tsmUcs4ToUtf8 sizing).Reachable
    (NoResizeFails tsmUcs4ToUtf8) ctrl) : SizeInvariant tsmUcs4ToUtf8 sizing ctrl := by
  apply h.invariant
  · rintro _ ⟨created, clientSize, textExtent, after, accepted, hcreated, hsucceeds, rfl⟩
    have hwindow : created.terminal.window = none := by
      obtain ⟨screen, -, -, rfl⟩ := hcreated
      rfl
    exact (sizeInvariant_newCore hcreated).updateGeometry hsucceeds (.inr hwindow)
  · rintro ctrl event _ - hctrl hallowed rfl
    cases event with
    | paint event => exact hctrl.paint hallowed.1 hallowed.2
    | onSize clientSize textExtent after accepted =>
      exact hctrl.updateGeometry hallowed.1 (.inl hallowed.2)
    | start succeeds => exact hctrl.start succeeds

/-- Within the maximum both conversions keep the grid. -/
theorem WindowShows.eq_grid {renderer : WxRenderer} {window : Nat × Nat}
    (h : WindowShows sizing renderer window) (hcolumns : 0 < renderer.columns)
    (hrows : 0 < renderer.rows) (hcolumnsLe : renderer.columns ≤ sizing.maximumDimension)
    (hrowsLe : renderer.rows ≤ sizing.maximumDimension) : window = renderer.grid := by
  rcases h with rfl | rfl
  · rw [sizing.start_eq _ hcolumns hcolumnsLe, sizing.start_eq _ hrows hrowsLe]
    rfl
  · rw [sizing.resize_eq _ hcolumns hcolumnsLe, sizing.resize_eq _ hrows hrowsLe]
    rfl

/-- In every run in which no resize fails, the renderer, the core and the child agree. -/
theorem gridsAgree_of_reachable (h : (sizeSystem tsmUcs4ToUtf8 sizing).Reachable
    (NoResizeFails tsmUcs4ToUtf8) ctrl) : GridsAgree tsmUcs4ToUtf8 sizing ctrl := by
  have hctrl := sizeInvariant h
  obtain ⟨grids, hsizes, hlast⟩ := hctrl.observed
  have hwidth := hctrl.control.width
  have hheight := hctrl.control.height
  have hcolumns : 0 < ctrl.paint.renderer.columns := hwidth ▸ ctrl.paint.core.screen.widthPos
  have hrows : 0 < ctrl.paint.renderer.rows := hheight ▸ ctrl.paint.core.screen.heightPos
  constructor
  case screen => exact Prod.ext hwidth hheight
  case frame => exact fun _ => ⟨hwidth, hheight⟩
  case window =>
    intro window hwindow
    have hshows := hctrl.window window hwindow
    exact ⟨hshows, hshows.eq_grid hcolumns hrows⟩
  case pointer =>
    intro position
    rw [hwidth, hheight]
    exact cellAt_spec hcolumns hrows position
  case passedOn =>
    rw [hsizes]
    exact reportedOnce_observe (80, 24) grids
  case current =>
    rw [hsizes, lastReport_observe, hlast]
  case resizeEvents => exact hctrl.resizeEvents

end invariant

/-- A control in a window of one cell starts a child, and the window grows by a row. -/
def grownSized : SizedCtrl :=
  [SizeEvent.start true, .onSize (8, 32) (8, 16) (linesScreen 0 0) true].foldl
    (SizedCtrl.next ucs4ToUtf8 PosixPtySession.sizing)
    (({ paint := { core := newRun startScreen } } : SizedCtrl).updateGeometry ucs4ToUtf8
      PosixPtySession.sizing (8, 16) (8, 16) (oneCellScreen 0) true)

theorem gridsAgree_of_reachable_grown :
    GridsAgree ucs4ToUtf8 PosixPtySession.sizing grownSized ∧
      grownSized.terminal = ⟨some (1, 2), 1⟩ := by
  refine ⟨gridsAgree_of_reachable ?_, by decide⟩
  have hnew : NewSized ucs4ToUtf8 PosixPtySession.sizing _ :=
    ⟨_, (8, 16), (8, 16), oneCellScreen 0, true, ⟨startScreen, rfl, rfl, rfl⟩,
      fun _ => ⟨by decide, by decide⟩, rfl⟩
  have hstarted : (sizeSystem ucs4ToUtf8 PosixPtySession.sizing).Reachable
      (NoResizeFails ucs4ToUtf8) _ :=
    .step (a := .start true) (.init hnew) trivial rfl
  exact .step (a := .onSize (8, 32) (8, 16) (linesScreen 0 0) true) hstarted
    ⟨fun _ => ⟨by decide, by decide⟩, rfl⟩ rfl

end SakuraTerminal.Wx
