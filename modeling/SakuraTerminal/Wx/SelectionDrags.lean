import SakuraTerminal.Core.Selection
import SakuraTerminal.Wx.MouseGestures

/-!
# Selecting with the mouse

The mouse handlers of `src/wx/terminal_ctrl.cpp` together with what they ask of the core, and the
tick of the timer that scrolls on while the pointer is dragged beyond an edge.

The control, the core and libtsm agree on cells as long as the screen has the size the renderer
measured: libtsm is given no cell outside of its screen, and targets and copies only for a selection
that is there (`selectionCalls_sound`). A press, any movements and ticks, and the release then
select what the user meant, and copy it (`press_selects`).

libtsm keeps a selection in terms of lines that scroll with their text. The model has the cells that
libtsm was told, at the time it was told.

A handler is run on members without calls, and the calls it has made are then performed on the core
one after another (`SelectionCtrl.handle`). So the lemmas on the handlers, which say what calls
there are, and those on the core, which say what a call does, are used side by side. A press is
followed from its event to its release by an invariant of its own (`Press.Holds`) with two cases:
nothing was dragged yet, or a drag has begun.
-/

set_option autoImplicit false

namespace SakuraTerminal.Wx

open SakuraTerminal.Core SakuraTerminal.Foundations

/-- The control and the core. `captures` counts the entries of wxWidgets' capture stack that are the
control's, and `lost` says that the capture was taken away since the last press that captured.
`down` says which buttons are down, for the theorems only. -/
structure SelectionCtrl where
  members : MouseMembers := {}
  backend : SelectionBackend
  geometry : CellGeometry
  captures : Nat := 0
  lost : Bool := false
  down : MouseButton → Bool := fun _ => false

/-- What happens to the control. `copied` is what libtsm answers if it is asked for a copy. -/
inductive SelectionEvent where
  | mouse (event : MouseEvent) (copied : Option (List UInt8))
  | timer
  | copyKey (copied : Option (List UInt8))
  | onSize (cellWidth cellHeight : Int) (size : ScreenSize) (resized : Bool)
  | captureLost
  deriving DecidableEq, Repr

/-! ## The source -/

/-- A call of a mouse handler reaches the core. -/
def callCore (copied : Option (List UInt8)) (backend : SelectionBackend) :
    CoreCall → SelectionBackend
  | .startSelection cell => backend.startSelection cell
  | .updateSelection cell => backend.updateSelection cell
  | .clearSelection => backend.clearSelection
  | .selectWord cell => backend.selectWord cell
  | .selectLine row => backend.selectLine row
  | .copySelection => (backend.copySelection copied).1
  | .handleMouse .. | .scrollLines _ => backend

/-- The part of `OnTimer` for selections. -/
def autoScrollTick (geometry : CellGeometry) (members : MouseMembers) : MouseMembers :=
  if members.selectionDragging ∧ members.autoScrollDirection ≠ 0 then
    (members.call (.scrollLines (if members.autoScrollDirection < 0 then 1 else -1))).call
      (.updateSelection (cellAt geometry members.lastPointerPosition))
  else members

/-- `if (HasCapture()) ReleaseMouse();`. -/
def releaseMouse (captures : Nat) : Nat := if captures ≠ 0 then captures - 1 else captures

/-- `CaptureMouse` and `ReleaseMouse` in the handlers of the mouse. -/
def capturesAfter (members : MouseMembers) (captures : Nat) : MouseEvent → Nat
  | .down .left _ | .doubleClick .left _ => captures + 1
  | .down button input =>
    if (forwardMouse members input button .pressed).2 then captures + 1 else captures
  | .up .left _ =>
    if members.mouseReportingGesture || members.pointerDown then releaseMouse captures
    else captures
  | .up _ _ => if members.mouseReportingGesture then releaseMouse captures else captures
  | .doubleClick _ _ | .motion _ => captures

/-- The event captures the mouse. -/
def MouseEvent.captures : MouseEvent → Bool
  | .down .left _ | .doubleClick .left _ => true
  | .down _ input => input.forwards
  | .doubleClick _ _ | .up _ _ | .motion _ => false

/-- What the control and the core answer while the event is handled. The rest of the event is what
the mouse says. -/
def SelectionCtrl.input (ctrl : SelectionCtrl) (input : MouseInput) : MouseInput :=
  { input with
    geometry := ctrl.geometry
    hasSelection := ctrl.backend.hasSelection }

/-- The event with these answers. -/
def SelectionCtrl.event (ctrl : SelectionCtrl) : MouseEvent → MouseEvent
  | .down button input => .down button (ctrl.input input)
  | .doubleClick button input => .doubleClick button (ctrl.input input)
  | .up button input => .up button (ctrl.input input)
  | .motion input => .motion (ctrl.input input)

/-- The members before a handler has made any calls. -/
def MouseMembers.fresh (members : MouseMembers) : MouseMembers := { members with calls := [] }

/-- A handler runs, and its calls reach the core. -/
def SelectionCtrl.handle (ctrl : SelectionCtrl) (copied : Option (List UInt8))
    (handler : MouseMembers → MouseMembers) : SelectionCtrl :=
  let members := handler ctrl.members.fresh
  { ctrl with
    members := members
    backend := members.calls.foldl (callCore copied) ctrl.backend }

/-- A mouse event, with the capture and the buttons after it. -/
def SelectionCtrl.onMouse (ctrl : SelectionCtrl) (event : MouseEvent)
    (copied : Option (List UInt8)) : SelectionCtrl :=
  { ctrl.handle copied (dispatch · event) with
    captures := capturesAfter ctrl.members ctrl.captures event
    lost := ctrl.lost && !event.captures
    down :=
      match event with
      | .down button _ | .doubleClick button _ => Function.update ctrl.down button true
      | .up button _ => Function.update ctrl.down button false
      | .motion _ => ctrl.down }

/-- The control handles an event. -/
def SelectionCtrl.next (ctrl : SelectionCtrl) : SelectionEvent → SelectionCtrl
  | .mouse event copied => ctrl.onMouse (ctrl.event event) copied
  | .timer => ctrl.handle none (autoScrollTick ctrl.geometry)
  | .copyKey copied => { ctrl with backend := (ctrl.backend.copySelection copied).1 }
  | .onSize cellWidth cellHeight size resized =>
    { ctrl with
      geometry := ⟨cellWidth, cellHeight, size.width, size.height⟩
      backend := ctrl.backend.resize size resized }
  | .captureLost => { ctrl with captures := 0, lost := true }

/-! ## Runs -/

/-- The renderer has measured a screen of the size that libtsm has. `UpdateGeometry` resizes the
core to what the renderer measured. -/
def SelectionCtrl.Fits (ctrl : SelectionCtrl) : Prop :=
  ctrl.geometry.columns = ctrl.backend.screen.width ∧
    ctrl.geometry.rows = ctrl.backend.screen.height

/-- A control whose mouse has done nothing yet. -/
structure SelectionCtrl.New (ctrl : SelectionCtrl) : Prop where
  members : ctrl.members = {}
  active : ctrl.backend.selectionActive = false
  calls : ctrl.backend.calls = []
  fits : ctrl.Fits
  captures : ctrl.captures = 0
  lost : ctrl.lost = false
  up : ∀ button, ctrl.down button = false

/-- Buttons that are up are pressed, and buttons that are down are released. -/
def SelectionCtrl.Possible (ctrl : SelectionCtrl) : SelectionEvent → Prop
  | .mouse (.down button _) _ | .mouse (.doubleClick button _) _ => ctrl.down button = false
  | .mouse (.up button _) _ => ctrl.down button = true
  | _ => True

/-- All orders of events that the mouse, the timer and the window can produce. -/
def selectionSystem : TransitionSystem SelectionCtrl SelectionEvent where
  init := SelectionCtrl.New
  step ctrl event ctrl' := ctrl.Possible event ∧ ctrl' = ctrl.next event

/-- libtsm takes every new size. -/
def Resizes (_ : SelectionCtrl) (event : SelectionEvent) : Prop :=
  ∀ cellWidth cellHeight size, event ≠ .onSize cellWidth cellHeight size false

/-! ## The cells the core is asked about -/

/-- A selection is extended to a cell of the grid only. -/
def CoreCall.OnGrid (geometry : CellGeometry) : CoreCall → Prop
  | .updateSelection cell => cell.1 < geometry.columns ∧ cell.2 < geometry.rows
  | _ => True

/-- All calls made so far are about cells of the grid. -/
def CallsOnGrid (geometry : CellGeometry) (members : MouseMembers) : Prop :=
  ∀ call ∈ members.calls, call.OnGrid geometry

theorem callsOnGrid_cleared (geometry : CellGeometry) (members : MouseMembers) :
    CallsOnGrid geometry members.fresh :=
  fun _ hmem => absurd hmem List.not_mem_nil

theorem cellAt_lt {geometry : CellGeometry} (hcolumns : 0 < geometry.columns)
    (hrows : 0 < geometry.rows) (position : Int × Int) :
    (cellAt geometry position).1 < geometry.columns ∧
      (cellAt geometry position).2 < geometry.rows :=
  ⟨Nat.lt_of_le_of_lt (Nat.min_le_right _ _) (Nat.sub_lt hcolumns Nat.one_pos),
    Nat.lt_of_le_of_lt (Nat.min_le_right _ _) (Nat.sub_lt hrows Nat.one_pos)⟩

namespace CallsOnGrid

variable {members : MouseMembers} {input : MouseInput} {geometry : CellGeometry}

theorem call (h : CallsOnGrid geometry members) {call : CoreCall} (hcall : call.OnGrid geometry) :
    CallsOnGrid geometry (members.call call) := by
  intro made hmade
  rcases List.mem_append.mp hmade with hold | hnew
  · exact h made hold
  · cases List.mem_singleton.mp hnew
    exact hcall

theorem handleMouse (h : CallsOnGrid geometry members) (button : Nat) (action : MouseAction) :
    CallsOnGrid geometry (Wx.handleMouse members input button action) := h.call trivial

theorem forwardMouse (h : CallsOnGrid geometry members) (button : MouseButton)
    (action : MouseAction) :
    CallsOnGrid geometry (Wx.forwardMouse members input button action).1 := by
  unfold Wx.forwardMouse
  split
  · exact h
  · exact h.handleMouse button.number action

theorem endMouseReporting (h : CallsOnGrid geometry members) :
    CallsOnGrid geometry (Wx.endMouseReporting members input) := by
  unfold Wx.endMouseReporting
  split
  · exact h
  · exact h.handleMouse members.mouseReportingButton .released

section grid

variable (hgeometry : input.geometry = geometry) (hcolumns : 0 < geometry.columns)
  (hrows : 0 < geometry.rows)

include hgeometry hcolumns hrows

theorem updateSelection (h : CallsOnGrid geometry members) :
    CallsOnGrid geometry
      (members.call (.updateSelection (cellAt input.geometry input.position))) := by
  apply h.call
  rw [hgeometry]
  exact cellAt_lt hcolumns hrows input.position

theorem selectAtPress (h : CallsOnGrid geometry members) :
    CallsOnGrid geometry (Wx.selectAtPress members input) := by
  have hcount : CallsOnGrid geometry (countClick members input) := h
  have hselect : ∀ extendSelection,
      CallsOnGrid geometry (selectByClicks (countClick members input) input extendSelection) := by
    intro extendSelection
    unfold selectByClicks
    dsimp only
    split
    · exact hcount.updateSelection hgeometry hcolumns hrows
    · split
      · refine (hcount.call ?_).call ?_ <;> trivial
      · split
        · refine (hcount.call ?_).call ?_ <;> trivial
        · exact hcount.call trivial
  exact hselect (input.shiftDown && input.hasSelection)

theorem onLeftDown (h : CallsOnGrid geometry members) :
    CallsOnGrid geometry (Wx.onLeftDown members input) := by
  unfold Wx.onLeftDown
  dsimp only
  split
  · exact h.forwardMouse .left .pressed
  · exact (h.forwardMouse .left .pressed).selectAtPress hgeometry hcolumns hrows

theorem onLeftUp (h : CallsOnGrid geometry members) :
    CallsOnGrid geometry (Wx.onLeftUp members input) := by
  have hend : CallsOnGrid geometry (endSelection members input) := by
    unfold endSelection
    dsimp only
    split
    · exact h.updateSelection hgeometry hcolumns hrows
    · exact h
  unfold Wx.onLeftUp
  split
  · exact h.endMouseReporting
  · split
    · exact h
    · split
      · exact hend.call trivial
      · exact hend

theorem dragSelection (h : CallsOnGrid geometry members) :
    CallsOnGrid geometry (Wx.dragSelection members input) := by
  have hstart : CallsOnGrid geometry (startDragging members input) := by
    unfold startDragging
    dsimp only
    split
    · exact h.call trivial
    · exact h
  unfold Wx.dragSelection
  dsimp only
  split
  · exact hstart
  · apply CallsOnGrid.updateSelection hgeometry hcolumns hrows
    unfold autoScroll
    dsimp only
    split
    · exact hstart.call trivial
    · exact hstart

theorem onMotion (h : CallsOnGrid geometry members) :
    CallsOnGrid geometry (Wx.onMotion members input) := by
  unfold Wx.onMotion
  split
  · split
    · exact h.handleMouse _ _
    · exact h
  · split
    · split
      · exact h.handleMouse _ _
      · exact h
    · exact h.dragSelection hgeometry hcolumns hrows

end grid

theorem onMouseButtonDown (h : CallsOnGrid geometry members) (rightDown : Bool) :
    CallsOnGrid geometry (Wx.onMouseButtonDown members input rightDown) := by
  unfold Wx.onMouseButtonDown
  dsimp only
  split
  · split <;> exact h.forwardMouse .right .pressed
  · split <;> exact h.forwardMouse .middle .pressed

theorem onMouseButtonUp (h : CallsOnGrid geometry members) :
    CallsOnGrid geometry (Wx.onMouseButtonUp members input) := by
  unfold Wx.onMouseButtonUp
  split
  · exact h.endMouseReporting
  · exact h

/-- Every handler asks about cells of the grid only, since `CellAt` returns no others. -/
theorem dispatch (h : CallsOnGrid geometry members) {event : MouseEvent}
    (hgeometry : event.input.geometry = geometry) (hcolumns : 0 < geometry.columns)
    (hrows : 0 < geometry.rows) : CallsOnGrid geometry (Wx.dispatch members event) := by
  cases event with
  | down button input =>
    cases button with
    | left => exact h.onLeftDown hgeometry hcolumns hrows
    | middle => exact h.onMouseButtonDown false
    | right => exact h.onMouseButtonDown true
  | doubleClick button input =>
    cases button with
    | left => exact h.onLeftDown hgeometry hcolumns hrows
    | middle | right => exact h
  | up button input =>
    cases button with
    | left => exact h.onLeftUp hgeometry hcolumns hrows
    | middle | right => exact h.onMouseButtonUp
  | motion input => exact h.onMotion hgeometry hcolumns hrows

theorem autoScrollTick (h : CallsOnGrid geometry members) (hcolumns : 0 < geometry.columns)
    (hrows : 0 < geometry.rows) :
    CallsOnGrid geometry (Wx.autoScrollTick geometry members) := by
  unfold Wx.autoScrollTick
  split
  · refine (h.call ?_).call (cellAt_lt hcolumns hrows members.lastPointerPosition)
    trivial
  · exact h

end CallsOnGrid

/-! ## What libtsm is told -/

section told

variable {backend : SelectionBackend} {geometry : CellGeometry}
  {copied : Option (List UInt8)} {ctrl ctrl' : SelectionCtrl}

/-- No call of a handler resizes the screen. -/
theorem callCore_screen (call : CoreCall) :
    (callCore copied backend call).screen = backend.screen := by
  have hstart : ∀ cell, (backend.startSelection cell).screen = backend.screen := by
    intro cell
    unfold SelectionBackend.startSelection
    split <;> rfl
  have hupdate : ∀ (backend : SelectionBackend) (cell : Nat × Nat),
      (backend.updateSelection cell).screen = backend.screen := by
    intro backend cell
    unfold SelectionBackend.updateSelection
    split <;> rfl
  cases call with
  | handleMouse | scrollLines | clearSelection => rfl
  | startSelection cell => exact hstart cell
  | updateSelection cell => exact hupdate backend cell
  | selectWord cell =>
    change (backend.selectWord cell).screen = _
    unfold SelectionBackend.selectWord
    split <;> rfl
  | selectLine row =>
    change (backend.selectLine row).screen = _
    unfold SelectionBackend.selectLine
    split
    · rfl
    · rw [hupdate, hstart]
  | copySelection =>
    change (backend.copySelection copied).1.screen = _
    unfold SelectionBackend.copySelection
    split
    · rfl
    · cases copied <;> rfl

theorem callCore_sound (h : SelectionSound backend) {call : CoreCall}
    (hcall : ∀ cell, call = .updateSelection cell → backend.screen.Has cell) :
    SelectionSound (Wx.callCore copied backend call) := by
  cases call with
  | handleMouse | scrollLines => exact h
  | clearSelection => exact h.clearSelection
  | startSelection cell => exact h.startSelection cell
  | updateSelection cell => exact h.updateSelection (hcall cell rfl)
  | selectWord cell => exact h.selectWord cell
  | selectLine row => exact h.selectLine row
  | copySelection => exact h.copySelection copied

/-- The calls of a handler reach the core one after another. -/
theorem callCore_foldl_sound {calls : List CoreCall}
    (hcalls : ∀ call ∈ calls, call.OnGrid geometry) (h : SelectionSound backend)
    (hcolumns : geometry.columns = backend.screen.width)
    (hrows : geometry.rows = backend.screen.height) :
    SelectionSound (calls.foldl (Wx.callCore copied) backend) ∧
      (calls.foldl (Wx.callCore copied) backend).screen = backend.screen := by
  induction calls generalizing backend with
  | nil => exact ⟨h, rfl⟩
  | cons call calls ih =>
    rw [List.forall_mem_cons] at hcalls
    have hscreen : (Wx.callCore copied backend call).screen = backend.screen :=
      callCore_screen call
    have hcall : ∀ cell, call = .updateSelection cell → backend.screen.Has cell := by
      rintro cell rfl
      rw [ScreenSize.Has, ← hcolumns, ← hrows]
      exact hcalls.1
    obtain ⟨hsound, hsame⟩ := ih hcalls.2 (callCore_sound h hcall)
      (by rw [hscreen, hcolumns]) (by rw [hscreen, hrows])
    exact ⟨hsound, hsame.trans hscreen⟩

/-- What holds of the control and the core in every run. It says nothing of the buttons, so it holds
while presses overlap too. -/
structure SelectionInvariant (ctrl : SelectionCtrl) : Prop where
  sound : SelectionSound ctrl.backend
  fits : ctrl.Fits

theorem SelectionInvariant.columns_pos (h : SelectionInvariant ctrl) :
    0 < ctrl.geometry.columns := by
  rw [h.fits.1]
  exact ctrl.backend.screen.width_pos

theorem SelectionInvariant.rows_pos (h : SelectionInvariant ctrl) : 0 < ctrl.geometry.rows := by
  rw [h.fits.2]
  exact ctrl.backend.screen.height_pos

theorem SelectionInvariant.handle (h : SelectionInvariant ctrl)
    {handler : MouseMembers → MouseMembers}
    (hhandler : CallsOnGrid ctrl.geometry (handler ctrl.members.fresh)) :
    SelectionInvariant (ctrl.handle copied handler) := by
  obtain ⟨hsound, hscreen⟩ := callCore_foldl_sound hhandler h.sound h.fits.1 h.fits.2
  refine ⟨hsound, ?_⟩
  unfold SelectionCtrl.Fits SelectionCtrl.handle
  rw [hscreen]
  exact h.fits

theorem SelectionCtrl.event_geometry (ctrl : SelectionCtrl) (event : MouseEvent) :
    (ctrl.event event).input.geometry = ctrl.geometry := by
  cases event <;> rfl

/-- Every event keeps the core sound and the sizes equal. -/
theorem SelectionInvariant.next (h : SelectionInvariant ctrl) {event : SelectionEvent}
    (hresizes : Resizes ctrl event) : SelectionInvariant (ctrl.next event) := by
  have hcleared := callsOnGrid_cleared ctrl.geometry ctrl.members
  cases event with
  | mouse event copied =>
    obtain ⟨hsound, hfits⟩ :=
      @SelectionInvariant.handle copied ctrl h (dispatch · (ctrl.event event))
        (hcleared.dispatch (ctrl.event_geometry event) h.columns_pos h.rows_pos)
    exact ⟨hsound, hfits⟩
  | timer => exact h.handle (hcleared.autoScrollTick h.columns_pos h.rows_pos)
  | copyKey copied =>
    have hscreen : (ctrl.backend.copySelection copied).1.screen = ctrl.backend.screen :=
      callCore_screen .copySelection
    refine ⟨h.sound.copySelection copied, ?_⟩
    exact ⟨h.fits.1.trans (congrArg ScreenSize.width hscreen.symm),
      h.fits.2.trans (congrArg ScreenSize.height hscreen.symm)⟩
  | onSize cellWidth cellHeight size resized =>
    cases resized with
    | false => exact absurd rfl (hresizes cellWidth cellHeight size)
    | true => exact ⟨h.sound.resize size true, rfl, rfl⟩
  | captureLost => exact ⟨h.sound, h.fits⟩

/-- The invariant holds in every run in which libtsm takes the sizes. -/
theorem selectionInvariant_of_reachable
    (hreachable : selectionSystem.Reachable Resizes ctrl) : SelectionInvariant ctrl := by
  apply TransitionSystem.Reachable.invariant _ _ hreachable
  · intro ctrl hnew
    refine ⟨⟨⟨?_, ?_⟩, fun hactive => ?_⟩, hnew.fits⟩
    · rw [hnew.calls]
      exact .nil
    · rw [hnew.calls]
      exact fun _ hmem => absurd hmem List.not_mem_nil
    · exact absurd (hnew.active.symm.trans hactive) Bool.false_ne_true
  · rintro ctrl event ctrl' - ih hresizes ⟨-, rfl⟩
    exact ih.next hresizes

end told

/-! ## What a press selects -/

/-- What happens between a press and its release. -/
inductive DragEvent where
  | motion (input : MouseInput)
  | timer
  deriving DecidableEq, Repr

/-- The pointer is far enough from where the button went down. -/
def farFrom (position position' : Int × Int) : Bool :=
  decide ((position'.1 - position.1).natAbs ≥ 4 ∨ (position'.2 - position.2).natAbs ≥ 4)

namespace DragEvent

/-- The event of the control. -/
def event : DragEvent → SelectionEvent
  | .motion input => .mouse (.motion input) none
  | .timer => .timer

/-- A motion is one with a button down. -/
def Dragging : DragEvent → Prop
  | .motion input => input.dragging = true
  | .timer => True

/-- The event begins a drag, if none has begun. -/
def drags (position : Int × Int) : DragEvent → Bool
  | .motion input => farFrom position input.position
  | .timer => false

end DragEvent

/-- What a click selects: the second a word, the third a line. -/
def clickSelection (clickCount : Nat) (cell : Nat × Nat) (columns : Nat) : Option Selected :=
  if clickCount = 2 then some ⟨true, cell, cell⟩
  else if clickCount = 3 then some ⟨false, (0, cell.2), (columns - 1, cell.2)⟩
  else none

/-- What a press at one cell and a release at another are to select. With Shift the selection there
was is extended, and a drag selects from the one cell to the other. This is the specification: it
knows the cells and the count of the click, and nothing of the handlers. -/
def pressSelection (before : Option Selected) (extended dragged : Bool) (clickCount : Nat)
    (pressed released : Nat × Nat) (columns : Nat) : Option Selected :=
  if extended then before.map (·.extend released)
  else if dragged then some ⟨false, pressed, released⟩
  else clickSelection clickCount pressed columns

/-- A press of the left button, which may be the second of a double click. -/
def pressEvent (doubleClick : Bool) (input : MouseInput) : SelectionEvent :=
  .mouse (if doubleClick then .doubleClick .left input else .down .left input) none

/-- The release of the left button. -/
def releaseEvent (input : MouseInput) (copied : Option (List UInt8)) : SelectionEvent :=
  .mouse (.up .left input) copied

/-- What stays as it is between a press and its release. While nothing is dragged, `still` is
selected; a drag extends `begun`. All of it is known when the button goes down. -/
structure Press where
  position : Int × Int
  geometry : CellGeometry
  clickCount : Nat
  begun : Selected
  still : Option Selected
  copies : Nat

/-- The cell of the press. -/
def Press.cell (press : Press) : Nat × Nat := cellAt press.geometry press.position

/-- The members between a press and its release. -/
structure Press.Kept (press : Press) (members : MouseMembers) : Prop where
  gesture : members.mouseReportingGesture = false
  pointer : members.pointerDown = true
  position : members.pointerDownPosition = press.position
  anchor : members.selectionAnchor = press.cell
  clickCount : members.clickCount = press.clickCount

/-- A drag of the press has brought its end somewhere. -/
def Press.Dragged (press : Press) (backend : SelectionBackend) : Prop :=
  ∃ target, Shows backend (some (press.begun.extend target)) press.copies

/-- The state between a press and its release. It holds after the press and after every motion and
tick that follows. -/
structure Press.Holds (press : Press) (dragged : Bool) (ctrl : SelectionCtrl) : Prop where
  invariant : SelectionInvariant ctrl
  kept : press.Kept ctrl.members
  dragging : ctrl.members.selectionDragging = dragged
  geometry : ctrl.geometry = press.geometry
  still : dragged = false → Shows ctrl.backend press.still press.copies ∧
    press.begun = ⟨false, press.cell, press.cell⟩
  begun : dragged = true → press.Dragged ctrl.backend

/-- The press extends the selection there is. -/
def SelectionCtrl.extendsSelection (ctrl : SelectionCtrl) (input : MouseInput) : Bool :=
  input.shiftDown && ctrl.backend.hasSelection

/-- The count of the click that a press is. -/
def SelectionCtrl.clicks (ctrl : SelectionCtrl) (input : MouseInput) : Nat :=
  (countClick ctrl.members (ctrl.input input)).clickCount

/-- What a press begins. -/
def SelectionCtrl.pressOf (ctrl : SelectionCtrl) (input : MouseInput) : Press where
  position := input.position
  geometry := ctrl.geometry
  clickCount := ctrl.clicks input
  begun :=
    let cell := cellAt ctrl.geometry input.position
    if ctrl.extendsSelection input then ctrl.backend.selected.getD ⟨false, cell, cell⟩
    else ⟨false, cell, cell⟩
  still := clickSelection (ctrl.clicks input) (cellAt ctrl.geometry input.position)
    ctrl.geometry.columns
  copies := ctrl.backend.copies

section drags

variable {copied : Option (List UInt8)} {ctrl : SelectionCtrl} {press : Press} {dragged : Bool}

/-- The last call of a drag extends the selection. -/
theorem updateSelectionAt_callCore (members : MouseMembers) (input : MouseInput)
    (backend : SelectionBackend) :
    (updateSelectionAt members input).calls.foldl (callCore copied) backend =
      (members.calls.foldl (callCore copied) backend).updateSelection
        (cellAt input.geometry input.position) := by
  unfold updateSelectionAt autoScroll
  dsimp only
  split
  · simp [MouseMembers.call, callCore]
  · simp [MouseMembers.call, callCore]

theorem updateSelectionAt_eq (members : MouseMembers) (input : MouseInput) :
    ∃ calls, updateSelectionAt members input =
      { members with
        autoScrollDirection := edgeDirection input
        calls := calls } := by
  unfold updateSelectionAt autoScroll
  dsimp only
  split
  · exact ⟨_, rfl⟩
  · exact ⟨_, rfl⟩

/-- A motion while the left button is down: it drags, begins to drag, or is not far enough. -/
inductive DragOutcome (members : MouseMembers) (input : MouseInput) : MouseMembers → Prop where
  | drags : members.selectionDragging = true →
      DragOutcome members input
        (updateSelectionAt { members with lastPointerPosition := input.position } input)
  | begins : members.selectionDragging = false →
      farFrom members.pointerDownPosition input.position = true →
      DragOutcome members input
        (updateSelectionAt
          { members.call (.startSelection members.selectionAnchor) with
            selectionDragging := true
            lastPointerPosition := input.position } input)
  | rests : members.selectionDragging = false →
      farFrom members.pointerDownPosition input.position = false →
      DragOutcome members input members

/-- Every motion with the button down is one of the three. -/
theorem dragOutcome (members : MouseMembers) (input : MouseInput) :
    DragOutcome members input (dragSelection members input) := by
  cases hdragging : members.selectionDragging with
  | true =>
    have hstart : startDragging members input = members := if_neg fun h => by simp [hdragging] at h
    have hdrag : dragSelection members input =
        updateSelectionAt { members with lastPointerPosition := input.position } input := by
      unfold dragSelection
      rw [hstart]
      exact if_neg (by simp [hdragging])
    rw [hdrag]
    exact .drags hdragging
  | false =>
    cases hfar : farFrom members.pointerDownPosition input.position with
    | true =>
      have hstart : startDragging members input =
          { members.call (.startSelection members.selectionAnchor) with
            selectionDragging := true } :=
        if_pos ⟨hdragging, of_decide_eq_true hfar⟩
      have hdrag : dragSelection members input =
          updateSelectionAt
            { members.call (.startSelection members.selectionAnchor) with
              selectionDragging := true
              lastPointerPosition := input.position } input := by
        unfold dragSelection
        rw [hstart]
        rfl
      rw [hdrag]
      exact .begins hdragging hfar
    | false =>
      have hstart : startDragging members input = members :=
        if_neg fun h => of_decide_eq_false hfar h.2
      have hdrag : dragSelection members input = members := by
        unfold dragSelection
        rw [hstart]
        exact if_pos (by simp [hdragging])
      rw [hdrag]
      exact .rests hdragging hfar

/-- A motion in a press is a motion of the pointer that drags. -/
theorem onMotion_of_pressed {members : MouseMembers} {input : MouseInput}
    (hgesture : members.mouseReportingGesture = false) (hpointer : members.pointerDown = true)
    (hdragging : input.dragging = true) : onMotion members input = dragSelection members input := by
  unfold onMotion
  rw [hgesture, hpointer, hdragging]
  rfl

/-- A drag extends what it selects. -/
theorem Press.holds_drag {base : MouseMembers} {input : MouseInput} {backend : SelectionBackend}
    (hinvariant : SelectionInvariant ctrl)
    (hmembers : ctrl.members = updateSelectionAt base input)
    (hbackend : ctrl.backend = ctrl.members.calls.foldl (callCore copied) backend)
    (hgeometry : ctrl.geometry = press.geometry) (hkept : press.Kept base)
    (hdragging : base.selectionDragging = true)
    (hdragged : press.Dragged (base.calls.foldl (callCore copied) backend)) :
    press.Holds true ctrl := by
  obtain ⟨calls, heq⟩ := updateSelectionAt_eq base input
  constructor
  case invariant => exact hinvariant
  case kept =>
    rw [hmembers, heq]
    exact ⟨hkept.gesture, hkept.pointer, hkept.position, hkept.anchor, hkept.clickCount⟩
  case dragging =>
    rw [hmembers, heq]
    exact hdragging
  case geometry => exact hgeometry
  case still => exact fun hnot => absurd hnot.symm Bool.false_ne_true
  case begun =>
    intro _
    obtain ⟨target, hshows⟩ := hdragged
    refine ⟨cellAt input.geometry input.position, ?_⟩
    rw [hbackend, hmembers, updateSelectionAt_callCore, ← Selected.extend_extend _ target]
    exact hshows.updateSelection _

/-- The cell of the press is on the screen. -/
theorem Press.Holds.has (h : press.Holds dragged ctrl) : ctrl.backend.screen.Has press.cell := by
  obtain ⟨hcolumn, hrow⟩ := cellAt_lt h.invariant.columns_pos h.invariant.rows_pos press.position
  rw [ScreenSize.Has, ← h.invariant.fits.1, ← h.invariant.fits.2, Press.cell, ← h.geometry]
  exact ⟨hcolumn, hrow⟩

/-- Nothing is called. -/
theorem Press.Holds.rest (h : press.Holds dragged ctrl) {ctrl' : SelectionCtrl}
    (hinvariant : SelectionInvariant ctrl') (hmembers : ctrl'.members = ctrl.members.fresh)
    (hbackend : ctrl'.backend = ctrl.backend) (hgeometry : ctrl'.geometry = ctrl.geometry) :
    press.Holds dragged ctrl' := by
  constructor
  case invariant => exact hinvariant
  case kept =>
    rw [hmembers]
    exact ⟨h.kept.gesture, h.kept.pointer, h.kept.position, h.kept.anchor, h.kept.clickCount⟩
  case dragging =>
    rw [hmembers]
    exact h.dragging
  case geometry => exact hgeometry.trans h.geometry
  case still =>
    rw [hbackend]
    exact h.still
  case begun =>
    rw [hbackend]
    exact h.begun

/-- A motion goes on with the press; one that is far enough begins a drag, and what was selected
before gives way to it. -/
theorem Press.Holds.motion (h : press.Holds dragged ctrl) {input : MouseInput}
    (hdragging : input.dragging = true) :
    press.Holds (dragged || farFrom press.position input.position)
      (ctrl.next (.mouse (.motion input) copied)) := by
  have hinvariant : SelectionInvariant (ctrl.next (.mouse (.motion input) copied)) :=
    h.invariant.next nofun
  have hmembers : (ctrl.next (.mouse (.motion input) copied)).members =
      dragSelection ctrl.members.fresh (ctrl.input input) :=
    onMotion_of_pressed h.kept.gesture h.kept.pointer hdragging
  have hkept : press.Kept ctrl.members.fresh :=
    ⟨h.kept.gesture, h.kept.pointer, h.kept.position, h.kept.anchor, h.kept.clickCount⟩
  generalize hafter : dragSelection ctrl.members.fresh (ctrl.input input) = after
    at hmembers
  have houtcome := dragOutcome ctrl.members.fresh (ctrl.input input)
  rw [hafter] at houtcome
  cases houtcome with
  | drags hbegun =>
    have hdragged : dragged = true := h.dragging.symm.trans hbegun
    subst hdragged
    exact Press.holds_drag hinvariant hmembers rfl h.geometry
      ⟨hkept.gesture, hkept.pointer, hkept.position, hkept.anchor, hkept.clickCount⟩ hbegun
      (h.begun rfl)
  | begins hresting hfar =>
    have hdragged : dragged = false := h.dragging.symm.trans hresting
    subst hdragged
    obtain ⟨hstill, hbegun⟩ := h.still rfl
    have hfar : farFrom ctrl.members.pointerDownPosition input.position = true := hfar
    rw [← h.kept.position, hfar]
    refine Press.holds_drag hinvariant hmembers rfl h.geometry
      ⟨hkept.gesture, hkept.pointer, hkept.position, hkept.anchor, hkept.clickCount⟩ rfl
      ⟨press.cell, ?_⟩
    rw [hbegun, ← hstill.copies]
    change Shows (ctrl.backend.startSelection ctrl.members.selectionAnchor) _ _
    rw [h.kept.anchor]
    exact shows_startSelection h.has
  | rests hresting hnear =>
    have hdragged : dragged = false := h.dragging.symm.trans hresting
    subst hdragged
    have hnear : farFrom ctrl.members.pointerDownPosition input.position = false := hnear
    rw [← h.kept.position, hnear]
    apply h.rest hinvariant hmembers
    · change List.foldl _ _ (ctrl.next (.mouse (.motion input) copied)).members.calls = _
      rw [hmembers]
      rfl
    · rfl

/-- A tick scrolls during a drag, which extends what the drag has begun. -/
theorem Press.Holds.timer (h : press.Holds dragged ctrl) :
    press.Holds dragged (ctrl.next .timer) := by
  have hinvariant : SelectionInvariant (ctrl.next .timer) := h.invariant.next nofun
  have hmembers : (ctrl.next .timer).members =
      autoScrollTick ctrl.geometry ctrl.members.fresh := rfl
  by_cases hscrolls : ctrl.members.selectionDragging ∧ ctrl.members.autoScrollDirection ≠ 0
  · have htick : autoScrollTick ctrl.geometry ctrl.members.fresh =
        (ctrl.members.fresh.call
          (.scrollLines (if ctrl.members.autoScrollDirection < 0 then 1 else -1))).call
            (.updateSelection (cellAt ctrl.geometry ctrl.members.lastPointerPosition)) :=
      if_pos hscrolls
    rw [htick] at hmembers
    have hdragged : dragged = true := h.dragging.symm.trans hscrolls.1
    subst hdragged
    obtain ⟨target, hshows⟩ := h.begun rfl
    constructor
    case invariant => exact hinvariant
    case kept =>
      rw [hmembers]
      exact ⟨h.kept.gesture, h.kept.pointer, h.kept.position, h.kept.anchor, h.kept.clickCount⟩
    case dragging =>
      rw [hmembers]
      exact h.dragging
    case geometry => exact h.geometry
    case still => exact fun hnot => absurd hnot.symm Bool.false_ne_true
    case begun =>
      intro _
      refine ⟨cellAt ctrl.geometry ctrl.members.lastPointerPosition, ?_⟩
      change Shows (List.foldl _ _ (ctrl.next .timer).members.calls) _ _
      rw [hmembers, ← Selected.extend_extend _ target]
      exact hshows.updateSelection _
  · have htick : autoScrollTick ctrl.geometry ctrl.members.fresh = ctrl.members.fresh :=
      if_neg hscrolls
    rw [htick] at hmembers
    apply h.rest hinvariant hmembers
    · change List.foldl _ _ (ctrl.next .timer).members.calls = _
      rw [hmembers]
      rfl
    · rfl

/-- Whatever happens between the press and its release, the last motion that is far enough makes it
a drag. -/
theorem Press.Holds.run (h : press.Holds dragged ctrl) {moves : List DragEvent}
    (hmoves : ∀ move ∈ moves, move.Dragging) :
    press.Holds (dragged || moves.any (·.drags press.position))
      (moves.foldl (fun ctrl move => ctrl.next move.event) ctrl) := by
  induction moves generalizing ctrl dragged with
  | nil => simpa using h
  | cons move moves ih =>
    rw [List.forall_mem_cons] at hmoves
    rw [List.any_cons, ← Bool.or_assoc]
    apply ih _ hmoves.2
    cases move with
    | motion input => exact h.motion hmoves.1
    | timer =>
      rw [DragEvent.drags, Bool.or_false]
      exact h.timer

end drags

section press

variable {copied : Option (List UInt8)} {members : MouseMembers} {input : MouseInput}
  {ctrl : SelectionCtrl} {press : Press} {dragged : Bool}

/-- A press that is not forwarded may have been offered to libtsm, and nothing else. -/
theorem forwardMouse_refused (hlocal : input.forwards = false) (button : MouseButton)
    (action : MouseAction) :
    ∃ calls, forwardMouse members input button action =
        ({ members with calls := members.calls ++ calls }, false) ∧
      ∀ backend, calls.foldl (callCore copied) backend = backend := by
  have hstay : members = { members with calls := members.calls ++ [] } := by
    rw [List.append_nil]
  unfold MouseInput.forwards at hlocal
  unfold forwardMouse
  split
  · refine ⟨[], ?_, fun _ => rfl⟩
    rw [← hstay]
  · rename_i hoffered
    rw [Bool.not_eq_true] at hoffered
    rw [hoffered, Bool.not_false, Bool.true_and] at hlocal
    rw [hlocal]
    exact ⟨[_], rfl, fun _ => rfl⟩

/-- What the core is asked for at a press. -/
theorem selectByClicks_callCore (extended : Bool) (backend : SelectionBackend) :
    (selectByClicks members input extended).calls.foldl (callCore copied) backend =
      if extended then
        (members.calls.foldl (callCore copied) backend).updateSelection
          (cellAt input.geometry input.position)
      else if members.clickCount = 2 then
        (members.calls.foldl (callCore copied) backend).clearSelection.selectWord
          (cellAt input.geometry input.position)
      else if members.clickCount = 3 then
        (members.calls.foldl (callCore copied) backend).clearSelection.selectLine
          (cellAt input.geometry input.position).2
      else (members.calls.foldl (callCore copied) backend).clearSelection := by
  unfold selectByClicks
  dsimp only
  split
  · simp [MouseMembers.call, callCore]
  · split
    · simp [MouseMembers.call, callCore]
    · split
      · simp [MouseMembers.call, callCore]
      · simp [MouseMembers.call, callCore]

/-- Clicks in quick succession are counted from one to three. -/
theorem countClick_range (members : MouseMembers) (input : MouseInput) :
    1 ≤ (countClick members input).clickCount ∧ (countClick members input).clickCount ≤ 3 := by
  unfold countClick
  dsimp only
  split
  · omega
  · omega

/-- A press extends only a selection that is there. -/
theorem SelectionInvariant.pressOf_extends (h : SelectionInvariant ctrl)
    (hextends : ctrl.extendsSelection input = true) :
    ∃ selection, Shows ctrl.backend (some selection) ctrl.backend.copies ∧
      (ctrl.pressOf input).begun = selection := by
  have hactive : ctrl.backend.selectionActive = true := (Bool.and_eq_true_iff.mp hextends).2
  obtain ⟨selection, hselected⟩ := Option.isSome_iff_exists.mp (h.sound.active hactive)
  refine ⟨selection, ⟨hselected, hactive, rfl⟩, ?_⟩
  simp [SelectionCtrl.pressOf, hextends, hselected]

theorem SelectionCtrl.pressOf_begun (hextends : ctrl.extendsSelection input = false) :
    (ctrl.pressOf input).begun =
      ⟨false, cellAt ctrl.geometry input.position, cellAt ctrl.geometry input.position⟩ := by
  simp [SelectionCtrl.pressOf, hextends]

/-- Something is selected by every click but the first. -/
theorem SelectionCtrl.pressOf_still (ctrl : SelectionCtrl) (input : MouseInput) :
    (ctrl.pressOf input).still.isSome = decide ((ctrl.pressOf input).clickCount ≥ 2) := by
  have hrange : 1 ≤ ctrl.clicks input ∧ ctrl.clicks input ≤ 3 := countClick_range _ _
  change (clickSelection (ctrl.clicks input) _ _).isSome = decide (ctrl.clicks input ≥ 2)
  unfold clickSelection
  split
  · rename_i hword
    rw [hword]
    rfl
  · split
    · rename_i hline
      rw [hline]
      rfl
    · symm
      rw [Option.isSome_none, decide_eq_false_iff_not]
      omega

theorem selectByClicks_eq (members : MouseMembers) (input : MouseInput) (extended : Bool) :
    ∃ calls, selectByClicks members input extended = { members with calls := calls } := by
  unfold selectByClicks
  dsimp only
  split
  · exact ⟨_, rfl⟩
  · split
    · exact ⟨_, rfl⟩
    · split
      · exact ⟨_, rfl⟩
      · exact ⟨_, rfl⟩

theorem onLeftDown_refused (hlocal : input.forwards = false) :
    ∃ calls, onLeftDown members.fresh input =
        selectAtPress { members with calls := calls } input ∧
      ∀ backend, calls.foldl (callCore copied) backend = backend := by
  obtain ⟨calls, hforward, hquiet⟩ :=
    @forwardMouse_refused copied members.fresh input hlocal .left .pressed
  refine ⟨calls, ?_, hquiet⟩
  unfold onLeftDown
  rw [hforward]
  rfl

/-- What is selected after a press, and the core knows it. -/
theorem SelectionInvariant.press_backend (h : SelectionInvariant ctrl) (input : MouseInput)
    {calls : List CoreCall}
    (hquiet : calls.foldl (callCore copied) ctrl.backend = ctrl.backend)
    (hmembers : members = countClick { ctrl.members with calls := calls } (ctrl.input input)) :
    Shows
      ((selectByClicks members (ctrl.input input) (ctrl.extendsSelection input)).calls.foldl
        (callCore copied) ctrl.backend)
      (if ctrl.extendsSelection input then
        some ((ctrl.pressOf input).begun.extend (ctrl.pressOf input).cell)
      else (ctrl.pressOf input).still) ctrl.backend.copies := by
  have hcalls : members.calls.foldl (callCore copied) ctrl.backend = ctrl.backend := by
    rw [hmembers]
    exact hquiet
  have hclicks : members.clickCount = ctrl.clicks input := by
    rw [hmembers]
    rfl
  have hhas : ctrl.backend.clearSelection.screen.Has (cellAt ctrl.geometry input.position) := by
    rw [ScreenSize.Has]
    change _ < ctrl.backend.screen.width ∧ _ < ctrl.backend.screen.height
    rw [← h.fits.1, ← h.fits.2]
    exact cellAt_lt h.columns_pos h.rows_pos input.position
  have hclear := shows_clearSelection ctrl.backend
  rw [selectByClicks_callCore, hcalls, hclicks]
  cases hextends : ctrl.extendsSelection input with
  | true =>
    obtain ⟨selection, hshows, hbegun⟩ := h.pressOf_extends hextends
    rw [if_pos rfl, if_pos rfl, hbegun]
    exact hshows.updateSelection _
  | false =>
    rw [if_neg Bool.false_ne_true, if_neg Bool.false_ne_true]
    change Shows _ (clickSelection (ctrl.clicks input) _ _) _
    unfold clickSelection
    split
    · rw [← hclear.copies]
      exact shows_selectWord hhas
    · split
      · rw [← hclear.copies, h.fits.1]
        exact shows_selectLine hhas.2
      · exact hclear

/-- What a press has begun when its handler returns: an extension, or a click of some count. -/
theorem SelectionInvariant.holds_press (h : SelectionInvariant ctrl)
    (hgesture : ctrl.members.mouseReportingGesture = false) (hlocal : input.forwards = false)
    (doubleClick : Bool) :
    (ctrl.pressOf input).Holds (ctrl.extendsSelection input)
      (ctrl.next (pressEvent doubleClick input)) := by
  have hinvariant : SelectionInvariant (ctrl.next (pressEvent doubleClick input)) :=
    h.next nofun
  have hlocal : (ctrl.input input).forwards = false := hlocal
  obtain ⟨calls, hpress, hquiet⟩ := @onLeftDown_refused none ctrl.members _ hlocal
  have hmembers : (ctrl.next (pressEvent doubleClick input)).members =
      selectAtPress { ctrl.members with calls := calls } (ctrl.input input) := by
    rw [← hpress]
    cases doubleClick <;> rfl
  have hbackend : (ctrl.next (pressEvent doubleClick input)).backend =
      (ctrl.next (pressEvent doubleClick input)).members.calls.foldl (callCore none)
        ctrl.backend := by
    cases doubleClick <;> rfl
  have hgeometry : (ctrl.next (pressEvent doubleClick input)).geometry = ctrl.geometry := by
    cases doubleClick <;> rfl
  have hshows := h.press_backend input (hquiet ctrl.backend) rfl
  obtain ⟨made, hselect⟩ := selectByClicks_eq
    (countClick { ctrl.members with calls := calls } (ctrl.input input)) (ctrl.input input)
    (ctrl.extendsSelection input)
  have hat : selectAtPress { ctrl.members with calls := calls } (ctrl.input input) =
      { selectByClicks (countClick { ctrl.members with calls := calls } (ctrl.input input))
          (ctrl.input input) (ctrl.extendsSelection input) with
        pointerDown := true
        selectionDragging := ctrl.extendsSelection input
        pointerDownPosition := input.position
        selectionAnchor := cellAt ctrl.geometry input.position } := rfl
  rw [hmembers, hat] at hbackend
  constructor
  case invariant => exact hinvariant
  case kept =>
    rw [hmembers, hat, hselect]
    exact ⟨hgesture, rfl, rfl, rfl, rfl⟩
  case dragging =>
    rw [hmembers]
    rfl
  case geometry => exact hgeometry
  case still =>
    intro hextends
    rw [hbackend]
    rw [if_neg (by rw [hextends]; exact Bool.false_ne_true)] at hshows
    exact ⟨hshows, SelectionCtrl.pressOf_begun hextends⟩
  case begun =>
    intro hextends
    rw [if_pos hextends] at hshows
    rw [hbackend]
    exact ⟨_, hshows⟩

/-- A release in a press ends the selection, and copies what is selected. -/
theorem onLeftUp_of_pressed (hgesture : members.mouseReportingGesture = false)
    (hpointer : members.pointerDown = true) :
    onLeftUp members input =
      if members.selectionDragging || decide (members.clickCount ≥ 2) then
        (endSelection members input).call .copySelection
      else endSelection members input := by
  unfold onLeftUp
  rw [hgesture, hpointer]
  rfl

/-- The last call of a drag extends the selection to where the button was released. -/
theorem endSelection_callCore (members : MouseMembers) (input : MouseInput)
    (backend : SelectionBackend) :
    (endSelection members input).calls.foldl (callCore copied) backend =
      if members.selectionDragging then
        (members.calls.foldl (callCore copied) backend).updateSelection
          (cellAt input.geometry input.position)
      else members.calls.foldl (callCore copied) backend := by
  unfold endSelection
  dsimp only
  split
  · simp [MouseMembers.call, callCore]
  · rfl

theorem endSelection_idle (members : MouseMembers) (input : MouseInput) :
    (endSelection members input).pointerDown = false ∧
      (endSelection members input).selectionDragging = false ∧
      (endSelection members input).autoScrollDirection = 0 := by
  unfold endSelection
  exact ⟨rfl, rfl, rfl⟩

/-- The release has brought the selection to its end, and copied it. The control is idle again, so
another press may follow. -/
structure Released (ctrl : SelectionCtrl) (selection : Option Selected) (copies : Nat) :
    Prop where
  selected : ctrl.backend.selected = selection
  copies : ctrl.backend.copies = copies + if selection.isSome then 1 else 0
  pointer : ctrl.members.pointerDown = false
  dragging : ctrl.members.selectionDragging = false
  direction : ctrl.members.autoScrollDirection = 0

/-- What the core shows when the selection has come to its end. -/
theorem Press.Holds.ended (h : press.Holds dragged ctrl) (input : MouseInput) :
    Shows
      ((endSelection ctrl.members.fresh (ctrl.input input)).calls.foldl (callCore copied)
        ctrl.backend)
      (if dragged then some (press.begun.extend (cellAt ctrl.geometry input.position))
        else press.still) press.copies := by
  have hdragging : ctrl.members.fresh.selectionDragging = dragged := h.dragging
  rw [endSelection_callCore, hdragging]
  cases dragged with
  | true =>
    obtain ⟨target, hshows⟩ := h.begun rfl
    rw [if_pos rfl, if_pos rfl, ← Selected.extend_extend _ target]
    exact hshows.updateSelection _
  | false =>
    rw [if_neg Bool.false_ne_true, if_neg Bool.false_ne_true]
    exact (h.still rfl).1

/-- The release ends the press in either of its two cases, and copies what is selected. -/
theorem Press.Holds.release (h : press.Holds dragged ctrl)
    (hstill : press.still.isSome = decide (press.clickCount ≥ 2)) (input : MouseInput) :
    Released (ctrl.next (releaseEvent input copied))
      (if dragged then some (press.begun.extend (cellAt ctrl.geometry input.position))
        else press.still) press.copies := by
  have hidle := endSelection_idle ctrl.members.fresh (ctrl.input input)
  have hended := @Press.Holds.ended copied ctrl press dragged h input
  have hcopied : (dragged || press.still.isSome) =
      (if dragged then some (press.begun.extend (cellAt ctrl.geometry input.position))
        else press.still).isSome := by
    cases dragged <;> rfl
  have hmembers : (ctrl.next (releaseEvent input copied)).members =
      onLeftUp ctrl.members.fresh (ctrl.input input) := rfl
  have hbackend : (ctrl.next (releaseEvent input copied)).backend =
      (ctrl.next (releaseEvent input copied)).members.calls.foldl (callCore copied)
        ctrl.backend := rfl
  have hrelease : onLeftUp ctrl.members.fresh (ctrl.input input) =
      if dragged || decide (press.clickCount ≥ 2) then
        (endSelection ctrl.members.fresh (ctrl.input input)).call .copySelection
      else endSelection ctrl.members.fresh (ctrl.input input) := by
    rw [← h.dragging, ← h.kept.clickCount]
    exact onLeftUp_of_pressed h.kept.gesture h.kept.pointer
  rw [hrelease, ← hstill, hcopied] at hmembers
  generalize (if dragged then some (press.begun.extend (cellAt ctrl.geometry input.position))
    else press.still) = selection at hended hmembers ⊢
  cases selection with
  | none =>
    rw [Option.isSome_none, if_neg Bool.false_ne_true] at hmembers
    rw [hmembers] at hbackend
    rw [← hbackend] at hended
    refine ⟨hended.selected, hended.copies, ?_, ?_, ?_⟩ <;> rw [hmembers]
    · exact hidle.1
    · exact hidle.2.1
    · exact hidle.2.2
  | some selection =>
    rw [Option.isSome_some, if_pos rfl] at hmembers
    rw [hmembers, MouseMembers.call, List.foldl_append] at hbackend
    obtain ⟨hselected, hcopies⟩ := hended.copySelection copied
    refine ⟨?_, ?_, ?_, ?_, ?_⟩
    · rw [hbackend]
      exact hselected
    · rw [hbackend]
      exact hcopies
    all_goals rw [hmembers]
    · exact hidle.1
    · exact hidle.2.1
    · exact hidle.2.2

end press

/-! ## Results -/

/-- A press, what happens until its release, and the release. -/
def SelectionCtrl.pressAndRelease (ctrl : SelectionCtrl) (doubleClick : Bool)
    (press release : MouseInput) (moves : List DragEvent) (copied : Option (List UInt8)) :
    SelectionCtrl :=
  (moves.foldl (fun ctrl move => ctrl.next move.event)
    (ctrl.next (pressEvent doubleClick press))).next (releaseEvent release copied)

/-- In every run libtsm is asked what it can answer. -/
theorem selectionCalls_sound {ctrl : SelectionCtrl}
    (hreachable : selectionSystem.Reachable Resizes ctrl) :
    SelectionSound ctrl.backend ∧
      ∀ position, ctrl.backend.screen.Has (cellAt ctrl.geometry position) := by
  have hinvariant := selectionInvariant_of_reachable hreachable
  refine ⟨hinvariant.sound, fun position => ?_⟩
  rw [ScreenSize.Has, ← hinvariant.fits.1, ← hinvariant.fits.2]
  exact cellAt_lt hinvariant.columns_pos hinvariant.rows_pos position

theorem newScreen_width_pos : 0 < 80 := Nat.zero_lt_succ 79

theorem newScreen_height_pos : 0 < 24 := Nat.zero_lt_succ 23

/-- A control with 80 columns and 24 rows whose mouse has done nothing yet. -/
def newSelectionCtrl : SelectionCtrl :=
  { backend := { screen := ⟨80, 24, newScreen_width_pos, newScreen_height_pos⟩ }
    geometry := { cellWidth := 8, cellHeight := 16 } }

theorem newSelectionCtrl_new : newSelectionCtrl.New :=
  ⟨rfl, rfl, rfl, ⟨rfl, rfl⟩, rfl, rfl, fun _ => rfl⟩

theorem selectionCalls_sound_press :
    SelectionSound (newSelectionCtrl.next (pressEvent false {})).backend ∧
      ∀ position, (newSelectionCtrl.next (pressEvent false {})).backend.screen.Has
        (cellAt (newSelectionCtrl.next (pressEvent false {})).geometry position) := by
  apply selectionCalls_sound
  refine .step (a := pressEvent false {}) (.init newSelectionCtrl_new) ?_ ⟨rfl, rfl⟩
  intro cellWidth cellHeight size heq
  cases heq

/-- A press, movements and ticks, and the release select what was meant, and copy it. -/
theorem press_selects {ctrl : SelectionCtrl}
    (hreachable : selectionSystem.Reachable Resizes ctrl)
    (hgesture : ctrl.members.mouseReportingGesture = false) {press : MouseInput}
    (hlocal : press.forwards = false) (doubleClick : Bool) (release : MouseInput)
    {moves : List DragEvent} (hmoves : ∀ move ∈ moves, move.Dragging)
    (copied : Option (List UInt8)) :
    Released (ctrl.pressAndRelease doubleClick press release moves copied)
      (pressSelection ctrl.backend.selected (ctrl.extendsSelection press)
        (moves.any (·.drags press.position)) (ctrl.clicks press)
        (cellAt ctrl.geometry press.position) (cellAt ctrl.geometry release.position)
        ctrl.geometry.columns) ctrl.backend.copies := by
  have hinvariant := selectionInvariant_of_reachable hreachable
  have hruns := (hinvariant.holds_press hgesture hlocal doubleClick).run hmoves
  have hreleased := @Press.Holds.release copied _ _ _ hruns (ctrl.pressOf_still press) release
  rw [hruns.geometry] at hreleased
  have hselection : (if ctrl.extendsSelection press ||
        moves.any (·.drags (ctrl.pressOf press).position) then
        some ((ctrl.pressOf press).begun.extend (cellAt ctrl.geometry release.position))
      else (ctrl.pressOf press).still) =
      pressSelection ctrl.backend.selected (ctrl.extendsSelection press)
        (moves.any (·.drags press.position)) (ctrl.clicks press)
        (cellAt ctrl.geometry press.position) (cellAt ctrl.geometry release.position)
        ctrl.geometry.columns := by
    cases hextends : ctrl.extendsSelection press with
    | true =>
      obtain ⟨selection, hshows, hbegun⟩ := hinvariant.pressOf_extends hextends
      rw [hbegun, hshows.selected]
      rfl
    | false =>
      rw [Bool.false_or, SelectionCtrl.pressOf_begun hextends]
      rfl
  rw [← hselection]
  exact hreleased

theorem press_selects_drag :
    (newSelectionCtrl.pressAndRelease false { position := (4, 4) } { position := (84, 40) }
      [.motion { position := (20, 4), dragging := true }, .timer] none).backend.selected =
        some ⟨false, (0, 0), (10, 2)⟩ := by
  have hmoves : ∀ move ∈ [DragEvent.motion { position := (20, 4), dragging := true }, .timer],
      move.Dragging := by simp [DragEvent.Dragging]
  exact (press_selects (.init newSelectionCtrl_new) rfl rfl false _ hmoves none).selected

end SakuraTerminal.Wx
