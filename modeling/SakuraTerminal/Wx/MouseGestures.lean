import SakuraTerminal.Foundations.TransitionSystem
import Mathlib.Logic.Function.Basic

/-!
# Mouse gestures

The mouse handlers of `src/wx/terminal_ctrl.cpp`. A press either goes to the application, which gets
the release too, or starts a selection in the control. One flag and one button stand for all presses
that went to the application.

They are enough as long as no press goes to the application during a gesture and no other button is
released before the gesture's (`SeparateGestures`): then the application gets the presses and
releases of every button in turns, and the control is idle when all buttons are up
(`mouseGestures_balanced`). Without that a release is reported for the wrong button, or never.

What a handler asks the core, and what wxWidgets and the core answer, is part of the event. Focus,
mouse capture, scroll animations and repaints play no part in a gesture and are left out.

The handlers are written as functions of the members and of the event, with the calls of the core as
a list that only grows. Each handler has one lemma which says what it does to gestures; the rest of
what it does (clicks, drags, selections) is behind `SameGesture`. The property is about the reports
of one button at a time, read off the calls.
-/

set_option autoImplicit false

namespace SakuraTerminal.Wx

open SakuraTerminal.Foundations

/-- `SAKURA_TERMINAL_MOUSE_LEFT` and its neighbours. -/
inductive MouseButton where
  | left
  | middle
  | right
  deriving DecidableEq, Repr

/-- The number the core is given. -/
def MouseButton.number : MouseButton → Nat
  | .left => 0
  | .middle => 1
  | .right => 2

theorem MouseButton.number_injective : Function.Injective MouseButton.number := by
  intro button other h
  cases button <;> cases other <;> first | rfl | cases h

/-- `SAKURA_TERMINAL_MOUSE_PRESSED` and its neighbours. -/
inductive MouseAction where
  | pressed
  | released
  | moved
  deriving DecidableEq, Repr

/-- What `CellAt` reads of the renderer. A renderer has at least one cell, and cells have at least
one pixel each way. -/
structure CellGeometry where
  cellWidth : Int := 1
  cellHeight : Int := 1
  columns : Nat := 80
  rows : Nat := 24
  deriving DecidableEq, Repr

/-- A `wxMouseEvent`, with what the handlers are told while they handle it: the time in
milliseconds, the height of the client area, and the answers of the core. The fields from `now` on
are answers; the handlers ask for them. -/
structure MouseInput where
  position : Int × Int := (0, 0)
  shiftDown : Bool := false
  metaDown : Bool := false
  controlDown : Bool := false
  dragging : Bool := false
  clickCount : Nat := 1
  now : Nat := 0
  geometry : CellGeometry := {}
  clientHeight : Int := 1
  /-- `sakura_terminal_mouse_reporting_enabled`. -/
  reportingEnabled : Bool := false
  /-- libtsm takes a mouse event. -/
  handled : Bool := false
  /-- `sakura_terminal_has_selection`. -/
  hasSelection : Bool := false
  deriving DecidableEq, Repr

/-- A call of the core by a mouse handler. -/
inductive CoreCall where
  | handleMouse (cell pixel : Nat × Nat) (button : Nat) (action : MouseAction) (modifiers : Nat)
  | startSelection (cell : Nat × Nat)
  | updateSelection (cell : Nat × Nat)
  | clearSelection
  | selectWord (cell : Nat × Nat)
  | selectLine (row : Nat)
  | scrollLines (lines : Int)
  | copySelection
  deriving DecidableEq, Repr

/-- The members the mouse handlers use. `calls` are the calls of the core so far. -/
structure MouseMembers where
  selectionDragging : Bool := false
  pointerDown : Bool := false
  mouseReportingGesture : Bool := false
  mouseReportingButton : Nat := MouseButton.left.number
  clickCount : Nat := 0
  pointerDownPosition : Int × Int := (0, 0)
  selectionAnchor : Nat × Nat := (0, 0)
  lastClickCell : Nat × Nat := (0, 0)
  lastClickTime : Nat := 0
  autoScrollDirection : Int := 0
  lastPointerPosition : Int × Int := (0, 0)
  calls : List CoreCall := []
  deriving DecidableEq, Repr

/-! ## The source -/

section source

variable (members : MouseMembers) (input : MouseInput)

def cellAt (geometry : CellGeometry) (position : Int × Int) : Nat × Nat :=
  let column := max 0 position.1 / max 1 geometry.cellWidth
  let row := max 0 position.2 / max 1 geometry.cellHeight
  (min column.toNat (geometry.columns - 1), min row.toNat (geometry.rows - 1))

def mouseModifiers : Nat :=
  (if input.shiftDown then 4 else 0) + (if input.metaDown then 8 else 0) +
    (if input.controlDown then 16 else 0)

def MouseMembers.call (call : CoreCall) : MouseMembers :=
  { members with calls := members.calls ++ [call] }

/-- `sakura_terminal_handle_mouse` at the place of the event. -/
def handleMouse (button : Nat) (action : MouseAction) : MouseMembers :=
  members.call (.handleMouse (cellAt input.geometry input.position)
    ((max 0 input.position.1).toNat, (max 0 input.position.2).toNat) button action
    (mouseModifiers input))

/-- `ForwardMouse`: the members afterwards, and whether the event was forwarded. -/
def forwardMouse (button : MouseButton) (action : MouseAction) : MouseMembers × Bool :=
  if input.shiftDown || !input.reportingEnabled then (members, false)
  else (handleMouse members input button.number action, input.handled)

/-- `BeginMouseReporting`: the gesture and its button are remembered. -/
def beginMouseReporting (button : MouseButton) : MouseMembers :=
  { members with
    mouseReportingGesture := true
    mouseReportingButton := button.number }

/-- `EndMouseReporting`, which reports the button of the gesture whatever button the event is
about. -/
def endMouseReporting : MouseMembers :=
  if !members.mouseReportingGesture then members
  else
    { handleMouse members input members.mouseReportingButton .released with
      mouseReportingGesture := false }

/-- The click is counted: up to three in quick succession on one cell. -/
def countClick : MouseMembers :=
  let cell := cellAt input.geometry input.position
  let sameCell := cell == members.lastClickCell
  let quickClick := decide (input.now - members.lastClickTime < 500)
  { members with
    clickCount :=
      if input.clickCount ≥ 2 ∨ (sameCell && quickClick) = true then members.clickCount % 3 + 1
      else 1
    lastClickTime := input.now
    lastClickCell := cell }

/-- The selection is extended, or cleared and set to a word or a line. -/
def selectByClicks (extendSelection : Bool) : MouseMembers :=
  let cell := cellAt input.geometry input.position
  if extendSelection then members.call (.updateSelection cell)
  else if members.clickCount = 2 then (members.call .clearSelection).call (.selectWord cell)
  else if members.clickCount = 3 then (members.call .clearSelection).call (.selectLine cell.2)
  else members.call .clearSelection

/-- `OnLeftDown` after `ForwardMouse` refused. -/
def selectAtPress : MouseMembers :=
  let extendSelection := input.shiftDown && input.hasSelection
  { selectByClicks (countClick members input) input extendSelection with
    pointerDown := true
    selectionDragging := extendSelection
    pointerDownPosition := input.position
    selectionAnchor := cellAt input.geometry input.position }

/-- `OnLeftDown`, also for a double click. -/
def onLeftDown : MouseMembers :=
  let (members, forwarded) := forwardMouse members input .left .pressed
  if forwarded then beginMouseReporting members .left else selectAtPress members input

/-- The selection is brought to its end. -/
def endSelection : MouseMembers :=
  let members :=
    if members.selectionDragging then
      members.call (.updateSelection (cellAt input.geometry input.position))
    else members
  { members with
    selectionDragging := false
    pointerDown := false
    autoScrollDirection := 0 }

/-- `OnLeftUp`: the end of a gesture, or of a selection, which is copied after a drag and after a
double click. -/
def onLeftUp : MouseMembers :=
  if members.mouseReportingGesture then endMouseReporting members input
  else if !members.pointerDown then members
  else if members.selectionDragging || decide (members.clickCount ≥ 2) then
    (endSelection members input).call .copySelection
  else endSelection members input

/-- `OnMouseButtonDown`; `rightDown` says which of the two buttons the event is about. -/
def onMouseButtonDown (rightDown : Bool) : MouseMembers :=
  let button : MouseButton := if rightDown then .right else .middle
  let (members, forwarded) := forwardMouse members input button .pressed
  if forwarded then beginMouseReporting members button else members

/-- `OnMouseButtonUp`. -/
def onMouseButtonUp : MouseMembers :=
  if members.mouseReportingGesture then endMouseReporting members input else members

/-- The direction in which the view scrolls: -1 above the window, 1 below it and 0 within. -/
def edgeDirection (input : MouseInput) : Int :=
  if input.position.2 < 0 then -1
  else if input.position.2 ≥ input.clientHeight then 1
  else 0

/-- Beyond the upper or lower edge the view scrolls. -/
def autoScroll : MouseMembers :=
  let members := { members with autoScrollDirection := edgeDirection input }
  if edgeDirection input ≠ 0 then
    members.call (.scrollLines (if edgeDirection input < 0 then 1 else -1))
  else members

/-- The view scrolls beyond an edge, and the selection is extended to the cell the pointer is
over. -/
def updateSelectionAt : MouseMembers :=
  (autoScroll members input).call (.updateSelection (cellAt input.geometry input.position))

/-- A selection starts where the button went down, once the pointer is far enough from there. -/
def startDragging : MouseMembers :=
  let distanceX := (input.position.1 - members.pointerDownPosition.1).natAbs
  let distanceY := (input.position.2 - members.pointerDownPosition.2).natAbs
  if members.selectionDragging = false ∧ (distanceX ≥ 4 ∨ distanceY ≥ 4) then
    { members.call (.startSelection members.selectionAnchor) with selectionDragging := true }
  else members

/-- The end of `OnMotion`: the pointer is dragged while the left button is down. -/
def dragSelection : MouseMembers :=
  let members := startDragging members input
  if !members.selectionDragging then members
  else updateSelectionAt { members with lastPointerPosition := input.position } input

/-- `OnMotion`. -/
def onMotion : MouseMembers :=
  if members.mouseReportingGesture then
    if input.dragging then handleMouse members input (32 + members.mouseReportingButton) .moved
    else members
  else if !members.pointerDown || !input.dragging then
    if !input.shiftDown && input.reportingEnabled then
      handleMouse members input MouseButton.left.number .moved
    else members
  else dragSelection members input

end source

/-! ## Runs -/

/-- What the mouse does. A second press in quick succession is a double click. -/
inductive MouseEvent where
  | down (button : MouseButton) (input : MouseInput)
  | doubleClick (button : MouseButton) (input : MouseInput)
  | up (button : MouseButton) (input : MouseInput)
  | motion (input : MouseInput)
  deriving DecidableEq, Repr

/-- The event table of the constructor. Double clicks of the left button alone are handled. -/
def dispatch (members : MouseMembers) : MouseEvent → MouseMembers
  | .down .left input => onLeftDown members input
  | .doubleClick .left input => onLeftDown members input
  | .up .left input => onLeftUp members input
  | .down .right input => onMouseButtonDown members input true
  | .up .right input => onMouseButtonUp members input
  | .down .middle input => onMouseButtonDown members input false
  | .up .middle input => onMouseButtonUp members input
  | .motion input => onMotion members input
  | .doubleClick _ _ => members

/-- The members, the buttons that are down, and those of them whose press was forwarded. The last
two are history variables; the source has nothing of the kind. -/
structure MouseRun where
  members : MouseMembers := {}
  down : MouseButton → Bool := fun _ => false
  forwarded : MouseButton → Bool := fun _ => false

/-- `ForwardMouse` forwards a press. -/
def MouseInput.forwards (input : MouseInput) : Bool :=
  !(input.shiftDown || !input.reportingEnabled) && input.handled

/-- The event is a press that a handler forwards. -/
def MouseEvent.forwards : MouseEvent → Bool
  | .down _ input => input.forwards
  | .doubleClick .left input => input.forwards
  | _ => false

/-- An event, and which buttons are down after it. -/
def MouseRun.next (run : MouseRun) (event : MouseEvent) : MouseRun where
  members := dispatch run.members event
  down :=
    match event with
    | .down button _ | .doubleClick button _ => Function.update run.down button true
    | .up button _ => Function.update run.down button false
    | .motion _ => run.down
  forwarded :=
    match event with
    | .down button _ | .doubleClick button _ => Function.update run.forwarded button event.forwards
    | .up _ _ | .motion _ => run.forwarded

/-- Buttons that are up are pressed, and buttons that are down are released. -/
def Possible (run : MouseRun) : MouseEvent → Prop
  | .down button _ | .doubleClick button _ => run.down button = false
  | .up button _ => run.down button = true
  | .motion _ => True

/-- All orders of events that a mouse can produce. -/
def mouseSystem : TransitionSystem MouseRun MouseEvent where
  init run := run = {}
  step run event run' := Possible run event ∧ run' = run.next event

/-- What the event carries. -/
def MouseEvent.input : MouseEvent → MouseInput
  | .down _ input | .doubleClick _ input | .up _ input | .motion input => input

/-- A possible event is a step of the run. -/
theorem MouseRun.reachable_next {allowed : MouseRun → MouseEvent → Prop} {run : MouseRun}
    (h : mouseSystem.Reachable allowed run) (event : MouseEvent) (hallowed : allowed run event)
    (hpossible : Possible run event) : mouseSystem.Reachable allowed (run.next event) :=
  .step h hallowed ⟨hpossible, rfl⟩

/-- libtsm takes the events it gets while reporting is on. -/
def LibtsmAccepts (_ : MouseRun) (event : MouseEvent) : Prop :=
  event.input.reportingEnabled = true → event.input.handled = true

/-- No press is forwarded during a gesture, and only the button of a gesture is released in it. A
gesture in the control itself may go on at the same time. -/
structure SeparateGestures (run : MouseRun) (event : MouseEvent) : Prop where
  press : event.forwards = true → run.members.mouseReportingGesture = false
  release : ∀ button input, event = .up button input →
    run.members.mouseReportingGesture = true → run.members.mouseReportingButton = button.number

/-! ## What the application gets -/

/-- The press or release of a button that a call forwards. -/
def reportOf (button : MouseButton) : CoreCall → Option MouseAction
  | .handleMouse _ _ number action _ =>
    if number = button.number ∧ action ≠ .moved then some action else none
  | _ => none

/-- The presses and releases of a button that were forwarded. -/
def reports (button : MouseButton) (calls : List CoreCall) : List MouseAction :=
  calls.filterMap (reportOf button)

/-- Every press is followed by one release, but for the last press if one is open. -/
inductive Alternates : List MouseAction → Bool → Prop where
  | nil : Alternates [] false
  | press {actions : List MouseAction} : Alternates actions false →
      Alternates (actions ++ [.pressed]) true
  | release {actions : List MouseAction} : Alternates actions true →
      Alternates (actions ++ [.released]) false

/-- Presses and releases that are all closed come in pairs. -/
theorem Alternates.even {actions : List MouseAction} {held : Bool} (h : Alternates actions held) :
    actions.length % 2 = held.toNat := by
  induction h with
  | nil => rfl
  | press _ ih =>
    rw [List.length_append, List.length_singleton, Nat.add_mod, ih]
    rfl
  | release _ ih =>
    rw [List.length_append, List.length_singleton, Nat.add_mod, ih]
    rfl

/-- The press and release events of every button are forwarded in turns; a press is open as long as
the button is down. When all buttons are up nothing is going on. A button whose press went to the
control reports neither. -/
structure GesturesBalanced (run : MouseRun) : Prop where
  alternate : ∀ button, Alternates (reports button run.members.calls)
    (run.down button && run.forwarded button)
  idle : (∀ button, run.down button = false) → run.members.mouseReportingGesture = false ∧
    run.members.pointerDown = false ∧ run.members.selectionDragging = false

/-! ## What the handlers do -/

section handlers

variable {members : MouseMembers} {input : MouseInput} {button : MouseButton}

/-- Nothing is forwarded, and the gesture goes on. What happens to the selection is left open. -/
structure SameGesture (members members' : MouseMembers) : Prop where
  reports : ∀ button, reports button members'.calls = reports button members.calls
  gesture : members'.mouseReportingGesture = members.mouseReportingGesture
  button : members'.mouseReportingButton = members.mouseReportingButton

theorem SameGesture.refl (members : MouseMembers) : SameGesture members members :=
  ⟨fun _ => rfl, rfl, rfl⟩

/-- A call that forwards neither a press nor a release. -/
theorem SameGesture.call {members' : MouseMembers} (h : SameGesture members members')
    {call : CoreCall} (hcall : ∀ button, reportOf button call = none) :
    SameGesture members (members'.call call) where
  reports button := by
    unfold MouseMembers.call Wx.reports
    rw [List.filterMap_append, List.filterMap_cons, hcall button, List.filterMap_nil,
      List.append_nil]
    exact h.reports button
  gesture := h.gesture
  button := h.button

/-- A press or release is reported for its own button only. -/
theorem reports_handleMouse (other : MouseButton) {action : MouseAction}
    (haction : action ≠ .moved) :
    reports other (handleMouse members input button.number action).calls =
      if button = other then reports other members.calls ++ [action]
      else reports other members.calls := by
  unfold handleMouse MouseMembers.call reports
  rw [List.filterMap_append, List.filterMap_cons, List.filterMap_nil]
  by_cases hbutton : button = other
  · rw [if_pos hbutton, reportOf, if_pos ⟨congrArg _ hbutton, haction⟩]
  · have hnumber : ¬ (button.number = other.number ∧ action ≠ .moved) :=
      fun h => hbutton (MouseButton.number_injective h.1)
    rw [if_neg hbutton, reportOf, if_neg hnumber, List.append_nil]

/-- `ForwardMouse` forwards, or does nothing. -/
theorem forwardMouse_cases (haccepts : input.reportingEnabled = true → input.handled = true)
    (button : MouseButton) (action : MouseAction) :
    forwardMouse members input button action =
      if input.forwards then (handleMouse members input button.number action, true)
      else (members, false) := by
  unfold forwardMouse MouseInput.forwards
  cases hshift : input.shiftDown with
  | true => rfl
  | false =>
    cases hreporting : input.reportingEnabled with
    | false => rfl
    | true => simp [haccepts hreporting]

theorem onLeftDown_eq (haccepts : input.reportingEnabled = true → input.handled = true) :
    onLeftDown members input =
      if input.forwards then
        beginMouseReporting (handleMouse members input MouseButton.left.number .pressed) .left
      else selectAtPress members input := by
  unfold onLeftDown
  rw [forwardMouse_cases haccepts]
  cases input.forwards <;> rfl

/-- If libtsm takes its events, a press is forwarded and begins a gesture, or does nothing. -/
theorem onMouseButtonDown_eq (haccepts : input.reportingEnabled = true → input.handled = true)
    (rightDown : Bool) :
    onMouseButtonDown members input rightDown =
      if input.forwards then
        beginMouseReporting
          (handleMouse members input
            (if rightDown then MouseButton.right else MouseButton.middle).number .pressed)
          (if rightDown then .right else .middle)
      else members := by
  unfold onMouseButtonDown
  dsimp only
  rw [forwardMouse_cases haccepts]
  cases input.forwards <;> rfl

/-- A press that stays in the control. -/
theorem sameGesture_selectAtPress : SameGesture members (selectAtPress members input) := by
  have hcount : SameGesture members (countClick members input) := ⟨fun _ => rfl, rfl, rfl⟩
  have hselect : ∀ extendSelection,
      SameGesture members (selectByClicks (countClick members input) input extendSelection) := by
    intro extendSelection
    unfold selectByClicks
    dsimp only
    split
    · exact hcount.call fun _ => rfl
    · split
      · exact (hcount.call fun _ => rfl).call fun _ => rfl
      · split
        · exact (hcount.call fun _ => rfl).call fun _ => rfl
        · exact hcount.call fun _ => rfl
  obtain ⟨hreports, hgesture, hbutton⟩ := hselect (input.shiftDown && input.hasSelection)
  exact ⟨hreports, hgesture, hbutton⟩

/-- The left button is released outside of a gesture. -/
structure EndsSelection (members members' : MouseMembers) : Prop where
  same : SameGesture members members'
  pointer : members'.pointerDown = false
  dragging : (members.selectionDragging = true → members.pointerDown = true) →
    members'.selectionDragging = false

theorem sameGesture_endSelection : SameGesture members (endSelection members input) := by
  have hupdate : SameGesture members
      (if members.selectionDragging then
        members.call (.updateSelection (cellAt input.geometry input.position))
      else members) := by
    split
    · exact (SameGesture.refl members).call fun _ => rfl
    · exact .refl members
  obtain ⟨hreports, hgesture, hbutton⟩ := hupdate
  exact ⟨hreports, hgesture, hbutton⟩

/-- Outside of a gesture the release of the left button ends what the control has begun. -/
theorem endsSelection_onLeftUp (hgesture : members.mouseReportingGesture = false) :
    EndsSelection members (onLeftUp members input) := by
  unfold onLeftUp
  rw [hgesture, if_neg Bool.false_ne_true]
  cases hpointer : members.pointerDown with
  | false =>
    refine ⟨.refl members, hpointer, fun hdragging => ?_⟩
    cases hselection : members.selectionDragging with
    | false => exact hselection
    | true => exact absurd ((hdragging hselection).symm.trans hpointer) Bool.noConfusion
  | true =>
    rw [Bool.not_true, if_neg Bool.false_ne_true]
    split
    · exact ⟨sameGesture_endSelection.call fun _ => rfl, rfl, fun _ => rfl⟩
    · exact ⟨sameGesture_endSelection, rfl, fun _ => rfl⟩

/-- The pointer moves. -/
structure Moves (members members' : MouseMembers) : Prop where
  same : SameGesture members members'
  pointer : members'.pointerDown = members.pointerDown
  dragging : members'.selectionDragging = true →
    members.selectionDragging = true ∨ members.pointerDown = true

theorem moves_handleMouse (number : Nat) :
    Moves members (handleMouse members input number .moved) where
  same := (SameGesture.refl members).call fun _ => if_neg fun h => h.2 rfl
  pointer := rfl
  dragging := Or.inl

theorem moves_startDragging (hpointer : members.pointerDown = true) :
    Moves members (startDragging members input) := by
  have hcall : SameGesture members (members.call (.startSelection members.selectionAnchor)) :=
    (SameGesture.refl members).call fun _ => rfl
  unfold startDragging
  dsimp only
  split
  · exact ⟨⟨hcall.reports, hcall.gesture, hcall.button⟩, rfl, fun _ => Or.inr hpointer⟩
  · exact ⟨.refl members, rfl, Or.inl⟩

/-- Scrolling and extending the selection change nothing that `Moves` speaks of. -/
theorem Moves.updateSelectionAt {members' : MouseMembers} (h : Moves members members') :
    Moves members (Wx.updateSelectionAt members' input) := by
  have hscroll : Moves members (autoScroll members' input) := by
    have hdirection : SameGesture members
        { members' with autoScrollDirection := edgeDirection input } :=
      ⟨h.same.reports, h.same.gesture, h.same.button⟩
    unfold autoScroll
    dsimp only
    split
    · exact ⟨hdirection.call fun _ => rfl, h.pointer, h.dragging⟩
    · exact ⟨hdirection, h.pointer, h.dragging⟩
  exact ⟨hscroll.same.call fun _ => rfl, hscroll.pointer, hscroll.dragging⟩

theorem moves_dragSelection (hpointer : members.pointerDown = true) :
    Moves members (dragSelection members input) := by
  have hstart : Moves members (startDragging members input) := moves_startDragging hpointer
  unfold dragSelection
  dsimp only
  split
  · exact hstart
  · apply Moves.updateSelectionAt
    exact ⟨⟨hstart.same.reports, hstart.same.gesture, hstart.same.button⟩, hstart.pointer,
      hstart.dragging⟩

/-- A motion leaves the gesture and the button as they are. -/
theorem moves_onMotion : Moves members (onMotion members input) := by
  unfold onMotion
  have hstay : Moves members members := ⟨.refl members, rfl, Or.inl⟩
  split
  · split
    · exact moves_handleMouse _
    · exact hstay
  · split
    · split
      · exact moves_handleMouse _
      · exact hstay
    · rename_i hdrags
      rw [Bool.or_eq_true, not_or] at hdrags
      exact moves_dragSelection (by simpa using hdrags.1)

end handlers

/-! ## The invariant -/

/-- What holds as long as gestures are separate. -/
structure GestureInvariant (members : MouseMembers) (down forwarded : MouseButton → Bool) :
    Prop where
  alternate : ∀ button, Alternates (reports button members.calls)
    (down button && forwarded button)
  /-- A gesture has a button that is down, and its press was forwarded. -/
  gesture : members.mouseReportingGesture = true →
    ∃ button, members.mouseReportingButton = button.number ∧ down button = true ∧
      forwarded button = true
  /-- No other button is down whose press was forwarded. -/
  held : ∀ button, down button = true → forwarded button = true →
    members.mouseReportingGesture = true ∧
      members.mouseReportingButton = button.number
  pointer : members.pointerDown = true →
    down .left = true ∧ forwarded .left = false
  dragging : members.selectionDragging = true → members.pointerDown = true

/-- With all buttons up there is neither a gesture nor a press in the control. -/
theorem GestureInvariant.balanced {run : MouseRun}
    (h : GestureInvariant run.members run.down run.forwarded) :
    GesturesBalanced run where
  alternate := h.alternate
  idle := by
    intro hup
    have hgesture : run.members.mouseReportingGesture = false := by
      rw [← Bool.not_eq_true]
      intro hgesture
      obtain ⟨button, -, hdown, -⟩ := h.gesture hgesture
      exact Bool.false_ne_true ((hup button).symm.trans hdown)
    have hpointer : run.members.pointerDown = false := by
      rw [← Bool.not_eq_true]
      exact fun hpointer => Bool.false_ne_true ((hup .left).symm.trans (h.pointer hpointer).1)
    refine ⟨hgesture, hpointer, ?_⟩
    rw [← Bool.not_eq_true]
    exact fun hdragging => Bool.false_ne_true (hpointer.symm.trans (h.dragging hdragging))

section steps

variable {before members : MouseMembers} {down forwarded : MouseButton → Bool}
  {button : MouseButton} {input : MouseInput}

/-- The open presses and the gesture stay. -/
theorem GestureInvariant.keepsOpen (h : GestureInvariant before down forwarded)
    (hsame : SameGesture before members) {down' forwarded' : MouseButton → Bool}
    (hopen : ∀ other, (down' other && forwarded' other) = (down other && forwarded other))
    (hpointer : members.pointerDown = true → down' .left = true ∧ forwarded' .left = false)
    (hdragging : members.selectionDragging = true → members.pointerDown = true) :
    GestureInvariant members down' forwarded' where
  alternate := by
    intro other
    rw [hsame.reports other, hopen other]
    exact h.alternate other
  gesture := by
    intro hgesture
    obtain ⟨other, hnumber, hdown, hforwarded⟩ := h.gesture (hsame.gesture ▸ hgesture)
    have hboth := hopen other
    rw [hdown, hforwarded, Bool.and_self, Bool.and_eq_true] at hboth
    exact ⟨other, hsame.button.trans hnumber, hboth⟩
  held := by
    intro other hdown hforwarded
    have hboth := hopen other
    rw [hdown, hforwarded] at hboth
    obtain ⟨hwasDown, hwasForwarded⟩ := Bool.and_eq_true_iff.1 hboth.symm
    rw [hsame.gesture, hsame.button]
    exact h.held other hwasDown hwasForwarded
  pointer := hpointer
  dragging := hdragging

/-- A button goes down, and its press is forwarded outside of a gesture. -/
theorem GestureInvariant.forwardPress (h : GestureInvariant before down forwarded)
    (hup : down button = false) (hgesture : before.mouseReportingGesture = false) :
    GestureInvariant (beginMouseReporting (handleMouse before input button.number .pressed) button)
      (Function.update down button true) (Function.update forwarded button true) := by
  have hnone : ∀ other, (down other && forwarded other) = false := by
    intro other
    rw [← Bool.not_eq_true, Bool.and_eq_true]
    rintro ⟨hdown, hforwarded⟩
    exact Bool.false_ne_true (hgesture.symm.trans (h.held other hdown hforwarded).1)
  constructor
  case alternate =>
    intro other
    change Alternates (reports other (handleMouse before input button.number .pressed).calls) _
    rw [reports_handleMouse other (by simp)]
    by_cases hsame : button = other
    · subst hsame
      rw [if_pos rfl, Function.update_self, Function.update_self]
      exact (hnone button ▸ h.alternate button).press
    · rw [if_neg hsame, Function.update_of_ne (Ne.symm hsame),
        Function.update_of_ne (Ne.symm hsame)]
      exact h.alternate other
  case gesture =>
    exact fun _ => ⟨button, rfl, Function.update_self .., Function.update_self ..⟩
  case held =>
    intro other hdown hforwarded
    by_cases hsame : other = button
    · exact ⟨rfl, by rw [hsame]; rfl⟩
    · rw [Function.update_of_ne hsame] at hdown hforwarded
      have hopen := hnone other
      rw [hdown, hforwarded] at hopen
      cases hopen
  case pointer =>
    intro hpointer
    obtain ⟨hdown, hforwarded⟩ := h.pointer hpointer
    have hne : MouseButton.left ≠ button := by
      rintro rfl
      exact Bool.false_ne_true (hup.symm.trans hdown)
    rw [Function.update_of_ne hne, Function.update_of_ne hne]
    exact ⟨hdown, hforwarded⟩
  case dragging => exact h.dragging

/-- A button goes down, and its press stays in the control. -/
theorem GestureInvariant.localPress (h : GestureInvariant before down forwarded)
    (hup : down button = false) (hsame : SameGesture before members)
    (hpointer : members.pointerDown = true →
      before.pointerDown = true ∨ button = .left)
    (hdragging : members.selectionDragging = true → members.pointerDown = true) :
    GestureInvariant members (Function.update down button true)
      (Function.update forwarded button false) := by
  apply h.keepsOpen hsame ?_ ?_ hdragging
  · intro other
    by_cases hother : other = button
    · subst hother
      rw [Function.update_self, Function.update_self, hup]
      rfl
    · rw [Function.update_of_ne hother, Function.update_of_ne hother]
  · intro hdown
    by_cases hleft : MouseButton.left = button
    · rw [← hleft, Function.update_self, Function.update_self]
      exact ⟨rfl, rfl⟩
    · rw [Function.update_of_ne hleft, Function.update_of_ne hleft]
      exact h.pointer ((hpointer hdown).resolve_right (Ne.symm hleft))

/-- The button of a gesture goes up. -/
theorem GestureInvariant.endGesture (h : GestureInvariant before down forwarded)
    (hgesture : before.mouseReportingGesture = true)
    (hbutton : before.mouseReportingButton = button.number) :
    GestureInvariant (endMouseReporting before input) (Function.update down button false)
      forwarded := by
  obtain ⟨owner, howner, hdown, hforwarded⟩ := h.gesture hgesture
  obtain rfl : owner = button := MouseButton.number_injective (howner.symm.trans hbutton)
  have hmembers : endMouseReporting before input =
      { handleMouse before input owner.number .released with
        mouseReportingGesture := false } := by
    unfold endMouseReporting
    rw [hgesture, hbutton]
    rfl
  rw [hmembers]
  constructor
  case alternate =>
    intro other
    change Alternates (reports other (handleMouse before input owner.number .released).calls) _
    rw [reports_handleMouse other (by simp)]
    by_cases hsame : owner = other
    · subst hsame
      rw [if_pos rfl, Function.update_self]
      have hopen := h.alternate owner
      rw [hdown, hforwarded] at hopen
      exact hopen.release
    · rw [if_neg hsame, Function.update_of_ne (Ne.symm hsame)]
      exact h.alternate other
  case gesture => exact fun hfalse => Bool.noConfusion hfalse
  case held =>
    intro other hother hotherForwarded
    by_cases hsame : other = owner
    · rw [hsame, Function.update_self] at hother
      cases hother
    · rw [Function.update_of_ne hsame] at hother
      have hnumber := (h.held other hother hotherForwarded).2
      exact absurd (MouseButton.number_injective (hnumber.symm.trans hbutton)) hsame
  case pointer =>
    intro hpointer
    obtain ⟨hleft, hlocal⟩ := h.pointer hpointer
    have hne : MouseButton.left ≠ owner := by
      rintro rfl
      exact Bool.false_ne_true (hlocal.symm.trans hforwarded)
    rw [Function.update_of_ne hne]
    exact ⟨hleft, hlocal⟩
  case dragging => exact h.dragging

/-- A button goes up outside of a gesture. -/
theorem GestureInvariant.localRelease (h : GestureInvariant before down forwarded)
    (hgesture : before.mouseReportingGesture = false)
    (hsame : SameGesture before members)
    (hpointer : members.pointerDown = true →
      before.pointerDown = true ∧ button ≠ .left)
    (hdragging : members.selectionDragging = true → members.pointerDown = true) :
    GestureInvariant members (Function.update down button false) forwarded := by
  have hnone : ∀ other, down other = true → forwarded other = false := by
    intro other hdown
    rw [← Bool.not_eq_true]
    intro hforwarded
    exact Bool.false_ne_true (hgesture.symm.trans (h.held other hdown hforwarded).1)
  apply h.keepsOpen hsame ?_ ?_ hdragging
  · intro other
    by_cases hother : other = button
    · subst hother
      rw [Function.update_self]
      cases hdown : down other with
      | false => rfl
      | true =>
        rw [hnone other hdown]
        rfl
    · rw [Function.update_of_ne hother]
  · intro hdown
    obtain ⟨hwasDown, hne⟩ := hpointer hdown
    rw [Function.update_of_ne (Ne.symm hne)]
    exact h.pointer hwasDown

/-- The pointer moves. -/
theorem GestureInvariant.motion (h : GestureInvariant before down forwarded)
    (hmoves : Moves before members) :
    GestureInvariant members down forwarded := by
  apply h.keepsOpen hmoves.same (fun _ => rfl)
  · exact fun hdown => h.pointer (hmoves.pointer ▸ hdown)
  · intro hdrags
    rw [hmoves.pointer]
    exact (hmoves.dragging hdrags).elim h.dragging id

end steps

/-! ## Runs of separate gestures -/

section run

variable {run : MouseRun} {input : MouseInput}

/-- The members agree with the buttons. -/
def MouseRun.Consistent (run : MouseRun) : Prop :=
  GestureInvariant run.members run.down run.forwarded

/-- The left button goes down, outside of any gesture if its press is forwarded. -/
theorem MouseRun.Consistent.leftDown (h : run.Consistent)
    (haccepts : input.reportingEnabled = true → input.handled = true)
    (hup : run.down .left = false)
    (hseparate : input.forwards = true → run.members.mouseReportingGesture = false) :
    GestureInvariant (onLeftDown run.members input) (Function.update run.down .left true)
      (Function.update run.forwarded .left input.forwards) := by
  rw [onLeftDown_eq haccepts]
  cases hforwards : input.forwards with
  | true => exact GestureInvariant.forwardPress h hup (hseparate hforwards)
  | false =>
    apply GestureInvariant.localPress h hup sameGesture_selectAtPress
    · exact fun _ => Or.inr rfl
    · exact fun _ => rfl

/-- The same for the other two buttons, whose presses begin no selection. -/
theorem MouseRun.Consistent.buttonDown {button : MouseButton} (h : run.Consistent)
    (haccepts : input.reportingEnabled = true → input.handled = true)
    (hup : run.down button = false)
    (hseparate : input.forwards = true → run.members.mouseReportingGesture = false)
    (rightDown : Bool) (hbutton : button = if rightDown then .right else .middle) :
    GestureInvariant (onMouseButtonDown run.members input rightDown)
      (Function.update run.down button true)
      (Function.update run.forwarded button input.forwards) := by
  rw [onMouseButtonDown_eq haccepts, ← hbutton]
  cases hforwards : input.forwards with
  | true => exact GestureInvariant.forwardPress h hup (hseparate hforwards)
  | false => exact GestureInvariant.localPress h hup (.refl run.members) Or.inl h.dragging

/-- The left button goes up. During a gesture it is the button of that gesture. -/
theorem MouseRun.Consistent.leftUp (h : run.Consistent)
    (hseparate : run.members.mouseReportingGesture = true →
      run.members.mouseReportingButton = MouseButton.left.number) :
    GestureInvariant (onLeftUp run.members input) (Function.update run.down .left false)
      run.forwarded := by
  cases hgesture : run.members.mouseReportingGesture with
  | true =>
    have hhandler : onLeftUp run.members input = endMouseReporting run.members input := by
      rw [onLeftUp, hgesture, if_pos rfl]
    rw [hhandler]
    exact GestureInvariant.endGesture h hgesture (hseparate hgesture)
  | false =>
    have hends : EndsSelection run.members (onLeftUp run.members input) :=
      endsSelection_onLeftUp hgesture
    apply GestureInvariant.localRelease h hgesture hends.same
    · intro hdown
      exact absurd (hends.pointer.symm.trans hdown) Bool.noConfusion
    · intro hdrags
      exact absurd ((hends.dragging h.dragging).symm.trans hdrags) Bool.noConfusion

/-- The same for the other two. -/
theorem MouseRun.Consistent.buttonUp {button : MouseButton} (h : run.Consistent)
    (hne : button ≠ .left)
    (hseparate : run.members.mouseReportingGesture = true →
      run.members.mouseReportingButton = button.number) :
    GestureInvariant (onMouseButtonUp run.members input) (Function.update run.down button false)
      run.forwarded := by
  rw [onMouseButtonUp]
  cases hgesture : run.members.mouseReportingGesture with
  | true => exact GestureInvariant.endGesture h hgesture (hseparate hgesture)
  | false =>
    apply GestureInvariant.localRelease h hgesture (.refl run.members)
    · exact fun hdown => ⟨hdown, hne⟩
    · exact h.dragging

/-- The second press of the right or the middle button in quick succession is not handled. -/
theorem MouseRun.Consistent.unhandled {button : MouseButton} (h : run.Consistent)
    (hup : run.down button = false) :
    GestureInvariant run.members (Function.update run.down button true)
      (Function.update run.forwarded button false) :=
  GestureInvariant.localPress h hup (.refl run.members) Or.inl h.dragging

/-- Every event of a run of separate gestures keeps the members and the buttons together. -/
theorem MouseRun.Consistent.next (h : run.Consistent) {event : MouseEvent}
    (hpossible : Possible run event) (haccepts : LibtsmAccepts run event)
    (hseparate : SeparateGestures run event) :
    (run.next event).Consistent := by
  cases event with
  | down button input =>
    cases button with
    | left => exact h.leftDown haccepts hpossible hseparate.press
    | middle => exact h.buttonDown haccepts hpossible hseparate.press false rfl
    | right => exact h.buttonDown haccepts hpossible hseparate.press true rfl
  | doubleClick button input =>
    cases button with
    | left => exact h.leftDown haccepts hpossible hseparate.press
    | middle => exact h.unhandled hpossible
    | right => exact h.unhandled hpossible
  | up button input =>
    have hbutton := hseparate.release button input rfl
    cases button with
    | left => exact h.leftUp hbutton
    | middle => exact h.buttonUp (by decide) hbutton
    | right => exact h.buttonUp (by decide) hbutton
  | motion input => exact GestureInvariant.motion h moves_onMotion

theorem MouseRun.consistent_init : MouseRun.Consistent {} where
  alternate := fun _ => .nil
  gesture := fun h => Bool.noConfusion h
  held := fun _ h => Bool.noConfusion h
  pointer := fun h => Bool.noConfusion h
  dragging := fun h => Bool.noConfusion h

/-- In every run of separate gestures, each forwarded press is followed by one forwarded release of
its button when that goes up, and the control is idle when all buttons are up. -/
theorem mouseGestures_balanced
    (h : mouseSystem.Reachable (fun run event =>
      LibtsmAccepts run event ∧ SeparateGestures run event) run) : GesturesBalanced run := by
  apply GestureInvariant.balanced
  apply h.invariant (I := MouseRun.Consistent)
  · rintro _ rfl
    exact MouseRun.consistent_init
  · rintro run event _ - hrun ⟨haccepts, hseparate⟩ ⟨hpossible, rfl⟩
    exact hrun.next hpossible haccepts hseparate

end run

/-- The application asked for mouse events. -/
def reportedInput : MouseInput := { reportingEnabled := true, handled := true }

/-- A click of the left button. -/
def clickEvents : List MouseEvent := [.down .left reportedInput, .up .left reportedInput]

/-- The left and the right button are pressed and released in this order. -/
def overlappingEvents : List MouseEvent :=
  [.down .left reportedInput, .down .right reportedInput, .up .left reportedInput,
    .up .right reportedInput]

theorem mouseGestures_balanced_click : GesturesBalanced (clickEvents.foldl MouseRun.next {}) := by
  apply mouseGestures_balanced
  apply MouseRun.reachable_next
  · apply MouseRun.reachable_next (.init rfl)
    · refine ⟨fun _ => rfl, fun _ => rfl, ?_⟩
      exact fun _ _ h => by cases h
    · rfl
  · refine ⟨fun _ => rfl, fun h => Bool.noConfusion h, ?_⟩
    intro button input h _
    cases h
    rfl
  · rfl

/-- The left button's press is never followed by a release. -/
theorem not_mouseGestures_balanced :
    ¬ ∀ run, mouseSystem.Reachable LibtsmAccepts run → GesturesBalanced run := by
  intro h
  have hreach : mouseSystem.Reachable LibtsmAccepts (overlappingEvents.foldl MouseRun.next {}) := by
    apply MouseRun.reachable_next
    · apply MouseRun.reachable_next
      · apply MouseRun.reachable_next
        · exact MouseRun.reachable_next (.init rfl) _ (fun _ => rfl) rfl
        · exact fun _ => rfl
        · rfl
      · exact fun _ => rfl
      · rfl
    · exact fun _ => rfl
    · rfl
  have hleft := (h _ hreach).alternate .left
  have hreports : reports .left (overlappingEvents.foldl MouseRun.next {}).members.calls =
      [.pressed] := by decide
  rw [hreports] at hleft
  exact absurd hleft.even (by decide)

end SakuraTerminal.Wx
