import SakuraTerminal.Wx.SelectionDrags

/-!
# The mouse capture

`CaptureMouse` and `ReleaseMouse` in the mouse handlers of `src/wx/terminal_ctrl.cpp`. A press of
the left button captures the mouse, and so does a forwarded press of another button; the handlers of
the releases give it back. wxWidgets may take the capture away at any time.

As long as a press that captures does not come during another, the mouse is captured exactly while
one of them goes on, so never twice and never with all buttons up, and the timer scrolls the view
only while the left button is held (`mouseCapture_exact`). Of two that overlap, one leaves its
capture behind.

The handlers ask for the capture at a press and give it back at a release, and what they look at
between the two are the members that tell a drag from a reported gesture. The invariant therefore
bounds the captures by these members, and these by the buttons that are down. Where two presses
overlap the members of the second replace those of the first, whose release then finds nothing to
give back.
-/

set_option autoImplicit false

namespace SakuraTerminal.Wx

open SakuraTerminal.Core SakuraTerminal.Foundations

/-- A press captures the mouse only while no other press has it. Presses that do not capture may
come at any time. -/
def OnePress (ctrl : SelectionCtrl) (event : SelectionEvent) : Prop :=
  ∀ mouse copied, event = .mouse mouse copied → mouse.captures = true →
    ctrl.members.mouseReportingGesture = false ∧ ctrl.members.pointerDown = false

/-- What holds of the capture while presses that capture do not overlap. A capture that was taken
away is not given back again. -/
structure CaptureInvariant (members : MouseMembers) (captures : Nat) (lost : Bool)
    (down : MouseButton → Bool) : Prop where
  captured : captures =
    if (members.mouseReportingGesture || members.pointerDown) && !lost then 1 else 0
  one : members.mouseReportingGesture = true → members.pointerDown = false
  gesture : members.mouseReportingGesture = true →
    ∃ button, members.mouseReportingButton = button.number ∧ down button = true
  pointer : members.pointerDown = true → down .left = true
  dragging : members.selectionDragging = true → members.pointerDown = true
  direction : members.autoScrollDirection ≠ 0 → members.selectionDragging = true

section capture

variable {members : MouseMembers} {captures : Nat} {lost : Bool} {down : MouseButton → Bool}
  {input : MouseInput} {button : MouseButton}

theorem forwardMouse_snd (action : MouseAction) :
    (forwardMouse members input button action).2 = input.forwards := by
  unfold forwardMouse MouseInput.forwards
  cases hoffered : (input.shiftDown || !input.reportingEnabled) with
  | true => rfl
  | false => rfl

theorem forwardMouse_fst (action : MouseAction) :
    ∃ calls, (forwardMouse members input button action).1 = { members with calls := calls } := by
  unfold forwardMouse
  split
  · exact ⟨members.calls, rfl⟩
  · exact ⟨_, rfl⟩

namespace CaptureInvariant

/-- Calls alone change nothing. -/
theorem calls (h : CaptureInvariant members captures lost down) (calls : List CoreCall) :
    CaptureInvariant { members with calls := calls } captures lost down :=
  ⟨h.captured, h.one, h.gesture, h.pointer, h.dragging, h.direction⟩

/-- A button more is down. -/
theorem press (h : CaptureInvariant members captures lost down) (button : MouseButton) :
    CaptureInvariant members captures lost (Function.update down button true) where
  captured := h.captured
  one := h.one
  gesture hgesture := by
    obtain ⟨held, hnumber, hheld⟩ := h.gesture hgesture
    refine ⟨held, hnumber, ?_⟩
    rw [Function.update_apply]
    split
    · rfl
    · exact hheld
  pointer hpointer := by
    rw [Function.update_apply]
    split
    · rfl
    · exact h.pointer hpointer
  dragging := h.dragging
  direction := h.direction

/-- Nothing is captured while nothing is pressed. -/
theorem captured_idle (h : CaptureInvariant members captures lost down)
    (hgesture : members.mouseReportingGesture = false) (hpointer : members.pointerDown = false) :
    captures = 0 := by
  rw [h.captured, hgesture, hpointer]
  rfl

theorem released (h : CaptureInvariant members captures lost down) : releaseMouse captures = 0 := by
  rw [h.captured]
  split <;> rfl

/-- Without a press nothing is dragged. -/
theorem undragged (h : CaptureInvariant members captures lost down)
    (hpointer : members.pointerDown = false) :
    members.selectionDragging = false ∧ members.autoScrollDirection = 0 := by
  have hdragging : members.selectionDragging = false := by
    rw [← Bool.not_eq_true]
    exact fun hdragging => Bool.false_ne_true (hpointer.symm.trans (h.dragging hdragging))
  refine ⟨hdragging, ?_⟩
  by_contra hdirection
  exact Bool.false_ne_true (hdragging.symm.trans (h.direction hdirection))

/-- A forwarded press captures the mouse for its gesture. -/
theorem beginMouseReporting (h : CaptureInvariant members captures lost down)
    (hgesture : members.mouseReportingGesture = false) (hpointer : members.pointerDown = false)
    (button : MouseButton) :
    CaptureInvariant (Wx.beginMouseReporting members button) (captures + 1) false
      (Function.update down button true) where
  captured := by
    rw [h.captured_idle hgesture hpointer]
    rfl
  one _ := hpointer
  gesture _ := ⟨button, rfl, Function.update_self ..⟩
  pointer hpressed := absurd (hpointer.symm.trans hpressed) Bool.false_ne_true
  dragging hdragging := absurd ((h.undragged hpointer).1.symm.trans hdragging) Bool.false_ne_true
  direction hdirection := absurd (h.undragged hpointer).2 hdirection

/-- A gesture ends, whichever button ends it. -/
theorem endMouseReporting (h : CaptureInvariant members captures lost down)
    (hgesture : members.mouseReportingGesture = true) (button : MouseButton) :
    CaptureInvariant (Wx.endMouseReporting members input) (releaseMouse captures) lost
      (Function.update down button false) := by
  have hpointer := h.one hgesture
  have hend : Wx.endMouseReporting members input =
      { handleMouse members input members.mouseReportingButton .released with
        mouseReportingGesture := false } := by
    unfold Wx.endMouseReporting
    rw [hgesture]
    rfl
  rw [hend, h.released]
  constructor
  case captured =>
    change 0 = if (false || members.pointerDown) && !lost then 1 else 0
    rw [hpointer]
    rfl
  case one => exact fun hnot => absurd hnot Bool.false_ne_true
  case gesture => exact fun hnot => absurd hnot Bool.false_ne_true
  case pointer => exact fun hpressed => absurd (hpointer.symm.trans hpressed) Bool.false_ne_true
  case dragging => exact h.dragging
  case direction => exact h.direction

/-- A press of the left button captures the mouse, forwarded or not. -/
theorem onLeftDown (h : CaptureInvariant members captures lost down)
    (hgesture : members.mouseReportingGesture = false) (hpointer : members.pointerDown = false) :
    CaptureInvariant (Wx.onLeftDown members input) (captures + 1) false
      (Function.update down .left true) := by
  obtain ⟨calls, hcalls⟩ := @forwardMouse_fst members input .left .pressed
  unfold Wx.onLeftDown
  dsimp only
  rw [hcalls]
  split
  · exact (h.calls calls).beginMouseReporting hgesture hpointer .left
  · obtain ⟨made, hselect⟩ := selectByClicks_eq
      (countClick { members with calls := calls } input) input
      (input.shiftDown && input.hasSelection)
    have hdirection : members.autoScrollDirection = 0 := (h.undragged hpointer).2
    unfold selectAtPress
    dsimp only
    rw [hselect]
    constructor
    case captured =>
      rw [h.captured_idle hgesture hpointer]
      change 1 = if (members.mouseReportingGesture || true) && !false then 1 else 0
      rw [Bool.or_true]
      rfl
    case one => exact fun hreports => absurd (hgesture.symm.trans hreports) Bool.false_ne_true
    case gesture => exact fun hreports => absurd (hgesture.symm.trans hreports) Bool.false_ne_true
    case pointer => exact fun _ => Function.update_self ..
    case dragging => exact fun _ => rfl
    case direction => exact fun hscrolls => absurd hdirection hscrolls

/-- A press of another button captures the mouse if it is forwarded. -/
theorem onMouseButtonDown (h : CaptureInvariant members captures lost down)
    (hone : input.forwards = true → members.mouseReportingGesture = false ∧
      members.pointerDown = false) (rightDown : Bool) :
    CaptureInvariant (Wx.onMouseButtonDown members input rightDown)
      (if input.forwards then captures + 1 else captures) (lost && !input.forwards)
      (Function.update down (if rightDown then .right else .middle) true) := by
  generalize hbutton : (if rightDown then MouseButton.right else MouseButton.middle) = button
  obtain ⟨calls, hcalls⟩ := @forwardMouse_fst members input button .pressed
  have hdown : Wx.onMouseButtonDown members input rightDown =
      if input.forwards then Wx.beginMouseReporting { members with calls := calls } button
      else { members with calls := calls } := by
    unfold Wx.onMouseButtonDown
    dsimp only
    rw [hbutton, hcalls, forwardMouse_snd]
  rw [hdown]
  cases hforwards : input.forwards with
  | true =>
    rw [if_pos rfl, if_pos rfl, Bool.not_true, Bool.and_false]
    exact (h.calls calls).beginMouseReporting (hone hforwards).1 (hone hforwards).2 button
  | false =>
    rw [if_neg Bool.false_ne_true, if_neg Bool.false_ne_true, Bool.not_false, Bool.and_true]
    exact (h.calls calls).press button

/-- A button goes up that no press depends on. -/
theorem release (h : CaptureInvariant members captures lost down)
    (hgesture : members.mouseReportingGesture = false)
    (hpointer : members.pointerDown = true → button ≠ .left) :
    CaptureInvariant members captures lost (Function.update down button false) where
  captured := h.captured
  one := h.one
  gesture hreports := absurd (hgesture.symm.trans hreports) Bool.false_ne_true
  pointer hpressed := by
    rw [Function.update_of_ne (hpointer hpressed).symm]
    exact h.pointer hpressed
  dragging := h.dragging
  direction := h.direction

/-- The release gives the capture back, of a gesture or of a press in the control; if neither goes
on, nothing is held. -/
theorem onLeftUp (h : CaptureInvariant members captures lost down) :
    CaptureInvariant (Wx.onLeftUp members input)
      (if members.mouseReportingGesture || members.pointerDown then releaseMouse captures
        else captures) lost (Function.update down .left false) := by
  cases hgesture : members.mouseReportingGesture with
  | true =>
    rw [Bool.true_or, if_pos rfl, Wx.onLeftUp, if_pos hgesture]
    exact h.endMouseReporting hgesture .left
  | false =>
    cases hpointer : members.pointerDown with
    | false =>
      rw [Bool.or_false, if_neg Bool.false_ne_true, Wx.onLeftUp, hgesture, hpointer,
        if_neg Bool.false_ne_true, Bool.not_false, if_pos rfl]
      exact h.release hgesture fun hpressed =>
        absurd (hpointer.symm.trans hpressed) Bool.false_ne_true
    | true =>
      have hidle := endSelection_idle members input
      have hends : CaptureInvariant (endSelection members input) 0 lost
          (Function.update down .left false) := by
        have hsame : (endSelection members input).mouseReportingGesture = false := by
          rw [← hgesture]
          exact sameGesture_endSelection.gesture
        constructor
        case captured =>
          rw [hsame, hidle.1]
          rfl
        case one => exact fun _ => hidle.1
        case gesture => exact fun hreports => absurd (hsame.symm.trans hreports) Bool.false_ne_true
        case pointer =>
          exact fun hpressed => absurd (hidle.1.symm.trans hpressed) Bool.false_ne_true
        case dragging =>
          exact fun hdragging => absurd (hidle.2.1.symm.trans hdragging) Bool.false_ne_true
        case direction => exact fun hscrolls => absurd hidle.2.2 hscrolls
      rw [Bool.or_true, if_pos rfl, h.released, onLeftUp_of_pressed hgesture hpointer]
      split
      · exact hends.calls _
      · exact hends

/-- Only a gesture has captured the mouse for another button. -/
theorem onMouseButtonUp (h : CaptureInvariant members captures lost down)
    (hbutton : button ≠ .left) :
    CaptureInvariant (Wx.onMouseButtonUp members input)
      (if members.mouseReportingGesture then releaseMouse captures else captures) lost
      (Function.update down button false) := by
  unfold Wx.onMouseButtonUp
  cases hgesture : members.mouseReportingGesture with
  | true =>
    rw [if_pos rfl, if_pos rfl]
    exact h.endMouseReporting hgesture button
  | false =>
    rw [if_neg Bool.false_ne_true, if_neg Bool.false_ne_true]
    exact h.release hgesture fun _ => hbutton

/-- A motion may begin a drag, and sets the direction of the scrolling. -/
theorem updateSelectionAt (h : CaptureInvariant members captures lost down)
    (hdragging : members.selectionDragging = true) :
    CaptureInvariant (Wx.updateSelectionAt members input) captures lost down := by
  obtain ⟨calls, heq⟩ := updateSelectionAt_eq members input
  rw [heq]
  exact ⟨h.captured, h.one, h.gesture, h.pointer, h.dragging, fun _ => hdragging⟩

/-- A motion captures nothing. A drag that begins has the left button down. -/
theorem onMotion (h : CaptureInvariant members captures lost down) :
    CaptureInvariant (Wx.onMotion members input) captures lost down := by
  unfold Wx.onMotion
  split
  · split
    · exact h.calls _
    · exact h
  · split
    · split
      · exact h.calls _
      · exact h
    · rename_i hdrags
      rw [Bool.or_eq_true, not_or] at hdrags
      have hpointer : members.pointerDown = true := by simpa using hdrags.1
      have houtcome := dragOutcome members input
      generalize dragSelection members input = after at houtcome
      cases houtcome with
      | drags hbegun =>
        apply CaptureInvariant.updateSelectionAt
        · exact ⟨h.captured, h.one, h.gesture, h.pointer, h.dragging, h.direction⟩
        · exact hbegun
      | begins =>
        apply CaptureInvariant.updateSelectionAt
        · exact ⟨h.captured, h.one, h.gesture, h.pointer, fun _ => hpointer, fun _ => rfl⟩
        · rfl
      | rests => exact h

theorem autoScrollTick (h : CaptureInvariant members captures lost down)
    (geometry : CellGeometry) :
    CaptureInvariant (Wx.autoScrollTick geometry members) captures lost down := by
  unfold Wx.autoScrollTick
  split
  · exact h.calls _
  · exact h

/-- The capture is taken away. -/
theorem captureLost (h : CaptureInvariant members captures lost down) :
    CaptureInvariant members 0 true down where
  captured := by simp
  one := h.one
  gesture := h.gesture
  pointer := h.pointer
  dragging := h.dragging
  direction := h.direction

end CaptureInvariant

end capture

/-! ## Runs -/

/-- The capture belongs to the press that goes on. With all buttons up the mouse is free for other
windows. -/
structure CaptureExact (ctrl : SelectionCtrl) : Prop where
  captured : ctrl.captures =
    if (ctrl.members.mouseReportingGesture || ctrl.members.pointerDown) && !ctrl.lost then 1 else 0
  idle : (∀ button, ctrl.down button = false) → ctrl.captures = 0
  scrolls : ctrl.members.autoScrollDirection ≠ 0 →
    ctrl.members.selectionDragging = true ∧ ctrl.down .left = true

/-- The invariant at the members of a control. -/
def SelectionCtrl.CaptureHolds (ctrl : SelectionCtrl) : Prop :=
  CaptureInvariant ctrl.members ctrl.captures ctrl.lost ctrl.down

/-- The invariant says what the property asks for. -/
theorem SelectionCtrl.CaptureHolds.exact {ctrl : SelectionCtrl} (h : ctrl.CaptureHolds) :
    CaptureExact ctrl where
  captured := h.captured
  idle hup := by
    apply h.captured_idle
    · rw [← Bool.not_eq_true]
      intro hgesture
      obtain ⟨button, -, hdown⟩ := h.gesture hgesture
      exact Bool.false_ne_true ((hup button).symm.trans hdown)
    · rw [← Bool.not_eq_true]
      exact fun hpointer => Bool.false_ne_true ((hup .left).symm.trans (h.pointer hpointer))
  scrolls hscrolls := by
    have hdragging := h.direction hscrolls
    exact ⟨hdragging, h.pointer (h.dragging hdragging)⟩

/-- Every mouse event keeps it, one case for each handler. -/
theorem SelectionCtrl.CaptureHolds.onMouse {ctrl : SelectionCtrl} (h : ctrl.CaptureHolds)
    {event : MouseEvent} (copied : Option (List UInt8))
    (hone : event.captures = true →
      ctrl.members.mouseReportingGesture = false ∧ ctrl.members.pointerDown = false) :
    (ctrl.onMouse event copied).CaptureHolds := by
  have hfresh : CaptureInvariant ctrl.members.fresh ctrl.captures ctrl.lost ctrl.down := h.calls []
  have hlost : ctrl.lost = (ctrl.lost && !false) := by rw [Bool.not_false, Bool.and_true]
  cases event with
  | down button input =>
    cases button with
    | left =>
      change CaptureInvariant _ _ (ctrl.lost && !true) _
      rw [Bool.not_true, Bool.and_false]
      exact hfresh.onLeftDown (hone rfl).1 (hone rfl).2
    | middle =>
      change CaptureInvariant _
        (if (forwardMouse ctrl.members input .middle .pressed).2 then ctrl.captures + 1
          else ctrl.captures) _ _
      rw [forwardMouse_snd]
      exact hfresh.onMouseButtonDown hone false
    | right =>
      change CaptureInvariant _
        (if (forwardMouse ctrl.members input .right .pressed).2 then ctrl.captures + 1
          else ctrl.captures) _ _
      rw [forwardMouse_snd]
      exact hfresh.onMouseButtonDown hone true
  | doubleClick button input =>
    cases button with
    | left =>
      change CaptureInvariant _ _ (ctrl.lost && !true) _
      rw [Bool.not_true, Bool.and_false]
      exact hfresh.onLeftDown (hone rfl).1 (hone rfl).2
    | middle | right =>
      change CaptureInvariant _ _ (ctrl.lost && !false) _
      rw [← hlost]
      exact hfresh.press _
  | up button input =>
    change CaptureInvariant _ _ (ctrl.lost && !false) _
    rw [← hlost]
    cases button with
    | left => exact hfresh.onLeftUp
    | middle => exact hfresh.onMouseButtonUp nofun
    | right => exact hfresh.onMouseButtonUp nofun
  | motion input =>
    change CaptureInvariant _ _ (ctrl.lost && !false) _
    rw [← hlost]
    exact hfresh.onMotion

theorem SelectionCtrl.event_captures (ctrl : SelectionCtrl) (event : MouseEvent) :
    (ctrl.event event).captures = event.captures := by
  cases event with
  | down button | doubleClick button => cases button <;> rfl
  | up | motion => rfl

theorem SelectionCtrl.CaptureHolds.next {ctrl : SelectionCtrl} (h : ctrl.CaptureHolds)
    {event : SelectionEvent} (hone : OnePress ctrl event) : (ctrl.next event).CaptureHolds := by
  cases event with
  | mouse event copied =>
    apply h.onMouse
    rw [ctrl.event_captures event]
    exact hone event copied rfl
  | timer => exact CaptureInvariant.autoScrollTick (h.calls []) ctrl.geometry
  | copyKey | onSize => exact h
  | captureLost => exact CaptureInvariant.captureLost h

/-- While presses that capture do not overlap, the mouse is captured exactly during them. -/
theorem mouseCapture_exact {ctrl : SelectionCtrl}
    (hreachable : selectionSystem.Reachable OnePress ctrl) : CaptureExact ctrl := by
  apply SelectionCtrl.CaptureHolds.exact
  apply TransitionSystem.Reachable.invariant _ _ hreachable
  · intro ctrl hnew
    unfold SelectionCtrl.CaptureHolds
    rw [hnew.members, hnew.captures, hnew.lost]
    exact ⟨rfl, nofun, nofun, nofun, nofun, fun hscrolls => absurd rfl hscrolls⟩
  · rintro ctrl event ctrl' - ih hone ⟨-, rfl⟩
    exact ih.next hone

theorem mouseCapture_exact_press :
    CaptureExact (newSelectionCtrl.next (pressEvent false {})) ∧
      (newSelectionCtrl.next (pressEvent false {})).captures = 1 := by
  refine ⟨mouseCapture_exact ?_, rfl⟩
  refine .step (a := pressEvent false {}) (.init newSelectionCtrl_new) ?_ ⟨rfl, rfl⟩
  exact fun _ _ _ _ => ⟨rfl, rfl⟩

/-- Two presses that overlap: a selection is dragged while another button is forwarded. -/
example :
    ([pressEvent false {}, .mouse (.down .right { reportingEnabled := true, handled := true }) none,
      releaseEvent {} none, .mouse (.up .right {}) none].foldl SelectionCtrl.next
        newSelectionCtrl).captures = 1 := rfl

end SakuraTerminal.Wx
