import SakuraTerminal.Foundations.TransitionSystem
import SakuraTerminal.Wx.ScrollAnimation

/-!
# Runs of the scroll animation

`ScrollAnimation` has one scroll and its pictures. Here the events of the control come in any order:
frames are painted, the window is drawn again or gets another size, the timer ticks, and keys,
presses, selections and output cancel what is animated.

An active animation is always the one of the last frame that began one (`ScrollStart.Animated`): its
framebuffer is what that frame painted, and its copy what was there before. So every picture of
every run is a window on the document of that scroll, and each animation that began has ended in one
way or is the active one (`animation_of_reachable`).

What an active animation shows was decided by one call of `PaintFrame`, so the run keeps that call
(`ScrollStart`) with the renderer from before it. Every other event either leaves the members of the
animation alone or ends it: `Counted` follows how it ended, and `Animated` what it shows. Only the
timer moves the progress, by what the clock says, which is any part of the distance.
-/

set_option autoImplicit false

namespace SakuraTerminal.Wx.ScrollAnimation

open SakuraTerminal.Core SakuraTerminal.Foundations

universe u

variable {α : Type u}

/-! ## Events -/

/-- A call of `PaintFrame`, with the renderer before it. It is a history variable: no event reads
it. -/
structure ScrollStart (α : Type u) where
  before : Renderer α
  client : Bitmap α
  info : ScrollInfo
  painted : Screen α

/-- The renderer, and the last call of `PaintFrame`. The call stays in `last` when its animation has
ended. -/
structure AnimationRun (α : Type u) where
  renderer : Renderer α
  last : Option (ScrollStart α) := none

/-- An event of the control, with what wxWidgets answers in it. -/
inductive AnimationEvent (α : Type u) where
  /-- `OnPaint` with a changed frame. -/
  | paintFrame (client : Bitmap α) (cloneIsOk : Bool) (info : ScrollInfo) (painted : Screen α)
  /-- `OnPaint` without one: `Draw`. -/
  | draw
  /-- `OnSize`, with the geometry it gives. -/
  | size (rows cellHeight : Nat) (rows_pos : 0 < rows) (cellHeight_pos : 0 < cellHeight)
  /-- `OnTimer`. -/
  | timer (elapsed : Elapsed)
  /-- A key, a press of a button, a selection, output, or a wheel that the application reads. -/
  | cancel

/-- `Draw`, which draws the same as `PaintFrame` at its end. -/
def draw (renderer : Renderer α) : Renderer α :=
  (drawScrollAnimation renderer fun _ _ => renderer.background).1

/-- The control handles an event. -/
def AnimationRun.next (run : AnimationRun α) : AnimationEvent α → AnimationRun α
  | .paintFrame client cloneIsOk info painted =>
    { renderer := draw (ScrollAnimation.paintFrame client cloneIsOk info painted run.renderer)
      last := some ⟨run.renderer, client, info, painted⟩ }
  | .draw => { run with renderer := ScrollAnimation.draw run.renderer }
  | .size rows cellHeight rows_pos cellHeight_pos =>
    { run with
      renderer :=
        { cancelScrollAnimation run.renderer with
          rows := rows
          cellHeight := cellHeight
          rows_pos := rows_pos
          cellHeight_pos := cellHeight_pos } }
  | .timer elapsed => { run with renderer := (advanceScrollAnimation run.renderer elapsed).1 }
  | .cancel => { run with renderer := cancelScrollAnimation run.renderer }

/-- A renderer whose members for the animation are as they are initialised. -/
structure NewAnimation (run : AnimationRun α) : Prop where
  active : run.renderer.active = false
  starts : run.renderer.starts = 0
  settles : run.renderer.settles = 0
  completions : run.renderer.completions = 0

/-- All orders of events, from a renderer that has not animated anything. -/
def animationSystem : TransitionSystem (AnimationRun α) (AnimationEvent α) where
  init := NewAnimation
  step run event run' := run' = run.next event

/-- The clock gives a part of the distance, where there is one to go. Nothing is assumed of the time
between two ticks, which may go back. -/
def ClockInRange (run : AnimationRun α) : AnimationEvent α → Prop
  | .timer elapsed => run.renderer.active = true → elapsed.InRange run.renderer.distancePx
  | _ => True

/-! ## What the members say of an animation -/

/-- The renderer animates the scroll of that call. The two bitmaps are those of that call: what it
painted, and what it painted over. -/
structure ScrollStart.Animated (start : ScrollStart α) (renderer : Renderer α) : Prop where
  scroll : ViewportScroll start.before start.client start.info
  smooth : renderer.smoothScrolling = true
  valid : renderer.framebufferValid = true
  background : renderer.background = start.before.background
  framebuffer : renderer.framebuffer = start.before.framebuffer.paint start.painted
  source : renderer.source = some start.before.framebuffer
  rows : renderer.rows = start.before.rows
  cellHeight : renderer.cellHeight = start.before.cellHeight
  distance : renderer.distancePx = toInt (start.info.scrollDelta.natAbs * start.before.cellHeight)
  direction : renderer.direction = scrollDirection start.info
  progress_nonneg : 0 ≤ renderer.progressPx
  progress_le : renderer.progressPx ≤ renderer.distancePx

/-- Every animation that began has settled or completed, or is active. -/
def Counted (renderer : Renderer α) : Prop :=
  renderer.starts = renderer.settles + renderer.completions + renderer.active.toNat

/-- The counters agree, and what is active was begun by the last frame painted. -/
structure RunInvariant (run : AnimationRun α) : Prop where
  counted : Counted run.renderer
  animated : run.renderer.active = true →
    ∃ start, run.last = some start ∧ start.Animated run.renderer

section steps

variable {renderer : Renderer α}

@[simp]
theorem cancelScrollAnimation_active (renderer : Renderer α) :
    (cancelScrollAnimation renderer).active = false := by
  cases hactive : renderer.active with
  | false => simp [cancelScrollAnimation, hactive]
  | true => simp [cancelScrollAnimation, hactive]

theorem Counted.cancel (h : Counted renderer) : Counted (cancelScrollAnimation renderer) := by
  cases hactive : renderer.active with
  | false => simpa [cancelScrollAnimation, hactive] using h
  | true =>
    simp only [Counted, hactive, Bool.toNat_true] at h
    simp only [cancelScrollAnimation, hactive, Counted, Bool.not_true, Bool.toNat_false,
      Bool.false_eq_true, if_false]
    omega

/-- A picture is counted, and nothing else changes. -/
theorem draw_eq (renderer : Renderer α) :
    ∃ paints, draw renderer = { renderer with paints := paints } := by
  unfold draw drawScrollAnimation
  split
  · exact ⟨renderer.paints + 1, rfl⟩
  · exact ⟨renderer.paints, rfl⟩

theorem Counted.draw (h : Counted renderer) : Counted (draw renderer) := by
  obtain ⟨paints, hdraw⟩ := draw_eq renderer
  rw [hdraw]
  exact h

/-- An advance that ends the animation completes it. -/
theorem advanceScrollAnimation_ends {elapsed : Elapsed} (hactive : renderer.active = true)
    (hends : (advanceScrollAnimation renderer elapsed).1.active = false) :
    ∃ progress frames, (advanceScrollAnimation renderer elapsed).1 =
      { renderer with
        progressPx := progress
        frames := frames
        active := false
        source := none
        direction := 0
        completions := renderer.completions + 1 } := by
  have hgoes : ¬ (!renderer.active) = true := by simp [hactive]
  unfold advanceScrollAnimation at hends ⊢
  rw [if_neg hgoes] at hends ⊢
  by_cases hsame : elapsed.nextProgress = renderer.progressPx
  · cases hfinished : elapsed.finished with
    | true => exact ⟨renderer.progressPx, renderer.frames, by simp [hsame]⟩
    | false => simp [hsame, hfinished, hactive] at hends
  · cases hfinished : elapsed.finished with
    | true => exact ⟨elapsed.nextProgress, renderer.frames + 1, by simp [hsame]⟩
    | false => simp [hsame, hfinished, hactive] at hends

/-- An advance ends the animation and counts that, or counts nothing. -/
theorem Counted.advance (h : Counted renderer) (elapsed : Elapsed) :
    Counted (advanceScrollAnimation renderer elapsed).1 := by
  cases hactive : renderer.active with
  | false => simpa [advanceScrollAnimation, hactive] using h
  | true =>
    cases hafter : (advanceScrollAnimation renderer elapsed).1.active with
    | true =>
      obtain ⟨frames, hadvance⟩ := advanceScrollAnimation_goesOn hafter
      rw [hadvance]
      exact h
    | false =>
      obtain ⟨progress, frames, hadvance⟩ := advanceScrollAnimation_ends hactive hafter
      rw [hadvance]
      simp only [Counted, hactive, Bool.toNat_true] at h
      simp only [Counted, Bool.toNat_false]
      omega

theorem ScrollStart.Animated.draw {start : ScrollStart α} (h : start.Animated renderer) :
    start.Animated (draw renderer) := by
  obtain ⟨paints, hdraw⟩ := draw_eq renderer
  rw [hdraw]
  exact { h with }

theorem ScrollStart.Animated.advance {start : ScrollStart α} (h : start.Animated renderer)
    {elapsed : Elapsed} (hclock : elapsed.InRange renderer.distancePx)
    (hactive : (advanceScrollAnimation renderer elapsed).1.active = true) :
    start.Animated (advanceScrollAnimation renderer elapsed).1 := by
  obtain ⟨frames, hadvance⟩ := advanceScrollAnimation_goesOn hactive
  rw [hadvance]
  exact { h with progress_nonneg := hclock.nonneg, progress_le := hclock.le }

/-! ### `PaintFrame` -/

theorem Counted.ensureFramebuffer (h : Counted renderer) (client : Bitmap α) :
    Counted (ensureFramebuffer client renderer) := by
  unfold ScrollAnimation.ensureFramebuffer
  split
  · exact h.cancel
  · exact h

theorem ensureFramebuffer_active {client : Bitmap α}
    (hactive : (ensureFramebuffer client renderer).active = true) :
    ensureFramebuffer client renderer = renderer := by
  unfold ScrollAnimation.ensureFramebuffer at hactive ⊢
  split at hactive
  · exact absurd ((cancelScrollAnimation_active renderer).symm.trans hactive) Bool.false_ne_true
  · next hsame => exact if_neg hsame

/-- A framebuffer of another size has nothing on it that could be animated. -/
theorem ensureFramebuffer_valid {client : Bitmap α}
    (hvalid : (ensureFramebuffer client renderer).framebufferValid = true) :
    ensureFramebuffer client renderer = renderer ∧
      client.width = renderer.framebuffer.width ∧
      client.height = renderer.framebuffer.height := by
  unfold ScrollAnimation.ensureFramebuffer at hvalid ⊢
  split at hvalid
  · contradiction
  · next hsame =>
    rw [not_or, not_not, not_not] at hsame
    exact ⟨if_neg (by simp [hsame]), hsame.1.symm, hsame.2.symm⟩

/-- What `BeginScrollAnimation` asks for. The distance may still be too long for an `int`, and the
copy may fail. -/
structure Animatable (renderer : Renderer α) (info : ScrollInfo) : Prop where
  smooth : renderer.smoothScrolling = true
  valid : renderer.framebufferValid = true
  delta : info.scrollDelta ≠ 0
  kind : info.scrollKind = .viewport

theorem beginScrollAnimation_rejects {cloneIsOk : Bool} {info : ScrollInfo}
    (h : ¬ Animatable renderer info) : beginScrollAnimation cloneIsOk info renderer = renderer := by
  unfold beginScrollAnimation
  split
  · rfl
  · next haccepts =>
    simp only [Bool.or_eq_true, Bool.not_eq_eq_eq_not, Bool.not_true, beq_iff_eq, bne_iff_ne,
      ne_eq, not_or, Bool.not_eq_false, not_not] at haccepts
    obtain ⟨⟨⟨hsmooth, hvalid⟩, hdelta⟩, hkind⟩ := haccepts
    exact absurd ⟨hsmooth, hvalid, hdelta, hkind⟩ h

theorem Animatable.accepts {info : ScrollInfo} (h : Animatable renderer info) :
    ¬ (!renderer.smoothScrolling || !renderer.framebufferValid || info.scrollDelta == 0 ||
      info.scrollKind != .viewport) = true := by
  simp [h.smooth, h.valid, h.delta, h.kind]

/-- The copy may fail and the distance may overflow; otherwise the animation begins. -/
theorem Animatable.begins {info : ScrollInfo} (h : Animatable renderer info) {cloneIsOk : Bool}
    (hactive : (beginScrollAnimation cloneIsOk info renderer).active = true) :
    ∃ settles, beginScrollAnimation cloneIsOk info renderer =
      { renderer with
        source := some renderer.framebuffer
        active := true
        distancePx := toInt (info.scrollDelta.natAbs * renderer.cellHeight)
        progressPx := 0
        direction := scrollDirection info
        starts := renderer.starts + 1
        settles := settles } ∧
      0 < toInt (info.scrollDelta.natAbs * renderer.cellHeight) := by
  obtain ⟨active, source, progress, direction, settles, hcancel⟩ :=
    cancelScrollAnimation_eq renderer
  have hinactive := cancelScrollAnimation_active renderer
  unfold beginScrollAnimation at hactive ⊢
  rw [if_neg h.accepts, hcancel] at hactive ⊢
  rw [hcancel] at hinactive
  cases cloneIsOk with
  | false => exact absurd (hinactive.symm.trans hactive) Bool.false_ne_true
  | true =>
    simp only [Bool.not_true, Bool.false_eq_true, if_false] at hactive ⊢
    split at hactive
    · exact absurd (hinactive.symm.trans hactive) Bool.false_ne_true
    · next hdistance =>
      rw [if_neg hdistance]
      exact ⟨settles, rfl, by omega⟩

/-- An animation that begins was counted as begun, and the one before it has ended. -/
theorem Counted.begin (h : Counted renderer) (cloneIsOk : Bool) (info : ScrollInfo) :
    Counted (beginScrollAnimation cloneIsOk info renderer) := by
  have hcancel := h.cancel
  have hinactive := cancelScrollAnimation_active renderer
  simp only [Counted, hinactive, Bool.toNat_false] at hcancel
  unfold beginScrollAnimation
  split
  · exact h
  · cases cloneIsOk with
    | false =>
      simpa only [Counted, Bool.not_false, if_true, hinactive, Bool.toNat_false] using hcancel
    | true =>
      simp only [Bool.not_true, Bool.false_eq_true, if_false]
      by_cases hdistance :
          toInt (info.scrollDelta.natAbs * (cancelScrollAnimation renderer).cellHeight) ≤ 0
      · rw [if_pos hdistance]
        simpa only [Counted, hinactive, Bool.toNat_false] using hcancel
      · rw [if_neg hdistance]
        simp only [Counted, Bool.toNat_true]
        omega

end steps

/-! ## Invariant -/

namespace RunInvariant

variable {run : AnimationRun α}

/-- What is active was begun by a frame that the renderer could animate. -/
theorem smooth_valid (h : RunInvariant run) (hactive : run.renderer.active = true) :
    run.renderer.smoothScrolling = true ∧ run.renderer.framebufferValid = true := by
  obtain ⟨start, -, hanimated⟩ := h.animated hactive
  exact ⟨hanimated.smooth, hanimated.valid⟩

theorem cancel (h : RunInvariant run) : RunInvariant (run.next .cancel) where
  counted := h.counted.cancel
  animated := by
    intro hactive
    rw [AnimationRun.next, cancelScrollAnimation_active] at hactive
    contradiction

theorem size (h : RunInvariant run) {rows cellHeight : Nat} (rows_pos : 0 < rows)
    (cellHeight_pos : 0 < cellHeight) :
    RunInvariant (run.next (.size rows cellHeight rows_pos cellHeight_pos)) where
  counted := h.counted.cancel
  animated := by
    intro hactive
    have hinactive := cancelScrollAnimation_active run.renderer
    exact absurd (hinactive.symm.trans hactive) Bool.false_ne_true

theorem draw (h : RunInvariant run) : RunInvariant (run.next .draw) where
  counted := h.counted.draw
  animated := by
    obtain ⟨paints, hdraw⟩ := draw_eq run.renderer
    intro hactive
    rw [AnimationRun.next, hdraw] at hactive
    obtain ⟨start, hlast, hanimated⟩ := h.animated hactive
    exact ⟨start, hlast, hanimated.draw⟩

/-- A tick moves the progress within the distance, or ends the animation. -/
theorem timer (h : RunInvariant run) {elapsed : Elapsed}
    (hclock : run.renderer.active = true → elapsed.InRange run.renderer.distancePx) :
    RunInvariant (run.next (.timer elapsed)) where
  counted := h.counted.advance elapsed
  animated := by
    intro hactive
    have hbefore : run.renderer.active = true := by
      obtain ⟨frames, hadvance⟩ := advanceScrollAnimation_goesOn hactive
      rw [AnimationRun.next, hadvance] at hactive
      exact hactive
    obtain ⟨start, hlast, hanimated⟩ := h.animated hbefore
    exact ⟨start, hlast, hanimated.advance (hclock hbefore) hactive⟩

/-- A frame that does not begin an animation ends the one there is. -/
theorem paintFrame (h : RunInvariant run) (client : Bitmap α) (cloneIsOk : Bool)
    (info : ScrollInfo) (painted : Screen α) :
    RunInvariant (run.next (.paintFrame client cloneIsOk info painted)) := by
  have hensured := h.counted.ensureFramebuffer client
  obtain ⟨paints, hdraw⟩ := draw_eq
    (ScrollAnimation.paintFrame client cloneIsOk info painted run.renderer)
  by_cases hscrolls : info.scrollKind = .viewport ∧ info.scrollDelta ≠ 0
  · by_cases hanimatable : Animatable (ensureFramebuffer client run.renderer) info
    · constructor
      · rw [AnimationRun.next, hdraw, ScrollAnimation.paintFrame, if_pos hscrolls]
        exact hensured.begin cloneIsOk info
      · intro hactive
        refine ⟨_, rfl, ?_⟩
        rw [AnimationRun.next, hdraw, ScrollAnimation.paintFrame, if_pos hscrolls] at hactive ⊢
        obtain ⟨hsame, hwidth, hheight⟩ := ensureFramebuffer_valid hanimatable.valid
        obtain ⟨settles, hbegin, hdistance⟩ := hanimatable.begins hactive
        rw [hsame] at hanimatable hbegin hdistance ⊢
        rw [hbegin]
        exact {
          scroll := ⟨hanimatable.smooth, hanimatable.valid, hwidth, hheight, hanimatable.kind,
            hanimatable.delta⟩
          smooth := hanimatable.smooth
          valid := rfl
          background := rfl
          framebuffer := rfl
          source := rfl
          rows := rfl
          cellHeight := rfl
          distance := rfl
          direction := rfl
          progress_nonneg := Int.le_refl 0
          progress_le := hdistance.le }
    · -- nothing animatable is active, so the rejected scroll leaves nothing active
      have hinactive : (ensureFramebuffer client run.renderer).active = false := by
        by_contra hactive
        rw [Bool.not_eq_false] at hactive
        have hsame := ensureFramebuffer_active hactive
        rw [hsame] at hactive hanimatable
        obtain ⟨hsmooth, hvalid⟩ := h.smooth_valid hactive
        exact hanimatable ⟨hsmooth, hvalid, hscrolls.2, hscrolls.1⟩
      have hrejects := @beginScrollAnimation_rejects _ _ cloneIsOk _ hanimatable
      rw [AnimationRun.next, hdraw, ScrollAnimation.paintFrame, if_pos hscrolls, hrejects]
      exact ⟨hensured, fun hactive => absurd (hinactive.symm.trans hactive) Bool.false_ne_true⟩
  · have hinactive := cancelScrollAnimation_active (ensureFramebuffer client run.renderer)
    rw [AnimationRun.next, hdraw, ScrollAnimation.paintFrame, if_neg hscrolls]
    exact ⟨hensured.cancel, fun hactive => absurd (hinactive.symm.trans hactive) Bool.false_ne_true⟩

end RunInvariant

/-- The invariant holds in every run in which the clock stays within the distance. -/
theorem runInvariant_of_reachable {run : AnimationRun α}
    (hreachable : animationSystem.Reachable ClockInRange run) : RunInvariant run := by
  apply TransitionSystem.Reachable.invariant _ _ hreachable
  · intro run hnew
    refine ⟨?_, fun hactive => absurd (hnew.active.symm.trans hactive) nofun⟩
    rw [Counted, hnew.starts, hnew.settles, hnew.completions, hnew.active]
    rfl
  · rintro run event _ _ ih hclock rfl
    cases event with
    | paintFrame client cloneIsOk info painted => exact ih.paintFrame client cloneIsOk info painted
    | draw => exact ih.draw
    | size rows cellHeight rows_pos cellHeight_pos => exact ih.size rows_pos cellHeight_pos
    | timer elapsed => exact ih.timer hclock
    | cancel => exact ih.cancel

/-! ## The pictures of a run -/

section pictures

variable {renderer : Renderer α} {start : ScrollStart α}

theorem toInt_scrollDistance {before : Renderer α} {info : ScrollInfo}
    (hfits : (scrollOffset before info).natAbs ≤ before.gridHeight) :
    toInt (info.scrollDelta.natAbs * before.cellHeight) = (scrollOffset before info).natAbs := by
  have hlines : (scrollOffset before info).natAbs =
      info.scrollDelta.natAbs * before.cellHeight := by
    rw [scrollOffset, Int.natAbs_mul, Int.natAbs_natCast]
  have hheight := gridHeight_le before
  have hlt := before.framebuffer.height_lt
  rw [← hlines]
  exact toInt_of_lt (by omega)

theorem ScrollStart.Animated.gridHeight (h : start.Animated renderer) :
    renderer.gridHeight = start.before.gridHeight := by
  rw [Renderer.gridHeight, Renderer.gridHeight, h.framebuffer, h.rows, h.cellHeight]
  rfl

/-- The picture is the one that `ScrollAnimation` has of the same progress. -/
theorem ScrollStart.Animated.drawScrollAnimation_eq (h : start.Animated renderer)
    (hactive : renderer.active = true)
    (hfits : (scrollOffset start.before start.info).natAbs ≤ start.before.gridHeight)
    (screen : Screen α) :
    (drawScrollAnimation renderer screen).2 = (drawScrollAnimation
      ((paintFrame start.client true start.info start.painted start.before).atProgress
        renderer.progressPx) screen).2 := by
  obtain ⟨starts, settles, hbegin⟩ := @paintFrame_animates _ _ _ _ start.painted h.scroll hfits
  have hdistance := h.distance
  rw [toInt_scrollDistance hfits] at hdistance
  rw [hbegin]
  simp only [drawScrollAnimation, Renderer.atProgress, hactive, h.source, h.gridHeight, hdistance,
    h.direction, h.background, h.framebuffer]
  rfl

end pictures

/-- Every animation of a run has settled, has completed or is the active one. The active one belongs
to the last frame painted: its framebuffer is what that frame painted, and its source what the
framebuffer was before. Where its distance is no longer than the grid, its picture shows the part of
the document of that frame's scroll that begins at the progress. -/
theorem animation_of_reachable {run : AnimationRun α}
    (hreachable : animationSystem.Reachable ClockInRange run) :
    run.renderer.starts =
        run.renderer.settles + run.renderer.completions + run.renderer.active.toNat ∧
      (run.renderer.active = true → ∃ start, run.last = some start ∧
        ViewportScroll start.before start.client start.info ∧
        run.renderer.framebuffer = start.before.framebuffer.paint start.painted ∧
        run.renderer.source = some start.before.framebuffer ∧
        ((scrollOffset start.before start.info).natAbs ≤ start.before.gridHeight →
          ∀ screen x y, InGrid run.renderer x y →
            documentRow start.before.framebuffer.pixel start.painted
                (scrollOffset start.before start.info) run.renderer.gridHeight x
                (y + scrollDirection start.info * run.renderer.progressPx) =
              some ((drawScrollAnimation run.renderer screen).2 x y))) := by
  have hinvariant := runInvariant_of_reachable hreachable
  refine ⟨hinvariant.counted, fun hactive => ?_⟩
  obtain ⟨start, hlast, hanimated⟩ := hinvariant.animated hactive
  refine ⟨start, hlast, hanimated.scroll, hanimated.framebuffer, hanimated.source, ?_⟩
  intro hfits screen x y hgrid
  have hwidth : start.before.framebuffer.width = run.renderer.framebuffer.width := by
    rw [hanimated.framebuffer]
    rfl
  have hbefore : InGrid start.before x y :=
    ⟨hgrid.left, hwidth ▸ hgrid.right, hgrid.top, hanimated.gridHeight ▸ hgrid.bottom⟩
  have hdistance : run.renderer.progressPx ≤ (scrollOffset start.before start.info).natAbs := by
    rw [← toInt_scrollDistance hfits, ← hanimated.distance]
    exact hanimated.progress_le
  rw [hanimated.gridHeight, hanimated.drawScrollAnimation_eq hactive hfits]
  exact documentRow_drawScrollAnimation hanimated.scroll hfits hanimated.progress_nonneg hdistance
    hbefore

/-- A frame that shows the rows of a document from `first` on. -/
def paintView (first delta : Int) : AnimationEvent Int :=
  .paintFrame twoRows.framebuffer true ⟨delta, .viewport⟩ fun _ y => first + y

/-- The framebuffer is painted, and then the viewport moves down by a line. -/
def scrolledRun : AnimationRun Int :=
  [paintView 0 0, paintView 2 1].foldl AnimationRun.next
    ⟨{ twoRows with framebufferValid := false }, none⟩

/-- Half of the time has passed. -/
def halfwayRun : AnimationRun Int := (scrolledRun.next (.timer ⟨1, false⟩)).next .draw

theorem halfwayRun_reachable : animationSystem.Reachable ClockInRange halfwayRun := by
  have hpaint (run : AnimationRun Int) (first delta : Int) :
      ClockInRange run (paintView first delta) := trivial
  have hscrolled : animationSystem.Reachable ClockInRange scrolledRun :=
    .step (.step (.init ⟨rfl, rfl, rfl, rfl⟩) (hpaint _ 0 0) rfl) (hpaint _ 2 1) rfl
  have hclock : ClockInRange scrolledRun (.timer ⟨1, false⟩) := fun _ => ⟨by decide, by decide⟩
  have hdraw : ClockInRange (scrolledRun.next (.timer ⟨1, false⟩)) .draw := trivial
  exact .step (.step hscrolled hclock rfl) hdraw rfl

theorem animation_of_reachable_halfway :
    halfwayRun.renderer.active = true ∧ halfwayRun.renderer.progressPx = 1 ∧
    halfwayRun.renderer.starts = halfwayRun.renderer.settles + halfwayRun.renderer.completions +
        halfwayRun.renderer.active.toNat ∧
      (halfwayRun.renderer.active = true → ∃ start, halfwayRun.last = some start ∧
        ViewportScroll start.before start.client start.info ∧
        halfwayRun.renderer.framebuffer = start.before.framebuffer.paint start.painted ∧
        halfwayRun.renderer.source = some start.before.framebuffer ∧
        ((scrollOffset start.before start.info).natAbs ≤ start.before.gridHeight →
          ∀ screen x y, InGrid halfwayRun.renderer x y →
            documentRow start.before.framebuffer.pixel start.painted
                (scrollOffset start.before start.info) halfwayRun.renderer.gridHeight x
                (y + scrollDirection start.info * halfwayRun.renderer.progressPx) =
              some ((drawScrollAnimation halfwayRun.renderer screen).2 x y))) :=
  ⟨rfl, rfl, animation_of_reachable halfwayRun_reachable⟩

end SakuraTerminal.Wx.ScrollAnimation
