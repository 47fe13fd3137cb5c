import SakuraTerminal.Core.PackedFrame
import Mathlib.Data.List.Induction

/-!
# The scroll animation

`BeginScrollAnimation`, `AdvanceScrollAnimation`, `CancelScrollAnimation` and `DrawScrollAnimation`
of `src/wx/terminal_renderer.cpp`. A viewport scroll keeps a copy of the framebuffer, and while the
animation is active the copy and the new framebuffer are drawn past the grid, pixel by pixel.

The two views are parts of one document: the old one from row 0 on, the new one moved by the
distance of the scroll. A picture of the animation is a window on the document (`documentRow`). The
progress is limited to the height of the grid and the distance is not, so this holds of the jumps
that are no longer than the grid, and of no other ones (`continuousScroll_iff`); a longer jump
leaves rows blank (`drawScrollAnimation_blank`).

The clock is not modelled: an advance is given the progress that was computed from it.

Positions are integers, as a bitmap may begin above the window. The old one is drawn moved away by
the progress, and the new one behind it in the strip that has come in, each under a clipping region
of its own. A row of the picture is therefore found by adding the progress to it, and whether it
lies on one of the bitmaps is arithmetic on the progress, the distance and the height of the grid.
-/

set_option autoImplicit false

namespace SakuraTerminal.Wx.ScrollAnimation

open SakuraTerminal.Core

universe u

variable {α : Type u}

/-! ## wxWidgets -/

/-- A valid `wxBitmap`. The sizes are `int`. A pixel beyond it has a colour too, which is never
looked at. -/
structure Bitmap (α : Type u) where
  width : Nat
  height : Nat
  pixel : Int → Int → α
  width_pos : 0 < width
  height_pos : 0 < height
  height_lt : height < 2 ^ 31

/-- What a device context shows at a column and a row of pixels. -/
abbrev Screen (α : Type u) := Int → Int → α

/-- A bitmap after drawing into it. -/
def Bitmap.paint (bitmap : Bitmap α) (painted : Screen α) : Bitmap α :=
  { bitmap with pixel := painted }

/-- A `wxRect`. -/
structure Rect where
  x : Int
  y : Int
  width : Int
  height : Int
  deriving DecidableEq, Repr

/-- The pixel is inside of the rectangle. -/
def Rect.Contains (rect : Rect) (x y : Int) : Prop :=
  (rect.x ≤ x ∧ x < rect.x + rect.width) ∧ rect.y ≤ y ∧ y < rect.y + rect.height

instance (rect : Rect) (x y : Int) : Decidable (rect.Contains x y) :=
  inferInstanceAs (Decidable (_ ∧ _))

/-- The place of a bitmap that is drawn at a position. -/
def Bitmap.area (bitmap : Bitmap α) (x y : Int) : Rect := ⟨x, y, bitmap.width, bitmap.height⟩

/-- `wxDC::DrawBitmap` under a clipping region. -/
def drawBitmap (clip : Rect) (bitmap : Bitmap α) (left top : Int) (screen : Screen α) : Screen α :=
  fun x y =>
    if clip.Contains x y ∧ (bitmap.area left top).Contains x y then
      bitmap.pixel (x - left) (y - top)
    else screen x y

section drawBitmap

variable {clip : Rect} {bitmap : Bitmap α} {left top : Int} {screen : Screen α} {x y : Int}

theorem drawBitmap_inside (hclip : clip.Contains x y)
    (harea : (bitmap.area left top).Contains x y) :
    drawBitmap clip bitmap left top screen x y = bitmap.pixel (x - left) (y - top) :=
  if_pos ⟨hclip, harea⟩

theorem drawBitmap_outside (h : ¬ (clip.Contains x y ∧ (bitmap.area left top).Contains x y)) :
    drawBitmap clip bitmap left top screen x y = screen x y :=
  if_neg h

end drawBitmap

/-- An `unsigned int` that is assigned to an `int`. From 2^31 on the result is negative. -/
def toInt (value : Nat) : Int :=
  if value % 2 ^ 32 < 2 ^ 31 then (value % 2 ^ 32 : Nat) else (value % 2 ^ 32 : Nat) - 2 ^ 32

theorem toInt_of_lt {value : Nat} (h : value < 2 ^ 31) : toInt value = value := by
  have hmod : value % 2 ^ 32 = value := Nat.mod_eq_of_lt (by omega)
  rw [toInt, hmod, if_pos h]

/-- `std::clamp`. -/
def clamp (value low high : Int) : Int :=
  if value < low then low else if high < value then high else value

/-! ## The renderer -/

/-- What `BeginScrollAnimation` reads of a `SakuraTerminalFrameInfo`. -/
structure ScrollInfo where
  scrollDelta : Int
  scrollKind : ScrollKind := .viewport
  deriving DecidableEq, Repr

/-- The members for the animation, once there is a framebuffer. `UpdateGeometry` keeps the cells and
the rows positive. The counters are those of the metrics. -/
structure Renderer (α : Type u) where
  smoothScrolling : Bool := true
  background : α
  framebuffer : Bitmap α
  framebufferValid : Bool := true
  rows : Nat
  cellHeight : Nat
  rows_pos : 0 < rows
  cellHeight_pos : 0 < cellHeight
  source : Option (Bitmap α) := none
  active : Bool := false
  distancePx : Int := 0
  progressPx : Int := 0
  direction : Int := 0
  starts : Nat := 0
  frames : Nat := 0
  paints : Nat := 0
  settles : Nat := 0
  completions : Nat := 0

/-- `grid_height`. -/
def Renderer.gridHeight (renderer : Renderer α) : Int :=
  min renderer.framebuffer.height (renderer.rows * renderer.cellHeight : Nat)

/-- `CancelScrollAnimation`. -/
def cancelScrollAnimation (renderer : Renderer α) : Renderer α :=
  if !renderer.active then renderer
  else
    { renderer with
      active := false
      source := none
      progressPx := renderer.distancePx
      direction := 0
      settles := renderer.settles + 1 }

/-- `cloneIsOk` says whether wxWidgets can copy the framebuffer. -/
def beginScrollAnimation (cloneIsOk : Bool) (info : ScrollInfo) (renderer : Renderer α) :
    Renderer α :=
  if !renderer.smoothScrolling || !renderer.framebufferValid || info.scrollDelta == 0 ||
      info.scrollKind != .viewport then renderer
  else
    let renderer := cancelScrollAnimation renderer
    if !cloneIsOk then { renderer with source := none }
    else
      let lines := info.scrollDelta.natAbs
      let distance := toInt (lines * renderer.cellHeight)
      let renderer := { renderer with
        source := some renderer.framebuffer
        distancePx := distance }
      if distance ≤ 0 then renderer
      else
        { renderer with
          progressPx := 0
          direction := if info.scrollDelta > 0 then 1 else -1
          active := true
          starts := renderer.starts + 1 }

/-- What `AdvanceScrollAnimation` computes from the clock: `next_progress`, and whether the duration
is over. Any progress may come, also one that is less than the last. -/
structure Elapsed where
  nextProgress : Int
  finished : Bool
  deriving DecidableEq, Repr

/-- `AdvanceScrollAnimation`, and whether the picture has to be drawn again. -/
def advanceScrollAnimation (renderer : Renderer α) (elapsed : Elapsed) : Renderer α × Bool :=
  if !renderer.active then (renderer, false)
  else
    let changed := elapsed.nextProgress != renderer.progressPx
    let renderer :=
      if changed then
        { renderer with progressPx := elapsed.nextProgress, frames := renderer.frames + 1 }
      else renderer
    if elapsed.finished then
      ({ renderer with
          active := false
          source := none
          direction := 0
          completions := renderer.completions + 1 }, true)
    else (renderer, changed)

/-- The framebuffer is drawn at its place, if it is valid. -/
def drawFramebuffer (renderer : Renderer α) (screen : Screen α) : Screen α :=
  if renderer.framebufferValid then
    drawBitmap (renderer.framebuffer.area 0 0) renderer.framebuffer 0 0 screen
  else screen

/-- `DrawScrollAnimation`; without an animation it draws the framebuffer. -/
def drawScrollAnimation (renderer : Renderer α) (screen : Screen α) : Renderer α × Screen α :=
  match renderer.active, renderer.source with
  | true, some source =>
    let framebuffer := renderer.framebuffer
    let width := framebuffer.width
    let gridHeight := renderer.gridHeight
    let distance := renderer.distancePx
    let progress := clamp renderer.progressPx 0 (min distance gridHeight)
    -- `dc.Clear()`
    let screen : Screen α := fun _ _ => renderer.background
    let screen :=
      if renderer.direction > 0 then
        let screen := drawBitmap ⟨0, 0, width, gridHeight⟩ source 0 (-progress) screen
        if progress > 0 then
          drawBitmap ⟨0, gridHeight - progress, width, progress⟩ framebuffer 0
            (distance - progress) screen
        else screen
      else
        let screen := drawBitmap ⟨0, 0, width, gridHeight⟩ source 0 progress screen
        if progress > 0 then
          drawBitmap ⟨0, 0, width, progress⟩ framebuffer 0 (-distance + progress) screen
        else screen
    ({ renderer with paints := renderer.paints + 1 }, screen)
  | _, _ => (renderer, drawFramebuffer renderer screen)

/-- `EnsureFramebuffer`, with the client size and what a new bitmap holds. -/
def ensureFramebuffer (client : Bitmap α) (renderer : Renderer α) : Renderer α :=
  if renderer.framebuffer.width ≠ client.width ∨ renderer.framebuffer.height ≠ client.height then
    { cancelScrollAnimation renderer with framebuffer := client, framebufferValid := false }
  else renderer

/-- `PaintFrame` up to `DrawScrollAnimation`. `painted` is what the repaint of the frame leaves in
the framebuffer. -/
def paintFrame (client : Bitmap α) (cloneIsOk : Bool) (info : ScrollInfo) (painted : Screen α)
    (renderer : Renderer α) : Renderer α :=
  let renderer := ensureFramebuffer client renderer
  let renderer :=
    if info.scrollKind = .viewport ∧ info.scrollDelta ≠ 0 then
      beginScrollAnimation cloneIsOk info renderer
    else cancelScrollAnimation renderer
  { renderer with
    framebuffer := renderer.framebuffer.paint painted
    framebufferValid := true }

/-! ## Runs of the animation -/

/-- What a cancelled animation leaves alone. -/
theorem cancelScrollAnimation_eq (renderer : Renderer α) :
    ∃ active source progressPx direction settles, cancelScrollAnimation renderer =
      { renderer with
        active := active
        source := source
        progressPx := progressPx
        direction := direction
        settles := settles } := by
  unfold cancelScrollAnimation
  split
  · exact ⟨_, _, _, _, _, rfl⟩
  · exact ⟨_, _, _, _, _, rfl⟩

/-- The animation with this progress. -/
def Renderer.atProgress (renderer : Renderer α) (progress : Int) : Renderer α :=
  { renderer with progressPx := progress }

/-- The progress of an animation is between no pixel and the whole distance. -/
structure AnimationInvariant (renderer : Renderer α) : Prop where
  progress_nonneg : renderer.active = true → 0 ≤ renderer.progressPx
  progress_le : renderer.active = true → renderer.progressPx ≤ renderer.distancePx

/-- Rounding a part of the distance gives an amount between no pixel and the whole distance. -/
structure Elapsed.InRange (elapsed : Elapsed) (distance : Int) : Prop where
  nonneg : 0 ≤ elapsed.nextProgress
  le : elapsed.nextProgress ≤ distance

/-- What an advance leaves of an animation that goes on. -/
theorem advanceScrollAnimation_goesOn {renderer : Renderer α} {elapsed : Elapsed}
    (h : (advanceScrollAnimation renderer elapsed).1.active = true) :
    ∃ frames, (advanceScrollAnimation renderer elapsed).1 =
      { renderer with progressPx := elapsed.nextProgress, frames := frames } := by
  unfold advanceScrollAnimation at h ⊢
  split at h
  · next hinactive => simp_all
  · next hactive =>
    rw [if_neg hactive]
    by_cases hfinished : elapsed.finished = true
    · simp [hfinished] at h
    · rw [if_neg hfinished]
      by_cases hsame : elapsed.nextProgress = renderer.progressPx
      · refine ⟨renderer.frames, ?_⟩
        rw [hsame]
        simp
      · refine ⟨renderer.frames + 1, ?_⟩
        simp [hsame]

/-- An animation that goes on is where it began, with a progress of at most the distance. -/
theorem advances_atProgress {renderer : Renderer α} (hinv : AnimationInvariant renderer)
    {clock : List Elapsed} (hclock : ∀ elapsed ∈ clock, elapsed.InRange renderer.distancePx)
    (hactive : (clock.foldl (fun r elapsed => (advanceScrollAnimation r elapsed).1)
      renderer).active = true) :
    ∃ progress frames, 0 ≤ progress ∧ progress ≤ renderer.distancePx ∧
      clock.foldl (fun r elapsed => (advanceScrollAnimation r elapsed).1) renderer =
        { renderer.atProgress progress with frames := frames } := by
  induction clock using List.reverseRecOn with
  | nil =>
    exact ⟨renderer.progressPx, renderer.frames, hinv.progress_nonneg hactive,
      hinv.progress_le hactive, rfl⟩
  | append_singleton clock elapsed ih =>
    rw [List.foldl_append, List.foldl_cons, List.foldl_nil] at hactive ⊢
    have hrange := hclock elapsed (by simp)
    obtain ⟨frames, hstep⟩ := advanceScrollAnimation_goesOn hactive
    have hbefore : (clock.foldl (fun r elapsed => (advanceScrollAnimation r elapsed).1)
        renderer).active = true := by
      rw [hstep] at hactive
      exact hactive
    obtain ⟨progress, frames', -, -, heq⟩ :=
      ih (fun e he => hclock e (by simp [he])) hbefore
    refine ⟨elapsed.nextProgress, frames, hrange.nonneg, hrange.le, ?_⟩
    rw [hstep, heq]
    rfl

/-! ## The document -/

/-- What a document shows whose old view begins at row 0 and whose new view begins at `offset`. A
row that belongs to neither has nothing to show. -/
def documentRow (old new : Screen α) (offset height x row : Int) : Option α :=
  if 0 ≤ row ∧ row < height then some (old x row)
  else if 0 ≤ row - offset ∧ row - offset < height then some (new x (row - offset))
  else none

/-- The distance of the new view from the old one, with its sign. -/
def scrollOffset (renderer : Renderer α) (info : ScrollInfo) : Int :=
  info.scrollDelta * renderer.cellHeight

/-- The direction, as `BeginScrollAnimation` stores it. -/
def scrollDirection (info : ScrollInfo) : Int :=
  if info.scrollDelta > 0 then 1 else -1

/-- Direction and distance make up the offset. -/
theorem scrollDirection_mul_natAbs {renderer : Renderer α} {info : ScrollInfo}
    (hdelta : info.scrollDelta ≠ 0) :
    scrollDirection info * (scrollOffset renderer info).natAbs = scrollOffset renderer info := by
  have hcell : (0 : Int) < renderer.cellHeight := by
    have hcellHeight := renderer.cellHeight_pos
    omega
  rcases Int.lt_or_gt_of_ne hdelta with hbackward | hforward
  · have hneg : scrollOffset renderer info < 0 := Int.mul_neg_of_neg_of_pos hbackward hcell
    rw [scrollDirection, if_neg (by omega)]
    omega
  · have hpos : 0 < scrollOffset renderer info := Int.mul_pos hforward hcell
    rw [scrollDirection, if_pos hforward]
    omega

/-- A pixel of the grid. -/
structure InGrid (renderer : Renderer α) (x y : Int) : Prop where
  left : 0 ≤ x
  right : x < renderer.framebuffer.width
  top : 0 ≤ y
  bottom : y < renderer.gridHeight

/-- A viewport scroll that is to be animated. The client area has the size of the framebuffer. These
are the guards of `BeginScrollAnimation`, with a copy that succeeds. -/
structure ViewportScroll (renderer : Renderer α) (client : Bitmap α) (info : ScrollInfo) :
    Prop where
  smooth : renderer.smoothScrolling = true
  valid : renderer.framebufferValid = true
  width : client.width = renderer.framebuffer.width
  height : client.height = renderer.framebuffer.height
  kind : info.scrollKind = .viewport
  delta : info.scrollDelta ≠ 0

/-- The pictures of the animation are windows on the document, and the last one shows the new view.
The document is read at the progress, wherever in the animation that is. -/
structure ContinuousScroll (renderer : Renderer α) (client : Bitmap α) (info : ScrollInfo)
    (painted : Screen α) : Prop where
  shows : ∀ progress : Int, 0 ≤ progress → progress ≤ (scrollOffset renderer info).natAbs →
    ∀ screen x y, InGrid renderer x y →
      documentRow renderer.framebuffer.pixel painted (scrollOffset renderer info)
          renderer.gridHeight x (y + scrollDirection info * progress) =
        some ((drawScrollAnimation
          ((paintFrame client true info painted renderer).atProgress progress) screen).2 x y)
  settles : ∀ screen x y, InGrid renderer x y →
    (drawScrollAnimation ((paintFrame client true info painted renderer).atProgress
      (scrollOffset renderer info).natAbs) screen).2 x y = painted x y

/-- The rows that belong to both views show the same. Without this the two views are no parts of one
document. -/
def ViewsAgree (renderer : Renderer α) (info : ScrollInfo) (painted : Screen α) : Prop :=
  ∀ x y, InGrid renderer x y → InGrid renderer x (y + scrollOffset renderer info) →
    renderer.framebuffer.pixel x (y + scrollOffset renderer info) = painted x y

/-! ## The pictures -/

theorem clamp_of_mem {value low high : Int} (hlow : low ≤ value) (hhigh : value ≤ high) :
    clamp value low high = value := by
  rw [clamp, if_neg (by omega), if_neg (by omega)]

/-- An active animation with the copy it draws. -/
structure Animates (renderer : Renderer α) (old : Bitmap α) : Prop where
  active : renderer.active = true
  source : renderer.source = some old
  width : old.width = renderer.framebuffer.width
  height : old.height = renderer.framebuffer.height

section pictures

variable {renderer : Renderer α} {old : Bitmap α} {screen : Screen α} {x y : Int}

theorem gridHeight_le (renderer : Renderer α) :
    renderer.gridHeight ≤ renderer.framebuffer.height :=
  Int.min_le_left ..

theorem gridHeight_pos (renderer : Renderer α) : 0 < renderer.gridHeight := by
  have hheight := renderer.framebuffer.height_pos
  have hrows := Nat.mul_pos renderer.rows_pos renderer.cellHeight_pos
  rw [Renderer.gridHeight]
  omega

theorem clamp_progressPx (hprogress : 0 ≤ renderer.progressPx)
    (hdistance : renderer.progressPx ≤ renderer.distancePx)
    (hfits : renderer.distancePx ≤ renderer.gridHeight) :
    clamp renderer.progressPx 0 (min renderer.distancePx renderer.gridHeight) =
      renderer.progressPx :=
  clamp_of_mem hprogress (by omega)

/-- The copy, drawn at `shift`, covers the rows of the grid that it has after the shift. -/
theorem Animates.drawBitmap_copy (h : Animates renderer old) (hgrid : InGrid renderer x y)
    {shift : Int} (hfirst : 0 ≤ y - shift) (hlast : y - shift < renderer.gridHeight)
    (background : Screen α) :
    drawBitmap ⟨0, 0, renderer.framebuffer.width, renderer.gridHeight⟩ old 0 shift background x y =
      old.pixel x (y - shift) := by
  obtain ⟨hleft, hright, htop, hbottom⟩ := hgrid
  have hheight := gridHeight_le renderer
  rw [drawBitmap_inside, Int.sub_zero]
  · simp only [Rect.Contains]
    omega
  · simp only [Rect.Contains, Bitmap.area, h.width, h.height]
    omega

/-- Forward, the copy leaves through the top and the new view follows it. -/
theorem drawScrollAnimation_forward (h : Animates renderer old)
    (hdirection : renderer.direction = 1) (hgrid : InGrid renderer x y)
    (hprogress : 0 ≤ renderer.progressPx) (hdistance : renderer.progressPx ≤ renderer.distancePx)
    (hfits : renderer.distancePx ≤ renderer.gridHeight) :
    (drawScrollAnimation renderer screen).2 x y =
      if y + renderer.progressPx < renderer.gridHeight then old.pixel x (y + renderer.progressPx)
      else renderer.framebuffer.pixel x (y + renderer.progressPx - renderer.distancePx) := by
  have hclamp := clamp_progressPx hprogress hdistance hfits
  simp only [drawScrollAnimation, h.active, h.source, hclamp, hdirection]
  rw [if_pos (by decide)]
  have hcopy : y + renderer.progressPx < renderer.gridHeight → ∀ background : Screen α,
      drawBitmap ⟨0, 0, renderer.framebuffer.width, renderer.gridHeight⟩ old 0
        (-renderer.progressPx) background x y = old.pixel x (y + renderer.progressPx) := by
    intro hold background
    have htop := hgrid.top
    rw [h.drawBitmap_copy hgrid (by omega) (by omega), Int.sub_neg]
  obtain ⟨hleft, hright, htop, hbottom⟩ := hgrid
  have hheight := gridHeight_le renderer
  split
  · split
    · next hold =>
      rw [drawBitmap_outside (by simp only [Rect.Contains]; omega)]
      exact hcopy hold _
    · next hnew =>
      rw [drawBitmap_inside (by simp only [Rect.Contains]; omega)
        (by simp only [Rect.Contains, Bitmap.area]; omega)]
      rw [Int.sub_zero, show y - (renderer.distancePx - renderer.progressPx) =
        y + renderer.progressPx - renderer.distancePx by omega]
  · rw [if_pos (by omega)]
    exact hcopy (by omega) _

/-- Backward, the copy leaves through the bottom and the new view comes before it. -/
theorem drawScrollAnimation_backward (h : Animates renderer old)
    (hdirection : renderer.direction = -1)
    (hgrid : InGrid renderer x y) (hprogress : 0 ≤ renderer.progressPx)
    (hdistance : renderer.progressPx ≤ renderer.distancePx)
    (hfits : renderer.distancePx ≤ renderer.gridHeight) :
    (drawScrollAnimation renderer screen).2 x y =
      if 0 ≤ y - renderer.progressPx then old.pixel x (y - renderer.progressPx)
      else renderer.framebuffer.pixel x (y - renderer.progressPx + renderer.distancePx) := by
  have hclamp := clamp_progressPx hprogress hdistance hfits
  simp only [drawScrollAnimation, h.active, h.source, hclamp, hdirection]
  rw [if_neg (by decide)]
  have hcopy : 0 ≤ y - renderer.progressPx → ∀ background : Screen α,
      drawBitmap ⟨0, 0, renderer.framebuffer.width, renderer.gridHeight⟩ old 0
        renderer.progressPx background x y = old.pixel x (y - renderer.progressPx) := by
    intro hold background
    have hbottom := hgrid.bottom
    exact h.drawBitmap_copy hgrid hold (by omega) background
  obtain ⟨hleft, hright, htop, hbottom⟩ := hgrid
  have hheight := gridHeight_le renderer
  split
  · split
    · next hold =>
      rw [drawBitmap_outside (by simp only [Rect.Contains]; omega)]
      exact hcopy hold _
    · next hnew =>
      rw [drawBitmap_inside (by simp only [Rect.Contains]; omega)
        (by simp only [Rect.Contains, Bitmap.area]; omega)]
      rw [Int.sub_zero, show y - (-renderer.distancePx + renderer.progressPx) =
        y - renderer.progressPx + renderer.distancePx by omega]
  · rw [if_pos (by omega)]
    exact hcopy (by omega) _

/-- A jump of more than the grid, at its end: the new framebuffer is drawn too low, or too high, and
the copy has left the grid. -/
theorem drawScrollAnimation_blank (h : Animates renderer old)
    (hlong : renderer.gridHeight ≤ renderer.distancePx)
    (hend : renderer.progressPx = renderer.distancePx)
    (hrow : if renderer.direction > 0 then
        renderer.framebuffer.height ≤ y + renderer.gridHeight ∧
          y < renderer.distancePx - renderer.gridHeight
      else y < renderer.gridHeight ∧
        renderer.framebuffer.height ≤ y + (renderer.distancePx - renderer.gridHeight)) :
    (drawScrollAnimation renderer screen).2 x y = renderer.background := by
  have hpos := gridHeight_pos renderer
  have hclamp : clamp renderer.progressPx 0 (min renderer.distancePx renderer.gridHeight) =
      renderer.gridHeight := by
    rw [hend, clamp, if_neg (by omega), Int.min_eq_right hlong]
    split <;> omega
  simp only [drawScrollAnimation, h.active, h.source, hclamp]
  split at hrow
  · next hforward =>
    rw [if_pos hforward, if_pos hpos,
      drawBitmap_outside (by simp only [Rect.Contains, Bitmap.area]; omega),
      drawBitmap_outside (by simp only [Rect.Contains, Bitmap.area, h.height]; omega)]
  · next hbackward =>
    rw [if_neg hbackward, if_pos hpos,
      drawBitmap_outside (by simp only [Rect.Contains, Bitmap.area]; omega),
      drawBitmap_outside (by simp only [Rect.Contains, Bitmap.area, h.height]; omega)]

end pictures

/-! ## Continuous scrolling -/

section continuous

variable {renderer : Renderer α} {client : Bitmap α} {info : ScrollInfo} {painted : Screen α}

/-- A viewport scroll begins an animation when its distance fits the `int`. -/
theorem beginScrollAnimation_begins (h : ViewportScroll renderer client info)
    (hfits : (scrollOffset renderer info).natAbs < 2 ^ 31) :
    ∃ starts settles, beginScrollAnimation true info renderer =
      { renderer with
        source := some renderer.framebuffer
        active := true
        distancePx := (scrollOffset renderer info).natAbs
        progressPx := 0
        direction := scrollDirection info
        starts := starts
        settles := settles } := by
  have hlines : (scrollOffset renderer info).natAbs =
      info.scrollDelta.natAbs * renderer.cellHeight := by
    rw [scrollOffset, Int.natAbs_mul, Int.natAbs_natCast]
  have hpos : 0 < info.scrollDelta.natAbs * renderer.cellHeight :=
    Nat.mul_pos (Int.natAbs_pos.2 h.delta) renderer.cellHeight_pos
  have hint := toInt_of_lt hfits
  have hbegins : ¬ (!renderer.smoothScrolling || !renderer.framebufferValid ||
      info.scrollDelta == 0 || info.scrollKind != .viewport) = true := by
    simp [h.smooth, h.valid, h.kind, h.delta]
  obtain ⟨active, source, progress, direction, settles, hcancel⟩ :=
    cancelScrollAnimation_eq renderer
  unfold beginScrollAnimation
  rw [if_neg hbegins, hcancel]
  simp only [Bool.not_true, Bool.false_eq_true, if_false, ← hlines, hint]
  rw [if_neg (by omega)]
  exact ⟨renderer.starts + 1, settles, rfl⟩

/-- The animation of a distance that the grid can hold. -/
theorem paintFrame_animates (h : ViewportScroll renderer client info)
    (hfits : (scrollOffset renderer info).natAbs ≤ renderer.gridHeight) :
    ∃ starts settles, paintFrame client true info painted renderer =
      { renderer with
        framebuffer := renderer.framebuffer.paint painted
        framebufferValid := true
        source := some renderer.framebuffer
        active := true
        distancePx := (scrollOffset renderer info).natAbs
        progressPx := 0
        direction := scrollDirection info
        starts := starts
        settles := settles } := by
  have hsame : ensureFramebuffer client renderer = renderer := by
    rw [ensureFramebuffer, if_neg (by rw [h.width, h.height]; simp)]
  have hheight := gridHeight_le renderer
  have hlt := renderer.framebuffer.height_lt
  obtain ⟨starts, settles, hbegin⟩ := beginScrollAnimation_begins h (by omega)
  refine ⟨starts, settles, ?_⟩
  have hkind : info.scrollKind = .viewport ∧ info.scrollDelta ≠ 0 := ⟨h.kind, h.delta⟩
  simp only [paintFrame, hsame, if_pos hkind, hbegin]

/-- The picture of a progress shows the part of the document that begins there. -/
theorem documentRow_drawScrollAnimation (h : ViewportScroll renderer client info)
    (hfits : (scrollOffset renderer info).natAbs ≤ renderer.gridHeight) {progress : Int}
    (hprogress : 0 ≤ progress) (hdistance : progress ≤ (scrollOffset renderer info).natAbs)
    {screen : Screen α} {x y : Int} (hgrid : InGrid renderer x y) :
    documentRow renderer.framebuffer.pixel painted (scrollOffset renderer info)
        renderer.gridHeight x (y + scrollDirection info * progress) =
      some ((drawScrollAnimation
        ((paintFrame client true info painted renderer).atProgress progress) screen).2 x y) := by
  obtain ⟨starts, settles, heq⟩ := @paintFrame_animates _ _ _ _ painted h hfits
  have hanimates : Animates ((paintFrame client true info painted renderer).atProgress progress)
      renderer.framebuffer := by
    rw [heq]
    exact ⟨rfl, rfl, rfl, rfl⟩
  have hcell : (0 : Int) < renderer.cellHeight := by
    have hcellHeight := renderer.cellHeight_pos
    omega
  have hmoved :
      InGrid ((paintFrame client true info painted renderer).atProgress progress) x y := by
    rw [heq]
    exact ⟨hgrid.left, hgrid.right, hgrid.top, hgrid.bottom⟩
  have htop := hgrid.top
  have hbottom := hgrid.bottom
  rcases Int.lt_or_gt_of_ne h.delta with hbackward | hforward
  · -- backward, the document goes on above the old view
    have hdirection : scrollDirection info = -1 := if_neg (by omega)
    have hoffset : ((scrollOffset renderer info).natAbs : Int) = -scrollOffset renderer info := by
      have hneg : scrollOffset renderer info < 0 := Int.mul_neg_of_neg_of_pos hbackward hcell
      omega
    have hpicture := @drawScrollAnimation_backward _ _ _ screen x y hanimates
      (by rw [heq]; exact hdirection) hmoved (by rw [heq]; exact hprogress)
      (by rw [heq]; exact hdistance) (by rw [heq]; exact hfits)
    rw [hpicture, heq]
    simp only [Renderer.atProgress, hdirection, documentRow, hoffset]
    rw [show y + -1 * progress = y - progress by omega]
    by_cases hold : 0 ≤ y - progress
    · rw [if_pos (by omega), if_pos hold]
    · rw [if_neg (by omega), if_neg hold, if_pos (by omega)]
      rfl
  · have hdirection : scrollDirection info = 1 := if_pos hforward
    have hoffset : ((scrollOffset renderer info).natAbs : Int) = scrollOffset renderer info := by
      have hpos : 0 < scrollOffset renderer info := Int.mul_pos hforward hcell
      omega
    have hpicture := @drawScrollAnimation_forward _ _ _ screen x y hanimates
      (by rw [heq]; exact hdirection) hmoved (by rw [heq]; exact hprogress)
      (by rw [heq]; exact hdistance) (by rw [heq]; exact hfits)
    rw [hpicture, heq]
    simp only [Renderer.atProgress, hdirection, documentRow, hoffset, Int.one_mul]
    change _ = some (if y + progress < renderer.gridHeight then _ else _)
    by_cases hold : y + progress < renderer.gridHeight
    · rw [if_pos (by omega), if_pos hold]
    · rw [if_neg (by omega), if_neg hold, if_pos (by omega)]
      rfl

/-- Which of the two views shows the end of an animation. -/
theorem settles_iff_viewsAgree (h : ViewportScroll renderer client info)
    (hfits : (scrollOffset renderer info).natAbs ≤ renderer.gridHeight) :
    (∀ screen x y, InGrid renderer x y →
      (drawScrollAnimation ((paintFrame client true info painted renderer).atProgress
        (scrollOffset renderer info).natAbs) screen).2 x y = painted x y) ↔
      ViewsAgree renderer info painted := by
  have hrow : ∀ y, y + scrollDirection info * (scrollOffset renderer info).natAbs =
      y + scrollOffset renderer info := by
    intro y
    rw [scrollDirection_mul_natAbs h.delta]
  have hend : ∀ screen x y, InGrid renderer x y → documentRow renderer.framebuffer.pixel painted
      (scrollOffset renderer info) renderer.gridHeight x (y + scrollOffset renderer info) =
        some ((drawScrollAnimation ((paintFrame client true info painted renderer).atProgress
          (scrollOffset renderer info).natAbs) screen).2 x y) := by
    intro screen x y hgrid
    rw [← hrow]
    exact documentRow_drawScrollAnimation h hfits (by omega) (by omega) hgrid
  constructor
  · intro hsettles x y hgrid hshared
    have hdocument := hend painted x y hgrid
    rw [documentRow, if_pos ⟨hshared.top, hshared.bottom⟩, hsettles painted x y hgrid] at hdocument
    exact Option.some.inj hdocument
  · intro hagree screen x y hgrid
    have hdocument := hend screen x y hgrid
    have hview := hgrid.top
    have hview' := hgrid.bottom
    by_cases hshared : 0 ≤ y + scrollOffset renderer info ∧
        y + scrollOffset renderer info < renderer.gridHeight
    · rw [documentRow, if_pos hshared,
        hagree x y hgrid ⟨hgrid.left, hgrid.right, hshared.1, hshared.2⟩] at hdocument
      exact (Option.some.inj hdocument).symm
    · rw [documentRow, if_neg hshared, if_pos (by omega), Int.add_sub_cancel] at hdocument
      exact (Option.some.inj hdocument).symm

/-- After one pixel of a jump that is longer than the grid, one border of the grid lies between the
two views. -/
theorem natAbs_scrollOffset_le (h : ViewportScroll renderer client info)
    (hscroll : ContinuousScroll renderer client info painted) :
    (scrollOffset renderer info).natAbs ≤ renderer.gridHeight := by
  by_contra hlong
  have hpos := gridHeight_pos renderer
  have hwidth := renderer.framebuffer.width_pos
  have hsigned := @scrollDirection_mul_natAbs _ renderer info h.delta
  -- the bottom row of a forward scroll, the top row of a backward one
  rcases Int.lt_or_gt_of_ne h.delta with hbackward | hforward
  · have hdirection : scrollDirection info = -1 := if_neg (by omega)
    have hgrid : InGrid renderer 0 0 := ⟨by omega, by omega, by omega, by omega⟩
    have hshown := hscroll.shows 1 (by omega) (by omega) painted 0 0 hgrid
    rw [hdirection] at hshown hsigned
    rw [documentRow, if_neg (by omega), if_neg (by omega)] at hshown
    contradiction
  · have hdirection : scrollDirection info = 1 := if_pos hforward
    have hgrid : InGrid renderer 0 (renderer.gridHeight - 1) :=
      ⟨by omega, by omega, by omega, by omega⟩
    have hshown := hscroll.shows 1 (by omega) (by omega) painted 0 _ hgrid
    rw [hdirection] at hshown hsigned
    rw [documentRow, if_neg (by omega), if_neg (by omega)] at hshown
    contradiction

/-- A viewport scroll is shown as one document, and ends with the new view, exactly when it is no
longer than the grid and the views agree on the rows they share. -/
theorem continuousScroll_iff (h : ViewportScroll renderer client info) :
    ContinuousScroll renderer client info painted ↔
      (scrollOffset renderer info).natAbs ≤ renderer.gridHeight ∧
        ViewsAgree renderer info painted := by
  constructor
  · intro hscroll
    have hfits := natAbs_scrollOffset_le h hscroll
    exact ⟨hfits, (settles_iff_viewsAgree h hfits).1 hscroll.settles⟩
  · rintro ⟨hfits, hagree⟩
    exact ⟨fun progress hprogress hdistance screen x y hgrid =>
      documentRow_drawScrollAnimation h hfits hprogress hdistance hgrid,
      (settles_iff_viewsAgree h hfits).2 hagree⟩

/-- Two views of one document that shows `content`. -/
theorem viewsAgree_of_document {content : Screen α}
    (hold : ∀ x y, renderer.framebuffer.pixel x y = content x y)
    (hnew : ∀ x y, painted x y = content x (y + scrollOffset renderer info)) :
    ViewsAgree renderer info painted := by
  intro x y _ _
  rw [hold, hnew]

end continuous

/-! ## Fixed jumps -/

theorem four_lt_int : 4 < 2 ^ 31 := by decide

/-- A grid of two rows of two pixels, whose pixels show their row. -/
def twoRows : Renderer Int where
  background := -1
  framebuffer := ⟨1, 4, fun _ y => y, Nat.one_pos, Nat.succ_pos 3, four_lt_int⟩
  rows := 2
  cellHeight := 2
  rows_pos := Nat.two_pos
  cellHeight_pos := Nat.two_pos

theorem continuousScroll_iff_twoRows :
    ContinuousScroll twoRows twoRows.framebuffer ⟨-1, .viewport⟩ (fun _ y => y - 2) := by
  refine (continuousScroll_iff ⟨rfl, rfl, rfl, rfl, rfl, by decide⟩).2 ⟨by decide, ?_⟩
  apply viewsAgree_of_document
  · exact fun _ _ => rfl
  · exact fun _ _ => rfl

/-- Three lines are more than two rows. -/
theorem not_continuousScroll : ¬ ∀ (renderer : Renderer Int) (client : Bitmap Int)
    (info : ScrollInfo) (painted : Screen Int), ViewportScroll renderer client info →
      ContinuousScroll renderer client info painted := by
  intro h
  have hscroll : ViewportScroll twoRows twoRows.framebuffer ⟨3, .viewport⟩ :=
    ⟨rfl, rfl, rfl, rfl, rfl, by decide⟩
  have hfits := natAbs_scrollOffset_le hscroll
    (h twoRows twoRows.framebuffer ⟨3, .viewport⟩ (fun _ y => y + 6) hscroll)
  exact absurd hfits (by decide)

end SakuraTerminal.Wx.ScrollAnimation
