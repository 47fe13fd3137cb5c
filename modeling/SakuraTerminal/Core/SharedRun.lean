import SakuraTerminal.Core.SharedGrid
import SakuraTerminal.Core.TerminalRun

/-!
# Frames over shared grids

A terminal whose cache and frames are pointers into a `PackedHeap`. Taking a frame changes the
cached grid in place if nothing else refers to it and a copy otherwise; freeing a frame drops its
pointer. In every run each live frame reads as it did when it was taken (`framesImmutable`), and
the run is one of `terminalSystem`, where grids are values (`sharedSimulation`).

The model runs side by side with a ghost copy of every frame (`LiveFrame.taken`), made when the
frame is taken and never looked at by the functions. `SharingInvariant` says that each live handle
still reads that copy. Taking a frame is the only step in which it could fail, and there it is the
use count that saves it: a cached grid that a frame refers to has a count above 1 and is copied
before anything is written.

The simulation makes the rest of the development apply to shared grids: it maps a run with pointers
to the run with values by reading the cache (`SharedRun.value`), and a call does the same on both
sides.
-/

set_option autoImplicit false

namespace SakuraTerminal.Core

open SakuraTerminal.Foundations
open SakuraTerminal.Foundations.TransitionSystem

/-! ## The system -/

/-- A frame that was not freed. -/
structure LiveFrame where
  /-- The members of the frame; the pointer stands for `grid`. -/
  frame : PackedFrame
  grid : Nat
  /-- What the frame showed when it was taken, for the theorems only. -/
  taken : PackedFrame

/-- The state of a terminal and of the handles its user holds. Handles may be freed in any order,
also after the terminal took further frames. -/
structure SharedRun where
  /-- The members of `Impl` other than the cache. -/
  impl : Impl
  screen : Screen
  heap : PackedHeap := {}
  /-- `packed_grid_cache_`. -/
  cache : Option Nat := none
  frames : List LiveFrame := []

/-- Everything the functions on frames can read through a handle. -/
def PackedHeap.readFrame (heap : PackedHeap) (live : LiveFrame) : Option PackedFrame :=
  (heap.readGrid live.grid).map fun grid => { live.frame with grid := grid }

/-- A call of the interface: one that the value model has too, or the release of a frame. -/
inductive SharedOp where
  | call (op : Op)
  /-- `sakura_terminal_frame_free` of one of the live frames. -/
  | frameFree (index : Nat)

section step

variable (tsmUcs4ToUtf8 : Nat → List UInt8) (run : SharedRun)

/-- The cached grid in the screen's size and rotated, before libtsm draws. -/
def sharedDrawHeap (heap : PackedHeap) (a : Nat) (impl : Impl) (screen : Screen) : PackedHeap :=
  let heap := heap.ensurePackedGrid a screen.width screen.height
  if reuseScrolledRows impl screen then heap.rotatePackedRows a impl.pendingContentScrollDelta
  else heap

/-- The pass of the callback over the grid behind the pointer. -/
def sharedDrawPass (heap : PackedHeap) (a : Nat) (impl : Impl) (screen : Screen) (draw : Draw) :
    PackedDrawContext :=
  drawPass tsmUcs4ToUtf8
    { drawContext impl screen with grid := (heap.readGrid a).getD {} } draw.calls

/-- What the pass leaves in the grid: `StyleIndex` appends to its table, and `RebuildPackedRows`
replaces rows. -/
def sharedRebuild (heap : PackedHeap) (a : Nat) (context : PackedDrawContext) : PackedHeap :=
  (heap.setStyles a context.grid.styles).rebuildPackedRows a context.changedCells
    context.changedText

/-- A frame is taken. Its members are those of `takePackedFrame` where the cache holds what the
pointer leads to. -/
def SharedRun.takes (draw : Draw) : SharedRun :=
  let (owned, a) := run.heap.ownCache run.cache
  -- the members that `takePackedFrame` reads, with the grid the pointer leads to
  let impl := { run.impl with packedGridCache := owned.readGrid a }
  let heap := sharedDrawHeap owned a impl run.screen
  let heap := sharedRebuild heap a (sharedDrawPass tsmUcs4ToUtf8 heap a impl run.screen draw)
  let frame := takePackedFrame tsmUcs4ToUtf8 impl run.screen draw
  { impl := { afterTake tsmUcs4ToUtf8 impl run.screen draw with packedGridCache := none }
    screen := run.screen
    heap := heap.retainGrid a
    cache := some a
    frames := ⟨{ frame with grid := {} }, a, frame⟩ :: run.frames }

/-- A frame is freed; freeing no frame does nothing. -/
def SharedRun.frees (index : Nat) : SharedRun :=
  match run.frames[index]? with
  | none => run
  | some live =>
    { run with
      heap := run.heap.releaseGrid live.grid
      frames := run.frames.eraseIdx index }

/-- One call. Those that take and free no frame touch neither grids nor frames. -/
def SharedRun.next : SharedOp → SharedRun
  | .call (.takePackedFrame draw) => run.takes tsmUcs4ToUtf8 draw
  | .call op =>
    let after := ({ impl := run.impl, screen := run.screen } : TerminalRun).next tsmUcs4ToUtf8 op
    { run with impl := after.impl, screen := after.screen }
  | .frameFree index => run.frees index

end step

/-- All runs with frames alive and freed in any number and order. -/
def sharedSystem (tsmUcs4ToUtf8 : Nat → List UInt8) : TransitionSystem SharedRun SharedOp where
  init run := ∃ screen, run = { impl := newImpl screen, screen := screen }
  step run op run' := run' = run.next tsmUcs4ToUtf8 op

/-- No call is excluded. -/
abbrev AnyCall (_ : SharedRun) (_ : SharedOp) : Prop := True

/-! ## The sharing invariant -/

/-- The pointers the live frames hold. -/
def frameRefs (frames : List LiveFrame) : Multiset Nat := ↑(frames.map LiveFrame.grid)

/-- The use counts are those of the pointers there are, and every live frame reads as it did when it
was taken. The cache of `impl` stays empty, as the grid is on the heap. -/
structure SharingInvariant (run : SharedRun) : Prop where
  counted : run.heap.Counted (PackedHeap.cacheRefs run.cache + frameRefs run.frames) 0
  frames : ∀ live ∈ run.frames, run.heap.readFrame live = some live.taken
  noValue : run.impl.packedGridCache = none

/-- The members with the grid behind the cache's pointer. A dangling pointer would give no cache at
all, which the invariant excludes. -/
def SharedRun.value (run : SharedRun) : Impl :=
  { run.impl with packedGridCache := run.cache.bind run.heap.readGrid }

variable {tsmUcs4ToUtf8 : Nat → List UInt8} {run : SharedRun}

/-- The callback changes nothing but the table of its grid. -/
theorem grid_drawPass (context : PackedDrawContext) (calls : List DrawCall) :
    (drawPass tsmUcs4ToUtf8 context calls).grid =
      { context.grid with styles := (drawPass tsmUcs4ToUtf8 context calls).grid.styles } := by
  have hcall : ∀ (context : PackedDrawContext) (call : DrawCall),
      (drawPackedCell tsmUcs4ToUtf8 context call).grid =
        { context.grid with
          styles := (drawPackedCell tsmUcs4ToUtf8 context call).grid.styles } := by
    intro context call
    have houtcome : DrawOutcome tsmUcs4ToUtf8 context call _ := drawOutcome context call
    -- whatever one call does, the grid keeps everything but its style table
    generalize drawPackedCell tsmUcs4ToUtf8 context call = after at houtcome ⊢
    cases houtcome <;> rfl
  rw [drawPass]
  induction calls generalizing context with
  | nil => rfl
  | cons call calls ih =>
    rw [List.foldl_cons, ih, hcall context call]

/-- Before the draw the cached grid is brought to its size and rotated, in place. -/
theorem updates_sharedDrawHeap {heap : PackedHeap} {a : Nat} {owners : Multiset Nat}
    (hcounted : heap.Counted owners 0) {impl : Impl}
    (hread : heap.readGrid a = some (impl.packedGridCache.getD {})) (screen : Screen) :
    PackedHeap.Updates a owners 0 heap (sharedDrawHeap heap a impl screen)
      (drawGrid impl screen) := by
  have hensured := PackedHeap.updates_ensurePackedGrid hcounted hread screen.width screen.height
  unfold sharedDrawHeap drawGrid
  dsimp only
  by_cases hreuse : reuseScrolledRows impl screen = true
  · rw [if_pos hreuse, if_pos hreuse]
    exact hensured.trans
      (PackedHeap.updates_rotatePackedRows hensured.counted hensured.holds _)
  · rw [if_neg hreuse, if_neg hreuse]
    exact hensured

/-- The grid the frame gets is the one computed on values. -/
theorem updates_take {heap : PackedHeap} {a : Nat} {owners : Multiset Nat}
    (hcounted : heap.Counted owners 0) {impl : Impl}
    (hread : heap.readGrid a = some (impl.packedGridCache.getD {})) (screen : Screen)
    (draw : Draw) :
    let drawn := sharedDrawHeap heap a impl screen
    PackedHeap.Updates a owners 0 heap
      (sharedRebuild drawn a (sharedDrawPass tsmUcs4ToUtf8 drawn a impl screen draw))
      (takenGrid tsmUcs4ToUtf8 impl screen draw) := by
  have hdrawn := updates_sharedDrawHeap hcounted hread screen
  have hpass : sharedDrawPass tsmUcs4ToUtf8 (sharedDrawHeap heap a impl screen) a impl screen draw =
      drawPass tsmUcs4ToUtf8 (drawContext impl screen) draw.calls := by
    rw [sharedDrawPass, hdrawn.holds]
    rfl
  dsimp only
  rw [hpass, takenGrid_eq]
  generalize hcontext : drawPass tsmUcs4ToUtf8 (drawContext impl screen) draw.calls = context
  have hgrid : ({ drawGrid impl screen with styles := context.grid.styles } : PackedGrid) =
      context.grid := by
    have hpasses := @grid_drawPass tsmUcs4ToUtf8 (drawContext impl screen) draw.calls
    rw [hcontext] at hpasses
    exact hpasses.symm
  have hstyles := PackedHeap.updates_setStyles hdrawn.counted hdrawn.holds context.grid.styles
  rw [hgrid] at hstyles
  exact hdrawn.trans (hstyles.trans
    (PackedHeap.updates_rebuildPackedRows hstyles.counted hstyles.holds _ _))

/-! ## Taking -/

/-- What `TakePackedFrame` computes depends on the cache only through the grid in it. -/
theorem takePackedFrame_cache (impl : Impl) (cache cache' : Option PackedGrid)
    (hcache : cache.getD {} = cache'.getD {}) (screen : Screen) (draw : Draw) :
    takePackedFrame tsmUcs4ToUtf8 { impl with packedGridCache := cache } screen draw =
      takePackedFrame tsmUcs4ToUtf8 { impl with packedGridCache := cache' } screen draw := by
  have hgrid : drawGrid { impl with packedGridCache := cache } screen =
      drawGrid { impl with packedGridCache := cache' } screen := by
    rw [drawGrid]
    dsimp only
    rw [hcache]
    rfl
  have hcontext : drawContext { impl with packedGridCache := cache } screen =
      drawContext { impl with packedGridCache := cache' } screen := by
    rw [drawContext, hgrid]
    rfl
  have htaken : takenContext tsmUcs4ToUtf8 { impl with packedGridCache := cache } screen draw =
      takenContext tsmUcs4ToUtf8 { impl with packedGridCache := cache' } screen draw := by
    rw [takenContext, hcontext]
    rfl
  rw [takePackedFrame, takenChanged, takenRegion, takenGrid, htaken]
  rfl

/-- Frames whose grids read the same read the same. -/
theorem readFrame_congr {heap heap' : PackedHeap} {live : LiveFrame}
    (hgrid : heap'.readGrid live.grid = heap.readGrid live.grid) :
    heap'.readFrame live = heap.readFrame live := by
  simp only [PackedHeap.readFrame]
  rw [hgrid]

theorem grid_mem_frameRefs {frames : List LiveFrame} {live : LiveFrame} (hlive : live ∈ frames) :
    live.grid ∈ frameRefs frames := Multiset.mem_coe.mpr (List.mem_map.mpr ⟨live, hlive, rfl⟩)

theorem frameRefs_eraseIdx {frames : List LiveFrame} {index : Nat} {live : LiveFrame}
    (hlive : frames[index]? = some live) :
    frameRefs frames = live.grid ::ₘ frameRefs (frames.eraseIdx index) := by
  obtain ⟨hindex, rfl⟩ := List.getElem?_eq_some_iff.mp hlive
  apply Multiset.coe_eq_coe.mpr
  exact ((List.getElem_cons_eraseIdx_perm hindex).map LiveFrame.grid).symm

/-- What taking a frame does, with the heap and the pointer `ownCache` leaves. -/
structure Takes (tsmUcs4ToUtf8 : Nat → List UInt8) (run run' : SharedRun) (draw : Draw) : Prop where
  invariant : SharingInvariant run'
  value : run'.value = afterTake tsmUcs4ToUtf8 run.value run.screen draw
  screen : run'.screen = run.screen
  frames : run'.frames.map LiveFrame.taken =
    takePackedFrame tsmUcs4ToUtf8 run.value run.screen draw :: run.frames.map LiveFrame.taken

/-- Taking a frame: the new frame reads as the frame computed on values, and the older ones read as
before. -/
theorem SharingInvariant.takes (h : SharingInvariant run) (draw : Draw) :
    Takes tsmUcs4ToUtf8 run (run.takes tsmUcs4ToUtf8 draw) draw := by
  have howned := PackedHeap.owned_ownCache h.counted
  rw [SharedRun.takes]
  generalize run.heap.ownCache run.cache = owned at howned
  obtain ⟨heap, a⟩ := owned
  have hread : heap.readGrid a = some ((run.cache.bind run.heap.readGrid).getD {}) := howned.holds
  dsimp only
  rw [hread]
  generalize himpl : ({ run.impl with
    packedGridCache := some ((run.cache.bind run.heap.readGrid).getD {}) } : Impl) = impl
  have hcached : heap.readGrid a = some (impl.packedGridCache.getD {}) := by
    rw [hread, ← himpl]
    rfl
  have hframe : takePackedFrame tsmUcs4ToUtf8 impl run.screen draw =
      takePackedFrame tsmUcs4ToUtf8 run.value run.screen draw := by
    rw [← himpl]
    exact takePackedFrame_cache run.impl _ _ rfl run.screen draw
  have hupdates := @updates_take tsmUcs4ToUtf8 heap a _ howned.counted impl hcached run.screen draw
  dsimp only at hupdates
  generalize sharedRebuild (sharedDrawHeap heap a impl run.screen) a
    (sharedDrawPass tsmUcs4ToUtf8 (sharedDrawHeap heap a impl run.screen) a impl run.screen draw) =
      rebuilt at hupdates ⊢
  have hgrid : (rebuilt.retainGrid a).readGrid a =
      some (takePackedFrame tsmUcs4ToUtf8 impl run.screen draw).grid :=
    (PackedHeap.readGrid_retainGrid rebuilt a a).trans hupdates.holds
  constructor
  case invariant =>
    constructor
    case counted =>
      have hretained := PackedHeap.counted_retainGrid hupdates.counted (Multiset.mem_cons_self a _)
      change (rebuilt.retainGrid a).Counted ({a} + (a ::ₘ frameRefs run.frames)) 0
      rw [Multiset.singleton_add]
      exact hretained
    case frames =>
      intro live hlive
      cases List.mem_cons.mp hlive with
      | inl hnew =>
        subst hnew
        rw [PackedHeap.readFrame]
        dsimp only
        rw [hgrid]
        rfl
      | inr hold =>
        rw [← h.frames live hold]
        apply readFrame_congr
        have hmem := grid_mem_frameRefs hold
        -- the grid that is changed belongs to the cache alone
        have hne : live.grid ≠ a := fun heq => howned.alone (heq ▸ hmem)
        exact (PackedHeap.readGrid_retainGrid rebuilt a live.grid).trans
          ((hupdates.others _ hne).trans (howned.others _ hmem))
    case noValue => rfl
  case value =>
    change { afterTake tsmUcs4ToUtf8 impl run.screen draw with
      packedGridCache := (rebuilt.retainGrid a).readGrid a } = _
    rw [hgrid]
    rw [afterTake]
    dsimp only
    rw [hframe, ← himpl]
    rfl
  case screen => rfl
  case frames =>
    rw [List.map_cons, hframe]

/-- Freeing a frame: the others read as before. -/
theorem SharingInvariant.frees (h : SharingInvariant run) (index : Nat) :
    SharingInvariant (run.frees index) ∧ (run.frees index).value = run.value ∧
      (run.frees index).screen = run.screen ∧
      ∀ live ∈ (run.frees index).frames, live ∈ run.frames := by
  cases hlive : run.frames[index]? with
  | none =>
    have hfrees : run.frees index = run := by
      rw [SharedRun.frees, hlive]
    rw [hfrees]
    exact ⟨h, rfl, rfl, fun _ hmem => hmem⟩
  | some live =>
    have hfrees : run.frees index =
        { run with
          heap := run.heap.releaseGrid live.grid
          frames := run.frames.eraseIdx index } := by
      rw [SharedRun.frees, hlive]
    have hrefs : PackedHeap.cacheRefs run.cache + frameRefs run.frames =
        live.grid ::ₘ (PackedHeap.cacheRefs run.cache + frameRefs (run.frames.eraseIdx index)) := by
      rw [frameRefs_eraseIdx hlive, Multiset.add_cons]
    have hcounted := h.counted
    rw [hrefs] at hcounted
    obtain ⟨hreleased, hkept⟩ := PackedHeap.releaseGrid_spec hcounted
    rw [hfrees]
    refine ⟨⟨hreleased, ?_, h.noValue⟩, ?_, rfl,
      fun other hother => List.mem_of_mem_eraseIdx hother⟩
    · intro other hother
      rw [← h.frames other (List.mem_of_mem_eraseIdx hother)]
      apply readFrame_congr
      apply hkept
      exact Multiset.mem_add.mpr (.inr (grid_mem_frameRefs hother))
    · unfold SharedRun.value
      dsimp only
      cases hcache : run.cache with
      | none => rfl
      | some a =>
        have hread : (run.heap.releaseGrid live.grid).readGrid a = run.heap.readGrid a := by
          apply hkept
          rw [hcache]
          exact Multiset.mem_add.mpr (.inl (Multiset.mem_singleton_self a))
        rw [Option.bind_some, Option.bind_some, hread]

/-! ## Runs -/

/-- Output does not look at the cache. -/
theorem feedOutput_cache (impl : Impl) (cache : Option PackedGrid) (before : Screen)
    (data : List UInt8) (after : Screen) :
    feedOutput { impl with packedGridCache := cache } before data after =
      { feedOutput impl before data after with packedGridCache := cache } := by
  unfold feedOutput
  by_cases hdata : data = []
  · rw [if_pos hdata, if_pos hdata]
  · rw [if_neg hdata, if_neg hdata]
    dsimp only
    by_cases hsize : impl.observedLines.length ≠ before.height
    · simp only [if_pos hsize]
      rfl
    · simp only [if_neg hsize]
      rfl

/-- A call that takes no frame computes the same with and without the cached grid. -/
theorem next_cache (tsmUcs4ToUtf8 : Nat → List UInt8) {op : Op}
    (hop : ∀ draw, op ≠ .takePackedFrame draw) (impl : Impl)
    (value : TerminalRun) (cache : Option PackedGrid)
    (hvalue : value.impl = { impl with packedGridCache := cache }) :
    let after := ({ impl := impl, screen := value.screen } : TerminalRun).next tsmUcs4ToUtf8 op
    (value.next tsmUcs4ToUtf8 op).impl = { after.impl with packedGridCache := cache } ∧
      (value.next tsmUcs4ToUtf8 op).screen = after.screen := by
  obtain ⟨valueImpl, screen, linesMoved, viewportMoved, taken, reported⟩ := value
  dsimp only at hvalue
  subst hvalue
  cases op with
  | feedOutput data after => exact ⟨feedOutput_cache impl cache screen data after, rfl⟩
  | scrollLines lines after =>
    refine ⟨?_, rfl⟩
    change scrollLines _ lines screen after = { scrollLines impl lines screen after with
      packedGridCache := cache }
    simp only [scrollLines]
    split <;> rfl
  | scrollPageUp pages after => exact ⟨rfl, rfl⟩
  | scrollPageDown pages after => exact ⟨rfl, rfl⟩
  | resize after => exact ⟨rfl, rfl⟩
  | input after => exact ⟨rfl, rfl⟩
  | takePackedFrame draw => exact absurd rfl (hop draw)

/-- A call that takes no frame, on shared grids and on values. -/
theorem SharedRun.next_call {op : Op} (hop : ∀ draw, op ≠ .takePackedFrame draw) :
    run.next tsmUcs4ToUtf8 (.call op) =
      let after := ({ impl := run.impl, screen := run.screen } : TerminalRun).next tsmUcs4ToUtf8 op
      { run with impl := after.impl, screen := after.screen } := by
  cases op with
  | takePackedFrame draw => exact absurd rfl (hop draw)
  | _ => rfl

/-- The run over values that a run over shared grids stands for. Its frames are all that were ever
taken, while the pointers are those not freed yet. -/
structure StandsFor (run : SharedRun) (value : TerminalRun) : Prop where
  invariant : SharingInvariant run
  impl : value.impl = run.value
  screen : value.screen = run.screen
  taken : ∀ live ∈ run.frames, live.taken ∈ value.taken.map Prod.snd

/-- Taking a frame on both sides. The new frame reads as the one on values, which joins those ever
taken. -/
theorem StandsFor.takes {value : TerminalRun} (h : StandsFor run value) (draw : Draw) :
    StandsFor (run.takes tsmUcs4ToUtf8 draw) (value.takes tsmUcs4ToUtf8 draw) := by
  have htakes : Takes tsmUcs4ToUtf8 run _ draw := h.invariant.takes draw
  constructor
  case invariant => exact htakes.invariant
  case impl =>
    change afterTake tsmUcs4ToUtf8 value.impl value.screen draw = _
    rw [htakes.value, h.impl, h.screen]
  case screen => exact h.screen.trans htakes.screen.symm
  case taken =>
    intro live hlive
    have hmem : live.taken ∈ (run.takes tsmUcs4ToUtf8 draw).frames.map LiveFrame.taken :=
      List.mem_map.mpr ⟨live, hlive, rfl⟩
    rw [htakes.frames] at hmem
    change live.taken ∈ takePackedFrame tsmUcs4ToUtf8 value.impl value.screen draw ::
      value.taken.map Prod.snd
    rw [h.impl, h.screen]
    cases List.mem_cons.mp hmem with
    | inl hnew => exact List.mem_cons.mpr (.inl hnew)
    | inr hold =>
      obtain ⟨older, holder, heq⟩ := List.mem_map.mp hold
      exact List.mem_cons.mpr (.inr (heq ▸ h.taken older holder))

/-- A call that takes no frame leaves the heap alone. -/
theorem StandsFor.call {value : TerminalRun} (h : StandsFor run value) {op : Op}
    (hop : ∀ draw, op ≠ .takePackedFrame draw) :
    StandsFor (run.next tsmUcs4ToUtf8 (.call op)) (value.next tsmUcs4ToUtf8 op) := by
  have hquiet : QuietStep value (value.next tsmUcs4ToUtf8 op) := by
    rcases next_cases tsmUcs4ToUtf8 value op with ⟨draw, hdraw, -⟩ | hquiet
    · exact absurd hdraw (hop draw)
    · exact hquiet
  -- the members without a cache go the same way; the heap and the frames are not touched
  have hnone : QuietStep { impl := run.impl, screen := run.screen }
      (({ impl := run.impl, screen := run.screen } : TerminalRun).next tsmUcs4ToUtf8 op) := by
    rcases next_cases tsmUcs4ToUtf8 { impl := run.impl, screen := run.screen } op with
      ⟨draw, hdraw, -⟩ | hquiet
    · exact absurd hdraw (hop draw)
    · exact hquiet
  obtain ⟨himpl, hscreen⟩ := next_cache tsmUcs4ToUtf8 hop run.impl value _ h.impl
  rw [h.screen] at himpl hscreen
  rw [SharedRun.next_call hop]
  constructor
  case invariant =>
    exact ⟨h.invariant.counted, h.invariant.frames, hnone.cache.grid.trans h.invariant.noValue⟩
  case impl => exact himpl
  case screen => exact hscreen
  case taken =>
    rw [hquiet.taken]
    exact h.taken

theorem StandsFor.frees {value : TerminalRun} (h : StandsFor run value) (index : Nat) :
    StandsFor (run.frees index) value := by
  obtain ⟨hinvariant, hvalue, hscreen, hmem⟩ := h.invariant.frees index
  constructor
  case invariant => exact hinvariant
  case impl => exact h.impl.trans hvalue.symm
  case screen => exact h.screen.trans hscreen.symm
  case taken => exact fun live hlive => h.taken live (hmem live hlive)

/-- Grids behind pointers behave like grids that are values. -/
theorem sharedSimulation (tsmUcs4ToUtf8 : Nat → List UInt8) :
    Simulation (sharedSystem tsmUcs4ToUtf8) (terminalSystem tsmUcs4ToUtf8) AnyCall
      (fun _ _ => True) StandsFor where
  init := by
    rintro _ ⟨screen, rfl⟩
    refine ⟨newRun screen, ⟨screen, rfl⟩, ?_⟩
    have hnone : ∀ live : LiveFrame, live ∉ [] := fun _ => List.not_mem_nil
    exact ⟨⟨.empty, fun live hlive => absurd hlive (hnone live), rfl⟩, rfl, rfl,
      fun live hlive => absurd hlive (hnone live)⟩
  step := by
    rintro run op _ value h - rfl
    cases op with
    | frameFree index => exact ⟨value, h.frees index, .inl rfl⟩
    | call op =>
      refine ⟨value.next tsmUcs4ToUtf8 op, ?_, .inr ⟨op, trivial, rfl⟩⟩
      cases op with
      | takePackedFrame draw => exact h.takes draw
      | _ => exact h.call fun _ heq => nomatch heq

/-- Frames are immutable: whatever was called since, everything readable through a live frame is
what the frame showed when it was taken. -/
theorem framesImmutable (tsmUcs4ToUtf8 : Nat → List UInt8) {run : SharedRun}
    (hreachable : (sharedSystem tsmUcs4ToUtf8).Reachable AnyCall run) :
    ∀ live ∈ run.frames, run.heap.readFrame live = some live.taken := by
  obtain ⟨value, -, hstands⟩ := (sharedSimulation tsmUcs4ToUtf8).reachable hreachable
  exact hstands.invariant.frames

/-- A screen of one cell that shows a letter. -/
def letterScreen (codepoint : Nat) : Screen where
  width := 1
  height := 1
  widthPos := Nat.one_pos
  widthLt := one_lt_unsigned
  heightPos := Nat.one_pos
  cell := fun _ _ => { codepoints := [codepoint], width := 1, attr := {} }
  rowId := fun _ => 0

/-- A sequence of calls on a new terminal. -/
def sharedCalls (tsmUcs4ToUtf8 : Nat → List UInt8) (screen : Screen) (ops : List SharedOp) :
    SharedRun :=
  ops.foldl (SharedRun.next tsmUcs4ToUtf8) { impl := newImpl screen, screen := screen }

theorem reachable_sharedCalls (screen : Screen) (ops : List SharedOp) :
    (sharedSystem tsmUcs4ToUtf8).Reachable AnyCall (sharedCalls tsmUcs4ToUtf8 screen ops) := by
  induction ops using List.reverseRecOn with
  | nil => exact .init ⟨screen, rfl⟩
  | append_singleton ops op ih =>
    rw [sharedCalls] at ih ⊢
    rw [List.foldl_append]
    exact .step ih trivial rfl

/-- `A` is taken, output shows `B`, and `B` is taken while the first frame is alive. -/
def retainedRun : SharedRun :=
  sharedCalls ucs4ToUtf8 (letterScreen 65)
    [.call (.takePackedFrame ⟨[⟨(letterScreen 65).cell 0 0, 0, 0, 1⟩], 1⟩),
      .call (.feedOutput [66] (letterScreen 66)),
      .call (.takePackedFrame ⟨[⟨(letterScreen 66).cell 0 0, 0, 0, 2⟩], 2⟩)]

theorem framesImmutable_retained : retainedRun.frames.length = 2 ∧
    ∀ live ∈ retainedRun.frames, retainedRun.heap.readFrame live = some live.taken :=
  ⟨by decide, framesImmutable ucs4ToUtf8 (reachable_sharedCalls _ _)⟩

example : retainedRun.frames.map (fun live => (retainedRun.heap.readFrame live).bind fun frame =>
    (frameCell frame 0 0).map CellView.codepoint) = [some 66, some 65] := by decide

end SakuraTerminal.Core
