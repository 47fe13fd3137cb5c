import SakuraTerminal.Core.TakenFrame
import Mathlib.Algebra.BigOperators.Group.List.Basic
import Mathlib.Data.List.ProdSigma

/-!
# What the metrics count

The counters of `SakuraTerminalMetrics` for output, frames and latencies, as `FeedOutput`,
`TakePackedFrame` and `DrawPackedCell` keep them. They are `uint64_t`s, which are taken not to wrap
around.

libtsm reports a cell at most once in a draw, so the cells that are decoded for a frame are distinct
cells of the grid (`decodedCells_le`). `frame_cells_decoded` and `frame_cells_reused` then share the
cells of all frames between them. A latency is sampled by the first frame after output, so there are
no more samples than frames or chunks of output (`frameAccount_of_reachable`).

Counting is put beside the model of frames instead of into it: a `MeteredRun` has a `TerminalRun`
and counts what its steps do. Time is measured outside of the core, so the latency of a frame is
part of the event and may be negative, in which case the source counts it as 0.
-/

set_option autoImplicit false

namespace SakuraTerminal.Core

open SakuraTerminal.Foundations

/-! ## The counters -/

/-- The counters of `SakuraTerminalMetrics` that are about output and frames. -/
structure CoreMetrics where
  outputBytes : Nat := 0
  outputChunks : Nat := 0
  renderedFrames : Nat := 0
  frameCellsDecoded : Nat := 0
  frameCellsReused : Nat := 0
  renderLatencySamples : Nat := 0
  maxRenderLatencyUs : Nat := 0
  deriving DecidableEq, Repr

/-- A terminal with its metrics, and what was counted. The two lists are what was counted, and no
counter is read from them. -/
structure MeteredRun where
  run : TerminalRun
  metrics : CoreMetrics := {}
  outputWaitingForRender : Bool := false
  /-- The output fed so far, newest first. -/
  output : List (List UInt8) := []
  /-- The latencies sampled so far, newest first. -/
  latencies : List Nat := []

section metrics

variable (tsmUcs4ToUtf8 : Nat → List UInt8)

/-- `DrawPackedCell` counts the cells that it records. -/
def decodedCells (impl : Impl) (screen : Screen) (draw : Draw) : Nat :=
  (drawPass tsmUcs4ToUtf8 (drawContext impl screen) draw.calls).changedCells.length

/-- The counters after `FeedOutput`. -/
def countOutput (metrics : CoreMetrics) (data : List UInt8) : CoreMetrics :=
  { metrics with
    outputBytes := metrics.outputBytes + data.length
    outputChunks := metrics.outputChunks + 1 }

/-- The first lines of `TakePackedFrame`; `elapsed` has passed since the last output. -/
def countFrame (metrics : CoreMetrics) (outputWaiting : Bool) (elapsed : Int) : CoreMetrics :=
  let metrics := { metrics with renderedFrames := metrics.renderedFrames + 1 }
  if outputWaiting then
    { metrics with
      renderLatencySamples := metrics.renderLatencySamples + 1
      maxRenderLatencyUs := max metrics.maxRenderLatencyUs elapsed.toNat }
  else metrics

/-- The cells of a draw. -/
def countCells (metrics : CoreMetrics) (decoded total : Nat) : CoreMetrics :=
  { metrics with
    frameCellsDecoded := metrics.frameCellsDecoded + decoded
    frameCellsReused :=
      if decoded < total then metrics.frameCellsReused + (total - decoded)
      else metrics.frameCellsReused }

/-- One call, with the time that has passed since the last output. -/
def MeteredRun.next (metered : MeteredRun) (op : Op) (elapsed : Int) : MeteredRun :=
  let run := metered.run.next tsmUcs4ToUtf8 op
  match op with
  | .feedOutput data _ =>
    if data = [] then { metered with run := run }
    else
      { metered with
        run := run
        metrics := countOutput metered.metrics data
        outputWaitingForRender := true
        output := data :: metered.output }
  | .takePackedFrame draw =>
    { metered with
      run := run
      metrics := countCells
        (countFrame metered.metrics metered.outputWaitingForRender elapsed)
        (decodedCells tsmUcs4ToUtf8 metered.run.impl metered.run.screen draw)
        (metered.run.screen.width * metered.run.screen.height)
      outputWaitingForRender := false
      latencies :=
        if metered.outputWaitingForRender then elapsed.toNat :: metered.latencies
        else metered.latencies }
  | _ => { metered with run := run }

/-- Runs with counters. A label is a call with the time since the last output. -/
def meteredSystem : TransitionSystem MeteredRun (Op × Int) where
  init metered := ∃ screen, metered = { run := newRun screen }
  step metered op metered' := metered' = metered.next tsmUcs4ToUtf8 op.1 op.2

end metrics

/-- libtsm reports a cell at most once in a draw. -/
def ReportsOnce (_ : MeteredRun) : Op × Int → Prop
  | (.takePackedFrame draw, _) => (draw.calls.map fun call => (call.column, call.row)).Nodup
  | _ => True

/-! ## The cells of a draw -/

variable {tsmUcs4ToUtf8 : Nat → List UInt8}

/-- Distinct positions of a grid are no more than its cells. -/
theorem length_le_of_positions {positions : List (Nat × Nat)} {columns rows : Nat}
    (hnodup : positions.Nodup)
    (hrange : ∀ position ∈ positions, position.1 < columns ∧ position.2 < rows) :
    positions.length ≤ columns * rows := by
  have hsubset : positions ⊆ List.range columns ×ˢ List.range rows := by
    rintro ⟨column, row⟩ hmem
    obtain ⟨hcolumn, hrow⟩ := hrange _ hmem
    exact List.pair_mem_product.mpr ⟨List.mem_range.mpr hcolumn, List.mem_range.mpr hrow⟩
  have hlength := (List.subperm_of_subset hnodup hsubset).length_le
  rwa [List.length_product, List.length_range, List.length_range] at hlength

/-- With distinct positions in its calls, a draw decodes at most as many cells as the grid has. -/
theorem decodedCells_le {impl : Impl} {screen : Screen} {draw : Draw}
    (htable : GridTable (cachedGrid impl))
    (honce : (draw.calls.map fun call => (call.column, call.row)).Nodup) :
    decodedCells tsmUcs4ToUtf8 impl screen draw ≤ screen.width * screen.height := by
  have hspec : TakeSpec tsmUcs4ToUtf8 impl screen draw
      (takenContext tsmUcs4ToUtf8 impl screen draw) := takeSpec htable
  have hdrawn := hspec.drawn
  have hnodup := hdrawn.positions.nodup honce
  rw [decodedCells, ← List.length_map (fun change => (change.column, change.row))]
  apply length_le_of_positions hnodup
  intro position hmem
  obtain ⟨change, hchange, rfl⟩ := List.mem_map.mp hmem
  obtain ⟨call, -, haccepts, hrecords⟩ := hdrawn.recorded change hchange
  obtain ⟨hcolumn, hrow, -⟩ := haccepts
  change call.column < (drawGrid impl screen).columns at hcolumn
  change call.row < (drawGrid impl screen).rows at hrow
  rw [drawGrid_columns] at hcolumn
  rw [drawGrid_rows] at hrow
  exact ⟨hrecords.column ▸ hcolumn, hrecords.row ▸ hrow⟩

/-- What is not decoded is reused. -/
theorem countCells_sum (metrics : CoreMetrics) {decoded total : Nat} (h : decoded ≤ total) :
    (countCells metrics decoded total).frameCellsDecoded +
        (countCells metrics decoded total).frameCellsReused =
      metrics.frameCellsDecoded + metrics.frameCellsReused + total := by
  simp only [countCells]
  split <;> omega

/-! ## Runs -/

/-- The metrics say what happened. `frameCellsReused` is computed by subtraction in the source, and
`cells` says that it never runs below 0. -/
structure FrameAccount (metered : MeteredRun) : Prop where
  bytes : metered.metrics.outputBytes = (metered.output.map List.length).sum
  chunks : metered.metrics.outputChunks = metered.output.length
  frames : metered.metrics.renderedFrames = metered.run.taken.length
  cells : metered.metrics.frameCellsDecoded + metered.metrics.frameCellsReused =
    (metered.run.taken.map fun taken => taken.2.columns * taken.2.rows).sum
  samples : metered.metrics.renderLatencySamples = metered.latencies.length
  /-- A chunk of output is sampled once at most. -/
  samples_le_chunks : metered.metrics.renderLatencySamples + metered.outputWaitingForRender.toNat ≤
    metered.metrics.outputChunks
  samples_le_frames : metered.metrics.renderLatencySamples ≤ metered.metrics.renderedFrames
  maximum : metered.metrics.maxRenderLatencyUs = metered.latencies.foldr max 0

/-- The run without its metrics. -/
theorem reachable_of_metered {allowed : MeteredRun → Op × Int → Prop} {metered : MeteredRun}
    (h : (meteredSystem tsmUcs4ToUtf8).Reachable allowed metered) :
    (terminalSystem tsmUcs4ToUtf8).Reachable (fun _ _ => True) metered.run := by
  apply h.invariant
  · rintro _ ⟨screen, rfl⟩
    exact .init ⟨screen, rfl⟩
  · rintro metered ⟨op, elapsed⟩ _ _ ih _ rfl
    apply ih.step (a := op) trivial
    cases op with
    | feedOutput data after =>
      simp only [MeteredRun.next]
      split <;> rfl
    | _ => rfl

namespace FrameAccount

variable {metered : MeteredRun}

/-- Output is counted, and then waits for a frame. -/
theorem feed (h : FrameAccount metered) (data : List UInt8) (after : Screen) (elapsed : Int) :
    FrameAccount (metered.next tsmUcs4ToUtf8 (.feedOutput data after) elapsed) := by
  simp only [MeteredRun.next]
  by_cases hdata : data = []
  · rw [if_pos hdata]
    exact { h with }
  · rw [if_neg hdata]
    have hwaiting := Bool.toNat_le metered.outputWaitingForRender
    have hchunks := h.samples_le_chunks
    exact { h with
      bytes := by
        simp only [countOutput, List.map_cons, List.sum_cons, h.bytes]
        omega
      chunks := congrArg (· + 1) h.chunks
      samples_le_chunks := by
        simp only [countOutput, Bool.toNat_true]
        omega }

/-- The latency counters are counted before the cells. -/
theorem countFrame_cells (metrics : CoreMetrics) (outputWaiting : Bool) (elapsed : Int) :
    (countFrame metrics outputWaiting elapsed).frameCellsDecoded = metrics.frameCellsDecoded ∧
      (countFrame metrics outputWaiting elapsed).frameCellsReused = metrics.frameCellsReused ∧
      (countFrame metrics outputWaiting elapsed).renderedFrames = metrics.renderedFrames + 1 := by
  cases outputWaiting with
  | false | true => exact ⟨rfl, rfl, rfl⟩

/-- A frame is counted, with its cells, and takes the sample if output waits. -/
theorem take (h : FrameAccount metered) (htable : GridTable (cachedGrid metered.run.impl))
    {draw : Draw} (honce : (draw.calls.map fun call => (call.column, call.row)).Nodup)
    (elapsed : Int) :
    FrameAccount (metered.next tsmUcs4ToUtf8 (.takePackedFrame draw) elapsed) := by
  have hdecoded : decodedCells tsmUcs4ToUtf8 metered.run.impl metered.run.screen draw ≤
      metered.run.screen.width * metered.run.screen.height := decodedCells_le htable honce
  have hsum := countCells_sum
    (countFrame metered.metrics metered.outputWaitingForRender elapsed) hdecoded
  obtain ⟨hsameDecoded, hsameReused, hframes⟩ :=
    countFrame_cells metered.metrics metered.outputWaitingForRender elapsed
  have hchunks := h.samples_le_chunks
  have hle := h.samples_le_frames
  constructor
  case bytes =>
    simp only [MeteredRun.next, countCells, countFrame]
    split <;> exact h.bytes
  case chunks =>
    simp only [MeteredRun.next, countCells, countFrame]
    split <;> exact h.chunks
  case frames =>
    refine hframes.trans ?_
    rw [h.frames]
    rfl
  case cells =>
    rw [hsameDecoded, hsameReused, h.cells] at hsum
    exact hsum.trans (Nat.add_comm _ _)
  case samples =>
    simp only [MeteredRun.next, countCells, countFrame]
    split
    · exact congrArg (· + 1) h.samples
    · exact h.samples
  case samples_le_chunks =>
    simp only [MeteredRun.next, countCells, countFrame, Bool.toNat_false]
    split
    · next hwaiting =>
      rw [hwaiting] at hchunks
      exact hchunks
    · exact (Nat.le_add_right _ _).trans hchunks
  case samples_le_frames =>
    simp only [MeteredRun.next, countCells, countFrame]
    split
    · exact Nat.succ_le_succ hle
    · exact Nat.le_succ_of_le hle
  case maximum =>
    simp only [MeteredRun.next, countCells, countFrame]
    split
    · rw [h.maximum, List.foldr_cons, Nat.max_comm]
    · exact h.maximum

/-- Other calls are not counted here. -/
theorem other (h : FrameAccount metered) {run : TerminalRun}
    (htaken : run.taken = metered.run.taken) : FrameAccount { metered with run := run } :=
  { h with
    frames := by
      rw [htaken]
      exact h.frames
    cells := by
      rw [htaken]
      exact h.cells }

end FrameAccount

/-- In every run the bytes, the chunks and the frames are those of the run, every cell of every
frame was decoded or reused, and each latency sampled is that of other output. -/
theorem frameAccount_of_reachable {metered : MeteredRun}
    (hreachable : (meteredSystem tsmUcs4ToUtf8).Reachable ReportsOnce metered) :
    FrameAccount metered := by
  apply hreachable.invariant
  · rintro _ ⟨screen, rfl⟩
    exact ⟨rfl, rfl, rfl, rfl, rfl, Nat.le_refl 0, Nat.le_refl 0, rfl⟩
  · rintro metered ⟨op, elapsed⟩ _ hreach ih honce rfl
    cases op with
    | feedOutput data after => exact ih.feed data after elapsed
    | takePackedFrame draw =>
      exact ih.take (cacheInvariant (reachable_of_metered hreach)).table honce elapsed
    | scrollLines | scrollPageUp | scrollPageDown | resize | input => exact ih.other rfl

/-- Two lines are output and drawn; the second frame finds them as they were. -/
def reusingRun : MeteredRun :=
  [(.feedOutput [65, 66] (linesScreen 0 0), 0), (.takePackedFrame (linesDraw 0 1), 250),
    (.takePackedFrame ⟨[], 2⟩, 900)].foldl (fun metered op => metered.next ucs4ToUtf8 op.1 op.2)
      { run := newRun (linesScreen 0 0) }

theorem reusingRun_reachable :
    (meteredSystem ucs4ToUtf8).Reachable ReportsOnce reusingRun := by
  have hstep (metered : MeteredRun) (op : Op) (elapsed : Int)
      (honce : ReportsOnce metered (op, elapsed))
      (h : (meteredSystem ucs4ToUtf8).Reachable ReportsOnce metered) :
      (meteredSystem ucs4ToUtf8).Reachable ReportsOnce (metered.next ucs4ToUtf8 op elapsed) :=
    h.step honce rfl
  apply hstep _ (.takePackedFrame ⟨[], 2⟩) 900 List.nodup_nil
  apply hstep _ (.takePackedFrame (linesDraw 0 1)) 250 (by decide : [(0, 0), (0, 1)].Nodup)
  apply hstep _ (.feedOutput [65, 66] (linesScreen 0 0)) 0 trivial
  exact .init ⟨linesScreen 0 0, rfl⟩

theorem frameAccount_of_reachable_reusing :
    reusingRun.metrics.frameCellsDecoded = 2 ∧ reusingRun.metrics.frameCellsReused = 2 ∧
      reusingRun.metrics.maxRenderLatencyUs = 250 ∧ FrameAccount reusingRun :=
  ⟨rfl, rfl, rfl, frameAccount_of_reachable reusingRun_reachable⟩

end SakuraTerminal.Core
