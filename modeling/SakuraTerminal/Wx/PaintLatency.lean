import SakuraTerminal.Foundations.SlidingWindow
import Mathlib.Algebra.Order.Floor.Div
import Mathlib.Data.Nat.Basic

/-!
# Paint latency

`RecordPaintDuration` of `src/wx/terminal_renderer.cpp` keeps the last 256 paint durations in a ring
and publishes three percentiles of them. `PaintInvariant` says what the ring holds after any calls;
the percentiles are the nearest-rank percentiles of the last durations
(`paintPercentiles_window`).

The ring overwrites its oldest sample, and the percentiles are computed from a sorted copy of as
many samples as there are. Since sorting forgets the order, it does not matter where in the ring the
newest sample stands: the sorted copy is that of the last durations as a multiset, which is what
`KthSmallest` of the library is about.
-/

set_option autoImplicit false

namespace SakuraTerminal.Wx

open SakuraTerminal.Foundations

/-- `kPaintSampleWindow`. -/
abbrev paintSampleWindow : Nat := 256

/-- The paint times of `WxPaintMetrics`, and the samples the renderer keeps for them. Sums of
durations are taken modulo 2^64, as `uint64_t` is. -/
structure PaintLatency where
  paintTimeUs : Nat := 0
  maxPaintTimeUs : Nat := 0
  p50PaintTimeUs : Nat := 0
  p95PaintTimeUs : Nat := 0
  p99PaintTimeUs : Nat := 0
  paintTimeSamples : Vector Nat paintSampleWindow := Vector.replicate paintSampleWindow 0
  paintTimeSampleCount : Nat := 0
  paintTimeSampleCursor : Fin paintSampleWindow := 0
  deriving DecidableEq, Repr

/-- `rank` of `PaintPercentile`, in `size_t`. -/
def percentileRank (count numerator denominator : Nat) : Nat :=
  max 1 ((count * numerator + denominator - 1) / denominator)

/-- `PaintPercentile`. -/
def paintPercentile (sorted : List Nat) (count numerator denominator : Nat) : Nat :=
  sorted.getD (percentileRank count numerator denominator - 1) 0

/-- `std::sort` on the first `count` entries of a copy. -/
def sortedSamples (samples : List Nat) (count : Nat) : List Nat :=
  (samples.take count).insertionSort (· ≤ ·) ++ samples.drop count

/-- `RecordPaintDuration`. -/
def recordPaintDuration (latency : PaintLatency) (elapsedUs : Nat) : PaintLatency :=
  let samples := latency.paintTimeSamples.set latency.paintTimeSampleCursor.val elapsedUs
    latency.paintTimeSampleCursor.isLt
  let count := min (latency.paintTimeSampleCount + 1) paintSampleWindow
  let sorted := sortedSamples samples.toList count
  { paintTimeUs := (latency.paintTimeUs + elapsedUs) % 18446744073709551616
    maxPaintTimeUs := max latency.maxPaintTimeUs elapsedUs
    p50PaintTimeUs := paintPercentile sorted count 50 100
    p95PaintTimeUs := paintPercentile sorted count 95 100
    p99PaintTimeUs := paintPercentile sorted count 99 100
    paintTimeSamples := samples
    paintTimeSampleCount := count
    paintTimeSampleCursor := ⟨(latency.paintTimeSampleCursor.val + 1) % paintSampleWindow,
      Nat.mod_lt _ latency.paintTimeSampleCursor.pos⟩ }

/-- The renderer after one call for every duration of a list. -/
def recordPaintDurations (durations : List Nat) : PaintLatency :=
  durations.foldl recordPaintDuration {}

/-! ## Percentiles -/

/-- The nearest rank of the `q`-th percentile of `n` values: `n * q / 100`, rounded up. -/
def nearestRank (n q : Nat) : Nat := (n * q) ⌈/⌉ 100

theorem nearestRank_le {n q : Nat} (hq : q ≤ 100) : nearestRank n q ≤ n := by
  rw [nearestRank, ceilDiv_le_iff_le_mul (by omega : 0 < 100), Nat.mul_comm 100]
  exact Nat.mul_le_mul_left n hq

theorem one_le_nearestRank {n q : Nat} (hn : 0 < n) (hq : 0 < q) : 1 ≤ nearestRank n q := by
  by_contra h
  rw [not_le, Nat.lt_one_iff] at h
  have hle : n * q ≤ 100 * 0 := (ceilDiv_le_iff_le_mul (by omega : 0 < 100)).1 h.le
  have := Nat.mul_pos hn hq
  omega

theorem nearestRank_mono {n q q' : Nat} (h : q ≤ q') : nearestRank n q ≤ nearestRank n q' := by
  rw [nearestRank, ceilDiv_le_iff_le_mul (by omega : 0 < 100)]
  exact (Nat.mul_le_mul_left n h).trans ((ceilDiv_le_iff_le_mul (by omega : 0 < 100)).1 le_rfl)

/-- The rank the source computes is the nearest rank. -/
theorem percentileRank_eq {count q : Nat} (hcount : 0 < count) (hq : 0 < q) :
    percentileRank count q 100 = nearestRank count q := by
  have hone := one_le_nearestRank hcount hq
  rw [nearestRank, Nat.ceilDiv_eq_add_pred_div] at *
  exact Nat.max_eq_right hone

/-- A percentile of the sorted prefix is an order statistic of the unsorted one. -/
theorem kthSmallest_paintPercentile {samples : List Nat} {count q : Nat}
    (hcount : 0 < count) (hlength : count ≤ samples.length) (hq : 0 < q) (hq' : q ≤ 100) :
    KthSmallest (samples.take count) (nearestRank count q)
      (paintPercentile (sortedSamples samples count) count q 100) := by
  have hlow := one_le_nearestRank hcount hq
  have hhigh := @nearestRank_le count q hq'
  have htake : (samples.take count).length = count := by
    rw [List.length_take, Nat.min_eq_left hlength]
  have hplace : nearestRank count q - 1 < ((samples.take count).insertionSort (· ≤ ·)).length := by
    rw [List.length_insertionSort]
    omega
  rw [paintPercentile, percentileRank_eq hcount hq, sortedSamples, List.getD_eq_getElem?_getD,
    List.getElem?_append_left hplace, List.getElem?_eq_getElem hplace, Option.getD_some]
  have hkth := kthSmallest_insertionSort (List.getElem?_eq_getElem hplace)
  rwa [Nat.sub_add_cancel hlow] at hkth

/-! ## Any calls -/

/-- What the renderer keeps after the calls for `durations`. -/
structure PaintInvariant (durations : List Nat) (latency : PaintLatency) : Prop where
  holds : HoldsLast durations latency.paintTimeSamples latency.paintTimeSampleCursor
  count : latency.paintTimeSampleCount = min durations.length paintSampleWindow
  max : ∀ duration ∈ durations, duration ≤ latency.maxPaintTimeUs

/-- One more duration replaces the oldest sample once the ring is full. -/
theorem PaintInvariant.record {durations : List Nat} {latency : PaintLatency}
    (h : PaintInvariant durations latency) (elapsedUs : Nat) :
    PaintInvariant (durations ++ [elapsedUs]) (recordPaintDuration latency elapsedUs) := by
  constructor
  case holds =>
    exact h.holds.push elapsedUs rfl
  case count =>
    change min (latency.paintTimeSampleCount + 1) paintSampleWindow = _
    rw [h.count, List.length_append, List.length_singleton]
    omega
  case max =>
    intro duration hduration
    change duration ≤ Max.max latency.maxPaintTimeUs elapsedUs
    rcases List.mem_append.1 hduration with hold | hnew
    · exact (h.max duration hold).trans (le_max_left _ _)
    · rw [List.mem_singleton.1 hnew]
      exact le_max_right _ _

theorem paintInvariant (durations : List Nat) :
    PaintInvariant durations (recordPaintDurations durations) := by
  induction durations using List.reverseRecOn with
  | nil => exact ⟨holdsLast_nil _ rfl, rfl, by simp⟩
  | append_singleton durations elapsedUs ih =>
    rw [recordPaintDurations, List.foldl_concat]
    exact ih.record elapsedUs

/-- The percentiles are read off the samples as they are after the call. -/
theorem recordPaintDurations_percentiles (durations : List Nat) (elapsedUs : Nat) :
    let latency := recordPaintDurations (durations ++ [elapsedUs])
    let sorted := sortedSamples latency.paintTimeSamples.toList latency.paintTimeSampleCount
    latency.p50PaintTimeUs = paintPercentile sorted latency.paintTimeSampleCount 50 100 ∧
      latency.p95PaintTimeUs = paintPercentile sorted latency.paintTimeSampleCount 95 100 ∧
      latency.p99PaintTimeUs = paintPercentile sorted latency.paintTimeSampleCount 99 100 := by
  rw [recordPaintDurations, List.foldl_concat]
  exact ⟨rfl, rfl, rfl⟩

/-- The published percentiles are those of `values`. The last inequality is about all durations, not
only those in the ring. -/
structure PercentilesOf (values : List Nat) (latency : PaintLatency) : Prop where
  p50 : KthSmallest values (nearestRank values.length 50) latency.p50PaintTimeUs
  p95 : KthSmallest values (nearestRank values.length 95) latency.p95PaintTimeUs
  p99 : KthSmallest values (nearestRank values.length 99) latency.p99PaintTimeUs
  p50_le_p95 : latency.p50PaintTimeUs ≤ latency.p95PaintTimeUs
  p95_le_p99 : latency.p95PaintTimeUs ≤ latency.p99PaintTimeUs
  p99_le_max : latency.p99PaintTimeUs ≤ latency.maxPaintTimeUs

/-- The ranks lie in the sorted prefix of the samples. -/
def RanksInside (latency : PaintLatency) : Prop :=
  ∀ q ∈ [50, 95, 99], 1 ≤ percentileRank latency.paintTimeSampleCount q 100 ∧
    percentileRank latency.paintTimeSampleCount q 100 ≤ latency.paintTimeSampleCount

/-- After every call the percentiles are those of the last 256 durations, or of all durations while
there are fewer. -/
theorem paintPercentiles_window (durations : List Nat) (elapsedUs : Nat) :
    (window paintSampleWindow (durations ++ [elapsedUs])).length = min (durations.length + 1) 256 ∧
      PercentilesOf (window paintSampleWindow (durations ++ [elapsedUs]))
        (recordPaintDurations (durations ++ [elapsedUs])) ∧
      RanksInside (recordPaintDurations (durations ++ [elapsedUs])) := by
  let latency := recordPaintDurations (durations ++ [elapsedUs])
  let values := window paintSampleWindow (durations ++ [elapsedUs])
  change values.length = _ ∧ PercentilesOf values latency ∧ RanksInside latency
  have hinv := paintInvariant (durations ++ [elapsedUs])
  have hlength : values.length = min (durations.length + 1) 256 := by
    rw [length_window, List.length_append, List.length_singleton]
  have hcount : latency.paintTimeSampleCount = values.length := by
    rw [hinv.count, length_window]
  have hpos : 0 < values.length := by omega
  have hsamples : latency.paintTimeSamples.toList.length = 256 := by simp
  -- the three percentiles of the sorted slots are order statistics of the last durations
  have hpercentile : ∀ q, 0 < q → q ≤ 100 → KthSmallest values (nearestRank values.length q)
      (paintPercentile (sortedSamples latency.paintTimeSamples.toList latency.paintTimeSampleCount)
        latency.paintTimeSampleCount q 100) := by
    intro q hq hq'
    have hkth := @kthSmallest_paintPercentile latency.paintTimeSamples.toList
      latency.paintTimeSampleCount q (by omega) (by omega) hq hq'
    rw [hcount] at hkth ⊢
    refine hkth.perm ?_
    rw [length_window]
    exact hinv.holds.perm
  have hmem : ∀ duration ∈ values, duration ≤ latency.maxPaintTimeUs := fun duration hduration =>
    hinv.max duration (List.mem_of_mem_drop hduration)
  obtain ⟨h50, h95, h99⟩ := recordPaintDurations_percentiles durations elapsedUs
  have hp50 := hpercentile 50 (by omega) (by omega)
  have hp95 := hpercentile 95 (by omega) (by omega)
  have hp99 := hpercentile 99 (by omega) (by omega)
  rw [← h50] at hp50
  rw [← h95] at hp95
  rw [← h99] at hp99
  refine ⟨hlength, ⟨hp50, hp95, hp99, ?_, ?_, hmem _ hp99.mem⟩, ?_⟩
  · exact hp50.le hp95 (nearestRank_mono (by omega))
  · exact hp95.le hp99 (nearestRank_mono (by omega))
  · intro q hq
    have hq' : 0 < q ∧ q ≤ 100 := by
      simp only [List.mem_cons, List.not_mem_nil, or_false] at hq
      omega
    rw [percentileRank_eq (by omega) hq'.1]
    exact ⟨one_le_nearestRank (by omega) hq'.1, nearestRank_le hq'.2⟩

end SakuraTerminal.Wx
