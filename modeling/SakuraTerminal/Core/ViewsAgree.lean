import SakuraTerminal.Core.TakenFrame

/-!
# Views of frames agree

The representation invariant of reachable grids carried to what a consumer reads: for every grid the
core can reach, and for every frame a terminal returns while its row texts stay below 4 GiB, the
cell, run and span views of every row agree.

The invariant is proved in `ReachableGrid`, over the grids that the three operations can make from
an empty one in any order. Here it is brought to the runs of the terminal, which make some of these
grids, and to frames, which refer to a grid and have its size (`SizedLike`). The rows of the example
are drawn and rotated, with two styles and a wide glyph.
-/

set_option autoImplicit false

namespace SakuraTerminal.Core

open SakuraTerminal.Foundations

/-- The frame reads a grid of its own size. The frames of the core do, since `TakePackedFrame` sizes
its grid to the screen. -/
def SizedLike (frame : PackedFrame) (grid : PackedGrid) : Prop :=
  frame.grid = grid ∧ frame.columns = grid.columns ∧ frame.rows = grid.rows

/-- In every run with small enough row texts, every frame reads a reachable grid of its size. -/
theorem gridReachable_of_taken {tsmUcs4ToUtf8 : Nat → List UInt8} {run : TerminalRun}
    (h : (terminalSystem tsmUcs4ToUtf8).Reachable (RowTextsFit tsmUcs4ToUtf8) run) :
    ∀ taken ∈ run.taken, GridReachable tsmUcs4ToUtf8 taken.2.grid ∧
      SizedLike taken.2 taken.2.grid := by
  refine forall_taken (fun run draw hreach _ hfit => ?_) h
  have htable := (cacheInvariant hreach).table
  have hcached := gridReachable_cachedGrid (fun _ _ hallowed => hallowed) hreach
  exact ⟨hcached.takenGrid hfit, rfl, (takenGrid_columns htable).symm,
    (takenGrid_rows htable).symm⟩

/-- Every reachable grid has the row layout in all its rows, and the cell, run and span views of
every row of a frame of it agree; the frames of a terminal are such frames. -/
theorem views_agree (tsmUcs4ToUtf8 : Nat → List UInt8) :
    (∀ grid, GridReachable tsmUcs4ToUtf8 grid → grid.rowData.length = grid.rows ∧
      (∀ row ∈ grid.rowData, RowLayout grid.columns grid.styles.length row) ∧
      ∀ frame, SizedLike frame grid → ∀ row < frame.rows, RowViewsAgree frame row) ∧
    ∀ run, (terminalSystem tsmUcs4ToUtf8).Reachable (RowTextsFit tsmUcs4ToUtf8) run →
      ∀ taken ∈ run.taken, ∀ row < taken.2.rows, RowViewsAgree taken.2 row := by
  have hgrid : ∀ frame grid, GridReachable tsmUcs4ToUtf8 grid → SizedLike frame grid →
      ∀ row < frame.rows, RowViewsAgree frame row := by
    rintro frame grid hreach ⟨rfl, hcolumns, hrows⟩ row hrow
    exact hreach.invariant.rowViewsAgree hcolumns hrows hrow
  constructor
  · intro grid hreach
    have hinv := hreach.invariant
    exact ⟨hinv.table.rows, hinv.layout, fun frame hsized => hgrid frame grid hreach hsized⟩
  · intro run hreach taken htaken
    obtain ⟨hreachable, hsized⟩ := gridReachable_of_taken hreach taken htaken
    exact hgrid taken.2 taken.2.grid hreachable hsized

/-- A wide glyph with a red letter behind it in one row, and a letter in the row below. -/
def wideCalls : List DrawCall :=
  [⟨⟨[0x3042], 2, {}⟩, 0, 1, 1⟩, ⟨⟨[], 0, {}⟩, 1, 1, 1⟩, ⟨⟨[97], 1, { fr := 255 }⟩, 2, 1, 1⟩,
    ⟨⟨[98], 1, {}⟩, 0, 2, 1⟩]

/-- The grid after these rows were drawn and rotated up by one. -/
def rotatedGrid : PackedGrid :=
  let drawn := drawPass ucs4ToUtf8 { grid := ensurePackedGrid {} 3 3, fullRepaint := true }
    wideCalls
  rotatePackedRows (rebuildPackedRows drawn.grid drawn.changedCells drawn.changedText) 1

/-- The wide glyph, the red letter and the letter below are in the first two rows, with the styles
of both kinds, and the views of every row agree. -/
theorem views_agree_rotated :
    (rotatedGrid.styles.length = 2 ∧
      rotatedGrid.rowData.map (fun row => row.cells.map fun cell =>
        (cell.codepoint, cell.width, cell.styleIndex)) =
          [[(0x3042, 2, 0), (0, 0, 0), (97, 1, 1)], [(98, 1, 0), (32, 1, 0), (32, 1, 0)],
            [(32, 1, 0), (32, 1, 0), (32, 1, 0)]]) ∧
      ∀ row < 3, RowViewsAgree { columns := 3, rows := 3, grid := rotatedGrid } row := by
  refine ⟨by decide, ?_⟩
  have hreachable : GridReachable ucs4ToUtf8 rotatedGrid :=
    .rotate 1 (.draw wideCalls (.ensure 3 3 .empty (by decide) (by decide) (by decide)) rfl rfl rfl
      (by decide)) (by decide)
  have hsized : SizedLike { columns := 3, rows := 3, grid := rotatedGrid } rotatedGrid :=
    ⟨rfl, by decide, by decide⟩
  exact ((views_agree ucs4ToUtf8).1 rotatedGrid hreachable).2.2 _ hsized

end SakuraTerminal.Core
