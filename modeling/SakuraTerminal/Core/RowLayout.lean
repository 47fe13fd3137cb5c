import SakuraTerminal.Core.PackedGrid
import SakuraTerminal.Foundations.Tiling
import Mathlib.Data.List.Chain
import Mathlib.Data.List.Induction

/-!
# The layout of a packed row

`RowLayout columns styleCount row` is the representation invariant of a row: it has one cell per
column, the texts of the cells stand one after another in the row's text and fill it, every style
index is in the style table, and the runs tile the columns with different styles in adjacent runs,
each run covering the text of its cells. Blank rows have it (`rowLayout_blankRow`), and so has every
row `rebuildRow` makes while its text stays below `2 ^ 32` bytes (`rowLayout_rebuildRow`).

The column loop chooses a cell and a text for each column and appends both to the row. The proof
parts the two: `selectedCells` lists the choices, `layOut` appends any list of cells and texts, and
`foldl_rebuildColumn` says that the loop does one after the other. What `layOut` makes has the
offsets of its texts as long as none of them is narrowed (`layOut_offsets`), which the bound on the
row's text gives. `appendRun` sees a cell at a time, and the tiling of the runs goes by induction
along the cells (`runsTile_buildRuns`).
-/

set_option autoImplicit false

namespace SakuraTerminal.Core

open SakuraTerminal.Foundations

/-- The part of the row's text that belongs to a cell. -/
def cellText (row : PackedRow) (cell : PackedCell) : List UInt8 :=
  slice row.text cell.textOffset cell.textLength

/-- The texts of the cells, in column order. -/
def cellTexts (row : PackedRow) : List (List UInt8) := row.cells.map (cellText row)

/-- The cells' offsets and lengths are those of the pieces `texts`. So the texts stand one after
another, without gaps. -/
def CellOffsets (cells : List PackedCell) (texts : List (List UInt8)) : Prop :=
  ∀ i cell, cells[i]? = some cell →
    cell.textOffset = offsetOf texts i ∧ cell.textOffset + cell.textLength = offsetOf texts (i + 1)

/-- The runs tile the columns, adjacent runs differ in style, and every cell of a run has the run's
style. -/
structure RunsTile (cells : List PackedCell) (runs : List PackedRun) : Prop where
  tile : Tiles PackedRun.left PackedRun.cellCount 0 runs cells.length
  differ : runs.IsChain fun a b => a.styleIndex ≠ b.styleIndex
  style : ∀ run ∈ runs, ∀ column cell, run.left ≤ column → column < run.left + run.cellCount →
    cells[column]? = some cell → cell.styleIndex = run.styleIndex

/-- The text of a run reaches from its first to its last cell. -/
def RunTextSpan (texts : List (List UInt8)) (run : PackedRun) : Prop :=
  run.textOffset = offsetOf texts run.left ∧
    run.textOffset + run.textLength = offsetOf texts (run.left + run.cellCount)

/-- The representation invariant of a row of `columns` cells over `styleCount` styles. Every reader
of a row relies on it: with it no text check fails, runs and spans show the cells they stand for,
and the sums of offsets and lengths do not wrap. -/
structure RowLayout (columns styleCount : Nat) (row : PackedRow) : Prop where
  columns : row.cells.length = columns
  text : row.text = (cellTexts row).flatten
  offsets : CellOffsets row.cells (cellTexts row)
  bound : row.text.length < 4294967296
  styles : ∀ cell ∈ row.cells, cell.styleIndex < styleCount
  runs : RunsTile row.cells row.runs
  runText : ∀ run ∈ row.runs, RunTextSpan (cellTexts row) run

/-- Small numbers are not narrowed. -/
theorem u32_of_lt {n : Nat} (h : n < 4294967296) : u32 n = n := Nat.mod_eq_of_lt h

theorem u32Sub_of_le {a b : Nat} (hle : b ≤ a) (ha : a < 4294967296) : u32Sub a b = a - b := by
  unfold u32Sub
  omega

/-! ## Rows built cell by cell -/

/-- A row built from cells and their texts, as the column loop builds it. -/
def layOut (sources : List (PackedCell × List UInt8)) : PackedRow := sources.foldl appendCell {}

theorem layOut_concat (sources : List (PackedCell × List UInt8))
    (source : PackedCell × List UInt8) :
    layOut (sources ++ [source]) = appendCell (layOut sources) source :=
  List.foldl_concat ..

/-- The row's text is that of all its cells. -/
theorem layOut_text (sources : List (PackedCell × List UInt8)) :
    (layOut sources).text = (sources.map Prod.snd).flatten := by
  induction sources using List.reverseRecOn with
  | nil => rfl
  | append_singleton sources source ih => simp [layOut_concat, appendCell, ih]

theorem layOut_cells_length (sources : List (PackedCell × List UInt8)) :
    (layOut sources).cells.length = sources.length := by
  induction sources using List.reverseRecOn with
  | nil => rfl
  | append_singleton sources source ih => simp [layOut_concat, appendCell, ih]

/-- The cell at `i`: the given cell with the narrowed offset and length of its text. -/
theorem layOut_cell (sources : List (PackedCell × List UInt8)) (i : Nat) :
    (layOut sources).cells[i]? = sources[i]?.map fun source =>
      { source.1 with
        textOffset := u32 (offsetOf (sources.map Prod.snd) i)
        textLength := u32 source.2.length } := by
  induction sources using List.reverseRecOn with
  | nil => simp [layOut]
  | append_singleton sources source ih =>
    have hlen := layOut_cells_length sources
    rw [layOut_concat, List.map_append]
    simp only [appendCell, List.map_cons, List.map_nil]
    -- cells laid out before, the cell appended last, and positions past the end
    rcases lt_trichotomy i sources.length with hi | hi | hi
    · rw [List.getElem?_append_left (by omega), ih, List.getElem?_append_left hi,
        offsetOf_append_left _ _ (by simpa using hi.le)]
    · subst hi
      rw [← hlen, List.getElem?_concat_length, hlen, List.getElem?_concat_length, layOut_text,
        offsetOf_append_left _ _ (by simp)]
      have hoff := offsetOf_length (sources.map Prod.snd)
      rw [List.length_map] at hoff
      rw [hoff]
      rfl
    · rw [List.getElem?_eq_none (by simp [hlen]; omega), List.getElem?_eq_none (by simp; omega)]
      rfl

/-- Lengths that are not narrowed add up to the length of the row's text. -/
theorem layOut_text_length {sources : List (PackedCell × List UInt8)}
    (hlength : ∀ source ∈ sources, source.2.length < 4294967296) :
    (layOut sources).text.length = ((layOut sources).cells.map PackedCell.textLength).sum := by
  induction sources using List.reverseRecOn with
  | nil => rfl
  | append_singleton sources source ih =>
    have ih := ih fun earlier h => hlength earlier (List.mem_append_left _ h)
    have hlast := hlength source (List.mem_append_right _ (List.mem_singleton.2 rfl))
    rw [layOut_concat, appendCell]
    simp only [List.length_append, List.map_append, List.sum_append, List.map_cons, List.map_nil,
      List.sum_cons, List.sum_nil, Nat.add_zero]
    rw [ih, u32_of_lt hlast]

/-- Below 4 GiB no offset and no length is narrowed. -/
theorem layOut_offsets {sources : List (PackedCell × List UInt8)}
    (hbound : (sources.map Prod.snd).flatten.length < 4294967296) :
    CellOffsets (layOut sources).cells (sources.map Prod.snd) := by
  intro i cell hcell
  rw [layOut_cell] at hcell
  cases hs : sources[i]? with
  | none => simp [hs] at hcell
  | some source =>
    simp only [hs, Option.map_some, Option.some.injEq] at hcell
    subst hcell
    obtain ⟨hi, rfl⟩ := List.getElem?_eq_some_iff.1 hs
    have hi' : i < (sources.map Prod.snd).length := by simpa using hi
    have hsucc := offsetOf_succ hi'
    have hle := offsetOf_le (sources.map Prod.snd) (i + 1)
    rw [List.getElem_map] at hsucc
    simp only
    -- below 4 GiB neither the offset nor the length is narrowed
    rw [u32_of_lt (by omega), u32_of_lt (by omega)]
    exact ⟨rfl, hsucc.symm⟩

/-- Cells that have the offsets of `texts` inside the text they make up read these texts back. -/
theorem cellTexts_eq {row : PackedRow} {texts : List (List UInt8)}
    (hlen : texts.length = row.cells.length) (htext : row.text = texts.flatten)
    (hoff : CellOffsets row.cells texts) : cellTexts row = texts := by
  refine List.ext_getElem (by simp [cellTexts, hlen]) fun i h₁ h₂ => ?_
  have hi : i < row.cells.length := by simpa [cellTexts] using h₁
  obtain ⟨ho, he⟩ := hoff i _ (List.getElem?_eq_getElem hi)
  have hsucc := offsetOf_succ h₂
  have hl : row.cells[i].textLength = texts[i].length := by omega
  simp only [cellTexts, List.getElem_map, cellText]
  rw [htext, ho, hl, slice_flatten_getElem h₂]

/-- The texts are read back from the row. -/
theorem layOut_cellTexts {sources : List (PackedCell × List UInt8)}
    (hbound : (sources.map Prod.snd).flatten.length < 4294967296) :
    cellTexts (layOut sources) = sources.map Prod.snd :=
  cellTexts_eq (by simp [layOut_cells_length]) (layOut_text sources) (layOut_offsets hbound)

/-! ## Runs -/

theorem buildRuns_concat (cells : List PackedCell) (cell : PackedCell) :
    buildRuns (cells ++ [cell]) = appendRun (buildRuns cells) (cell, cells.length) := by
  rw [buildRuns, List.zipIdx_append, List.foldl_append, buildRuns]
  simp

/-- A first run, or a run of another style, goes after the runs so far. -/
theorem RunsTile.snoc {cells : List PackedCell} {runs : List PackedRun}
    (h : RunsTile cells runs) (cell : PackedCell)
    (hlast : ∀ run ∈ runs.getLast?, run.styleIndex ≠ cell.styleIndex) :
    RunsTile (cells ++ [cell])
      (runs ++ [⟨cells.length, 1, cell.styleIndex, cell.textOffset, cell.textLength⟩]) := by
  refine ⟨?_, ?_, ?_⟩
  · rw [tiles_concat]
    exact ⟨h.tile, Nat.one_pos, by simp⟩
  · rw [List.isChain_append]
    refine ⟨h.differ, .singleton _, fun run hrun run' hrun' => ?_⟩
    simp only [List.head?_cons, Option.mem_some_iff] at hrun'
    subst hrun'
    exact hlast run hrun
  · intro run hrun column c hl hr hc
    -- an old run lies inside the old cells; the new one covers the last column only
    rcases List.mem_append.1 hrun with hrun | hrun
    · have hb := h.tile.bounds hrun
      rw [List.getElem?_append_left (by omega)] at hc
      exact h.style run hrun column c hl hr hc
    · rw [List.mem_singleton] at hrun
      subst hrun
      obtain rfl : column = cells.length := by simp only at hl hr; omega
      rw [List.getElem?_concat_length, Option.some.injEq] at hc
      exact congrArg _ hc.symm

/-- A cell of the last run's style extends that run. -/
theorem RunsTile.extend {cells : List PackedCell} {runs : List PackedRun} {run : PackedRun}
    (h : RunsTile cells (runs ++ [run])) {cell : PackedCell}
    (hstyle : run.styleIndex = cell.styleIndex) (textLength : Nat) :
    RunsTile (cells ++ [cell])
      (runs ++ [{ run with cellCount := run.cellCount + 1, textLength := textLength }]) := by
  have htile := h.tile
  rw [tiles_concat] at htile
  obtain ⟨hinit, hpos, hend⟩ := htile
  refine ⟨?_, ?_, ?_⟩
  · rw [tiles_concat]
    exact ⟨hinit, Nat.succ_pos _, by simp only [List.length_append, List.length_singleton]; omega⟩
  · have hdiffer := h.differ
    rw [List.isChain_append] at hdiffer ⊢
    refine ⟨hdiffer.1, .singleton _, fun a ha b hb => ?_⟩
    simp only [List.head?_cons, Option.mem_some_iff] at hb
    subst hb
    exact hdiffer.2.2 a ha run (by simp)
  · intro run' hrun' column c hl hr hc
    rcases List.mem_append.1 hrun' with hmem | hmem
    · have hb := hinit.bounds hmem
      rw [List.getElem?_append_left (by omega)] at hc
      exact h.style run' (List.mem_append_left _ hmem) column c hl hr hc
    · rw [List.mem_singleton] at hmem
      subst hmem
      simp only at hl hr ⊢
      -- inside the extended run: one of its old columns, or the column that was added
      by_cases hcol : column < cells.length
      · rw [List.getElem?_append_left hcol] at hc
        exact h.style run (by simp) column c hl (by omega) hc
      · obtain rfl : column = cells.length := by omega
        rw [List.getElem?_concat_length, Option.some.injEq] at hc
        rw [← hc, hstyle]

/-- The runs of any cells tile them. -/
theorem runsTile_buildRuns (cells : List PackedCell) : RunsTile cells (buildRuns cells) := by
  induction cells using List.reverseRecOn with
  | nil => exact ⟨rfl, .nil, fun _ h => absurd h List.not_mem_nil⟩
  | append_singleton cells cell ih =>
    rw [buildRuns_concat]
    cases hlast : (buildRuns cells).getLast? with
    | none =>
      have hsnoc := ih.snoc cell (by simp [hlast])
      rw [List.getLast?_eq_none_iff.1 hlast] at hsnoc
      rw [appendRun, hlast]
      exact hsnoc
    | some run =>
      rw [appendRun, hlast]
      by_cases hstyle : run.styleIndex = cell.styleIndex
      · simp only [ne_eq, if_neg (not_not.2 hstyle)]
        -- the cell has the style of the last run, which is taken off the list and put back longer
        obtain ⟨init, hinit⟩ := List.getLast?_eq_some_iff.1 hlast
        rw [hinit, List.dropLast_concat]
        rw [hinit] at ih
        exact ih.extend hstyle _
      · simp only [ne_eq, hstyle, not_false_eq_true, if_true]
        exact ih.snoc cell (by simpa [hlast] using hstyle)

/-- The runs of cells with the offsets of `texts` span these texts. -/
theorem runTextSpan_buildRuns {cells : List PackedCell} {texts : List (List UInt8)}
    (hoff : CellOffsets cells texts) (hbound : ∀ i, offsetOf texts i < 4294967296) :
    ∀ run ∈ buildRuns cells, RunTextSpan texts run := by
  induction cells using List.reverseRecOn with
  | nil => exact fun _ h => absurd h List.not_mem_nil
  | append_singleton cells cell ih =>
    have hprefix : CellOffsets cells texts := fun i c hc => hoff i c (by
      rw [List.getElem?_append_left (List.getElem?_eq_some_iff.1 hc).1]
      exact hc)
    have hruns := ih hprefix
    obtain ⟨ho, he⟩ := hoff cells.length cell (List.getElem?_concat_length)
    rw [buildRuns_concat]
    cases hlast : (buildRuns cells).getLast? with
    | none =>
      rw [appendRun, hlast]
      simp only [List.mem_singleton, forall_eq]
      exact ⟨ho, he⟩
    | some run =>
      rw [appendRun, hlast]
      by_cases hstyle : run.styleIndex = cell.styleIndex
      · simp only [ne_eq, if_neg (not_not.2 hstyle)]
        obtain ⟨init, hinit⟩ := List.getLast?_eq_some_iff.1 hlast
        have htile := (runsTile_buildRuns cells).tile
        rw [hinit] at htile hruns ⊢
        rw [tiles_concat] at htile
        rw [List.dropLast_concat]
        obtain ⟨-, -, hend⟩ := htile
        intro run' hrun'
        rcases List.mem_append.1 hrun' with hmem | hmem
        · exact hruns run' (List.mem_append_left _ hmem)
        · rw [List.mem_singleton] at hmem
          subst hmem
          obtain ⟨hro, hre⟩ := hruns run (by simp)
          have hb := hbound (cells.length + 1)
          -- the subtraction in `uint32_t` does not wrap: the run starts before its last cell ends
          have hmono := offsetOf_mono texts (i := run.left) (j := cells.length + 1) (by omega)
          have hcount : run.left + (run.cellCount + 1) = cells.length + 1 := by omega
          rw [RunTextSpan]
          simp only
          rw [he, u32_of_lt hb, u32Sub_of_le (by omega) hb, hcount]
          exact ⟨hro, by omega⟩
      · simp only [ne_eq, hstyle, not_false_eq_true, if_true]
        intro run' hrun'
        rcases List.mem_append.1 hrun' with hmem | hmem
        · exact hruns run' hmem
        · rw [List.mem_singleton] at hmem
          subst hmem
          exact ⟨ho, he⟩

/-! ## The two ways rows are made -/

/-- A row built from cells and texts, with the runs of its cells, has the row layout. -/
theorem rowLayout_layOut {sources : List (PackedCell × List UInt8)} {styleCount : Nat}
    (hbound : (sources.map Prod.snd).flatten.length < 4294967296)
    (hstyles : ∀ source ∈ sources, source.1.styleIndex < styleCount) :
    RowLayout sources.length styleCount
      { layOut sources with runs := buildRuns (layOut sources).cells } := by
  have htexts := layOut_cellTexts hbound
  have hoff := layOut_offsets hbound
  have htext := layOut_text sources
  refine
    { columns := layOut_cells_length sources
      text := ?_
      offsets := ?_
      bound := ?_
      styles := ?_
      runs := runsTile_buildRuns _
      runText := ?_ }
  · change (layOut sources).text = (cellTexts (layOut sources)).flatten
    rw [htexts, htext]
  · change CellOffsets _ (cellTexts (layOut sources))
    rwa [htexts]
  · change (layOut sources).text.length < _
    rwa [htext]
  · intro cell hcell
    obtain ⟨i, hi⟩ := List.mem_iff_getElem?.1 hcell
    change (layOut sources).cells[i]? = some cell at hi
    rw [layOut_cell] at hi
    cases hs : sources[i]? with
    | none => simp [hs] at hi
    | some source =>
      simp only [hs, Option.map_some, Option.some.injEq] at hi
      subst hi
      exact hstyles source (List.mem_of_getElem? hs)
  · change ∀ run ∈ buildRuns _, RunTextSpan (cellTexts (layOut sources)) run
    rw [htexts]
    refine runTextSpan_buildRuns hoff fun i => ?_
    have := offsetOf_le (sources.map Prod.snd) i
    omega

/-- The cells and texts that the column loop chooses, column after column. -/
def selectedCells (oldRow : Option PackedRow) (changedText : List UInt8) :
    List PackedChangedCell → List Nat → List (PackedCell × List UInt8)
  | _, [] => []
  | changes, column :: columns =>
    (selectCell oldRow changedText changes column).1 ::
      selectedCells oldRow changedText (selectCell oldRow changedText changes column).2 columns

theorem length_selectedCells (oldRow : Option PackedRow) (changedText : List UInt8)
    (changes : List PackedChangedCell) (columns : List Nat) :
    (selectedCells oldRow changedText changes columns).length = columns.length := by
  induction columns generalizing changes with
  | nil => rfl
  | cons column columns ih => simp [selectedCells, ih]

/-- The column loop is the choice of all cells followed by their layout. -/
theorem foldl_rebuildColumn (oldRow : Option PackedRow) (changedText : List UInt8)
    (columns : List Nat) (row : PackedRow) (changes : List PackedChangedCell) :
    (columns.foldl (rebuildColumn oldRow changedText) (row, changes)).1 =
      (selectedCells oldRow changedText changes columns).foldl appendCell row := by
  induction columns generalizing row changes with
  | nil => rfl
  | cons column columns ih =>
    rw [List.foldl_cons, selectedCells, List.foldl_cons, ← ih]
    rfl

/-- A rebuilt row is laid out from the chosen cells. -/
theorem rebuildRow_eq (columns : Nat) (oldRow : Option PackedRow) (changedText : List UInt8)
    (changes : List PackedChangedCell) :
    rebuildRow columns oldRow changedText changes =
      { layOut (selectedCells oldRow changedText changes (List.range columns)) with
        runs := buildRuns
          (layOut (selectedCells oldRow changedText changes (List.range columns))).cells } := by
  have h := foldl_rebuildColumn oldRow changedText (List.range columns) {} changes
  rw [rebuildRow, layOut, ← h]

theorem rebuildRow_text (columns : Nat) (oldRow : Option PackedRow) (changedText : List UInt8)
    (changes : List PackedChangedCell) :
    (rebuildRow columns oldRow changedText changes).text =
      ((selectedCells oldRow changedText changes (List.range columns)).map Prod.snd).flatten := by
  rw [rebuildRow_eq]
  exact layOut_text _

/-- A chosen cell is a change of the group, an old cell or a default cell. -/
theorem selectedCells_styleIndex {oldRow : Option PackedRow} {changedText : List UInt8}
    {P : Nat → Prop} (hdefault : P 0)
    (hold : ∀ old, oldRow = some old → ∀ cell ∈ old.cells, P cell.styleIndex)
    {changes : List PackedChangedCell} (hchanges : ∀ change ∈ changes, P change.styleIndex)
    (columns : List Nat) :
    ∀ source ∈ selectedCells oldRow changedText changes columns, P source.1.styleIndex := by
  have holdSource : ∀ column, P (oldCellSource oldRow column).1.styleIndex := by
    intro column
    simp only [oldCellSource]
    cases hrow : oldRow with
    | none => exact hdefault
    | some old =>
      cases hcell : old.cells[column]? with
      | none => simpa [hcell] using hdefault
      | some cell => simpa [hcell] using hold old hrow cell (List.mem_of_getElem? hcell)
  induction columns generalizing changes with
  | nil => simp [selectedCells]
  | cons column columns ih =>
    intro source hsource
    rw [selectedCells, List.mem_cons] at hsource
    cases changes with
    | nil =>
      rcases hsource with rfl | hsource
      · exact holdSource column
      · exact @ih [] (by simp) source hsource
    | cons change rest =>
      rw [selectCell] at hsource
      -- the head of the changes is consumed exactly if it is for this column
      by_cases hcol : change.column = column
      · simp only [hcol, if_true] at hsource
        rcases hsource with rfl | hsource
        · exact hchanges change List.mem_cons_self
        · exact ih (fun c hc => hchanges c (List.mem_cons_of_mem _ hc)) source hsource
      · simp only [hcol, if_false] at hsource
        rcases hsource with rfl | hsource
        · exact holdSource column
        · exact ih hchanges source hsource

/-- The row that the column loop makes from an old row and changes with known styles, while its text
stays below 4 GiB. -/
theorem rowLayout_rebuildRow {columns styleCount : Nat} {oldRow : Option PackedRow}
    {changedText : List UInt8} {changes : List PackedChangedCell} (hcount : 0 < styleCount)
    (hold : ∀ old, oldRow = some old → ∀ cell ∈ old.cells, cell.styleIndex < styleCount)
    (hchanges : ∀ change ∈ changes, change.styleIndex < styleCount)
    (hbound : (rebuildRow columns oldRow changedText changes).text.length < 4294967296) :
    RowLayout columns styleCount (rebuildRow columns oldRow changedText changes) := by
  rw [rebuildRow_text] at hbound
  have hlen := length_selectedCells oldRow changedText changes (List.range columns)
  rw [List.length_range] at hlen
  have h := rowLayout_layOut hbound
    (selectedCells_styleIndex (P := (· < styleCount)) hcount hold hchanges (List.range columns))
  rwa [hlen, ← rebuildRow_eq] at h

/-- A blank row has the layout if it has a column and its text has no more than `2 ^ 32` bytes. -/
theorem rowLayout_blankRow {columns styleCount : Nat} (hcolumns : 0 < columns)
    (hbound : columns < 4294967296) (hcount : 0 < styleCount) :
    RowLayout columns styleCount (blankRow columns) := by
  have hcells : (blankRow columns).cells.length = columns := by simp [blankRow]
  have hget : ∀ i cell, (blankRow columns).cells[i]? = some cell →
      i < columns ∧ cell = { textOffset := i, textLength := 1 } := by
    intro i cell hcell
    simp only [blankRow, List.getElem?_map] at hcell
    cases hi : (List.range columns)[i]? with
    | none => simp [hi] at hcell
    | some j =>
      obtain ⟨hlt, rfl⟩ := List.getElem?_eq_some_iff.1 hi
      simp only [hi, Option.map_some, Option.some.injEq, List.getElem_range] at hcell
      exact ⟨by simpa using hlt, hcell.symm⟩
  -- one byte for each column, so offsets are column numbers
  have hoffset : ∀ i ≤ columns, offsetOf (List.replicate columns [(32 : UInt8)]) i = i := by
    intro i hi
    simp [offsetOf, List.take_replicate, Nat.min_eq_left hi]
  have hoff : CellOffsets (blankRow columns).cells (List.replicate columns [32]) := by
    intro i cell hcell
    obtain ⟨hi, rfl⟩ := hget i cell hcell
    rw [hoffset i (by omega), hoffset (i + 1) (by omega)]
    exact ⟨rfl, rfl⟩
  have htext : (blankRow columns).text = (List.replicate columns [(32 : UInt8)]).flatten := by
    simp [blankRow]
  have htexts := cellTexts_eq (by simp [hcells]) htext hoff
  refine
    { columns := hcells
      text := by rw [htexts, htext]
      offsets := by rw [htexts]; exact hoff
      bound := by simpa [blankRow] using hbound
      styles := ?_
      runs := ?_
      runText := ?_ }
  · intro cell hcell
    obtain ⟨i, hi⟩ := List.mem_iff_getElem?.1 hcell
    rw [(hget i cell hi).2]
    exact hcount
  · refine ⟨?_, .singleton _, ?_⟩
    · rw [hcells]
      exact ⟨rfl, hcolumns, Nat.zero_add columns⟩
    · intro run hrun column cell _ _ hcell
      simp only [blankRow, List.mem_singleton] at hrun
      rw [(hget column cell hcell).2, hrun]
  · intro run hrun
    simp only [blankRow, List.mem_singleton] at hrun
    subst hrun
    rw [RunTextSpan]
    simp only [Nat.zero_add]
    rw [htexts, hoffset 0 (Nat.zero_le _), hoffset columns le_rfl]
    exact ⟨rfl, rfl⟩

end SakuraTerminal.Core
