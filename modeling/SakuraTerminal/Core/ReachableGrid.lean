import SakuraTerminal.Core.DrawPackedCell
import SakuraTerminal.Core.FrameViews

/-!
# Grids the core can reach

`GridReachable` closes the empty cache under the three ways a grid changes: `ensurePackedGrid`,
`rotatePackedRows` and a draw pass followed by `rebuildPackedRows`. Every reachable grid has the row
layout in all rows (`GridReachable.invariant`), and on a grid with that invariant the cell, run and
span views of a frame agree (`GridInvariant.rowViewsAgree`).

`GridTable` and `RowsFit` are the parts of the invariant that hold whatever the size of the texts,
and are proved first; `GridLayout` needs rows below 4 GiB, which `GridReachable.draw` asks for. Each
of the three ways has a lemma for each part (`ensure`, `rotate`, `rebuild`), and the induction over
`GridReachable` only puts them together.
-/

set_option autoImplicit false

namespace SakuraTerminal.Core

open SakuraTerminal.Foundations SakuraTerminal.Foundations.InternTable

/-- The style table and the rows of a cache; only a cache that was never sized has no styles. An
index that was handed out stays valid, for the table never shrinks. -/
structure GridTable (grid : PackedGrid) : Prop where
  bounded : grid.styles.length ≤ styleLimit
  used : grid.rowData ≠ [] → grid.styles ≠ []
  rows : grid.rowData.length = grid.rows

/-- A row of one cell per column whose runs tile it; this does not depend on the size of its text.
-/
structure RowFits (columns : Nat) (row : PackedRow) : Prop where
  columns : row.cells.length = columns
  runs : RunsTile row.cells row.runs

/-- All rows have one cell per column, and runs that tile it. -/
def RowsFit (grid : PackedGrid) : Prop :=
  ∀ row ∈ grid.rowData, RowFits grid.columns row

theorem gridTable_empty : GridTable {} :=
  ⟨Nat.zero_le _, fun h => absurd rfl h, rfl⟩

/-- A grid with rows has styles. -/
theorem GridTable.styleTable {grid : PackedGrid} (h : GridTable grid) (hrows : 0 < grid.rows) :
    StyleTable grid.styles := by
  refine ⟨h.used fun hnil => ?_, h.bounded⟩
  have hlen := h.rows
  rw [hnil, List.length_nil] at hlen
  omega

theorem rowFits_blankRow {columns : Nat} (hpos : 0 < columns) (hbound : columns < 4294967296) :
    RowFits columns (blankRow columns) :=
  have h := rowLayout_blankRow hpos hbound Nat.one_pos
  ⟨h.columns, h.runs⟩

/-! ## Sizing the grid -/

/-- The style table that `ensurePackedGrid` leaves. -/
def ensuredStyles (grid : PackedGrid) : List PackedStyle :=
  if grid.styles.isEmpty then [{}] else grid.styles

/-- The grid keeps its rows or gets blank ones. -/
theorem ensurePackedGrid_cases (grid : PackedGrid) (columns rows : Nat) :
    (grid.columns = columns ∧ grid.rows = rows ∧ grid.rowData.length = rows ∧
      ensurePackedGrid grid columns rows = { grid with styles := ensuredStyles grid }) ∨
    ensurePackedGrid grid columns rows =
      { columns := columns
        rows := rows
        styles := ensuredStyles grid
        rowData := List.replicate rows (blankRow columns) } := by
  by_cases hsize : grid.columns = columns ∧ grid.rows = rows ∧ grid.rowData.length = rows
  · exact Or.inl ⟨hsize.1, hsize.2.1, hsize.2.2, if_pos hsize⟩
  · exact Or.inr (if_neg hsize)

@[simp] theorem ensurePackedGrid_styles (grid : PackedGrid) (columns rows : Nat) :
    (ensurePackedGrid grid columns rows).styles = ensuredStyles grid := by
  rcases ensurePackedGrid_cases grid columns rows with ⟨-, -, -, h⟩ | h <;> rw [h]

@[simp] theorem ensurePackedGrid_columns (grid : PackedGrid) (columns rows : Nat) :
    (ensurePackedGrid grid columns rows).columns = columns := by
  rcases ensurePackedGrid_cases grid columns rows with ⟨hcolumns, -, -, h⟩ | h
  · rw [h]
    exact hcolumns
  · rw [h]

@[simp] theorem ensurePackedGrid_rows (grid : PackedGrid) (columns rows : Nat) :
    (ensurePackedGrid grid columns rows).rows = rows := by
  rcases ensurePackedGrid_cases grid columns rows with ⟨-, hrows, -, h⟩ | h
  · rw [h]
    exact hrows
  · rw [h]

theorem ensuredStyles_of_ne_nil {grid : PackedGrid} (h : grid.styles ≠ []) :
    ensuredStyles grid = grid.styles := by
  rw [ensuredStyles, if_neg (by simpa using h)]

/-- After sizing there is always a style. -/
theorem styleTable_ensuredStyles {grid : PackedGrid} (h : GridTable grid) :
    StyleTable (ensuredStyles grid) := by
  have hlimit : styleLimit = 65535 := rfl
  by_cases hne : grid.styles = []
  · have hdefault : ensuredStyles grid = [{}] := by simp [ensuredStyles, hne]
    rw [hdefault]
    exact ⟨List.cons_ne_nil _ _, by simp [hlimit]⟩
  · rw [ensuredStyles_of_ne_nil hne]
    exact ⟨hne, h.bounded⟩

/-- A row of the sized grid is an old row of the same size or a blank row. -/
theorem mem_ensurePackedGrid {grid : PackedGrid} {columns rows : Nat} {row : PackedRow}
    (h : row ∈ (ensurePackedGrid grid columns rows).rowData) :
    (row ∈ grid.rowData ∧ grid.columns = columns) ∨ row = blankRow columns := by
  rcases ensurePackedGrid_cases grid columns rows with ⟨hcolumns, -, -, heq⟩ | heq
  · rw [heq] at h
    exact Or.inl ⟨h, hcolumns⟩
  · rw [heq] at h
    exact Or.inr (List.eq_of_mem_replicate h)

/-- A grid that has the size already is kept. -/
theorem ensurePackedGrid_of_size {grid : PackedGrid} (h : GridTable grid) {columns rows : Nat}
    (hcolumns : grid.columns = columns) (hrows : grid.rows = rows) (hpos : 0 < rows) :
    ensurePackedGrid grid columns rows = grid := by
  have hne := (h.styleTable (by omega)).nonempty
  have hsize : grid.columns = columns ∧ grid.rows = rows ∧ grid.rowData.length = rows :=
    ⟨hcolumns, hrows, h.rows.trans hrows⟩
  have hkeep : ensurePackedGrid grid columns rows = { grid with styles := ensuredStyles grid } :=
    if_pos hsize
  rw [hkeep, ensuredStyles_of_ne_nil hne]

/-- A grid in another size keeps its table, and an empty table gets the default style. -/
theorem GridTable.ensure {grid : PackedGrid} (h : GridTable grid) (columns rows : Nat) :
    GridTable (ensurePackedGrid grid columns rows) := by
  have hstyles := styleTable_ensuredStyles h
  constructor
  case bounded =>
    rw [ensurePackedGrid_styles]
    exact hstyles.bounded
  case used =>
    intro _
    rw [ensurePackedGrid_styles]
    exact hstyles.nonempty
  case rows =>
    rw [ensurePackedGrid_rows]
    rcases ensurePackedGrid_cases grid columns rows with ⟨-, -, hlen, heq⟩ | heq
    · rw [heq]
      exact hlen
    · rw [heq]
      exact List.length_replicate

theorem RowsFit.ensure {grid : PackedGrid} (h : RowsFit grid) {columns : Nat} (rows : Nat)
    (hpos : 0 < columns) (hbound : columns < 4294967296) :
    RowsFit (ensurePackedGrid grid columns rows) := by
  intro row hrow
  rw [ensurePackedGrid_columns]
  rcases mem_ensurePackedGrid hrow with ⟨hold, hcolumns⟩ | rfl
  · rw [← hcolumns]
    exact h row hold
  · exact rowFits_blankRow hpos hbound

/-- Sizing keeps the layout: blank rows have it, and rows of the same size had it. -/
theorem GridLayout.ensure {grid : PackedGrid} (h : GridLayout grid) (htable : GridTable grid)
    {columns : Nat} (rows : Nat) (hpos : 0 < columns) (hbound : columns < 4294967296) :
    GridLayout (ensurePackedGrid grid columns rows) := by
  intro row hrow
  have hcount : 0 < (ensurePackedGrid grid columns rows).styles.length :=
    List.length_pos_iff.2 ((htable.ensure columns rows).used (List.ne_nil_of_mem hrow))
  rw [ensurePackedGrid_columns]
  -- an old row is kept only if the grid has its width, and then the style table was not empty
  rcases mem_ensurePackedGrid hrow with ⟨hold, hcolumns⟩ | rfl
  · rw [ensurePackedGrid_styles,
      ensuredStyles_of_ne_nil (htable.used (List.ne_nil_of_mem hold)), ← hcolumns]
    exact h row hold
  · exact rowLayout_blankRow hpos hbound hcount

/-! ## Rotating rows -/

@[simp] theorem rotatePackedRows_columns (grid : PackedGrid) (delta : Int) :
    (rotatePackedRows grid delta).columns = grid.columns := by
  rw [rotatePackedRows]
  split <;> rfl

@[simp] theorem rotatePackedRows_rows (grid : PackedGrid) (delta : Int) :
    (rotatePackedRows grid delta).rows = grid.rows := by
  rw [rotatePackedRows]
  split <;> rfl

@[simp] theorem rotatePackedRows_styles (grid : PackedGrid) (delta : Int) :
    (rotatePackedRows grid delta).styles = grid.styles := by
  rw [rotatePackedRows]
  split <;> rfl

/-- A row of the rotated grid is an old row or a blank row. -/
theorem mem_rotatePackedRows {grid : PackedGrid} {delta : Int} {row : PackedRow}
    (h : row ∈ (rotatePackedRows grid delta).rowData) :
    row ∈ grid.rowData ∨ row = blankRow grid.columns := by
  rw [rotatePackedRows] at h
  split at h
  · exact Or.inl h
  · rw [List.mem_map] at h
    obtain ⟨i, -, rfl⟩ := h
    unfold rotatedRow
    dsimp only
    split
    · cases hold : grid.rowData[(i + delta : Int).toNat]? with
      | none => exact Or.inr rfl
      | some old => exact Or.inl (List.mem_of_getElem? hold)
    · exact Or.inr rfl

/-- Inside the grid, row `row` of the rotated grid is the row `delta` below it. -/
theorem rotatePackedRows_row {grid : PackedGrid} (htable : GridTable grid) {delta : Int}
    {row source : Nat} (hrow : row < grid.rows) (hsource : source < grid.rows)
    (heq : (source : Int) = row + delta) :
    (rotatePackedRows grid delta).rowData[row]? = grid.rowData[source]? := by
  have hlen : source < grid.rowData.length := by rw [htable.rows]; exact hsource
  rw [rotatePackedRows]
  by_cases hstay : delta = 0 ∨ grid.rows = 0
  · rw [if_pos hstay]
    -- without a rotation the row stays where it is
    have : row = source := by omega
    rw [this]
  · rw [if_neg hstay]
    simp only [List.getElem?_map, List.getElem?_range hrow, Option.map_some, rotatedRow]
    rw [if_pos (by omega), show ((row : Int) + delta).toNat = source by omega,
      List.getElem?_eq_getElem hlen]
    rfl

theorem GridTable.rotate {grid : PackedGrid} (h : GridTable grid) (delta : Int) :
    GridTable (rotatePackedRows grid delta) := by
  rw [rotatePackedRows]
  split
  · exact h
  · rename_i hne
    refine ⟨h.bounded, fun _ => ?_, by simp⟩
    exact (h.styleTable (by omega)).nonempty

theorem RowsFit.rotate {grid : PackedGrid} (h : RowsFit grid) (delta : Int)
    (hpos : 0 < grid.columns) (hbound : grid.columns < 4294967296) :
    RowsFit (rotatePackedRows grid delta) := by
  intro row hrow
  rw [rotatePackedRows_columns]
  rcases mem_rotatePackedRows hrow with hold | rfl
  · exact h row hold
  · exact rowFits_blankRow hpos hbound

/-- So does moving rows. -/
theorem GridLayout.rotate {grid : PackedGrid} (h : GridLayout grid) (htable : GridTable grid)
    (delta : Int) (hpos : 0 < grid.columns) (hbound : grid.columns < 4294967296) :
    GridLayout (rotatePackedRows grid delta) := by
  intro row hrow
  have hcount : 0 < (rotatePackedRows grid delta).styles.length :=
    List.length_pos_iff.2 ((htable.rotate delta).used (List.ne_nil_of_mem hrow))
  rw [rotatePackedRows_columns]
  rcases mem_rotatePackedRows hrow with hold | rfl
  · rw [rotatePackedRows_styles]
    exact h row hold
  · exact rowLayout_blankRow hpos hbound hcount

/-! ## Draw passes -/

variable {tsmUcs4ToUtf8 : Nat → List UInt8}

/-- In a grid without rows every call is ignored. -/
theorem drawPass_of_rows_eq_zero {context : PackedDrawContext} (h : context.grid.rows = 0)
    (calls : List DrawCall) : drawPass tsmUcs4ToUtf8 context calls = context := by
  induction calls using List.reverseRecOn with
  | nil => rfl
  | append_singleton calls call ih =>
    rw [drawPass, List.foldl_concat]
    rw [drawPass] at ih
    rw [ih, drawPackedCell, if_pos (by omega)]

/-- A grown style table keeps the layout of a row. -/
theorem RowLayout.mono {columns styleCount styleCount' : Nat} {row : PackedRow}
    (h : RowLayout columns styleCount row) (hle : styleCount ≤ styleCount') :
    RowLayout columns styleCount' row :=
  { h with styles := fun cell hcell => Nat.lt_of_lt_of_le (h.styles cell hcell) hle }

/-- A draw pass changes the style table only, and an index stays valid in a longer one. -/
theorem GridLayout.drawn {start context : PackedDrawContext} {calls : List DrawCall}
    (h : GridLayout start.grid) (hdrawn : DrawnSince tsmUcs4ToUtf8 start calls context) :
    GridLayout context.grid := by
  intro row hrow
  rw [hdrawn.setting.rowData] at hrow
  rw [hdrawn.setting.columns]
  exact (h row hrow).mono hdrawn.growth.isPrefix.length_le

theorem GridTable.drawn {start context : PackedDrawContext} {calls : List DrawCall}
    (h : GridTable start.grid) (hdrawn : DrawnSince tsmUcs4ToUtf8 start calls context) :
    GridTable context.grid where
  bounded := hdrawn.growth.bounded h.bounded
  used := fun hne hnil => by
    rw [hdrawn.setting.rowData] at hne
    have hprefix := hdrawn.growth.isPrefix
    rw [hnil] at hprefix
    exact h.used hne (List.prefix_nil.1 hprefix)
  rows := by rw [hdrawn.setting.rowData, hdrawn.setting.rows, h.rows]

theorem GridTable.rebuild {grid : PackedGrid} (h : GridTable grid)
    (changes : List PackedChangedCell) (changedText : List UInt8) :
    GridTable (rebuildPackedRows grid changes changedText) where
  bounded := by simpa using h.bounded
  used := fun hne => by
    rw [rebuildPackedRows_styles]
    refine h.used fun hnil => hne (List.eq_nil_of_length_eq_zero ?_)
    rw [rebuildPackedRows_length, hnil, List.length_nil]
  rows := by rw [rebuildPackedRows_length, rebuildPackedRows_rows, h.rows]

/-- Every recorded cell has a style of the table. -/
theorem DrawnSince.change_lt {start context : PackedDrawContext} {calls : List DrawCall}
    (h : DrawnSince tsmUcs4ToUtf8 start calls context) :
    ∀ change ∈ context.changedCells, change.styleIndex < context.grid.styles.length := by
  intro change hchange
  obtain ⟨call, -, -, hrecords⟩ := h.recorded change hchange
  exact hrecords.style.lt_length

/-! ## Reachable grids -/

/-- Grids made from the empty cache. A draw pass starts with nothing collected; everything else in
its context, and what libtsm reports, is arbitrary. -/
inductive GridReachable (tsmUcs4ToUtf8 : Nat → List UInt8) : PackedGrid → Prop where
  | empty : GridReachable tsmUcs4ToUtf8 {}
  | ensure {grid : PackedGrid} (columns rows : Nat) : GridReachable tsmUcs4ToUtf8 grid →
      1 ≤ columns → 1 ≤ rows → columns < 4294967296 →
      GridReachable tsmUcs4ToUtf8 (ensurePackedGrid grid columns rows)
  | rotate {grid : PackedGrid} (delta : Int) : GridReachable tsmUcs4ToUtf8 grid →
      delta.natAbs < grid.rows → GridReachable tsmUcs4ToUtf8 (rotatePackedRows grid delta)
  | draw {context : PackedDrawContext} (calls : List DrawCall) :
      GridReachable tsmUcs4ToUtf8 context.grid → context.changedCells = [] →
      context.dirty = {} → context.dirtySpans = [] →
      TextBelow4GiB (rebuildPackedRows (drawPass tsmUcs4ToUtf8 context calls).grid
        (drawPass tsmUcs4ToUtf8 context calls).changedCells
        (drawPass tsmUcs4ToUtf8 context calls).changedText) →
      GridReachable tsmUcs4ToUtf8 (rebuildPackedRows (drawPass tsmUcs4ToUtf8 context calls).grid
        (drawPass tsmUcs4ToUtf8 context calls).changedCells
        (drawPass tsmUcs4ToUtf8 context calls).changedText)

/-- The invariant of reachable grids. Grids without rows may have no columns. -/
structure GridInvariant (grid : PackedGrid) : Prop where
  table : GridTable grid
  layout : GridLayout grid
  columns : grid.rows ≠ 0 → 0 < grid.columns ∧ grid.columns < 4294967296

/-- Every reachable grid has the invariant. -/
theorem GridReachable.invariant {grid : PackedGrid} (h : GridReachable tsmUcs4ToUtf8 grid) :
    GridInvariant grid := by
  induction h with
  | empty => exact ⟨gridTable_empty, by simp [GridLayout], fun h => absurd rfl h⟩
  | ensure columns rows _ hcolumns hrows hbound ih =>
    refine ⟨ih.table.ensure columns rows, ih.layout.ensure ih.table rows hcolumns hbound,
      fun _ => ?_⟩
    rw [ensurePackedGrid_columns]
    exact ⟨hcolumns, hbound⟩
  | rotate delta _ hdelta ih =>
    obtain ⟨hpos, hbound⟩ := ih.columns (by omega)
    refine ⟨ih.table.rotate delta, ih.layout.rotate ih.table delta hpos hbound, fun _ => ?_⟩
    rw [rotatePackedRows_columns]
    exact ⟨hpos, hbound⟩
  | @draw context calls _ hcells hdirty hspans htext ih =>
    by_cases hrows : context.grid.rows = 0
    · -- nothing is drawn into a grid without rows
      rw [drawPass_of_rows_eq_zero hrows, hcells]
      exact ih
    · have htable := ih.table.styleTable (Nat.pos_of_ne_zero hrows)
      have hdrawn : DrawnSince tsmUcs4ToUtf8 context calls
          (drawPass tsmUcs4ToUtf8 context calls) :=
        drawnSince_drawPass htable hcells hdirty hspans calls
      -- the pass extends the style table; the rebuild then writes cells with indices of that table
      have htable' := ih.table.drawn hdrawn
      refine ⟨htable'.rebuild _ _, ?_, fun _ => ?_⟩
      · refine (ih.layout.drawn hdrawn).rebuild ?_ hdrawn.change_lt htext
        exact List.length_pos_iff.2 (htable.growth hdrawn.growth).nonempty
      · rw [rebuildPackedRows_columns, hdrawn.setting.columns]
        exact ih.columns hrows

/-! ## The views of one row -/

/-- The cell, run and span views of a row of a frame agree: every cell can be read, the runs tile
the row, the bounded spans tile it whatever the bound, and runs and spans show their cells. A span
can have one cell more than the bound 1, since a wide glyph is not parted. -/
structure RowViewsAgree (frame : PackedFrame) (row : Nat) : Prop where
  cells : ∀ column < frame.columns, ∃ view, frameCell frame column row = some view
  runs : ∃ runs : List RunView, frameRowRunCount frame row = runs.length ∧
    (∀ index : Nat, frameRowRun frame row index = runs[index]?) ∧
    Tiles RunView.left RunView.cellCount 0 runs frame.columns ∧
    ∀ run ∈ runs, run.Shows frame row
  spans : ∀ maxCells ≥ 1, ∃ spans : List RunView,
    frameForEachRowSpan frame row maxCells = (spans, true) ∧
    Tiles RunView.left RunView.cellCount 0 spans frame.columns ∧
    ∀ span ∈ spans, 1 ≤ span.cellCount ∧ span.cellCount ≤ max 2 maxCells ∧ span.Shows frame row

/-- The views of the runs of a row, which all exist. -/
theorem ShowsRow.runViews {frame : PackedFrame} {row : Nat} {source : PackedRow}
    (h : ShowsRow frame row source) {first last : Nat} {runs : List PackedRun}
    (hruns : ∀ run ∈ runs, PartOfRun source run)
    (htiles : Tiles PackedRun.left PackedRun.cellCount first runs last) :
    ∃ views : List RunView, views.length = runs.length ∧
      (∀ index : Nat, (runs[index]?).bind (Core.fillPackedRunView frame.grid source row) =
        views[index]?) ∧
      Tiles RunView.left RunView.cellCount first views last ∧
      ∀ view ∈ views, view.Shows frame row := by
  induction runs generalizing first with
  | nil => exact ⟨[], rfl, by simp, htiles, by simp⟩
  | cons run runs ih =>
    obtain ⟨hleft, hpos, hrest⟩ := htiles
    obtain ⟨view, hview, hviewLeft, hviewCount, hshows⟩ :=
      h.fillPackedRunView (hruns run List.mem_cons_self)
    obtain ⟨views, hlen, hget, htiles, hall⟩ :=
      ih (fun r hr => hruns r (List.mem_cons_of_mem _ hr)) hrest
    refine ⟨view :: views, by simp [hlen], fun index => ?_, ⟨?_, ?_, ?_⟩, ?_⟩
    · cases index with
      | zero => simpa using hview
      | succ index => simpa using hget index
    · rw [hviewLeft, hleft]
    · rwa [hviewCount]
    · rwa [hviewCount]
    · intro v hv
      rcases List.mem_cons.1 hv with rfl | hv
      · exact hshows
      · exact hall v hv

/-- In a row with the layout the three views agree. -/
theorem ShowsRow.rowViewsAgree {frame : PackedFrame} {row : Nat} {source : PackedRow}
    (h : ShowsRow frame row source) : RowViewsAgree frame row := by
  have htiles := h.layout.runs.tile
  have hparts : ∀ run ∈ source.runs, PartOfRun source run := fun run hrun =>
    h.layout.partOfRun hrun
  rw [h.layout.columns] at htiles
  constructor
  case cells =>
    intro column hcolumn
    have hlt : column < source.cells.length := by rw [h.layout.columns]; exact hcolumn
    obtain ⟨style, -, hview⟩ := h.frameCell (List.getElem?_eq_getElem hlt)
    exact ⟨_, hview⟩
  case runs =>
    obtain ⟨views, hlen, hget, hviewTiles, hall⟩ := h.runViews hparts htiles
    refine ⟨views, ?_, fun index => ?_, hviewTiles, hall⟩
    · rw [frameRowRunCount, h.frameRow, hlen]
    · rw [frameRowRun, h.frameRow, ← hget index]
      cases hrun : source.runs[index]? with
      | none => simp [hrun]
      | some run => simp [hrun]
  case spans =>
    intro maxCells hmax
    obtain ⟨spans, hspans, hspanTiles, hall⟩ := rowSpans_tiles h hmax hparts htiles
    refine ⟨spans, ?_, hspanTiles, fun span hspan => ?_⟩
    · rw [frameForEachRowSpan, if_neg (by omega), h.frameRow]
      exact hspans
    · obtain ⟨hcount, hshows⟩ := hall span hspan
      exact ⟨(hspanTiles.bounds hspan).2.1, hcount, hshows⟩

/-- The rows of a frame of a grid with the invariant. -/
theorem GridInvariant.showsRow {frame : PackedFrame} (h : GridInvariant frame.grid)
    (hcolumns : frame.columns = frame.grid.columns) (hrows : frame.rows = frame.grid.rows)
    {row : Nat} (hrow : row < frame.rows) : ∃ source, ShowsRow frame row source := by
  have hlt : row < frame.grid.rowData.length := by rw [h.table.rows, ← hrows]; exact hrow
  refine ⟨frame.grid.rowData[row], hrow, List.getElem?_eq_getElem hlt, ?_⟩
  rw [hcolumns]
  exact h.layout _ (List.getElem_mem hlt)

/-- On a grid with the invariant the views of every row of a frame agree. -/
theorem GridInvariant.rowViewsAgree {frame : PackedFrame} (h : GridInvariant frame.grid)
    (hcolumns : frame.columns = frame.grid.columns) (hrows : frame.rows = frame.grid.rows)
    {row : Nat} (hrow : row < frame.rows) : RowViewsAgree frame row := by
  obtain ⟨source, hshows⟩ := h.showsRow hcolumns hrows hrow
  exact hshows.rowViewsAgree

end SakuraTerminal.Core
