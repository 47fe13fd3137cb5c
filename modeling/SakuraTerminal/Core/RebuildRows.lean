import SakuraTerminal.Core.RowLayout
import Mathlib.Order.Defs.LinearOrder

/-!
# Rebuilding rows, cell by cell

`rebuildPackedRows` sorts the changed cells, cuts them into rows and walks every changed row once.
This module says what comes out at one position: a row without changes is kept
(`rebuildPackedRows_row`), a cell without a change keeps its content and its text
(`gridCell_rebuild_unchanged`, `gridText_rebuild_unchanged`), and a change that is alone at its
position is written there (`gridCell_rebuild_changed`). Content is written right whatever the size
of the texts; texts need rows below `2 ^ 32` bytes.

The changes come in the order of the draw and are sorted before they are used, so two changes of one
position may be taken in either order, and the second is then left over in the row (`selectCell`).
The lemmas for changed positions therefore ask for changes at distinct positions, and those for
unchanged positions do not.
-/

set_option autoImplicit false

namespace SakuraTerminal.Core

open SakuraTerminal.Foundations

/-- The changes of one row, in column order. -/
def rowChanges (changes : List PackedChangedCell) (row : Nat) : List PackedChangedCell :=
  (changes.insertionSort changeOrder).filter fun change => change.row = row

/-- Two cells agree in everything but where their texts lie. A row that is rebuilt moves the texts
of cells that did not change. -/
structure SameContent (a b : PackedCell) : Prop where
  codepoint : a.codepoint = b.codepoint
  styleIndex : a.styleIndex = b.styleIndex
  width : a.width = b.width

/-- The cell at a position of a grid. -/
def gridCell (grid : PackedGrid) (column row : Nat) : Option PackedCell :=
  grid.rowData[row]?.bind fun source => source.cells[column]?

/-- The text of the cell at a position of a grid. -/
def gridText (grid : PackedGrid) (column row : Nat) : Option (List UInt8) :=
  grid.rowData[row]?.bind fun source => source.cells[column]?.map (cellText source)

/-- Every row of the grid has the row layout. -/
def GridLayout (grid : PackedGrid) : Prop :=
  ∀ row ∈ grid.rowData, RowLayout grid.columns grid.styles.length row

/-- Every row text of the grid stays below 4 GiB. Offsets and lengths in its cells are then
exact. -/
def TextBelow4GiB (grid : PackedGrid) : Prop :=
  ∀ row ∈ grid.rowData, row.text.length < 4294967296

instance (grid : PackedGrid) : Decidable (TextBelow4GiB grid) :=
  inferInstanceAs (Decidable (∀ row ∈ grid.rowData, _))

/-! ## The sorted changes of one row -/

theorem changeOrder_total : Std.Total changeOrder where
  total a b := by
    simp only [changeOrder]
    omega

theorem changeOrder_trans : IsTrans PackedChangedCell changeOrder where
  trans a b c hab hbc := by
    rw [changeOrder] at *
    omega

theorem pairwise_sortedChanges (changes : List PackedChangedCell) :
    (changes.insertionSort changeOrder).Pairwise changeOrder :=
  have := changeOrder_total
  have := changeOrder_trans
  List.pairwise_insertionSort changeOrder changes

/-- The changes of a row, whatever their order. -/
theorem mem_rowChanges {changes : List PackedChangedCell} {row : Nat}
    {change : PackedChangedCell} :
    change ∈ rowChanges changes row ↔ change ∈ changes ∧ change.row = row := by
  rw [rowChanges, List.mem_filter, (List.perm_insertionSort changeOrder changes).mem_iff]
  simp

/-- Changes at distinct positions have distinct columns within a row. -/
theorem pairwise_rowChanges {changes : List PackedChangedCell}
    (hnodup : (changes.map fun change => (change.column, change.row)).Nodup) (row : Nat) :
    (rowChanges changes row).Pairwise fun a b => a.column < b.column := by
  have hperm := List.perm_insertionSort changeOrder changes
  have hdistinct : (changes.insertionSort changeOrder).Pairwise fun a b =>
      (a.column, a.row) ≠ (b.column, b.row) := by
    have h := (hperm.map fun change => (change.column, change.row)).nodup_iff.2 hnodup
    rwa [List.Nodup, List.pairwise_map] at h
  have hboth := (pairwise_sortedChanges changes).and hdistinct
  have hrow : ∀ change ∈ rowChanges changes row, change.row = row := fun change hchange =>
    (mem_rowChanges.1 hchange).2
  -- within a row, sorted by column and at distinct positions means strictly ascending
  have hfilter : (rowChanges changes row).Pairwise fun a b =>
      changeOrder a b ∧ (a.column, a.row) ≠ (b.column, b.row) := hboth.filter _
  refine hfilter.imp_of_mem fun {a b} ha hb hab => ?_
  obtain ⟨horder, hne⟩ := hab
  have hra := hrow a ha
  have hrb := hrow b hb
  rw [changeOrder] at horder
  simp only [ne_eq, Prod.mk.injEq] at hne
  omega

/-! ## The outer loop -/

/-- One turn of the outer loop replaces a row and leaves sizes and styles alone. -/
theorem rebuildGroup_shape (changedText : List UInt8) (grid : PackedGrid)
    (group : List PackedChangedCell) :
    (rebuildGroup changedText grid group).columns = grid.columns ∧
      (rebuildGroup changedText grid group).rows = grid.rows ∧
      (rebuildGroup changedText grid group).styles = grid.styles ∧
      (rebuildGroup changedText grid group).rowData.length = grid.rowData.length := by
  cases group with
  | nil => exact ⟨rfl, rfl, rfl, rfl⟩
  | cons change group => exact ⟨rfl, rfl, rfl, List.length_set⟩

/-- The rebuild touches rows only: the size, the table and the number of rows stay. -/
theorem foldl_rebuildGroup_shape (changedText : List UInt8)
    (groups : List (List PackedChangedCell)) (grid : PackedGrid) :
    (groups.foldl (rebuildGroup changedText) grid).columns = grid.columns ∧
      (groups.foldl (rebuildGroup changedText) grid).rows = grid.rows ∧
      (groups.foldl (rebuildGroup changedText) grid).styles = grid.styles ∧
      (groups.foldl (rebuildGroup changedText) grid).rowData.length = grid.rowData.length := by
  induction groups generalizing grid with
  | nil => exact ⟨rfl, rfl, rfl, rfl⟩
  | cons group groups ih =>
    obtain ⟨h1, h2, h3, h4⟩ := ih (rebuildGroup changedText grid group)
    obtain ⟨g1, g2, g3, g4⟩ := rebuildGroup_shape changedText grid group
    exact ⟨h1.trans g1, h2.trans g2, h3.trans g3, h4.trans g4⟩

section shape

variable (grid : PackedGrid) (changes : List PackedChangedCell) (changedText : List UInt8)

@[simp] theorem rebuildPackedRows_columns :
    (rebuildPackedRows grid changes changedText).columns = grid.columns :=
  (foldl_rebuildGroup_shape changedText _ grid).1

@[simp] theorem rebuildPackedRows_rows :
    (rebuildPackedRows grid changes changedText).rows = grid.rows :=
  (foldl_rebuildGroup_shape changedText _ grid).2.1

@[simp] theorem rebuildPackedRows_styles :
    (rebuildPackedRows grid changes changedText).styles = grid.styles :=
  (foldl_rebuildGroup_shape changedText _ grid).2.2.1

@[simp] theorem rebuildPackedRows_length :
    (rebuildPackedRows grid changes changedText).rowData.length = grid.rowData.length :=
  (foldl_rebuildGroup_shape changedText _ grid).2.2.2

end shape

/-- Groups of other rows leave a row alone. -/
theorem foldl_rebuildGroup_row (changedText : List UInt8) {row : Nat}
    (groups : List (List PackedChangedCell)) (grid : PackedGrid)
    (h : ∀ group ∈ groups, ∀ change ∈ group, change.row ≠ row) :
    (groups.foldl (rebuildGroup changedText) grid).rowData[row]? = grid.rowData[row]? := by
  induction groups generalizing grid with
  | nil => rfl
  | cons group groups ih =>
    rw [List.foldl_cons, ih _ fun g hg => h g (List.mem_cons_of_mem _ hg)]
    cases group with
    | nil => rfl
    | cons change group =>
      exact List.getElem?_set_ne (h _ List.mem_cons_self change List.mem_cons_self)

/-- A row after the rebuild: kept without changes, and rebuilt from them otherwise. -/
theorem rebuildPackedRows_row (grid : PackedGrid) (changes : List PackedChangedCell)
    (changedText : List UInt8) (row : Nat) :
    (rebuildPackedRows grid changes changedText).rowData[row]? =
      if rowChanges changes row = [] then grid.rowData[row]?
      else grid.rowData[row]?.map fun old =>
        rebuildRow grid.columns (some old) changedText (rowChanges changes row) := by
  have hsorted : (changes.insertionSort changeOrder).Pairwise fun a b => a.row ≤ b.row :=
    (pairwise_sortedChanges changes).imp fun {a b} hab => by
      rw [changeOrder] at hab
      omega
  by_cases hnone : rowChanges changes row = []
  · rw [if_pos hnone, rebuildPackedRows]
    have hrow : ∀ change ∈ changes.insertionSort changeOrder, change.row ≠ row := by
      intro change hchange hrow
      have hmem : change ∈ rowChanges changes row :=
        List.mem_filter.2 ⟨hchange, by simpa using hrow⟩
      rw [hnone] at hmem
      exact List.not_mem_nil hmem
    exact foldl_rebuildGroup_row changedText _ grid fun group hgroup change hchange =>
      key_ne_of_mem_groupsBy hrow hgroup hchange
  · rw [if_neg hnone]
    -- the row has exactly one group; the groups before and after it belong to other rows
    obtain ⟨change, group, hgroup⟩ := List.exists_cons_of_ne_nil hnone
    have hmem : change ∈ rowChanges changes row := by
      rw [hgroup]
      exact List.mem_cons_self
    have hchange := List.mem_filter.1 hmem
    obtain ⟨before, after, hsplit, hother⟩ :=
      exists_group hsorted ⟨change, hchange.1, of_decide_eq_true hchange.2⟩
    have hgroups : changeGroups changes = before ++ rowChanges changes row :: after := hsplit
    rw [rebuildPackedRows, hgroups, List.foldl_append, List.foldl_cons]
    rw [foldl_rebuildGroup_row changedText after _ fun g hg =>
      hother g (List.mem_append_right _ hg)]
    have hbefore := foldl_rebuildGroup_row changedText before grid fun g hg =>
      hother g (List.mem_append_left _ hg)
    have hshape := foldl_rebuildGroup_shape changedText before grid
    rw [hgroup, rebuildGroup, of_decide_eq_true hchange.2, hbefore, hshape.1]
    simp only [List.getElem?_set_self', hbefore]
    cases grid.rowData[row]? <;> rfl

/-! ## The column loop -/

/-- A chosen cell comes from the old row or from a change for its column. -/
theorem selectedCells_cases (oldRow : Option PackedRow) (changedText : List UInt8)
    (columns : List Nat) (changes : List PackedChangedCell) {i : Nat} (hi : i < columns.length) :
    (selectedCells oldRow changedText changes columns)[i]? =
        some (oldCellSource oldRow columns[i]) ∨
      ∃ change ∈ changes, change.column = columns[i] ∧
        (selectedCells oldRow changedText changes columns)[i]? =
          some (changedCellSource changedText change) := by
  induction columns generalizing changes i with
  | nil => simp at hi
  | cons column columns ih =>
    rw [selectedCells]
    cases changes with
    | nil =>
      cases i with
      | zero => exact Or.inl rfl
      | succ i =>
        simp only [List.getElem?_cons_succ, List.getElem_cons_succ]
        exact ih [] (by simpa using hi)
    | cons change rest =>
      by_cases hcolumn : change.column = column
      · simp only [selectCell, hcolumn, if_true]
        cases i with
        | zero => exact Or.inr ⟨change, List.mem_cons_self, hcolumn, rfl⟩
        | succ i =>
          simp only [List.getElem?_cons_succ, List.getElem_cons_succ]
          apply (ih rest (by simpa using hi)).imp_right
          rintro ⟨c, hc, h⟩
          exact ⟨c, List.mem_cons_of_mem _ hc, h⟩
      · simp only [selectCell, hcolumn, if_false]
        cases i with
        | zero => exact Or.inl rfl
        | succ i =>
          simp only [List.getElem?_cons_succ, List.getElem_cons_succ]
          exact ih (change :: rest) (by simpa using hi)

/-- With changes in strictly ascending columns, every change within the columns is chosen. -/
theorem selectedCells_change (oldRow : Option PackedRow) (changedText : List UInt8) (n : Nat)
    {first : Nat} {changes : List PackedChangedCell}
    (hsorted : changes.Pairwise fun a b => a.column < b.column)
    (hfirst : ∀ change ∈ changes, first ≤ change.column) {change : PackedChangedCell}
    (hmem : change ∈ changes) (hlast : change.column < first + n) :
    (selectedCells oldRow changedText changes (List.range' first n))[change.column - first]? =
      some (changedCellSource changedText change) := by
  induction n generalizing first changes with
  | zero =>
    have := hfirst change hmem
    omega
  | succ n ih =>
    rw [List.range'_succ, selectedCells]
    cases changes with
    | nil => simp at hmem
    | cons head rest =>
      rw [List.pairwise_cons] at hsorted
      -- the loop is at column `first`, and the head of the changes is for it or for a later column
      by_cases hhead : head.column = first
      · simp only [selectCell, hhead, if_true]
        rcases List.mem_cons.1 hmem with rfl | hrest
        · simp [hhead]
        · have hlt := hsorted.1 change hrest
          rw [show change.column - first = change.column - (first + 1) + 1 by omega,
            List.getElem?_cons_succ]
          refine ih hsorted.2 (fun c hc => ?_) hrest (by omega)
          have := hsorted.1 c hc
          omega
      · have hge := hfirst head List.mem_cons_self
        have hall : ∀ c ∈ head :: rest, first + 1 ≤ c.column := by
          intro c hc
          rcases List.mem_cons.1 hc with rfl | hrest
          · omega
          · have := hsorted.1 c hrest
            omega
        have := hall change hmem
        simp only [selectCell, hhead, if_false]
        rw [show change.column - first = change.column - (first + 1) + 1 by omega,
          List.getElem?_cons_succ]
        exact ih (List.pairwise_cons.2 hsorted) hall hmem (by omega)

/-- A cell of a rebuilt row has the content of the chosen cell, and reads its text at the narrowed
offset. -/
theorem rebuildRow_cell_slice {columns : Nat} {oldRow : Option PackedRow}
    {changedText : List UInt8} {changes : List PackedChangedCell} {column : Nat}
    {source : PackedCell × List UInt8} {texts : List (List UInt8)}
    (htexts : (selectedCells oldRow changedText changes (List.range columns)).map Prod.snd = texts)
    (hsource : (selectedCells oldRow changedText changes (List.range columns))[column]? =
      some source) :
    ∃ cell, (rebuildRow columns oldRow changedText changes).cells[column]? = some cell ∧
      SameContent cell source.1 ∧
      cellText (rebuildRow columns oldRow changedText changes) cell =
        slice texts.flatten (u32 (offsetOf texts column)) (u32 source.2.length) := by
  have hcell := layOut_cell (selectedCells oldRow changedText changes (List.range columns)) column
  rw [hsource, Option.map_some, htexts] at hcell
  rw [rebuildRow_eq]
  refine ⟨_, hcell, ⟨rfl, rfl, rfl⟩, ?_⟩
  rw [cellText, layOut_text, htexts]

/-- In a row whose text stays below 4 GiB it reads the chosen text. -/
theorem rebuildRow_cell {columns : Nat} {oldRow : Option PackedRow} {changedText : List UInt8}
    {changes : List PackedChangedCell} {column : Nat} {source : PackedCell × List UInt8}
    (hsource : (selectedCells oldRow changedText changes (List.range columns))[column]? =
      some source) :
    ∃ cell, (rebuildRow columns oldRow changedText changes).cells[column]? = some cell ∧
      SameContent cell source.1 ∧
      ((rebuildRow columns oldRow changedText changes).text.length < 4294967296 →
        cellText (rebuildRow columns oldRow changedText changes) cell = source.2) := by
  obtain ⟨cell, hcell, hsame, htext⟩ := rebuildRow_cell_slice rfl hsource
  refine ⟨cell, hcell, hsame, fun hbound => ?_⟩
  rw [rebuildRow_text] at hbound
  have hat : ((selectedCells oldRow changedText changes (List.range columns)).map
      Prod.snd)[column]? = some source.2 := by
    rw [List.getElem?_map, hsource, Option.map_some]
  have hle := (List.sublist_flatten_of_mem (List.mem_of_getElem? hat)).length_le
  obtain ⟨hlt, hget⟩ := List.getElem?_eq_some_iff.1 hat
  have hslice := slice_flatten_getElem hlt
  -- only the text needs the bound: a wrapped offset would read another part of the row
  rw [hget] at hslice
  rw [htext, u32_of_lt ((offsetOf_le _ column).trans_lt hbound), u32_of_lt (hle.trans_lt hbound),
    hslice]

theorem rebuildRow_length (columns : Nat) (oldRow : Option PackedRow) (changedText : List UInt8)
    (changes : List PackedChangedCell) :
    (rebuildRow columns oldRow changedText changes).cells.length = columns := by
  rw [rebuildRow_eq]
  change (layOut _).cells.length = columns
  rw [layOut_cells_length, length_selectedCells, List.length_range]

theorem oldCellSource_of_getElem? {old : PackedRow} {column : Nat} {cell : PackedCell}
    (h : old.cells[column]? = some cell) : (oldCellSource (some old) column).1 = cell := by
  simp [oldCellSource, h]

/-- A row with the row layout passes every text check. -/
theorem RowLayout.textInBounds {columns styleCount : Nat} {row : PackedRow}
    (h : RowLayout columns styleCount row) {column : Nat} {cell : PackedCell}
    (hcell : row.cells[column]? = some cell) :
    textInBounds row.text cell.textOffset cell.textLength = true := by
  obtain ⟨ho, he⟩ := h.offsets column cell hcell
  have hle := offsetOf_le (cellTexts row) (column + 1)
  rw [← h.text] at hle
  simp only [Core.textInBounds, Bool.and_eq_true, decide_eq_true_eq]
  omega

/-- From a row with the layout the old cell is copied with its text. -/
theorem RowLayout.oldCellSource {columns styleCount : Nat} {old : PackedRow}
    (h : RowLayout columns styleCount old) {column : Nat} {cell : PackedCell}
    (hcell : old.cells[column]? = some cell) :
    oldCellSource (some old) column = (cell, cellText old cell) := by
  simp [Core.oldCellSource, hcell, h.textInBounds hcell, cellText]

/-- Every position of a grid has a cell and a text. -/
theorem GridLayout.exists_cell {grid : PackedGrid} (h : GridLayout grid) {column row : Nat}
    (hcolumn : column < grid.columns) (hrow : row < grid.rowData.length) :
    ∃ cell text, gridCell grid column row = some cell ∧ gridText grid column row = some text ∧
      cell.styleIndex < grid.styles.length := by
  have hlayout := h grid.rowData[row] (List.getElem_mem hrow)
  have hcell : column < grid.rowData[row].cells.length := by
    rw [hlayout.columns]
    exact hcolumn
  refine ⟨grid.rowData[row].cells[column],
    cellText grid.rowData[row] grid.rowData[row].cells[column], ?_, ?_,
    hlayout.styles _ (List.getElem_mem hcell)⟩
  · rw [gridCell, List.getElem?_eq_getElem hrow, Option.bind_some, List.getElem?_eq_getElem hcell]
  · rw [gridText, List.getElem?_eq_getElem hrow, Option.bind_some, List.getElem?_eq_getElem hcell,
      Option.map_some]

/-! ## The rebuilt grid at one position -/

section position

variable {grid : PackedGrid} {changes : List PackedChangedCell} {changedText : List UInt8}
  {column row : Nat}

/-- Without a change at a position the chosen cell is the old one. -/
theorem selectedCells_unchanged (changedText : List UInt8) (old : PackedRow)
    (hcolumn : column < grid.columns)
    (hno : ∀ change ∈ changes, ¬ (change.column = column ∧ change.row = row)) :
    (selectedCells (some old) changedText (rowChanges changes row)
      (List.range grid.columns))[column]? = some (Core.oldCellSource (some old) column) := by
  have h := selectedCells_cases (some old) changedText
    (List.range grid.columns) (rowChanges changes row) (by simpa using hcolumn : column < _)
  rw [List.getElem_range] at h
  rcases h with h | ⟨change, hchange, hc, -⟩
  · exact h
  · rw [mem_rowChanges] at hchange
    exact absurd ⟨hc, hchange.2⟩ (hno change hchange.1)

/-- A position without a change keeps its content, whatever the size of the texts. -/
theorem gridCell_rebuild_unchanged (changedText : List UInt8) (hcolumn : column < grid.columns)
    (hno : ∀ change ∈ changes, ¬ (change.column = column ∧ change.row = row)) {cell : PackedCell}
    (hcell : gridCell grid column row = some cell) :
    ∃ cell', gridCell (rebuildPackedRows grid changes changedText) column row = some cell' ∧
      SameContent cell' cell := by
  rw [gridCell] at hcell ⊢
  rw [rebuildPackedRows_row]
  split
  · exact ⟨cell, hcell, rfl, rfl, rfl⟩
  · cases hrow : grid.rowData[row]? with
    | none => simp [hrow] at hcell
    | some old =>
      rw [hrow, Option.bind_some] at hcell
      obtain ⟨cell', hcell', hsame, -⟩ :=
        rebuildRow_cell (selectedCells_unchanged changedText old hcolumn hno)
      rw [oldCellSource_of_getElem? hcell] at hsame
      exact ⟨cell', hcell', hsame⟩

/-- It keeps its text as well where the rebuilt rows stay below 4 GiB. -/
theorem gridText_rebuild_unchanged (hlayout : GridLayout grid)
    (hbound : TextBelow4GiB (rebuildPackedRows grid changes changedText))
    (hcolumn : column < grid.columns)
    (hno : ∀ change ∈ changes, ¬ (change.column = column ∧ change.row = row)) :
    gridText (rebuildPackedRows grid changes changedText) column row =
      gridText grid column row := by
  simp only [gridText]
  have hafter := rebuildPackedRows_row grid changes changedText row
  rw [hafter]
  split
  · rfl
  · rename_i hchanges
    rw [if_neg hchanges] at hafter
    cases hrow : grid.rowData[row]? with
    | none => rfl
    | some old =>
      rw [hrow, Option.map_some] at hafter
      have hrowLayout := hlayout old (List.mem_of_getElem? hrow)
      have hlt : column < old.cells.length := by rw [hrowLayout.columns]; exact hcolumn
      obtain ⟨cell', hcell', -, htext⟩ :=
        rebuildRow_cell (selectedCells_unchanged changedText old hcolumn hno)
      rw [hrowLayout.oldCellSource (List.getElem?_eq_getElem hlt)] at htext
      simp only [Option.map_some, Option.bind_some, hcell', List.getElem?_eq_getElem hlt]
      rw [htext (hbound _ (List.mem_of_getElem? hafter))]

/-- A change that is alone at its position is the chosen cell there. -/
theorem selectedCells_changed (changedText : List UInt8) (old : PackedRow)
    (hnodup : (changes.map fun change => (change.column, change.row)).Nodup)
    {change : PackedChangedCell} (hmem : change ∈ changes)
    (hcolumn : change.column < grid.columns) :
    (selectedCells (some old) changedText (rowChanges changes change.row)
      (List.range grid.columns))[change.column]? =
        some (changedCellSource changedText change) := by
  have h := selectedCells_change (some old) changedText grid.columns
    (pairwise_rowChanges hnodup change.row) (fun c _ => Nat.zero_le c.column)
    (mem_rowChanges.2 ⟨hmem, rfl⟩) (by omega)
  rwa [← List.range_eq_range', Nat.sub_zero] at h

/-- A change that is alone at its position is in the cell there. -/
theorem gridCell_rebuild_changed (changedText : List UInt8)
    (hnodup : (changes.map fun change => (change.column, change.row)).Nodup)
    {change : PackedChangedCell} (hmem : change ∈ changes) (hcolumn : change.column < grid.columns)
    (hrow : change.row < grid.rowData.length) :
    ∃ cell, gridCell (rebuildPackedRows grid changes changedText) change.column change.row =
        some cell ∧
      SameContent cell (changedCellSource changedText change).1 ∧
      (TextBelow4GiB (rebuildPackedRows grid changes changedText) →
        gridText (rebuildPackedRows grid changes changedText) change.column change.row =
          some (changedCellSource changedText change).2) := by
  have hne : rowChanges changes change.row ≠ [] :=
    List.ne_nil_of_mem (mem_rowChanges.2 ⟨hmem, rfl⟩)
  have hafter := rebuildPackedRows_row grid changes changedText change.row
  rw [if_neg hne, List.getElem?_eq_getElem hrow, Option.map_some] at hafter
  obtain ⟨cell, hcell, hsame, htext⟩ :=
    rebuildRow_cell
      (selectedCells_changed changedText grid.rowData[change.row] hnodup hmem hcolumn)
  refine ⟨cell, by rw [gridCell, hafter]; exact hcell, hsame, fun hbound => ?_⟩
  rw [gridText, hafter, Option.bind_some, hcell, Option.map_some,
    htext (hbound _ (List.mem_of_getElem? hafter))]

/-- The text of a whole row after the rebuild, from the texts at its positions. This needs no bound
on the size of the row. -/
theorem rebuildPackedRows_text (hlayout : GridLayout grid)
    (hnodup : (changes.map fun change => (change.column, change.row)).Nodup)
    {texts : Nat → List UInt8} {source : PackedRow}
    (hsource : (rebuildPackedRows grid changes changedText).rowData[row]? = some source)
    (hold : ∀ column < grid.columns,
      (∀ change ∈ changes, ¬ (change.column = column ∧ change.row = row)) →
      gridText grid column row = some (texts column))
    (hnew : ∀ change ∈ changes, change.row = row → change.column < grid.columns →
      (changedCellSource changedText change).2 = texts change.column) :
    source.text = (List.range grid.columns).flatMap texts := by
  have hrowSome : ∃ old, grid.rowData[row]? = some old := by
    cases hrow : grid.rowData[row]? with
    | none => simp [rebuildPackedRows_row, hrow] at hsource
    | some old => exact ⟨old, rfl⟩
  obtain ⟨old, hrow⟩ := hrowSome
  have hrowLayout := hlayout old (List.mem_of_getElem? hrow)
  -- the text of an old cell that stays
  have holdText : ∀ column < grid.columns,
      (∀ change ∈ changes, ¬ (change.column = column ∧ change.row = row)) →
      ∃ cell, old.cells[column]? = some cell ∧ cellText old cell = texts column := by
    intro column hcolumn hno
    have hlt : column < old.cells.length := by rw [hrowLayout.columns]; exact hcolumn
    refine ⟨old.cells[column], List.getElem?_eq_getElem hlt, ?_⟩
    have htext := hold column hcolumn hno
    rwa [gridText, hrow, Option.bind_some, List.getElem?_eq_getElem hlt, Option.map_some,
      Option.some.injEq] at htext
  rw [rebuildPackedRows_row] at hsource
  by_cases hnone : rowChanges changes row = []
  · -- a row without changes is the concatenation of its cells already
    rw [if_pos hnone, hrow, Option.some.injEq] at hsource
    subst hsource
    rw [hrowLayout.text, List.flatMap_def]
    refine congrArg List.flatten (List.ext_getElem ?_ fun i h₁ h₂ => ?_)
    · simp [cellTexts, hrowLayout.columns]
    · have hcolumn : i < grid.columns := by simpa using h₂
      obtain ⟨cell, hcell, htext⟩ := holdText i hcolumn fun change hchange hat => by
        have hmem := mem_rowChanges.2 ⟨hchange, hat.2⟩
        rw [hnone] at hmem
        exact List.not_mem_nil hmem
      rw [List.getElem?_eq_some_iff] at hcell
      obtain ⟨hlt, rfl⟩ := hcell
      simpa [cellTexts] using htext
  · -- a rebuilt row is compared with the concatenation column by column
    rw [if_neg hnone, hrow, Option.map_some, Option.some.injEq] at hsource
    rw [← hsource, rebuildRow_text, List.flatMap_def]
    refine congrArg List.flatten (List.ext_getElem? fun i => ?_)
    by_cases hcolumn : i < grid.columns
    · rw [List.getElem?_map, List.getElem?_map, List.getElem?_range hcolumn, Option.map_some]
      by_cases hchange : ∃ change ∈ changes, change.column = i ∧ change.row = row
      · obtain ⟨change, hmem, rfl, rfl⟩ := hchange
        rw [selectedCells_changed changedText old hnodup hmem hcolumn, Option.map_some,
          hnew change hmem rfl hcolumn]
      · have hno : ∀ change ∈ changes, ¬ (change.column = i ∧ change.row = row) :=
          fun change hmem hat => hchange ⟨change, hmem, hat⟩
        obtain ⟨cell, hcell, htext⟩ := holdText i hcolumn hno
        rw [selectedCells_unchanged changedText old hcolumn hno, hrowLayout.oldCellSource hcell,
          Option.map_some, htext]
    · rw [List.getElem?_eq_none (by simpa [length_selectedCells] using hcolumn),
        List.getElem?_eq_none (by simpa using hcolumn)]

/-- No chosen text is longer than a length can say. -/
theorem selectedCells_text_lt {old : PackedRow} {columns : List Nat}
    (hold : old.text.length < 4294967296) (hchanged : changedText.length < 4294967296) :
    ∀ source ∈ selectedCells (some old) changedText changes columns,
      source.2.length < 4294967296 := by
  have hslice : ∀ (text : List UInt8) (offset length : Nat), text.length < 4294967296 →
      (slice text offset length).length < 4294967296 := by
    intro text offset length htext
    rw [slice, List.length_take, List.length_drop]
    omega
  have holdText : ∀ column, (Core.oldCellSource (some old) column).2.length < 4294967296 := by
    intro column
    unfold Core.oldCellSource
    dsimp only
    split
    · exact Nat.succ_pos 4294967295
    · dsimp only
      split
      · exact hslice _ _ _ hold
      · exact Nat.succ_pos 4294967295
  intro source hsource
  obtain ⟨i, hi⟩ := List.mem_iff_getElem?.1 hsource
  have hlt : i < columns.length := by
    have := (List.getElem?_eq_some_iff.1 hi).1
    rwa [length_selectedCells] at this
  rcases selectedCells_cases (some old) changedText columns changes hlt with h | ⟨change, -, -, h⟩
  · rw [h, Option.some.injEq] at hi
    rw [← hi]
    exact holdText _
  · rw [h, Option.some.injEq] at hi
    rw [← hi]
    exact hslice _ _ _ hchanged

/-- The text of a rebuilt row is as long as its cells say together, whatever its size. -/
theorem rebuildPackedRows_text_length (hlayout : GridLayout grid)
    (hchanged : changedText.length < 4294967296) {source : PackedRow}
    (h : source ∈ (rebuildPackedRows grid changes changedText).rowData) :
    source.text.length < 4294967296 ∨
      source.text.length = (source.cells.map PackedCell.textLength).sum := by
  obtain ⟨i, hi⟩ := List.mem_iff_getElem?.1 h
  rw [rebuildPackedRows_row] at hi
  split at hi
  · exact .inl (hlayout source (List.mem_of_getElem? hi)).bound
  · obtain ⟨old, hrow, rfl⟩ := Option.map_eq_some_iff.1 hi
    right
    rw [rebuildRow_eq]
    exact layOut_text_length
      (selectedCells_text_lt (hlayout old (List.mem_of_getElem? hrow)).bound hchanged)

/-- A row after the rebuild is an old row, or has one cell per column and runs that tile it. -/
theorem rebuildPackedRows_mem {source : PackedRow}
    (h : source ∈ (rebuildPackedRows grid changes changedText).rowData) :
    source ∈ grid.rowData ∨
      (source.cells.length = grid.columns ∧ RunsTile source.cells source.runs) := by
  obtain ⟨i, hi⟩ := List.mem_iff_getElem?.1 h
  rw [rebuildPackedRows_row] at hi
  split at hi
  · exact Or.inl (List.mem_of_getElem? hi)
  · cases hrow : grid.rowData[i]? with
    | none => simp [hrow] at hi
    | some old =>
      simp only [hrow, Option.map_some, Option.some.injEq] at hi
      refine Or.inr ⟨?_, ?_⟩
      · rw [← hi]
        exact rebuildRow_length ..
      · rw [← hi, rebuildRow_eq]
        exact runsTile_buildRuns _

/-- Rebuilding keeps the layout of all rows while the row texts stay below 4 GiB. -/
theorem GridLayout.rebuild (hlayout : GridLayout grid) (hstyles : 0 < grid.styles.length)
    (hchanges : ∀ change ∈ changes, change.styleIndex < grid.styles.length)
    (hbound : TextBelow4GiB (rebuildPackedRows grid changes changedText)) :
    GridLayout (rebuildPackedRows grid changes changedText) := by
  intro source hsource
  rw [rebuildPackedRows_columns, rebuildPackedRows_styles]
  have hlt := hbound source hsource
  obtain ⟨i, hi⟩ := List.mem_iff_getElem?.1 hsource
  rw [rebuildPackedRows_row] at hi
  split at hi
  · -- rows without changes are the old ones
    exact hlayout source (List.mem_of_getElem? hi)
  · cases hrow : grid.rowData[i]? with
    | none => simp [hrow] at hi
    | some old =>
      simp only [hrow, Option.map_some, Option.some.injEq] at hi
      subst hi
      refine rowLayout_rebuildRow hstyles ?_ ?_ hlt
      · rintro _ ⟨⟩ cell hcell
        exact (hlayout old (List.mem_of_getElem? hrow)).styles cell hcell
      · intro change hchange
        exact hchanges change (mem_rowChanges.1 hchange).1

end position

end SakuraTerminal.Core
