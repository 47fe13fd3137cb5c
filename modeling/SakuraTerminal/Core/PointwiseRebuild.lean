import SakuraTerminal.Core.ReachableGrid
import SakuraTerminal.Core.SharedGrid

/-!
# The rebuild as a pointwise update

`RebuildPackedRows` gives every changed position the content of its change and keeps the content of
all others (`PointwiseUpdate`), and a row without a change stays the shared object it was
(`SharesRow`), whatever the order of the changes (`rebuildPackedRows_pointwise`). Texts are exact
where they begin below 4 GiB in their row (`updatedOffset`): from there on the stored offset wraps,
and the cell reads another part of the row (`not_rebuildPackedRows_pointwise`).

The loop of the source goes through each row with a change once and builds its cells and its text
anew, so an unchanged cell of such a row is copied, with another offset. The specification does not
mention offsets: it compares what a cell reads before and after. The only place where they show is
the bound, since a text that begins beyond 4 GiB of its row cannot be addressed by 32 bits.
-/

set_option autoImplicit false

namespace SakuraTerminal.Core

open SakuraTerminal.Foundations

/-- Changes at distinct positions of the grid whose texts are slices of `changedText`. A width has 8
bits and a length 32. All of this is what the callback records; `distinct` is libtsm's contract for
complete draws. -/
structure ChangesFit (grid : PackedGrid) (changes : List PackedChangedCell)
    (changedText : List UInt8) : Prop where
  distinct : (changes.map fun change => (change.column, change.row)).Nodup
  column : ∀ change ∈ changes, change.column < grid.columns
  row : ∀ change ∈ changes, change.row < grid.rowData.length
  width : ∀ change ∈ changes, change.width ≤ 255
  inBounds : ∀ change ∈ changes, change.textOffset + change.textLength ≤ changedText.length
  length : ∀ change ∈ changes, change.textLength < 4294967296

/-- The text that the update gives a position: that of its change, or the text it had. A position
has at most one change, so the order of the list does not matter. -/
def updatedText (grid : PackedGrid) (changes : List PackedChangedCell) (changedText : List UInt8)
    (column row : Nat) : List UInt8 :=
  match changes.find? fun change => decide (change.column = column ∧ change.row = row) with
  | some change => slice changedText change.textOffset change.textLength
  | none => (gridText grid column row).getD []

/-- Where this text begins in its row: behind the texts of the cells to its left. -/
def updatedOffset (grid : PackedGrid) (changes : List PackedChangedCell)
    (changedText : List UInt8) (column row : Nat) : Nat :=
  offsetOf ((List.range grid.columns).map fun column =>
    updatedText grid changes changedText column row) column

/-- Every changed position has what its change says, and every other one what it had. Texts are
promised at the positions of `TextAt`. Code point, style and width are promised everywhere. -/
structure PointwiseUpdate (grid : PackedGrid) (changes : List PackedChangedCell)
    (changedText : List UInt8) (TextAt : Nat → Nat → Prop) (result : PackedGrid) : Prop where
  changed : ∀ change ∈ changes, ∃ cell,
    gridCell result change.column change.row = some cell ∧ cell.codepoint = change.codepoint ∧
      cell.styleIndex = change.styleIndex ∧ cell.width.toNat = change.width
  changedText : ∀ change ∈ changes, TextAt change.column change.row →
    gridText result change.column change.row =
      some (slice changedText change.textOffset change.textLength)
  unchanged : ∀ column < grid.columns, ∀ row < grid.rowData.length,
    (∀ change ∈ changes, ¬ (change.column = column ∧ change.row = row)) →
    ∃ old cell, gridCell grid column row = some old ∧ gridCell result column row = some cell ∧
      SameContent cell old
  unchangedText : ∀ column < grid.columns, ∀ row < grid.rowData.length,
    (∀ change ∈ changes, ¬ (change.column = column ∧ change.row = row)) → TextAt column row →
    gridText result column row = gridText grid column row

/-! ## Texts -/

section texts

variable {grid : PackedGrid} {changes : List PackedChangedCell} {changedText : List UInt8}

/-- A position has one change at most, so the update takes the text of that one. -/
theorem updatedText_changed
    (hdistinct : (changes.map fun change => (change.column, change.row)).Nodup)
    {change : PackedChangedCell} (hmem : change ∈ changes) :
    updatedText grid changes changedText change.column change.row =
      slice changedText change.textOffset change.textLength := by
  rw [updatedText]
  cases hfind : changes.find? fun other =>
      decide (other.column = change.column ∧ other.row = change.row) with
  | none =>
    have hnone := List.find?_eq_none.1 hfind change hmem
    simp at hnone
  | some other =>
    have hfound := List.find?_some hfind
    have hat := of_decide_eq_true hfound
    have hsame : other = change := by
      apply List.inj_on_of_nodup_map hdistinct (List.mem_of_find?_eq_some hfind) hmem
      rw [hat.1, hat.2]
    rw [hsame]

theorem updatedText_unchanged {column row : Nat}
    (hno : ∀ change ∈ changes, ¬ (change.column = column ∧ change.row = row)) :
    updatedText grid changes changedText column row = (gridText grid column row).getD [] := by
  have hnone : (changes.find? fun change =>
      decide (change.column = column ∧ change.row = row)) = none := by
    apply List.find?_eq_none.2
    intro change hmem
    simpa using hno change hmem
  rw [updatedText, hnone]

/-- The text that the column loop chooses at a position. -/
theorem selectedCells_text (hlayout : GridLayout grid) (hfit : ChangesFit grid changes changedText)
    {row : Nat} {old : PackedRow} (hrow : grid.rowData[row]? = some old) {column : Nat}
    (hcolumn : column < grid.columns) :
    ((selectedCells (some old) changedText (rowChanges changes row)
      (List.range grid.columns))[column]?).map Prod.snd =
        some (updatedText grid changes changedText column row) := by
  by_cases hchange : ∃ change ∈ changes, change.column = column ∧ change.row = row
  · obtain ⟨change, hmem, rfl, rfl⟩ := hchange
    rw [selectedCells_changed changedText old hfit.distinct hmem hcolumn,
      updatedText_changed hfit.distinct hmem]
    rfl
  · have hno : ∀ change ∈ changes, ¬ (change.column = column ∧ change.row = row) :=
      fun change hmem hat => hchange ⟨change, hmem, hat⟩
    have hrowLayout := hlayout old (List.mem_of_getElem? hrow)
    have hlt : column < old.cells.length := by
      rw [hrowLayout.columns]
      exact hcolumn
    rw [selectedCells_unchanged changedText old hcolumn hno, updatedText_unchanged hno,
      hrowLayout.oldCellSource (List.getElem?_eq_getElem hlt), gridText, hrow, Option.bind_some,
      List.getElem?_eq_getElem hlt]
    rfl

/-- The texts of a rebuilt row are those of the update. -/
theorem selectedCells_texts (hlayout : GridLayout grid) (hfit : ChangesFit grid changes changedText)
    {row : Nat} {old : PackedRow} (hrow : grid.rowData[row]? = some old) :
    (selectedCells (some old) changedText (rowChanges changes row)
      (List.range grid.columns)).map Prod.snd =
        (List.range grid.columns).map fun column =>
          updatedText grid changes changedText column row := by
  have hlength := length_selectedCells (some old) changedText (rowChanges changes row)
    (List.range grid.columns)
  rw [List.length_range] at hlength
  apply List.ext_getElem?
  intro column
  rw [List.getElem?_map, List.getElem?_map]
  by_cases hcolumn : column < grid.columns
  · rw [selectedCells_text hlayout hfit hrow hcolumn, List.getElem?_range hcolumn]
    rfl
  · rw [List.getElem?_eq_none (by omega), List.getElem?_eq_none (by simpa using hcolumn)]
    rfl

/-- No text of the update is longer than a length can say. -/
theorem length_updatedText_lt (hlayout : GridLayout grid)
    (hfit : ChangesFit grid changes changedText) (column row : Nat) :
    (updatedText grid changes changedText column row).length < 4294967296 := by
  rw [updatedText]
  split
  case h_1 change hfind =>
    have hlt := hfit.length change (List.mem_of_find?_eq_some hfind)
    rw [slice, List.length_take]
    omega
  case h_2 =>
    rw [gridText]
    cases hrow : grid.rowData[row]? with
    | none => exact Nat.succ_pos 4294967295
    | some old =>
      rw [Option.bind_some]
      cases hcell : old.cells[column]? with
      | none => exact Nat.succ_pos 4294967295
      | some cell =>
        have hbound := (hlayout old (List.mem_of_getElem? hrow)).bound
        rw [Option.map_some, Option.getD_some, cellText, slice, List.length_take, List.length_drop]
        omega

/-- In a row with changes a cell reads its text at the narrowed offset. -/
theorem gridText_rebuild_slice (hlayout : GridLayout grid)
    (hfit : ChangesFit grid changes changedText) {column row : Nat}
    (hcolumn : column < grid.columns) (hrow : row < grid.rowData.length)
    (hchanges : rowChanges changes row ≠ []) :
    gridText (rebuildPackedRows grid changes changedText) column row =
      some (slice ((List.range grid.columns).map fun column =>
          updatedText grid changes changedText column row).flatten
        (u32 (updatedOffset grid changes changedText column row))
        (updatedText grid changes changedText column row).length) := by
  have hold := List.getElem?_eq_getElem hrow
  obtain ⟨source, hsource, htext⟩ :=
    Option.map_eq_some_iff.1 (selectedCells_text hlayout hfit hold hcolumn)
  obtain ⟨cell, hcell, -, hread⟩ :=
    rebuildRow_cell_slice (selectedCells_texts hlayout hfit hold) hsource
  rw [htext, u32_of_lt (length_updatedText_lt hlayout hfit column row)] at hread
  rw [gridText, rebuildPackedRows_row, if_neg hchanges, hold, Option.map_some, Option.bind_some,
    hcell, Option.map_some, hread]
  rfl

/-- Where a text begins below 4 GiB, the rebuilt grid has the text of the update. -/
theorem gridText_rebuild (hlayout : GridLayout grid) (hfit : ChangesFit grid changes changedText)
    {column row : Nat} (hcolumn : column < grid.columns) (hrow : row < grid.rowData.length)
    (hoffset : updatedOffset grid changes changedText column row < 4294967296) :
    gridText (rebuildPackedRows grid changes changedText) column row =
      some (updatedText grid changes changedText column row) := by
  by_cases hchanges : rowChanges changes row = []
  · -- a row without changes is the old row
    obtain ⟨old, text, -, htext, -⟩ := hlayout.exists_cell hcolumn hrow
    have hno : ∀ change ∈ changes, ¬ (change.column = column ∧ change.row = row) := by
      intro change hmem hat
      have hchange := mem_rowChanges.2 ⟨hmem, hat.2⟩
      rw [hchanges] at hchange
      exact List.not_mem_nil hchange
    rw [updatedText_unchanged hno, htext, gridText, rebuildPackedRows_row, if_pos hchanges,
      ← gridText, htext]
    rfl
  · have hlt : column < ((List.range grid.columns).map fun column =>
        updatedText grid changes changedText column row).length := by
      rw [List.length_map, List.length_range]
      exact hcolumn
    have hslice := slice_flatten_getElem hlt
    rw [List.getElem_map, List.getElem_range] at hslice
    rw [gridText_rebuild_slice hlayout hfit hcolumn hrow hchanges, u32_of_lt hoffset, updatedOffset,
      hslice]

/-- The update at the positions whose text begins below 4 GiB. -/
theorem pointwiseUpdate_rebuild (hlayout : GridLayout grid)
    (hfit : ChangesFit grid changes changedText) :
    PointwiseUpdate grid changes changedText
      (fun column row => updatedOffset grid changes changedText column row < 4294967296)
      (rebuildPackedRows grid changes changedText) := by
  constructor
  case changed =>
    intro change hmem
    obtain ⟨cell, hcell, hsame, -⟩ := gridCell_rebuild_changed changedText hfit.distinct hmem
      (hfit.column change hmem) (hfit.row change hmem)
    refine ⟨cell, hcell, hsame.codepoint, hsame.styleIndex, ?_⟩
    rw [hsame.width]
    change change.width.toUInt8.toNat = change.width
    have hwidth := hfit.width change hmem
    rw [Nat.toUInt8_eq, UInt8.toNat_ofNat']
    omega
  case changedText =>
    intro change hmem hoffset
    rw [gridText_rebuild hlayout hfit (hfit.column change hmem) (hfit.row change hmem) hoffset,
      updatedText_changed hfit.distinct hmem]
  case unchanged =>
    intro column hcolumn row hrow hno
    obtain ⟨old, text, hold, -, -⟩ := hlayout.exists_cell hcolumn hrow
    obtain ⟨cell, hcell, hsame⟩ := gridCell_rebuild_unchanged changedText hcolumn hno hold
    exact ⟨old, cell, hold, hcell, hsame⟩
  case unchangedText =>
    intro column hcolumn row hrow hno hoffset
    obtain ⟨old, text, -, htext, -⟩ := hlayout.exists_cell hcolumn hrow
    rw [gridText_rebuild hlayout hfit hcolumn hrow hoffset, updatedText_unchanged hno, htext]
    rfl

end texts

/-! ## Shared rows -/

namespace PackedHeap

/-- The pointer to a row of a grid. -/
def rowPointer (heap : PackedHeap) (a row : Nat) : Option Nat :=
  (heap.grids.value a).bind fun object => object.rowData[row]?

/-- The grid refers to the row it referred to before, and the row has not changed. Frames that refer
to this row as well go on sharing it with the rebuilt grid. -/
structure SharesRow (a row : Nat) (heap heap' : PackedHeap) : Prop where
  pointer : heap'.rowPointer a row = heap.rowPointer a row
  value : ∀ pointer, heap.rowPointer a row = some pointer →
    heap'.rows.value pointer = heap.rows.value pointer

variable {heap : PackedHeap} {a : Nat}

/-- Replacing one row leaves the pointers to the others. -/
theorem rowPointer_replaceRow {index row : Nat} (hne : index ≠ row) (new : PackedRow) :
    (heap.replaceRow a index new).rowPointer a row = heap.rowPointer a row := by
  rw [replaceRow]
  cases hobject : heap.grids.value a with
  | none => rfl
  | some object =>
    dsimp only
    cases hold : object.rowData[index]? with
    | none => rfl
    | some old =>
      dsimp only
      rw [rowPointer, rowPointer, SharedHeap.value_write_self hobject, hobject]
      exact List.getElem?_set_ne hne

theorem rowPointer_rebuildGroup {row : Nat} (changedText : List UInt8)
    {group : List PackedChangedCell} (hother : ∀ change ∈ group, change.row ≠ row) :
    (rebuildGroup changedText a heap group).rowPointer a row = heap.rowPointer a row := by
  cases group with
  | nil => rfl
  | cons change group =>
    rw [rebuildGroup]
    split
    case h_1 => rfl
    case h_2 => exact rowPointer_replaceRow (hother change List.mem_cons_self) _

/-- A row without a change keeps its pointer. -/
theorem rowPointer_rebuildPackedRows {row : Nat} {changes : List PackedChangedCell}
    (hother : ∀ change ∈ changes, change.row ≠ row) (changedText : List UInt8) :
    (heap.rebuildPackedRows a changes changedText).rowPointer a row = heap.rowPointer a row := by
  have hsorted : ∀ change ∈ changes.insertionSort changeOrder, change.row ≠ row := by
    intro change hmem
    exact hother change ((List.perm_insertionSort changeOrder changes).mem_iff.1 hmem)
  have hgroups : ∀ group ∈ changeGroups changes, ∀ change ∈ group, change.row ≠ row :=
    fun group hgroup change hchange => key_ne_of_mem_groupsBy hsorted hgroup hchange
  rw [rebuildPackedRows]
  -- groups of other rows, one after another
  generalize changeGroups changes = groups at hgroups
  induction groups generalizing heap with
  | nil => rfl
  | cons group groups ih =>
    rw [List.foldl_cons, ih fun g hg => hgroups g (List.mem_cons_of_mem group hg)]
    exact rowPointer_rebuildGroup changedText (hgroups group List.mem_cons_self)

/-- The row behind a pointer of a grid. -/
theorem Holds.value_rowPointer {object : SharedGrid} {grid : PackedGrid}
    (h : heap.Holds a object grid) {row pointer : Nat}
    (hpointer : heap.rowPointer a row = some pointer) :
    heap.rows.value pointer = grid.rowData[row]? := by
  rw [rowPointer, h.found, Option.bind_some] at hpointer
  have hrow := congrArg (fun rows => rows[row]?) h.rowData
  simp only [List.getElem?_map, hpointer, Option.map_some] at hrow
  cases hvalue : grid.rowData[row]? with
  | none => simp [hvalue] at hrow
  | some value =>
    rw [hvalue, Option.map_some, Option.some.injEq] at hrow
    exact hrow

end PackedHeap

/-! ## The rebuild -/

section rebuild

variable {heap : PackedHeap} {a : Nat} {owners temps : Multiset Nat} {grid : PackedGrid}
  {changes : List PackedChangedCell} {changedText : List UInt8}

/-- `RebuildPackedRows` on a shared grid: a pointwise update of its cells that leaves every row
without a change where it is. -/
theorem rebuildPackedRows_pointwise (hcounted : heap.Counted owners temps)
    (hread : heap.readGrid a = some grid) (hlayout : GridLayout grid)
    (hfit : ChangesFit grid changes changedText) :
    ∃ result, (heap.rebuildPackedRows a changes changedText).readGrid a = some result ∧
      PointwiseUpdate grid changes changedText
        (fun column row => updatedOffset grid changes changedText column row < 4294967296) result ∧
      ∀ row, (∀ change ∈ changes, change.row ≠ row) →
        PackedHeap.SharesRow a row heap (heap.rebuildPackedRows a changes changedText) := by
  have hupdates := PackedHeap.updates_rebuildPackedRows hcounted hread changes changedText
  refine ⟨_, hupdates.holds, pointwiseUpdate_rebuild hlayout hfit, fun row hother => ?_⟩
  obtain ⟨object, hholds⟩ := PackedHeap.readGrid_eq_some.mp hread
  obtain ⟨object', hholds'⟩ := PackedHeap.readGrid_eq_some.mp hupdates.holds
  have hpointer : (heap.rebuildPackedRows a changes changedText).rowPointer a row =
      heap.rowPointer a row := PackedHeap.rowPointer_rebuildPackedRows hother changedText
  refine ⟨hpointer, fun pointer hold => ?_⟩
  have hnone : rowChanges changes row = [] := by
    apply List.eq_nil_iff_forall_not_mem.mpr
    intro change hmem
    obtain ⟨hchange, hrow⟩ := mem_rowChanges.1 hmem
    exact hother change hchange hrow
  rw [hholds'.value_rowPointer (hpointer.trans hold), hholds.value_rowPointer hold,
    rebuildPackedRows_row, if_pos hnone]

end rebuild

/-! ## A row of 4 GiB -/

/-- A cache that was given a blank row of three columns. -/
def blankHeap : PackedHeap := (({} : PackedHeap).ownCache none).1.ensurePackedGrid 0 3 1

/-- The grid in it. -/
def blankGrid : PackedGrid := ensurePackedGrid {} 3 1

theorem blankHeap_spec : blankHeap.Counted {0} 0 ∧ blankHeap.readGrid 0 = some blankGrid := by
  have hempty : ({} : PackedHeap).Counted (PackedHeap.cacheRefs none + 0) 0 := .empty
  have howned := PackedHeap.owned_ownCache hempty
  have hupdates := PackedHeap.updates_ensurePackedGrid howned.counted howned.holds 3 1
  exact ⟨hupdates.counted, hupdates.holds⟩

theorem gridLayout_blankGrid : GridLayout blankGrid :=
  GridLayout.ensure (fun _ hrow => absurd hrow List.not_mem_nil) gridTable_empty 1 (by decide)
    (by decide)

/-- Two cells of `size` bytes each and a third one of another byte, in no particular order. -/
def longText (size : Nat) : List UInt8 := List.replicate size 97 ++ [98]

/-- The changes of a row whose first two cells get `size` bytes each, given from right to left. -/
def longChanges (size : Nat) : List PackedChangedCell :=
  [⟨2, 0, 1, 98, 0, size, 1⟩, ⟨0, 0, 1, 97, 0, 0, size⟩, ⟨1, 0, 1, 97, 0, 0, size⟩]

section long

variable {size : Nat}

theorem slice_longText (size : Nat) : slice (longText size) 0 size = List.replicate size 97 ∧
    slice (longText size) size 1 = [98] := by
  constructor
  · rw [longText, slice, List.drop_zero]
    exact List.take_left' List.length_replicate
  · rw [longText, slice, List.drop_left' List.length_replicate]
    rfl

/-- The two long texts are the same slice of the buffer. -/
theorem changesFit_long (hlt : size < 4294967296) :
    ChangesFit blankGrid (longChanges size) (longText size) := by
  have hlength : (longText size).length = size + 1 := by
    rw [longText, List.length_append, List.length_replicate, List.length_singleton]
  constructor
  case distinct => exact (by decide : [(2, 0), (0, 0), (1, 0)].Nodup)
  all_goals
    simp only [longChanges, List.forall_mem_cons, List.not_mem_nil, false_implies, implies_true,
      and_true]
  case column => exact (by decide : 2 < 3 ∧ 0 < 3 ∧ 1 < 3)
  case row => exact (by decide : 0 < 1 ∧ 0 < 1 ∧ 0 < 1)
  case width => exact (by decide : 1 ≤ 255 ∧ 1 ≤ 255 ∧ 1 ≤ 255)
  case inBounds => omega
  case length => omega

/-- The third cell reads its byte from the first one once its offset wraps to 0. -/
theorem gridText_long (hpos : 0 < size) (hlt : size < 4294967296) (hwrap : u32 (size + size) = 0) :
    gridText (rebuildPackedRows blankGrid (longChanges size) (longText size)) 2 0 = some [97] := by
  have hfit := changesFit_long hlt
  have htext : ∀ change ∈ longChanges size,
      updatedText blankGrid (longChanges size) (longText size) change.column change.row =
        slice (longText size) change.textOffset change.textLength :=
    fun change hmem => updatedText_changed hfit.distinct hmem
  simp only [longChanges, List.forall_mem_cons, List.not_mem_nil, false_implies, implies_true,
    and_true] at htext
  rw [← longChanges, (slice_longText size).1, (slice_longText size).2] at htext
  obtain ⟨hthird, hfirst, hsecond⟩ := htext
  have htexts : ((List.range blankGrid.columns).map fun column =>
      updatedText blankGrid (longChanges size) (longText size) column 0) =
        [List.replicate size 97, List.replicate size 97, [98]] := by
    change [updatedText _ _ _ 0 0, updatedText _ _ _ 1 0, updatedText _ _ _ 2 0] = _
    rw [hfirst, hsecond, hthird]
  have hchanges : rowChanges (longChanges size) 0 ≠ [] :=
    List.ne_nil_of_mem (mem_rowChanges.2 ⟨List.mem_cons_self, rfl⟩)
  have hoffset : offsetOf [List.replicate size (97 : UInt8), List.replicate size 97, [98]] 2 =
      size + size := by
    simp [offsetOf]
  obtain ⟨more, rfl⟩ : ∃ more, size = more + 1 := ⟨size - 1, by omega⟩
  rw [gridText_rebuild_slice gridLayout_blankGrid hfit (by decide) (by decide) hchanges,
    updatedOffset, htexts, hthird, hoffset, hwrap, slice, List.replicate_succ]
  rfl

end long

/-- Three changes of one byte each, given from right to left. -/
theorem rebuildPackedRows_pointwise_bytes : ∃ result,
    (blankHeap.rebuildPackedRows 0 (longChanges 1) (longText 1)).readGrid 0 = some result ∧
      PointwiseUpdate blankGrid (longChanges 1) (longText 1) (fun column row =>
        updatedOffset blankGrid (longChanges 1) (longText 1) column row < 4294967296) result ∧
      ∀ row, (∀ change ∈ longChanges 1, change.row ≠ row) →
        PackedHeap.SharesRow 0 row blankHeap
          (blankHeap.rebuildPackedRows 0 (longChanges 1) (longText 1)) :=
  rebuildPackedRows_pointwise blankHeap_spec.1 blankHeap_spec.2 gridLayout_blankGrid
    (changesFit_long (by decide))

/-- With two cells of 2 GiB before it the third cell of a row has the wrong text. -/
theorem not_rebuildPackedRows_pointwise : ¬ ∀ (heap : PackedHeap) (owners temps : Multiset Nat)
    (a : Nat) (grid : PackedGrid) (changes : List PackedChangedCell) (changedText : List UInt8),
    heap.Counted owners temps → heap.readGrid a = some grid → GridLayout grid →
    ChangesFit grid changes changedText →
    ∃ result, (heap.rebuildPackedRows a changes changedText).readGrid a = some result ∧
      PointwiseUpdate grid changes changedText (fun _ _ => True) result ∧
      ∀ row, (∀ change ∈ changes, change.row ≠ row) →
        PackedHeap.SharesRow a row heap (heap.rebuildPackedRows a changes changedText) := by
  intro h
  obtain ⟨size, hpos, hlt, hwrap⟩ :
      ∃ size, 0 < size ∧ size < 4294967296 ∧ u32 (size + size) = 0 :=
    ⟨2147483648, by decide, by decide, by decide⟩
  obtain ⟨hcounted, hread⟩ := blankHeap_spec
  obtain ⟨result, hresult, hpointwise, -⟩ := h blankHeap {0} 0 0 blankGrid (longChanges size)
    (longText size) hcounted hread gridLayout_blankGrid (changesFit_long hlt)
  have hrebuilt := (PackedHeap.updates_rebuildPackedRows hcounted hread (longChanges size)
    (longText size)).holds
  rw [hrebuilt, Option.some.injEq] at hresult
  have htext := hpointwise.changedText _ List.mem_cons_self trivial
  rw [← hresult, gridText_long hpos hlt hwrap, (slice_longText size).2] at htext
  exact absurd htext (by decide)

end SakuraTerminal.Core
