import SakuraTerminal.Core.Terminal
import SakuraTerminal.Foundations.SharedHeap

/-!
# Shared grids

`PackedGrid` and `PackedRow` as the heap objects behind `shared_ptr`. A grid refers to its rows,
and the cache and the frames refer to grids; the functions on grids change the object they are
given in place.

`Updates` is what all of them satisfy: the use counts stay right, the grid holds what the function
on values computes, and every other grid reads as before, because the rows it refers to keep a
reference.

A `shared_ptr` has two owners' worth of state: the object and its use count. `TakePackedFrame`
decides by the count whether it may change a grid in place (`ownCache`), so the count is part of the
model, and the invariant says that it is the number of pointers there are (`Counted`). Pointers live
in three places: in the frames and the cache (`owners`), in the vectors of the grids, and, while a
function runs, in its local variables (`temps`).

The functions on grids have one lemma each, which says `Updates`. Their proofs never mention the use
counts of another grid's rows: what a count protects is stated once, in the library on reference
counts.
-/

set_option autoImplicit false

namespace SakuraTerminal.Core

open SakuraTerminal.Foundations

/-- `PackedGrid` with the pointers of `row_data`. -/
structure SharedGrid where
  columns : Nat := 0
  rows : Nat := 0
  styles : List PackedStyle := []
  rowData : List Nat := []

/-- The grid with another vector `row_data`. -/
def SharedGrid.withRows (object : SharedGrid) (rowData : List Nat) : SharedGrid :=
  { object with rowData := rowData }

/-- The rows a grid refers to. -/
def rowRefs (object : SharedGrid) : Multiset Nat := ↑object.rowData

/-- The grids and the rows that pointers lead to. An address is used once, so a dangling pointer
would read nothing rather than another object. -/
structure PackedHeap where
  grids : SharedHeap SharedGrid := .empty
  rows : SharedHeap PackedRow := .empty

namespace PackedHeap

/-! ## Reading -/

/-- The rows behind pointers; a dangling pointer gives nothing. -/
def readRows (heap : PackedHeap) : List Nat → Option (List PackedRow)
  | [] => some []
  | pointer :: pointers =>
    match heap.rows.value pointer, heap.readRows pointers with
    | some row, some rows => some (row :: rows)
    | _, _ => none

/-- The grid behind a pointer, with its rows. It is the value that the functions on values work
with. -/
def readGrid (heap : PackedHeap) (a : Nat) : Option PackedGrid :=
  match heap.grids.value a with
  | none => none
  | some object =>
    (heap.readRows object.rowData).map fun rows =>
      { columns := object.columns, rows := object.rows, styles := object.styles, rowData := rows }

/-! ## In place -/

/-- Change the members of a grid. The vector keeps its pointers, so no count changes. -/
def writeGrid (heap : PackedHeap) (a : Nat) (object : SharedGrid) : PackedHeap :=
  { heap with grids := heap.grids.write a object }

/-- Assign the vector `row_data`; the old vector drops its references. A row that no other vector
refers to is freed by that. -/
def assignRows (heap : PackedHeap) (a : Nat) (pointers : List Nat) : PackedHeap :=
  match heap.grids.value a with
  | none => heap
  | some object =>
    -- the references in `pointers` move into the object; only those of the old vector are dropped
    { grids := heap.grids.write a (object.withRows pointers)
      rows := heap.rows.releaseAll object.rowData }

/-- `row_data.push_back` of a new row. -/
def pushRow (heap : PackedHeap) (a : Nat) (row : PackedRow) : PackedHeap :=
  match heap.grids.value a with
  | none => heap
  | some object =>
    { grids := heap.grids.write a (object.withRows (object.rowData ++ [heap.rows.next]))
      rows := heap.rows.alloc row }

/-- `row_data[index] = row` for a new row. The row that stood there is kept alive by the other grids
that refer to it. -/
def replaceRow (heap : PackedHeap) (a index : Nat) (row : PackedRow) : PackedHeap :=
  match heap.grids.value a with
  | none => heap
  | some object =>
    match object.rowData[index]? with
    | none => heap
    | some old =>
      { grids := heap.grids.write a
          (object.withRows (object.rowData.set index heap.rows.next))
        rows := (heap.rows.alloc row).release old }

/-- The table after `StyleIndex` appended to it. -/
def setStyles (heap : PackedHeap) (a : Nat) (styles : List PackedStyle) : PackedHeap :=
  match heap.grids.value a with
  | none => heap
  | some object => heap.writeGrid a { object with styles := styles }

/-- `EnsurePackedGrid` on the grid at `a`. A grid of another size gets new rows, and its old ones
lose a reference. -/
def ensurePackedGrid (heap : PackedHeap) (a columns rows : Nat) : PackedHeap :=
  match heap.grids.value a with
  | none => heap
  | some object =>
    let styles := if object.styles.isEmpty then [{}] else object.styles
    if object.columns = columns ∧ object.rows = rows ∧ object.rowData.length = rows then
      heap.writeGrid a { object with styles := styles }
    else
      let heap := (heap.writeGrid a
        { object with columns := columns, rows := rows, styles := styles }).assignRows a []
      (List.range rows).foldl (fun heap _ => heap.pushRow a (blankRow columns)) heap

/-- One turn of the loop of `RotatePackedRows`: the rows and the vector `rotated` so far. -/
def rotateRow (object : SharedGrid) (delta : Int) (state : SharedHeap PackedRow × List Nat)
    (row : Nat) : SharedHeap PackedRow × List Nat :=
  let source := (row : Int) + delta
  let blank := (state.1.alloc (blankRow object.columns), state.2 ++ [state.1.next])
  if 0 ≤ source ∧ source < object.rows then
    match object.rowData[source.toNat]? with
    | none => blank
    | some pointer => (state.1.retain pointer, state.2 ++ [pointer])
  else blank

/-- `RotatePackedRows` on the grid at `a`: the vector `rotated` is built first and then assigned. -/
def rotatePackedRows (heap : PackedHeap) (a : Nat) (delta : Int) : PackedHeap :=
  match heap.grids.value a with
  | none => heap
  | some object =>
    if delta = 0 ∨ object.rows = 0 then heap
    else
      let (rows, rotated) := (List.range object.rows).foldl (rotateRow object delta) (heap.rows, [])
      { heap with rows := rows }.assignRows a rotated

/-- One turn of the outer loop of `RebuildPackedRows`. A row that has changes is replaced by a new
one. -/
def rebuildGroup (changedText : List UInt8) (a : Nat) (heap : PackedHeap)
    (group : List PackedChangedCell) : PackedHeap :=
  match group with
  | [] => heap
  | change :: _ =>
    match heap.readGrid a with
    | none => heap
    | some grid =>
      heap.replaceRow a change.row
        (rebuildRow grid.columns grid.rowData[change.row]? changedText group)

/-- `RebuildPackedRows` on the grid at `a`. -/
def rebuildPackedRows (heap : PackedHeap) (a : Nat) (changes : List PackedChangedCell)
    (changedText : List UInt8) : PackedHeap :=
  (changeGroups changes).foldl (rebuildGroup changedText a) heap

/-! ## Pointers to grids -/

/-- `make_shared<PackedGrid>(*pointer)`, at the address `grids.next`. -/
def copyGrid (heap : PackedHeap) (a : Nat) : PackedHeap :=
  match heap.grids.value a with
  | none => heap
  | some object =>
    { grids := heap.grids.alloc object
      rows := heap.rows.retainAll object.rowData }

/-- A pointer to a grid is copied. -/
def retainGrid (heap : PackedHeap) (a : Nat) : PackedHeap :=
  { heap with grids := heap.grids.retain a }

/-- A pointer to a grid is dropped; the last one frees the grid and drops its rows. -/
def releaseGrid (heap : PackedHeap) (a : Nat) : PackedHeap :=
  match heap.grids.value a with
  | none => heap
  | some object =>
    { grids := heap.grids.release a
      rows := if heap.grids.useCount a ≤ 1 then heap.rows.releaseAll object.rowData else heap.rows }

/-- The beginning of `TakePackedFrame`: the cache gets a grid of its own if it has none or shares
it. A use count of 1 means that no frame refers to the cached grid. -/
def ownCache (heap : PackedHeap) (cache : Option Nat) : PackedHeap × Nat :=
  match cache with
  | none => ({ heap with grids := heap.grids.alloc {} }, heap.grids.next)
  | some a =>
    -- `use_count() > 1`: some frame still shows the grid, so it is copied before anything is
    -- changed
    if heap.grids.useCount a > 1 then ((heap.copyGrid a).releaseGrid a, heap.grids.next)
    else (heap, a)

/-! ## What a grid holds -/

variable {heap : PackedHeap}

/-- Rows are read if every pointer leads to one, in order. -/
theorem readRows_eq_some {pointers : List Nat} {rows : List PackedRow} :
    heap.readRows pointers = some rows ↔ pointers.map heap.rows.value = rows.map some := by
  induction pointers generalizing rows with
  | nil =>
    cases rows with
    | nil => exact ⟨fun _ => rfl, fun _ => rfl⟩
    | cons row rows => exact ⟨fun h => (by cases h), fun h => (by cases h)⟩
  | cons pointer pointers ih =>
    rw [readRows]
    constructor
    · intro h
      split at h
      next row rest hrow hrest =>
        cases h
        rw [List.map_cons, List.map_cons, hrow, ih.mp hrest]
      next => contradiction
    · intro h
      cases rows with
      | nil => contradiction
      | cons row rows =>
        rw [List.map_cons, List.map_cons, List.cons.injEq] at h
        rw [h.1, ih.mpr h.2]

/-- The object at `a` and the value it stands for. The rows are compared as values, and two pointers
may lead to equal rows. -/
structure Holds (heap : PackedHeap) (a : Nat) (object : SharedGrid) (grid : PackedGrid) : Prop where
  found : heap.grids.value a = some object
  columns : object.columns = grid.columns
  rows : object.rows = grid.rows
  styles : object.styles = grid.styles
  rowData : object.rowData.map heap.rows.value = grid.rowData.map some

/-- A grid is read if its object is there and all of its rows are. -/
theorem readGrid_eq_some {a : Nat} {grid : PackedGrid} :
    heap.readGrid a = some grid ↔ ∃ object, heap.Holds a object grid := by
  rw [readGrid]
  constructor
  · intro h
    split at h
    next => contradiction
    next object hobject =>
      obtain ⟨rows, hrows, rfl⟩ := Option.map_eq_some_iff.mp h
      exact ⟨object, hobject, rfl, rfl, rfl, readRows_eq_some.mp hrows⟩
  · rintro ⟨object, hobject, hcolumns, hrows, hstyles, hrowData⟩
    rw [hobject]
    dsimp only
    rw [readRows_eq_some.mpr hrowData, hcolumns, hrows, hstyles]
    rfl

theorem Holds.length_rowData {a : Nat} {object : SharedGrid} {grid : PackedGrid}
    (h : heap.Holds a object grid) : object.rowData.length = grid.rowData.length := by
  have hlength := congrArg List.length h.rowData
  rw [List.length_map, List.length_map] at hlength
  exact hlength

/-- A grid reads the same if its object and the rows it refers to are the same. -/
theorem readGrid_congr {heap' : PackedHeap} {b : Nat}
    (hobject : heap'.grids.value b = heap.grids.value b)
    (hrows : ∀ object, heap.grids.value b = some object → ∀ pointer ∈ object.rowData,
      heap'.rows.value pointer = heap.rows.value pointer) :
    heap'.readGrid b = heap.readGrid b := by
  have hread : ∀ pointers : List Nat,
      (∀ pointer ∈ pointers, heap'.rows.value pointer = heap.rows.value pointer) →
        heap'.readRows pointers = heap.readRows pointers := by
    intro pointers hsame
    -- the rows are read one by one, each through its own pointer
    induction pointers with
    | nil => rfl
    | cons pointer pointers ih =>
      rw [readRows, readRows, hsame pointer List.mem_cons_self,
        ih fun other hother => hsame other (List.mem_cons_of_mem pointer hother)]
  simp only [readGrid]
  rw [hobject]
  split
  next => rfl
  next object hcase => rw [hread object.rowData (hrows object hcase)]

/-! ## The sharing invariant -/

/-- The use counts are right for the pointers `owners` to grids, the pointers to rows in the grids,
and the pointers `temps` to rows in local variables. The two kinds of objects are counted
separately, since only grids refer to rows. -/
structure Counted (heap : PackedHeap) (owners temps : Multiset Nat) : Prop where
  grids : heap.grids.Counted owners
  rows : heap.rows.Counted (heap.grids.references rowRefs + temps)

theorem Counted.empty : ({} : PackedHeap).Counted 0 0 := ⟨.empty, .empty⟩

/-- No pointer dangles. -/
theorem Counted.exists_readGrid {owners temps : Multiset Nat} (h : heap.Counted owners temps)
    {a : Nat} (ha : a ∈ owners) : ∃ grid, heap.readGrid a = some grid := by
  obtain ⟨object, hobject⟩ := h.grids.exists_value ha
  -- what a live grid refers to is counted, so it is alive
  have hrow : ∀ pointer ∈ object.rowData, ∃ row, heap.rows.value pointer = some row := by
    intro pointer hpointer
    apply h.rows.exists_value
    exact Multiset.mem_add.mpr (.inl (SharedHeap.mem_references hobject hpointer))
  have hrows : ∀ pointers : List Nat,
      (∀ pointer ∈ pointers, ∃ row, heap.rows.value pointer = some row) →
        ∃ rows, heap.readRows pointers = some rows := by
    intro pointers hvalues
    induction pointers with
    | nil => exact ⟨[], rfl⟩
    | cons pointer pointers ih =>
      obtain ⟨row, hvalue⟩ := hvalues pointer List.mem_cons_self
      obtain ⟨rows, hrest⟩ :=
        ih fun other hother => hvalues other (List.mem_cons_of_mem pointer hother)
      refine ⟨row :: rows, ?_⟩
      rw [readRows, hvalue, hrest]
  obtain ⟨rows, hread⟩ := hrows object.rowData hrow
  rw [readGrid, hobject]
  dsimp only
  rw [hread]
  exact ⟨_, rfl⟩

/-- What a function that changes the grid `a` in place does: `a` holds `grid` afterwards, and no
other grid reads differently. Both the table and the rows of `a` may change. -/
structure Updates (a : Nat) (owners temps : Multiset Nat) (heap heap' : PackedHeap)
    (grid : PackedGrid) : Prop where
  counted : heap'.Counted owners temps
  holds : heap'.readGrid a = some grid
  others : ∀ b, b ≠ a → heap'.readGrid b = heap.readGrid b

section updates

variable {a : Nat} {owners temps : Multiset Nat} {grid : PackedGrid} {object : SharedGrid}

theorem Updates.refl (hcounted : heap.Counted owners temps) (hread : heap.readGrid a = some grid) :
    Updates a owners temps heap heap grid := ⟨hcounted, hread, fun _ _ => rfl⟩

theorem Updates.trans {heap' heap'' : PackedHeap} {grid' : PackedGrid}
    {temps' : Multiset Nat} (h : Updates a owners temps heap heap' grid)
    (h' : Updates a owners temps' heap' heap'' grid') :
    Updates a owners temps' heap heap'' grid' where
  counted := h'.counted
  holds := h'.holds
  others := fun b hb => (h'.others b hb).trans (h.others b hb)

/-- Members other than `row_data`. -/
theorem Holds.writeGrid (h : heap.Holds a object grid) (hcounted : heap.Counted owners temps)
    (columns rows : Nat) (styles : List PackedStyle) :
    Updates a owners temps heap
      (heap.writeGrid a
        { object with columns := columns, rows := rows, styles := styles })
      { grid with columns := columns, rows := rows, styles := styles } where
  counted := by
    refine ⟨hcounted.grids.write _ _, ?_⟩
    have hrefs := SharedHeap.references_write (f := rowRefs) h.found
      { object with columns := columns, rows := rows, styles := styles }
    change (heap.writeGrid _ _).rows.Counted ((heap.grids.write _ _).references rowRefs + temps)
    rw [add_left_cancel hrefs]
    exact hcounted.rows
  holds := by
    rw [readGrid_eq_some]
    exact ⟨_, SharedHeap.value_write_self h.found _, rfl, rfl, rfl, h.rowData⟩
  others := by
    intro b hb
    apply readGrid_congr
    · exact SharedHeap.value_write_ne hb _
    · intro _ _ _ _
      rfl

/-- The vector takes over the references of `pointers`. -/
theorem Holds.assignRows (h : heap.Holds a object grid) (pointers : List Nat)
    (rowData : List PackedRow) (hcounted : heap.Counted owners (↑pointers + temps))
    (hpointers : pointers.map heap.rows.value = rowData.map some) :
    Updates a owners temps heap (heap.assignRows a pointers)
      { grid with rowData := rowData } := by
  have hassign : heap.assignRows a pointers =
      { grids := heap.grids.write a (object.withRows pointers)
        rows := heap.rows.releaseAll object.rowData } := by
    rw [PackedHeap.assignRows, h.found]
  have hrefs : ↑object.rowData + (heap.grids.write a _).references rowRefs =
      ↑pointers + heap.grids.references rowRefs :=
    SharedHeap.references_write (f := rowRefs) h.found (object.withRows pointers)
  -- after the write the old vector's references are on the stack of `releaseAll`
  have hold : heap.rows.Counted (↑object.rowData +
      ((heap.grids.write a (object.withRows pointers)).references rowRefs + temps)) := by
    rw [← add_assoc, hrefs, add_comm (pointers : Multiset Nat), add_assoc]
    exact hcounted.rows
  have hself : (heap.grids.write a (object.withRows pointers)).value a =
      some (object.withRows pointers) := SharedHeap.value_write_self h.found _
  -- rows that any grid still refers to survive the release
  have kept : ∀ b object', (heap.grids.write a (object.withRows pointers)).value b =
      some object' → ∀ pointer ∈ object'.rowData,
        (heap.rows.releaseAll object.rowData).value pointer = heap.rows.value pointer := by
    intro b object' hvalue pointer hpointer
    apply hold.value_releaseAll
    exact Multiset.mem_add.mpr (.inl (SharedHeap.mem_references hvalue hpointer))
  rw [hassign]
  constructor
  case counted => exact ⟨hcounted.grids.write _ _, hold.releaseAll⟩
  case holds =>
    rw [readGrid_eq_some]
    refine ⟨_, hself, h.columns, h.rows, h.styles, ?_⟩
    rw [← hpointers]
    apply List.map_congr_left
    exact kept a _ hself
  case others =>
    intro b hb
    have hvalue : (heap.grids.write a (object.withRows pointers)).value b =
        heap.grids.value b := SharedHeap.value_write_ne hb _
    apply readGrid_congr hvalue
    intro object' hobject'
    exact kept b object' (hvalue.trans hobject')

/-- What a grid refers to is older than a new row. -/
theorem Counted.value_alloc (hcounted : heap.Counted owners temps) (row : PackedRow) {b : Nat}
    {other : SharedGrid} (hother : heap.grids.value b = some other) {pointer : Nat}
    (hpointer : pointer ∈ other.rowData) :
    (heap.rows.alloc row).value pointer = heap.rows.value pointer := by
  apply SharedHeap.value_alloc_ne
  rintro rfl
  apply hcounted.rows.next_notMem
  exact Multiset.mem_add.mpr (.inl (SharedHeap.mem_references hother hpointer))

/-- A new row is referred to by the one pointer that was pushed, so the counts stay right. -/
theorem Holds.pushRow (h : heap.Holds a object grid) (hcounted : heap.Counted owners temps)
    (row : PackedRow) :
    Updates a owners temps heap (heap.pushRow a row)
      { grid with rowData := grid.rowData ++ [row] } := by
  have hpush : heap.pushRow a row =
      { grids := heap.grids.write a (object.withRows (object.rowData ++ [heap.rows.next]))
        rows := heap.rows.alloc row } := by
    rw [PackedHeap.pushRow, h.found]
  have hrefs : ↑object.rowData + (heap.grids.write a _).references rowRefs =
      ↑(object.rowData ++ [heap.rows.next]) + heap.grids.references rowRefs :=
    SharedHeap.references_write (f := rowRefs) h.found
      (object.withRows (object.rowData ++ [heap.rows.next]))
  rw [← Multiset.coe_add, add_assoc] at hrefs
  -- the only new reference from a grid is the one to the new row
  have hpush_refs := add_left_cancel hrefs
  have hself : (heap.grids.write a
      (object.withRows (object.rowData ++ [heap.rows.next]))).value a =
      some (object.withRows (object.rowData ++ [heap.rows.next])) :=
    SharedHeap.value_write_self h.found _
  rw [hpush]
  constructor
  case counted =>
    refine ⟨hcounted.grids.write _ _, ?_⟩
    have halloc := hcounted.rows.alloc row
    rw [← Multiset.singleton_add, ← add_assoc] at halloc
    rw [hpush_refs]
    exact halloc
  case holds =>
    rw [readGrid_eq_some]
    refine ⟨_, hself, h.columns, h.rows, h.styles, ?_⟩
    change (object.rowData ++ [heap.rows.next]).map (heap.rows.alloc row).value =
      (grid.rowData ++ [row]).map some
    rw [List.map_append, List.map_append, ← h.rowData, List.map_singleton,
      SharedHeap.value_alloc_self,
      List.map_congr_left fun _ hpointer => hcounted.value_alloc row h.found hpointer]
    rfl
  case others =>
    intro b hb
    apply readGrid_congr (SharedHeap.value_write_ne hb _)
    exact fun _ hother _ hpointer => hcounted.value_alloc row hother hpointer

/-- A vector with another element refers to the new one in place of the old one. -/
theorem cons_set_eq_cons {pointers : List Nat} {index old : Nat}
    (hold : pointers[index]? = some old) (new : Nat) :
    old ::ₘ (↑(pointers.set index new) : Multiset Nat) = new ::ₘ ↑pointers := by
  induction pointers generalizing index with
  | nil => contradiction
  | cons first rest ih =>
    cases index with
    | zero =>
      cases hold
      change old ::ₘ new ::ₘ (rest : Multiset Nat) = new ::ₘ old ::ₘ (rest : Multiset Nat)
      exact Multiset.cons_swap _ _ _
    | succ index =>
      rw [List.set_cons_succ, ← Multiset.cons_coe, ← Multiset.cons_coe, Multiset.cons_swap,
        ih hold, Multiset.cons_swap]

/-- The vector has one pointer more to the new row and one less to the old one, which is freed only
if nobody else refers to it. -/
theorem Holds.replaceRow (h : heap.Holds a object grid) (hcounted : heap.Counted owners temps)
    (index : Nat) (row : PackedRow) :
    Updates a owners temps heap (heap.replaceRow a index row)
      { grid with rowData := grid.rowData.set index row } := by
  cases hold : object.rowData[index]? with
  | none =>
    have hreplace : heap.replaceRow a index row = heap := by
      rw [PackedHeap.replaceRow, h.found]
      dsimp only
      rw [hold]
    have hle : grid.rowData.length ≤ index := by
      rw [← h.length_rowData]
      exact List.getElem?_eq_none_iff.mp hold
    rw [hreplace, List.set_eq_of_length_le hle]
    exact .refl hcounted (readGrid_eq_some.mpr ⟨object, h⟩)
  | some old =>
    let changed := object.withRows (object.rowData.set index heap.rows.next)
    have hreplace : heap.replaceRow a index row =
        { grids := heap.grids.write a changed
          rows := (heap.rows.alloc row).release old } := by
      rw [PackedHeap.replaceRow, h.found]
      dsimp only
      rw [hold]
    have hrefs : ↑object.rowData + (heap.grids.write a _).references rowRefs =
        ↑(object.rowData.set index heap.rows.next) + heap.grids.references rowRefs :=
      SharedHeap.references_write (f := rowRefs) h.found changed
    -- the grid exchanges one reference, the old row's for the new row's
    have hexchange : old ::ₘ (heap.grids.write a changed).references rowRefs =
        heap.rows.next ::ₘ heap.grids.references rowRefs := by
      apply add_left_cancel (a := (↑object.rowData : Multiset Nat))
      rw [Multiset.add_cons, hrefs, ← Multiset.cons_add, cons_set_eq_cons hold, Multiset.cons_add,
        Multiset.add_cons]
    have hself : (heap.grids.write a changed).value a = some changed :=
      SharedHeap.value_write_self h.found _
    have halloc : (heap.rows.alloc row).Counted
        (old ::ₘ ((heap.grids.write a changed).references rowRefs + temps)) := by
      rw [← Multiset.cons_add, hexchange, Multiset.cons_add]
      exact hcounted.rows.alloc row
    -- the old row is released, but what is still referred to stays
    have kept : ∀ b object', (heap.grids.write a changed).value b = some object' →
        ∀ pointer ∈ object'.rowData, ((heap.rows.alloc row).release old).value pointer =
          (heap.rows.alloc row).value pointer := by
      intro b object' hvalue pointer hpointer
      apply halloc.value_release
      exact Multiset.mem_add.mpr (.inl (SharedHeap.mem_references hvalue hpointer))
    rw [hreplace]
    constructor
    case counted => exact ⟨hcounted.grids.write _ _, halloc.release⟩
    case holds =>
      rw [readGrid_eq_some]
      refine ⟨_, hself, h.columns, h.rows, h.styles, ?_⟩
      rw [List.map_congr_left (kept a _ hself)]
      change (object.rowData.set index heap.rows.next).map (heap.rows.alloc row).value =
        (grid.rowData.set index row).map some
      rw [List.map_set, List.map_set, ← h.rowData, SharedHeap.value_alloc_self,
        List.map_congr_left fun _ hpointer => hcounted.value_alloc row h.found hpointer]
    case others =>
      intro b hb
      have hvalue : (heap.grids.write a changed).value b = heap.grids.value b :=
        SharedHeap.value_write_ne hb _
      apply readGrid_congr hvalue
      intro object' hobject' pointer hpointer
      rw [kept b object' (hvalue.trans hobject') pointer hpointer,
        hcounted.value_alloc row hobject' hpointer]

/-! ## The functions on grids -/

theorem updates_setStyles (hcounted : heap.Counted owners temps)
    (hread : heap.readGrid a = some grid) (styles : List PackedStyle) :
    Updates a owners temps heap (heap.setStyles a styles) { grid with styles := styles } := by
  obtain ⟨object, h⟩ := readGrid_eq_some.mp hread
  have hset : heap.setStyles a styles = heap.writeGrid a
      { object with columns := object.columns, rows := object.rows, styles := styles } := by
    rw [PackedHeap.setStyles, h.found]
  rw [hset]
  have hupdates := h.writeGrid hcounted object.columns object.rows styles
  rw [h.columns, h.rows] at hupdates ⊢
  exact hupdates

/-- Several new rows, by induction on their number. -/
theorem updates_pushRows (hcounted : heap.Counted owners temps)
    (hread : heap.readGrid a = some grid) (row : PackedRow) (count : Nat) :
    Updates a owners temps heap ((List.range count).foldl (fun heap _ => heap.pushRow a row) heap)
      { grid with rowData := grid.rowData ++ List.replicate count row } := by
  induction count with
  | zero =>
    rw [List.replicate_zero, List.append_nil]
    exact .refl hcounted hread
  | succ count ih =>
    rw [List.range_succ, List.foldl_append, List.replicate_succ', ← List.append_assoc]
    obtain ⟨object, h⟩ := readGrid_eq_some.mp ih.holds
    exact ih.trans (h.pushRow ih.counted row)

/-- `EnsurePackedGrid` in place: nothing happens to the rows, or all of them are new. -/
theorem updates_ensurePackedGrid (hcounted : heap.Counted owners temps)
    (hread : heap.readGrid a = some grid) (columns rows : Nat) :
    Updates a owners temps heap (heap.ensurePackedGrid a columns rows)
      (Core.ensurePackedGrid grid columns rows) := by
  obtain ⟨object, h⟩ := readGrid_eq_some.mp hread
  rw [PackedHeap.ensurePackedGrid, Core.ensurePackedGrid, h.found]
  dsimp only
  rw [h.styles, h.columns, h.rows, h.length_rowData]
  by_cases hsame : grid.columns = columns ∧ grid.rows = rows ∧ grid.rowData.length = rows
  · rw [if_pos hsame, if_pos hsame]
    have hupdates := h.writeGrid hcounted object.columns object.rows
      (if grid.styles.isEmpty then [{}] else grid.styles)
    rw [h.columns, h.rows] at hupdates
    exact hupdates
  · rw [if_neg hsame, if_neg hsame]
    -- another size: the members are written, the vector is cleared, and blank rows are pushed
    have hsized := h.writeGrid hcounted columns rows
      (if grid.styles.isEmpty then [{}] else grid.styles)
    obtain ⟨sized, hholds⟩ := readGrid_eq_some.mp hsized.holds
    have hempty := hsized.counted
    rw [← zero_add temps, ← Multiset.coe_nil] at hempty
    have hcleared := hholds.assignRows [] [] hempty rfl
    have hpushed := updates_pushRows hcleared.counted hcleared.holds (blankRow columns) rows
    exact hsized.trans (hcleared.trans hpushed)

/-- The loop invariant of `RotatePackedRows`: `rotated` holds a reference to each of its rows. -/
structure Rotated (heap : PackedHeap) (temps : Multiset Nat)
    (state : SharedHeap PackedRow × List Nat) (rotated : List PackedRow) : Prop where
  counted : state.1.Counted (↑state.2 + (heap.grids.references rowRefs + temps))
  older : ∀ pointer row, heap.rows.value pointer = some row → state.1.value pointer = some row
  reads : state.2.map state.1.value = rotated.map some

namespace Rotated

variable {state : SharedHeap PackedRow × List Nat} {rotated : List PackedRow}

/-- A new row. -/
theorem push (h : Rotated heap temps state rotated) (row : PackedRow) :
    Rotated heap temps (state.1.alloc row, state.2 ++ [state.1.next]) (rotated ++ [row]) where
  counted := by
    have halloc := h.counted.alloc row
    rw [← Multiset.singleton_add, ← add_assoc, add_comm ({state.1.next} : Multiset Nat)] at halloc
    rw [← Multiset.coe_add]
    exact halloc
  older := by
    intro pointer old hvalue
    exact SharedHeap.value_alloc_of_some (h.older pointer old hvalue) row
  reads := by
    have hsame : ∀ pointer ∈ state.2,
        (state.1.alloc row).value pointer = state.1.value pointer := by
      intro pointer hpointer
      apply SharedHeap.value_alloc_ne
      rintro rfl
      exact h.counted.next_notMem (Multiset.mem_add.mpr (.inl hpointer))
    rw [List.map_append, List.map_append, List.map_congr_left hsame, h.reads, List.map_singleton,
      List.map_singleton, SharedHeap.value_alloc_self]

/-- One more pointer to an old row. -/
theorem share (h : Rotated heap temps state rotated) {pointer : Nat} {row : PackedRow}
    (hpointer : pointer ∈ heap.grids.references rowRefs)
    (hvalue : heap.rows.value pointer = some row) :
    Rotated heap temps (state.1.retain pointer, state.2 ++ [pointer]) (rotated ++ [row]) where
  counted := by
    have hretain := h.counted.retain
      (Multiset.mem_add.mpr (.inr (Multiset.mem_add.mpr (.inl hpointer))))
    rw [← Multiset.singleton_add, ← add_assoc, add_comm ({pointer} : Multiset Nat)] at hretain
    rw [← Multiset.coe_add]
    exact hretain
  older := by
    intro other old hother
    rw [SharedHeap.value_retain]
    exact h.older other old hother
  reads := by
    have hsame : ∀ other ∈ state.2, (state.1.retain pointer).value other = state.1.value other :=
      fun other _ => SharedHeap.value_retain pointer other
    rw [List.map_append, List.map_append, List.map_congr_left hsame, h.reads, List.map_singleton,
      List.map_singleton, SharedHeap.value_retain, h.older pointer row hvalue]

/-- One turn of the loop. -/
theorem rotateRow (h : Rotated heap temps state rotated) (hholds : heap.Holds a object grid)
    (delta : Int) (row : Nat) :
    Rotated heap temps (rotateRow object delta state row)
      (rotated ++ [rotatedRow grid delta row]) := by
  unfold PackedHeap.rotateRow rotatedRow
  dsimp only
  rw [hholds.rows, hholds.columns]
  by_cases hrange : 0 ≤ (row : Int) + delta ∧ (row : Int) + delta < grid.rows
  · rw [if_pos hrange, if_pos hrange]
    have hsource : (object.rowData[((row : Int) + delta).toNat]?).map heap.rows.value =
        (grid.rowData[((row : Int) + delta).toNat]?).map some := by
      rw [← List.getElem?_map, ← List.getElem?_map, hholds.rowData]
    cases hpointer : object.rowData[((row : Int) + delta).toNat]? with
    | none =>
      rw [hpointer] at hsource
      rw [Option.map_eq_none_iff.mp hsource.symm]
      exact h.push _
    | some pointer =>
      rw [hpointer] at hsource
      obtain ⟨source, hrow, hvalue⟩ := Option.map_eq_some_iff.mp hsource.symm
      rw [hrow]
      apply h.share _ hvalue.symm
      exact SharedHeap.mem_references hholds.found (List.mem_of_getElem? hpointer)
  · rw [if_neg hrange, if_neg hrange]
    exact h.push _

/-- The whole loop, by induction on the number of its turns. -/
theorem foldl (hholds : heap.Holds a object grid) (hcounted : heap.Counted owners temps)
    (delta : Int) (count : Nat) :
    Rotated heap temps
      ((List.range count).foldl (PackedHeap.rotateRow object delta) (heap.rows, []))
      ((List.range count).map (rotatedRow grid delta)) := by
  induction count with
  | zero =>
    refine ⟨?_, fun _ _ hvalue => hvalue, rfl⟩
    change heap.rows.Counted (0 + _)
    rw [zero_add]
    exact hcounted.rows
  | succ count ih =>
    rw [List.range_succ, List.foldl_append, List.map_append]
    exact ih.rotateRow hholds delta count

end Rotated

/-- `RotatePackedRows` in place. When `rotated` is assigned, the vector that is dropped gives back
the references of the rows which were not kept. -/
theorem updates_rotatePackedRows (hcounted : heap.Counted owners temps)
    (hread : heap.readGrid a = some grid) (delta : Int) :
    Updates a owners temps heap (heap.rotatePackedRows a delta)
      (Core.rotatePackedRows grid delta) := by
  obtain ⟨object, h⟩ := readGrid_eq_some.mp hread
  rw [PackedHeap.rotatePackedRows, Core.rotatePackedRows, h.found]
  dsimp only
  by_cases hstay : delta = 0 ∨ object.rows = 0
  · rw [if_pos hstay, if_pos (h.rows ▸ hstay)]
    exact .refl hcounted hread
  · rw [if_neg hstay, if_neg (h.rows ▸ hstay), h.rows]
    have hrotated := Rotated.foldl h hcounted delta grid.rows
    generalize (List.range grid.rows).foldl (PackedHeap.rotateRow object delta) (heap.rows, []) =
      state at hrotated ⊢
    -- with the vector still apart, the heap reads as before
    have hsame : ∀ b,
        ({ heap with rows := state.1 } : PackedHeap).readGrid b = heap.readGrid b := by
      intro b
      refine readGrid_congr rfl ?_
      intro other hother pointer hpointer
      obtain ⟨row, hrow⟩ := hcounted.rows.exists_value
        (Multiset.mem_add.mpr (.inl (SharedHeap.mem_references hother hpointer)))
      rw [hrow]
      exact hrotated.older pointer row hrow
    obtain ⟨object', h'⟩ := readGrid_eq_some.mp ((hsame a).trans hread)
    have hsum : state.1.Counted (heap.grids.references rowRefs + (↑state.2 + temps)) := by
      rw [add_left_comm]
      exact hrotated.counted
    -- moving the vector into the grid hands its references over
    have hassigned := h'.assignRows state.2 _ ⟨hcounted.grids, hsum⟩ hrotated.reads
    exact ⟨hassigned.counted, hassigned.holds, fun b hb => (hassigned.others b hb).trans (hsame b)⟩

/-- One row with changes is replaced by the row that the function on values builds. -/
theorem updates_rebuildGroup (hcounted : heap.Counted owners temps)
    (hread : heap.readGrid a = some grid) (changedText : List UInt8)
    (group : List PackedChangedCell) :
    Updates a owners temps heap (rebuildGroup changedText a heap group)
      (Core.rebuildGroup changedText grid group) := by
  cases group with
  | nil => exact .refl hcounted hread
  | cons change changes =>
    obtain ⟨object, h⟩ := readGrid_eq_some.mp hread
    unfold PackedHeap.rebuildGroup
    dsimp only
    rw [hread]
    exact h.replaceRow hcounted _ _

/-- `RebuildPackedRows` in place, by induction on the rows with changes. -/
theorem updates_rebuildPackedRows (hcounted : heap.Counted owners temps)
    (hread : heap.readGrid a = some grid) (changes : List PackedChangedCell)
    (changedText : List UInt8) :
    Updates a owners temps heap (heap.rebuildPackedRows a changes changedText)
      (Core.rebuildPackedRows grid changes changedText) := by
  rw [PackedHeap.rebuildPackedRows, Core.rebuildPackedRows]
  generalize changeGroups changes = groups
  induction groups generalizing heap grid with
  | nil => exact .refl hcounted hread
  | cons group groups ih =>
    have hgroup := updates_rebuildGroup hcounted hread changedText group
    exact hgroup.trans (ih hgroup.counted hgroup.holds)

end updates

/-! ## Pointers to grids -/

section owners

variable {a : Nat} {owners : Multiset Nat}

theorem counted_retainGrid (hcounted : heap.Counted owners 0) (ha : a ∈ owners) :
    (heap.retainGrid a).Counted (a ::ₘ owners) 0 := by
  refine ⟨hcounted.grids.retain ha, ?_⟩
  change heap.rows.Counted ((heap.grids.retain a).references rowRefs + 0)
  rw [SharedHeap.references_retain]
  exact hcounted.rows

theorem readGrid_retainGrid (heap : PackedHeap) (a b : Nat) :
    (heap.retainGrid a).readGrid b = heap.readGrid b := by
  apply readGrid_congr
  · exact SharedHeap.value_retain a b
  · intro _ _ _ _
    rfl

/-- Dropping a pointer keeps what the other pointers lead to. -/
theorem releaseGrid_spec (hcounted : heap.Counted (a ::ₘ owners) 0) :
    (heap.releaseGrid a).Counted owners 0 ∧
      ∀ b ∈ owners, (heap.releaseGrid a).readGrid b = heap.readGrid b := by
  obtain ⟨object, hobject⟩ := hcounted.grids.exists_value (Multiset.mem_cons_self a owners)
  have hcount : heap.grids.useCount a = owners.count a + 1 := by
    rw [hcounted.grids a, Multiset.count_cons_self]
  have hgrids := hcounted.grids.release
  have hvalue : ∀ b ∈ owners, (heap.grids.release a).value b = heap.grids.value b :=
    fun b hb => hcounted.grids.value_release hb
  by_cases hlast : heap.grids.useCount a ≤ 1
  · -- the last pointer: the grid is freed, and its rows lose one reference each
    have hrelease : heap.releaseGrid a =
        { grids := heap.grids.release a, rows := heap.rows.releaseAll object.rowData } := by
      rw [PackedHeap.releaseGrid, hobject]
      dsimp only
      rw [if_pos hlast]
    have hone : heap.grids.useCount a = 1 := by omega
    have hrefs : ↑object.rowData + (heap.grids.release a).references rowRefs =
        heap.grids.references rowRefs :=
      SharedHeap.references_release_of_eq (f := rowRefs) hobject hone
    have hrows : heap.rows.Counted (↑object.rowData +
        ((heap.grids.release a).references rowRefs + 0)) := by
      rw [← add_assoc, hrefs]
      exact hcounted.rows
    rw [hrelease]
    refine ⟨⟨hgrids, hrows.releaseAll⟩, ?_⟩
    intro b hb
    apply readGrid_congr (hvalue b hb)
    intro other hother pointer hpointer
    apply hrows.value_releaseAll
    exact Multiset.mem_add.mpr
      (.inl (SharedHeap.mem_references ((hvalue b hb).trans hother) hpointer))
  · have hrelease : heap.releaseGrid a = { grids := heap.grids.release a, rows := heap.rows } := by
      rw [PackedHeap.releaseGrid, hobject]
      dsimp only
      rw [if_neg hlast]
    rw [hrelease]
    refine ⟨⟨hgrids, ?_⟩, ?_⟩
    · change heap.rows.Counted ((heap.grids.release a).references rowRefs + 0)
      rw [SharedHeap.references_release_of_lt (Nat.lt_of_not_le hlast)]
      exact hcounted.rows
    · intro b hb
      exact readGrid_congr (hvalue b hb) fun _ _ _ _ => rfl

/-- A copy of a grid refers to the same rows. -/
theorem copyGrid_spec (hcounted : heap.Counted owners 0) {grid : PackedGrid}
    (hread : heap.readGrid a = some grid) :
    (heap.copyGrid a).Counted (heap.grids.next ::ₘ owners) 0 ∧
      (heap.copyGrid a).readGrid heap.grids.next = some grid ∧
      ∀ b, b ≠ heap.grids.next → (heap.copyGrid a).readGrid b = heap.readGrid b := by
  obtain ⟨object, h⟩ := readGrid_eq_some.mp hread
  have hcopy : heap.copyGrid a =
      { grids := heap.grids.alloc object, rows := heap.rows.retainAll object.rowData } := by
    rw [PackedHeap.copyGrid, h.found]
  rw [hcopy]
  refine ⟨⟨hcounted.grids.alloc object, ?_⟩, ?_, ?_⟩
  · change (heap.rows.retainAll _).Counted ((heap.grids.alloc object).references rowRefs + 0)
    have hretain := hcounted.rows.retainAll object.rowData fun pointer hpointer =>
      Multiset.mem_add.mpr (.inl (SharedHeap.mem_references h.found hpointer))
    rw [SharedHeap.references_alloc, add_assoc]
    exact hretain
  · rw [readGrid_eq_some]
    refine ⟨object, SharedHeap.value_alloc_self object, h.columns, h.rows, h.styles, ?_⟩
    rw [← h.rowData]
    exact List.map_congr_left fun pointer _ => SharedHeap.value_retainAll _ pointer
  · intro b hb
    apply readGrid_congr (SharedHeap.value_alloc_ne hb object)
    exact fun _ _ pointer _ => SharedHeap.value_retainAll _ pointer

/-- The pointer the cache holds. -/
def cacheRefs (cache : Option Nat) : Multiset Nat :=
  match cache with
  | none => 0
  | some a => {a}

/-- After `ownCache` no pointer of `owners` leads to the grid of the cache, which holds what it
held, and the grids of `owners` read as before. -/
structure Owned (owners : Multiset Nat) (heap : PackedHeap) (cache : Option Nat)
    (owned : PackedHeap × Nat) : Prop where
  counted : owned.1.Counted (owned.2 ::ₘ owners) 0
  alone : owned.2 ∉ owners
  holds : owned.1.readGrid owned.2 = some ((cache.bind heap.readGrid).getD {})
  others : ∀ b ∈ owners, owned.1.readGrid b = heap.readGrid b

/-- The three cases of the source: no grid is cached, the cached one is shared and copied, or the
cache alone refers to it. -/
theorem owned_ownCache {cache : Option Nat} (hcounted : heap.Counted (cacheRefs cache + owners) 0) :
    Owned owners heap cache (heap.ownCache cache) := by
  cases cache with
  | none =>
    rw [cacheRefs, zero_add] at hcounted
    -- the first grid is empty
    have hrefs : (heap.grids.alloc {}).references rowRefs = heap.grids.references rowRefs := by
      rw [SharedHeap.references_alloc]
      exact zero_add _
    constructor
    case counted =>
      refine ⟨hcounted.grids.alloc {}, ?_⟩
      change heap.rows.Counted ((heap.grids.alloc {}).references rowRefs + 0)
      rw [hrefs]
      exact hcounted.rows
    case alone => exact hcounted.grids.next_notMem
    case holds =>
      rw [readGrid_eq_some]
      exact ⟨{}, SharedHeap.value_alloc_self _, rfl, rfl, rfl, rfl⟩
    case others =>
      intro b hb
      apply readGrid_congr
      · apply SharedHeap.value_alloc_ne
        rintro rfl
        exact hcounted.grids.next_notMem hb
      · exact fun _ _ _ _ => rfl
  | some a =>
    rw [cacheRefs, Multiset.singleton_add] at hcounted
    obtain ⟨grid, hread⟩ := hcounted.exists_readGrid (Multiset.mem_cons_self a owners)
    have hcount : heap.grids.useCount a = owners.count a + 1 := by
      rw [hcounted.grids a, Multiset.count_cons_self]
    have hcached : ((some a).bind heap.readGrid).getD {} = grid := by
      rw [Option.bind_some, hread]
      rfl
    unfold ownCache
    dsimp only
    by_cases hshared : heap.grids.useCount a > 1
    · -- shared with a frame: the cache goes over to a copy at a fresh address
      rw [if_pos hshared]
      obtain ⟨hcopy, hcopied, hsame⟩ := copyGrid_spec hcounted hread
      have hnext := hcounted.grids.next_notMem
      rw [Multiset.cons_swap] at hcopy
      obtain ⟨hreleased, hkept⟩ := releaseGrid_spec hcopy
      constructor
      case counted => exact hreleased
      case alone => exact fun hmem => hnext (Multiset.mem_cons_of_mem hmem)
      case holds =>
        rw [hcached]
        exact (hkept _ (Multiset.mem_cons_self _ _)).trans hcopied
      case others =>
        intro b hb
        have hne : b ≠ heap.grids.next := by
          rintro rfl
          exact hnext (Multiset.mem_cons_of_mem hb)
        exact (hkept b (Multiset.mem_cons_of_mem hb)).trans (hsame b hne)
    · -- the cache holds the only pointer, so no frame has the grid
      rw [if_neg hshared]
      constructor
      case counted => exact hcounted
      case alone =>
        change a ∉ owners
        rw [← Multiset.count_eq_zero]
        omega
      case holds =>
        rw [hcached]
        exact hread
      case others => exact fun _ _ => rfl

end owners

end PackedHeap

end SakuraTerminal.Core
