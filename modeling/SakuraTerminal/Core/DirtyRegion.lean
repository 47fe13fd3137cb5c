import SakuraTerminal.Core.PackedFrame

/-!
# Dirty rectangles and dirty spans

A draw collects what it repaints twice: as one rectangle (`IncludeDirty`) and as row-local spans
(`IncludeSpan`, which merges with the last span only). `RegionTracks` states that the two agree: the
spans lie inside the grid, the rectangle contains them, and one is empty exactly when the other is.
Every `Include` function keeps it, and adds the cells it is given to the spans (`SpansCover`).

The `Include` functions are modelled twice, once for the rectangle and once for the spans, for the
source keeps both in one pass. `KeptByGrow` states the step that all of them consist of: a span of
the grid is included, and the rectangle grows around it. A property that this step keeps is kept by
cells of any width (`KeptByGrow.includeCellSpan`) and by whole rows (`KeptByGrow.includeRows`), so
an invariant of the region has one step to check.
-/

set_option autoImplicit false

namespace SakuraTerminal.Core

/-- No cell is in the rectangle. -/
def dirtyEmpty (dirty : DirtyRegion) : Bool :=
  decide (dirty.left ≥ dirty.right) || decide (dirty.top ≥ dirty.bottom)

/-- The first column a cell repaints: a continuation cell repaints its lead too. -/
def cellLeft (column width : Nat) : Nat :=
  if width = 0 ∧ column > 0 then column - 1 else column

/-- The column after the last one a cell repaints. The sum does not wrap: the lines of libtsm are
shorter than the largest `unsigned int`. -/
def cellRight (column width columns : Nat) : Nat :=
  min columns (column + (if width = 0 then 2 else max 1 width))

/-- The smallest rectangle around `dirty` and the given one; an empty `dirty` is replaced. -/
def growDirty (dirty : DirtyRegion) (left top right bottom : Nat) : DirtyRegion :=
  if dirtyEmpty dirty then ⟨left, top, right, bottom⟩
  else ⟨min dirty.left left, min dirty.top top, max dirty.right right, max dirty.bottom bottom⟩

/-- `IncludeDirty`: the columns a cell of this width repaints. A cell outside of the grid changes
nothing. -/
def includeDirty (dirty : DirtyRegion) (column row width columns rows : Nat) : DirtyRegion :=
  if columns = 0 ∨ rows = 0 ∨ row ≥ rows ∨ column ≥ columns then dirty
  else growDirty dirty (cellLeft column width) row (cellRight column width columns) (row + 1)

/-- `IncludeCell`, for the cells of the cursor. -/
def includeCell (dirty : DirtyRegion) (column row columns rows : Nat) : DirtyRegion :=
  includeDirty dirty column row 1 columns rows

/-- `IncludeSpan`. A new span is compared with the last one only, since a draw goes along the
rows. -/
def includeSpan (spans : List DirtySpan) (row left right : Nat) : List DirtySpan :=
  if left ≥ right then spans
  else
    match spans.getLast? with
    | none => [⟨row, left, right⟩]
    | some previous =>
      -- a span that touches the last one in its row is merged into it
      if previous.row = row ∧ left ≤ previous.right then
        spans.dropLast ++
          [{ previous with left := min previous.left left, right := max previous.right right }]
      else spans ++ [⟨row, left, right⟩]

/-- `IncludeCellSpan`: the span of what a cell of this width repaints. -/
def includeCellSpan (spans : List DirtySpan) (column row width columns rows : Nat) :
    List DirtySpan :=
  if columns = 0 ∨ rows = 0 ∨ row ≥ rows ∨ column ≥ columns then spans
  else includeSpan spans row (cellLeft column width) (cellRight column width columns)

/-- `IncludeFullSpans`, which clears the spans first. -/
def fullSpans (columns rows : Nat) : List DirtySpan :=
  if columns = 0 then [] else (List.range rows).map fun row => ⟨row, 0, columns⟩

/-- The rectangle part of `IncludeRows`. -/
def includeRowsDirty (dirty : DirtyRegion) (top bottom columns rows : Nat) : DirtyRegion :=
  let top := min top rows
  let bottom := min bottom rows
  if columns = 0 ∨ top ≥ bottom then dirty
  else if dirtyEmpty dirty then ⟨0, top, columns, bottom⟩
  else ⟨0, min dirty.top top, max dirty.right columns, max dirty.bottom bottom⟩

/-- The span part of `IncludeRows`. -/
def includeRowsSpans (spans : List DirtySpan) (top bottom columns rows : Nat) : List DirtySpan :=
  let top := min top rows
  let bottom := min bottom rows
  if columns = 0 ∨ top ≥ bottom then spans
  else
    (List.range' top (bottom - top)).foldl (fun spans row => includeSpan spans row 0 columns) spans

/-- Cell `(column, row)` lies in one of the spans. -/
def SpansCover (spans : List DirtySpan) (column row : Nat) : Prop :=
  ∃ span ∈ spans, span.row = row ∧ span.left ≤ column ∧ column < span.right

instance (spans : List DirtySpan) (column row : Nat) : Decidable (SpansCover spans column row) :=
  inferInstanceAs (Decidable (∃ span ∈ spans, _))

/-- Cell `(column, row)` lies in the rectangle. -/
def RegionCovers (dirty : DirtyRegion) (column row : Nat) : Prop :=
  dirty.left ≤ column ∧ column < dirty.right ∧ dirty.top ≤ row ∧ row < dirty.bottom

instance (dirty : DirtyRegion) (column row : Nat) : Decidable (RegionCovers dirty column row) :=
  inferInstanceAs (Decidable (_ ∧ _))

/-- A span of the grid inside the rectangle. -/
structure SpanInside (dirty : DirtyRegion) (columns rows : Nat) (span : DirtySpan) : Prop where
  row : span.row < rows
  nonempty : span.left < span.right
  right : span.right ≤ columns
  dirtyLeft : dirty.left ≤ span.left
  dirtyRight : span.right ≤ dirty.right
  dirtyTop : dirty.top ≤ span.row
  dirtyBottom : span.row < dirty.bottom

/-- The rectangle and the spans describe one region of the grid. The frame has both, and a frontend
may use either of them. -/
structure RegionTracks (columns rows : Nat) (dirty : DirtyRegion) (spans : List DirtySpan) :
    Prop where
  inside : ∀ span ∈ spans, SpanInside dirty columns rows span
  empty : dirtyEmpty dirty = true ↔ spans = []
  right : dirty.right ≤ columns
  bottom : dirty.bottom ≤ rows

theorem dirtyEmpty_eq_false_iff {dirty : DirtyRegion} :
    dirtyEmpty dirty = false ↔ dirty.left < dirty.right ∧ dirty.top < dirty.bottom := by
  simp [dirtyEmpty]

theorem regionTracks_nil (columns rows : Nat) : RegionTracks columns rows {} [] :=
  ⟨by simp, by simp [dirtyEmpty], Nat.zero_le _, Nat.zero_le _⟩

/-! ## Cells of any width -/

theorem cellLeft_le (column width : Nat) : cellLeft column width ≤ column := by
  rw [cellLeft]
  split <;> omega

theorem lt_cellRight {column width columns : Nat} (h : column < columns) :
    column < cellRight column width columns := by
  rw [cellRight]
  split <;> omega

theorem cellRight_le (column width columns : Nat) : cellRight column width columns ≤ columns := by
  rw [cellRight]
  omega

/-! ## Spans -/

/-- What `includeSpan` does to a list of spans with a last one. -/
theorem includeSpan_concat (spans : List DirtySpan) (previous : DirtySpan) (row left right : Nat)
    (h : left < right) :
    includeSpan (spans ++ [previous]) row left right =
      if previous.row = row ∧ left ≤ previous.right then
        spans ++
          [{ previous with left := min previous.left left, right := max previous.right right }]
      else spans ++ [previous, ⟨row, left, right⟩] := by
  rw [includeSpan, if_neg (by omega), List.getLast?_concat]
  simp

theorem includeSpan_nil (row left right : Nat) (h : left < right) :
    includeSpan [] row left right = [⟨row, left, right⟩] := by
  rw [includeSpan, if_neg (by omega)]
  rfl

theorem not_spansCover_nil (column row : Nat) : ¬ SpansCover [] column row := by
  simp [SpansCover]

theorem spansCover_append {spans more : List DirtySpan} {column row : Nat} :
    SpansCover (spans ++ more) column row ↔
      SpansCover spans column row ∨ SpansCover more column row := by
  simp only [SpansCover, List.mem_append, or_and_right, exists_or]

theorem spansCover_singleton {span : DirtySpan} {column row : Nat} :
    SpansCover [span] column row ↔ span.row = row ∧ span.left ≤ column ∧ column < span.right := by
  simp [SpansCover]

/-- Including a span keeps what was covered. -/
theorem SpansCover.includeSpan {spans : List DirtySpan} {column row : Nat}
    (h : SpansCover spans column row) (row' left right : Nat) :
    SpansCover (includeSpan spans row' left right) column row := by
  by_cases hlr : left < right
  · cases hl : spans.getLast? with
    | none =>
      rw [List.getLast?_eq_none_iff.1 hl] at h
      simp [SpansCover] at h
    | some previous =>
      obtain ⟨init, rfl⟩ := List.getLast?_eq_some_iff.1 hl
      rw [includeSpan_concat _ _ _ _ _ hlr]
      rw [spansCover_append, spansCover_singleton] at h
      split
      · rw [spansCover_append, spansCover_singleton]
        rcases h with h | ⟨h1, h2, h3⟩
        · exact Or.inl h
        · exact Or.inr ⟨h1, by simp only; omega, by simp only; omega⟩
      · rw [show [previous, (⟨row', left, right⟩ : DirtySpan)] = [previous] ++ [⟨row', left, right⟩]
          from rfl, ← List.append_assoc, spansCover_append, spansCover_append,
          spansCover_singleton]
        exact Or.inl h
  · rw [Core.includeSpan, if_pos (by omega)]
    exact h

/-- The included span is covered. -/
theorem spansCover_includeSpan (spans : List DirtySpan) (row : Nat) {column left right : Nat}
    (hl : left ≤ column) (hr : column < right) :
    SpansCover (includeSpan spans row left right) column row := by
  have hlr : left < right := by omega
  cases hlast : spans.getLast? with
  | none =>
    rw [List.getLast?_eq_none_iff.1 hlast, includeSpan_nil _ _ _ hlr, spansCover_singleton]
    exact ⟨rfl, hl, hr⟩
  | some previous =>
    obtain ⟨init, rfl⟩ := List.getLast?_eq_some_iff.1 hlast
    rw [includeSpan_concat _ _ _ _ _ hlr]
    split
    · rename_i hmerge
      rw [spansCover_append, spansCover_singleton]
      exact Or.inr ⟨hmerge.1, by simp only; omega, by simp only; omega⟩
    · exact ⟨⟨row, left, right⟩, by simp, rfl, hl, hr⟩

theorem includeSpan_ne_nil (spans : List DirtySpan) {row left right : Nat} (h : left < right) :
    includeSpan spans row left right ≠ [] := by
  obtain ⟨span, hspan, -⟩ := spansCover_includeSpan spans row (Nat.le_refl left) h
  exact List.ne_nil_of_mem hspan

/-- A property of a span and of a previous span merged with it holds of all spans afterwards. -/
theorem forall_includeSpan {P : DirtySpan → Prop} {spans : List DirtySpan} {row left right : Nat}
    (hspans : ∀ span ∈ spans, P span) (hnew : left < right → P ⟨row, left, right⟩)
    (hmerge : ∀ previous ∈ spans, left < right → previous.row = row → left ≤ previous.right →
      P { previous with left := min previous.left left, right := max previous.right right }) :
    ∀ span ∈ includeSpan spans row left right, P span := by
  by_cases hlr : left < right
  · cases hlast : spans.getLast? with
    | none =>
      rw [List.getLast?_eq_none_iff.1 hlast, includeSpan_nil _ _ _ hlr]
      simpa using hnew hlr
    | some previous =>
      obtain ⟨init, rfl⟩ := List.getLast?_eq_some_iff.1 hlast
      rw [includeSpan_concat _ _ _ _ _ hlr]
      intro span hspan
      split at hspan
      · rename_i hm
        rcases List.mem_append.1 hspan with hspan | hspan
        · exact hspans span (List.mem_append_left _ hspan)
        · rw [List.mem_singleton.1 hspan]
          exact hmerge previous (by simp) hlr hm.1 hm.2
      · simp only [List.mem_append, List.mem_cons, List.not_mem_nil, or_false] at hspan
        rcases hspan with hspan | rfl | rfl
        · exact hspans span (List.mem_append_left _ hspan)
        · exact hspans _ (by simp)
        · exact hnew hlr
  · rw [includeSpan, if_pos (by omega)]
    exact hspans

/-! ## The rectangle and the spans together -/

theorem growDirty_of_empty {dirty : DirtyRegion} (h : dirtyEmpty dirty = true)
    (left top right bottom : Nat) :
    growDirty dirty left top right bottom = ⟨left, top, right, bottom⟩ := by
  rw [growDirty, if_pos h]

theorem growDirty_of_nonempty {dirty : DirtyRegion} (h : dirtyEmpty dirty = false)
    (left top right bottom : Nat) :
    growDirty dirty left top right bottom =
      ⟨min dirty.left left, min dirty.top top, max dirty.right right, max dirty.bottom bottom⟩ := by
  rw [growDirty, h, if_neg Bool.false_ne_true]

theorem growDirty_nonempty {dirty : DirtyRegion} {left top right bottom : Nat} (h : left < right)
    (h' : top < bottom) : dirtyEmpty (growDirty dirty left top right bottom) = false := by
  rw [growDirty]
  split
  · rw [dirtyEmpty_eq_false_iff]
    exact ⟨h, h'⟩
  · rw [dirtyEmpty_eq_false_iff]
    simp only
    omega

/-- Growing the rectangle and including the span keep the two in step. -/
theorem RegionTracks.grow {columns rows : Nat} {dirty : DirtyRegion} {spans : List DirtySpan}
    (h : RegionTracks columns rows dirty spans) {row left right : Nat} (hrow : row < rows)
    (hlr : left < right) (hright : right ≤ columns) :
    RegionTracks columns rows (growDirty dirty left row right (row + 1))
      (includeSpan spans row left right) := by
  -- what was inside of the rectangle is inside of the larger one
  have hgrow : ∀ span, SpanInside dirty columns rows span → dirtyEmpty dirty = false →
      SpanInside (growDirty dirty left row right (row + 1)) columns rows span := by
    intro span hs hne
    have := hs.dirtyLeft
    have := hs.dirtyRight
    have := hs.dirtyTop
    have := hs.dirtyBottom
    rw [growDirty_of_nonempty hne]
    exact ⟨hs.row, hs.nonempty, hs.right, by simp only; omega, by simp only; omega,
      by simp only; omega, by simp only; omega⟩
  -- the rectangle is empty only as long as there are no spans
  have hnonempty : ∀ span ∈ spans, dirtyEmpty dirty = false := by
    intro span hspan
    rw [← Bool.not_eq_true, h.empty]
    exact List.ne_nil_of_mem hspan
  have hsub : (growDirty dirty left row right (row + 1)).left ≤ left ∧
      right ≤ (growDirty dirty left row right (row + 1)).right ∧
      (growDirty dirty left row right (row + 1)).top ≤ row ∧
      row < (growDirty dirty left row right (row + 1)).bottom ∧
      (growDirty dirty left row right (row + 1)).right ≤ columns ∧
      (growDirty dirty left row right (row + 1)).bottom ≤ rows := by
    have := h.right
    have := h.bottom
    rw [growDirty]
    split <;> simp only <;> omega
  obtain ⟨h1, h2, h3, h4, h5, h6⟩ := hsub
  refine ⟨forall_includeSpan ?_ ?_ ?_, ?_, h5, h6⟩
  · exact fun span hspan => hgrow span (h.inside span hspan) (hnonempty span hspan)
  · exact fun _ => ⟨hrow, hlr, hright, h1, h2, h3, h4⟩
  · intro previous hprevious _ hprow _
    have hp := hgrow previous (h.inside previous hprevious) (hnonempty previous hprevious)
    have := hp.nonempty
    have := hp.right
    have := hp.dirtyLeft
    have := hp.dirtyRight
    exact ⟨hp.row, by simp only; omega, by simp only; omega, by simp only; omega,
      by simp only; omega, hp.dirtyTop, hp.dirtyBottom⟩
  · rw [growDirty_nonempty hlr (Nat.lt_succ_self row)]
    simpa using includeSpan_ne_nil spans hlr

theorem SpansCover.includeCellSpan {spans : List DirtySpan} {column row : Nat}
    (h : SpansCover spans column row) (column' row' width columns rows : Nat) :
    SpansCover (includeCellSpan spans column' row' width columns rows) column row := by
  rw [Core.includeCellSpan]
  split
  · exact h
  · exact h.includeSpan ..

/-- Every column a cell repaints is covered. -/
theorem spansCover_includeCellSpan_of_between (spans : List DirtySpan)
    {column row width columns rows covered : Nat} (hcolumn : column < columns) (hrow : row < rows)
    (hleft : cellLeft column width ≤ covered) (hright : covered < cellRight column width columns) :
    SpansCover (includeCellSpan spans column row width columns rows) covered row := by
  rw [includeCellSpan, if_neg (by omega)]
  exact spansCover_includeSpan spans row hleft hright

theorem spansCover_includeCellSpan (spans : List DirtySpan) {column row columns rows : Nat}
    (width : Nat) (hcolumn : column < columns) (hrow : row < rows) :
    SpansCover (includeCellSpan spans column row width columns rows) column row :=
  spansCover_includeCellSpan_of_between spans hcolumn hrow (cellLeft_le column width)
    (lt_cellRight hcolumn)

/-- The rectangle of rows grows row by row as `includeDirty` would over full-width spans. -/
theorem includeRowsDirty_eq {dirty : DirtyRegion} {top bottom columns rows : Nat}
    (hcolumns : 0 < columns) (h : top < bottom) (hbottom : bottom ≤ rows) :
    includeRowsDirty dirty top bottom columns rows = growDirty dirty 0 top columns bottom := by
  rw [includeRowsDirty, growDirty]
  simp only [Nat.min_eq_left hbottom, Nat.min_eq_left (h.le.trans hbottom)]
  rw [if_neg (by omega)]
  simp

/-- Growing by rows one after another is growing by all of them at once. -/
theorem growDirty_grow {dirty : DirtyRegion} {top columns : Nat} (hcolumns : 0 < columns)
    (n : Nat) :
    growDirty (growDirty dirty 0 top columns (top + n + 1)) 0 (top + n + 1) columns
        (top + n + 1 + 1) = growDirty dirty 0 top columns (top + (n + 1) + 1) := by
  rw [growDirty_of_nonempty (growDirty_nonempty hcolumns (by omega))]
  -- an empty rectangle is replaced, any other one is extended
  cases hempty : dirtyEmpty dirty with
  | true =>
    rw [growDirty_of_empty hempty, growDirty_of_empty hempty, DirtyRegion.mk.injEq]
    simp only
    omega
  | false =>
    rw [growDirty_of_nonempty hempty, growDirty_of_nonempty hempty, DirtyRegion.mk.injEq]
    simp only
    omega

/-- What including one span of the grid keeps of the rectangle and the spans. Everything the
`Include` functions do consists of such steps. -/
structure KeptByGrow (columns rows : Nat) (P : DirtyRegion → List DirtySpan → Prop) : Prop where
  grow : ∀ {dirty spans row left right}, P dirty spans → row < rows → left < right →
    right ≤ columns →
    P (growDirty dirty left row right (row + 1)) (includeSpan spans row left right)

section KeptByGrow

variable {columns rows : Nat} {P : DirtyRegion → List DirtySpan → Prop} {dirty : DirtyRegion}
  {spans : List DirtySpan}

/-- What every growth keeps is kept where a cell is included. -/
theorem KeptByGrow.includeCellSpan (hkept : KeptByGrow columns rows P) (h : P dirty spans)
    (column row width : Nat) :
    P (includeDirty dirty column row width columns rows)
      (includeCellSpan spans column row width columns rows) := by
  rw [includeDirty, Core.includeCellSpan]
  by_cases hout : columns = 0 ∨ rows = 0 ∨ row ≥ rows ∨ column ≥ columns
  · rwa [if_pos hout, if_pos hout]
  · rw [if_neg hout, if_neg hout]
    simp only [not_or, Nat.not_le] at hout
    obtain ⟨-, -, hrow, hcolumn⟩ := hout
    exact hkept.grow h hrow (Nat.lt_of_le_of_lt (cellLeft_le column width) (lt_cellRight hcolumn))
      (cellRight_le column width columns)

/-- The spans of rows `top … top + n`, with the rectangle around them. -/
theorem KeptByGrow.growRows (hkept : KeptByGrow columns rows P) (h : P dirty spans) {top : Nat}
    (hcolumns : 0 < columns) (n : Nat) (hbottom : top + n < rows) :
    P (growDirty dirty 0 top columns (top + n + 1))
      ((List.range' top (n + 1)).foldl (fun spans row => includeSpan spans row 0 columns)
        spans) := by
  induction n with
  | zero => exact hkept.grow h hbottom hcolumns le_rfl
  | succ n ih =>
    -- row `top + n + 1` is one more full-width span
    have hrow : top + n + 1 < rows := by omega
    have hstep := hkept.grow (ih (by omega)) hrow hcolumns le_rfl
    rw [growDirty_grow hcolumns] at hstep
    rw [List.range'_concat, List.foldl_concat]
    simpa [Nat.add_assoc] using hstep

/-- And where whole rows are. -/
theorem KeptByGrow.includeRows (hkept : KeptByGrow columns rows P) (h : P dirty spans)
    {top bottom : Nat} (hbottom : bottom ≤ rows) :
    P (includeRowsDirty dirty top bottom columns rows)
      (includeRowsSpans spans top bottom columns rows) := by
  by_cases hempty : columns = 0 ∨ top ≥ bottom
  · rw [includeRowsDirty, includeRowsSpans]
    have hmin : columns = 0 ∨ min top rows ≥ min bottom rows := by omega
    simp only [if_pos hmin]
    exact h
  · simp only [not_or, Nat.not_le] at hempty
    obtain ⟨hcolumns, htop⟩ := hempty
    obtain ⟨n, rfl⟩ : ∃ n, bottom = top + n + 1 := ⟨bottom - top - 1, by omega⟩
    rw [includeRowsDirty_eq (by omega) htop hbottom]
    rw [includeRowsSpans]
    simp only [Nat.min_eq_left hbottom, Nat.min_eq_left (htop.le.trans hbottom)]
    rw [if_neg (by omega), show top + n + 1 - top = n + 1 by omega]
    exact hkept.growRows h (by omega) n (by omega)

end KeptByGrow

/-- The region stays one region when it grows. -/
theorem keptByGrow_regionTracks (columns rows : Nat) :
    KeptByGrow columns rows (RegionTracks columns rows) :=
  ⟨fun h hrow hlr hright => h.grow hrow hlr hright⟩

theorem RegionTracks.includeCellSpan {columns rows : Nat} {dirty : DirtyRegion}
    {spans : List DirtySpan} (h : RegionTracks columns rows dirty spans) (column row width : Nat) :
    RegionTracks columns rows (includeDirty dirty column row width columns rows)
      (includeCellSpan spans column row width columns rows) :=
  (keptByGrow_regionTracks columns rows).includeCellSpan h column row width

theorem RegionTracks.includeRows {columns rows : Nat} {dirty : DirtyRegion}
    {spans : List DirtySpan} (h : RegionTracks columns rows dirty spans) {top bottom : Nat}
    (hbottom : bottom ≤ rows) :
    RegionTracks columns rows (includeRowsDirty dirty top bottom columns rows)
      (includeRowsSpans spans top bottom columns rows) :=
  (keptByGrow_regionTracks columns rows).includeRows h hbottom

theorem SpansCover.includeRows {spans : List DirtySpan} {column row : Nat}
    (h : SpansCover spans column row) (top bottom columns rows : Nat) :
    SpansCover (includeRowsSpans spans top bottom columns rows) column row := by
  unfold includeRowsSpans
  dsimp only
  split
  · exact h
  · generalize List.range' (min top rows) (min bottom rows - min top rows) = included
    induction included generalizing spans with
    | nil => exact h
    | cons row' included ih => exact ih (h.includeSpan row' 0 columns)

/-- Every cell of the included rows is covered. -/
theorem spansCover_includeRows (spans : List DirtySpan) {column row top bottom columns rows : Nat}
    (hcolumn : column < columns) (htop : top ≤ row) (hbottom : row < bottom) (hrow : row < rows) :
    SpansCover (includeRowsSpans spans top bottom columns rows) column row := by
  unfold includeRowsSpans
  dsimp only
  rw [if_neg (by omega)]
  have hmem : row ∈ List.range' (min top rows) (min bottom rows - min top rows) := by
    rw [List.mem_range'_1]
    omega
  generalize List.range' (min top rows) (min bottom rows - min top rows) = included at hmem
  induction included generalizing spans with
  | nil => simp at hmem
  | cons row' included ih =>
    rw [List.foldl_cons]
    rcases List.mem_cons.1 hmem with rfl | hmem
    · -- the row is included now, and the rows after it keep it covered
      have hcover := spansCover_includeSpan spans row (Nat.zero_le column) hcolumn
      clear ih
      generalize Core.includeSpan spans row 0 columns = spans at hcover
      induction included generalizing spans with
      | nil => exact hcover
      | cons row'' included ih' =>
        exact ih' (by simp) (includeSpan spans row'' 0 columns) (hcover.includeSpan row'' 0 columns)
    · exact ih _ hmem

end SakuraTerminal.Core
