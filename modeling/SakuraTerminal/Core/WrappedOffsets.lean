import SakuraTerminal.Core.TakenFrame

/-!
# Rows of 4 GiB

Text offsets have 32 bits. In a row of cells with 128 bytes of text each, the offset of a cell is
128 times its column, and from column `2 ^ 25` on it no longer fits. A cell whose offset is stored
as 0 shows the text of the first cell of the row, and the test for the end of the text accepts it
(`UniformSources.cellText_of_wrap`).

A wrapped cell changes when the first one does. For every number of columns with such a cell at the
end of the row, a frame after which libtsm reports a new first cell only shows the new text in both
places, and its dirty spans have the first cell alone (`lastCell_of_wrap`). The limits of 4 GiB in
the results about frames as deltas and about reused rows come from here.

The module works with a row of any length and never evaluates it. `UniformSources` has what is
needed of such a row, `glyphContext_drawPass` follows the draw by induction along its columns, and
the wrap itself is one equation between two offsets. The cells differ in their code points only, and
a code point of four bytes leaves the style and the width alone.
-/

set_option autoImplicit false

namespace SakuraTerminal.Core

open SakuraTerminal.Foundations SakuraTerminal.Foundations.InternTable

/-! ## Rows of equally long texts -/

/-- Cells with 128 bytes of text and style 0, for a row of `columns` cells. -/
structure UniformSources (columns : Nat) (sources : List (PackedCell × List UInt8)) : Prop where
  columns : sources.length = columns
  size : ∀ source ∈ sources, source.2.length = 128
  style : ∀ source ∈ sources, source.1.styleIndex = 0

variable {columns : Nat} {sources : List (PackedCell × List UInt8)}

theorem UniformSources.offsetOf (h : UniformSources columns sources) {i : Nat} (hi : i ≤ columns) :
    offsetOf (sources.map Prod.snd) i = 128 * i := by
  refine offsetOf_of_length_eq ?_ (by rw [List.length_map, h.columns]; exact hi)
  intro piece hpiece
  obtain ⟨source, hsource, rfl⟩ := List.mem_map.1 hpiece
  exact h.size source hsource

/-- The row's text has 128 bytes for each column. -/
theorem UniformSources.text_length (h : UniformSources columns sources) :
    (layOut sources).text.length = 128 * columns := by
  have hoff := h.offsetOf (Nat.le_refl columns)
  have hlen := offsetOf_length (sources.map Prod.snd)
  rw [List.length_map, h.columns] at hlen
  rw [layOut_text, ← hlen, hoff]

/-- The stored offset is 128 times the column, narrowed. -/
theorem UniformSources.cell (h : UniformSources columns sources) {column : Nat}
    (hcolumn : column < columns) :
    ∃ cell, (layOut sources).cells[column]? = some cell ∧ cell.textOffset = u32 (128 * column) ∧
      cell.textLength = 128 ∧ cell.styleIndex = 0 := by
  have hlt : column < sources.length := by rw [h.columns]; exact hcolumn
  have hcell := layOut_cell sources column
  rw [List.getElem?_eq_getElem hlt, Option.map_some, h.offsetOf hcolumn.le] at hcell
  refine ⟨_, hcell, rfl, ?_, h.style _ (List.getElem_mem hlt)⟩
  simp only
  rw [h.size _ (List.getElem_mem hlt)]
  rfl

/-- Every stored offset is inside the row's text, wrapped or not. -/
theorem UniformSources.inBounds (h : UniformSources columns sources) {column : Nat}
    (hcolumn : column < columns) :
    u32 (128 * column) + 128 ≤ (layOut sources).text.length := by
  -- the wrapped offset is smaller, so the test for the end of the text accepts it
  rw [h.text_length]
  unfold u32
  omega

/-- A cell whose offset wraps to 0 shows the text of the first cell. -/
theorem UniformSources.cellText_of_wrap (h : UniformSources columns sources) {column : Nat}
    (hcolumn : column < columns) (hwrap : u32 (128 * column) = 0)
    {first : PackedCell × List UInt8} (hfirst : sources[0]? = some first) :
    ∃ cell, (layOut sources).cells[column]? = some cell ∧ cell.styleIndex = 0 ∧
      textInBounds (layOut sources).text cell.textOffset cell.textLength = true ∧
      slice (layOut sources).text cell.textOffset cell.textLength = first.2 := by
  obtain ⟨cell, hcell, hoffset, hlength, hstyle⟩ := h.cell hcolumn
  have hbound := h.inBounds hcolumn
  obtain ⟨hlt, hget⟩ := List.getElem?_eq_some_iff.1 hfirst
  have hslice := slice_flatten_getElem (show 0 < (sources.map Prod.snd).length by simpa using hlt)
  rw [offsetOf_zero, List.getElem_map, hget,
    h.size first (List.mem_of_getElem? hfirst)] at hslice
  refine ⟨cell, hcell, hstyle, ?_, ?_⟩
  · rw [textInBounds_iff, hoffset, hlength]
    exact hbound
  · rw [hoffset, hlength, hwrap, layOut_text]
    exact hslice

/-- The view of a cell of the only row of a grid. -/
theorem frameCell_of_row {frame : PackedFrame} {row : PackedRow} {cell : PackedCell}
    {column : Nat} (hcolumn : column < frame.columns) (hrows : 0 < frame.rows)
    (hrow : frame.grid.rowData[0]? = some row) (hcell : row.cells[column]? = some cell)
    {style : PackedStyle} (hstyle : frame.grid.styles[cell.styleIndex]? = some style)
    (hbound : textInBounds row.text cell.textOffset cell.textLength = true) :
    (frameCell frame column 0).map CellView.text =
      some (slice row.text cell.textOffset cell.textLength) := by
  rw [frameCell, if_pos ⟨hcolumn, hrows⟩, hrow]
  simp only [hcell, cellView, hstyle, hbound, if_true, Option.map_some]

/-! ## The two frames -/

/-- A cell of 32 code points of four bytes each. -/
def glyphCell (codepoint : Nat) : TsmCell := { codepoints := List.replicate 32 codepoint }

/-- The text of `glyphCell 0x10000`, and below that of `glyphCell 0x10001`. -/
def glyphText : List UInt8 := cellBytes ucs4ToUtf8 (glyphCell 0x10000)

/-- The text of the cell that the first one is overwritten with. -/
def otherText : List UInt8 := cellBytes ucs4ToUtf8 (glyphCell 0x10001)

theorem encodeText_glyph :
    encodeText ucs4ToUtf8 (glyphCell 0x10000) = some glyphText ∧ glyphText.length = 128 :=
  ⟨encodeText_of_length_le (by decide +kernel), by decide +kernel⟩

theorem encodeText_other :
    encodeText ucs4ToUtf8 (glyphCell 0x10001) = some otherText ∧ otherText.length = 128 :=
  ⟨encodeText_of_length_le (by decide +kernel), by decide +kernel⟩

/-- One row of glyphs, with a first one of its own. -/
def glyphScreen (columns : Nat) (hpos : 0 < columns) (hlt : columns < 4294967296)
    (first : Nat) : Screen where
  width := columns
  height := 1
  widthPos := hpos
  widthLt := hlt
  heightPos := Nat.one_pos
  cell := fun column _ => glyphCell (if column = 0 then first else 0x10000)
  rowId := fun row => row

/-- All cells of the row are reported. -/
def glyphCalls (columns : Nat) : List DrawCall :=
  (List.range columns).map fun column => ⟨glyphCell 0x10000, column, 0, 1⟩

/-- The complete draw of the first frame. -/
def glyphDraw (columns : Nat) : Draw := ⟨glyphCalls columns, 1⟩

/-- Only the first cell is reported. -/
def otherDraw : Draw := ⟨[⟨glyphCell 0x10001, 0, 0, 2⟩], 2⟩

/-- The recorded cell at a column. -/
def glyphChange (column : Nat) : PackedChangedCell :=
  { column := column
    row := 0
    width := 1
    codepoint := 0x10000
    styleIndex := 0
    textOffset := u32 (128 * column)
    textLength := 128 }

/-- A context for a complete draw of a row in the default style. It holds before the draw and after
every call of it. -/
structure GlyphContext (columns : Nat) (context : PackedDrawContext) : Prop where
  columns : context.grid.columns = columns
  rows : context.grid.rows = 1
  styles : context.grid.styles = [{}]
  fullRepaint : context.fullRepaint = true
  reuse : context.reuseScrolledRows = false

theorem withStyles_eq {context : PackedDrawContext} {styles : List PackedStyle}
    (h : context.grid.styles = styles) : context.withStyles styles = context := by
  subst h
  rfl

/-- A call is recorded with the text so far before it, and the next one finds the context as this
one did. -/
theorem glyphContext_step {context : PackedDrawContext} (h : GlyphContext columns context)
    {column : Nat} (hcolumn : column < columns)
    (htext : context.changedText.length = 128 * column) :
    drawPackedCell ucs4ToUtf8 context ⟨glyphCell 0x10000, column, 0, 1⟩ =
        recordChange context ⟨glyphCell 0x10000, column, 0, 1⟩ 0 glyphText ∧
      (recordChange context ⟨glyphCell 0x10000, column, 0, 1⟩ 0 glyphText).changedCells =
        context.changedCells ++ [glyphChange column] := by
  have hstyle : styleIndex [{}] (packedStyleFor (glyphCell 0x10000).attr) = (0, [{}]) := by decide
  constructor
  · rw [drawPackedCell, if_neg (by rw [h.columns, h.rows]; simp only; omega),
      if_neg (by simp [reportsChange, h.fullRepaint])]
    simp only [h.styles, hstyle, encodeText_glyph.1, withStyles_eq h.styles, h.reuse,
      Bool.false_and, Bool.false_eq_true, if_false]
  · have hlength : u32 ((context.changedText ++ glyphText).length - u32 (128 * column)) = 128 := by
      rw [List.length_append, htext, encodeText_glyph.2]
      unfold u32
      omega
    simp only [recordChange, glyphChange, htext, hlength]
    rfl

/-- The complete draw records every cell, with a text of 128 bytes. -/
theorem glyphContext_drawPass {context : PackedDrawContext} (h : GlyphContext columns context)
    (hcells : context.changedCells = []) (htext : context.changedText = []) :
    ∀ n ≤ columns,
      GlyphContext columns (drawPass ucs4ToUtf8 context (glyphCalls n)) ∧
      (drawPass ucs4ToUtf8 context (glyphCalls n)).grid = context.grid ∧
      (drawPass ucs4ToUtf8 context (glyphCalls n)).changedCells =
        (List.range n).map glyphChange ∧
      (drawPass ucs4ToUtf8 context (glyphCalls n)).changedText =
        (List.replicate n glyphText).flatten := by
  intro n
  induction n with
  | zero => exact fun _ => ⟨h, rfl, hcells, htext⟩
  | succ n ih =>
    intro hn
    obtain ⟨hcontext, hgrid, hchanged, hbytes⟩ := ih (by omega)
    have hlength : (drawPass ucs4ToUtf8 context (glyphCalls n)).changedText.length = 128 * n := by
      rw [hbytes, List.length_flatten, List.map_replicate, encodeText_glyph.2,
        List.sum_replicate_nat, Nat.mul_comm]
    -- the induction is on the number of calls; the text so far fixes the offset of the next cell
    obtain ⟨hstep, hcell⟩ := glyphContext_step hcontext (by omega : n < columns) hlength
    have hcalls : glyphCalls (n + 1) = glyphCalls n ++ [⟨glyphCell 0x10000, n, 0, 1⟩] := by
      rw [glyphCalls, List.range_succ, List.map_append]
      rfl
    rw [hcalls, drawPass, List.foldl_concat, ← drawPass, hstep]
    refine ⟨⟨hcontext.columns, hcontext.rows, hcontext.styles, hcontext.fullRepaint,
      hcontext.reuse⟩, hgrid, ?_, ?_⟩
    · rw [hcell, hchanged, List.range_succ, List.map_append]
      rfl
    · change (drawPass ucs4ToUtf8 context (glyphCalls n)).changedText ++ glyphText = _
      rw [hbytes, List.replicate_succ', List.flatten_concat]

/-- Sources that have one length and one style at each column are uniform. -/
theorem uniformSources_of_getElem? {columns : Nat} {sources : List (PackedCell × List UInt8)}
    (hlen : sources.length = columns)
    (h : ∀ column < columns, ∃ source, sources[column]? = some source ∧ source.2.length = 128 ∧
      source.1.styleIndex = 0) : UniformSources columns sources := by
  have hall : ∀ source ∈ sources, source.2.length = 128 ∧ source.1.styleIndex = 0 := by
    intro source hsource
    obtain ⟨column, hcolumn⟩ := List.mem_iff_getElem?.1 hsource
    obtain ⟨source', hsource', hsize, hstyle⟩ :=
      h column (by rw [← hlen]; exact (List.getElem?_eq_some_iff.1 hcolumn).1)
    rw [hcolumn, Option.some.injEq] at hsource'
    rw [hsource']
    exact ⟨hsize, hstyle⟩
  exact ⟨hlen, fun source hsource => (hall source hsource).1,
    fun source hsource => (hall source hsource).2⟩

/-- The only row of a grid was laid out from equally long texts, the first of which is `text`. -/
def ShowsFirst (grid : PackedGrid) (columns : Nat) (text : List UInt8) : Prop :=
  ∃ sources runs first, UniformSources columns sources ∧ sources[0]? = some first ∧
    first.2 = text ∧ grid.rowData[0]? = some { layOut sources with runs := runs }

section run

variable (columns : Nat) (hpos : 0 < columns) (hlt : columns < 4294967296)

/-- The terminal before the first frame, and the first frame. -/
def glyphImpl : Impl := newImpl (glyphScreen columns hpos hlt 0x10000)

/-- The first frame, of the row before it was overwritten. -/
def glyphFrame : PackedFrame :=
  takePackedFrame ucs4ToUtf8 (glyphImpl columns hpos hlt) (glyphScreen columns hpos hlt 0x10000)
    (glyphDraw columns)

/-- The terminal when the first cell was overwritten, and the second frame. -/
def otherImpl : Impl :=
  feedOutput
    (afterTake ucs4ToUtf8 (glyphImpl columns hpos hlt) (glyphScreen columns hpos hlt 0x10000)
      (glyphDraw columns))
    (glyphScreen columns hpos hlt 0x10000) otherText (glyphScreen columns hpos hlt 0x10001)

/-- The second frame, with the first cell overwritten. -/
def otherFrame : PackedFrame :=
  takePackedFrame ucs4ToUtf8 (otherImpl columns hpos hlt) (glyphScreen columns hpos hlt 0x10001)
    otherDraw

theorem glyphContext_drawContext : GlyphContext columns
    (drawContext (glyphImpl columns hpos hlt) (glyphScreen columns hpos hlt 0x10000)) := by
  refine ⟨drawGrid_columns _ _, drawGrid_rows _ _, ?_, rfl, rfl⟩
  change (drawGrid _ _).styles = _
  rw [drawGrid_styles]
  rfl

theorem gridTable_glyphImpl : GridTable (cachedGrid (glyphImpl columns hpos hlt)) :=
  gridTable_empty

/-- The grid of the first frame begins with the text of the first cell. -/
theorem glyphFrame_grid : (glyphFrame columns hpos hlt).grid.styles = [{}] ∧
    ShowsFirst (glyphFrame columns hpos hlt).grid columns glyphText := by
  have hcontext := glyphContext_drawContext columns hpos hlt
  have hgrid := takenGrid_eq ucs4ToUtf8 (glyphImpl columns hpos hlt)
    (glyphScreen columns hpos hlt 0x10000) (glyphDraw columns)
  have htable := (gridTable_glyphImpl columns hpos hlt).drawGrid
    (glyphScreen columns hpos hlt 0x10000)
  obtain ⟨hafter, hsame, hchanges, htext⟩ :=
    glyphContext_drawPass hcontext rfl rfl columns (Nat.le_refl columns)
  change (takenGrid _ _ _ _).styles = _ ∧ ShowsFirst (takenGrid _ _ _ _) _ _
  rw [hgrid, glyphDraw, hchanges, htext, hsame]
  generalize hcontextEq : drawContext (glyphImpl columns hpos hlt)
    (glyphScreen columns hpos hlt 0x10000) = context at hcontext
  rw [show drawGrid (glyphImpl columns hpos hlt) (glyphScreen columns hpos hlt 0x10000) =
    context.grid from congrArg PackedDrawContext.grid hcontextEq] at htable
  refine ⟨by rw [rebuildPackedRows_styles, hcontext.styles], ?_⟩
  -- the positions of the recorded cells are distinct, so every column takes its own change
  have hnodup : (((List.range columns).map glyphChange).map fun change =>
      (change.column, change.row)).Nodup := by
    rw [List.map_map]
    exact List.Nodup.map (fun a b h => by simpa [glyphChange] using h) List.nodup_range
  have hrowLt : 0 < context.grid.rowData.length := by
    rw [htable.rows, hcontext.rows]
    exact Nat.one_pos
  have hmem : ∀ column < columns, glyphChange column ∈ (List.range columns).map glyphChange :=
    fun column hcolumn => List.mem_map.2 ⟨column, List.mem_range.2 hcolumn, rfl⟩
  have hne : rowChanges ((List.range columns).map glyphChange) 0 ≠ [] :=
    List.ne_nil_of_mem (mem_rowChanges.2 ⟨hmem 0 hpos, rfl⟩)
  have hrow := rebuildPackedRows_row context.grid ((List.range columns).map glyphChange)
    (List.replicate columns glyphText).flatten 0
  rw [if_neg hne, List.getElem?_eq_getElem hrowLt, Option.map_some, rebuildRow_eq,
    hcontext.columns] at hrow
  have hsource : ∀ column < columns,
      (selectedCells (some context.grid.rowData[0]) (List.replicate columns glyphText).flatten
        (rowChanges ((List.range columns).map glyphChange) 0) (List.range columns))[column]? =
      some (changedCellSource (List.replicate columns glyphText).flatten
        (glyphChange column)) := by
    intro column hcolumn
    have h := @selectedCells_changed context.grid _ (List.replicate columns glyphText).flatten
      context.grid.rowData[0] hnodup _ (hmem column hcolumn)
      (by rw [hcontext.columns]; exact hcolumn)
    rwa [hcontext.columns] at h
  have htextLength : (List.replicate columns glyphText).flatten.length = 128 * columns := by
    rw [List.length_flatten, List.map_replicate, encodeText_glyph.2, List.sum_replicate_nat,
      Nat.mul_comm]
  refine ⟨_, _, _, uniformSources_of_getElem? ?_ ?_, hsource 0 hpos, ?_, hrow⟩
  · rw [length_selectedCells, List.length_range]
  · intro column hcolumn
    refine ⟨_, hsource column hcolumn, ?_, rfl⟩
    apply length_slice
    simp only [glyphChange]
    rw [htextLength]
    unfold u32
    omega
  · have hslice := slice_flatten_getElem
      (show 0 < (List.replicate columns glyphText).length by simpa using hpos)
    rw [offsetOf_zero, List.getElem_replicate, encodeText_glyph.2] at hslice
    exact hslice

/-- The one cell recorded by the second draw. -/
def otherChange : PackedChangedCell :=
  { column := 0
    row := 0
    width := 1
    codepoint := 0x10001
    styleIndex := 0
    textOffset := 0
    textLength := 128 }

theorem sameCache_otherImpl :
    SameCache (afterTake ucs4ToUtf8 (glyphImpl columns hpos hlt)
      (glyphScreen columns hpos hlt 0x10000) (glyphDraw columns)) (otherImpl columns hpos hlt) :=
  sameCache_feedOutput ..

theorem cachedGrid_otherImpl :
    cachedGrid (otherImpl columns hpos hlt) = (glyphFrame columns hpos hlt).grid :=
  (sameCache_otherImpl columns hpos hlt).cachedGrid

/-- A screen of one row cannot scroll. -/
theorem otherImpl_pending : (otherImpl columns hpos hlt).pendingContentScrollDelta = 0 ∧
    (otherImpl columns hpos hlt).pendingViewportScrollDelta = 0 := by
  have hdelta : ∀ lines alternate,
      observedDelta lines alternate (glyphScreen columns hpos hlt 0x10001) = 0 := by
    intro lines alternate
    have hone : (glyphScreen columns hpos hlt 0x10001).height < 2 := by
      change 1 < 2
      decide
    rw [observedDelta, detectFullScreenShift, if_pos (Or.inr hone), ite_self]
  have hne : otherText ≠ [] := List.ne_nil_of_length_pos (by rw [encodeText_other.2]; decide)
  rw [otherImpl, feedOutput, if_neg hne]
  dsimp only
  rw [observeScreenScroll, hdelta]
  split <;> exact ⟨rfl, rfl⟩

/-- The second draw repaints what changed, and nothing else moved. -/
theorem otherImpl_draw :
    initialFullRepaint (otherImpl columns hpos hlt) (glyphScreen columns hpos hlt 0x10001) = false ∧
      reuseScrolledRows (otherImpl columns hpos hlt)
        (glyphScreen columns hpos hlt 0x10001) = false ∧
      drawFullRepaint (otherImpl columns hpos hlt)
        (glyphScreen columns hpos hlt 0x10001) = false ∧
      cursorChanged (otherImpl columns hpos hlt)
        (glyphScreen columns hpos hlt 0x10001) = false := by
  have hcache := sameCache_otherImpl columns hpos hlt
  obtain ⟨hcontent, -⟩ := otherImpl_pending columns hpos hlt
  have hstyle : (otherImpl columns hpos hlt).cursor.cursorStyle =
      (otherImpl columns hpos hlt).packedLastCursorStyle := by
    have htracked : trackCursorStyle {} otherText = {} := by decide +kernel
    have hcursor : (afterTake ucs4ToUtf8 (glyphImpl columns hpos hlt)
      (glyphScreen columns hpos hlt 0x10000) (glyphDraw columns)).cursor = {} := rfl
    rw [hcache.cursorStyle, otherImpl, feedOutput_cursor, hcursor, htracked]
    rfl
  have hinitial : initialFullRepaint (otherImpl columns hpos hlt)
      (glyphScreen columns hpos hlt 0x10001) = false := by
    rw [initialFullRepaint, hcache.valid, hcache.columns, hcache.rows, hcache.alternate]
    simp [afterTake, takePackedFrame, glyphScreen, glyphDraw]
  refine ⟨hinitial, ?_, ?_, ?_⟩
  · simp [reuseScrolledRows, hcontent]
  · simp [drawFullRepaint, hinitial, hcontent]
  · rw [cursorChanged, hstyle, hcache.cursorX, hcache.cursorY, hcache.cursorVisible]
    simp [afterTake, takePackedFrame, glyphScreen]

/-- The second draw starts on the grid of the first frame and records the first cell. -/
theorem otherFrame_pass :
    (drawContext (otherImpl columns hpos hlt) (glyphScreen columns hpos hlt 0x10001)).grid =
        (glyphFrame columns hpos hlt).grid ∧
      drawPass ucs4ToUtf8 (drawContext (otherImpl columns hpos hlt)
          (glyphScreen columns hpos hlt 0x10001)) otherDraw.calls =
        recordChange (drawContext (otherImpl columns hpos hlt)
          (glyphScreen columns hpos hlt 0x10001)) ⟨glyphCell 0x10001, 0, 0, 2⟩ 0 otherText ∧
      (recordChange (drawContext (otherImpl columns hpos hlt)
          (glyphScreen columns hpos hlt 0x10001)) ⟨glyphCell 0x10001, 0, 0, 2⟩ 0
          otherText).changedCells = [otherChange] := by
  have hstyle : styleIndex [{}] (packedStyleFor (glyphCell 0x10001).attr) = (0, [{}]) := by decide
  have htable := (gridTable_glyphImpl columns hpos hlt)
  obtain ⟨-, hreuse, -, -⟩ := otherImpl_draw columns hpos hlt
  obtain ⟨hstyles, -⟩ := glyphFrame_grid columns hpos hlt
  have hcached := cachedGrid_otherImpl columns hpos hlt
  have htaken : GridTable (glyphFrame columns hpos hlt).grid := htable.takenGrid
  have hcolumns : (glyphFrame columns hpos hlt).grid.columns = columns :=
    takenGrid_columns htable
  have hrows : (glyphFrame columns hpos hlt).grid.rows = 1 := takenGrid_rows htable
  have hgrid : drawGrid (otherImpl columns hpos hlt) (glyphScreen columns hpos hlt 0x10001) =
      (glyphFrame columns hpos hlt).grid := by
    rw [← hcached] at htaken hcolumns hrows ⊢
    exact drawGrid_eq_cachedGrid htaken hcolumns hrows hreuse
  have hage : (drawContext (otherImpl columns hpos hlt)
      (glyphScreen columns hpos hlt 0x10001)).previousAge = 1 :=
    (sameCache_otherImpl columns hpos hlt).age
  refine ⟨hgrid, ?_, ?_⟩
  · generalize hcontext : drawContext (otherImpl columns hpos hlt)
      (glyphScreen columns hpos hlt 0x10001) = context at hage
    have hcontextGrid : context.grid = (glyphFrame columns hpos hlt).grid := by
      rw [← hcontext]
      exact hgrid
    have hcontextReuse : context.reuseScrolledRows = false := by
      rw [← hcontext]
      exact hreuse
    have hcontextStyles : context.grid.styles = [{}] := by rw [hcontextGrid, hstyles]
    change drawPackedCell ucs4ToUtf8 context ⟨glyphCell 0x10001, 0, 0, 2⟩ = _
    rw [drawPackedCell, if_neg (by rw [hcontextGrid, hcolumns, hrows]; simp only; omega),
      if_neg (by simp [reportsChange, hage])]
    simp only [hcontextStyles, hstyle, encodeText_other.1, withStyles_eq hcontextStyles,
      hcontextReuse, Bool.false_and, Bool.false_eq_true, if_false]
  · have hempty : (drawContext (otherImpl columns hpos hlt)
        (glyphScreen columns hpos hlt 0x10001)).changedText = [] := rfl
    have hlength : u32 (otherText.length - u32 0) = 128 := by
      rw [encodeText_other.2]
      decide
    rw [recordChange]
    simp only [hempty, List.nil_append, List.length_nil, hlength]
    rfl

/-- The grid of the second frame begins with the new text. -/
theorem otherFrame_grid : (otherFrame columns hpos hlt).grid.styles = [{}] ∧
    ShowsFirst (otherFrame columns hpos hlt).grid columns otherText := by
  have htable := gridTable_glyphImpl columns hpos hlt
  have hcached := cachedGrid_otherImpl columns hpos hlt
  obtain ⟨hstyles, sources, runs, first, huniform, hfirst, -, hrowOld⟩ :=
    glyphFrame_grid columns hpos hlt
  obtain ⟨hgrid, hpass, hchanges⟩ := otherFrame_pass columns hpos hlt
  have htaken : GridTable (cachedGrid (otherImpl columns hpos hlt)) := by
    rw [hcached]
    exact htable.takenGrid
  have hcolumns : (glyphFrame columns hpos hlt).grid.columns = columns :=
    takenGrid_columns htable
  have htext : (recordChange (drawContext (otherImpl columns hpos hlt)
      (glyphScreen columns hpos hlt 0x10001)) ⟨glyphCell 0x10001, 0, 0, 2⟩ 0
      otherText).changedText = otherText := rfl
  have hkept : (recordChange (drawContext (otherImpl columns hpos hlt)
      (glyphScreen columns hpos hlt 0x10001)) ⟨glyphCell 0x10001, 0, 0, 2⟩ 0
      otherText).grid = (glyphFrame columns hpos hlt).grid := hgrid
  change (takenGrid _ _ _ _).styles = _ ∧ ShowsFirst (takenGrid _ _ _ _) _ _
  rw [takenGrid_eq, hpass, hchanges, htext, hkept]
  refine ⟨by rw [rebuildPackedRows_styles, hstyles], ?_⟩
  generalize hold : ({ layOut sources with runs := runs } : PackedRow) = old at hrowOld
  have hnodup : ([otherChange].map fun change => (change.column, change.row)).Nodup :=
    List.nodup_singleton _
  have hmem : otherChange ∈ [otherChange] := List.mem_singleton.2 rfl
  have hne : rowChanges [otherChange] 0 ≠ [] :=
    List.ne_nil_of_mem (mem_rowChanges.2 ⟨hmem, rfl⟩)
  have hrow := rebuildPackedRows_row (glyphFrame columns hpos hlt).grid [otherChange] otherText 0
  rw [if_neg hne, hrowOld, Option.map_some, rebuildRow_eq, hcolumns] at hrow
  have hchanged : (selectedCells (some old) otherText (rowChanges [otherChange] 0)
      (List.range columns))[0]? = some (changedCellSource otherText otherChange) := by
    have h := @selectedCells_changed (glyphFrame columns hpos hlt).grid _ otherText old hnodup _
      hmem (by rw [hcolumns]; exact hpos)
    rwa [hcolumns] at h
  have hsliceOther : (changedCellSource otherText otherChange).2 = otherText := by
    have h := slice_append_right [] otherText
    rwa [encodeText_other.2] at h
  refine ⟨_, _, _, uniformSources_of_getElem? ?_ ?_, hchanged, hsliceOther, hrow⟩
  · rw [length_selectedCells, List.length_range]
  · intro column hcolumn
    cases column with
    | zero => exact ⟨_, hchanged, by rw [hsliceOther, encodeText_other.2], rfl⟩
    | succ column =>
      -- the other cells are copied from the first frame's row
      have hkeep := @selectedCells_unchanged (glyphFrame columns hpos hlt).grid [otherChange]
        (column + 1) 0 otherText old (by rw [hcolumns]; exact hcolumn) (by simp [otherChange])
      rw [hcolumns] at hkeep
      obtain ⟨cell, hcell, hoffset, hlength, hstyle⟩ := huniform.cell hcolumn
      have hbound := huniform.inBounds hcolumn
      have hcell' : old.cells[column + 1]? = some cell := by rw [← hold]; exact hcell
      have hchecked : textInBounds old.text cell.textOffset cell.textLength = true := by
        rw [textInBounds_iff, hoffset, hlength, ← hold]
        exact hbound
      have hsource : oldCellSource (some old) (column + 1) =
          (cell, slice old.text cell.textOffset cell.textLength) := by
        simp [oldCellSource, hcell', hchecked]
      rw [hsource] at hkeep
      refine ⟨_, hkeep, ?_, hstyle⟩
      rw [textInBounds_iff] at hchecked
      rw [length_slice hchecked, hlength]

theorem drawContext_cursorChanged (impl : Impl) (screen : Screen) :
    (drawContext impl screen).cursorChanged = cursorChanged impl screen := rfl

theorem recordChange_cursorChanged (context : PackedDrawContext) (call : DrawCall) (index : Nat)
    (encoded : List UInt8) :
    (recordChange context call index encoded).cursorChanged = context.cursorChanged := rfl

/-- The second frame repaints the first cell only. -/
theorem otherFrame_spans (hne : columns ≠ 1) :
    (otherFrame columns hpos hlt).fullRepaint = false ∧
      (otherFrame columns hpos hlt).dirtySpans = [⟨0, 0, 1⟩] ∧
      (otherFrame columns hpos hlt).scrollDelta = 0 := by
  obtain ⟨-, hreuse, hfull, hcursor⟩ := otherImpl_draw columns hpos hlt
  obtain ⟨hcontent, hviewport⟩ := otherImpl_pending columns hpos hlt
  obtain ⟨hgrid, hpass, -⟩ := otherFrame_pass columns hpos hlt
  have hcolumns : (drawContext (otherImpl columns hpos hlt)
      (glyphScreen columns hpos hlt 0x10001)).grid.columns = columns := drawGrid_columns _ _
  have hrows : (drawContext (otherImpl columns hpos hlt)
      (glyphScreen columns hpos hlt 0x10001)).grid.rows = 1 := drawGrid_rows _ _
  generalize hrecorded : recordChange (drawContext (otherImpl columns hpos hlt)
    (glyphScreen columns hpos hlt 0x10001)) ⟨glyphCell 0x10001, 0, 0, 2⟩ 0 otherText = context
    at hpass
  have hdirty : context.dirty = ⟨0, 0, 1, 1⟩ ∧ context.dirtySpans = [⟨0, 0, 1⟩] := by
    have hright : cellRight 0 1 columns = 1 := by
      rw [cellRight]
      simp only [Nat.one_ne_zero, if_false]
      omega
    rw [← hrecorded]
    simp only [recordChange, includeDirty, includeCellSpan, hcolumns, hrows]
    rw [if_neg (by omega), if_neg (by omega)]
    change growDirty {} (cellLeft 0 1) 0 (cellRight 0 1 columns) 1 = _ ∧
      includeSpan [] 0 (cellLeft 0 1) (cellRight 0 1 columns) = _
    rw [hright]
    exact ⟨by decide, by decide⟩
  have hcontext : takenContext ucs4ToUtf8 (otherImpl columns hpos hlt)
      (glyphScreen columns hpos hlt 0x10001) otherDraw = context := by
    have hcursorContext : context.cursorChanged = false := by
      rw [← hrecorded, recordChange_cursorChanged, drawContext_cursorChanged, hcursor]
    have hreuseContext : context.reuseScrolledRows = false := by rw [← hrecorded]; exact hreuse
    rw [takenContext, hpass, includeCursor, if_neg (by simp [hcursorContext]),
      includeExposedRows, if_neg (by simp [hreuseContext])]
  have hfullContext : context.fullRepaint = false := by rw [← hrecorded]; exact hfull
  have hwhole : (⟨0, 0, 1, 1⟩ : DirtyRegion) ≠ wholeGrid columns 1 := by
    simp only [wholeGrid, ne_eq, DirtyRegion.mk.injEq, true_and, and_true]
    exact fun h => hne h.symm
  have hregion : takenRegion ucs4ToUtf8 (otherImpl columns hpos hlt)
      (glyphScreen columns hpos hlt 0x10001) otherDraw =
        ⟨false, ⟨0, 0, 1, 1⟩, [⟨0, 0, 1⟩]⟩ := by
    rw [takenRegion, hcontext]
    change finishRegion columns 1 context 2 = _
    simp [finishRegion, hfullContext, hdirty, dirtyEmpty, hwhole]
  refine ⟨?_, ?_, ?_⟩
  · change (takenRegion _ _ _ _).fullRepaint = _
    rw [hregion]
  · change (takenRegion _ _ _ _).dirtySpans = _
    rw [hregion]
  · change frameScrollDelta (otherImpl columns hpos hlt) = 0
    simp [frameScrollDelta, hcontent, hviewport]

/-- With a wrapped offset in the last column, the last cell shows the text of the first one in both
frames. The second frame has no dirty span for it. -/
theorem lastCell_of_wrap (hone : columns ≠ 1) (hwrap : u32 (128 * (columns - 1)) = 0) :
    (frameCell (glyphFrame columns hpos hlt) (columns - 1) 0).map CellView.text = some glyphText ∧
      (frameCell (otherFrame columns hpos hlt) (columns - 1) 0).map CellView.text =
        some otherText ∧
      ¬ SpansCover (otherFrame columns hpos hlt).dirtySpans (columns - 1) 0 := by
  have hlast : columns - 1 < columns := by omega
  have hview : ∀ (frame : PackedFrame) (text : List UInt8), frame.columns = columns →
      frame.rows = 1 → frame.grid.styles = [{}] → ShowsFirst frame.grid columns text →
      (frameCell frame (columns - 1) 0).map CellView.text = some text := by
    intro frame text hcolumns hrows hstyles hshows
    obtain ⟨sources, runs, first, huniform, hfirst, rfl, hrow⟩ := hshows
    obtain ⟨cell, hget, hstyle, hbound, hslice⟩ :=
      huniform.cellText_of_wrap hlast hwrap hfirst
    have hstyleGet : frame.grid.styles[cell.styleIndex]? = some {} := by
      rw [hstyles, hstyle]
      rfl
    have hresult := frameCell_of_row (by rw [hcolumns]; exact hlast)
      (by rw [hrows]; exact Nat.one_pos) hrow hget hstyleGet hbound
    rw [hresult]
    exact congrArg some hslice
  obtain ⟨hglyphStyles, hglyphShows⟩ := glyphFrame_grid columns hpos hlt
  obtain ⟨hotherStyles, hotherShows⟩ := otherFrame_grid columns hpos hlt
  refine ⟨hview _ glyphText rfl rfl hglyphStyles hglyphShows,
    hview _ otherText rfl rfl hotherStyles hotherShows, ?_⟩
  rw [(otherFrame_spans columns hpos hlt hone).2.1, spansCover_singleton]
  simp only
  omega

end run

end SakuraTerminal.Core
