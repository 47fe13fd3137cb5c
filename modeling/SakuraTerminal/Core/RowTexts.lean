import SakuraTerminal.Core.ReportedCells

/-!
# The text of a row

A row's runs, read one after another, should spell each displayed glyph once (`SpellsGlyphs`): the
second half of a wide glyph, a cell of width 0, adds nothing. The callback leaves the text of a cell
empty only if it has neither width nor symbol. A cell that was overwritten by the second half of a
wide glyph keeps its symbol in libtsm, which is encoded like any other: when libtsm reports every
cell, the runs spell the glyphs exactly if no cell of width 0 has bytes (`spellsGlyphs_iff`).

The condition is one about libtsm's cells and not about the callback. `PairsGlyphs` and
`ContinuationsEmpty` both hold as long as wide glyphs are written onto empty cells; the second fails
when one is written over text, since `tsm_screen` clears the width of the overwritten cell but not
its symbol. The views then still agree with each other, but a consumer that concatenates the runs,
as a copy or a screen reader would, gets a glyph that is not displayed (`not_spellsGlyphs`).
-/

set_option autoImplicit false

namespace SakuraTerminal.Core

open SakuraTerminal.Foundations

/-- The texts of all runs of a row, as `sakura_terminal_frame_row_run` reports them. A run that
could not be viewed would add nothing, but the layout of a row excludes it. -/
def rowRunsText (frame : PackedFrame) (row : Nat) : List UInt8 :=
  (List.range (frameRowRunCount frame row)).flatMap fun index =>
    ((frameRowRun frame row index).map RunView.text).getD []

/-- What a cell adds to the displayed text of its row: nothing if it has no width. This is the
specification; what the callback stores is `cellBytes`. -/
def displayedBytes (tsmUcs4ToUtf8 : Nat → List UInt8) (cell : TsmCell) : List UInt8 :=
  if cell.width > 0 then cellBytes tsmUcs4ToUtf8 cell else []

/-- The runs of every row spell the glyphs of the screen, in column order. The runs may cut the row
anywhere, also between the two columns of a wide glyph, since only the concatenation is compared. -/
def SpellsGlyphs (tsmUcs4ToUtf8 : Nat → List UInt8) (screen : Screen) (frame : PackedFrame) :
    Prop :=
  ∀ row < screen.height, rowRunsText frame row = (List.range screen.width).flatMap fun column =>
    displayedBytes tsmUcs4ToUtf8 (screen.cell column row)

/-- No cell of width 0 has bytes. A cell of width 0 is the second half of a wide glyph, which has
its bytes in its first half. -/
def ContinuationsEmpty (tsmUcs4ToUtf8 : Nat → List UInt8) (screen : Screen) : Prop :=
  ∀ column < screen.width, ∀ row < screen.height, (screen.cell column row).width = 0 →
    cellBytes tsmUcs4ToUtf8 (screen.cell column row) = []

/-- Cells that the callback skips for their age have their text in the grid that is drawn into. A
skipped call leaves the cached text, so this asks that nothing there was out of date. -/
def SkippedTextsShown (tsmUcs4ToUtf8 : Nat → List UInt8) (impl : Impl) (screen : Screen)
    (draw : Draw) : Prop :=
  ∀ call ∈ draw.calls, call.column < screen.width → call.row < screen.height →
    ¬ Accepts (drawContext impl screen) call →
    gridText (drawGrid impl screen) call.column call.row = some (cellBytes tsmUcs4ToUtf8 call.cell)

/-- Wide glyphs have two columns: a cell of width 2 and right of it one of width 0. This is libtsm's
layout of wide glyphs, assumed where a property is about glyphs and not about cells. -/
structure PairsGlyphs (screen : Screen) : Prop where
  width : ∀ column < screen.width, ∀ row < screen.height, (screen.cell column row).width ≤ 2
  lead : ∀ column < screen.width, ∀ row < screen.height, (screen.cell column row).width = 2 →
    column + 1 < screen.width ∧ (screen.cell (column + 1) row).width = 0
  continuation : ∀ column < screen.width, ∀ row < screen.height,
    (screen.cell column row).width = 0 →
    0 < column ∧ (screen.cell (column - 1) row).width = 2

/-! ## The runs of a row -/

/-- The runs of a row add up to the texts of its cells. -/
theorem RowViewsAgree.rowRunsText {frame : PackedFrame} {row : Nat} (h : RowViewsAgree frame row) :
    rowRunsText frame row =
      (List.range frame.columns).flatMap fun column => frameCellText frame column row := by
  obtain ⟨runs, hcount, hget, htiles, hshows⟩ := h.runs
  have hmap : (List.range runs.length).map (fun index =>
      ((runs[index]?).map RunView.text).getD []) = runs.map RunView.text := by
    apply List.ext_getElem
    · rw [List.length_map, List.length_map, List.length_range]
    · intro index hleft hright
      have hlt : index < runs.length := by
        rw [List.length_map] at hright
        exact hright
      rw [List.getElem_map, List.getElem_map, List.getElem_range, List.getElem?_eq_getElem hlt,
        Option.map_some, Option.getD_some]
  calc Core.rowRunsText frame row
      = (List.range runs.length).flatMap fun index =>
          ((runs[index]?).map RunView.text).getD [] := by
        rw [Core.rowRunsText, hcount]
        simp only [hget]
    _ = runs.flatMap RunView.text := by
        rw [List.flatMap_def, List.flatMap_def, hmap]
    _ = (List.range frame.columns).flatMap fun column => frameCellText frame column row := by
        rw [htiles.flatMap fun run hrun => (hshows run hrun).text, Nat.sub_zero,
          List.range_eq_range']

/-! ## Complete draws -/

section take

variable {tsmUcs4ToUtf8 : Nat → List UInt8} {impl : Impl} {screen : Screen} {draw : Draw}

/-- The frame's grid is laid out, and its row texts are those of the screen. -/
theorem CompleteDraw.gridInvariant (h : CompleteDraw tsmUcs4ToUtf8 impl screen draw)
    (hbytes : viewportBytes tsmUcs4ToUtf8 screen < 4294967296)
    (hskipped : SkippedTextsShown tsmUcs4ToUtf8 impl screen draw) :
    GridInvariant (takenGrid tsmUcs4ToUtf8 impl screen draw) where
  table := h.table.takenGrid
  layout := by
    have hdraw := h.reportedDraw
    have hbelow := hdraw.textBelow4GiB hbytes hskipped
    have hstyles : StyleTable (drawContext impl screen).grid.styles := by
      apply (h.table.drawGrid screen).styleTable
      rw [drawGrid_rows]
      exact screen.heightPos
    rw [takenGrid_eq_rebuiltGrid]
    apply hdraw.layout.rebuild _ hdraw.drawn.change_lt hbelow
    exact List.length_pos_iff.2 (hstyles.growth hdraw.drawn.growth).nonempty
  columns := by
    intro _
    rw [takenGrid_columns h.table]
    exact ⟨screen.widthPos, screen.widthLt⟩

/-- The runs of a row have the texts of all its cells, whatever their width. -/
theorem CompleteDraw.rowRunsText (h : CompleteDraw tsmUcs4ToUtf8 impl screen draw)
    (hbytes : viewportBytes tsmUcs4ToUtf8 screen < 4294967296)
    (hskipped : SkippedTextsShown tsmUcs4ToUtf8 impl screen draw) {row : Nat}
    (hrow : row < screen.height) :
    rowRunsText (takePackedFrame tsmUcs4ToUtf8 impl screen draw) row =
      (List.range screen.width).flatMap fun column =>
        cellBytes tsmUcs4ToUtf8 (screen.cell column row) := by
  have hviews : RowViewsAgree (takePackedFrame tsmUcs4ToUtf8 impl screen draw) row := by
    apply (h.gridInvariant hbytes hskipped).rowViewsAgree
    · exact (takenGrid_columns h.table).symm
    · exact (takenGrid_rows h.table).symm
    · exact hrow
  rw [hviews.rowRunsText]
  apply List.flatMap_congr
  intro column hcolumn
  obtain ⟨view, hview⟩ := hviews.cells column (List.mem_range.1 hcolumn)
  have htext := gridText_of_frameCell hview
  change gridText (takenGrid tsmUcs4ToUtf8 impl screen draw) column row = _ at htext
  rw [takenGrid_eq_rebuiltGrid, h.reportedDraw.gridText hbytes hskipped
    (List.mem_range.1 hcolumn) hrow, Option.some.injEq] at htext
  rw [frameCellText, hview, htext]
  rfl

/-- The runs spell the glyphs exactly if no cell without width has bytes. Both sides speak of the
same draw, and the right one of its screen alone. -/
theorem spellsGlyphs_iff (h : CompleteDraw tsmUcs4ToUtf8 impl screen draw)
    (hbytes : viewportBytes tsmUcs4ToUtf8 screen < 4294967296)
    (hskipped : SkippedTextsShown tsmUcs4ToUtf8 impl screen draw) :
    SpellsGlyphs tsmUcs4ToUtf8 screen (takePackedFrame tsmUcs4ToUtf8 impl screen draw) ↔
      ContinuationsEmpty tsmUcs4ToUtf8 screen := by
  have hdisplayed : ∀ cell, displayedBytes tsmUcs4ToUtf8 cell = cellBytes tsmUcs4ToUtf8 cell ∨
      displayedBytes tsmUcs4ToUtf8 cell = [] := by
    intro cell
    rw [displayedBytes]
    split
    · exact .inl rfl
    · exact .inr rfl
  have hrow : ∀ row < screen.height,
      (rowRunsText (takePackedFrame tsmUcs4ToUtf8 impl screen draw) row =
        (List.range screen.width).flatMap fun column =>
          displayedBytes tsmUcs4ToUtf8 (screen.cell column row)) ↔
      ∀ column < screen.width, displayedBytes tsmUcs4ToUtf8 (screen.cell column row) =
        cellBytes tsmUcs4ToUtf8 (screen.cell column row) := by
    intro row hrow
    rw [h.rowRunsText hbytes hskipped hrow, flatMap_eq_flatMap_iff fun _ _ => hdisplayed _]
    simp only [List.mem_range]
  constructor
  · intro hspells column hcolumn row hlt hwidth
    have hsame := (hrow row hlt).1 (hspells row hlt) column hcolumn
    rw [displayedBytes, if_neg (by omega)] at hsame
    exact hsame.symm
  · intro hempty row hlt
    apply (hrow row hlt).2
    intro column hcolumn
    rw [displayedBytes]
    split
    · rfl
    · exact (hempty column hcolumn row hlt (by omega)).symm

end take

/-! ## A glyph over other cells -/

/-- A wide glyph written over other cells: its second half still stores `symbol`. -/
def overwrittenCell (symbol : List Nat) (column : Nat) : TsmCell :=
  if column = 0 then { codepoints := [0x754c], width := 2 }
  else { codepoints := symbol, width := 0 }

/-- One row of two columns with that glyph in them. -/
def overwrittenScreen (symbol : List Nat) : Screen where
  width := 2
  height := 1
  widthPos := Nat.two_pos
  widthLt := two_lt_unsigned
  heightPos := Nat.one_pos
  cell := fun column _ => overwrittenCell symbol column
  rowId := fun row => row

/-- The first draw of it, which reports both cells as new. -/
def overwrittenDraw (symbol : List Nat) : Draw where
  calls := [⟨overwrittenCell symbol 0, 0, 0, 1⟩, ⟨overwrittenCell symbol 1, 1, 0, 1⟩]
  age := 1

/-- Both columns are reported, and the second one has no width. -/
theorem completeDraw_overwritten {symbol : List Nat}
    (hfit : (cellBytes ucs4ToUtf8 (overwrittenCell symbol 1)).length ≤ 128) :
    CompleteDraw ucs4ToUtf8 (newImpl (overwrittenScreen symbol)) (overwrittenScreen symbol)
      (overwrittenDraw symbol) where
  table := gridTable_empty
  layout := fun _ hrow => absurd hrow List.not_mem_nil
  reports := by
    constructor
    case once => exact (by decide : [(0, 0), (1, 0)].Nodup)
    case all =>
      intro column hcolumn row hrow
      obtain rfl : row = 0 := Nat.lt_one_iff.1 hrow
      rcases Nat.le_one_iff_eq_zero_or_eq_one.1 (Nat.le_of_lt_succ hcolumn) with rfl | rfl
      · exact ⟨_, List.mem_cons_self, rfl, rfl⟩
      · exact ⟨_, List.mem_cons_of_mem _ List.mem_cons_self, rfl, rfl⟩
    case current =>
      intro call hcall _ _
      rcases List.mem_cons.1 hcall with rfl | hcall
      · rfl
      · rw [List.mem_singleton.1 hcall]
        rfl
  fit := by
    intro call hcall
    rcases List.mem_cons.1 hcall with rfl | hcall
    · exact (by decide : (cellBytes ucs4ToUtf8 (overwrittenCell [] 0)).length ≤ 128)
    · rw [List.mem_singleton.1 hcall]
      exact hfit

/-- A first draw looks at every cell. -/
theorem accepts_overwritten (symbol : List Nat) : ∀ call ∈ (overwrittenDraw symbol).calls,
    Accepts (drawContext (newImpl (overwrittenScreen symbol)) (overwrittenScreen symbol)) call := by
  intro call hcall
  have hat : call.column < 2 ∧ call.row < 1 := by
    rcases List.mem_cons.1 hcall with rfl | hcall
    · exact ⟨Nat.two_pos, Nat.one_pos⟩
    · rw [List.mem_singleton.1 hcall]
      exact ⟨Nat.lt_succ_self 1, Nat.one_pos⟩
  refine ⟨?_, ?_, rfl⟩
  · exact hat.1.trans_eq (drawGrid_columns _ (overwrittenScreen symbol)).symm
  · exact hat.2.trans_eq (drawGrid_rows _ (overwrittenScreen symbol)).symm

/-- Over an empty cell. -/
theorem spellsGlyphs_iff_blank : SpellsGlyphs ucs4ToUtf8 (overwrittenScreen [])
    (takePackedFrame ucs4ToUtf8 (newImpl (overwrittenScreen [])) (overwrittenScreen [])
      (overwrittenDraw [])) := by
  refine (spellsGlyphs_iff (completeDraw_overwritten (by decide)) ?_ ?_).2 ?_
  · decide
  · intro call hcall _ _ hskipped
    exact absurd (accepts_overwritten [] call hcall) hskipped
  · intro column _ row _ hwidth
    change cellBytes ucs4ToUtf8 (overwrittenCell [] column) = []
    change (overwrittenCell [] column).width = 0 at hwidth
    rw [overwrittenCell] at hwidth ⊢
    split at hwidth
    · contradiction
    · rename_i hne
      rw [if_neg hne]
      rfl

/-- The second half of the glyph is written over a `b`, and the row reads as the glyph and `b`. -/
theorem not_spellsGlyphs : ¬ ∀ (tsmUcs4ToUtf8 : Nat → List UInt8) (impl : Impl) (screen : Screen)
    (draw : Draw), CompleteDraw tsmUcs4ToUtf8 impl screen draw →
    (∀ call ∈ draw.calls, Accepts (drawContext impl screen) call) → PairsGlyphs screen →
    viewportBytes tsmUcs4ToUtf8 screen < 4294967296 →
    SpellsGlyphs tsmUcs4ToUtf8 screen (takePackedFrame tsmUcs4ToUtf8 impl screen draw) := by
  intro h
  have hpairs : PairsGlyphs (overwrittenScreen [98]) := by
    constructor
    case width => decide
    case lead => decide
    case continuation => decide
  have hbytes : viewportBytes ucs4ToUtf8 (overwrittenScreen [98]) < 4294967296 := by decide
  have hspells := h ucs4ToUtf8 _ _ _ (completeDraw_overwritten (by decide))
    (accepts_overwritten [98]) hpairs hbytes 0 Nat.one_pos
  revert hspells
  decide

end SakuraTerminal.Core
