import SakuraTerminal.Core.TakenFrame
import SakuraTerminal.Core.ShiftDetection
import Mathlib.Algebra.BigOperators.Group.Finset.Basic
import Mathlib.Algebra.Order.BigOperators.Group.Finset

/-!
# Frames and full decodes

A frame is made from the cached grid and the few cells libtsm reports, yet it should show what a
decode of the whole viewport gives (`DecodesViewport`). `CellSource` says where the cell of a frame
comes from: a recorded call, a rotated row that was compared with a call, or the last frame. So a
frame decodes the viewport if the last one did (`GridShows.takenGrid`), unless rows are reused
although neither lines nor the viewport moved. That happens when the lines the core remembers are
those of another viewport (`not_framesDecodeViewport`); apart from it every frame is a full decode
(`framesDecodeViewport`).

The proof has two strands. One is about content, that is code point, width and style, and needs no
bound on texts (`GridShows.takenGrid`). The other is about texts, which are read back from the row
they are packed into, and needs the viewport to stay below 4 GiB (`GridShowsText.takenGrid`). They
are put together with the style table, in which an index is ambiguous once it is full, and with the
layout of the rows, in `DecodedFrame`.

What can go wrong is reuse. Rows are rotated by the distance that the core has observed, and the
cells that libtsm does not report are then taken to be right. If the lines of the viewport have not
moved since the last draw, libtsm has no reason to report them, so the rotation must be justified by
a move (`ReuseJustified`).
-/

set_option autoImplicit false

namespace SakuraTerminal.Core

open SakuraTerminal.Foundations SakuraTerminal.Foundations.InternTable

/-! ## What a full decode gives -/

/-- The view of a cell of libtsm's screen. Its style is that of its attributes, and its text the
encoding of its code points. -/
def decodeCell (tsmUcs4ToUtf8 : Nat → List UInt8) (cell : TsmCell) : CellView where
  codepoint := cellCodepoint cell
  text := cellBytes tsmUcs4ToUtf8 cell
  width := cell.width.toUInt8.toNat
  foreground := (packedStyleFor cell.attr).foreground
  background := (packedStyleFor cell.attr).background
  attributes := (packedStyleFor cell.attr).attributes

/-- The frame shows what decoding the whole viewport gives. The cells are compared in all that
`sakura_terminal_frame_cell` reports. -/
structure DecodesViewport (tsmUcs4ToUtf8 : Nat → List UInt8) (screen : Screen)
    (frame : PackedFrame) : Prop where
  columns : frame.columns = screen.width
  rows : frame.rows = screen.height
  cells : ∀ column < screen.width, ∀ row < screen.height,
    frameCell frame column row = some (decodeCell tsmUcs4ToUtf8 (screen.cell column row))

/-- A packed cell shows a cell of libtsm's screen, but for its text. The index may stand for the
style by being 0 in a full table. -/
structure ShowsCell (styles : List PackedStyle) (cell : TsmCell) (packed : PackedCell) : Prop where
  codepoint : packed.codepoint = cellCodepoint cell
  width : packed.width = cell.width.toUInt8
  style : Stands styleLimit styles packed.styleIndex (packedStyleFor cell.attr)

/-- A grid shows the cells of a screen, but for their texts. -/
def GridShows (screen : Screen) (grid : PackedGrid) : Prop :=
  ∀ column < screen.width, ∀ row < screen.height, ∃ packed,
    gridCell grid column row = some packed ∧
      ShowsCell grid.styles (screen.cell column row) packed

/-- A grid shows the texts of a screen. -/
def GridShowsText (tsmUcs4ToUtf8 : Nat → List UInt8) (screen : Screen) (grid : PackedGrid) : Prop :=
  ∀ column < screen.width, ∀ row < screen.height,
    gridText grid column row = some (cellBytes tsmUcs4ToUtf8 (screen.cell column row))

/-- A longer style table keeps the meaning of the index. -/
theorem ShowsCell.growth {styles styles' : List PackedStyle} {cell : TsmCell}
    {packed packed' : PackedCell} (h : ShowsCell styles cell packed)
    (hgrow : Growth styleLimit styles styles') (hsame : SameContent packed' packed) :
    ShowsCell styles' cell packed' where
  codepoint := hsame.codepoint.trans h.codepoint
  width := hsame.width.trans h.width
  style := by
    rw [hsame.styleIndex]
    exact h.style.growth hgrow

/-- A recorded change shows the cell of its call. -/
theorem Records.showsCell {tsmUcs4ToUtf8 : Nat → List UInt8} {context : PackedDrawContext}
    {call : DrawCall} {change : PackedChangedCell}
    (h : Records tsmUcs4ToUtf8 context call change) {packed : PackedCell}
    (hsame : SameContent packed (changedCellSource context.changedText change).1) :
    ShowsCell context.grid.styles call.cell packed where
  codepoint := hsame.codepoint.trans h.codepoint
  width := by
    rw [hsame.width, ← h.width]
    rfl
  style := by
    rw [hsame.styleIndex]
    exact h.style

/-- A cached cell that matches a call shows its cell and its text. -/
theorem FoundInCache.showsCell {tsmUcs4ToUtf8 : Nat → List UInt8} {context : PackedDrawContext}
    {call : DrawCall} (h : FoundInCache tsmUcs4ToUtf8 context call) :
    (∃ packed, gridCell context.grid call.column call.row = some packed ∧
      ShowsCell context.grid.styles call.cell packed) ∧
    gridText context.grid call.column call.row = some (cellBytes tsmUcs4ToUtf8 call.cell) := by
  obtain ⟨-, index, hstands, hmatch⟩ := h
  rw [cachedCellMatches] at hmatch
  cases hrow : context.grid.rowData[call.row]? with
  | none => simp [hrow] at hmatch
  | some cachedRow =>
    cases hcell : cachedRow.cells[call.column]? with
    | none => simp [hrow, hcell] at hmatch
    | some cached =>
      simp only [hrow, hcell, Bool.and_eq_true, beq_iff_eq] at hmatch
      obtain ⟨⟨⟨hindex, hwidth⟩, hcodepoint⟩, -, htext⟩ := hmatch
      constructor
      · refine ⟨cached, by rw [gridCell, hrow, Option.bind_some, hcell], hcodepoint, ?_, ?_⟩
        · rw [← hwidth, Nat.toUInt8_eq, UInt8.ofNat_toNat]
        · rw [hindex]
          exact hstands
      · rw [gridText, hrow, Option.bind_some, hcell, Option.map_some]
        exact congrArg some htext

/-! ## The size of a viewport -/

/-- The size of all texts of the viewport. -/
def viewportBytes (tsmUcs4ToUtf8 : Nat → List UInt8) (screen : Screen) : Nat :=
  ∑ row ∈ Finset.range screen.height, ∑ column ∈ Finset.range screen.width,
    (cellBytes tsmUcs4ToUtf8 (screen.cell column row)).length

/-- One row is at most as long as the viewport. -/
theorem rowBytes_le_viewportBytes (tsmUcs4ToUtf8 : Nat → List UInt8) (screen : Screen) {row : Nat}
    (hrow : row < screen.height) :
    ((List.range screen.width).flatMap fun column =>
      cellBytes tsmUcs4ToUtf8 (screen.cell column row)).length ≤
        viewportBytes tsmUcs4ToUtf8 screen := by
  rw [List.length_flatMap]
  exact Finset.single_le_sum
    (f := fun row => ∑ column ∈ Finset.range screen.width,
      (cellBytes tsmUcs4ToUtf8 (screen.cell column row)).length)
    (fun _ _ => Nat.zero_le _) (Finset.mem_range.2 hrow)

/-- Calls at different cells, each with the cell displayed there, have no more text than the
viewport. -/
theorem callBytes_le_viewportBytes (tsmUcs4ToUtf8 : Nat → List UInt8) {screen : Screen}
    {grid : PackedGrid} (hcolumns : grid.columns = screen.width) (hrows : grid.rows = screen.height)
    {calls : List DrawCall} (honce : (calls.map fun call => (call.column, call.row)).Nodup)
    (hcurrent : ∀ call ∈ calls, call.column < screen.width → call.row < screen.height →
      call.cell = screen.cell call.column call.row) :
    callBytes tsmUcs4ToUtf8 grid calls ≤ viewportBytes tsmUcs4ToUtf8 screen := by
  -- the size at a position, 0 outside the viewport
  let size : Nat × Nat → Nat := fun p => if p.1 < screen.width ∧ p.2 < screen.height then
    (cellBytes tsmUcs4ToUtf8 (screen.cell p.1 p.2)).length else 0
  have hcalls : callBytes tsmUcs4ToUtf8 grid calls =
      ((calls.map fun call => (call.column, call.row)).map size).sum := by
    rw [callBytes, List.map_map]
    refine congrArg List.sum (List.map_congr_left fun call hcall => ?_)
    simp only [Function.comp, size, hcolumns, hrows]
    by_cases hinside : call.column < screen.width ∧ call.row < screen.height
    · rw [if_pos hinside, if_pos hinside, hcurrent call hcall hinside.1 hinside.2]
    · rw [if_neg hinside, if_neg hinside]
  -- calls at distinct positions sum over a set of positions, all of them in the viewport or of size
  -- 0
  rw [hcalls, ← List.sum_toFinset size honce]
  calc ∑ p ∈ (calls.map fun call => (call.column, call.row)).toFinset, size p
      ≤ ∑ p ∈ Finset.range screen.width ×ˢ Finset.range screen.height, size p := by
        refine Finset.sum_le_sum_of_ne_zero fun p _ hp => ?_
        simp only [size, ne_eq, ite_eq_right_iff, Classical.not_imp] at hp
        simp only [Finset.mem_product, Finset.mem_range]
        exact hp.1
    _ = viewportBytes tsmUcs4ToUtf8 screen := by
        rw [Finset.sum_product_right]
        refine Finset.sum_congr rfl fun row hrow => Finset.sum_congr rfl fun column hcolumn => ?_
        simp only [size]
        rw [if_pos ⟨Finset.mem_range.1 hcolumn, Finset.mem_range.1 hrow⟩]

/-! ## Where the cells of a frame come from -/

/-- Rows are reused only when lines or the viewport moved since the last draw. It is a condition on
the state before the frame, and says nothing of what the frame shows. -/
def ReuseJustified (run : TerminalRun) : Op → Prop
  | .takePackedFrame _ => reuseScrolledRows run.impl run.screen = true →
      run.linesMoved = true ∨ run.viewportMoved = true
  | _ => True

/-- The context when libtsm has drawn. -/
abbrev drawnContext (tsmUcs4ToUtf8 : Nat → List UInt8) (run : TerminalRun) (draw : Draw) :
    PackedDrawContext :=
  drawPass tsmUcs4ToUtf8 (drawContext run.impl run.screen) draw.calls

section take

variable {tsmUcs4ToUtf8 : Nat → List UInt8} {run : TerminalRun} {draw : Draw}

/-- The origin of the cell at a position: a change recorded for a call, a cell of the cache that was
compared with a call, or the same cell of the last frame. The first two are right because of the
call. The third is right if the cell has not changed, which is what libtsm promises by not reporting
it. -/
inductive CellSource (tsmUcs4ToUtf8 : Nat → List UInt8) (run : TerminalRun) (draw : Draw)
    (column row : Nat) : Prop where
  | recorded (call : DrawCall) (change : PackedChangedCell) : call ∈ draw.calls →
      change ∈ (drawnContext tsmUcs4ToUtf8 run draw).changedCells →
      Records tsmUcs4ToUtf8 (drawnContext tsmUcs4ToUtf8 run draw) call change →
      change.column = column → change.row = row → call.cell = run.screen.cell column row →
      CellSource tsmUcs4ToUtf8 run draw column row
  | found (call : DrawCall) : call ∈ draw.calls →
      (∀ change ∈ (drawnContext tsmUcs4ToUtf8 run draw).changedCells,
        ¬ (change.column = column ∧ change.row = row)) →
      FoundInCache tsmUcs4ToUtf8 (drawnContext tsmUcs4ToUtf8 run draw) call →
      call.column = column → call.row = row → call.cell = run.screen.cell column row →
      CellSource tsmUcs4ToUtf8 run draw column row
  | kept (last : Screen × PackedFrame) (older : List (Screen × PackedFrame)) :
      (∀ change ∈ (drawnContext tsmUcs4ToUtf8 run draw).changedCells,
        ¬ (change.column = column ∧ change.row = row)) →
      run.taken = last :: older → drawGrid run.impl run.screen = last.2.grid →
      last.1.width = run.screen.width → last.1.height = run.screen.height →
      last.1.cell column row = run.screen.cell column row →
      CellSource tsmUcs4ToUtf8 run draw column row

/-- A complete draw is one that libtsm was asked to do since 0. -/
theorem drawSince_ne_zero {impl : Impl} {screen : Screen} (h : drawSince impl screen ≠ 0) :
    drawFullRepaint impl screen = false := by
  rw [drawSince] at h
  cases hfull : drawFullRepaint impl screen with
  | false => rfl
  | true =>
    rw [hfull, if_pos rfl] at h
    exact absurd rfl h

/-- A recorded change is the cell displayed at its position. -/
theorem recorded_current {context : PackedDrawContext}
    (hdrawn : DrawnSince tsmUcs4ToUtf8 (drawContext run.impl run.screen) draw.calls context)
    (hcontract : DrawContract tsmUcs4ToUtf8 run draw) {change : PackedChangedCell}
    (hmem : change ∈ context.changedCells) (hcolumn : change.column < run.screen.width)
    (hrow : change.row < run.screen.height) :
    ∃ call ∈ draw.calls, Records tsmUcs4ToUtf8 context call change ∧
      call.cell = run.screen.cell change.column change.row := by
  obtain ⟨call, hcall, -, hrecords⟩ := hdrawn.recorded change hmem
  rw [hrecords.column] at hcolumn ⊢
  rw [hrecords.row] at hrow ⊢
  exact ⟨call, hcall, hrecords, hcontract.current call hcall hcolumn hrow⟩

/-- Under the contract of libtsm every cell of the viewport has a source. -/
theorem cellSource {allowed : TerminalRun → Op → Prop}
    (hreach : (terminalSystem tsmUcs4ToUtf8).Reachable allowed run)
    (hcontract : DrawContract tsmUcs4ToUtf8 run draw)
    (hjust : ReuseJustified run (.takePackedFrame draw)) {column row : Nat}
    (hcolumn : column < run.screen.width) (hrow : row < run.screen.height) :
    CellSource tsmUcs4ToUtf8 run draw column row := by
  have hinv := cacheInvariant hreach
  have hspec : TakeSpec tsmUcs4ToUtf8 run.impl run.screen draw _ := takeSpec hinv.table
  by_cases hchange : ∃ change ∈ (drawnContext tsmUcs4ToUtf8 run draw).changedCells,
      change.column = column ∧ change.row = row
  · obtain ⟨change, hmem, rfl, rfl⟩ := hchange
    obtain ⟨call, hcall, hrecords, hcell⟩ :=
      recorded_current hspec.drawn hcontract hmem hcolumn hrow
    exact .recorded call change hcall hmem hrecords rfl rfl hcell
  · have hno : ∀ change ∈ (drawnContext tsmUcs4ToUtf8 run draw).changedCells,
        ¬ (change.column = column ∧ change.row = row) :=
      fun change hmem hat => hchange ⟨change, hmem, hat⟩
    by_cases hreported : Reported draw (drawSince run.impl run.screen) column row
    · obtain ⟨call, hcall, rfl, rfl, hage⟩ := hreported
      have haccepts := accepts_of_newer hcolumn hrow hage
      have hcell := hcontract.current call hcall hcolumn hrow
      -- the call was accepted, so it was recorded, matched the cache, or its text did not fit
      rcases hspec.drawn.answered call hcall haccepts with ⟨change, hmem, hat⟩ | hfound | hnone
      · exact absurd hat (hno change hmem)
      · exact .found call hcall hno hfound rfl rfl hcell
      · rw [encodeText_of_length_le (hcontract.fit call hcall)] at hnone
        exact absurd hnone (Option.some_ne_none _)
    · -- a cell that is not reported: nothing moved, and the last frame is drawn over in place
      have hquiet : ¬ (drawSince run.impl run.screen = 0 ∨ run.linesMoved = true ∨
          run.viewportMoved = true) :=
        fun h => hreported (hcontract.all h column hcolumn row hrow)
      simp only [not_or] at hquiet
      have hfull := drawSince_ne_zero hquiet.1
      have hreuse : reuseScrolledRows run.impl run.screen = false := by
        cases h : reuseScrolledRows run.impl run.screen with
        | false => rfl
        | true => exact absurd (hjust h) (by simp [hquiet.2.1, hquiet.2.2])
      have hinitial : initialFullRepaint run.impl run.screen = false :=
        (Bool.or_eq_false_iff.1 hfull).1
      simp only [initialFullRepaint, Bool.or_eq_false_iff, Bool.not_eq_false',
        decide_eq_false_iff_not, not_not] at hinitial
      obtain ⟨hvalid, ⟨hlastColumns, hlastRows⟩, -⟩ := hinitial
      have hremembers := remembersTaken hreach
      cases htaken : run.taken with
      | nil =>
        rw [(hremembers.new htaken).1] at hvalid
        exact absurd hvalid Bool.false_ne_true
      | cons last older =>
        have hlast := hremembers.lastTaken htaken
        have hwidth : last.1.width = run.screen.width := by
          rw [hlastColumns, hlast.columns, hlast.frameColumns]
        have hheight : last.1.height = run.screen.height := by
          rw [hlastRows, hlast.rows, hlast.frameRows]
        -- the cell is the one the last frame was taken of: libtsm would have reported a different
        -- one
        refine .kept last older hno htaken ?_ hwidth hheight ?_
        · rw [drawGrid_eq_cachedGrid hinv.table ?_ ?_ hreuse, hlast.grid]
          · rw [hlast.grid, hlast.gridColumns, hlast.frameColumns, hwidth]
          · rw [hlast.grid, hlast.gridRows, hlast.frameRows, hheight]
        · by_contra hne
          refine hreported (hcontract.changed last ?_ column hcolumn row hrow fun h => hne h.symm)
          rw [htaken]
          rfl

/-- The changes of a draw are at distinct positions. -/
theorem changedCells_nodup {context : PackedDrawContext}
    (hdrawn : DrawnSince tsmUcs4ToUtf8 (drawContext run.impl run.screen) draw.calls context)
    (hcontract : DrawContract tsmUcs4ToUtf8 run draw) :
    (context.changedCells.map fun change => (change.column, change.row)).Nodup :=
  hdrawn.positions.nodup hcontract.once

/-- A frame shows the viewport, but for the texts, if the last frame did. -/
theorem GridShows.takenGrid {allowed : TerminalRun → Op → Prop}
    (hreach : (terminalSystem tsmUcs4ToUtf8).Reachable allowed run)
    (hcontract : DrawContract tsmUcs4ToUtf8 run draw)
    (hjust : ReuseJustified run (.takePackedFrame draw))
    (hlast : ∀ taken ∈ run.taken, GridShows taken.1 taken.2.grid) :
    GridShows run.screen (takenGrid tsmUcs4ToUtf8 run.impl run.screen draw) := by
  have hinv := cacheInvariant hreach
  have hspec : TakeSpec tsmUcs4ToUtf8 run.impl run.screen draw _ := takeSpec hinv.table
  have hdrawn := hspec.drawn
  have hgridColumns := drawnGrid_columns hspec
  have hgridRows := drawnGrid_rows hspec
  intro column hcolumn row hrow
  rw [takenGrid_eq, rebuildPackedRows_styles]
  have hcolumn' := hcolumn.trans_eq hgridColumns.symm
  cases cellSource hreach hcontract hjust hcolumn hrow with
  | recorded call change hcall hmem hrecords hc hr hcell =>
    subst hc hr
    have hlen := (hinv.table.drawGrid run.screen).drawn hdrawn
    obtain ⟨packed, hpacked, hsame, -⟩ := gridCell_rebuild_changed
      (drawnContext tsmUcs4ToUtf8 run draw).changedText
      (changedCells_nodup hdrawn hcontract) hmem hcolumn' (by rw [hlen.rows, hgridRows]; exact hrow)
    refine ⟨packed, hpacked, ?_⟩
    rw [← hcell]
    exact hrecords.showsCell hsame
  | found call hcall hno hfound hc hr hcell =>
    subst hc hr
    obtain ⟨⟨packed, hpacked, hshows⟩, -⟩ := hfound.showsCell
    obtain ⟨packed', hpacked', hsame⟩ := gridCell_rebuild_unchanged
      (drawnContext tsmUcs4ToUtf8 run draw).changedText hcolumn' hno hpacked
    refine ⟨packed', hpacked', ?_⟩
    rw [← hcell]
    exact hshows.growth (.refl _ _) hsame
  -- the last frame showed this cell; the rebuild keeps its content, and the style table only grew
  | kept last older hno htaken hgrid hwidth hheight hcell =>
    obtain ⟨packed, hpacked, hshows⟩ := hlast last (by rw [htaken]; exact List.mem_cons_self)
      column (hwidth ▸ hcolumn) row (hheight ▸ hrow)
    have hrowData : (drawnContext tsmUcs4ToUtf8 run draw).grid.rowData = last.2.grid.rowData :=
      hdrawn.setting.rowData.trans (congrArg PackedGrid.rowData hgrid)
    obtain ⟨packed', hpacked', hsame⟩ := gridCell_rebuild_unchanged
      (drawnContext tsmUcs4ToUtf8 run draw).changedText hcolumn' hno
      (by rw [gridCell, hrowData]; exact hpacked)
    refine ⟨packed', hpacked', ?_⟩
    rw [← hcell]
    refine hshows.growth ?_ hsame
    have hgrowth := hdrawn.growth
    change Growth styleLimit (drawGrid run.impl run.screen).styles _ at hgrowth
    rwa [hgrid] at hgrowth

/-- The texts of all changes together are below 4 GiB if those of the viewport are. -/
theorem changedText_lt
    (hdrawn : DrawnSince tsmUcs4ToUtf8 (drawContext run.impl run.screen) draw.calls
      (drawnContext tsmUcs4ToUtf8 run draw))
    (hcontract : DrawContract tsmUcs4ToUtf8 run draw)
    (hbytes : viewportBytes tsmUcs4ToUtf8 run.screen < 4294967296) :
    (drawnContext tsmUcs4ToUtf8 run draw).changedText.length < 4294967296 := by
  have hlen := hdrawn.textLength
  have hcalls := callBytes_le_viewportBytes tsmUcs4ToUtf8
    (drawGrid_columns run.impl run.screen) (drawGrid_rows run.impl run.screen)
    hcontract.once hcontract.current
  change _ ≤ 0 + callBytes tsmUcs4ToUtf8 (drawGrid run.impl run.screen) draw.calls at hlen
  rw [Nat.zero_add] at hlen
  exact (hlen.trans hcalls).trans_lt hbytes

/-- So every change reads the text of the displayed cell back. -/
theorem changedCellSource_text
    (hdrawn : DrawnSince tsmUcs4ToUtf8 (drawContext run.impl run.screen) draw.calls
      (drawnContext tsmUcs4ToUtf8 run draw))
    (hcontract : DrawContract tsmUcs4ToUtf8 run draw)
    (hbytes : viewportBytes tsmUcs4ToUtf8 run.screen < 4294967296) {change : PackedChangedCell}
    (hmem : change ∈ (drawnContext tsmUcs4ToUtf8 run draw).changedCells)
    (hcolumn : change.column < run.screen.width) (hrow : change.row < run.screen.height) :
    (changedCellSource (drawnContext tsmUcs4ToUtf8 run draw).changedText change).2 =
      cellBytes tsmUcs4ToUtf8 (run.screen.cell change.column change.row) := by
  obtain ⟨call, -, hrecords, hcell⟩ := recorded_current hdrawn hcontract hmem hcolumn hrow
  rw [← hcell]
  exact (hrecords.text (changedText_lt hdrawn hcontract hbytes)).2

/-- A cell without a change has the displayed text before the rows are rebuilt. -/
theorem gridText_drawnContext {allowed : TerminalRun → Op → Prop}
    (hreach : (terminalSystem tsmUcs4ToUtf8).Reachable allowed run)
    (hcontract : DrawContract tsmUcs4ToUtf8 run draw)
    (hjust : ReuseJustified run (.takePackedFrame draw))
    (hlast : ∀ taken ∈ run.taken, GridShowsText tsmUcs4ToUtf8 taken.1 taken.2.grid)
    {column row : Nat} (hcolumn : column < run.screen.width) (hrow : row < run.screen.height)
    (hno : ∀ change ∈ (drawnContext tsmUcs4ToUtf8 run draw).changedCells,
      ¬ (change.column = column ∧ change.row = row)) :
    gridText (drawnContext tsmUcs4ToUtf8 run draw).grid column row =
      some (cellBytes tsmUcs4ToUtf8 (run.screen.cell column row)) := by
  have hspec : TakeSpec tsmUcs4ToUtf8 run.impl run.screen draw _ :=
    takeSpec (cacheInvariant hreach).table
  cases cellSource hreach hcontract hjust hcolumn hrow with
  | recorded call change hcall hmem hrecords hc hr hcell =>
    exact absurd ⟨hc, hr⟩ (hno change hmem)
  | found call hcall hno hfound hc hr hcell =>
    subst hc hr
    rw [← hcell]
    exact hfound.showsCell.2
  | kept last older hno htaken hgrid hwidth hheight hcell =>
    have htext := hlast last (by rw [htaken]; exact List.mem_cons_self)
      column (hwidth ▸ hcolumn) row (hheight ▸ hrow)
    have hrowData : (drawnContext tsmUcs4ToUtf8 run draw).grid.rowData = last.2.grid.rowData :=
      hspec.drawn.setting.rowData.trans (congrArg PackedGrid.rowData hgrid)
    rw [gridText, hrowData, ← hcell]
    exact htext

/-- A whole row is as long as the row libtsm displays, so it stays below 4 GiB. -/
theorem textBelow4GiB_takenGrid {allowed : TerminalRun → Op → Prop}
    (hreach : (terminalSystem tsmUcs4ToUtf8).Reachable allowed run)
    (hcontract : DrawContract tsmUcs4ToUtf8 run draw)
    (hjust : ReuseJustified run (.takePackedFrame draw))
    (hbytes : viewportBytes tsmUcs4ToUtf8 run.screen < 4294967296)
    (hlayout : GridLayout (drawnContext tsmUcs4ToUtf8 run draw).grid)
    (hlast : ∀ taken ∈ run.taken, GridShowsText tsmUcs4ToUtf8 taken.1 taken.2.grid) :
    TextBelow4GiB (takenGrid tsmUcs4ToUtf8 run.impl run.screen draw) := by
  have hinv := cacheInvariant hreach
  have hspec : TakeSpec tsmUcs4ToUtf8 run.impl run.screen draw _ := takeSpec hinv.table
  have hgridColumns := drawnGrid_columns hspec
  have htable := (hinv.table.drawGrid run.screen).drawn hspec.drawn
  rw [takenGrid_eq]
  intro source hsource
  obtain ⟨row, hrowSource⟩ := List.mem_iff_getElem?.1 hsource
  have hrow : row < run.screen.height := by
    have hlt := (List.getElem?_eq_some_iff.1 hrowSource).1
    rwa [rebuildPackedRows_length, htable.rows, drawnGrid_rows hspec] at hlt
  have htext : source.text = (List.range _).flatMap fun column =>
      cellBytes tsmUcs4ToUtf8 (run.screen.cell column row) :=
    rebuildPackedRows_text hlayout (changedCells_nodup hspec.drawn hcontract) hrowSource ?_ ?_
  · rw [hgridColumns] at htext
    have hle := rowBytes_le_viewportBytes tsmUcs4ToUtf8 run.screen hrow
    rw [← htext] at hle
    omega
  · intro column hcolumn hno
    exact gridText_drawnContext hreach hcontract hjust hlast (hgridColumns ▸ hcolumn) hrow hno
  · rintro change hmem rfl hcolumn
    exact changedCellSource_text hspec.drawn hcontract hbytes hmem (hgridColumns ▸ hcolumn) hrow

/-- The same for the texts, while the texts of the viewport stay below 4 GiB. -/
theorem GridShowsText.takenGrid {allowed : TerminalRun → Op → Prop}
    (hreach : (terminalSystem tsmUcs4ToUtf8).Reachable allowed run)
    (hcontract : DrawContract tsmUcs4ToUtf8 run draw)
    (hjust : ReuseJustified run (.takePackedFrame draw))
    (hbytes : viewportBytes tsmUcs4ToUtf8 run.screen < 4294967296)
    (hgrid : GridReachable tsmUcs4ToUtf8 (cachedGrid run.impl))
    (hlast : ∀ taken ∈ run.taken, GridShowsText tsmUcs4ToUtf8 taken.1 taken.2.grid) :
    TextBelow4GiB (takenGrid tsmUcs4ToUtf8 run.impl run.screen draw) ∧
      GridShowsText tsmUcs4ToUtf8 run.screen
        (takenGrid tsmUcs4ToUtf8 run.impl run.screen draw) := by
  have hinv := cacheInvariant hreach
  have hspec : TakeSpec tsmUcs4ToUtf8 run.impl run.screen draw _ := takeSpec hinv.table
  have hgridColumns := drawnGrid_columns hspec
  have hlayout := (hgrid.drawGrid run.screen).invariant.layout.drawn hspec.drawn
  have htable := (hinv.table.drawGrid run.screen).drawn hspec.drawn
  have hnodup := changedCells_nodup hspec.drawn hcontract
  have hbelow := textBelow4GiB_takenGrid hreach hcontract hjust hbytes hlayout hlast
  refine ⟨hbelow, fun column hcolumn row hrow => ?_⟩
  rw [takenGrid_eq] at hbelow ⊢
  have hcolumn' := hcolumn.trans_eq hgridColumns.symm
  -- a position with a change shows the text of its call, every other one the text it had
  by_cases hchange : ∃ change ∈ (drawnContext tsmUcs4ToUtf8 run draw).changedCells,
      change.column = column ∧ change.row = row
  · obtain ⟨change, hmem, rfl, rfl⟩ := hchange
    obtain ⟨-, -, -, htext⟩ := gridCell_rebuild_changed
      (drawnContext tsmUcs4ToUtf8 run draw).changedText hnodup hmem hcolumn'
      (by rw [htable.rows, drawnGrid_rows hspec]; exact hrow)
    rw [htext hbelow, changedCellSource_text hspec.drawn hcontract hbytes hmem hcolumn hrow]
  · have hno : ∀ change ∈ (drawnContext tsmUcs4ToUtf8 run draw).changedCells,
        ¬ (change.column = column ∧ change.row = row) :=
      fun change hmem hat => hchange ⟨change, hmem, hat⟩
    rw [gridText_rebuild_unchanged hlayout hbelow hcolumn' hno]
    exact gridText_drawnContext hreach hcontract hjust hlast hcolumn hrow hno

end take

/-! ## Runs -/

/-- Output leaves the viewport at the end of the scrollback, or on the lines it was scrolled back
to. A terminal that scrolls back stays there while output arrives. -/
def KeepsViewport (before after : Screen) : Prop :=
  if before.sbLinePos < before.sbLineCount then
    -- scrolled back: the viewport stays on its lines, however much output follows
    after.sbLinePos = before.sbLinePos ∧ after.sbLinePos < after.sbLineCount
  else after.sbLineCount ≤ after.sbLinePos

/-- What is assumed of libtsm: lines have different ids, output does not move the viewport, and a
draw keeps its contract. The styles of all cells are among `styles`. The core checks none of
this. -/
def LibtsmContract (tsmUcs4ToUtf8 : Nat → List UInt8) (styles : Finset PackedStyle)
    (run : TerminalRun) (op : Op) : Prop :=
  run.screen.rowIds.Nodup ∧
    match op with
    | .feedOutput _ after => KeepsViewport run.screen after
    | .takePackedFrame draw => DrawContract tsmUcs4ToUtf8 run draw ∧
        ∀ column < run.screen.width, ∀ row < run.screen.height,
          packedStyleFor (run.screen.cell column row).attr ∈ styles
    | _ => True

/-- The texts of the viewport stay below 4 GiB when a frame is taken. -/
def ViewportBelow4GiB (tsmUcs4ToUtf8 : Nat → List UInt8) (run : TerminalRun) : Op → Prop
  | .takePackedFrame _ => viewportBytes tsmUcs4ToUtf8 run.screen < 4294967296
  | _ => True

/-- The condition under which frames are full decodes. -/
def DecodeAllowed (tsmUcs4ToUtf8 : Nat → List UInt8) (styles : Finset PackedStyle)
    (run : TerminalRun) (op : Op) : Prop :=
  LibtsmContract tsmUcs4ToUtf8 styles run op ∧ ReuseJustified run op ∧
    ViewportBelow4GiB tsmUcs4ToUtf8 run op

section run

variable {tsmUcs4ToUtf8 : Nat → List UInt8} {styles : Finset PackedStyle}

/-- A style table without duplicates whose entries are the default style or from `styles`. -/
structure StylesAmong (styles : Finset PackedStyle) (table : List PackedStyle) : Prop where
  nodup : table.Nodup
  among : ∀ style ∈ table, style ∈ insert {} styles

theorem StylesAmong.ensured {grid : PackedGrid} (h : StylesAmong styles grid.styles) :
    StylesAmong styles (ensuredStyles grid) := by
  by_cases hne : grid.styles = []
  · have hdefault : ensuredStyles grid = [{}] := by simp [ensuredStyles, hne]
    rw [hdefault]
    refine ⟨List.nodup_singleton _, fun style hstyle => ?_⟩
    rw [List.mem_singleton.1 hstyle]
    exact Finset.mem_insert_self _ _
  · rwa [ensuredStyles_of_ne_nil hne]

/-- A draw of cells with styles from `styles` keeps the table among them. -/
theorem StylesAmong.takenGrid {impl : Impl} {screen : Screen} {draw : Draw}
    (htable : GridTable (cachedGrid impl)) (h : StylesAmong styles (cachedGrid impl).styles)
    (hcurrent : ∀ call ∈ draw.calls, call.column < screen.width → call.row < screen.height →
      call.cell = screen.cell call.column call.row)
    (hstyles : ∀ column < screen.width, ∀ row < screen.height,
      packedStyleFor (screen.cell column row).attr ∈ styles) :
    StylesAmong styles (takenGrid tsmUcs4ToUtf8 impl screen draw).styles := by
  have hspec : TakeSpec tsmUcs4ToUtf8 impl screen draw _ := takeSpec htable
  have hstart : StylesAmong styles (drawContext impl screen).grid.styles := by
    change StylesAmong styles (drawGrid impl screen).styles
    rw [drawGrid_styles]
    exact h.ensured
  rw [takenGrid_eq, rebuildPackedRows_styles]
  constructor
  · exact hspec.drawn.nodup hstart.nodup
  · intro style hstyle
    rcases hspec.drawn.styles style hstyle with hold | ⟨call, hcall, haccepts, rfl⟩
    · exact hstart.among style hold
    · obtain ⟨hcolumn, hrow, -⟩ := haccepts
      change call.column < (drawGrid impl screen).columns at hcolumn
      change call.row < (drawGrid impl screen).rows at hrow
      rw [drawGrid_columns] at hcolumn
      rw [drawGrid_rows] at hrow
      rw [hcurrent call hcall hcolumn hrow]
      exact Finset.mem_insert_of_mem (hstyles _ hcolumn _ hrow)

/-- While fewer styles than the limit occur, an index stands for a style by being its index. -/
theorem StylesAmong.getElem? {table : List PackedStyle} (h : StylesAmong styles table)
    (hcard : styles.card < styleLimit) {style : PackedStyle} (hstyle : style ∈ styles) {index : Nat}
    (hstands : Stands styleLimit table index style) : table[index]? = some style := by
  have hmem : style ∈ table :=
    hstands.mem_of_card_le h.nodup h.among (Finset.mem_insert_of_mem hstyle)
      ((Finset.card_insert_le _ _).trans hcard)
  rw [hstands.getElem?, shown, if_pos hmem]

/-- What every frame of a run has. It is the induction hypothesis for the frame after it. -/
structure DecodedFrame (tsmUcs4ToUtf8 : Nat → List UInt8) (styles : Finset PackedStyle)
    (taken : Screen × PackedFrame) : Prop where
  reachable : GridReachable tsmUcs4ToUtf8 taken.2.grid
  shows : GridShows taken.1 taken.2.grid
  texts : GridShowsText tsmUcs4ToUtf8 taken.1 taken.2.grid
  table : StylesAmong styles taken.2.grid.styles
  decodes : DecodesViewport tsmUcs4ToUtf8 taken.1 taken.2

/-- A grid that shows the screen makes a frame that decodes it. -/
theorem decodesViewport_of_grid {screen : Screen} {frame : PackedFrame}
    (hcolumns : frame.columns = screen.width) (hrows : frame.rows = screen.height)
    (hgridColumns : frame.columns = frame.grid.columns) (hlayout : GridLayout frame.grid)
    (hcard : styles.card < styleLimit) (htable : StylesAmong styles frame.grid.styles)
    (hstyles : ∀ column < screen.width, ∀ row < screen.height,
      packedStyleFor (screen.cell column row).attr ∈ styles)
    (hshows : GridShows screen frame.grid)
    (htexts : GridShowsText tsmUcs4ToUtf8 screen frame.grid) :
    DecodesViewport tsmUcs4ToUtf8 screen frame := by
  refine ⟨hcolumns, hrows, fun column hcolumn row hrow => ?_⟩
  obtain ⟨packed, hpacked, hcell⟩ := hshows column hcolumn row hrow
  have hstyle := htable.getElem? hcard (hstyles column hcolumn row hrow) hcell.style
  rw [frameCell_of_grid hlayout hgridColumns (hrows ▸ hrow) hpacked
    (htexts column hcolumn row hrow) hstyle, hcell.codepoint, hcell.width]
  rfl

/-- A new frame is decoded if all frames before it are. -/
theorem decodedFrame_step {run : TerminalRun} {draw : Draw} (hcard : styles.card < styleLimit)
    (hreach : (terminalSystem tsmUcs4ToUtf8).Reachable (DecodeAllowed tsmUcs4ToUtf8 styles) run)
    (hbefore : ∀ taken ∈ run.taken, DecodedFrame tsmUcs4ToUtf8 styles taken)
    (hallowed : DecodeAllowed tsmUcs4ToUtf8 styles run (.takePackedFrame draw)) :
    DecodedFrame tsmUcs4ToUtf8 styles
      (run.screen, takePackedFrame tsmUcs4ToUtf8 run.impl run.screen draw) := by
  obtain ⟨⟨-, hcontract, hstyles⟩, hjust, hbytes⟩ := hallowed
  have hinv := cacheInvariant hreach
  -- the cache is empty or the grid of the last frame
  have hcache : GridReachable tsmUcs4ToUtf8 (cachedGrid run.impl) ∧
      StylesAmong styles (cachedGrid run.impl).styles := by
    have hremembers := remembersTaken hreach
    cases htaken : run.taken with
    | nil =>
      have hnone : cachedGrid run.impl = {} := by
        rw [cachedGrid, (hremembers.new htaken).2]
        rfl
      rw [hnone]
      exact ⟨.empty, List.nodup_nil, fun style h => absurd h List.not_mem_nil⟩
    | cons last older =>
      have hlast := hbefore last (by rw [htaken]; exact List.mem_cons_self)
      rw [(hremembers.lastTaken htaken).grid]
      exact ⟨hlast.reachable, hlast.table⟩
  have hshows := GridShows.takenGrid hreach hcontract hjust fun taken h => (hbefore taken h).shows
  obtain ⟨hbelow, htexts⟩ := GridShowsText.takenGrid hreach hcontract hjust hbytes hcache.1
    fun taken h => (hbefore taken h).texts
  -- the four parts of a decode: contents, texts, the style table, and the layout the views read
  have htable : StylesAmong styles (takenGrid tsmUcs4ToUtf8 run.impl run.screen draw).styles :=
    hcache.2.takenGrid hinv.table hcontract.current hstyles
  have hreachable := hcache.1.takenGrid hbelow
  exact
    { reachable := hreachable
      shows := hshows
      texts := htexts
      table := htable
      decodes := decodesViewport_of_grid rfl rfl (takenGrid_columns hinv.table).symm
        hreachable.invariant.layout hcard htable hstyles hshows htexts }

/-- Every frame of a run has these properties. -/
theorem decodedFrame_of_reachable (hcard : styles.card < styleLimit) {run : TerminalRun}
    (h : (terminalSystem tsmUcs4ToUtf8).Reachable (DecodeAllowed tsmUcs4ToUtf8 styles) run) :
    ∀ taken ∈ run.taken, DecodedFrame tsmUcs4ToUtf8 styles taken := by
  refine forall_taken ?_ h
  intro run draw hreach hbefore hallowed
  exact decodedFrame_step hcard hreach hbefore hallowed

/-- Every frame of a run is a full decode of the viewport. -/
theorem framesDecodeViewport (tsmUcs4ToUtf8 : Nat → List UInt8) {styles : Finset PackedStyle}
    (hcard : styles.card < 65535) {run : TerminalRun}
    (h : (terminalSystem tsmUcs4ToUtf8).Reachable (DecodeAllowed tsmUcs4ToUtf8 styles) run) :
    ∀ taken ∈ run.taken, DecodesViewport tsmUcs4ToUtf8 taken.1 taken.2 := by
  intro taken htaken
  exact (decodedFrame_of_reachable hcard h taken htaken).decodes

/-! ## When reuse is justified -/

/-- Output arrives only while the core remembers the lines of the viewport: the viewport was not
scrolled since the last output or resize. This is a condition on the calls of the user, where
`ReuseJustified` is one on the state. -/
def FedInPlace (run : TerminalRun) : Op → Prop
  | .feedOutput _ _ => run.impl.observedLines = run.screen.rowIds
  | _ => True

/-- Lines with different ids have not moved relative to themselves. -/
theorem detectFullScreenShift_self {screen : Screen} (hnodup : screen.rowIds.Nodup) :
    detectFullScreenShift screen.rowIds screen = 0 := by
  apply detectFullScreenShift_eq_zero screen.length_rowIds
  intro d
  -- the first line stayed
  exact not_isShift_of_fixed rfl hnodup hnodup (.inl rfl)

/-- Output that moves the pending scroll has moved lines. -/
theorem rowIds_ne_of_observedDelta {before after : Screen} (hnodup : before.rowIds.Nodup)
    {alternate : Bool} (hdelta : observedDelta before.rowIds alternate after ≠ 0) :
    after.rowIds ≠ before.rowIds := by
  intro hsame
  rw [← hsame] at hnodup hdelta
  rw [observedDelta, detectFullScreenShift_self hnodup, ite_self] at hdelta
  exact hdelta rfl

/-- With output in place, a pending scroll of the content means that lines moved. -/
theorem linesMoved_of_pending {allowed : TerminalRun → Op → Prop}
    (hallowed : ∀ run op, allowed run op → run.screen.rowIds.Nodup ∧ FedInPlace run op)
    {run : TerminalRun} (h : (terminalSystem tsmUcs4ToUtf8).Reachable allowed run) :
    run.impl.pendingContentScrollDelta ≠ 0 → run.linesMoved = true := by
  refine h.invariant
    (I := fun run => run.impl.pendingContentScrollDelta ≠ 0 → run.linesMoved = true) ?_ ?_
  · rintro _ ⟨screen, rfl⟩ hne
    exact absurd rfl hne
  · intro run op run' _ hrun hop hstep hne
    rw [hstep] at hne ⊢
    have hmoved : run.linesMoved = true → ∀ after : Screen,
        (run.linesMoved || decide (after.rowIds ≠ run.screen.rowIds)) = true :=
      fun h after => by simp [h]
    obtain ⟨hnodup, hplace⟩ := hallowed run op hop
    -- only output adds to the pending scroll, and only taking a frame or a resize clears it
    cases op with
    | feedOutput data after =>
      change run.impl.observedLines = run.screen.rowIds at hplace
      change (feedOutput run.impl run.screen data after).pendingContentScrollDelta ≠ 0 at hne
      by_cases hpending : run.impl.pendingContentScrollDelta = 0
      · -- the pending scroll is the one observed now
        have hdelta :
            observedDelta run.screen.rowIds run.impl.observedAlternateScreen after ≠ 0 := by
          have hlen : ¬ run.impl.observedLines.length ≠ run.screen.height := by
            rw [hplace]
            simp [Screen.rowIds]
          rw [feedOutput] at hne
          by_cases hdata : data = []
          · rw [if_pos hdata] at hne
            exact absurd hpending hne
          · simp only [if_neg hdata, if_neg hlen] at hne
            change run.impl.pendingContentScrollDelta +
              observedDelta run.impl.observedLines run.impl.observedAlternateScreen after ≠ 0 at hne
            rwa [hpending, Int.zero_add, hplace] at hne
        have hne := rowIds_ne_of_observedDelta hnodup hdelta
        simp [TerminalRun.next, TerminalRun.shows, hne]
      · exact hmoved (hrun hpending) after
    | scrollLines lines after =>
      have hsame : (scrollLines run.impl lines run.screen after).pendingContentScrollDelta =
          run.impl.pendingContentScrollDelta := by
        rw [scrollLines]
        split <;> rfl
      exact hmoved (hrun (hsame ▸ hne)) after
    | scrollPageUp pages after => exact hmoved (hrun hne) after
    | scrollPageDown pages after => exact hmoved (hrun hne) after
    | resize after => exact absurd rfl hne
    | input after => exact hmoved (hrun hne) after
    | takePackedFrame draw => exact absurd rfl hne

/-- Output in place justifies every reuse of rows, so such runs only show full decodes. -/
theorem framesDecodeViewport_of_fedInPlace (hcard : styles.card < 65535) {run : TerminalRun}
    (h : (terminalSystem tsmUcs4ToUtf8).Reachable
      (fun run op => LibtsmContract tsmUcs4ToUtf8 styles run op ∧ FedInPlace run op ∧
        ViewportBelow4GiB tsmUcs4ToUtf8 run op) run) :
    ∀ taken ∈ run.taken, DecodesViewport tsmUcs4ToUtf8 taken.1 taken.2 := by
  have hallowed : (terminalSystem tsmUcs4ToUtf8).Reachable
      (DecodeAllowed tsmUcs4ToUtf8 styles) run := by
    refine h.mono fun run op hreach hop => ⟨hop.1, ?_, hop.2.2⟩
    cases op with
    | takePackedFrame draw =>
      intro hreuse
      exact Or.inl (linesMoved_of_pending (fun _ _ h => ⟨h.1.1, h.2.1⟩) hreach
        (reuseScrolledRows_spec hreuse).2.1)
    | _ => trivial
  intro taken htaken
  exact (decodedFrame_of_reachable hcard hallowed taken htaken).decodes

end run

/-- A frame, output that scrolls one line, and the frame that reuses the scrolled row. -/
def scrolledRun : TerminalRun :=
  (newRun (linesScreen 0 0)).calls ucs4ToUtf8
    [.takePackedFrame (linesDraw 0 1), .feedOutput [10] (linesScreen 1 1),
      .takePackedFrame (linesDraw 1 2)]

/-- Both frames of this run are full decodes. -/
theorem framesDecodeViewport_scroll : scrolledRun.taken.length = 2 ∧
    ∀ taken ∈ scrolledRun.taken, DecodesViewport ucs4ToUtf8 taken.1 taken.2 := by
  refine ⟨by decide, @framesDecodeViewport ucs4ToUtf8 {{}} (by decide) _
    (reachable_calls (.init ⟨_, rfl⟩)
      ⟨⟨⟨by decide, ⟨by decide, by decide, by decide, by decide, ?_, ?_⟩, by decide⟩, ?_, ?_⟩,
        ⟨⟨by decide, ?_⟩, trivial, trivial⟩,
        ⟨⟨by decide, ⟨by decide, by decide, by decide, by decide, ?_, ?_⟩, by decide⟩, ?_, ?_⟩,
        trivial⟩)⟩
  · exact fun _ => by decide
  · decide
  · exact fun h => absurd h (by decide)
  · change viewportBytes ucs4ToUtf8 _ < _
    decide
  · change KeepsViewport _ _
    rw [KeepsViewport]
    decide
  · exact fun _ => by decide
  · decide
  · exact fun _ => by decide
  · change viewportBytes ucs4ToUtf8 _ < _
    decide

/-- Output scrolls one line, the viewport is scrolled back, output changes nothing, and the viewport
is scrolled to the end again: the core still remembers the lines of the scrolled viewport. The next
output is taken for a scroll, and the frame after it reuses rows that did not move. -/
def staleLines : List Op :=
  [.feedOutput [10] (linesScreen 1 1), .takePackedFrame (linesDraw 1 1),
    .scrollLines 1 (linesScreen 0 1), .feedOutput [7] (linesScreen 0 1),
    .scrollLines (-1) (linesScreen 1 1), .takePackedFrame (linesDraw 1 2),
    .feedOutput [7] (linesScreen 1 1), .takePackedFrame ⟨[], 2⟩]

/-- Without the condition on reuse, the contract of libtsm does not make frames full decodes. -/
theorem not_framesDecodeViewport : ¬ ∀ run, (terminalSystem ucs4ToUtf8).Reachable
    (LibtsmContract ucs4ToUtf8 {{}}) run →
    ∀ taken ∈ run.taken, DecodesViewport ucs4ToUtf8 taken.1 taken.2 := by
  intro h
  have hreach : (terminalSystem ucs4ToUtf8).Reachable (LibtsmContract ucs4ToUtf8 {{}})
      ((newRun (linesScreen 0 0)).calls ucs4ToUtf8 staleLines) := by
    refine reachable_calls (.init ⟨_, rfl⟩) ⟨⟨by decide, ?_⟩,
      ⟨by decide, ⟨by decide, by decide, by decide, by decide, ?_, ?_⟩, by decide⟩,
      ⟨by decide, trivial⟩, ⟨by decide, ?_⟩, ⟨by decide, trivial⟩,
      ⟨by decide, ⟨by decide, by decide, by decide, by decide, ?_, ?_⟩, by decide⟩,
      ⟨by decide, ?_⟩,
      ⟨by decide, ⟨by decide, by decide, by decide, by decide, ?_, ?_⟩, by decide⟩, trivial⟩
    · change KeepsViewport _ _
      rw [KeepsViewport]
      decide
    · exact fun _ => by decide
    · decide
    · change KeepsViewport _ _
      rw [KeepsViewport]
      decide
    · exact fun _ => by decide
    · decide
    · change KeepsViewport _ _
      rw [KeepsViewport]
      decide
    · exact fun h => absurd h (by decide)
    · decide
  -- row 0 of the last frame shows `C` where libtsm displays `B`
  have hcells := (h _ hreach _ List.mem_cons_self).cells 0 (by decide) 0 (by decide)
  revert hcells
  decide

end SakuraTerminal.Core
