import SakuraTerminal.Core.DirtyRegion
import SakuraTerminal.Core.RebuildRows
import SakuraTerminal.Foundations.InternTable
import Mathlib.Algebra.GroupWithZero.Nat

/-!
# The draw callback

libtsm calls `DrawPackedCell` for the cells of the screen; the callback interns their styles, skips
the cells whose cached value is right already, and records the others with their text, their dirty
rectangle and their spans. `DrawOutcome` lists what one call can do, and `DrawnSince` is what a
whole pass of calls leaves behind (`drawnSince_drawPass`): every recorded cell comes from a call
and is covered by the spans, and every call that reports a change is recorded or was found in the
cache.

`tsm_ucs4_to_utf8` is part of libtsm and a parameter here.

A call outside of the grid, or of a cell that has not changed since the last draw and is not a
cursor cell, is ignored. A text that does not fit into the buffer of the callback drops the cell but
leaves its style in the table. `cachedCellMatches` is the test that makes the reuse of scrolled rows
cheap: the rotated cache already has the cell. It compares everything that a frame shows of a cell,
which is why skipping it is sound where the rows really moved, and only there.

`Records` ties a recorded cell to its call, with a text that may be read back as long as the buffer
of texts stays below 4 GiB, and `DrawnSince` is the invariant of a pass. It is stated against the
context before the first call, so it composes over any number of calls (`DrawnSince.step`).
-/

set_option autoImplicit false

namespace SakuraTerminal.Core

open SakuraTerminal.Foundations SakuraTerminal.Foundations.InternTable

/-- What libtsm displays at one position: the code points of the symbol (none for an empty cell),
its width in columns (0 in the second half of a wide glyph) and its attributes. -/
structure TsmCell where
  codepoints : List Nat := []
  width : Nat := 1
  attr : TsmScreenAttr := {}
  deriving DecidableEq, Repr

/-- The arguments of one call of the draw callback. The age is libtsm's own count of draws, at which
the cell changed last. -/
structure DrawCall where
  cell : TsmCell
  column : Nat
  row : Nat
  age : Nat
  deriving DecidableEq, Repr

/-- What the callback reads and fills. The first five fields grow with the calls, and the others are
set before the draw: the age of the last draw, whether all cells are repainted, both cursors, and
whether the grid was rotated so that scrolled rows can be reused. -/
structure PackedDrawContext where
  grid : PackedGrid
  changedCells : List PackedChangedCell := []
  changedText : List UInt8 := []
  dirtySpans : List DirtySpan := []
  dirty : DirtyRegion := {}
  previousAge : Nat := 0
  fullRepaint : Bool := false
  cursorChanged : Bool := false
  previousCursorX : Nat := 0
  previousCursorY : Nat := 0
  cursorX : Nat := 0
  cursorY : Nat := 0
  reuseScrolledRows : Bool := false
  deriving DecidableEq, Repr

/-- The code point of a packed cell: a space or 0 for a symbol without code points. -/
def cellCodepoint (cell : TsmCell) : Nat :=
  match cell.codepoints with
  | [] => if cell.width = 0 then 0 else space
  | codepoint :: _ => codepoint

/-- The test `changed` of the callback. libtsm reports an age of 0 where it does not know, and the
cells of both cursors are repainted whatever their age if the cursor changed. -/
def reportsChange (context : PackedDrawContext) (call : DrawCall) : Bool :=
  let cursorCell := context.cursorChanged &&
    ((call.column == context.previousCursorX && call.row == context.previousCursorY) ||
      (call.column == context.cursorX && call.row == context.cursorY))
  context.fullRepaint || call.age == 0 || decide (call.age > context.previousAge) || cursorCell

/-- UTF-8 as `tsm_ucs4_to_utf8` documents it, for concrete runs: surrogates, noncharacters and
values past the last plane give no bytes. -/
def ucs4ToUtf8 (codepoint : Nat) : List UInt8 :=
  let low := codepoint % 0x10000
  if (0xd800 ≤ codepoint ∧ codepoint ≤ 0xdfff) ∨ codepoint > 0x10ffff ∨ low ≥ 0xfffe ∨
      (0xfdd0 ≤ codepoint ∧ codepoint ≤ 0xfdef) then []
  else if codepoint < 0x80 then [codepoint.toUInt8]
  else if codepoint < 0x800 then
    [(0xc0 + codepoint / 64).toUInt8, (0x80 + codepoint % 64).toUInt8]
  else if codepoint < 0x10000 then
    [(0xe0 + codepoint / 4096).toUInt8, (0x80 + codepoint / 64 % 64).toUInt8,
      (0x80 + codepoint % 64).toUInt8]
  else
    [(0xf0 + codepoint / 262144).toUInt8, (0x80 + codepoint / 4096 % 64).toUInt8,
      (0x80 + codepoint / 64 % 64).toUInt8, (0x80 + codepoint % 64).toUInt8]

section encoding

variable (tsmUcs4ToUtf8 : Nat → List UInt8)

/-- The loop that fills `encoded_text`, an array of 128 bytes. The loop gives up at the first code
point that does not fit. -/
def encodeCodepoints (encoded : List UInt8) : List Nat → Option (List UInt8)
  | [] => some encoded
  | codepoint :: codepoints =>
    if encoded.length + (tsmUcs4ToUtf8 codepoint).length > 128 then none
    else encodeCodepoints (encoded ++ tsmUcs4ToUtf8 codepoint) codepoints

/-- The bytes the callback stores for a cell, or nothing if they do not fit. -/
def encodeText (cell : TsmCell) : Option (List UInt8) :=
  (encodeCodepoints tsmUcs4ToUtf8 [] cell.codepoints).map fun encoded =>
    if cell.codepoints.length = 0 ∧ cell.width > 0 then encoded ++ [32] else encoded

/-- The text of a cell, of whatever length. -/
def cellBytes (cell : TsmCell) : List UInt8 :=
  if cell.codepoints = [] then (if cell.width > 0 then [32] else [])
  else cell.codepoints.flatMap tsmUcs4ToUtf8

end encoding

/-- The comparison of a scrolled cache cell with a reported cell. The cached cell is compared in
style, width, code point and text. A text out of bounds matches nothing. -/
def cachedCellMatches (grid : PackedGrid) (call : DrawCall) (index : Nat)
    (encoded : List UInt8) : Bool :=
  match grid.rowData[call.row]? with
  | none => false
  | some cachedRow =>
    match cachedRow.cells[call.column]? with
    | none => false
    | some cached =>
      cached.styleIndex == index && cached.width.toNat == call.cell.width &&
        cached.codepoint == cellCodepoint call.cell &&
        (textInBounds cachedRow.text cached.textOffset cached.textLength &&
          cached.textLength == encoded.length &&
          slice cachedRow.text cached.textOffset cached.textLength == encoded)

/-- The end of the callback: the cell is repainted and recorded. The offset of its text is the size
of the buffer before it, as a `uint32_t`. -/
def recordChange (context : PackedDrawContext) (call : DrawCall) (index : Nat)
    (encoded : List UInt8) : PackedDrawContext :=
  let textOffset := u32 context.changedText.length
  let changedText := context.changedText ++ encoded
  { context with
    dirty := includeDirty context.dirty call.column call.row call.cell.width context.grid.columns
      context.grid.rows
    dirtySpans := includeCellSpan context.dirtySpans call.column call.row call.cell.width
      context.grid.columns context.grid.rows
    changedText := changedText
    changedCells := context.changedCells ++
      [{ column := call.column
         row := call.row
         width := call.cell.width
         codepoint := cellCodepoint call.cell
         styleIndex := index
         textOffset := textOffset
         textLength := u32 (changedText.length - textOffset) }] }

/-- The context with another style table. -/
def PackedDrawContext.withStyles (context : PackedDrawContext) (styles : List PackedStyle) :
    PackedDrawContext :=
  { context with grid := { context.grid with styles := styles } }

/-- `DrawPackedCell`, one call of it. -/
def drawPackedCell (tsmUcs4ToUtf8 : Nat → List UInt8) (context : PackedDrawContext)
    (call : DrawCall) : PackedDrawContext :=
  if call.column ≥ context.grid.columns ∨ call.row ≥ context.grid.rows then context
  else if reportsChange context call = false then context
  else
    let (index, styles) := styleIndex context.grid.styles (packedStyleFor call.cell.attr)
    let interned := context.withStyles styles
    -- the style is interned before the text is encoded, so a cell with too long a text leaves its
    -- style
    match encodeText tsmUcs4ToUtf8 call.cell with
    | none => interned
    | some encoded =>
      if interned.reuseScrolledRows && cachedCellMatches interned.grid call index encoded then
        interned
      else recordChange interned call index encoded

/-- All calls of one `tsm_screen_draw_since`. The callback always returns 0, so libtsm makes all
calls. -/
def drawPass (tsmUcs4ToUtf8 : Nat → List UInt8) (context : PackedDrawContext)
    (calls : List DrawCall) : PackedDrawContext :=
  calls.foldl (drawPackedCell tsmUcs4ToUtf8) context

/-! ## Texts -/

variable {tsmUcs4ToUtf8 : Nat → List UInt8}

/-- The loop appends all texts or fails. -/
theorem encodeCodepoints_eq (encoded : List UInt8) (codepoints : List Nat) :
    encodeCodepoints tsmUcs4ToUtf8 encoded codepoints =
      if codepoints = [] ∨ encoded.length + (codepoints.flatMap tsmUcs4ToUtf8).length ≤ 128 then
        some (encoded ++ codepoints.flatMap tsmUcs4ToUtf8)
      else none := by
  induction codepoints generalizing encoded with
  | nil => simp [encodeCodepoints]
  | cons codepoint codepoints ih =>
    rw [encodeCodepoints]
    -- the loop gives up at the first code point that does not fit
    by_cases hfits : encoded.length + (tsmUcs4ToUtf8 codepoint).length > 128
    · rw [if_pos hfits, if_neg]
      simp only [reduceCtorEq, false_or, List.flatMap_cons, List.length_append]
      omega
    · rw [if_neg hfits, ih]
      simp only [reduceCtorEq, false_or, List.flatMap_cons, List.length_append, List.append_assoc,
        Nat.add_assoc]
      cases codepoints with
      | nil =>
        simp only [List.flatMap_nil, List.length_nil, true_or, if_true]
        rw [if_pos (by omega)]
      | cons _ _ => simp

/-- What is stored is the text of the cell. -/
theorem cellBytes_of_encodeText {cell : TsmCell} {encoded : List UInt8}
    (h : encodeText tsmUcs4ToUtf8 cell = some encoded) :
    encoded = cellBytes tsmUcs4ToUtf8 cell := by
  rw [encodeText, encodeCodepoints_eq] at h
  rw [cellBytes]
  cases hcell : cell.codepoints with
  | nil =>
    rw [hcell] at h
    by_cases hwidth : cell.width > 0 <;> simp [hwidth] at h <;> simp [hwidth, h]
  | cons codepoint codepoints =>
    have hne : ¬ ((codepoint :: codepoints).length = 0 ∧ cell.width > 0) := by simp
    rw [hcell] at h
    simp only [if_neg hne, Option.map_id'] at h
    split at h
    · rw [if_neg (List.cons_ne_nil codepoint codepoints)]
      exact (Option.some.inj h).symm
    · simp at h

/-- A text of at most 128 bytes is stored. -/
theorem encodeText_of_length_le {cell : TsmCell}
    (h : (cellBytes tsmUcs4ToUtf8 cell).length ≤ 128) :
    encodeText tsmUcs4ToUtf8 cell = some (cellBytes tsmUcs4ToUtf8 cell) := by
  have hsome : ∃ encoded, encodeText tsmUcs4ToUtf8 cell = some encoded := by
    rw [encodeText, encodeCodepoints_eq, if_pos]
    · exact ⟨_, rfl⟩
    · rw [cellBytes] at h
      split at h
      · exact Or.inl ‹_›
      · exact Or.inr (by simpa using h)
  obtain ⟨encoded, hencoded⟩ := hsome
  rw [hencoded, cellBytes_of_encodeText hencoded]

/-! ## Styles -/

/-- The style table of a grid: never empty, and never longer than the limit. A draw never makes it
longer than the limit, and the first entry stands for styles that found no room. -/
structure StyleTable (styles : List PackedStyle) : Prop where
  nonempty : styles ≠ []
  bounded : styles.length ≤ styleLimit

theorem StyleTable.growth {styles styles' : List PackedStyle} (h : StyleTable styles)
    (hgrow : Growth styleLimit styles styles') : StyleTable styles' := by
  refine ⟨fun hnil => h.nonempty ?_, hgrow.bounded h.bounded⟩
  have hp := hgrow.isPrefix
  rw [hnil] at hp
  exact List.prefix_nil.1 hp

/-- `styleIndex` interns: 16 bits hold every index of a table within the limit. -/
theorem styleIndex_eq_intern {styles : List PackedStyle} (h : styles.length ≤ styleLimit)
    (style : PackedStyle) : styleIndex styles style = intern styleLimit styles style := by
  have hlimit : styleLimit = 65535 := rfl
  rw [styleIndex, intern]
  cases hfind : styles.findIdx? (· == style) with
  | some index =>
    have hi := (List.findIdx?_eq_some_iff_getElem.1 hfind).1
    simp only [u16, Prod.mk.injEq, and_true]
    omega
  | none =>
    by_cases hfull : styles.length ≥ styleLimit
    · simp only [if_pos hfull]
    · simp only [if_neg hfull, u16, Prod.mk.injEq, and_true]
      omega

/-! ## One call -/

/-- The callback looks at a call: it is inside the grid and reports a change. -/
def Accepts (context : PackedDrawContext) (call : DrawCall) : Prop :=
  call.column < context.grid.columns ∧ call.row < context.grid.rows ∧
    reportsChange context call = true

instance (context : PackedDrawContext) (call : DrawCall) : Decidable (Accepts context call) :=
  inferInstanceAs (Decidable (_ ∧ _ ∧ _))

/-- Everything one call of the callback can do. The style is interned in all cases but the first. -/
inductive DrawOutcome (tsmUcs4ToUtf8 : Nat → List UInt8) (context : PackedDrawContext)
    (call : DrawCall) : PackedDrawContext → Prop where
  | ignored : ¬ Accepts context call → DrawOutcome tsmUcs4ToUtf8 context call context
  | tooLong (index : Nat) (styles : List PackedStyle) : Accepts context call →
      styleIndex context.grid.styles (packedStyleFor call.cell.attr) = (index, styles) →
      encodeText tsmUcs4ToUtf8 call.cell = none →
      DrawOutcome tsmUcs4ToUtf8 context call (context.withStyles styles)
  | cached (index : Nat) (styles : List PackedStyle) (encoded : List UInt8) :
      Accepts context call →
      styleIndex context.grid.styles (packedStyleFor call.cell.attr) = (index, styles) →
      encodeText tsmUcs4ToUtf8 call.cell = some encoded →
      context.reuseScrolledRows = true →
      cachedCellMatches context.grid call index encoded = true →
      DrawOutcome tsmUcs4ToUtf8 context call (context.withStyles styles)
  | recorded (index : Nat) (styles : List PackedStyle) (encoded : List UInt8) :
      Accepts context call →
      styleIndex context.grid.styles (packedStyleFor call.cell.attr) = (index, styles) →
      encodeText tsmUcs4ToUtf8 call.cell = some encoded →
      DrawOutcome tsmUcs4ToUtf8 context call
        (recordChange (context.withStyles styles) call index encoded)

/-- The callback does one of these. -/
theorem drawOutcome (context : PackedDrawContext) (call : DrawCall) :
    DrawOutcome tsmUcs4ToUtf8 context call (drawPackedCell tsmUcs4ToUtf8 context call) := by
  rw [drawPackedCell]
  by_cases hrange : call.column ≥ context.grid.columns ∨ call.row ≥ context.grid.rows
  · rw [if_pos hrange]
    exact .ignored fun h => by
      have := h.1
      have := h.2.1
      omega
  · rw [if_neg hrange]
    simp only [not_or, Nat.not_le] at hrange
    cases hreports : reportsChange context call with
    | false =>
      rw [if_pos rfl]
      exact .ignored fun h => by
        have := h.2.2
        simp [hreports] at this
    | true =>
      rw [if_neg (by simp)]
      have haccepts : Accepts context call := ⟨hrange.1, hrange.2, hreports⟩
      -- the call is accepted: its style is interned, then its text decides
      cases hindex : styleIndex context.grid.styles (packedStyleFor call.cell.attr) with
      | mk index styles =>
        cases hencode : encodeText tsmUcs4ToUtf8 call.cell with
        | none => exact .tooLong index styles haccepts hindex hencode
        | some encoded =>
          simp only
          split
          · rename_i hcached
            rw [Bool.and_eq_true] at hcached
            exact .cached index styles encoded haccepts hindex hencode hcached.1 hcached.2
          · exact .recorded index styles encoded haccepts hindex hencode

/-! ## A whole pass -/

/-- A recorded cell is the cell of a call. -/
structure Records (tsmUcs4ToUtf8 : Nat → List UInt8) (context : PackedDrawContext)
    (call : DrawCall) (change : PackedChangedCell) : Prop where
  column : change.column = call.column
  row : change.row = call.row
  width : change.width = call.cell.width
  codepoint : change.codepoint = cellCodepoint call.cell
  style : Stands styleLimit context.grid.styles change.styleIndex (packedStyleFor call.cell.attr)
  text : context.changedText.length < 4294967296 →
    change.textOffset + change.textLength ≤ context.changedText.length ∧
      slice context.changedText change.textOffset change.textLength =
        cellBytes tsmUcs4ToUtf8 call.cell

/-- The cell is in the cache already: the cached cell of the (rotated) grid equals it. -/
def FoundInCache (tsmUcs4ToUtf8 : Nat → List UInt8) (context : PackedDrawContext)
    (call : DrawCall) : Prop :=
  context.reuseScrolledRows = true ∧ ∃ index,
    Stands styleLimit context.grid.styles index (packedStyleFor call.cell.attr) ∧
      cachedCellMatches context.grid call index (cellBytes tsmUcs4ToUtf8 call.cell) = true

/-- The parts of the context that the callback only reads. They are the same for all calls of a
pass, and so is the answer of `reportsChange`. -/
structure SameSetting (start context : PackedDrawContext) : Prop where
  columns : context.grid.columns = start.grid.columns
  rows : context.grid.rows = start.grid.rows
  rowData : context.grid.rowData = start.grid.rowData
  fullRepaint : context.fullRepaint = start.fullRepaint
  cursorChanged : context.cursorChanged = start.cursorChanged
  reuse : context.reuseScrolledRows = start.reuseScrolledRows
  reports : ∀ call, reportsChange context call = reportsChange start call

/-- The size of the texts of the calls inside the grid. -/
def callBytes (tsmUcs4ToUtf8 : Nat → List UInt8) (grid : PackedGrid) (calls : List DrawCall) :
    Nat :=
  (calls.map fun call =>
    if call.column < grid.columns ∧ call.row < grid.rows then
      (cellBytes tsmUcs4ToUtf8 call.cell).length
    else 0).sum

theorem callBytes_concat (tsmUcs4ToUtf8 : Nat → List UInt8) (grid : PackedGrid)
    (calls : List DrawCall) (call : DrawCall) :
    callBytes tsmUcs4ToUtf8 grid (calls ++ [call]) = callBytes tsmUcs4ToUtf8 grid calls +
      if call.column < grid.columns ∧ call.row < grid.rows then
        (cellBytes tsmUcs4ToUtf8 call.cell).length
      else 0 := by
  simp [callBytes]

/-- What the calls made since `start` leave in the context. The fields on recorded cells give what
`RebuildPackedRows` is called with, and `answered` is what a frontend relies on: a call that reports
a change is recorded, or found in the cache, or its text does not fit. -/
structure DrawnSince (tsmUcs4ToUtf8 : Nat → List UInt8) (start : PackedDrawContext)
    (calls : List DrawCall) (context : PackedDrawContext) : Prop where
  setting : SameSetting start context
  growth : Growth styleLimit start.grid.styles context.grid.styles
  tracks : RegionTracks start.grid.columns start.grid.rows context.dirty context.dirtySpans
  recorded : ∀ change ∈ context.changedCells, ∃ call ∈ calls,
    Accepts start call ∧ Records tsmUcs4ToUtf8 context call change
  covered : ∀ change ∈ context.changedCells,
    SpansCover context.dirtySpans change.column change.row
  positions : (context.changedCells.map fun change => (change.column, change.row)).Sublist
    (calls.map fun call => (call.column, call.row))
  answered : ∀ call ∈ calls, Accepts start call →
    (∃ change ∈ context.changedCells,
      change.column = call.column ∧ change.row = call.row) ∨
    FoundInCache tsmUcs4ToUtf8 context call ∨ encodeText tsmUcs4ToUtf8 call.cell = none
  interned : ∀ call ∈ calls, Accepts start call →
    ∃ index, Stands styleLimit context.grid.styles index (packedStyleFor call.cell.attr)
  styles : ∀ style ∈ context.grid.styles, style ∈ start.grid.styles ∨
    ∃ call ∈ calls, Accepts start call ∧ style = packedStyleFor call.cell.attr
  nodup : start.grid.styles.Nodup → context.grid.styles.Nodup
  textLength : context.changedText.length ≤
    start.changedText.length + callBytes tsmUcs4ToUtf8 start.grid calls

/-- A draw that has made no calls has recorded nothing. -/
theorem drawnSince_nil {start : PackedDrawContext} (hcells : start.changedCells = [])
    (hdirty : start.dirty = {}) (hspans : start.dirtySpans = []) :
    DrawnSince tsmUcs4ToUtf8 start [] start where
  setting := ⟨rfl, rfl, rfl, rfl, rfl, rfl, fun _ => rfl⟩
  growth := .refl _ _
  tracks := by
    rw [hdirty, hspans]
    exact regionTracks_nil _ _
  recorded := by simp [hcells]
  covered := by simp [hcells]
  positions := by simp [hcells]
  answered := by simp
  interned := by simp
  styles := fun style h => Or.inl h
  nodup := id
  textLength := Nat.le_add_right _ _

/-- So the callback looks at the same calls throughout a pass. -/
theorem SameSetting.accepts {start context : PackedDrawContext} (h : SameSetting start context)
    (call : DrawCall) : Accepts context call ↔ Accepts start call := by
  simp only [Accepts]
  rw [h.columns, h.rows, h.reports]

/-- A recorded cell stays recorded when the table and the buffer grow. -/
theorem Records.grow {context context' : PackedDrawContext} {call : DrawCall}
    {change : PackedChangedCell} (h : Records tsmUcs4ToUtf8 context call change)
    (hgrow : Growth styleLimit context.grid.styles context'.grid.styles) {more : List UInt8}
    (htext : context'.changedText = context.changedText ++ more) :
    Records tsmUcs4ToUtf8 context' call change where
  column := h.column
  row := h.row
  width := h.width
  codepoint := h.codepoint
  style := h.style.growth hgrow
  text := by
    intro hlt
    rw [htext, List.length_append] at hlt ⊢
    obtain ⟨hle, hslice⟩ := h.text (by omega)
    rw [slice_append_left hle]
    exact ⟨by omega, hslice⟩

theorem FoundInCache.grow {context context' : PackedDrawContext} {call : DrawCall}
    (h : FoundInCache tsmUcs4ToUtf8 context call)
    (hreuse : context'.reuseScrolledRows = context.reuseScrolledRows)
    (hrows : context'.grid.rowData = context.grid.rowData)
    (hgrow : Growth styleLimit context.grid.styles context'.grid.styles) :
    FoundInCache tsmUcs4ToUtf8 context' call := by
  obtain ⟨hr, index, hstands, hmatch⟩ := h
  refine ⟨hreuse.trans hr, index, hstands.growth hgrow, ?_⟩
  rw [cachedCellMatches] at hmatch ⊢
  rwa [hrows]

/-! ### One more call

`calls` were made since `start`, and the callback interns the style of one more call. -/

section concat

variable {start context context' : PackedDrawContext} {calls : List DrawCall} {call : DrawCall}
  {index : Nat} {styles : List PackedStyle}

/-- Recorded cells stay recorded while the table and the text only grow. -/
theorem DrawnSince.recorded_concat (h : DrawnSince tsmUcs4ToUtf8 start calls context)
    (call : DrawCall)
    (hgrow : Growth styleLimit context.grid.styles context'.grid.styles) {more : List UInt8}
    (htext : context'.changedText = context.changedText ++ more) :
    ∀ change ∈ context.changedCells, ∃ earlier ∈ calls ++ [call],
      Accepts start earlier ∧ Records tsmUcs4ToUtf8 context' earlier change := by
  intro change hchange
  obtain ⟨earlier, hearlier, hacc, hrecords⟩ := h.recorded change hchange
  exact ⟨earlier, List.mem_append_left _ hearlier, hacc, hrecords.grow hgrow htext⟩

/-- Interning one more style keeps every style that was interned before. -/
theorem DrawnSince.interned_concat (h : DrawnSince tsmUcs4ToUtf8 start calls context)
    (hintern : intern styleLimit context.grid.styles (packedStyleFor call.cell.attr) =
      (index, styles)) (hne : context.grid.styles ≠ []) :
    ∀ earlier ∈ calls ++ [call], Accepts start earlier →
      ∃ i, Stands styleLimit styles i (packedStyleFor earlier.cell.attr) := by
  intro earlier hearlier hacc
  rcases List.mem_append.1 hearlier with hearlier | hearlier
  · -- the table only grew, so the index of an earlier call still stands
    obtain ⟨i, hi⟩ := h.interned earlier hearlier hacc
    exact ⟨i, hi.growth (growth_intern hintern)⟩
  · rw [List.mem_singleton] at hearlier
    subst hearlier
    exact ⟨index, stands_intern hintern hne⟩

theorem DrawnSince.styles_concat (h : DrawnSince tsmUcs4ToUtf8 start calls context)
    (hintern : intern styleLimit context.grid.styles (packedStyleFor call.cell.attr) =
      (index, styles)) (haccepts : Accepts start call) :
    ∀ style ∈ styles, style ∈ start.grid.styles ∨ ∃ earlier ∈ calls ++ [call],
      Accepts start earlier ∧ style = packedStyleFor earlier.cell.attr := by
  intro style hstyle
  rcases mem_intern hintern hstyle with hold | hnew
  · rcases h.styles style hold with hs | ⟨earlier, hearlier, hs⟩
    · exact Or.inl hs
    · exact Or.inr ⟨earlier, List.mem_append_left _ hearlier, hs⟩
  · exact Or.inr ⟨call, by simp, haccepts, hnew⟩

/-- A call that only interns its style: nothing is recorded. -/
theorem DrawnSince.withStyles (h : DrawnSince tsmUcs4ToUtf8 start calls context)
    (hintern : intern styleLimit context.grid.styles (packedStyleFor call.cell.attr) =
      (index, styles)) (hne : context.grid.styles ≠ []) (haccepts : Accepts start call)
    (hanswer : FoundInCache tsmUcs4ToUtf8 (context.withStyles styles) call ∨
      encodeText tsmUcs4ToUtf8 call.cell = none) :
    DrawnSince tsmUcs4ToUtf8 start (calls ++ [call]) (context.withStyles styles) := by
  have hgrow : Growth styleLimit context.grid.styles (context.withStyles styles).grid.styles :=
    growth_intern hintern
  refine
    { setting := ⟨h.setting.columns, h.setting.rows, h.setting.rowData, h.setting.fullRepaint,
        h.setting.cursorChanged, h.setting.reuse, h.setting.reports⟩
      growth := h.growth.trans hgrow
      tracks := h.tracks
      recorded := h.recorded_concat call hgrow (List.append_nil _).symm
      covered := h.covered
      positions := ?positions
      answered := ?answered
      interned := h.interned_concat hintern hne
      styles := h.styles_concat hintern haccepts
      nodup := fun hnodup => nodup_intern hintern (h.nodup hnodup)
      textLength := ?textLength }
  case positions =>
    rw [List.map_append]
    exact h.positions.trans (List.sublist_append_left _ _)
  case answered =>
    intro earlier hearlier hacc
    rcases List.mem_append.1 hearlier with hearlier | hearlier
    · rcases h.answered earlier hearlier hacc with hc | hc | hc
      · exact Or.inl hc
      · exact Or.inr (Or.inl (hc.grow rfl rfl hgrow))
      · exact Or.inr (Or.inr hc)
    · rw [List.mem_singleton] at hearlier
      subst hearlier
      exact Or.inr hanswer
  case textLength =>
    rw [callBytes_concat]
    exact h.textLength.trans (by omega)

/-- The last recorded cell reads its text back. -/
theorem records_recordChange (context : PackedDrawContext) {call : DrawCall} {index : Nat}
    {encoded : List UInt8}
    (hstands : Stands styleLimit context.grid.styles index (packedStyleFor call.cell.attr))
    (hencode : encodeText tsmUcs4ToUtf8 call.cell = some encoded) :
    Records tsmUcs4ToUtf8 (recordChange context call index encoded) call
      { column := call.column
        row := call.row
        width := call.cell.width
        codepoint := cellCodepoint call.cell
        styleIndex := index
        textOffset := u32 context.changedText.length
        textLength := u32 ((context.changedText ++ encoded).length -
          u32 context.changedText.length) } where
  column := rfl
  row := rfl
  width := rfl
  codepoint := rfl
  style := hstands
  text := by
    intro hlt
    change (context.changedText ++ encoded).length < _ at hlt
    change _ ≤ (context.changedText ++ encoded).length ∧
      slice (context.changedText ++ encoded) _ _ = _
    rw [List.length_append] at hlt ⊢
    simp only
    -- below 4 GiB the offset of the appended text is where it was appended
    rw [u32_of_lt (by omega), Nat.add_sub_cancel_left, u32_of_lt (by omega), slice_append_right]
    exact ⟨le_rfl, cellBytes_of_encodeText hencode⟩

/-- A call that is recorded: its cell is the last change, and is covered by the spans. -/
theorem DrawnSince.recordChange (h : DrawnSince tsmUcs4ToUtf8 start calls context)
    (hintern : intern styleLimit context.grid.styles (packedStyleFor call.cell.attr) =
      (index, styles)) (hne : context.grid.styles ≠ []) (haccepts : Accepts start call)
    {encoded : List UInt8} (hencode : encodeText tsmUcs4ToUtf8 call.cell = some encoded) :
    DrawnSince tsmUcs4ToUtf8 start (calls ++ [call])
      (recordChange (context.withStyles styles) call index encoded) := by
  have hgrow : Growth styleLimit context.grid.styles styles := growth_intern hintern
  have hrecords := records_recordChange (context.withStyles styles)
    (stands_intern hintern hne) hencode
  have hcolumns : (context.withStyles styles).grid.columns = start.grid.columns :=
    h.setting.columns
  have hrows : (context.withStyles styles).grid.rows = start.grid.rows := h.setting.rows
  refine
    { setting := ⟨hcolumns, hrows, h.setting.rowData, h.setting.fullRepaint,
        h.setting.cursorChanged, h.setting.reuse, h.setting.reports⟩
      growth := h.growth.trans hgrow
      tracks := ?tracks
      recorded := ?recorded
      covered := ?covered
      positions := ?positions
      answered := ?answered
      interned := h.interned_concat hintern hne
      styles := h.styles_concat hintern haccepts
      nodup := fun hnodup => nodup_intern hintern (h.nodup hnodup)
      textLength := ?textLength }
  case tracks =>
    have htracks := h.tracks.includeCellSpan call.column call.row call.cell.width
    rw [← hcolumns, ← hrows] at htracks ⊢
    exact htracks
  case recorded =>
    intro change hchange
    rcases List.mem_append.1 hchange with hold | hnew
    · exact h.recorded_concat call hgrow rfl change hold
    · rw [List.mem_singleton] at hnew
      rw [hnew]
      exact ⟨call, by simp, haccepts, hrecords⟩
  case covered =>
    intro change hchange
    rcases List.mem_append.1 hchange with hold | hnew
    · exact (h.covered change hold).includeCellSpan ..
    · rw [List.mem_singleton] at hnew
      rw [hnew]
      apply spansCover_includeCellSpan
      · rw [hcolumns]
        exact haccepts.1
      · rw [hrows]
        exact haccepts.2.1
  case positions =>
    change (List.map _ (context.changedCells ++ [_])).Sublist _
    rw [List.map_append, List.map_append]
    exact h.positions.append_right _
  case answered =>
    intro earlier hearlier hacc
    rcases List.mem_append.1 hearlier with hearlier | hearlier
    · rcases h.answered earlier hearlier hacc with ⟨change, hchange, hc⟩ | hc | hc
      · exact Or.inl ⟨change, List.mem_append_left _ hchange, hc⟩
      · exact Or.inr (Or.inl (hc.grow rfl rfl hgrow))
      · exact Or.inr (Or.inr hc)
    · rw [List.mem_singleton] at hearlier
      subst hearlier
      exact Or.inl ⟨_, List.mem_append_right _ (List.mem_singleton.2 rfl), rfl, rfl⟩
  case textLength =>
    change (context.changedText ++ encoded).length ≤ _
    have := h.textLength
    rw [callBytes_concat, if_pos ⟨haccepts.1, haccepts.2.1⟩, List.length_append,
      cellBytes_of_encodeText hencode]
    omega

/-- A call the callback does not look at. -/
theorem DrawnSince.ignore (h : DrawnSince tsmUcs4ToUtf8 start calls context)
    (hnot : ¬ Accepts context call) : DrawnSince tsmUcs4ToUtf8 start (calls ++ [call]) context := by
  have hearlierCalls : ∀ earlier ∈ calls ++ [call], Accepts start earlier → earlier ∈ calls := by
    intro earlier hearlier hacc
    rcases List.mem_append.1 hearlier with hearlier | hearlier
    · exact hearlier
    · rw [List.mem_singleton.1 hearlier, ← h.setting.accepts] at hacc
      exact absurd hacc hnot
  refine
    { setting := h.setting
      growth := h.growth
      tracks := h.tracks
      recorded := h.recorded_concat call (.refl _ _) (List.append_nil _).symm
      covered := h.covered
      positions := ?positions
      answered := fun earlier hearlier hacc =>
        h.answered earlier (hearlierCalls earlier hearlier hacc) hacc
      interned := fun earlier hearlier hacc =>
        h.interned earlier (hearlierCalls earlier hearlier hacc) hacc
      styles := ?styles
      nodup := h.nodup
      textLength := ?textLength }
  case positions =>
    rw [List.map_append]
    exact h.positions.trans (List.sublist_append_left _ _)
  case styles =>
    intro style hstyle
    apply (h.styles style hstyle).imp_right
    rintro ⟨earlier, hearlier, hs⟩
    exact ⟨earlier, List.mem_append_left _ hearlier, hs⟩
  case textLength =>
    rw [callBytes_concat]
    exact h.textLength.trans (by omega)

/-- One more call. -/
theorem DrawnSince.step (h : DrawnSince tsmUcs4ToUtf8 start calls context)
    (htable : StyleTable start.grid.styles) (call : DrawCall) :
    DrawnSince tsmUcs4ToUtf8 start (calls ++ [call])
      (drawPackedCell tsmUcs4ToUtf8 context call) := by
  have hstyles := htable.growth h.growth
  have houtcome : DrawOutcome tsmUcs4ToUtf8 context call
      (drawPackedCell tsmUcs4ToUtf8 context call) := drawOutcome context call
  generalize drawPackedCell tsmUcs4ToUtf8 context call = context' at houtcome ⊢
  cases houtcome with
  | ignored hnot => exact h.ignore hnot
  | tooLong index styles haccepts hindex hencode =>
    rw [styleIndex_eq_intern hstyles.bounded] at hindex
    exact h.withStyles hindex hstyles.nonempty ((h.setting.accepts call).1 haccepts)
      (Or.inr hencode)
  | cached index styles encoded haccepts hindex hencode hreuse hmatch =>
    rw [styleIndex_eq_intern hstyles.bounded] at hindex
    refine h.withStyles hindex hstyles.nonempty ((h.setting.accepts call).1 haccepts)
      (Or.inl ⟨hreuse, index, stands_intern hindex hstyles.nonempty, ?_⟩)
    rw [← cellBytes_of_encodeText hencode]
    exact hmatch
  | recorded index styles encoded haccepts hindex hencode =>
    rw [styleIndex_eq_intern hstyles.bounded] at hindex
    exact h.recordChange hindex hstyles.nonempty ((h.setting.accepts call).1 haccepts) hencode

end concat

/-- A pass over all calls. -/
theorem drawnSince_drawPass {start : PackedDrawContext} (htable : StyleTable start.grid.styles)
    (hcells : start.changedCells = []) (hdirty : start.dirty = {})
    (hspans : start.dirtySpans = []) (calls : List DrawCall) :
    DrawnSince tsmUcs4ToUtf8 start calls (drawPass tsmUcs4ToUtf8 start calls) := by
  induction calls using List.reverseRecOn with
  | nil => exact drawnSince_nil hcells hdirty hspans
  | append_singleton calls call ih =>
    rw [drawPass, List.foldl_concat]
    exact ih.step htable call

end SakuraTerminal.Core
