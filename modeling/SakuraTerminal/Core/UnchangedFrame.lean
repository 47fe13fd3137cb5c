import SakuraTerminal.Core.TakenFrame

/-!
# Unchanged frames

A frame whose `changed` is 0 has the generation of its predecessor, and a frontend drops it. Its
metadata are the predecessor's if every change of the cursor reaches the dirty rectangle
(`unchangedFrames_of_cursorShown`). That fails in libtsm's pending-wrap state: the cursor column is
the number of columns there, `IncludeCell` clips it, and a change of the cursor style is not in any
frame with `changed` set (`not_unchangedFrames`).

The condition is on the state before a frame and on the calls of its draw, so it can be met by a run
that goes through the pending-wrap state, as long as the cursor does not change there unseen. The
step of the argument is `metadata_of_unchanged`: an unchanged frame has no dirty cell, so nothing
was recorded, rotated or exposed, and the cursor did not change.
-/

set_option autoImplicit false

namespace SakuraTerminal.Core

open SakuraTerminal.Foundations

/-- What a frame reports besides its cells. A frontend that drops unchanged frames keeps what it
knows of these. -/
structure FrameMetadata where
  columns : Nat
  rows : Nat
  cursorX : Nat
  cursorY : Nat
  cursorVisible : Bool
  cursorStyle : CursorStyle
  alternateScreen : Bool
  deriving DecidableEq, Repr

/-- The metadata of a frame. -/
def PackedFrame.metadata (frame : PackedFrame) : FrameMetadata where
  columns := frame.columns
  rows := frame.rows
  cursorX := frame.cursorX
  cursorY := frame.cursorY
  cursorVisible := frame.cursorVisible
  cursorStyle := frame.cursorStyle
  alternateScreen := frame.alternateScreen

/-- The frame a consumer holds that drops every frame with `changed == 0`. It holds the newest frame
that was changed. -/
def keptFrame : List (Screen × PackedFrame) → Option PackedFrame
  | [] => none
  -- `RequestFrameRefresh` and `OnPaint` return early for frames with `changed == 0`
  | taken :: older => if taken.2.changed then some taken.2 else keptFrame older

/-- Unchanged frames are unchanged: `changed` is 0 exactly when the generation stays, the metadata
stay then, and a consumer that drops such frames holds the metadata of the newest one. -/
structure UnchangedFrames (taken : List (Screen × PackedFrame)) : Prop where
  generation : taken.IsChain fun newer older =>
    newer.2.changed = false ↔ newer.2.generation = older.2.generation
  metadata : taken.IsChain fun newer older =>
    newer.2.changed = false → newer.2.metadata = older.2.metadata
  consumer : ∀ newest ∈ taken.head?, ∃ kept, keptFrame taken = some kept ∧
    kept.metadata = newest.2.metadata

/-- A changed cursor leaves a mark in the frame: its old or its new cell lies in the grid, or the
frame is changed by something else. The source includes both cells of a changed cursor, and the
pending-wrap column is the only one for which that has no effect. -/
def CursorShown (tsmUcs4ToUtf8 : Nat → List UInt8) (run : TerminalRun) : Op → Prop
  | .takePackedFrame draw =>
    cursorChanged run.impl run.screen = true →
      (run.impl.packedLastCursorX < run.screen.width ∧
        run.impl.packedLastCursorY < run.screen.height) ∨
      (run.screen.cursorX < run.screen.width ∧ run.screen.cursorY < run.screen.height) ∨
      drawFullRepaint run.impl run.screen = true ∨ draw.age = 0 ∨
      reuseScrolledRows run.impl run.screen = true ∨
      ∃ call ∈ draw.calls, Accepts (drawContext run.impl run.screen) call ∧
        encodeText tsmUcs4ToUtf8 call.cell ≠ none
  | _ => True

section

variable {tsmUcs4ToUtf8 : Nat → List UInt8} {impl : Impl} {screen : Screen} {draw : Draw}

/-- What drew nothing rotated nothing. -/
theorem reuseScrolledRows_of_spans_nil
    (hspec : TakeSpec tsmUcs4ToUtf8 impl screen draw
      (takenContext tsmUcs4ToUtf8 impl screen draw))
    (h : (takenContext tsmUcs4ToUtf8 impl screen draw).dirtySpans = []) :
    reuseScrolledRows impl screen = false := by
  cases hreuse : reuseScrolledRows impl screen with
  | false => rfl
  | true =>
    obtain ⟨-, hne, -, -, hlt⟩ := reuseScrolledRows_spec hreuse
    -- scrolling by any distance exposes the last or the first row
    have hrow : ∃ row < screen.height,
        (exposedRows impl.pendingContentScrollDelta screen.height).1 ≤ row ∧
          row < (exposedRows impl.pendingContentScrollDelta screen.height).2 := by
      have := screen.heightPos
      rw [exposedRows]
      by_cases hpos : impl.pendingContentScrollDelta > 0
      · exact ⟨screen.height - 1, by omega, by rw [if_pos hpos]; simp only; omega⟩
      · exact ⟨0, by omega, by rw [if_neg hpos]; simp only; omega⟩
    obtain ⟨row, hlt, htop, hbottom⟩ := hrow
    have hcover := hspec.exposed hreuse 0 row screen.widthPos hlt htop hbottom
    rw [h] at hcover
    exact absurd hcover (not_spansCover_nil _ _)

/-- An accepted call with a text that fits leaves a span when no rows are reused. -/
theorem not_accepts_of_spans_nil
    (hspec : TakeSpec tsmUcs4ToUtf8 impl screen draw
      (takenContext tsmUcs4ToUtf8 impl screen draw))
    (h : (takenContext tsmUcs4ToUtf8 impl screen draw).dirtySpans = []) {call : DrawCall}
    (hcall : call ∈ draw.calls) (haccepts : Accepts (drawContext impl screen) call) :
    encodeText tsmUcs4ToUtf8 call.cell = none := by
  rcases hspec.drawn.answered call hcall haccepts with ⟨change, hchange, -⟩ | hfound | hnone
  · rw [← hspec.changedCells] at hchange
    have hcover := hspec.covers change hchange
    rw [h] at hcover
    exact absurd hcover (not_spansCover_nil _ _)
  · have hreuse := hspec.drawn.setting.reuse.symm.trans hfound.1
    have hnot := reuseScrolledRows_of_spans_nil hspec h
    rw [show (drawContext impl screen).reuseScrolledRows = reuseScrolledRows impl screen from rfl,
      hnot] at hreuse
    exact absurd hreuse Bool.false_ne_true
  · exact hnone

end

section run

variable {tsmUcs4ToUtf8 : Nat → List UInt8} {run : TerminalRun}

/-- The step of the argument: an unchanged frame has the metadata of the newest frame before it. -/
theorem metadata_of_unchanged {screen : Screen} {frame : PackedFrame}
    (hinv : CacheInvariant run.impl) (hlast : LastTaken run.impl screen frame) {draw : Draw}
    (hshown : CursorShown tsmUcs4ToUtf8 run (.takePackedFrame draw))
    (hchanged : takenChanged tsmUcs4ToUtf8 run.impl run.screen draw = false) :
    (takePackedFrame tsmUcs4ToUtf8 run.impl run.screen draw).metadata = frame.metadata := by
  have hspec : TakeSpec tsmUcs4ToUtf8 run.impl run.screen draw _ := takeSpec hinv.table
  obtain ⟨hfull, hage, -, hspans⟩ := takenChanged_false hinv.table hchanged
  have hreuse := reuseScrolledRows_of_spans_nil hspec hspans
  have hinitial : initialFullRepaint run.impl run.screen = false := by
    rw [drawFullRepaint, Bool.or_eq_false_iff] at hfull
    exact hfull.1
  -- without the initial full repaint the size and the screen mode are those of the last frame
  have hsame : run.impl.packedFrameValid = true ∧
      run.screen.width = run.impl.packedLastColumns ∧
      run.screen.height = run.impl.packedLastRows ∧
      run.screen.alternate = run.impl.packedLastAlternateScreen := by
    simpa [initialFullRepaint, and_assoc] using hinitial
  obtain ⟨hvalid, hcolumns, hrows, halternate⟩ := hsame
  have huncovered : ∀ column row,
      ¬ SpansCover (takenContext tsmUcs4ToUtf8 run.impl run.screen draw).dirtySpans column row := by
    intro column row hcover
    rw [hspans] at hcover
    exact not_spansCover_nil column row hcover
  -- a changed cursor cell in the grid would be covered by a span, and there are none
  have hcursor : cursorChanged run.impl run.screen = false := by
    cases hc : cursorChanged run.impl run.screen with
    | false => rfl
    | true =>
      exfalso
      rcases hshown hc with hin | hin | hfull' | hage' | hreuse' | ⟨call, hcall, hacc, hfits⟩
      · exact huncovered _ _ (hspec.cursor hc _ _ (Or.inl ⟨rfl, rfl⟩) hin.1 hin.2)
      · exact huncovered _ _ (hspec.cursor hc _ _ (Or.inr ⟨rfl, rfl⟩) hin.1 hin.2)
      · simp [hfull] at hfull'
      · exact hage hage'
      · simp [hreuse] at hreuse'
      · exact hfits (not_accepts_of_spans_nil hspec hspans hcall hacc)
  have hsameCursor : run.screen.cursorX = run.impl.packedLastCursorX ∧
      run.screen.cursorY = run.impl.packedLastCursorY ∧
      run.screen.textCursorMode = run.impl.packedLastCursorVisible ∧
      run.impl.cursor.cursorStyle = run.impl.packedLastCursorStyle := by
    simpa [cursorChanged, hvalid, and_assoc] using hcursor
  obtain ⟨hx, hy, hvisible, hstyle⟩ := hsameCursor
  simp only [PackedFrame.metadata, takePackedFrame, FrameMetadata.mk.injEq]
  exact ⟨hcolumns.trans hlast.columns, hrows.trans hlast.rows, hx.trans hlast.cursorX,
    hy.trans hlast.cursorY, hvisible.trans hlast.cursorVisible, hstyle.trans hlast.cursorStyle,
    halternate.trans hlast.alternate⟩

/-- The generation grows exactly with `changed`. -/
theorem generation_eq_iff {screen : Screen} {frame : PackedFrame}
    (hlast : LastTaken run.impl screen frame) (draw : Draw) :
    (takePackedFrame tsmUcs4ToUtf8 run.impl run.screen draw).changed = false ↔
      (takePackedFrame tsmUcs4ToUtf8 run.impl run.screen draw).generation = frame.generation := by
  rw [← hlast.generation]
  simp only [takePackedFrame]
  -- `packed_generation_` is incremented for changed frames only
  cases takenChanged tsmUcs4ToUtf8 run.impl run.screen draw <;> simp

/-- The first frame is changed. -/
theorem changed_of_first (hinv : CacheInvariant run.impl)
    (hvalid : run.impl.packedFrameValid = false) (draw : Draw) :
    takenChanged tsmUcs4ToUtf8 run.impl run.screen draw = true := by
  cases hchanged : takenChanged tsmUcs4ToUtf8 run.impl run.screen draw with
  | true => rfl
  | false =>
    have hfull := (takenChanged_false hinv.table hchanged).1
    simp [drawFullRepaint, initialFullRepaint, hvalid] at hfull

/-- A consumer that drops unchanged frames holds the metadata of the newest frame. -/
theorem keptFrame_metadata
    (h : (terminalSystem tsmUcs4ToUtf8).Reachable (CursorShown tsmUcs4ToUtf8) run) :
    ∀ newest ∈ run.taken.head?, ∃ kept, keptFrame run.taken = some kept ∧
      kept.metadata = newest.2.metadata := by
  refine h.invariant (I := fun run => ∀ newest ∈ run.taken.head?, ∃ kept,
    keptFrame run.taken = some kept ∧ kept.metadata = newest.2.metadata) ?_ ?_
  · rintro _ ⟨screen, rfl⟩ newest hnewest
    simp [newRun] at hnewest
  · intro run op run' hreach hrun hshown hstep
    rw [hstep]
    rcases next_cases tsmUcs4ToUtf8 run op with ⟨draw, rfl, -⟩ | hquiet
    · have hinv := cacheInvariant hreach
      have hmemory := remembersTaken hreach
      intro newest hnewest
      obtain rfl : (run.screen, takePackedFrame tsmUcs4ToUtf8 run.impl run.screen draw) = newest :=
        by simpa [TerminalRun.next, TerminalRun.takes] using hnewest
      change ∃ kept, (if takenChanged tsmUcs4ToUtf8 run.impl run.screen draw then some _
        else keptFrame run.taken) = some kept ∧ _
      -- a changed frame is kept itself; with an unchanged one the consumer keeps what it held
      cases hchanged : takenChanged tsmUcs4ToUtf8 run.impl run.screen draw with
      | true => exact ⟨_, rfl, rfl⟩
      | false =>
        cases htaken : run.taken with
        | nil =>
          rw [changed_of_first hinv (hmemory.new htaken).1] at hchanged
          exact absurd hchanged (by simp)
        | cons taken older =>
          obtain ⟨kept, hkept, hmetadata⟩ := hrun taken (by simp [htaken])
          refine ⟨kept, by rw [← htaken]; exact hkept, hmetadata.trans ?_⟩
          exact (metadata_of_unchanged hinv (hmemory.lastTaken htaken) hshown hchanged).symm
    · rw [hquiet.taken]
      exact hrun

end run

/-- In every run in which a changed cursor always leaves a mark, unchanged frames are unchanged. -/
theorem unchangedFrames_of_cursorShown (tsmUcs4ToUtf8 : Nat → List UInt8) {run : TerminalRun}
    (h : (terminalSystem tsmUcs4ToUtf8).Reachable (CursorShown tsmUcs4ToUtf8) run) :
    UnchangedFrames run.taken where
  generation := taken_isChain (fun _ draw _ _ hreach _ htaken =>
    generation_eq_iff ((remembersTaken hreach).lastTaken htaken) draw) h
  metadata := taken_isChain (fun _ _ _ _ hreach hshown htaken hchanged =>
    metadata_of_unchanged (cacheInvariant hreach) ((remembersTaken hreach).lastTaken htaken)
      hshown hchanged) h
  consumer := keptFrame_metadata h

/-! ## The cursor past the last column -/

/-- A screen of one empty cell with the cursor at a column. -/
def oneCellScreen (cursorX : Nat) : Screen where
  width := 1
  height := 1
  widthPos := Nat.one_pos
  widthLt := one_lt_unsigned
  heightPos := Nat.one_pos
  cell := fun _ _ => {}
  rowId := fun row => row
  cursorX := cursorX

/-- `CSI 5 SP q`, which selects the bar cursor. -/
def barCursorSequence : List UInt8 := [0x1b, 91, 53, 32, 113]

/-- A frame, the bar cursor, a frame, and a frame of the same screen again. -/
def barCursorOps (cursorX : Nat) : List Op :=
  [.takePackedFrame ⟨[⟨{}, 0, 0, 1⟩], 1⟩,
    .feedOutput barCursorSequence (oneCellScreen cursorX),
    .takePackedFrame ⟨[], 1⟩,
    .takePackedFrame ⟨[], 1⟩]

/-- With the cursor in the grid the run is one of those above. -/
theorem unchangedFrames_barCursor :
    UnchangedFrames ((newRun (oneCellScreen 0)).calls ucs4ToUtf8 (barCursorOps 0)).taken := by
  refine unchangedFrames_of_cursorShown ucs4ToUtf8 (reachable_calls (.init ⟨_, rfl⟩) ?_)
  refine ⟨?_, trivial, ?_, ?_, trivial⟩
  · exact fun h => absurd h (by decide)
  · exact fun _ => Or.inl (by decide)
  · exact fun h => absurd h (by decide)

/-- In the pending-wrap state (`cursor_x` is the number of columns) the new cursor style is in a
frame with `changed == 0`. -/
theorem not_unchangedFrames : ¬ ∀ run, (terminalSystem ucs4ToUtf8).Reachable (fun _ _ => True) run →
    UnchangedFrames run.taken := by
  intro h
  have hreach : (terminalSystem ucs4ToUtf8).Reachable (fun _ _ => True)
      ((newRun (oneCellScreen 1)).calls ucs4ToUtf8 (barCursorOps 1)) :=
    reachable_calls (.init ⟨_, rfl⟩) ⟨trivial, trivial, trivial, trivial, trivial⟩
  obtain ⟨kept, hkept, hmetadata⟩ := (h _ hreach).consumer _ rfl
  have hbar : kept.cursorStyle = .bar := by
    have := congrArg FrameMetadata.cursorStyle hmetadata
    exact this
  -- both frames after the first one are dropped, so the consumer still shows the block
  have hblock : (keptFrame ((newRun (oneCellScreen 1)).calls ucs4ToUtf8 (barCursorOps 1)).taken).map
      PackedFrame.cursorStyle = some .block := by decide
  rw [hkept, Option.map_some, hbar] at hblock
  exact absurd hblock (by decide)

end SakuraTerminal.Core
