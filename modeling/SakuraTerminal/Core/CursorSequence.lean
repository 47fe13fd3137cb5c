import SakuraTerminal.Core.TerminalRun

/-!
# The cursor style of a stream

`TrackCursorStyle` of `src/terminal_core.cpp` scans the output for `ESC [ P SP q` with four states.
`ESC` restarts it in every state, so the state says how the bytes up to here end (`Scanned`), and
the sequences it acts on are exactly those that occur in the stream, however `FeedOutput` gets it
in chunks (`cursorStyle_tracks`).

Of the parameters it keeps 16 characters, and the number of the first parameter is read from those.
Numbers from 2 ^ 32 on are narrowed to `unsigned int`; the theorem says nothing of them.

The two halves of the proof are about the scanner and about the stream. A sequence that ends at some
byte is recognised there, whatever came before it (`scan_intermediate`), and where the scanner acts
a sequence has ended (`Scanned`). Together they say of each byte what it does to the style
(`SequenceAt.styleAt`, `styleAt_succ_of_forall`), and the style after the stream is that of the last
byte that did something (`lastSequenceDecides_scan`).
-/

set_option autoImplicit false

namespace SakuraTerminal.Core

/-! ## Sequences in a stream -/

/-- A digit or a semicolon. -/
def isParameter (ch : UInt8) : Bool := isDigit ch || ch == 59

/-- The number before the first semicolon, 0 if there is none. -/
def firstParameter (parameters : List UInt8) : Nat :=
  (parameters.takeWhile isDigit).foldl (fun value ch => value * 10 + (ch.toNat - 48)) 0

/-- The style a number selects. The numbers from 7 on select none. -/
def selectedStyle (value : Nat) : Option CursorStyle :=
  if value ≤ 2 then some .block
  else if value ≤ 4 then some .underline
  else if value ≤ 6 then some .bar
  else none

/-- The first `stop` bytes end with `ESC [ P SP q`. The parameters are all characters between the
bracket and the space, however many. -/
structure SequenceAt (data : List UInt8) (stop : Nat) (parameters : List UInt8) : Prop where
  le : stop ≤ data.length
  parameter : ∀ ch ∈ parameters, isParameter ch = true
  ends : ∃ before, data.take stop = before ++ 0x1b :: 91 :: (parameters ++ [32, 113])

/-- The style is that of the last sequence which selects one, when those after it are ignored.
Without any sequence it is the block. -/
structure LastSequenceDecides (selected : List UInt8 → Option CursorStyle)
    (ignored : List UInt8 → Prop) (data : List UInt8) (style : CursorStyle) : Prop where
  decided : ∀ stop parameters chosen, SequenceAt data stop parameters →
    selected parameters = some chosen →
    (∀ later parameters', stop < later → SequenceAt data later parameters' →
      ignored parameters') → style = chosen
  undecided : (∀ stop parameters, SequenceAt data stop parameters → ignored parameters) →
    style = .block

/-- The scanner after some bytes. -/
def scan (data : List UInt8) : CursorTracking := trackCursorStyle {} data

theorem scan_concat (data : List UInt8) (ch : UInt8) :
    scan (data ++ [ch]) = trackCursorByte (scan data) ch := by
  unfold scan trackCursorStyle
  rw [List.foldl_append, List.foldl_cons, List.foldl_nil]

/-! ## The scanner -/

section scanner

variable {cursor : CursorTracking} {ch : UInt8} {parameters : List UInt8}

/-- Only a `q` behind a space changes the style. -/
theorem trackCursorByte_style :
    (trackCursorByte cursor ch).cursorStyle =
      if cursor.cursorSequenceState = .csiIntermediate ∧ ch = 113 then
        cursorStyleFor (strtoul cursor.cursorSequenceParameters) cursor.cursorStyle
      else cursor.cursorStyle := by
  unfold trackCursorByte
  cases hstate : cursor.cursorSequenceState with
  | ground => by_cases hch : ch = 0x1b <;> simp [hch]
  | escape => by_cases hch : ch = 91 <;> by_cases hesc : ch = 0x1b <;> simp [hch, hesc]
  | csi =>
    simp only [reduceCtorEq, false_and, if_false]
    split_ifs <;> rfl
  | csiIntermediate =>
    by_cases hch : ch = 113
    · simp only [hch, and_self, if_true]
      split_ifs with hstyle
      · rfl
      · exact (not_not.1 hstyle).symm
    · simp [hch]

/-- The counter counts the bytes that change the style. -/
theorem trackCursorByte_changes :
    (trackCursorByte cursor ch).cursorStyleChanges = cursor.cursorStyleChanges +
      if (trackCursorByte cursor ch).cursorStyle ≠ cursor.cursorStyle then 1 else 0 := by
  unfold trackCursorByte
  cases hstate : cursor.cursorSequenceState with
  | ground => by_cases hch : ch = 0x1b <;> simp [hch]
  | escape => by_cases hch : ch = 91 <;> by_cases hesc : ch = 0x1b <;> simp [hch, hesc]
  | csi =>
    dsimp only
    split_ifs <;> simp_all
  | csiIntermediate =>
    by_cases hch : ch = 113
    · simp only [hch, if_true]
      split_ifs <;> simp_all
    · simp [hch]

/-! ### A sequence is recognised -/

theorem trackCursorByte_escape :
    (trackCursorByte cursor 0x1b).cursorSequenceState = .escape := by
  unfold trackCursorByte
  cases hstate : cursor.cursorSequenceState with
  | ground => rfl
  | escape => exact hstate
  | csi => rfl
  | csiIntermediate => rfl

/-- The scanner is behind `ESC [` and the parameters. The scanner keeps the first 16 of them. -/
structure InCsi (cursor : CursorTracking) (parameters : List UInt8) : Prop where
  state : cursor.cursorSequenceState = .csi
  kept : cursor.cursorSequenceParameters = parameters.take 16

/-- The bracket begins with no parameters. -/
theorem inCsi_bracket (h : cursor.cursorSequenceState = .escape) :
    InCsi (trackCursorByte cursor 91) [] := by
  unfold trackCursorByte
  rw [h]
  exact ⟨rfl, rfl⟩

/-- The first 16 parameter characters are kept. -/
theorem InCsi.parameter (h : InCsi cursor parameters) (hch : isParameter ch = true) :
    InCsi (trackCursorByte cursor ch) (parameters ++ [ch]) := by
  have hbyte : (isDigit ch || ch == 59) = true := hch
  unfold trackCursorByte
  rw [h.state]
  dsimp only
  rw [if_pos hbyte, h.kept, List.length_take]
  by_cases hroom : parameters.length < 16
  · rw [if_pos (by omega), List.take_of_length_le (Nat.le_of_lt hroom)]
    refine ⟨rfl, (List.take_of_length_le ?_).symm⟩
    rw [List.length_append, List.length_singleton]
    omega
  · rw [if_neg (by omega)]
    exact ⟨h.state, by rw [h.kept, List.take_append_of_le_length (by omega)]⟩

theorem InCsi.foldl (h : InCsi cursor [])
    (hparameters : ∀ ch ∈ parameters, isParameter ch = true) :
    InCsi (trackCursorStyle cursor parameters) parameters := by
  induction parameters using List.reverseRecOn with
  | nil => exact h
  | append_singleton parameters ch ih =>
    have hinit := ih fun other hother => hparameters other (List.mem_append_left _ hother)
    rw [trackCursorStyle, List.foldl_append, List.foldl_cons, List.foldl_nil]
    exact hinit.parameter (hparameters ch (List.mem_append_right _ List.mem_cons_self))

/-- The space ends them. -/
theorem InCsi.space (h : InCsi cursor parameters) :
    (trackCursorByte cursor 32).cursorSequenceState = .csiIntermediate ∧
      (trackCursorByte cursor 32).cursorSequenceParameters = parameters.take 16 := by
  unfold trackCursorByte
  rw [h.state]
  exact ⟨rfl, h.kept⟩

/-- Whatever came before, `ESC [ P SP` leads to the last state. -/
theorem scan_intermediate (before : List UInt8)
    (hparameters : ∀ ch ∈ parameters, isParameter ch = true) :
    (scan (before ++ 0x1b :: 91 :: (parameters ++ [32]))).cursorSequenceState = .csiIntermediate ∧
      (scan (before ++ 0x1b :: 91 :: (parameters ++ [32]))).cursorSequenceParameters =
        parameters.take 16 := by
  have hscan : scan (before ++ 0x1b :: 91 :: (parameters ++ [32])) =
      trackCursorByte (trackCursorStyle
        (trackCursorByte (trackCursorByte (scan before) 0x1b) 91) parameters) 32 := by
    unfold scan trackCursorStyle
    rw [List.foldl_append, List.foldl_cons, List.foldl_cons, List.foldl_append, List.foldl_cons,
      List.foldl_nil]
  rw [hscan]
  exact ((inCsi_bracket trackCursorByte_escape).foldl hparameters).space

/-! ### Nothing else is recognised -/

/-- How the bytes up to here end in each state of the scanner. The state says what the last bytes
were, up to the last `ESC`. It is the converse of `scan_intermediate`. -/
def Scanned (data : List UInt8) (cursor : CursorTracking) : Prop :=
  match cursor.cursorSequenceState with
  | .ground => True
  | .escape => ∃ before, data = before ++ [0x1b]
  | .csi => ∃ before parameters, data = before ++ 0x1b :: 91 :: parameters ∧
      ∀ ch ∈ parameters, isParameter ch = true
  | .csiIntermediate => ∃ before parameters, data = before ++ 0x1b :: 91 :: (parameters ++ [32]) ∧
      ∀ ch ∈ parameters, isParameter ch = true

theorem scanned_restart (data : List UInt8) (ch : UInt8) :
    Scanned (data ++ [ch])
      { cursor with cursorSequenceState := if ch = 0x1b then .escape else .ground } := by
  by_cases hch : ch = 0x1b
  · rw [if_pos hch, hch]
    exact ⟨data, rfl⟩
  · rw [if_neg hch]
    trivial

/-- One more byte: the automaton takes the transition that the bytes since the last escape ask
for. The cases are the states, and in each of them the bytes that go on, end a sequence or break
it off. -/
theorem Scanned.step {data : List UInt8} (h : Scanned data cursor) (ch : UInt8) :
    Scanned (data ++ [ch]) (trackCursorByte cursor ch) := by
  unfold Scanned at h
  unfold trackCursorByte
  cases hstate : cursor.cursorSequenceState with
  | ground =>
    dsimp only
    split
    case isTrue hch => exact ⟨data, by rw [hch]⟩
    case isFalse => simp [Scanned, hstate]
  | escape =>
    rw [hstate] at h
    obtain ⟨before, rfl⟩ := h
    dsimp only
    split
    case isTrue hch =>
      refine ⟨before, [], ?_, by simp⟩
      rw [hch]
      simp
    case isFalse =>
      split
      case isTrue => trivial
      case isFalse hch =>
        rw [not_not.1 hch]
        simp only [Scanned, hstate]
        exact ⟨before ++ [0x1b], rfl⟩
  | csi =>
    rw [hstate] at h
    obtain ⟨before, parameters, rfl, hparameters⟩ := h
    dsimp only
    split
    case isTrue hch =>
      have hlonger : ∀ other ∈ parameters ++ [ch], isParameter other = true := by
        intro other hother
        rcases List.mem_append.1 hother with hother | hother
        · exact hparameters other hother
        · rw [List.mem_singleton.1 hother]
          exact hch
      have hends : before ++ 0x1b :: 91 :: parameters ++ [ch] =
          before ++ 0x1b :: 91 :: (parameters ++ [ch]) := by simp
      split <;> simp only [Scanned, hstate] <;> exact ⟨before, parameters ++ [ch], hends, hlonger⟩
    case isFalse =>
      split
      case isTrue hch =>
        refine ⟨before, parameters, ?_, hparameters⟩
        rw [hch]
        simp
      case isFalse => exact scanned_restart _ ch
  | csiIntermediate =>
    dsimp only
    split
    case isTrue => trivial
    case isFalse => exact scanned_restart _ ch

/-- The state of the scanner says how the stream ends. -/
theorem scanned_scan (data : List UInt8) : Scanned data (scan data) := by
  induction data using List.reverseRecOn with
  | nil => trivial
  | append_singleton data ch ih =>
    rw [scan_concat]
    exact ih.step ch

end scanner

/-! ## The style after a stream -/

section stream

variable {data parameters : List UInt8} {stop : Nat}

/-- The style after the first `stop` bytes. -/
def styleAt (data : List UInt8) (stop : Nat) : CursorStyle := (scan (data.take stop)).cursorStyle

/-- The number of bytes after which the style is another one. -/
def styleChanges (data : List UInt8) : Nat :=
  ((List.range data.length).filter fun index =>
    decide (styleAt data (index + 1) ≠ styleAt data index)).length

theorem take_succ_eq_concat (h : stop < data.length) :
    data.take (stop + 1) = data.take stop ++ [data[stop]] := by
  rw [List.take_add_one, List.getElem?_eq_getElem h, Option.toList_some]

theorem scan_take_succ (h : stop < data.length) :
    scan (data.take (stop + 1)) = trackCursorByte (scan (data.take stop)) data[stop] := by
  rw [take_succ_eq_concat h, scan_concat]

/-- A sequence selects a style or leaves the one before it. -/
theorem SequenceAt.styleAt (h : SequenceAt data stop parameters) :
    ∃ index, stop = index + 1 ∧ styleAt data stop =
      cursorStyleFor (strtoul (parameters.take 16)) (Core.styleAt data index) := by
  obtain ⟨before, hends⟩ := h.ends
  have hlength := congrArg List.length hends
  simp only [List.length_take, List.length_append, List.length_cons, List.length_nil] at hlength
  have hle := h.le
  obtain ⟨index, rfl⟩ : ∃ index, stop = index + 1 := ⟨stop - 1, by omega⟩
  have hlt : index < data.length := by omega
  refine ⟨index, rfl, ?_⟩
  have hsplit : data.take index ++ [data[index]] =
      (before ++ 0x1b :: 91 :: (parameters ++ [32])) ++ [113] := by
    rw [← take_succ_eq_concat hlt, hends]
    simp
  obtain ⟨hbefore, hlast⟩ := List.append_inj' hsplit rfl
  rw [List.singleton_inj] at hlast
  obtain ⟨hstate, hkept⟩ := scan_intermediate before h.parameter
  rw [Core.styleAt, scan_take_succ hlt, trackCursorByte_style, Core.styleAt, hbefore, hstate,
    hkept, hlast]
  rfl

/-- Where no sequence ends the style stays. -/
theorem styleAt_succ_of_forall (hlt : stop < data.length)
    (hnone : ∀ parameters, ¬ SequenceAt data (stop + 1) parameters) :
    styleAt data (stop + 1) = styleAt data stop := by
  rw [styleAt, scan_take_succ hlt, trackCursorByte_style, styleAt]
  refine if_neg ?_
  rintro ⟨hstate, hch⟩
  have hscanned := scanned_scan (data.take stop)
  rw [Scanned, hstate] at hscanned
  obtain ⟨before, parameters, hends, hparameters⟩ := hscanned
  refine hnone parameters ⟨hlt, hparameters, before, ?_⟩
  rw [take_succ_eq_concat hlt, hends, hch]
  simp

theorem cursorStyleFor_of_selected {value : Nat} {chosen : CursorStyle}
    (h : selectedStyle value = some chosen) (style : CursorStyle) :
    value < 4294967296 ∧ cursorStyleFor value style = chosen := by
  unfold selectedStyle at h
  unfold cursorStyleFor
  split_ifs at h ⊢ <;> simp_all
  all_goals omega

/-- The number that the source reads is the first parameter, narrowed. -/
theorem strtoul_eq (parameters : List UInt8) :
    strtoul parameters = u32 (firstParameter parameters) := rfl

/-- A number that selects nothing and that `unsigned int` can hold. -/
def NumberIgnored (value : Nat) : Prop := 6 < value ∧ value < 4294967296

/-- From a place on where every sequence is ignored the style stays. -/
theorem styleAt_eq_of_ignored {first : Nat} (hle : first ≤ data.length)
    (hignored : ∀ later parameters, first < later → SequenceAt data later parameters →
      NumberIgnored (firstParameter (parameters.take 16))) :
    styleAt data data.length = styleAt data first := by
  suffices hall : ∀ count, first + count ≤ data.length →
      styleAt data (first + count) = styleAt data first by
    have hlast := hall (data.length - first) (by omega)
    rwa [Nat.add_sub_of_le hle] at hlast
  intro count
  induction count with
  | zero => exact fun _ => rfl
  | succ count ih =>
    intro hcount
    rw [← ih (by omega)]
    by_cases hsome : ∃ parameters, SequenceAt data (first + (count + 1)) parameters
    · obtain ⟨parameters, hsequence⟩ := hsome
      obtain ⟨hlow, hhigh⟩ := hignored _ _ (by omega) hsequence
      obtain ⟨index, hindex, hstyle⟩ := hsequence.styleAt
      obtain rfl : first + count = index := by omega
      rw [hstyle, strtoul_eq, u32, Nat.mod_eq_of_lt hhigh, cursorStyleFor, if_neg (by omega),
        if_neg (by omega), if_neg (by omega)]
    · have hlt : first + count < data.length := by omega
      exact styleAt_succ_of_forall hlt fun parameters hsequence => hsome ⟨parameters, hsequence⟩

/-- The style after a stream is decided by its last sequence with a number that selects one. -/
theorem lastSequenceDecides_scan (data : List UInt8) :
    LastSequenceDecides (fun parameters => selectedStyle (firstParameter (parameters.take 16)))
      (fun parameters => NumberIgnored (firstParameter (parameters.take 16))) data
      (scan data).cursorStyle := by
  have hwhole : (scan data).cursorStyle = styleAt data data.length := by
    rw [styleAt, List.take_length]
  constructor
  case decided =>
    intro stop parameters chosen hsequence hchosen hlater
    obtain ⟨index, -, hstyle⟩ := hsequence.styleAt
    obtain ⟨hsmall, hselects⟩ := cursorStyleFor_of_selected hchosen (styleAt data index)
    rw [hwhole, styleAt_eq_of_ignored hsequence.le hlater, hstyle, strtoul_eq, u32,
      Nat.mod_eq_of_lt hsmall]
    exact hselects
  case undecided =>
    intro hall
    rw [hwhole,
      styleAt_eq_of_ignored (Nat.zero_le _) fun later parameters _ => hall later parameters]
    rfl

/-- The counter counts the changes of the style. -/
theorem cursorStyleChanges_scan (data : List UInt8) :
    (scan data).cursorStyleChanges = styleChanges data := by
  suffices hall : ∀ stop ≤ data.length, (scan (data.take stop)).cursorStyleChanges =
      ((List.range stop).filter fun index =>
        decide (styleAt data (index + 1) ≠ styleAt data index)).length by
    have hwhole := hall data.length le_rfl
    rwa [List.take_length] at hwhole
  intro stop hstop
  induction stop with
  | zero => rfl
  | succ stop ih =>
    have hlt : stop < data.length := hstop
    have hstep : (trackCursorByte (scan (data.take stop)) data[stop]).cursorStyle =
        styleAt data (stop + 1) := by rw [styleAt, scan_take_succ hlt]
    rw [scan_take_succ hlt, trackCursorByte_changes, ih (Nat.le_of_lt hlt), hstep,
      List.range_succ, List.filter_append, List.length_append, List.filter_singleton, ← styleAt]
    by_cases hchange : styleAt data (stop + 1) = styleAt data stop
    · simp [hchange]
    · simp [hchange]

end stream

/-! ## Streams in chunks -/

/-- The output fed by some calls, one chunk after another. -/
def fedBytes (ops : List Op) : List UInt8 :=
  ops.flatMap fun
    | .feedOutput data _ => data
    | _ => []

/-- Nothing but output moves the scanner. -/
theorem next_cursor (tsmUcs4ToUtf8 : Nat → List UInt8) (run : TerminalRun) (op : Op) :
    (run.next tsmUcs4ToUtf8 op).impl.cursor = trackCursorStyle run.impl.cursor (fedBytes [op]) := by
  cases op with
  | feedOutput data after =>
    rw [show fedBytes [.feedOutput data after] = data from List.append_nil data]
    exact feedOutput_cursor run.impl run.screen data after
  | scrollLines lines after =>
    change (Core.scrollLines run.impl lines run.screen after).cursor = run.impl.cursor
    unfold Core.scrollLines
    split <;> rfl
  | scrollPageUp pages after => rfl
  | scrollPageDown pages after => rfl
  | resize after => rfl
  | input after => rfl
  | takePackedFrame draw => rfl

/-- Where the output is cut makes no difference, nor what comes between its chunks. -/
theorem calls_cursor (tsmUcs4ToUtf8 : Nat → List UInt8) (screen : Screen) (ops : List Op) :
    ((newRun screen).calls tsmUcs4ToUtf8 ops).impl.cursor = scan (fedBytes ops) := by
  induction ops using List.reverseRecOn with
  | nil => rfl
  | append_singleton ops op ih =>
    have hbytes : fedBytes (ops ++ [op]) = fedBytes ops ++ fedBytes [op] := List.flatMap_append
    rw [TerminalRun.calls, List.foldl_append, List.foldl_cons, List.foldl_nil, ← TerminalRun.calls,
      next_cursor, ih, hbytes]
    exact (List.foldl_append ..).symm

/-- For every output and every way of feeding it: the style is the one that the last sequence
`ESC [ P SP q` selects with the number in the first 16 characters of `P`, when `unsigned int` can
hold the numbers after it, and the changes of the style are counted. -/
theorem cursorStyle_tracks (tsmUcs4ToUtf8 : Nat → List UInt8) (screen : Screen) (ops : List Op) :
    LastSequenceDecides (fun parameters => selectedStyle (firstParameter (parameters.take 16)))
        (fun parameters => NumberIgnored (firstParameter (parameters.take 16))) (fedBytes ops)
        ((newRun screen).calls tsmUcs4ToUtf8 ops).impl.cursor.cursorStyle ∧
      ((newRun screen).calls tsmUcs4ToUtf8 ops).impl.cursor.cursorStyleChanges =
        styleChanges (fedBytes ops) := by
  rw [calls_cursor]
  exact ⟨lastSequenceDecides_scan _, cursorStyleChanges_scan _⟩

/-- `ESC [ 00000000000000005 SP q`. -/
def longSequence : List UInt8 :=
  [0x1b, 91] ++ List.replicate 16 48 ++ [53, 32, 113]

/-- Of 16 zeros and a 5 the 5 is not kept. -/
theorem not_cursorStyle_tracks : ¬ ∀ (screen : Screen) (ops : List Op),
    LastSequenceDecides (fun parameters => selectedStyle (firstParameter parameters))
        (fun parameters => selectedStyle (firstParameter parameters) = none) (fedBytes ops)
        ((newRun screen).calls ucs4ToUtf8 ops).impl.cursor.cursorStyle ∧
      ((newRun screen).calls ucs4ToUtf8 ops).impl.cursor.cursorStyleChanges =
        styleChanges (fedBytes ops) := by
  intro h
  obtain ⟨⟨hdecided, -⟩, -⟩ := h (linesScreen 0 0) [.feedOutput longSequence (linesScreen 0 0)]
  rw [calls_cursor] at hdecided
  have hsequence : SequenceAt longSequence 21 (List.replicate 16 48 ++ [53]) :=
    ⟨by decide, List.all_eq_true.1 (by decide), [], by decide⟩
  have hbar := hdecided 21 _ .bar hsequence (by decide) fun later _ hlater hother =>
    absurd hother.le (Nat.not_le_of_lt hlater)
  exact absurd hbar (by decide)

end SakuraTerminal.Core
