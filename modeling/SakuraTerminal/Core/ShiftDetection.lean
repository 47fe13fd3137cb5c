import SakuraTerminal.Core.Terminal
import SakuraTerminal.Foundations.Shifts

/-!
# Detecting scrolled lines

`DetectFullScreenShift` compares the ids of the lines with the previous ones, one distance after
another, up before down. `ShiftSearch` says what it returns: the least shift that the ids admit,
converted to an `int`, or 0 when they admit none. So the detection is exact where the distance fits
an `int` (`detectFullScreenShift_exact`). A screen of more than 2^31 rows can be shifted by 2^31
rows, and then the number returned is another one (`not_detectFullScreenShift_exact`).

The shift is what `FeedOutput` adds to the pending scroll (`feedOutput_scrolledBy`,
`feedOutput_bandScrolled`).

The search itself is a `find?` over the distances from 1 on, so what it returns is the first
distance at which one of two row-by-row comparisons succeeds (`moved_iff`). In the terms of `Shifts`
the comparisons are shifts up and down, and the first distance is the least one. Distinct ids are
needed only to know that the screen was really scrolled by what was found; the search compares
whatever it is given.
-/

set_option autoImplicit false

namespace SakuraTerminal.Core

open SakuraTerminal.Foundations

/-- There is an id for each row. -/
theorem Screen.length_rowIds (screen : Screen) : screen.rowIds.length = screen.height := by
  rw [Screen.rowIds, List.length_map, List.length_range]

theorem Screen.getElem?_rowIds (screen : Screen) {row : Nat} (hrow : row < screen.height) :
    screen.rowIds[row]? = some (screen.rowId row) := by
  rw [Screen.rowIds, List.getElem?_map, List.getElem?_range hrow, Option.map_some]

/-! ## The search -/

section search

variable {previousLines : List Nat} {screen : Screen}

/-- Comparisons of previous lines with lines of the screen, one for each row. -/
theorem all_sameLine_iff {n : Nat} {source target : Nat → Nat}
    (htarget : ∀ row < n, target row < screen.height) :
    ((List.range n).all fun row =>
      previousLines[source row]? == some (screen.rowId (target row))) = true ↔
        ∀ row < n, screen.rowIds[target row]? = previousLines[source row]? := by
  rw [List.all_eq_true]
  constructor
  · intro h row hrow
    have hsame := h row (List.mem_range.2 hrow)
    rw [screen.getElem?_rowIds (htarget row hrow)]
    exact (beq_iff_eq.1 hsame).symm
  · intro h row hmem
    have hrow := List.mem_range.1 hmem
    rw [beq_iff_eq, ← h row hrow]
    exact screen.getElem?_rowIds (htarget row hrow)

/-- The comparison upwards is a shift up. -/
theorem movedUp_iff (hlength : previousLines.length = screen.height) {delta : Nat}
    (hpos : 0 < delta) (hlt : delta < screen.height) :
    movedUp previousLines screen delta = true ↔ IsShift previousLines screen.rowIds delta := by
  have hids := screen.length_rowIds
  rw [isShift_natCast_iff (hlength.trans hids.symm) hpos (by omega), hids, movedUp]
  apply all_sameLine_iff
  intro row hrow
  omega

/-- The comparison downwards is a shift down. -/
theorem movedDown_iff (hlength : previousLines.length = screen.height) {delta : Nat}
    (hpos : 0 < delta) (hlt : delta < screen.height) :
    movedDown previousLines screen delta = true ↔
      IsShift previousLines screen.rowIds (-delta) := by
  have hids := screen.length_rowIds
  rw [isShift_neg_natCast_iff (hlength.trans hids.symm) hpos (by omega), hids, movedDown]
  apply all_sameLine_iff
  intro row hrow
  omega

/-- The search stops at the first distance at which the lines moved, up or down. -/
theorem moved_iff (hlength : previousLines.length = screen.height) {delta : Nat}
    (hpos : 0 < delta) (hlt : delta < screen.height) :
    (movedUp previousLines screen delta || movedDown previousLines screen delta) = true ↔
      ∃ d, IsShift previousLines screen.rowIds d ∧ d.natAbs = delta := by
  rw [Bool.or_eq_true, movedUp_iff hlength hpos hlt, movedDown_iff hlength hpos hlt]
  constructor
  · rintro (hup | hdown)
    · exact ⟨delta, hup, Int.natAbs_natCast delta⟩
    · exact ⟨-delta, hdown, by omega⟩
  · rintro ⟨d, hshift, rfl⟩
    rcases Int.natAbs_eq d with hup | hdown
    · exact .inl (hup ▸ hshift)
    · exact .inr (hdown ▸ hshift)

/-- What the search returns: a least shift as an `int`, or 0. -/
inductive ShiftSearch (previous current : List Nat) : Int → Prop where
  | none (hnone : ∀ d, ¬ IsShift previous current d) : ShiftSearch previous current 0
  | up {delta : Nat} (hleast : LeastShift previous current delta) :
    ShiftSearch previous current (i32 delta)
  | down {delta : Nat} (hleast : LeastShift previous current (-delta)) :
    ShiftSearch previous current (-i32 delta)

/-- The search of `DetectFullScreenShift` is one. -/
theorem shiftSearch (hheight : 2 ≤ screen.height)
    (hlength : previousLines.length = screen.height) :
    ShiftSearch previousLines screen.rowIds (detectFullScreenShift previousLines screen) := by
  have hids := screen.length_rowIds
  -- every shift goes a distance that the search tries
  have hrange : ∀ d, IsShift previousLines screen.rowIds d →
      0 < d.natAbs ∧ d.natAbs < screen.height := fun d h =>
    ⟨Int.natAbs_pos.2 h.ne_zero, h.lt.trans_eq hids⟩
  rw [detectFullScreenShift, if_neg (by omega)]
  dsimp only
  split
  case h_1 hfind =>
    rw [List.find?_range'_eq_none] at hfind
    refine .none fun d hshift => ?_
    obtain ⟨hpos, hlt⟩ := hrange d hshift
    have hmoved := (moved_iff hlength hpos hlt).2 ⟨d, hshift, rfl⟩
    have hnot := hfind d.natAbs hpos (by omega)
    rw [hmoved] at hnot
    contradiction
  case h_2 delta hfind =>
    rw [List.find?_range'_eq_some, List.mem_range'_1] at hfind
    obtain ⟨hmoved, ⟨hpos, hlast⟩, hbefore⟩ := hfind
    have hlt : delta < screen.height := by omega
    have hleast : ∀ other, IsShift previousLines screen.rowIds other →
        delta ≤ other.natAbs := by
      intro other hother
      by_contra hless
      obtain ⟨hotherPos, hotherLt⟩ := hrange other hother
      have hfound := (moved_iff hlength hotherPos hotherLt).2 ⟨other, hother, rfl⟩
      have hnot := hbefore other.natAbs hotherPos (by omega)
      rw [hfound] at hnot
      contradiction
    split
    case isTrue hup =>
      refine .up ⟨(movedUp_iff hlength hpos hlt).1 hup, ?_⟩
      rw [Int.natAbs_natCast]
      exact hleast
    case isFalse hup =>
      have hdown : movedDown previousLines screen delta = true := by
        simpa [hup] using hmoved
      refine .down ⟨(movedDown_iff hlength hpos hlt).1 hdown, ?_⟩
      rw [Int.natAbs_neg, Int.natAbs_natCast]
      exact hleast

/-- A distance below 2^31 is returned as it is. -/
theorem ShiftSearch.detectsShift {previous current : List Nat} {result : Int}
    (h : ShiftSearch previous current result)
    (hfits : ∀ d, LeastShift previous current d → d.natAbs < 2147483648) :
    DetectsShift previous current result := by
  cases h with
  | none hnone =>
    exact ⟨fun ⟨d, hshift⟩ => absurd hshift (hnone d), fun _ => rfl⟩
  | up hleast =>
    have hsmall := hfits _ hleast
    rw [Int.natAbs_natCast] at hsmall
    rw [i32_of_lt hsmall]
    exact ⟨fun _ => hleast, fun hnone => absurd hleast.shift (hnone _)⟩
  | down hleast =>
    have hsmall := hfits _ hleast
    rw [Int.natAbs_neg, Int.natAbs_natCast] at hsmall
    rw [i32_of_lt hsmall]
    exact ⟨fun _ => hleast, fun hnone => absurd hleast.shift (hnone _)⟩

/-- Where the ids admit no shift, none is returned. -/
theorem ShiftSearch.eq_zero {previous current : List Nat} {result : Int}
    (h : ShiftSearch previous current result) (hnone : ∀ d, ¬ IsShift previous current d) :
    result = 0 := by
  cases h with
  | none => rfl
  | up hleast => exact absurd hleast.shift (hnone _)
  | down hleast => exact absurd hleast.shift (hnone _)

/-- After a scroll up, the search returns the number of lines as an `int`. -/
theorem ShiftSearch.eq_i32 {previous current : List Nat} {result : Int}
    (h : ShiftSearch previous current result) (hlength : previous.length = current.length)
    {lines : Nat} (hscrolled : ScrolledBy previous current lines) : result = i32 lines := by
  -- a least shift is the scroll
  have heq : ∀ d, LeastShift previous current d → d = lines := fun d hleast =>
    hscrolled.eq_of_isShift hlength hleast.shift (hleast.least lines hscrolled.shift)
  cases h with
  | none hnone => exact absurd hscrolled.shift (hnone lines)
  | up hleast => rw [Int.natCast_inj.1 (heq _ hleast)]
  | down hleast =>
    have hneg := heq _ hleast
    have hne := hscrolled.shift.ne_zero
    omega

end search

/-! ## Exact detection -/

/-- The shift that is returned is the least one of the ids, and the scroll of the screen if all or
a part of it was scrolled. -/
structure DetectsExactly (previousLines : List Nat) (screen : Screen) : Prop where
  shift : detectFullScreenShift previousLines screen ≠ 0 →
    IsShift previousLines screen.rowIds (detectFullScreenShift previousLines screen)
  detects : DetectsShift previousLines screen.rowIds (detectFullScreenShift previousLines screen)
  scrolled : ∀ lines, ScrolledBy previousLines screen.rowIds lines →
    detectFullScreenShift previousLines screen = lines
  unmoved : screen.rowIds = previousLines → detectFullScreenShift previousLines screen = 0
  band : ∀ top bottom, BandScrolled previousLines screen.rowIds top bottom →
    detectFullScreenShift previousLines screen = 0

section exact

variable {previousLines : List Nat} {screen : Screen}

/-- Nothing is detected where the ids admit no shift. -/
theorem detectFullScreenShift_eq_zero (hlength : previousLines.length = screen.height)
    (hnone : ∀ d, ¬ IsShift previousLines screen.rowIds d) :
    detectFullScreenShift previousLines screen = 0 := by
  by_cases hheight : screen.height < 2
  · rw [detectFullScreenShift, if_pos (.inr hheight)]
  · exact (shiftSearch (Nat.le_of_not_lt hheight) hlength).eq_zero hnone

/-- The lines that a screen was scrolled by are detected. -/
theorem detectFullScreenShift_scrolled (hlength : previousLines.length = screen.height)
    {lines : Int} (hscrolled : ScrolledBy previousLines screen.rowIds lines)
    (hfits : lines.natAbs < 2147483648) :
    detectFullScreenShift previousLines screen = lines := by
  have hids := screen.length_rowIds
  have hrows := hlength.trans hids.symm
  have hheight : 2 ≤ screen.height := by
    have hne := hscrolled.shift.ne_zero
    have hlt := hscrolled.shift.lt
    omega
  have hdetects := (shiftSearch hheight hlength).detectsShift fun d hleast => by
    rw [hscrolled.eq_of_isShift hrows hleast.shift (hleast.least lines hscrolled.shift)]
    exact hfits
  exact hdetects.eq_of_scrolledBy hrows hscrolled

/-- The detection is exact if the least shift, where there is one, goes less than 2^31 lines. -/
theorem detectFullScreenShift_exact (hheight : 2 ≤ screen.height)
    (hlength : previousLines.length = screen.height) (hprevious : previousLines.Nodup)
    (hcurrent : screen.rowIds.Nodup)
    (hfits : ∀ d, LeastShift previousLines screen.rowIds d → d.natAbs < 2147483648) :
    DetectsExactly previousLines screen := by
  have hrows := hlength.trans screen.length_rowIds.symm
  have hdetects := (shiftSearch hheight hlength).detectsShift hfits
  constructor
  case shift => exact hdetects.isShift
  case detects => exact hdetects
  case scrolled =>
    intro lines hscrolled
    exact hdetects.eq_of_scrolledBy hrows hscrolled
  case unmoved =>
    intro hsame
    apply detectFullScreenShift_eq_zero hlength
    exact fun _ => not_isShift_of_fixed hrows hprevious hcurrent (.inl (by rw [hsame]))
  case band =>
    intro top bottom hband
    apply detectFullScreenShift_eq_zero hlength
    exact fun _ => hband.not_isShift hrows hprevious hcurrent

end exact

/-! ## A screen that was scrolled -/

/-- A screen whose lines are numbered, from `first` on. -/
def numberedLines (first rows : Nat) : Screen where
  width := 1
  height := rows + 1
  widthPos := Nat.one_pos
  widthLt := one_lt_unsigned
  heightPos := Nat.succ_pos rows
  cell := fun _ _ => {}
  rowId := fun row => first + row

theorem nodup_numberedLines (first rows : Nat) : (numberedLines first rows).rowIds.Nodup :=
  List.Nodup.map (fun _ _ h => Nat.add_left_cancel h) List.nodup_range

/-- Lines from `lines` on are the lines from 0 on, scrolled by `lines`. -/
theorem scrolledBy_numberedLines {lines rows : Nat} (hpos : 0 < lines) (hle : lines ≤ rows) :
    ScrolledBy (numberedLines 0 rows).rowIds (numberedLines lines rows).rowIds lines := by
  have hbefore := (numberedLines 0 rows).length_rowIds
  have hafter := (numberedLines lines rows).length_rowIds
  have hheight : ∀ first, (numberedLines first rows).height = rows + 1 := fun _ => rfl
  rw [hheight] at hbefore hafter
  constructor
  case shift =>
    apply (isShift_natCast_iff (hbefore.trans hafter.symm) hpos (by omega)).2
    intro row hrow
    rw [Screen.getElem?_rowIds _ (by rw [hheight]; omega),
      Screen.getElem?_rowIds _ (by rw [hheight]; omega)]
    simp only [numberedLines]
    congr 1
    omega
  case fresh =>
    intro row hrow hexposed value hvalue hmem
    rw [Screen.getElem?_rowIds _ (by rw [hheight]; omega)] at hvalue
    rw [Screen.rowIds, List.mem_map] at hmem
    obtain ⟨source, hsource, heq⟩ := hmem
    have hlt := List.mem_range.1 hsource
    rw [hheight] at hlt
    simp only [numberedLines, Option.mem_def, Option.some.injEq] at hvalue heq
    omega

/-- One line of three. -/
theorem detectFullScreenShift_exact_threeLines :
    DetectsExactly (numberedLines 0 2).rowIds (numberedLines 1 2) := by
  apply detectFullScreenShift_exact
  · decide
  · rfl
  · exact nodup_numberedLines 0 2
  · exact nodup_numberedLines 1 2
  · intro d hleast
    have hlt : d.natAbs < 3 := hleast.shift.lt
    omega

/-- Of 2^31 + 1 lines, one is left, and the distance becomes the least `int`. -/
theorem not_detectFullScreenShift_exact : ¬ ∀ (previousLines : List Nat) (screen : Screen),
    2 ≤ screen.height → previousLines.length = screen.height → previousLines.Nodup →
    screen.rowIds.Nodup → DetectsExactly previousLines screen := by
  intro h
  have hlength := (numberedLines 0 2147483648).length_rowIds
  have hscrolled : ScrolledBy (numberedLines 0 2147483648).rowIds
      (numberedLines 2147483648 2147483648).rowIds (2147483648 : Nat) :=
    scrolledBy_numberedLines (by decide) (Nat.le_refl _)
  have hheight : 2 ≤ (numberedLines 2147483648 2147483648).height := by
    change 2 ≤ 2147483648 + 1
    decide
  have hexact := h _ (numberedLines 2147483648 2147483648) hheight hlength
    (nodup_numberedLines 0 2147483648) (nodup_numberedLines 2147483648 2147483648)
  have hreturned := (shiftSearch hheight hlength).eq_i32
    (hlength.trans (numberedLines 2147483648 2147483648).length_rowIds.symm) hscrolled
  rw [hexact.scrolled _ hscrolled] at hreturned
  exact absurd hreturned (by decide)

/-! ## Feeding output -/

/-- The core remembers the lines of the screen before the output, and the screen after it shows the
end of the same buffer. This is the case in which the core looks for a scroll at all. -/
structure FollowsOutput (impl : Impl) (before after : Screen) : Prop where
  lines : impl.observedLines = before.rowIds
  alternate : impl.observedAlternateScreen = after.alternate
  live : ¬ after.sbLinePos < after.sbLineCount

section feed

variable {impl : Impl} {before after : Screen} {data : List UInt8}

/-- Output adds the detected shift to the pending one. -/
theorem feedOutput_pending (h : FollowsOutput impl before after) (hdata : data ≠ []) :
    (feedOutput impl before data after).pendingContentScrollDelta =
      impl.pendingContentScrollDelta + detectFullScreenShift before.rowIds after := by
  have hsame : ¬ impl.observedLines.length ≠ before.height := by
    rw [h.lines, before.length_rowIds]
    exact fun hne => hne rfl
  rw [feedOutput, if_neg hdata, if_neg hsame]
  dsimp only [observeScreenScroll, resetScreenObservation]
  rw [observedDelta, if_pos ⟨h.alternate, h.live⟩, h.lines]

/-- Output that scrolls the whole screen is counted, line by line. -/
theorem feedOutput_scrolledBy (h : FollowsOutput impl before after) (hdata : data ≠ [])
    (hheight : before.height = after.height) {lines : Int}
    (hscrolled : ScrolledBy before.rowIds after.rowIds lines)
    (hfits : lines.natAbs < 2147483648) :
    (feedOutput impl before data after).pendingContentScrollDelta =
      impl.pendingContentScrollDelta + lines := by
  have hlength := before.length_rowIds.trans hheight
  rw [feedOutput_pending h hdata, detectFullScreenShift_scrolled hlength hscrolled hfits]

/-- Output that scrolls a part of the screen is not counted. -/
theorem feedOutput_bandScrolled (h : FollowsOutput impl before after) (hdata : data ≠ [])
    (hheight : before.height = after.height) (hbefore : before.rowIds.Nodup)
    (hafter : after.rowIds.Nodup) {top bottom : Nat}
    (hband : BandScrolled before.rowIds after.rowIds top bottom) :
    (feedOutput impl before data after).pendingContentScrollDelta =
      impl.pendingContentScrollDelta := by
  have hlength := before.length_rowIds.trans hheight
  have hrows := hlength.trans after.length_rowIds.symm
  have hnone := detectFullScreenShift_eq_zero hlength fun _ =>
    hband.not_isShift hrows hbefore hafter
  rw [feedOutput_pending h hdata, hnone, Int.add_zero]

end feed

end SakuraTerminal.Core
