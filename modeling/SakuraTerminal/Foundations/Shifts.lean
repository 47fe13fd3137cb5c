import Mathlib.Data.List.Basic

/-!
# Shifts of a list

`current` is `previous` shifted by `d` when `current[row] = previous[row + d]` wherever both lists
have the position (`IsShift`). The overlap of the two lists may be a single row, so two lists may be
shifts of each other in several ways; `LeastShift` moves the rows least.

When the elements are distinct, a list that was shifted, with new elements where no row came from,
has no other shift that is as small (`ScrolledBy.eq_of_isShift`), and a list whose first or last row
stayed where it was has none at all (`BandScrolled.not_isShift`).

Neither list has to be longer than the other in these definitions, and most lemmas are for lists of
one length. A shift by 0 is excluded, as is one by the whole length, in which no row would be
compared. `DetectsShift` says what a search for shifts is to return. It leaves open which of two
opposite shifts of the same size is found; for a list that was scrolled there is only one
(`DetectsShift.eq_of_scrolledBy`).
-/

set_option autoImplicit false

namespace SakuraTerminal.Foundations

universe u

variable {α : Type u}

/-- The rows that both lists have are the same, `d` rows apart. -/
structure IsShift (previous current : List α) (d : Int) : Prop where
  ne_zero : d ≠ 0
  lt : d.natAbs < current.length
  overlap : ∀ row source : Nat, row < current.length → source < previous.length →
    (source : Int) = row + d → current[row]? = previous[source]?

/-- A shift that moves the rows least. -/
structure LeastShift (previous current : List α) (d : Int) : Prop where
  shift : IsShift previous current d
  least : ∀ other, IsShift previous current other → d.natAbs ≤ other.natAbs

/-- All rows moved by `d`, and the exposed ones are new. -/
structure ScrolledBy (previous current : List α) (d : Int) : Prop where
  shift : IsShift previous current d
  fresh : ∀ row < current.length, row + d < 0 ∨ previous.length ≤ row + d →
    ∀ value ∈ current[row]?, value ∉ previous

/-- Rows moved inside of a band that is smaller than the list, or became new ones. All others
stayed. -/
structure BandScrolled (previous current : List α) (top bottom : Nat) : Prop where
  smaller : bottom - top < current.length
  outside : ∀ row < current.length, row < top ∨ bottom ≤ row → current[row]? = previous[row]?
  inside : ∀ row, top ≤ row → row < bottom → ∀ value ∈ current[row]?, value ∈ previous →
    ∃ source, top ≤ source ∧ source < bottom ∧ previous[source]? = some value

/-- A shift that was looked for: the least one, or 0 if there is none. -/
structure DetectsShift (previous current : List α) (result : Int) : Prop where
  least : (∃ d, IsShift previous current d) → LeastShift previous current result
  none : (∀ d, ¬ IsShift previous current d) → result = 0

section shifts

variable {previous current : List α} {d k : Int}

/-- A result other than 0 is a shift. -/
theorem DetectsShift.isShift (h : DetectsShift previous current d) (hne : d ≠ 0) :
    IsShift previous current d := by
  by_cases hexists : ∃ other, IsShift previous current other
  · exact (h.least hexists).shift
  · exact absurd (h.none fun other hother => hexists ⟨other, hother⟩) hne

/-! ## Shifts up and down -/

/-- Seen from the other list, a shift goes the other way. -/
theorem IsShift.symm (h : IsShift previous current d) (hlength : previous.length = current.length) :
    IsShift current previous (-d) where
  ne_zero := Int.neg_ne_zero.2 h.ne_zero
  lt := by
    rw [Int.natAbs_neg, hlength]
    exact h.lt
  overlap := by
    intro row source hrow hsource heq
    exact (h.overlap source row hsource hrow (by omega)).symm

/-- A shift up, row by row. -/
theorem isShift_natCast_iff (hlength : previous.length = current.length) {n : Nat} (hpos : 0 < n)
    (hlt : n < current.length) : IsShift previous current n ↔
      ∀ row < current.length - n, current[row]? = previous[row + n]? := by
  constructor
  · intro h row hrow
    exact h.overlap row (row + n) (by omega) (by omega) (by omega)
  · intro h
    refine ⟨by omega, by omega, fun row source hrow hsource heq => ?_⟩
    obtain rfl : source = row + n := by omega
    exact h row (by omega)

/-- A shift down, row by row. -/
theorem isShift_neg_natCast_iff (hlength : previous.length = current.length) {n : Nat}
    (hpos : 0 < n) (hlt : n < current.length) : IsShift previous current (-n) ↔
      ∀ row < current.length - n, current[row + n]? = previous[row]? := by
  have hup := isShift_natCast_iff hlength.symm hpos (by omega)
  constructor
  · intro h row hrow
    have hback := h.symm hlength
    rw [Int.neg_neg] at hback
    exact (hup.1 hback row (by omega)).symm
  · intro h
    apply (hup.2 fun row hrow => (h row (by omega)).symm).symm hlength.symm

/-! ## Distinct elements -/

/-- A shift up moves the first and the last row. -/
theorem IsShift.first_last_ne {n : Nat} (h : IsShift previous current n)
    (hlength : previous.length = current.length) (hprevious : previous.Nodup)
    (hcurrent : current.Nodup) : current[0]? ≠ previous[0]? ∧
      current[current.length - 1]? ≠ previous[current.length - 1]? := by
  have hpos : 0 < n := by
    have hne := h.ne_zero
    omega
  have hlt : n < current.length := h.lt
  have hrows := (isShift_natCast_iff hlength hpos hlt).1 h
  constructor
  · intro hfirst
    have hmoved := hrows 0 (by omega)
    rw [hfirst, List.getElem?_inj (by omega) hprevious] at hmoved
    omega
  · intro hlast
    have hmoved := hrows (current.length - 1 - n) (by omega)
    rw [show current.length - 1 - n + n = current.length - 1 by omega, ← hlast,
      List.getElem?_inj (by omega) hcurrent] at hmoved
    omega

/-- A list whose first or last row stayed is not a shift. -/
theorem not_isShift_of_fixed (hlength : previous.length = current.length)
    (hprevious : previous.Nodup) (hcurrent : current.Nodup)
    (hfixed : current[0]? = previous[0]? ∨
      current[current.length - 1]? = previous[current.length - 1]?) :
    ¬ IsShift previous current d := by
  intro h
  rcases Int.natAbs_eq d with hup | hdown
  · rw [hup] at h
    obtain ⟨hfirst, hlast⟩ := h.first_last_ne hlength hprevious hcurrent
    exact hfixed.elim hfirst hlast
  · -- a shift down is a shift up of the other list
    rw [hdown] at h
    have hback := h.symm hlength
    rw [Int.neg_neg] at hback
    obtain ⟨hfirst, hlast⟩ := hback.first_last_ne hlength.symm hcurrent hprevious
    rw [hlength] at hlast
    exact hfixed.elim (fun h => hfirst h.symm) fun h => hlast h.symm

/-- A band leaves the first or the last row where it was. -/
theorem BandScrolled.not_isShift {top bottom : Nat} (h : BandScrolled previous current top bottom)
    (hlength : previous.length = current.length) (hprevious : previous.Nodup)
    (hcurrent : current.Nodup) : ¬ IsShift previous current d := by
  have hsmaller := h.smaller
  apply not_isShift_of_fixed hlength hprevious hcurrent
  by_cases htop : 0 < top
  · exact .inl (h.outside 0 (by omega) (.inl htop))
  · exact .inr (h.outside (current.length - 1) (by omega) (.inr (by omega)))

/-! ## Fresh rows -/

/-- A row that came from somewhere by one shift is not new after the other. -/
theorem ScrolledBy.row_inside (h : ScrolledBy previous current k)
    (hshift : IsShift previous current d) {row source : Nat} (hrow : row < current.length)
    (hsource : source < previous.length) (heq : (source : Int) = row + d) :
    0 ≤ row + k ∧ row + k < previous.length := by
  by_contra hexposed
  have hvalue : current[row]? = some previous[source] := by
    rw [hshift.overlap row source hrow hsource heq, List.getElem?_eq_getElem hsource]
  exact h.fresh row hrow (by omega) _ hvalue (List.getElem_mem hsource)

/-- No other shift moves the rows as little. -/
theorem ScrolledBy.eq_of_isShift (h : ScrolledBy previous current k)
    (hlength : previous.length = current.length) (hshift : IsShift previous current d)
    (hle : d.natAbs ≤ k.natAbs) : d = k := by
  have hd := hshift.ne_zero
  have hk := h.shift.ne_zero
  have hlt := hshift.lt
  rcases Int.natAbs_eq d with hup | hdown
  · -- the first row and the last one that came from somewhere
    have hfirst := @h.row_inside _ _ _ _ _ hshift 0 d.natAbs (by omega) (by omega) (by omega)
    have hlast := @h.row_inside _ _ _ _ _ hshift (current.length - 1 - d.natAbs)
      (current.length - 1) (by omega) (by omega) (by omega)
    omega
  · have hfirst := @h.row_inside _ _ _ _ _ hshift d.natAbs 0 (by omega) (by omega) (by omega)
    have hlast := @h.row_inside _ _ _ _ _ hshift (current.length - 1)
      (current.length - 1 - d.natAbs) (by omega) (by omega) (by omega)
    omega

/-! ## Detected shifts -/

/-- A list that was scrolled is found to be. -/
theorem DetectsShift.eq_of_scrolledBy (h : DetectsShift previous current d)
    (hlength : previous.length = current.length) (hscrolled : ScrolledBy previous current k) :
    d = k := by
  have hleast := h.least ⟨k, hscrolled.shift⟩
  exact hscrolled.eq_of_isShift hlength hleast.shift (hleast.least k hscrolled.shift)

end shifts

end SakuraTerminal.Foundations
