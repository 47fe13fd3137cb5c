import SakuraTerminal.Core.DirtyRegion
import Mathlib.Order.MinMax

/-!
# Pieces and their spans

`IncludeSpan` of `src/terminal_core.cpp` as a fold over pieces. Spans are coalesced when no two of
them share a cell or touch (`Coalesced`). The fold compares a piece with the last span only, so
whether it keeps the spans coalesced is a matter of the order of the pieces.

The answer is given on cells, not on the spans that are collected. A piece joins what is there only
through the last piece (`JoinsLast`): whatever it touches is linked to that one by repainted cells.
The spans are then the maximal stretches of repainted cells, with the last piece in the last of them
(`SpansOf`), and one more piece keeps them coalesced exactly when it joins so
(`SpansOf.coalesced_iff`). Pieces in the order of a draw always do (`spansOf_sorted`), and of whole
rows only the first one may meet cells at all (`SpansOf.coalesced_wholeRows_iff`).

Nothing here knows of cursors or scrolling. A piece is any span that is included, and the lists of
pieces are what a frame makes of its cells. `coalesced_includePiece_iff` is the same statement on
the spans that were collected; it is what the induction needs, while `SpansOf` carries the cells
along.
-/

set_option autoImplicit false

namespace SakuraTerminal.Core

/-! ## Spans that are apart -/

/-- The spans share no cell, and do not touch. Spans of one row have at least one column between
them. -/
def SpansApart (first second : DirtySpan) : Prop :=
  first.row = second.row → first.right < second.left ∨ second.right < first.left

instance (first second : DirtySpan) : Decidable (SpansApart first second) :=
  inferInstanceAs (Decidable (_ → _))

/-- Any two spans are apart, so that no cell is in two of them and none could be merged with
another. -/
def Coalesced (spans : List DirtySpan) : Prop := spans.Pairwise SpansApart

instance (spans : List DirtySpan) : Decidable (Coalesced spans) :=
  inferInstanceAs (Decidable (spans.Pairwise SpansApart))

/-- What `IncludeSpan` merges a span and the last one into. The last span keeps its row. -/
def mergedSpan (last piece : DirtySpan) : DirtySpan :=
  { last with left := min last.left piece.left, right := max last.right piece.right }

/-- `IncludeSpan`, for a piece. -/
def includePiece (spans : List DirtySpan) (piece : DirtySpan) : List DirtySpan :=
  includeSpan spans piece.row piece.left piece.right

/-- The piece, together with the last span if it begins in that span's row and not behind it, is
apart from the other spans. That is the span which the piece is merged into, so this is what the
list has to be apart from. -/
def StaysApart (spans : List DirtySpan) (piece : DirtySpan) : Prop :=
  ∀ last ∈ spans.getLast?,
    if last.row = piece.row ∧ piece.left ≤ last.right then
      ∀ span ∈ spans.dropLast, SpansApart span (mergedSpan last piece)
    else ∀ span ∈ spans, SpansApart span piece

section apart

variable {spans : List DirtySpan} {piece last : DirtySpan}

theorem SpansApart.of_merged {span : DirtySpan} (h : SpansApart span (mergedSpan last piece)) :
    SpansApart span last := by
  intro hrow
  have hmerged := h hrow
  simp only [mergedSpan] at hmerged
  omega

theorem coalesced_concat_iff :
    Coalesced (spans ++ [piece]) ↔ Coalesced spans ∧ ∀ span ∈ spans, SpansApart span piece := by
  rw [Coalesced, List.pairwise_append]
  simp [Coalesced]

/-- One more piece keeps the spans coalesced exactly when it stays apart. -/
theorem coalesced_includePiece_iff (hpiece : piece.left < piece.right) :
    Coalesced (includePiece spans piece) ↔ Coalesced spans ∧ StaysApart spans piece := by
  cases hlast : spans.getLast? with
  | none =>
    rw [includePiece, StaysApart, List.getLast?_eq_none_iff.1 hlast, includeSpan_nil _ _ _ hpiece]
    simp [Coalesced]
  | some last =>
    obtain ⟨init, rfl⟩ := List.getLast?_eq_some_iff.1 hlast
    rw [includePiece, includeSpan_concat _ _ _ _ _ hpiece, StaysApart, hlast]
    simp only [List.dropLast_concat, Option.mem_some_iff, forall_eq']
    split
    · -- what is apart from the merged span was apart from the last one
      change Coalesced (init ++ [mergedSpan last piece]) ↔ _
      rw [coalesced_concat_iff, coalesced_concat_iff]
      constructor
      · rintro ⟨hinit, happart⟩
        exact ⟨⟨hinit, fun span hspan => (happart span hspan).of_merged⟩, happart⟩
      · rintro ⟨⟨hinit, -⟩, happart⟩
        exact ⟨hinit, happart⟩
    · rw [show init ++ [last, (⟨piece.row, piece.left, piece.right⟩ : DirtySpan)] =
        (init ++ [last]) ++ [piece] by simp]
      exact coalesced_concat_iff

end apart

/-! ## Pieces and the cells they repaint -/

/-- All columns between the two, in either order, are covered. The cells of a row that are linked
are those of one span. -/
def Linked (pieces : List DirtySpan) (row first second : Nat) : Prop :=
  ∀ column, min first second ≤ column → column ≤ max first second → SpansCover pieces column row

/-- The piece joins the pieces before it through the last of them: every covered cell that touches
it, or that lies between it and the begin of the last piece in its row, is linked to that begin. A
piece in another row than the last one touches no covered cell at all. -/
def JoinsLast (pieces : List DirtySpan) (piece : DirtySpan) : Prop :=
  ∀ last ∈ pieces.getLast?, ∀ column, SpansCover pieces column piece.row →
    piece.left ≤ column + 1 →
    (column ≤ piece.right ∨ last.row = piece.row ∧ column ≤ last.left) →
      last.row = piece.row ∧ Linked pieces piece.row column last.left

/-- The pieces with one more. A piece that begins left of the last one in its row repaints the cells
between the two as well. -/
def addPiece (pieces : List DirtySpan) (piece : DirtySpan) : List DirtySpan :=
  pieces ++ [match pieces.getLast? with
    | some last =>
      if last.row = piece.row then { piece with right := max piece.right last.left } else piece
    | none => piece]

/-- The spans are coalesced, cover the cells of the pieces, and have the begin of the last piece in
the last span. `covers` makes the spans a function of the cells, up to their order, and `last` says
where the next comparison of `IncludeSpan` will be made. -/
structure SpansOf (pieces spans : List DirtySpan) : Prop where
  coalesced : Coalesced spans
  nonempty : ∀ span ∈ spans, span.left < span.right
  covers : ∀ column row, SpansCover spans column row ↔ SpansCover pieces column row
  last : ∀ piece ∈ pieces.getLast?, ∃ span ∈ spans.getLast?,
    span.row = piece.row ∧ span.left ≤ piece.left ∧ piece.left < span.right

/-- The order of two spans does not matter. -/
theorem SpansApart.symm {first second : DirtySpan} (h : SpansApart first second) :
    SpansApart second first :=
  fun hrow => (h hrow.symm).symm

instance : Std.Symm SpansApart := ⟨fun _ _ => SpansApart.symm⟩

theorem Coalesced.apart {spans : List DirtySpan} (h : Coalesced spans) {first second : DirtySpan}
    (hfirst : first ∈ spans) (hsecond : second ∈ spans) (hne : first ≠ second) :
    SpansApart first second :=
  List.Pairwise.forall h hfirst hsecond hne

section spansOf

variable {pieces spans : List DirtySpan} {piece last span : DirtySpan}

/-- The columns beside a span are covered by none. -/
theorem SpansOf.not_covers_beside (h : SpansOf pieces spans) (hspan : span ∈ spans)
    {column : Nat} (hbeside : column = span.right ∨ column + 1 = span.left) :
    ¬ SpansCover pieces column span.row := by
  rw [← h.covers]
  rintro ⟨other, hother, hrow, hleft, hright⟩
  have hnonempty := h.nonempty span hspan
  by_cases hsame : span = other
  · rw [hsame] at hbeside
    omega
  · have hside := h.coalesced.apart hspan hother hsame hrow.symm
    omega

/-- So what is linked to a cell of a span lies in that span. -/
theorem SpansOf.between_of_linked (h : SpansOf pieces spans) (hspan : span ∈ spans)
    {column inside : Nat} (hleft : span.left ≤ inside) (hright : inside < span.right)
    (hlinked : Linked pieces span.row column inside) :
    span.left ≤ column ∧ column < span.right := by
  by_contra hout
  rcases Nat.lt_or_ge column span.left with hbefore | hafter
  · exact h.not_covers_beside hspan (.inr (by omega))
      (hlinked (span.left - 1) (by omega) (by omega))
  · exact h.not_covers_beside hspan (.inl rfl) (hlinked span.right (by omega) (by omega))

/-- And the cells of one span are linked. -/
theorem SpansOf.linked (h : SpansOf pieces spans) (hspan : span ∈ spans) {first second : Nat}
    (hfirst : span.left ≤ first ∧ first < span.right)
    (hsecond : span.left ≤ second ∧ second < span.right) :
    Linked pieces span.row first second := fun column hmin hmax =>
  (h.covers column span.row).1 ⟨span, hspan, rfl, by omega, by omega⟩

theorem mem_dropLast_of_ne {spans : List DirtySpan} {last span : DirtySpan}
    (hlast : spans.getLast? = some last) (hspan : span ∈ spans) (hne : span ≠ last) :
    span ∈ spans.dropLast := by
  obtain ⟨init, rfl⟩ := List.getLast?_eq_some_iff.1 hlast
  rw [List.dropLast_concat]
  rcases List.mem_append.1 hspan with hinit | hend
  · exact hinit
  · exact absurd (List.mem_singleton.1 hend) hne

/-- In spans that are apart the last one stands once. -/
theorem Coalesced.dropLast_apart (h : Coalesced spans) (hlast : spans.getLast? = some last)
    (hspan : span ∈ spans.dropLast) : SpansApart span last := by
  obtain ⟨init, rfl⟩ := List.getLast?_eq_some_iff.1 hlast
  rw [List.dropLast_concat] at hspan
  exact (coalesced_concat_iff.1 h).2 span hspan

/-- On cells and on spans it is the same that the piece joins through the last one. -/
theorem SpansOf.staysApart_iff (h : SpansOf pieces spans) (hpiece : piece.left < piece.right) :
    StaysApart spans piece ↔ JoinsLast pieces piece := by
  constructor
  · intro hstays last hlast column hcovered htouches hreach
    obtain ⟨end', hend, hrow, hleft, hright⟩ := h.last last hlast
    obtain ⟨span, hspan, hspanRow, hspanLeft, hspanRight⟩ := (h.covers _ _).2 hcovered
    have hendMem := List.mem_of_getLast? hend
    have hapart := hstays end' hend
    split at hapart
    · next hjoins =>
      have hlastRow : last.row = piece.row := hrow.symm.trans hjoins.1
      by_cases hsame : span = end'
      · subst hsame
        rw [← hspanRow]
        exact ⟨hlastRow.trans hspanRow.symm,
          h.linked hspan ⟨hspanLeft, hspanRight⟩ ⟨hleft, hright⟩⟩
      · -- another span is apart from what the last one is merged into
        have hside := hapart span (mem_dropLast_of_ne hend hspan hsame)
          (hspanRow.trans hjoins.1.symm)
        simp only [mergedSpan] at hside
        omega
    · next hnot =>
      have hside := hapart span hspan hspanRow
      omega
  · intro hjoins last' hlast'
    have hmem := List.mem_of_getLast? hlast'
    have hlastPiece : ∃ last ∈ pieces.getLast?, last'.row = last.row ∧
        last'.left ≤ last.left ∧ last.left < last'.right := by
      cases hnone : pieces.getLast? with
      | none =>
        rw [List.getLast?_eq_none_iff] at hnone
        have hcovered := (h.covers last'.left last'.row).1
          ⟨last', hmem, rfl, le_rfl, h.nonempty last' hmem⟩
        rw [hnone] at hcovered
        exact absurd hcovered (not_spansCover_nil _ _)
      | some last =>
        obtain ⟨span, hspan, hfacts⟩ := h.last last hnone
        obtain rfl : last' = span := Option.some.inj (hlast'.symm.trans hspan)
        exact ⟨last, rfl, hfacts⟩
    obtain ⟨last, hlast, hrow, hleft, hright⟩ := hlastPiece
    have hlinked : ∀ column, SpansCover spans column piece.row → piece.left ≤ column + 1 →
        (column ≤ piece.right ∨ last.row = piece.row ∧ column ≤ last.left) →
          last'.row = piece.row ∧ last'.left ≤ column ∧ column < last'.right := by
      intro column hcovered htouches hreach
      obtain ⟨hsameRow, hlink⟩ :=
        hjoins last hlast column ((h.covers _ _).1 hcovered) htouches hreach
      have hrow' : last'.row = piece.row := hrow.trans hsameRow
      rw [← hrow'] at hlink
      exact ⟨hrow', h.between_of_linked hmem hleft hright hlink⟩
    split
    · next hmerges =>
      intro span hspan hspanRow
      change span.row = last'.row at hspanRow
      have hspanMem := List.dropLast_subset _ hspan
      have hnonempty := h.nonempty span hspanMem
      have hside := h.coalesced.dropLast_apart hlast' hspan hspanRow
      have hpieceRow : span.row = piece.row := hspanRow.trans hmerges.1
      by_contra hmeets
      simp only [mergedSpan, not_or, Nat.not_lt] at hmeets
      rcases hside with hbefore | hbehind
      · have hin := hlinked (span.right - 1) ⟨span, hspanMem, hpieceRow, by omega, by omega⟩
          (by omega) (.inr ⟨hrow.symm.trans hmerges.1, by omega⟩)
        omega
      · have hin := hlinked span.left ⟨span, hspanMem, hpieceRow, le_rfl, hnonempty⟩ (by omega)
          (.inl (by omega))
        omega
    · next hapart =>
      intro span hspan hspanRow
      have hnonempty := h.nonempty span hspan
      by_contra hmeets
      rw [not_or, Nat.not_lt, Nat.not_lt] at hmeets
      have hin := hlinked (max span.left (piece.left - 1))
        ⟨span, hspan, hspanRow, le_max_left _ _, by omega⟩ (by omega) (.inl (by omega))
      exact hapart ⟨hin.1, by omega⟩

/-- One more piece keeps the spans coalesced exactly when it joins through the last one. -/
theorem SpansOf.coalesced_iff (h : SpansOf pieces spans) (hpiece : piece.left < piece.right) :
    Coalesced (includePiece spans piece) ↔ JoinsLast pieces piece := by
  rw [coalesced_includePiece_iff hpiece, and_iff_right h.coalesced, h.staysApart_iff hpiece]

/-- The new piece is the last one, and begins where it was asked to. -/
theorem addPiece_getLast? (pieces : List DirtySpan) (piece : DirtySpan) :
    ∃ added, (addPiece pieces piece).getLast? = some added ∧ added.row = piece.row ∧
      added.left = piece.left := by
  refine ⟨_, List.getLast?_concat, ?_, ?_⟩
  · split
    · split <;> rfl
    · rfl
  · split
    · split <;> rfl
    · rfl

/-- What a piece adds to the covered cells. -/
theorem spansCover_addPiece (hpieces : pieces.getLast? = some last) {column row : Nat} :
    SpansCover (addPiece pieces piece) column row ↔ SpansCover pieces column row ∨
      (piece.row = row ∧ piece.left ≤ column ∧
        (column < piece.right ∨ last.row = piece.row ∧ column < last.left)) := by
  rw [addPiece, spansCover_append, spansCover_singleton, hpieces]
  dsimp only
  split
  · rename_i hrow
    rw [lt_max_iff, and_iff_right hrow]
  · rename_i hrow
    rw [or_iff_left fun h : last.row = piece.row ∧ _ => hrow h.1]

/-- The spans with one more piece are those of the pieces with it. -/
theorem SpansOf.add (h : SpansOf pieces spans) (hpiece : piece.left < piece.right)
    (hjoins : JoinsLast pieces piece) :
    SpansOf (addPiece pieces piece) (includePiece spans piece) := by
  have hcoalesced := (h.coalesced_iff hpiece).2 hjoins
  obtain ⟨added, hadded, haddedRow, haddedLeft⟩ := addPiece_getLast? pieces piece
  cases hlast : pieces.getLast? with
  | none =>
    -- the first piece
    rw [List.getLast?_eq_none_iff] at hlast
    subst hlast
    have hspans : spans = [] := by
      rw [List.eq_nil_iff_forall_not_mem]
      intro span hspan
      exact not_spansCover_nil _ _ ((h.covers span.left span.row).1
        ⟨span, hspan, rfl, le_rfl, h.nonempty span hspan⟩)
    subst hspans
    have hfirst : includePiece [] piece = [piece] := includeSpan_nil _ _ _ hpiece
    rw [hfirst] at hcoalesced ⊢
    refine ⟨hcoalesced, fun span hspan => ?_, fun column row => Iff.rfl, ?_⟩
    · rw [List.mem_singleton.1 hspan]
      exact hpiece
    · rintro _ ⟨⟩
      exact ⟨piece, rfl, rfl, le_rfl, hpiece⟩
  | some last =>
    obtain ⟨end', hend, hrow, hleft, hright⟩ := h.last last hlast
    obtain ⟨init, rfl⟩ := List.getLast?_eq_some_iff.1 hend
    have hspans : includePiece (init ++ [end']) piece =
        if end'.row = piece.row ∧ piece.left ≤ end'.right then init ++ [mergedSpan end' piece]
        else init ++ [end', piece] := includeSpan_concat _ _ _ _ _ hpiece
    have hcovers := fun column row => (spansCover_append.symm.trans (h.covers column row))
    rw [hspans] at hcoalesced ⊢
    split at hcoalesced
    · next hmerges =>
      rw [if_pos hmerges]
      refine ⟨hcoalesced, fun span hspan => ?_, fun column row => ?_, fun other hother => ?_⟩
      · rcases List.mem_append.1 hspan with hinit | hmerged
        · exact h.nonempty span (List.mem_append_left _ hinit)
        · rw [List.mem_singleton.1 hmerged]
          simp only [mergedSpan]
          omega
      · -- between the piece and the last span there is no gap
        rw [spansCover_addPiece hlast, ← hcovers, spansCover_append, spansCover_singleton,
          spansCover_singleton, or_assoc]
        refine or_congr_right ?_
        simp only [mergedSpan]
        omega
      · obtain rfl : added = other := Option.some.inj (hadded.symm.trans hother)
        refine ⟨_, List.getLast?_concat, hmerges.1.trans haddedRow.symm, ?_, ?_⟩
        · simp only [mergedSpan]
          omega
        · simp only [mergedSpan]
          omega
    · next hapart =>
      rw [if_neg hapart]
      refine ⟨hcoalesced, fun span hspan => ?_, fun column row => ?_, fun other hother => ?_⟩
      · rcases List.mem_append.1 hspan with hinit | hnew
        · exact h.nonempty span (List.mem_append_left _ hinit)
        · rcases List.mem_cons.1 hnew with rfl | hnew
          · exact h.nonempty span (by simp)
          · rw [List.mem_singleton.1 hnew]
            exact hpiece
      · rw [spansCover_addPiece hlast, ← h.covers,
          show init ++ [end', piece] = (init ++ [end']) ++ [piece] by simp, spansCover_append,
          spansCover_singleton]
        refine or_congr_right ?_
        omega
      · obtain rfl : added = other := Option.some.inj (hadded.symm.trans hother)
        exact ⟨piece, by simp, haddedRow.symm, haddedLeft.ge, haddedLeft.trans_lt hpiece⟩

end spansOf

/-! ## Pieces in the order of a draw -/

/-- The order in which a row-major draw includes its pieces. -/
def PieceBefore (first second : DirtySpan) : Prop :=
  first.row < second.row ∨ (first.row = second.row ∧ first.left ≤ second.left)

/-- In this order a piece joins what was included before through the last piece, since nothing of
its row begins behind that one. -/
theorem joinsLast_of_sorted {pieces : List DirtySpan} {piece : DirtySpan}
    (hsorted : pieces.Pairwise PieceBefore) (hbefore : ∀ other ∈ pieces, PieceBefore other piece)
    (hpieces : ∀ other ∈ pieces, other.left < other.right) : JoinsLast pieces piece := by
  intro last hlast column hcovered htouches _
  obtain ⟨init, rfl⟩ := List.getLast?_eq_some_iff.1 hlast
  obtain ⟨other, hother, hrow, hleft, hright⟩ := hcovered
  have hend : last ∈ init ++ [last] := by simp
  have hlastBefore := hbefore last hend
  have hlastNonempty := hpieces last hend
  have horder : other = last ∨ PieceBefore other last := by
    rcases List.mem_append.1 hother with hinit | hsame
    · exact .inr ((List.pairwise_append.1 hsorted).2.2 other hinit last (by simp))
    · exact .inl (List.mem_singleton.1 hsame)
  have hfacts : last.row = piece.row ∧ other.left ≤ last.left ∧ last.left ≤ column + 1 := by
    rcases horder with rfl | horder
    · exact ⟨hrow, le_rfl, by omega⟩
    · unfold PieceBefore at horder hlastBefore
      omega
  refine ⟨hfacts.1, fun between hmin hmax => ?_⟩
  by_cases hin : between < other.right
  · exact ⟨other, hother, hrow, by omega, hin⟩
  · exact ⟨last, hend, hfacts.1, by omega, by omega⟩

/-- And it adds no cells between the two. -/
theorem addPiece_of_before {pieces : List DirtySpan} {piece : DirtySpan}
    (hbefore : ∀ other ∈ pieces, PieceBefore other piece) (hpiece : piece.left < piece.right) :
    addPiece pieces piece = pieces ++ [piece] := by
  rw [addPiece]
  split
  next last hlast =>
    split
    next hrow =>
      have horder := hbefore last (List.mem_of_getLast? hlast)
      have hle : last.left ≤ piece.right := by
        unfold PieceBefore at horder
        omega
      rw [max_eq_left hle]
    next => rfl
  next => rfl

/-- The spans of pieces in this order are coalesced. -/
theorem spansOf_sorted {pieces : List DirtySpan} (hsorted : pieces.Pairwise PieceBefore)
    (hpieces : ∀ piece ∈ pieces, piece.left < piece.right) :
    SpansOf pieces (pieces.foldl includePiece []) := by
  induction pieces using List.reverseRecOn with
  | nil =>
    exact ⟨.nil, fun _ hspan => absurd hspan List.not_mem_nil, fun _ _ => Iff.rfl,
      fun _ hpiece => by simp at hpiece⟩
  | append_singleton pieces piece ih =>
    obtain ⟨hinit, -, hbefore⟩ := List.pairwise_append.1 hsorted
    have hbefore' : ∀ other ∈ pieces, PieceBefore other piece :=
      fun other hother => hbefore other hother piece (List.mem_singleton_self piece)
    have hinitPieces : ∀ other ∈ pieces, other.left < other.right :=
      fun other hother => hpieces other (List.mem_append_left _ hother)
    have hpiece : piece.left < piece.right := hpieces piece (by simp)
    have hjoins := joinsLast_of_sorted hinit hbefore' hinitPieces
    have hadded := (ih hinit hinitPieces).add hpiece hjoins
    rw [addPiece_of_before hbefore' hpiece] at hadded
    rw [List.foldl_concat]
    exact hadded

/-! ## Whole rows -/

/-- A span in the grid. -/
structure InGrid (columns rows : Nat) (piece : DirtySpan) : Prop where
  row : piece.row < rows
  nonempty : piece.left < piece.right
  right : piece.right ≤ columns

/-- Rows that follow each other from `top` on, each one whole. -/
def wholeRows (columns top count : Nat) : List DirtySpan :=
  (List.range' top count).map fun row => ⟨row, 0, columns⟩

section rows

variable {pieces spans : List DirtySpan} {columns rows : Nat}

/-- The covered cells in the rows are all in the first of them, and linked to the last piece, which
begins there. -/
def RowsJoinLast (pieces : List DirtySpan) (top bottom : Nat) : Prop :=
  ∀ column row, SpansCover pieces column row → top ≤ row → row < bottom →
    row = top ∧ ∀ last ∈ pieces.getLast?, last.row = row ∧ Linked pieces row column last.left

/-- Pieces that come later do not repair what was not coalesced before. -/
theorem Coalesced.of_foldl (hpieces : ∀ piece ∈ pieces, piece.left < piece.right)
    (h : Coalesced (pieces.foldl includePiece spans)) : Coalesced spans := by
  induction pieces generalizing spans with
  | nil => exact h
  | cons piece pieces ih =>
    have hrest := ih (fun other hother => hpieces other (List.mem_cons_of_mem _ hother)) h
    exact ((coalesced_includePiece_iff (hpieces piece List.mem_cons_self)).1 hrest).1

/-- One more piece, if any, and then others. -/
theorem SpansOf.coalesced_foldl_iff (h : SpansOf pieces spans) {piece : Option DirtySpan}
    {more : List DirtySpan} (hpiece : ∀ new ∈ piece, new.left < new.right)
    (hmore : ∀ new ∈ more, new.left < new.right) {P : Prop}
    (hrest : ∀ spans', SpansOf (piece.toList.foldl addPiece pieces) spans' →
      (Coalesced (more.foldl includePiece spans') ↔ P)) :
    Coalesced ((piece.toList ++ more).foldl includePiece spans) ↔
      (∀ new ∈ piece, JoinsLast pieces new) ∧ P := by
  cases piece with
  | none =>
    rw [and_iff_right (by simp)]
    exact hrest spans h
  | some new =>
    have hnew := hpiece new rfl
    change Coalesced (more.foldl includePiece (includePiece spans new)) ↔ _
    constructor
    · intro hall
      have hjoins := (h.coalesced_iff hnew).1 (hall.of_foldl hmore)
      refine ⟨?_, (hrest _ (h.add hnew hjoins)).1 hall⟩
      rintro _ ⟨⟩
      exact hjoins
    · rintro ⟨hjoins, hP⟩
      exact (hrest _ (h.add hnew (hjoins new rfl))).2 hP

/-- Pieces of the grid are merged into spans of the grid. -/
theorem inGrid_addPiece (hpieces : ∀ piece ∈ pieces, InGrid columns rows piece) {piece : DirtySpan}
    (hpiece : InGrid columns rows piece) :
    ∀ other ∈ addPiece pieces piece, InGrid columns rows other := by
  intro other hother
  rcases List.mem_append.1 hother with hold | hnew
  · exact hpieces other hold
  · rw [List.mem_singleton.1 hnew]
    split
    next last hlast =>
      have hlastIn := hpieces last (List.mem_of_getLast? hlast)
      split
      · have hnonempty := hpiece.nonempty
        have hright := hpiece.right
        have hlastRight := hlastIn.right
        have hlastNonempty := hlastIn.nonempty
        exact ⟨hpiece.row, by simp only; omega, by simp only; omega⟩
      · exact hpiece
    next => exact hpiece

/-- A whole row has nothing to the right of it. -/
theorem addPiece_wholeRow (hpieces : ∀ piece ∈ pieces, InGrid columns rows piece) (row : Nat) :
    addPiece pieces ⟨row, 0, columns⟩ = pieces ++ [⟨row, 0, columns⟩] := by
  rw [addPiece]
  split
  next last hlast =>
    have hlastIn := hpieces last (List.mem_of_getLast? hlast)
    have hle : last.left ≤ columns := hlastIn.nonempty.le.trans hlastIn.right
    split
    · rw [max_eq_left hle]
    · rfl
  next => rfl

theorem wholeRows_succ (columns top count : Nat) :
    wholeRows columns top (count + 1) =
      wholeRows columns top count ++ [⟨top + count, 0, columns⟩] := by
  rw [wholeRows, List.range'_concat, List.map_append, Nat.one_mul]
  rfl

theorem spansCover_wholeRows {top count column row : Nat} :
    SpansCover (wholeRows columns top count) column row ↔
      top ≤ row ∧ row < top + count ∧ column < columns := by
  simp only [SpansCover, wholeRows, List.mem_map, List.mem_range'_1]
  constructor
  · rintro ⟨_, ⟨line, hline, rfl⟩, rfl, -, hright⟩
    exact ⟨hline.1, hline.2, hright⟩
  · rintro ⟨htop, hbottom, hcolumn⟩
    exact ⟨_, ⟨row, ⟨htop, hbottom⟩, rfl⟩, rfl, Nat.zero_le _, hcolumn⟩

/-- The next of some whole rows joins what is there. -/
theorem joinsLast_wholeRow (hpieces : ∀ piece ∈ pieces, InGrid columns rows piece)
    (top count : Nat) :
    JoinsLast (pieces ++ wholeRows columns top count) ⟨top + count, 0, columns⟩ ↔
      ∀ column, SpansCover pieces column (top + count) → count = 0 ∧
        ∀ last ∈ pieces.getLast?, last.row = top ∧ Linked pieces top column last.left := by
  have hinside : ∀ column row, SpansCover pieces column row → column < columns := by
    rintro column row ⟨piece, hpiece, -, -, hright⟩
    exact hright.trans_le (hpieces piece hpiece).right
  cases count with
  | zero =>
    rw [wholeRows, List.range'_zero, List.map_nil, List.append_nil, Nat.add_zero]
    constructor
    · intro hjoins column hcovered
      exact ⟨rfl, fun last hlast => hjoins last hlast column hcovered (Nat.zero_le _)
        (.inl (hinside _ _ hcovered).le)⟩
    · intro hjoins last hlast column hcovered _ _
      exact (hjoins column hcovered).2 last hlast
  | succ count =>
    -- the row before is the last piece
    rw [wholeRows_succ, ← List.append_assoc]
    constructor
    · intro hjoins column hcovered
      have hcovered' : SpansCover (pieces ++ wholeRows columns top count ++
          [⟨top + count, 0, columns⟩]) column (top + (count + 1)) :=
        spansCover_append.2 (.inl (spansCover_append.2 (.inl hcovered)))
      have hrow := (hjoins _ List.getLast?_concat column hcovered' (Nat.zero_le _)
        (.inl (hinside _ _ hcovered).le)).1
      simp only at hrow
      omega
    · intro hjoins last hlast column hcovered _ _
      exfalso
      rw [List.append_assoc, ← wholeRows_succ, spansCover_append, spansCover_wholeRows] at hcovered
      rcases hcovered with hcovered | hcovered
      · exact absurd (hjoins column hcovered).1 (Nat.succ_ne_zero _)
      · simp only at hcovered
        omega

/-- Whole rows keep the spans coalesced exactly when what is in them joins through the last
piece. -/
theorem SpansOf.coalesced_wholeRows_iff (h : SpansOf pieces spans)
    (hpieces : ∀ piece ∈ pieces, InGrid columns rows piece) (hcolumns : 0 < columns)
    (top count : Nat) :
    (Coalesced ((wholeRows columns top count).foldl includePiece spans) ↔
        RowsJoinLast pieces top (top + count)) ∧
      (RowsJoinLast pieces top (top + count) →
        SpansOf (pieces ++ wholeRows columns top count)
          ((wholeRows columns top count).foldl includePiece spans)) := by
  induction count with
  | zero =>
    rw [wholeRows, List.range'_zero, List.map_nil, List.append_nil]
    exact ⟨iff_of_true h.coalesced fun _ row _ htop hbottom => absurd htop (Nat.not_le.2 hbottom),
      fun _ => h⟩
  | succ count ih =>
    obtain ⟨hiff, hspans⟩ := ih
    have hsplit : RowsJoinLast pieces top (top + (count + 1)) ↔
        RowsJoinLast pieces top (top + count) ∧
          JoinsLast (pieces ++ wholeRows columns top count) ⟨top + count, 0, columns⟩ := by
      rw [joinsLast_wholeRow hpieces]
      constructor
      · intro hall
        refine ⟨fun column row hcovered htop hbottom =>
          hall column row hcovered htop (by omega), fun column hcovered => ?_⟩
        obtain ⟨hrow, hlast⟩ := hall column _ hcovered (by omega) (by omega)
        rw [hrow] at hlast
        exact ⟨by omega, hlast⟩
      · rintro ⟨hrows, hnext⟩ column row hcovered htop hbottom
        by_cases hend : row = top + count
        · subst hend
          obtain ⟨hzero, hlast⟩ := hnext column hcovered
          rw [hzero, Nat.add_zero]
          exact ⟨rfl, hlast⟩
        · exact hrows column row hcovered htop (by omega)
    have hin : ∀ piece ∈ pieces ++ wholeRows columns top count,
        InGrid columns (max rows (top + count)) piece := by
      intro piece hpiece
      rcases List.mem_append.1 hpiece with hold | hrow
      · have hold := hpieces piece hold
        exact ⟨hold.row.trans_le (le_max_left _ _), hold.nonempty, hold.right⟩
      · obtain ⟨row, hmem, rfl⟩ := List.mem_map.1 hrow
        rw [List.mem_range'_1] at hmem
        exact ⟨by simp only; omega, hcolumns, le_rfl⟩
    have hnonempty : ∀ piece ∈ ([⟨top + count, 0, columns⟩] : List DirtySpan),
        piece.left < piece.right := by simpa using hcolumns
    rw [hsplit, wholeRows_succ, List.foldl_append, ← List.append_assoc,
      ← addPiece_wholeRow hin (top + count)]
    constructor
    · constructor
      · intro hall
        have hrows := hiff.1 (hall.of_foldl hnonempty)
        exact ⟨hrows, ((hspans hrows).coalesced_iff hcolumns).1 hall⟩
      · rintro ⟨hrows, hnext⟩
        exact ((hspans hrows).coalesced_iff hcolumns).2 hnext
    · rintro ⟨hrows, hnext⟩
      exact (hspans hrows).add hcolumns hnext

end rows

end SakuraTerminal.Core
