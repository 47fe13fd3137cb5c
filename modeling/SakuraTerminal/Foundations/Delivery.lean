import Mathlib.Data.List.Basic

/-!
# Deliveries of chunks

A sender passes on chunks one after another. Of each chunk a front part arrives, and a chunk that is
reported as delivered arrives whole. The items that arrive are then a subsequence of those sent, and
all of them where every chunk is reported (`arrived_sublist_sent`, `arrived_eq_sent`). A sender that
counts what it reports counts no more than what arrives (`counted_le_arrived`).

A `Delivery` cannot be built with an accepted part that is no front of its chunk, nor with a report
of a chunk that did not arrive whole, so the lemmas need no hypotheses about single deliveries. A
log is a list of deliveries in the order in which they were made.
-/

set_option autoImplicit false

namespace SakuraTerminal.Foundations

universe u

/-- One attempt to pass on a chunk. The receiver accepted a front part of the chunk, and the sender
was told of success or not. A chunk without a report may have arrived in part, wholly, or not at
all. -/
structure Delivery (α : Type u) where
  chunk : List α
  accepted : List α
  reported : Bool
  front : accepted <+: chunk
  whole : reported = true → accepted = chunk

namespace Delivery

variable {α : Type u}

/-- What the sender passed on, over the whole log. -/
def sent (log : List (Delivery α)) : List α := log.flatMap (·.chunk)

/-- What the receiver has of it. -/
def arrived (log : List (Delivery α)) : List α := log.flatMap (·.accepted)

/-- What the sender counts: the items of the chunks that were reported. -/
def counted : List (Delivery α) → Nat
  | [] => 0
  | delivery :: log => (if delivery.reported then delivery.chunk.length else 0) + counted log

@[simp] theorem arrived_append (log log' : List (Delivery α)) :
    arrived (log ++ log') = arrived log ++ arrived log' := List.flatMap_append

@[simp] theorem counted_nil : counted ([] : List (Delivery α)) = 0 := rfl

@[simp] theorem counted_cons (delivery : Delivery α) (log : List (Delivery α)) :
    counted (delivery :: log) =
      (if delivery.reported = true then delivery.chunk.length else 0) + counted log := rfl

@[simp] theorem counted_append (log log' : List (Delivery α)) :
    counted (log ++ log') = counted log + counted log' := by
  induction log with
  | nil => exact (Nat.zero_add _).symm
  | cons delivery log ih => rw [List.cons_append, counted_cons, counted_cons, ih, Nat.add_assoc]

/-- Nothing arrives that was not sent, or in another order. -/
theorem arrived_sublist_sent (log : List (Delivery α)) : (arrived log).Sublist (sent log) := by
  induction log with
  | nil => exact List.Sublist.refl _
  | cons delivery log ih => exact delivery.front.sublist.append ih

/-- Everything arrives where every chunk is reported. -/
theorem arrived_eq_sent {log : List (Delivery α)}
    (hreported : ∀ delivery ∈ log, delivery.reported = true) : arrived log = sent log := by
  apply List.flatMap_congr
  intro delivery hdelivery
  exact delivery.whole (hreported delivery hdelivery)

/-- Nothing arrives where nothing is accepted. -/
theorem arrived_eq_nil {log : List (Delivery α)}
    (hrefused : ∀ delivery ∈ log, delivery.accepted = []) : arrived log = [] :=
  List.flatMap_eq_nil_iff.mpr hrefused

/-- The sender's count is a lower bound: chunks without a report may have arrived in part. -/
theorem counted_le_arrived (log : List (Delivery α)) : counted log ≤ (arrived log).length := by
  induction log with
  | nil => exact Nat.zero_le _
  | cons delivery log ih =>
    have hhead : (if delivery.reported = true then delivery.chunk.length else 0) ≤
        delivery.accepted.length := by
      split
      · rename_i hreported
        exact Nat.le_of_eq (congrArg List.length (delivery.whole hreported)).symm
      · exact Nat.zero_le _
    rw [counted_cons, arrived, List.flatMap_cons, List.length_append]
    exact Nat.add_le_add hhead ih

/-- The count is exact where every chunk is reported. -/
theorem counted_eq_sent {log : List (Delivery α)}
    (hreported : ∀ delivery ∈ log, delivery.reported = true) :
    counted log = (sent log).length := by
  induction log with
  | nil => rfl
  | cons delivery log ih =>
    rw [List.forall_mem_cons] at hreported
    rw [counted_cons, if_pos hreported.1, ih hreported.2, ← List.length_append]
    rfl

end Delivery

end SakuraTerminal.Foundations
