import Mathlib.Algebra.BigOperators.Group.Finset.Basic
import Mathlib.Data.Multiset.Basic
import Mathlib.Logic.Function.Basic

/-!
# Reference-counted heaps

A `SharedHeap` holds objects with use counts. `alloc` makes an object with one reference, `retain`
and `release` add and drop one, and an object without references is freed. `write` mutates an
object in place, whoever refers to it.

The references themselves are kept outside of the heap, as a multiset of addresses. `Counted refs`
says that the use counts are the multiplicities in it; under it no reference dangles, and the
`value_` lemmas say what a reader sees of each operation. `references` collects what the live
objects of one heap refer to in another one.

The heap is the model of `std::shared_ptr` with one owner of the counts: a program that copies and
drops pointers performs `retain` and `release`, and one that asks `use_count()` reads `useCount`.
Under `Counted` the answer 1 means that the asker has the only reference, so that a `write` there is
seen by nobody else. `references_exchange` is the rule for an object that refers to others: an
operation that changes one object exchanges what it referred to for what it refers to now.
-/

set_option autoImplicit false

namespace SakuraTerminal.Foundations

universe u v

/-- An object and its use count. -/
structure Shared (α : Type u) where
  value : α
  useCount : Nat

/-- Addresses from `next` on were never used. -/
structure SharedHeap (α : Type u) where
  objects : Nat → Option (Shared α)
  next : Nat
  fresh : ∀ a, next ≤ a → objects a = none

namespace SharedHeap

variable {α : Type u} (heap : SharedHeap α)

/-! ## Operations -/

/-- No object was made yet. -/
def empty : SharedHeap α := ⟨fun _ => none, 0, fun _ _ => rfl⟩

/-- What a reader finds at an address. -/
def value (a : Nat) : Option α := (heap.objects a).map Shared.value

/-- The answer of `use_count()`, which is 0 where there is no object. -/
def useCount (a : Nat) : Nat := ((heap.objects a).map Shared.useCount).getD 0

/-- A new object at the address `next`, with one reference. -/
def alloc (v : α) : SharedHeap α where
  objects := Function.update heap.objects heap.next (some ⟨v, 1⟩)
  next := heap.next + 1
  fresh := by
    intro a ha
    rw [Function.update_of_ne (Nat.ne_of_gt ha)]
    exact heap.fresh a (Nat.le_of_succ_le ha)

/-- Change or free the object at an address. -/
def modify (a : Nat) (f : Shared α → Option (Shared α)) : SharedHeap α where
  objects := Function.update heap.objects a ((heap.objects a).bind f)
  next := heap.next
  fresh := by
    intro b hb
    by_cases hba : b = a
    · subst hba
      rw [Function.update_self, heap.fresh b hb]
      rfl
    · rw [Function.update_of_ne hba]
      exact heap.fresh b hb

/-- One more reference to the object. -/
def retain (a : Nat) : SharedHeap α :=
  heap.modify a fun object => some { object with useCount := object.useCount + 1 }

/-- One reference less. The object is freed with the last one. -/
def release (a : Nat) : SharedHeap α :=
  heap.modify a fun object =>
    if object.useCount ≤ 1 then none else some { object with useCount := object.useCount - 1 }

/-- The value is changed in place, so everyone who refers to the object sees it. -/
def write (a : Nat) (v : α) : SharedHeap α :=
  heap.modify a fun object => some { object with value := v }

def retainAll (as : List Nat) : SharedHeap α := as.foldl retain heap

def releaseAll (as : List Nat) : SharedHeap α := as.foldl release heap

/-! ## Reading after an operation -/

section reading

variable {heap}

theorem value_of_next_le {a : Nat} (ha : heap.next ≤ a) : heap.value a = none := by
  rw [value, heap.fresh a ha]
  rfl

theorem value_modify_ne {a b : Nat} (hne : b ≠ a) (f : Shared α → Option (Shared α)) :
    (heap.modify a f).value b = heap.value b := by
  unfold value modify
  dsimp only
  rw [Function.update_of_ne hne]

theorem useCount_modify_ne {a b : Nat} (hne : b ≠ a) (f : Shared α → Option (Shared α)) :
    (heap.modify a f).useCount b = heap.useCount b := by
  unfold useCount modify
  dsimp only
  rw [Function.update_of_ne hne]

theorem objects_modify_self (a : Nat) (f : Shared α → Option (Shared α)) :
    (heap.modify a f).objects a = (heap.objects a).bind f := Function.update_self _ _ _

/-- An object with a positive count, as `modify` meets it. -/
theorem exists_object {a : Nat} (ha : heap.useCount a ≠ 0) :
    ∃ object, heap.objects a = some object ∧ object.useCount = heap.useCount a := by
  rw [useCount] at ha ⊢
  cases hobject : heap.objects a with
  | none =>
    rw [hobject] at ha
    contradiction
  | some object => exact ⟨object, rfl, rfl⟩

@[simp]
theorem value_alloc_self (v : α) : (heap.alloc v).value heap.next = some v := by
  rw [value, alloc]
  dsimp only
  rw [Function.update_self]
  rfl

theorem value_alloc_ne {a : Nat} (hne : a ≠ heap.next) (v : α) :
    (heap.alloc v).value a = heap.value a := by
  unfold value alloc
  dsimp only
  rw [Function.update_of_ne hne]

/-- Allocation does not change what was there. -/
theorem value_alloc_of_some {a : Nat} {old : α} (hold : heap.value a = some old) (v : α) :
    (heap.alloc v).value a = some old := by
  rw [value_alloc_ne _ v, hold]
  rintro rfl
  rw [value_of_next_le (Nat.le_refl _)] at hold
  contradiction

@[simp]
theorem value_retain (a b : Nat) : (heap.retain a).value b = heap.value b := by
  by_cases hba : b = a
  · subst hba
    simp only [value, retain]
    rw [objects_modify_self]
    cases heap.objects b <;> rfl
  · exact value_modify_ne hba _

@[simp]
theorem value_retainAll (as : List Nat) (b : Nat) : (heap.retainAll as).value b = heap.value b := by
  induction as generalizing heap with
  | nil => rfl
  | cons a as ih =>
    change ((heap.retain a).retainAll as).value b = _
    rw [ih, value_retain]

theorem value_write_self {a : Nat} {old : α} (hold : heap.value a = some old) (v : α) :
    (heap.write a v).value a = some v := by
  rw [value, write, objects_modify_self]
  rw [value] at hold
  obtain ⟨object, hobject, -⟩ := Option.map_eq_some_iff.mp hold
  rw [hobject]
  rfl

theorem value_write_ne {a b : Nat} (hne : b ≠ a) (v : α) :
    (heap.write a v).value b = heap.value b := value_modify_ne hne _

/-- Releasing one of several references. -/
theorem value_release_of_lt {a : Nat} (ha : 1 < heap.useCount a) (b : Nat) :
    (heap.release a).value b = heap.value b := by
  by_cases hba : b = a
  · subst hba
    obtain ⟨object, hobject, hcount⟩ := exists_object (Nat.ne_of_gt (Nat.zero_lt_of_lt ha))
    simp only [value, release]
    rw [objects_modify_self, hobject]
    change Option.map Shared.value (if object.useCount ≤ 1 then none else _) = _
    rw [if_neg (by omega)]
    rfl
  · exact value_modify_ne hba _

/-- Releasing the last reference. -/
theorem value_release_of_eq {a : Nat} (ha : heap.useCount a = 1) :
    (heap.release a).value a = none := by
  have hne : heap.useCount a ≠ 0 := by
    rw [ha]
    exact Nat.one_ne_zero
  obtain ⟨object, hobject, hcount⟩ := exists_object hne
  rw [value, release, objects_modify_self, hobject]
  change Option.map Shared.value (if object.useCount ≤ 1 then none else _) = _
  rw [if_pos (by omega)]
  rfl

theorem value_release_ne {a b : Nat} (hne : b ≠ a) : (heap.release a).value b = heap.value b :=
  value_modify_ne hne _

end reading

/-! ## References from outside -/

/-- The use counts are the multiplicities of the references. -/
def Counted (refs : Multiset Nat) : Prop := ∀ a, heap.useCount a = refs.count a

namespace Counted

variable {heap} {refs : Multiset Nat}

theorem empty : (SharedHeap.empty : SharedHeap α).Counted 0 := fun _ => rfl

/-- No reference dangles. -/
theorem exists_value (h : heap.Counted refs) {a : Nat} (ha : a ∈ refs) :
    ∃ v, heap.value a = some v := by
  have hpos : heap.useCount a ≠ 0 := by
    rw [h a]
    exact Multiset.count_ne_zero.mpr ha
  obtain ⟨object, hobject, -⟩ := exists_object hpos
  refine ⟨object.value, ?_⟩
  rw [value, hobject]
  rfl

/-- The next address is not referred to. -/
theorem next_notMem (h : heap.Counted refs) : heap.next ∉ refs := by
  intro hmem
  obtain ⟨v, hv⟩ := h.exists_value hmem
  rw [value_of_next_le (Nat.le_refl _)] at hv
  contradiction

/-- A new object has one pointer. -/
theorem alloc (h : heap.Counted refs) (v : α) : (heap.alloc v).Counted (heap.next ::ₘ refs) := by
  intro a
  by_cases ha : a = heap.next
  · subst ha
    rw [Multiset.count_cons_self, Multiset.count_eq_zero.mpr h.next_notMem]
    rw [useCount, SharedHeap.alloc]
    dsimp only
    rw [Function.update_self]
    rfl
  · rw [Multiset.count_cons_of_ne ha, ← h a]
    unfold useCount SharedHeap.alloc
    dsimp only
    rw [Function.update_of_ne ha]

/-- A pointer is copied, and the count of its object goes up by one. -/
theorem retain (h : heap.Counted refs) {a : Nat} (ha : a ∈ refs) :
    (heap.retain a).Counted (a ::ₘ refs) := by
  intro b
  by_cases hba : b = a
  · subst hba
    obtain ⟨object, hobject, hcount⟩ := exists_object (by
      rw [h b]
      exact Multiset.count_ne_zero.mpr ha)
    rw [Multiset.count_cons_self, ← h b, ← hcount]
    rw [useCount, SharedHeap.retain, objects_modify_self, hobject]
    rfl
  · rw [Multiset.count_cons_of_ne hba, ← h b]
    exact useCount_modify_ne hba _

/-- A pointer is dropped. The last one frees the object, which nothing then refers to. -/
theorem release {a : Nat} (h : heap.Counted (a ::ₘ refs)) : (heap.release a).Counted refs := by
  intro b
  by_cases hba : b = a
  · subst hba
    have hold : heap.useCount b = refs.count b + 1 := by rw [h b, Multiset.count_cons_self]
    have hne : heap.useCount b ≠ 0 := by
      rw [hold]
      exact Nat.succ_ne_zero _
    obtain ⟨object, hobject, hcount⟩ := exists_object hne
    rw [useCount, SharedHeap.release, objects_modify_self, hobject]
    change (Option.map Shared.useCount (if object.useCount ≤ 1 then none else _)).getD 0 = _
    by_cases hlast : object.useCount ≤ 1
    · rw [if_pos hlast]
      change 0 = _
      omega
    · rw [if_neg hlast]
      change object.useCount - 1 = _
      omega
  · rw [← Multiset.count_cons_of_ne hba, ← h b]
    exact useCount_modify_ne hba _

theorem write (h : heap.Counted refs) (a : Nat) (v : α) : (heap.write a v).Counted refs := by
  intro b
  rw [← h b]
  by_cases hba : b = a
  · subst hba
    simp only [useCount, SharedHeap.write]
    rw [objects_modify_self]
    cases heap.objects b <;> rfl
  · exact useCount_modify_ne hba _

/-- A release does not change what the other references lead to. -/
theorem value_release {a : Nat} (h : heap.Counted (a ::ₘ refs)) {b : Nat} (hb : b ∈ refs) :
    (heap.release a).value b = heap.value b := by
  by_cases hba : b = a
  · subst hba
    apply value_release_of_lt
    rw [h b, Multiset.count_cons_self]
    exact Nat.lt_add_of_pos_left (Multiset.count_pos.mpr hb)
  · exact value_release_ne hba

theorem retainAll (h : heap.Counted refs) (as : List Nat) (has : ∀ a ∈ as, a ∈ refs) :
    (heap.retainAll as).Counted (↑as + refs) := by
  induction as generalizing heap refs with
  | nil =>
    rw [Multiset.coe_nil, zero_add]
    exact h
  | cons a as ih =>
    have hfirst := h.retain (has a List.mem_cons_self)
    have hrest := ih hfirst fun b hb => Multiset.mem_cons_of_mem (has b (List.mem_cons_of_mem a hb))
    rw [Multiset.add_cons, ← Multiset.cons_add, Multiset.cons_coe] at hrest
    exact hrest

theorem releaseAll {as : List Nat} (h : heap.Counted (↑as + refs)) :
    (heap.releaseAll as).Counted refs := by
  induction as generalizing heap with
  | nil =>
    rw [Multiset.coe_nil, zero_add] at h
    exact h
  | cons a as ih =>
    rw [← Multiset.cons_coe, Multiset.cons_add] at h
    exact ih h.release

theorem value_releaseAll {as : List Nat} (h : heap.Counted (↑as + refs)) {b : Nat} (hb : b ∈ refs) :
    (heap.releaseAll as).value b = heap.value b := by
  induction as generalizing heap with
  | nil => rfl
  | cons a as ih =>
    rw [← Multiset.cons_coe, Multiset.cons_add] at h
    change ((heap.release a).releaseAll as).value b = _
    rw [ih h.release, h.value_release (Multiset.mem_add.mpr (.inr hb))]

end Counted

/-! ## References from the objects -/

section references

variable (f : α → Multiset Nat)

/-- What the object at an address refers to. -/
def refersTo (a : Nat) : Multiset Nat := ((heap.value a).map f).getD 0

/-- What the live objects refer to. -/
def references : Multiset Nat := ∑ a ∈ Finset.range heap.next, heap.refersTo f a

variable {heap f}

theorem refersTo_of_some {a : Nat} {v : α} (hv : heap.value a = some v) :
    heap.refersTo f a = f v := by
  rw [refersTo, hv]
  rfl

theorem lt_next_of_some {a : Nat} {v : α} (hv : heap.value a = some v) : a < heap.next := by
  by_contra hge
  rw [value_of_next_le (Nat.le_of_not_lt hge)] at hv
  contradiction

theorem mem_references {a : Nat} {v : α} (hv : heap.value a = some v) {r : Nat} (hr : r ∈ f v) :
    r ∈ heap.references f := by
  rw [references, Multiset.mem_sum]
  refine ⟨a, Finset.mem_range.mpr (lt_next_of_some hv), ?_⟩
  rw [refersTo_of_some hv]
  exact hr

theorem references_alloc (v : α) :
    (heap.alloc v).references f = f v + heap.references f := by
  rw [references]
  change ∑ a ∈ Finset.range (heap.next + 1), _ = _
  rw [Finset.sum_range_succ, refersTo_of_some (value_alloc_self v), add_comm]
  congr 1
  apply Finset.sum_congr rfl
  intro a ha
  simp only [refersTo]
  rw [value_alloc_ne (Nat.ne_of_lt (Finset.mem_range.mp ha))]

/-- An operation that changes one object exchanges what that object refers to. -/
theorem references_exchange {heap' : SharedHeap α} {a : Nat} (hnext : heap'.next = heap.next)
    (hother : ∀ b, b ≠ a → heap'.value b = heap.value b) :
    heap.refersTo f a + heap'.references f = heap'.refersTo f a + heap.references f := by
  have hrefers : ∀ b, b ≠ a → heap'.refersTo f b = heap.refersTo f b := by
    intro b hb
    simp only [refersTo]
    rw [hother b hb]
  simp only [references]
  rw [hnext]
  by_cases ha : a ∈ Finset.range heap.next
  · rw [← Finset.add_sum_erase _ _ ha, ← Finset.add_sum_erase _ (heap.refersTo f) ha,
      Finset.sum_congr rfl fun b hb => hrefers b (Finset.ne_of_mem_erase hb)]
    exact add_left_comm _ _ _
  · have hnone : heap.refersTo f a = heap'.refersTo f a := by
      have hle : heap.next ≤ a := Nat.le_of_not_lt fun hlt => ha (Finset.mem_range.mpr hlt)
      simp only [refersTo]
      rw [value_of_next_le hle, value_of_next_le (hnext ▸ hle)]
    rw [hnone, Finset.sum_congr rfl fun b hb => hrefers b fun heq => ha (heq ▸ hb)]

/-- An operation that no reader sees. -/
theorem references_of_value_eq {heap' : SharedHeap α} (hnext : heap'.next = heap.next)
    (hvalue : ∀ a, heap'.value a = heap.value a) : heap'.references f = heap.references f := by
  rw [references, hnext]
  apply Finset.sum_congr rfl
  intro a _
  simp only [refersTo]
  rw [hvalue a]

theorem references_retain (a : Nat) : (heap.retain a).references f = heap.references f :=
  references_of_value_eq rfl (value_retain a)

theorem references_write {a : Nat} {old : α} (hold : heap.value a = some old) (v : α) :
    f old + (heap.write a v).references f = f v + heap.references f := by
  have h := @references_exchange α heap f (heap.write a v) a rfl fun b hb => value_write_ne hb v
  rw [refersTo_of_some hold, refersTo_of_some (value_write_self hold v)] at h
  exact h

theorem references_release_of_lt {a : Nat} (ha : 1 < heap.useCount a) :
    (heap.release a).references f = heap.references f :=
  references_of_value_eq rfl (value_release_of_lt ha)

/-- Freeing an object drops what it refers to. -/
theorem references_release_of_eq {a : Nat} {old : α} (hold : heap.value a = some old)
    (ha : heap.useCount a = 1) : f old + (heap.release a).references f = heap.references f := by
  have h := @references_exchange α heap f (heap.release a) a rfl fun b hb => value_release_ne hb
  have hfreed : (heap.release a).refersTo f a = 0 := by
    rw [refersTo, value_release_of_eq ha]
    rfl
  rw [refersTo_of_some hold, hfreed, zero_add] at h
  exact h

end references

end SharedHeap

end SakuraTerminal.Foundations
