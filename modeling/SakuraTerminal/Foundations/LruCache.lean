import Mathlib.Algebra.Order.BigOperators.Group.List
import Mathlib.Algebra.Order.Group.Nat
import Mathlib.Data.List.Induction
import Mathlib.Data.List.Nodup
import Mathlib.Algebra.GroupWithZero.Nat

/-!
# Bounded caches that forget the least recently used item

A cache is the list of its items, most recently used first. `touch` moves an item to the front, and
`store` puts a new item there after dropping items from the other end until it has room. `Within`
says that the keys are distinct and that two limits are kept, one on the number of items and one on
their total weight. `RecentFirst` relates the list to the history of uses, and `HoldsLast` to the
history of stored values. All operations keep the three.

The list is the specification of a cache that keeps its items in a linked list and finds them
through a map: whatever such a cache does, its items are those of the list in this order. `makeRoom`
drops from the end one by one, and `makeRoom_spec` says that it keeps the longest front part with
which the new item fits, so no item is dropped without need.

`find_eq_some` gives the shape of the list around the item that is found, from which the lemmas
about `touch` follow. The histories in `RecentFirst` and `HoldsLast` are arbitrary lists, newest
first, so the caller chooses which of its steps count as a use.
-/

set_option autoImplicit false

namespace SakuraTerminal.Foundations.LruCache

universe u v

variable {κ : Type u} {ν : Type v}

/-- A key with its value. The weight is what the item counts towards the limit on the total, and is
fixed when the item is stored. -/
structure Item (κ : Type u) (ν : Type v) where
  key : κ
  value : ν
  weight : Nat

/-- The largest number of items and the largest total weight. -/
structure Limits where
  entries : Nat
  weight : Nat

/-- What the items weigh together. -/
def totalWeight (items : List (Item κ ν)) : Nat := (items.map Item.weight).sum

/-- An item of this weight can be added. Neither limit is exceeded with it. -/
def HasRoom (limits : Limits) (weight : Nat) (items : List (Item κ ν)) : Prop :=
  items.length < limits.entries ∧ totalWeight items + weight ≤ limits.weight

instance (limits : Limits) (weight : Nat) (items : List (Item κ ν)) :
    Decidable (HasRoom limits weight items) :=
  inferInstanceAs (Decidable (_ ∧ _))

/-- Items are dropped from the end until there is room. -/
def makeRoom (limits : Limits) (weight : Nat) (items : List (Item κ ν)) : List (Item κ ν) :=
  if _h : items.length = 0 ∨ HasRoom limits weight items then items
  else makeRoom limits weight items.dropLast
termination_by items.length
decreasing_by
  simp only [List.length_dropLast]
  omega

/-- A new item goes to the front, after room was made for it. The caller has made sure that its key
has no item yet. -/
def store (limits : Limits) (items : List (Item κ ν)) (item : Item κ ν) : List (Item κ ν) :=
  item :: makeRoom limits item.weight items

theorem totalWeight_cons (item : Item κ ν) (items : List (Item κ ν)) :
    totalWeight (item :: items) = item.weight + totalWeight items := by
  simp [totalWeight]

theorem totalWeight_concat (items : List (Item κ ν)) (item : Item κ ν) :
    totalWeight (items ++ [item]) = totalWeight items + item.weight := by
  simp [totalWeight]

theorem totalWeight_perm {items items' : List (Item κ ν)} (h : items.Perm items') :
    totalWeight items = totalWeight items' :=
  (h.map Item.weight).sum_eq

theorem weight_le_totalWeight {items : List (Item κ ν)} {item : Item κ ν} (h : item ∈ items) :
    item.weight ≤ totalWeight items :=
  List.le_sum_of_mem (List.mem_map_of_mem h)

/-- What `makeRoom` keeps: the longest part from the front that leaves room, if any does. -/
theorem makeRoom_spec (limits : Limits) (weight : Nat) (items : List (Item κ ν)) :
    ∃ kept ≤ items.length, makeRoom limits weight items = items.take kept ∧
      (kept = 0 ∨ HasRoom limits weight (items.take kept)) ∧
      ∀ more ≤ items.length, kept < more → ¬ HasRoom limits weight (items.take more) := by
  induction items using List.reverseRecOn with
  | nil => exact ⟨0, Nat.le_refl _, by rw [makeRoom]; simp, Or.inl rfl, by simp⟩
  | append_singleton items last ih =>
    rw [makeRoom]
    by_cases hroom : HasRoom limits weight (items ++ [last])
    · rw [dif_pos (Or.inr hroom)]
      refine ⟨(items ++ [last]).length, Nat.le_refl _, ?_, ?_, fun more hle hlt => ?_⟩
      · rw [List.take_length]
      · rw [List.take_length]
        exact Or.inr hroom
      · omega
    · rw [dif_neg (by simpa using hroom), List.dropLast_concat]
      obtain ⟨kept, hle, heq, hfits, hmost⟩ := ih
      refine ⟨kept, ?_, ?_, ?_, fun more hmore hlt => ?_⟩
      · rw [List.length_append]
        omega
      · rw [heq, List.take_append_of_le_length hle]
      · rwa [List.take_append_of_le_length hle]
      · -- all items, which do not leave room, or a part without the last one
        by_cases hall : more = items.length + 1
        · rwa [List.take_of_length_le (by simp; omega)]
        · simp only [List.length_append, List.length_singleton] at hmore
          rw [List.take_append_of_le_length (by omega)]
          exact hmost more (by omega) hlt

theorem makeRoom_keeps (limits : Limits) (weight : Nat) (items : List (Item κ ν)) :
    makeRoom limits weight items <+: items := by
  obtain ⟨kept, -, heq, -⟩ := makeRoom_spec limits weight items
  rw [heq]
  exact List.take_prefix kept items

/-- If an item fits into the empty cache, there is room for it in the end. -/
theorem hasRoom_makeRoom {limits : Limits} {weight : Nat} (hentries : 0 < limits.entries)
    (hweight : weight ≤ limits.weight) (items : List (Item κ ν)) :
    HasRoom limits weight (makeRoom limits weight items) := by
  obtain ⟨kept, -, heq, hkept | hroom, -⟩ := makeRoom_spec limits weight items
  · rw [heq, hkept, List.take_zero]
    exact ⟨hentries, by simpa [totalWeight] using hweight⟩
  · rw [heq]
    exact hroom

/-- The cache keeps its limits, with one item for a key. -/
structure Within (limits : Limits) (items : List (Item κ ν)) : Prop where
  nodup : (items.map Item.key).Nodup
  entries : items.length ≤ limits.entries
  weight : totalWeight items ≤ limits.weight

theorem within_nil (limits : Limits) : Within limits ([] : List (Item κ ν)) :=
  ⟨List.nodup_nil, Nat.zero_le _, Nat.zero_le _⟩

theorem Within.perm {limits : Limits} {items items' : List (Item κ ν)}
    (h : Within limits items) (hperm : items.Perm items') : Within limits items' where
  nodup := (hperm.map Item.key).nodup_iff.1 h.nodup
  entries := hperm.length_eq ▸ h.entries
  weight := totalWeight_perm hperm ▸ h.weight

/-- A cache keeps its limits when an item is stored that fits into an empty one. -/
theorem Within.store {limits : Limits} {items : List (Item κ ν)} (h : Within limits items)
    {item : Item κ ν} (hnew : item.key ∉ items.map Item.key) (hentries : 0 < limits.entries)
    (hweight : item.weight ≤ limits.weight) : Within limits (store limits items item) := by
  have hsub := (makeRoom_keeps limits item.weight items).sublist.map Item.key
  obtain ⟨hlength, htotal⟩ := hasRoom_makeRoom hentries hweight items
  constructor
  · rw [LruCache.store, List.map_cons, List.nodup_cons]
    exact ⟨fun hmem => hnew (hsub.subset hmem), h.nodup.sublist hsub⟩
  · exact hlength
  · rw [LruCache.store, totalWeight_cons]
    omega

section lookup

variable [DecidableEq κ]

/-- The item of a key. -/
def find (items : List (Item κ ν)) (key : κ) : Option (Item κ ν) :=
  items.find? fun item => item.key = key

/-- The item of a key becomes the most recently used one. -/
def touch (items : List (Item κ ν)) (key : κ) : List (Item κ ν) :=
  match find items key with
  | none => items
  | some item => item :: items.eraseP fun other => other.key = key

/-- Where the item of a key is, in a cache with one item for a key. -/
theorem find_eq_some {limits : Limits} {items : List (Item κ ν)} (h : Within limits items)
    {key : κ} {item : Item κ ν} (hfind : find items key = some item) :
    item.key = key ∧ ∃ before after, items = before ++ item :: after ∧
      touch items key = item :: (before ++ after) ∧
      ∀ other ∈ before ++ after, other.key ≠ key := by
  have hfound := hfind
  rw [find, List.find?_eq_some_iff_append] at hfound
  obtain ⟨hkey, before, after, rfl, hbefore⟩ := hfound
  simp only [decide_eq_true_eq] at hkey
  have hne : ∀ other ∈ before, other.key ≠ key := by simpa using hbefore
  refine ⟨hkey, before, after, rfl, ?_, ?_⟩
  · rw [touch, hfind]
    simp only
    rw [List.eraseP_append_right _ (by simpa using hne),
      List.eraseP_cons_of_pos (by simpa using hkey)]
  · intro other hother
    rcases List.mem_append.1 hother with hother | hother
    · exact hne other hother
    · have hnodup := h.nodup
      rw [List.map_append, List.nodup_append] at hnodup
      have hafter := (List.nodup_cons.1 hnodup.2.1).1
      rintro rfl
      exact hafter (hkey ▸ List.mem_map_of_mem hother)

theorem find_eq_none_iff {items : List (Item κ ν)} {key : κ} :
    find items key = none ↔ key ∉ items.map Item.key := by
  simp [find]

/-- A use changes the order of the items only. -/
theorem touch_perm {limits : Limits} {items : List (Item κ ν)} (h : Within limits items)
    (key : κ) : (touch items key).Perm items := by
  cases hfind : find items key with
  | none => rw [touch, hfind]
  | some item =>
    obtain ⟨-, before, after, rfl, htouch, -⟩ := find_eq_some h hfind
    rw [htouch]
    exact List.perm_middle.symm

theorem Within.touch {limits : Limits} {items : List (Item κ ν)} (h : Within limits items)
    (key : κ) : Within limits (touch items key) :=
  h.perm (touch_perm h key).symm

/-! ## The order of last use -/

/-- The items are in the order of their last uses; `uses` is the history, newest first. -/
def RecentFirst (uses : List κ) (items : List (Item κ ν)) : Prop :=
  items.Pairwise fun a b => uses.idxOf a.key < uses.idxOf b.key

theorem RecentFirst.sublist {uses : List κ} {items items' : List (Item κ ν)}
    (h : RecentFirst uses items) (hsub : List.Sublist items' items) : RecentFirst uses items' :=
  List.Pairwise.sublist hsub h

/-- Using a key that has no item changes nothing. -/
theorem RecentFirst.use {uses : List κ} {items : List (Item κ ν)} (h : RecentFirst uses items)
    {key : κ} (hkey : ∀ item ∈ items, item.key ≠ key) : RecentFirst (key :: uses) items := by
  refine List.Pairwise.imp_of_mem (fun {a b} ha hb hlt => ?_) h
  rw [List.idxOf_cons_ne _ (hkey a ha).symm, List.idxOf_cons_ne _ (hkey b hb).symm]
  exact Nat.succ_lt_succ hlt

/-- The item of the key that is used goes to the front. -/
theorem RecentFirst.cons {uses : List κ} {items : List (Item κ ν)} (h : RecentFirst uses items)
    {item : Item κ ν} (hkey : ∀ other ∈ items, other.key ≠ item.key) :
    RecentFirst (item.key :: uses) (item :: items) := by
  refine List.pairwise_cons.2 ⟨fun other hother => ?_, h.use hkey⟩
  rw [List.idxOf_cons_self, List.idxOf_cons_ne _ (hkey other hother).symm]
  exact Nat.succ_pos _

/-- The item that is found becomes the first, as its use is the latest. -/
theorem RecentFirst.touch {limits : Limits} {uses : List κ} {items : List (Item κ ν)}
    (h : RecentFirst uses items) (hwithin : Within limits items) {key : κ} {item : Item κ ν}
    (hfind : find items key = some item) : RecentFirst (key :: uses) (touch items key) := by
  obtain ⟨hkey, before, after, rfl, htouch, hne⟩ := find_eq_some hwithin hfind
  rw [htouch, ← hkey]
  refine (h.sublist ?_).cons (by rwa [hkey])
  exact List.Sublist.append (List.Sublist.refl _) (List.sublist_cons_self _ _)

/-- Storing an item is a use of its key. -/
theorem RecentFirst.store {uses : List κ} {items : List (Item κ ν)} (h : RecentFirst uses items)
    (limits : Limits) {item : Item κ ν} (hnew : item.key ∉ items.map Item.key) :
    RecentFirst (item.key :: uses) (store limits items item) := by
  have hkeeps := makeRoom_keeps limits item.weight items
  refine (h.sublist hkeeps.sublist).cons fun other hother hkey => hnew ?_
  rw [← hkey]
  exact List.mem_map_of_mem (hkeeps.subset hother)

/-! ## The value stored last -/

/-- Every item holds what was stored last for its key; `stored` is the history, newest first. -/
def HoldsLast (stored : List (κ × ν)) (items : List (Item κ ν)) : Prop :=
  ∀ item ∈ items, stored.lookup item.key = some item.value

theorem HoldsLast.subset {stored : List (κ × ν)} {items items' : List (Item κ ν)}
    (h : HoldsLast stored items) (hsub : items' ⊆ items) : HoldsLast stored items' :=
  fun item hitem => h item (hsub hitem)

theorem HoldsLast.store {stored : List (κ × ν)} {items : List (Item κ ν)}
    (h : HoldsLast stored items) (limits : Limits) {item : Item κ ν}
    (hnew : item.key ∉ items.map Item.key) :
    HoldsLast ((item.key, item.value) :: stored) (LruCache.store limits items item) := by
  intro other hother
  rcases List.mem_cons.1 hother with rfl | hother
  · rw [List.lookup_cons_self]
  · have hmem := (makeRoom_keeps limits item.weight items).subset hother
    have hne : ¬ other.key = item.key := fun hkey => hnew (hkey ▸ List.mem_map_of_mem hmem)
    rw [List.lookup_cons, beq_eq_false_iff_ne.2 hne]
    exact h other hmem

end lookup

end SakuraTerminal.Foundations.LruCache
