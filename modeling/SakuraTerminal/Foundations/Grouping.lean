import Mathlib.Data.List.SplitBy
import Mathlib.Data.List.Flatten
import Mathlib.Order.Basic
import Mathlib.Order.Lattice

/-!
# Grouping a sorted list by a key

A list sorted by a key, cut where the key changes (`List.splitBy`), has one group for each key that
occurs, and the group of a key is the list filtered for it (`exists_group`).

`List.splitBy` compares neighbours only. In a list that is not sorted a key can therefore have
several groups, and the lemmas about different groups need the order. Those about one group, and
`flatten_groupsBy`, which says that the cut loses nothing, hold of every list.
-/

set_option autoImplicit false

namespace SakuraTerminal.Foundations

universe u v

variable {α : Type u} {κ : Type v}

/-- The list cut into runs of equal keys. -/
def groupsBy [DecidableEq κ] (key : α → κ) (l : List α) : List (List α) :=
  l.splitBy fun a b => key a == key b

/-- Cutting loses nothing and keeps the order. -/
theorem flatten_groupsBy [DecidableEq κ] (key : α → κ) (l : List α) :
    (groupsBy key l).flatten = l :=
  List.flatten_splitBy ..

/-- The elements of a group have one key. -/
theorem key_eq_of_mem_groupsBy [DecidableEq κ] {key : α → κ} {l g : List α}
    (h : g ∈ groupsBy key l) {a b : α} (ha : a ∈ g) (hb : b ∈ g) : key a = key b := by
  have hchain := List.isChain_of_mem_splitBy h
  -- neighbours of a group have one key, and equality of keys is transitive
  have htrans : g.Pairwise fun a b => key a = key b := by
    rw [← List.isChain_iff_pairwise (R := fun a b => key a = key b)]
    exact hchain.imp fun a b hab => by simpa using hab
  have hsymm : Std.Symm fun a b : α => key a = key b := ⟨fun _ _ hab => hab.symm⟩
  exact List.Pairwise.forall_of_forall (R := fun a b => key a = key b) (fun _ _ => rfl) htrans
    ha hb

/-- Different groups of a sorted list have different keys. -/
theorem pairwise_groupsBy [LinearOrder κ] {key : α → κ} {l : List α}
    (hl : l.Pairwise fun a b => key a ≤ key b) :
    (groupsBy key l).Pairwise fun g h => ∀ a ∈ g, ∀ b ∈ h, key a < key b := by
  have hle : (groupsBy key l).Pairwise fun g h => ∀ a ∈ g, ∀ b ∈ h, key a ≤ key b := by
    have hflat := hl
    rw [← flatten_groupsBy key l, List.pairwise_flatten] at hflat
    exact hflat.2
  -- the key changes from the last element of a group to the first one of the next
  have hchain : (groupsBy key l).IsChain fun g h =>
      ∃ hg hh, (key (g.getLast hg) == key (h.head hh)) = false :=
    List.isChain_getLast_head_splitBy (fun a b => key a == key b) l
  -- sortedness turns "changes" into "grows"; groups are not empty, which makes the order transitive
  have hlt : (groupsBy key l).IsChain fun g h =>
      (g ≠ [] ∧ h ≠ []) ∧ ∀ a ∈ g, ∀ b ∈ h, key a < key b := by
    rw [List.isChain_iff_getElem] at hchain ⊢
    intro i hi
    obtain ⟨hg, hh, hne⟩ := hchain i hi
    refine ⟨⟨hg, hh⟩, fun a ha b hb => ?_⟩
    have hgm : (groupsBy key l)[i] ∈ groupsBy key l := List.getElem_mem _
    have hhm : (groupsBy key l)[i + 1] ∈ groupsBy key l := List.getElem_mem _
    have hab : key a ≤ key b :=
      List.pairwise_iff_getElem.1 hle i (i + 1) (by omega) hi (by omega) a ha b hb
    refine lt_of_le_of_ne hab fun heq => ?_
    have h1 := key_eq_of_mem_groupsBy hgm (List.getLast_mem hg) ha
    have h2 := key_eq_of_mem_groupsBy hhm (List.head_mem hh) hb
    exact (by simpa using hne : key (List.getLast _ hg) ≠ key (List.head _ hh))
      (h1.trans (heq.trans h2.symm))
  have htrans : IsTrans (List α) fun g h =>
      (g ≠ [] ∧ h ≠ []) ∧ ∀ a ∈ g, ∀ b ∈ h, key a < key b := by
    refine ⟨fun g h k hgh hhk => ⟨⟨hgh.1.1, hhk.1.2⟩, fun a ha c hc => ?_⟩⟩
    obtain ⟨b, hb⟩ := List.exists_mem_of_ne_nil h hgh.1.2
    exact (hgh.2 a ha b hb).trans (hhk.2 b hb c hc)
  exact (List.isChain_iff_pairwise.1 hlt).imp fun hgh => hgh.2

/-- The group of a key that occurs is the filtered list, and no other group has that key. -/
theorem exists_group [LinearOrder κ] {key : α → κ} {l : List α}
    (hl : l.Pairwise fun a b => key a ≤ key b) {k : κ} (hk : ∃ a ∈ l, key a = k) :
    ∃ before after, groupsBy key l = before ++ l.filter (fun a => key a = k) :: after ∧
      ∀ g ∈ before ++ after, ∀ a ∈ g, key a ≠ k := by
  obtain ⟨a, ha, hak⟩ := hk
  rw [← flatten_groupsBy key l, List.mem_flatten] at ha
  obtain ⟨g, hg, hag⟩ := ha
  obtain ⟨before, after, hsplit⟩ := List.append_of_mem hg
  have hpair := pairwise_groupsBy hl
  rw [hsplit, List.pairwise_append] at hpair
  obtain ⟨-, hafter, hbefore⟩ := hpair
  -- the groups before have smaller keys, those after have larger ones
  have hb : ∀ h ∈ before, ∀ b ∈ h, key b ≠ k := fun h hh b hbh =>
    hak ▸ (hbefore h hh g List.mem_cons_self b hbh a hag).ne
  have haf : ∀ h ∈ after, ∀ b ∈ h, key b ≠ k := fun h hh b hbh =>
    hak ▸ ((List.pairwise_cons.1 hafter).1 h hh a hag b hbh).ne'
  -- so filtering the whole list for the key leaves exactly its group
  have hfilter : l.filter (fun a => key a = k) = g := by
    have hnone : ∀ gs : List (List α), (∀ h ∈ gs, ∀ b ∈ h, key b ≠ k) →
        gs.flatten.filter (fun a => key a = k) = [] := by
      intro gs hgs
      rw [List.filter_eq_nil_iff]
      intro b hb
      obtain ⟨h, hh, hbh⟩ := List.mem_flatten.1 hb
      simpa using hgs h hh b hbh
    have hall : g.filter (fun a => key a = k) = g :=
      List.filter_eq_self.2 fun b hb => by
        simpa using (key_eq_of_mem_groupsBy hg hb hag).trans hak
    conv_lhs => rw [← flatten_groupsBy key l]
    rw [hsplit, List.flatten_append, List.flatten_cons, List.filter_append, List.filter_append,
      hnone before hb, hnone after haf, hall, List.nil_append, List.append_nil]
  refine ⟨before, after, by rw [hfilter, hsplit], fun h hh => ?_⟩
  rcases List.mem_append.1 hh with hh | hh
  · exact hb h hh
  · exact haf h hh

/-- A key that does not occur has no group. -/
theorem key_ne_of_mem_groupsBy [DecidableEq κ] {key : α → κ} {l : List α} {k : κ}
    (hk : ∀ a ∈ l, key a ≠ k) {g : List α} (hg : g ∈ groupsBy key l) {a : α} (ha : a ∈ g) :
    key a ≠ k := by
  apply hk a
  rw [← flatten_groupsBy key l]
  exact List.mem_flatten_of_mem hg ha

end SakuraTerminal.Foundations
