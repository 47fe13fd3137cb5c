import Mathlib.Data.List.Perm.Basic

/-!
# Tables of resources

A `ResourceTable` is what a system knows of the resources of a program: those acquired so far, those
that are live and those released again. A use or a release of a resource that is not live is noted
in `misused`.

`OwnedBy table owners` says that the live resources are those of `owners`, each owned once, and that
nothing was misused. Whoever passes resources on permutes the owners, and a list of calls can be
performed by who owns what the calls release (`OwnedBy.perform`).

The table is what the environment would say of the program, and the program cannot ask it anything.
A program is right if its own notes, the owners, always tell what the table has. Of that follows
that nothing is released twice and nothing is lost (`OwnedBy.acquired`, `OwnedBy.once`). A system
may use a name again after a release. `Fresh` takes names that were never used, so a name stands for
one resource, and a use that comes too late is always seen as one.
-/

set_option autoImplicit false

namespace SakuraTerminal.Foundations

universe u

/-- The resources of a program. The lists keep the order of the calls, the latest first, and
`misused` stays set once a call was wrong. -/
structure ResourceTable (α : Type u) where
  /-- Every resource acquired so far. -/
  acquired : List α := []
  live : List α := []
  released : List α := []
  /-- A resource was used or released that was not live. -/
  misused : Bool := false
  deriving DecidableEq, Repr

/-- A call on a resource. -/
inductive ResourceCall (α : Type u) where
  | use (resource : α)
  | release (resource : α)
  deriving DecidableEq, Repr

namespace ResourceTable

variable {α : Type u}

/-- The resources are new, and live. -/
def acquire (table : ResourceTable α) (resources : List α) : ResourceTable α :=
  { table with acquired := resources ++ table.acquired, live := resources ++ table.live }

/-- Resources that were never acquired, none of them twice. -/
def Fresh (table : ResourceTable α) (resources : List α) : Prop :=
  resources.Nodup ∧ ∀ resource ∈ resources, resource ∉ table.acquired

section decidable

variable [DecidableEq α]

instance (table : ResourceTable α) (resources : List α) : Decidable (table.Fresh resources) :=
  inferInstanceAs (Decidable (_ ∧ _))

/-- A call that needs a live resource and leaves it live. -/
def use (table : ResourceTable α) (resource : α) : ResourceTable α :=
  { table with misused := table.misused || decide (resource ∉ table.live) }

/-- The resource is given back. Doing so twice is a misuse. -/
def release (table : ResourceTable α) (resource : α) : ResourceTable α :=
  { table with
    live := table.live.erase resource
    released := resource :: table.released
    misused := table.misused || decide (resource ∉ table.live) }

def perform (table : ResourceTable α) : ResourceCall α → ResourceTable α
  | .use resource => table.use resource
  | .release resource => table.release resource

end decidable

/-- The live resources are those of the owners, each once, and nothing was misused. The owners are a
list, so that no resource can have two of them, and their order does not matter. -/
structure OwnedBy (table : ResourceTable α) (owners : List α) : Prop where
  live : table.live.Perm owners
  /-- Every resource acquired is live or was released, once. -/
  acquired : table.acquired.Perm (table.live ++ table.released)
  once : table.acquired.Nodup
  sound : table.misused = false

theorem ownedBy_empty : (({} : ResourceTable α)).OwnedBy [] where
  live := .refl _
  acquired := .refl _
  once := .nil
  sound := rfl

namespace OwnedBy

variable {table : ResourceTable α} {owners : List α}

/-- Owners pass resources on to each other. -/
theorem of_perm {owners' : List α} (h : table.OwnedBy owners) (hperm : owners.Perm owners') :
    table.OwnedBy owners' :=
  { h with live := h.live.trans hperm }

theorem acquire (h : table.OwnedBy owners) {resources : List α} (hfresh : table.Fresh resources) :
    (table.acquire resources).OwnedBy (resources ++ owners) where
  live := h.live.append_left resources
  acquired := by
    rw [ResourceTable.acquire, List.append_assoc]
    exact h.acquired.append_left resources
  once := by
    refine List.nodup_append.mpr ⟨hfresh.1, h.once, ?_⟩
    rintro resource hnew _ hold rfl
    exact hfresh.2 resource hnew hold
  sound := h.sound

theorem mem_live (h : table.OwnedBy owners) {resource : α} (hmem : resource ∈ owners) :
    resource ∈ table.live :=
  h.live.symm.subset hmem

theorem use [DecidableEq α] (h : table.OwnedBy owners) {resource : α} (hmem : resource ∈ owners) :
    (table.use resource).OwnedBy owners :=
  { h with
    sound := by
      have hlive := h.mem_live hmem
      simp [ResourceTable.use, h.sound, hlive] }

/-- A resource that is owned may be released, and is not owned any longer. -/
theorem release [DecidableEq α] {resource : α} (h : table.OwnedBy (resource :: owners)) :
    (table.release resource).OwnedBy owners where
  live := by
    have herase := h.live.erase resource
    rwa [List.erase_cons_head] at herase
  acquired := by
    have hlive := h.mem_live List.mem_cons_self
    refine h.acquired.trans (.trans ?_ List.perm_middle.symm)
    exact (List.perm_cons_erase hlive).append_right table.released
  once := h.once
  sound := by
    have hlive := h.mem_live List.mem_cons_self
    simp [ResourceTable.release, h.sound, hlive]

/-- No resource is both live and released, and none is released twice. -/
theorem nodup (h : table.OwnedBy owners) : (table.live ++ table.released).Nodup :=
  h.acquired.nodup_iff.mp h.once

theorem live_nil (h : table.OwnedBy []) : table.live = [] :=
  h.live.eq_nil

end OwnedBy

/-! ## Lists of calls -/

/-- The resources that the calls release. -/
def releases : List (ResourceCall α) → List α
  | [] => []
  | .use _ :: calls => releases calls
  | .release resource :: calls => resource :: releases calls

@[simp]
theorem releases_append (first second : List (ResourceCall α)) :
    releases (first ++ second) = releases first ++ releases second := by
  induction first with
  | nil => rfl
  | cons call first ih =>
    cases call with
    | use => exact ih
    | release resource => exact congrArg (List.cons resource) ih

@[simp]
theorem releases_map_release (resources : List α) :
    releases (resources.map .release) = resources := by
  induction resources with
  | nil => rfl
  | cons resource resources ih => exact congrArg (List.cons resource) ih

/-- Every call uses a resource that is released later, or that is kept. -/
def UsesHeld (kept : List α) : List (ResourceCall α) → Prop
  | [] => True
  | .use resource :: calls => resource ∈ releases calls ++ kept ∧ UsesHeld kept calls
  | .release _ :: calls => UsesHeld kept calls

theorem usesHeld_map_release (kept resources : List α) :
    UsesHeld kept (resources.map .release) := by
  induction resources with
  | nil => trivial
  | cons _ _ ih => exact ih

theorem UsesHeld.tail {kept : List α} {call : ResourceCall α} {calls : List (ResourceCall α)}
    (h : UsesHeld kept (call :: calls)) : UsesHeld kept calls := by
  cases call with
  | use => exact h.2
  | release => exact h

/-- One call, made by the owner of what the calls release and of what is kept. -/
theorem OwnedBy.perform [DecidableEq α] {table : ResourceTable α} {others kept : List α}
    {call : ResourceCall α} {calls : List (ResourceCall α)}
    (h : table.OwnedBy (others ++ (releases (call :: calls) ++ kept)))
    (huses : UsesHeld kept (call :: calls)) :
    (table.perform call).OwnedBy (others ++ (releases calls ++ kept)) := by
  cases call with
  | use resource =>
    have hmem : resource ∈ others ++ (releases calls ++ kept) :=
      List.mem_append_right others huses.1
    exact h.use hmem
  | release resource =>
    exact (h.of_perm List.perm_middle).release

end ResourceTable

end SakuraTerminal.Foundations
