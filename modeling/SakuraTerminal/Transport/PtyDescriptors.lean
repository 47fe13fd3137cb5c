import SakuraTerminal.Foundations.Resources
import SakuraTerminal.Transport.PtyLifecycle

/-!
# The descriptor of a POSIX session

`Start` opens the master side of the terminal with `forkpty` and puts it into `master_fd_`. The
reader gets the number as an argument and reads from it without `io_mutex_`; `Write` and `Resize`
use the member under `io_mutex_`, on any thread; `Stop` moves it out of the member behind the join
and closes it outside of `io_mutex_`.

A number stands for one opened descriptor here. A number that the system gives out again is another
one, so that a use of the old one would be seen as misuse.

The model adds the descriptor calls to the steps of `PtyLifecycle`, which knows nothing of them.
After a step of the owner its calls are made one by one (`calls`) before its next step, so that a
reader or a caller may come between `Stop` leaving its critical section and the `close` that
follows. What is safe about this order is that the reader was joined before, and that a caller finds
the member already -1.
-/

set_option autoImplicit false

namespace SakuraTerminal.Transport

open SakuraTerminal.Foundations
open SakuraTerminal.Foundations.ResourceTable

/-- The steps that `PtyLifecycle` has of the owner and the reader, and the calls on a descriptor
between them. The number of the descriptor is in three places, and each thread looks at its own. -/
structure PtyDescriptors where
  pty : Pty := {}
  table : ResourceTable Int := {}
  /-- `master` in `Start`. -/
  master : Int := -1
  /-- What the owner calls before its next step. -/
  calls : List (ResourceCall Int) := []
  /-- `fd` in `ReadLoop`. -/
  fd : Int := -1
  /-- A `Write` or a `Resize` has `io_mutex_`, and has found a descriptor. -/
  writing : Bool := false
  deriving DecidableEq, Repr

/-! ## Steps -/

/-- The step is a critical section of `io_mutex_`. It waits while a caller is inside of `Write` or
`Resize`. -/
def OwnerAction.locks : OwnerAction → Bool
  | .readChild | .close | .adopt => true
  | _ => false

/-- The same for the reader. -/
def ReaderAction.locks : ReaderAction → Bool
  | .lookUp | .markReaped => true
  | _ => false

/-- What the step gets from the system. -/
def OwnerAction.opens : OwnerAction → List Int
  | .fork master _ => [master]
  | _ => []

/-- The descriptor of the members, if there is one. -/
def PtyMembers.descriptor (members : PtyMembers) : List Int :=
  if 0 ≤ members.masterFd then [members.masterFd] else []

/-- The calls of `fcntl`; `flags` is the result of `F_GETFL`. -/
def fcntlCalls (master flags : Int) : List (ResourceCall Int) :=
  .use master :: if 0 ≤ flags then [.use master] else []

/-- What the owner does with descriptors in a step. -/
def PtyDescriptors.afterOwner (s : PtyDescriptors) (flags : Int) (pty : Pty) :
    OwnerAction → PtyDescriptors
  | .fork master _ => { s with pty := pty, table := s.table.acquire [master], master := master }
  | .adopt => { s with pty := pty, calls := fcntlCalls s.master flags }
  | .spawn => { s with pty := pty, fd := s.master }
  | .close => { s with pty := pty, calls := s.pty.members.descriptor.map .release }
  | _ => { s with pty := pty }

/-- A step of the owner, of the reader or of a caller, or a call that one of them makes on a
descriptor. -/
inductive DescriptorAction where
  | owner (action : OwnerAction) (flags : Int)
  /-- `fcntl` in `Start`, or `close` in `Stop`. -/
  | ownerCall
  | reader (action : ReaderAction)
  /-- `poll` or `read` in `ReadLoop`. -/
  | readerCall
  /-- `Write` or `Resize`, up to the test of `master_fd_`. -/
  | lock
  /-- `write`, `poll` or `ioctl`. -/
  | lockedCall
  | unlock
  deriving DecidableEq, Repr

/-- The step an action stands for, if it can be made. `forkpty` gives out a number that was not
opened before. -/
def PtyDescriptors.step (s : PtyDescriptors) : DescriptorAction → Option PtyDescriptors
  | .owner action flags =>
    if s.calls = [] ∧ (action.locks = true → s.writing = false) ∧ s.table.Fresh action.opens then
      (s.pty.ownerStep action).map fun pty => s.afterOwner flags pty action
    else none
  | .ownerCall =>
    match s.calls with
    | [] => none
    | call :: calls => some { s with table := s.table.perform call, calls := calls }
  | .reader action =>
    if action.locks = true → s.writing = false then
      (s.pty.readerStep action).map fun pty => { s with pty := pty }
    else none
  | .readerCall =>
    if s.pty.reader = .read then some { s with table := s.table.use s.fd } else none
  | .lock =>
    if s.writing then none
    else some { s with writing := decide (0 ≤ s.pty.members.masterFd) }
  | .lockedCall =>
    if s.writing then some { s with table := s.table.use s.pty.members.masterFd } else none
  | .unlock => if s.writing then some { s with writing := false } else none

/-- All interleavings, from a session that was never started. -/
def descriptorSystem : TransitionSystem PtyDescriptors DescriptorAction where
  init s := s = {}
  step s action s' := s.step action = some s'

/-- Nothing is assumed of the order of steps, nor of the system calls. -/
abbrev AnyDescriptorOrder (_ : PtyDescriptors) (_ : DescriptorAction) : Prop := True

/-- What a step can do, with the guards of the step. -/
inductive DescriptorOutcome (s : PtyDescriptors) : DescriptorAction → PtyDescriptors → Prop where
  | owner (action : OwnerAction) (flags : Int) (pty : Pty) (hcalls : s.calls = [])
      (hlock : action.locks = true → s.writing = false) (hfresh : s.table.Fresh action.opens)
      (hstep : OwnerOutcome s.pty action pty) :
      DescriptorOutcome s (.owner action flags) (s.afterOwner flags pty action)
  | ownerCall (call : ResourceCall Int) (calls : List (ResourceCall Int))
      (hcalls : s.calls = call :: calls) :
      DescriptorOutcome s .ownerCall { s with table := s.table.perform call, calls := calls }
  | reader (action : ReaderAction) (pty : Pty) (hlock : action.locks = true → s.writing = false)
      (hstep : ReaderOutcome s.pty action pty) :
      DescriptorOutcome s (.reader action) { s with pty := pty }
  | readerCall (hreader : s.pty.reader = .read) :
      DescriptorOutcome s .readerCall { s with table := s.table.use s.fd }
  | lock (hfree : s.writing = false) :
      DescriptorOutcome s .lock { s with writing := decide (0 ≤ s.pty.members.masterFd) }
  | lockedCall (hwriting : s.writing = true) :
      DescriptorOutcome s .lockedCall { s with table := s.table.use s.pty.members.masterFd }
  | unlock (hwriting : s.writing = true) : DescriptorOutcome s .unlock { s with writing := false }

/-- Every step is one of the outcomes. -/
theorem descriptorOutcome_of_step {s s' : PtyDescriptors} {action : DescriptorAction}
    (hstep : s.step action = some s') : DescriptorOutcome s action s' := by
  cases action with
  | owner action flags =>
    simp only [PtyDescriptors.step] at hstep
    split at hstep
    next henabled =>
      obtain ⟨pty, hpty, rfl⟩ := Option.map_eq_some_iff.mp hstep
      obtain ⟨hcalls, hlock, hfresh⟩ := henabled
      exact .owner action flags pty hcalls hlock hfresh (ownerOutcome_of_step hpty)
    next => contradiction
  | ownerCall =>
    simp only [PtyDescriptors.step] at hstep
    split at hstep
    next => contradiction
    next call calls hcalls =>
      cases hstep
      exact .ownerCall call calls hcalls
  | reader action =>
    simp only [PtyDescriptors.step] at hstep
    split at hstep
    next hlock =>
      obtain ⟨pty, hpty, rfl⟩ := Option.map_eq_some_iff.mp hstep
      exact .reader action pty hlock (readerOutcome_of_step hpty)
    next => contradiction
  | readerCall =>
    simp only [PtyDescriptors.step] at hstep
    split at hstep
    next hreader =>
      cases hstep
      exact .readerCall hreader
    next => contradiction
  | lock =>
    simp only [PtyDescriptors.step] at hstep
    split at hstep
    next => contradiction
    next hfree =>
      cases hstep
      exact .lock (Bool.eq_false_iff.mpr hfree)
  | lockedCall =>
    simp only [PtyDescriptors.step] at hstep
    split at hstep
    next hwriting =>
      cases hstep
      exact .lockedCall hwriting
    next => contradiction
  | unlock =>
    simp only [PtyDescriptors.step] at hstep
    split at hstep
    next hwriting =>
      cases hstep
      exact .unlock hwriting
    next => contradiction

/-! ## What the owner knows of the descriptor -/

/-- What the owner knows of the members' descriptor, from the point at which it stands. -/
inductive DescriptorStage where
  | any
  /-- From the critical section of `Stop` on there is none in the members. -/
  | moved
  /-- `Start` has put one there and creates the reader. -/
  | adopted
  deriving DecidableEq, Repr

/-- What is known at a point. -/
def OwnerPoint.stage : OwnerPoint → DescriptorStage
  | .waitForChild _ _ _ | .loadState _ | .stopped _ | .begin | .fork | .fail | .adopt _ _ => .moved
  | .signalGroup _ .hup _ | .signalProcess _ .hup _ => .any
  | .signalGroup _ _ _ | .signalProcess _ _ _ => .moved
  | .spawn => .adopted
  | .store _ _ next => next.stage
  | _ => .any

/-- What `Start` has opened and not yet put into the members. -/
def OwnerPoint.opened : OwnerPoint → List Int
  | .adopt master _ => [master]
  | .store _ _ next => next.opened
  | _ => []

/-- Calls may remain to be made at such a point. -/
def OwnerPoint.calling : OwnerPoint → Bool
  | .waitForChild _ _ _ | .store _ _ _ => true
  | _ => false

/-- A step that neither opens a descriptor nor passes one on. -/
def OwnerAction.plain : OwnerAction → Bool
  | .fork _ _ | .adopt | .spawn | .close => false
  | _ => true

theorem PtyDescriptors.afterOwner_plain {action : OwnerAction} (hplain : action.plain = true)
    (s : PtyDescriptors) (flags : Int) (pty : Pty) :
    s.afterOwner flags pty action = { s with pty := pty } := by
  cases action <;> first | rfl | contradiction

@[simp]
theorem PtyMembers.store_masterFd (members : PtyMembers) (store : AtomicStore) :
    (members.store store).masterFd = members.masterFd := by
  cases store <;> rfl

/-- The members keep their descriptor in a plain step, the reader is at most joined, and the owner
knows no more than before. -/
theorem OwnerOutcome.plain {pty pty' : Pty} {action : OwnerAction}
    (h : OwnerOutcome pty action pty') (hplain : action.plain = true) :
    pty'.members.masterFd = pty.members.masterFd ∧
      (pty'.reader = pty.reader ∨ pty'.reader = .none) ∧
      pty'.owner.opened = pty.owner.opened ∧
      (pty'.owner.stage = pty.owner.stage ∨ pty'.owner.stage = .any) := by
  cases h with
  | fork | adopt | spawn | closeAndWait | close => contradiction
  | join _ _ howner => exact ⟨rfl, .inr rfl, by rw [howner]; rfl, .inr rfl⟩
  | signalGroup _ signal _ howner | signalProcess _ signal _ howner =>
    rw [howner]
    cases signal with
    | hup => exact ⟨rfl, .inl rfl, rfl, .inr rfl⟩
    | term | kill => exact ⟨rfl, .inl rfl, rfl, .inl rfl⟩
  | noGroup _ signal _ howner =>
    rw [howner]
    cases signal with
    | hup | term | kill => exact ⟨rfl, .inl rfl, rfl, .inl rfl⟩
  | reaps _ _ _ status _ howner =>
    rw [howner]
    cases status with
    | exited | signaled | other => exact ⟨rfl, .inl rfl, rfl, .inl rfl⟩
  | timesOut _ signal _ _ howner =>
    rw [howner]
    cases signal with
    | hup | term | kill => exact ⟨rfl, .inl rfl, rfl, .inl rfl⟩
  | returns restart howner =>
    rw [howner]
    cases restart with
    | true => exact ⟨rfl, .inl rfl, rfl, .inl rfl⟩
    | false => exact ⟨rfl, .inl rfl, rfl, .inr rfl⟩
  | polls => exact ⟨rfl, .inl rfl, rfl, .inl rfl⟩
  | stop howner | start howner | hangUp _ howner | goJoin _ howner | fail howner | getStatus howner
  | loadExitCode _ howner | loadExitSignal _ _ howner | report _ _ _ howner =>
    rw [howner]
    exact ⟨rfl, .inl rfl, rfl, .inr rfl⟩
  | waitFails _ _ _ _ howner | notOver _ howner | ended _ howner | begin howner
  | forkFails howner =>
    rw [howner]
    exact ⟨rfl, .inl rfl, rfl, .inl rfl⟩
  | lastStore first _ howner | store first _ _ _ howner =>
    rw [howner]
    exact ⟨PtyMembers.store_masterFd _ first, .inl rfl, rfl, .inl rfl⟩

theorem OwnerOutcome.adopts {pty pty' : Pty} (h : OwnerOutcome pty .adopt pty') :
    ∃ master child, pty.owner = .adopt master child ∧ pty'.members.masterFd = master ∧
      pty'.reader = pty.reader ∧
      pty'.owner = .store (.stopRequested false) [.running true, .state .running] .spawn := by
  cases h with
  | adopt master child howner => exact ⟨master, child, howner, rfl, rfl, rfl⟩

theorem OwnerOutcome.closes {pty pty' : Pty} (h : OwnerOutcome pty .close pty') :
    ∃ restart child, pty.owner = .close restart child ∧ pty'.members.masterFd = -1 ∧
      pty'.reader = pty.reader ∧ pty'.owner.stage = .moved ∧ pty'.owner.opened = [] ∧
      pty'.owner.calling = true := by
  cases h with
  | closeAndWait restart child howner | close restart child howner =>
    exact ⟨restart, child, howner, rfl, rfl, rfl, rfl, rfl⟩

theorem ReaderOutcome.keeps_masterFd {pty pty' : Pty} {action : ReaderAction}
    (h : ReaderOutcome pty action pty') : pty'.members.masterFd = pty.members.masterFd := by
  cases h <;> first | rfl | exact PtyMembers.store_masterFd _ _

/-! ## The invariant -/

/-- Every open descriptor is in the members, with the owner before the members got it, or about to
be closed by a call of the owner; nothing else is open. -/
structure DescriptorInvariant (s : PtyDescriptors) : Prop where
  owned : s.table.OwnedBy (s.pty.owner.opened ++ (releases s.calls ++ s.pty.members.descriptor))
  calls : UsesHeld s.pty.members.descriptor s.calls
  calling : s.pty.owner.calling = false → s.calls = []
  alone : s.pty.Alone
  opened : ∀ master ∈ s.pty.owner.opened, master = s.master ∧ 0 ≤ master
  moved : s.pty.owner.stage = .moved → s.pty.members.masterFd < 0
  adopted : s.pty.owner.stage = .adopted → s.pty.members.masterFd = s.master ∧ 0 ≤ s.master
  /-- The reader reads from what `Stop` will close behind the join. -/
  reader : s.pty.reader ≠ .none → s.pty.members.masterFd = s.fd ∧ 0 ≤ s.fd
  writing : s.writing = true → 0 ≤ s.pty.members.masterFd

theorem PtyMembers.descriptor_eq {members members' : PtyMembers}
    (h : members'.masterFd = members.masterFd) : members'.descriptor = members.descriptor := by
  rw [PtyMembers.descriptor, h, PtyMembers.descriptor]

@[simp]
theorem PtyMembers.descriptor_of_nonneg {members : PtyMembers} (h : 0 ≤ members.masterFd) :
    members.descriptor = [members.masterFd] :=
  if_pos h

@[simp]
theorem PtyMembers.descriptor_of_neg {members : PtyMembers} (h : members.masterFd < 0) :
    members.descriptor = [] :=
  if_neg (Int.not_le.mpr h)

theorem releases_fcntlCalls (master flags : Int) : releases (fcntlCalls master flags) = [] := by
  by_cases hflags : 0 ≤ flags
  · rw [fcntlCalls, if_pos hflags]
    rfl
  · rw [fcntlCalls, if_neg hflags]
    rfl

theorem usesHeld_fcntlCalls (master flags : Int) :
    UsesHeld [master] (fcntlCalls master flags) := by
  by_cases hflags : 0 ≤ flags
  · rw [fcntlCalls, if_pos hflags]
    exact ⟨List.mem_singleton_self _, List.mem_singleton_self _, trivial⟩
  · rw [fcntlCalls, if_neg hflags]
    exact ⟨List.mem_singleton_self _, trivial⟩

theorem PtyMembers.mem_descriptor {members : PtyMembers} (h : 0 ≤ members.masterFd) :
    members.masterFd ∈ members.descriptor := by
  rw [PtyMembers.descriptor_of_nonneg h]
  exact List.mem_singleton_self _

namespace DescriptorInvariant

variable {s : PtyDescriptors}

/-- The descriptor of the members may be used. -/
theorem use (h : DescriptorInvariant s) (hopen : 0 ≤ s.pty.members.masterFd) :
    DescriptorInvariant { s with table := s.table.use s.pty.members.masterFd } := by
  have hmem := List.mem_append_right (releases s.calls) (PtyMembers.mem_descriptor hopen)
  have howned := h.owned.use (List.mem_append_right s.pty.owner.opened hmem)
  exact { h with owned := howned }

/-- The first of the owner's calls is made; a release gives up what was owned for it. -/
theorem ownerCall (h : DescriptorInvariant s) {call : ResourceCall Int}
    {calls : List (ResourceCall Int)} (hcalls : s.calls = call :: calls) :
    DescriptorInvariant { s with table := s.table.perform call, calls := calls } := by
  have howned := h.owned
  have huses := h.calls
  rw [hcalls] at howned huses
  have hcalling : s.pty.owner.calling = false → calls = [] := by
    intro hcase
    have hnone := h.calling hcase
    rw [hcalls] at hnone
    contradiction
  exact { h with owned := howned.perform huses, calls := huses.tail, calling := hcalling }

/-- A plain step leaves the descriptor where it is, and what the owner knew of it is still true. -/
theorem plain (h : DescriptorInvariant s) {action : OwnerAction} {pty : Pty}
    (hcalls : s.calls = []) (hplain : action.plain = true)
    (hstep : OwnerOutcome s.pty action pty) : DescriptorInvariant { s with pty := pty } := by
  obtain ⟨hmaster, hreader, hopened, hstage⟩ := hstep.plain hplain
  have hdescriptor := PtyMembers.descriptor_eq hmaster
  refine ⟨?_, ?_, ?_, h.alone.ownerStep hstep, ?_, ?_, ?_, ?_, ?_⟩
  · rw [hopened, hdescriptor]
    exact h.owned
  · rw [hdescriptor]
    exact h.calls
  · exact fun _ => hcalls
  · rw [hopened]
    exact h.opened
  · intro hmoved
    rw [hmaster]
    rcases hstage with hsame | hany
    · exact h.moved (hsame.symm.trans hmoved)
    · rw [hany] at hmoved
      contradiction
  · intro hadopted
    rw [hmaster]
    rcases hstage with hsame | hany
    · exact h.adopted (hsame.symm.trans hadopted)
    · rw [hany] at hadopted
      contradiction
  · intro hactive
    rw [hmaster]
    rcases hreader with hsame | hnone
    · exact h.reader (hsame ▸ hactive)
    · exact absurd hnone hactive
  · rw [hmaster]
    exact h.writing

/-- `forkpty` opens a descriptor while the members have none. -/
theorem fork (h : DescriptorInvariant s) {master child : Int} {pty : Pty}
    (hcalls : s.calls = []) (hfresh : s.table.Fresh [master])
    (hstep : OwnerOutcome s.pty (.fork master child) pty) :
    DescriptorInvariant
      { s with pty := pty, table := s.table.acquire [master], master := master } := by
  have halone := h.alone.ownerStep hstep
  have howned := h.owned
  have hmoved := h.moved
  cases hstep with
  | fork _ _ howner hmaster hchild =>
    rw [howner] at howned hmoved
    exact { h with
      owned := howned.acquire hfresh
      calling := fun _ => hcalls
      alone := halone
      opened := by
        intro master' hmem
        cases List.mem_singleton.mp hmem
        exact ⟨rfl, hmaster⟩
      moved := fun _ => hmoved rfl
      adopted := nofun }

/-- The critical section of `Start`: the members get what was opened. -/
theorem adopt (h : DescriptorInvariant s) {pty : Pty} (flags : Int) (hcalls : s.calls = [])
    (hstep : OwnerOutcome s.pty .adopt pty) :
    DescriptorInvariant { s with pty := pty, calls := fcntlCalls s.master flags } := by
  have halone := h.alone.ownerStep hstep
  obtain ⟨master, child, howner, hmembers, hreader, hafter⟩ := hstep.adopts
  have howned := h.owned
  have hopened := h.opened
  have hmoved := h.moved
  rw [howner] at howned hopened hmoved
  obtain ⟨rfl, hmaster⟩ := hopened master (List.mem_singleton_self _)
  have hdescriptor : pty.members.descriptor = [s.master] := by
    rw [← hmembers] at hmaster ⊢
    exact PtyMembers.descriptor_of_nonneg hmaster
  rw [hcalls, PtyMembers.descriptor_of_neg (hmoved rfl)] at howned
  constructor
  · rw [hafter, releases_fcntlCalls, hdescriptor]
    exact howned
  · rw [hdescriptor]
    exact usesHeld_fcntlCalls s.master flags
  · rw [hafter]
    exact nofun
  · exact halone
  · rw [hafter]
    exact nofun
  · rw [hafter]
    exact nofun
  · exact fun _ => ⟨hmembers, hmaster⟩
  · intro hactive
    rw [hreader] at hactive
    exact absurd (h.alone (congrArg OwnerPoint.alone howner)) hactive
  · rw [hmembers]
    exact fun _ => hmaster

/-- The critical section of `Stop` behind the join. -/
theorem close (h : DescriptorInvariant s) {pty : Pty} (hcalls : s.calls = [])
    (hfree : s.writing = false) (hstep : OwnerOutcome s.pty .close pty) :
    DescriptorInvariant { s with pty := pty, calls := s.pty.members.descriptor.map .release } := by
  have halone := h.alone.ownerStep hstep
  obtain ⟨restart, child, howner, hmembers, hreader, hstage, hopened, hcalling⟩ := hstep.closes
  have hneg : pty.members.masterFd < 0 := by
    rw [hmembers]
    exact Int.negSucc_lt_zero 0
  have hdescriptor := PtyMembers.descriptor_of_neg hneg
  have howned := h.owned
  rw [howner, hcalls] at howned
  constructor
  · rw [hopened, releases_map_release, hdescriptor, List.append_nil]
    exact howned
  · rw [hdescriptor]
    exact usesHeld_map_release [] s.pty.members.descriptor
  · rw [hcalling]
    exact nofun
  · exact halone
  · rw [hopened]
    exact nofun
  · exact fun _ => hneg
  · rw [hstage]
    exact nofun
  · intro hactive
    rw [hreader] at hactive
    exact absurd (h.alone (congrArg OwnerPoint.alone howner)) hactive
  · rw [hfree]
    exact nofun

/-- The reader gets the number that is in the members. -/
theorem spawn (h : DescriptorInvariant s) {pty : Pty} (hcalls : s.calls = [])
    (hstep : OwnerOutcome s.pty .spawn pty) :
    DescriptorInvariant { s with pty := pty, fd := s.master } := by
  have halone := h.alone.ownerStep hstep
  have howned := h.owned
  have hadopted := h.adopted
  cases hstep with
  | spawn howner =>
    rw [howner] at howned hadopted
    exact { h with
      owned := howned
      calling := fun _ => hcalls
      alone := halone
      opened := nofun
      moved := nofun
      adopted := nofun
      reader := fun _ => hadopted rfl }

/-- A step of the owner is plain, or one of the four that move the descriptor. -/
theorem ownerStep (h : DescriptorInvariant s) {action : OwnerAction} {flags : Int} {pty : Pty}
    (hcalls : s.calls = []) (hlock : action.locks = true → s.writing = false)
    (hfresh : s.table.Fresh action.opens) (hstep : OwnerOutcome s.pty action pty) :
    DescriptorInvariant (s.afterOwner flags pty action) := by
  cases hplain : action.plain with
  | true =>
    rw [PtyDescriptors.afterOwner_plain hplain]
    exact h.plain hcalls hplain hstep
  | false =>
    cases action with
    | fork master child => exact h.fork hcalls hfresh hstep
    | adopt => exact h.adopt flags hcalls hstep
    | close => exact h.close hcalls (hlock rfl) hstep
    | spawn => exact h.spawn hcalls hstep
    | _ => contradiction

/-- The reader leaves the members' descriptor where it is. -/
theorem readerStep (h : DescriptorInvariant s) {action : ReaderAction} {pty : Pty}
    (hstep : ReaderOutcome s.pty action pty) : DescriptorInvariant { s with pty := pty } := by
  obtain ⟨howner, hactive, -⟩ := hstep.keeps
  have hmaster := hstep.keeps_masterFd
  have hdescriptor := PtyMembers.descriptor_eq hmaster
  refine ⟨?_, ?_, ?_, ?_, ?_, ?_, ?_, ?_, ?_⟩
  · rw [howner, hdescriptor]
    exact h.owned
  · rw [hdescriptor]
    exact h.calls
  · rw [howner]
    exact h.calling
  · intro halone
    rw [howner] at halone
    exact absurd (h.alone halone) hactive
  · rw [howner]
    exact h.opened
  · rw [howner, hmaster]
    exact h.moved
  · rw [howner, hmaster]
    exact h.adopted
  · rw [hmaster]
    exact fun _ => h.reader hactive
  · rw [hmaster]
    exact h.writing

end DescriptorInvariant

/-- The descriptor is owned in every run, whatever is assumed of it. -/
theorem descriptorInvariant_of_reachable {allowed : PtyDescriptors → DescriptorAction → Prop}
    {s : PtyDescriptors} (hreachable : descriptorSystem.Reachable allowed s) :
    DescriptorInvariant s := by
  apply TransitionSystem.Reachable.invariant _ _ hreachable
  · rintro _ rfl
    exact {
      owned := ResourceTable.ownedBy_empty
      calls := trivial
      calling := fun _ => rfl
      alone := nofun
      opened := nofun
      moved := nofun
      adopted := nofun
      reader := fun hactive => absurd rfl hactive
      writing := nofun }
  · intro s action s' _ ih _ hstep
    cases descriptorOutcome_of_step hstep with
    | owner action flags pty hcalls hlock hfresh hpty => exact ih.ownerStep hcalls hlock hfresh hpty
    | ownerCall call calls hcalls => exact ih.ownerCall hcalls
    | reader action pty _ hpty => exact ih.readerStep hpty
    | readerCall hreader =>
      obtain ⟨hfd, hopen⟩ := ih.reader (by rw [hreader]; exact nofun)
      have huse := ih.use (hfd ▸ hopen)
      rwa [hfd] at huse
    | lock => exact { ih with writing := of_decide_eq_true }
    | lockedCall hwriting => exact ih.use (ih.writing hwriting)
    | unlock => exact { ih with writing := nofun }

/-! ## Safety, and nothing left open -/

/-- Whatever the order of the steps of the owner, the reader and the callers of `Write` and
`Resize`, no descriptor is used or closed that is not open, and each is closed once at most. What
the reader and a caller have is open; outside of all calls of the owner what is open is in the
members, and nothing is when `Stop` returns. -/
theorem descriptors_safe {s : PtyDescriptors}
    (hreachable : descriptorSystem.Reachable AnyDescriptorOrder s) :
    s.table.misused = false ∧ s.table.acquired.Perm (s.table.live ++ s.table.released) ∧
      (s.table.live ++ s.table.released).Nodup ∧
      (s.pty.reader ≠ .none → s.fd ∈ s.table.live) ∧
      (s.writing = true → s.pty.members.masterFd ∈ s.table.live) ∧
      (s.pty.owner = .ready → s.table.live = s.pty.members.descriptor) ∧
      ∀ restart, s.pty.owner = .stopped restart → s.table.live = [] := by
  have h := descriptorInvariant_of_reachable hreachable
  have hlive : 0 ≤ s.pty.members.masterFd → s.pty.members.masterFd ∈ s.table.live := by
    intro hopen
    have hmem := List.mem_append_right (releases s.calls) (PtyMembers.mem_descriptor hopen)
    exact h.owned.mem_live (List.mem_append_right s.pty.owner.opened hmem)
  refine ⟨h.owned.sound, h.owned.acquired, h.owned.nodup, ?_, ?_, ?_, ?_⟩
  · intro hactive
    obtain ⟨hfd, hopen⟩ := h.reader hactive
    rw [← hfd] at hopen ⊢
    exact hlive hopen
  · exact fun hwriting => hlive (h.writing hwriting)
  · intro hready
    have howned := h.owned.live
    rw [h.calling (by rw [hready]; rfl), hready] at howned
    by_cases hopen : 0 ≤ s.pty.members.masterFd
    · rw [PtyMembers.descriptor_of_nonneg hopen] at howned ⊢
      exact List.perm_singleton.mp howned
    · rw [PtyMembers.descriptor_of_neg (Int.not_le.mp hopen)] at howned ⊢
      exact howned.eq_nil
  · intro restart hstopped
    have howned := h.owned.live
    have hmoved := h.moved (by rw [hstopped]; rfl)
    rw [h.calling (by rw [hstopped]; rfl), hstopped, PtyMembers.descriptor_of_neg hmoved] at howned
    exact howned.eq_nil

/-- `Write` is called while the reader is in `read`, and `Stop` while `Write` is in `write`: `Stop`
waits for `io_mutex_`, then for the reader, and closes the descriptor. -/
def stopWhileWriting : List DescriptorAction :=
  (([.start, .readChild, .join, .close, .store, .loadState, .returns, .begin, .store, .store,
    .store, .fork 5 7, .adopt] : List OwnerAction).map (.owner · 0)) ++
  [.ownerCall, .ownerCall] ++
  (([.store, .store, .store, .spawn] : List OwnerAction).map (.owner · 0)) ++
  [.reader .testLoop, .readerCall, .lock, .owner .stop 0, .lockedCall, .unlock,
    .owner .readChild 0, .owner (.signalGroup false) 0, .readerCall, .reader .goOn,
    .reader .testLoop, .reader .testLeave, .reader .clear, .owner .join 0, .owner .close 0,
    .ownerCall, .owner (.waitpid (.reaped (.exited 0)) false) 0] ++
  (([.store, .store, .store, .store, .loadState, .store] : List OwnerAction).map (.owner · 0))

theorem descriptors_safe_stopWhileWriting :
    ∃ s : PtyDescriptors, s.pty.owner = .stopped false ∧ s.table.released = [5] ∧
      s.table.misused = false ∧ s.table.acquired.Perm (s.table.live ++ s.table.released) ∧
      (s.table.live ++ s.table.released).Nodup ∧
      (s.pty.reader ≠ .none → s.fd ∈ s.table.live) ∧
      (s.writing = true → s.pty.members.masterFd ∈ s.table.live) ∧
      (s.pty.owner = .ready → s.table.live = s.pty.members.descriptor) ∧
      ∀ restart, s.pty.owner = .stopped restart → s.table.live = [] := by
  obtain ⟨s, hrun, howner, hreleased⟩ : ∃ s,
      TransitionSystem.runSteps PtyDescriptors.step {} stopWhileWriting = some s ∧
        s.pty.owner = .stopped false ∧ s.table.released = [5] :=
    ⟨_, rfl, rfl, rfl⟩
  refine ⟨s, howner, hreleased, descriptors_safe ?_⟩
  exact .runSteps _ _ (fun _ _ _ hstep => ⟨trivial, hstep⟩) (.init rfl) hrun

end SakuraTerminal.Transport
