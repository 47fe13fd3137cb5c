import SakuraTerminal.Transport.ConPtyLifecycle

/-!
# Who owns the handles of a ConPTY session

A handle is owned by the members of the session or by the owner thread, which holds what `Stop` has
moved out of the members and what `Start` has not yet put there. The reader and a caller of `Write`
or `Resize` borrow handles from the members, and the reader still has them after `Stop` has moved
them out: `Stop` closes them only behind the join.

`HandleInvariant` follows the ownership through every step. Of it remains that no handle is used or
closed after it was closed (`handles_safe`), and that no handle is lost: those not yet closed are in
the members whenever the owner is outside of `Start` and `Stop` (`handles_kept`).

`ConPtyOwner.resources` is read off the point at which the owner stands: what the remaining calls
will close, in their order. A step of the owner therefore moves a handle from the table into that
list, from there into the members, and back, and `OwnedBy` says that the open handles are exactly
those in the two places. The critical sections of `Start` and `Stop` are the only steps at which
both change.

The reader is not in this account, as it closes nothing. What it needs is that the handles it holds
are those of the session (`output`, `process`), and that nobody closes them while it runs (`alone`).
-/

set_option autoImplicit false

namespace SakuraTerminal.Transport

open SakuraTerminal.Foundations
open SakuraTerminal.Foundations.ResourceTable

/-! ## Owners -/

/-- In the order in which `Stop` closes them. -/
def ConPtyHandles.resources (handles : ConPtyHandles) : List ConPtyResource :=
  (handles.outputRead.map .handle).toList ++ (handles.inputWrite.map .handle).toList ++
    (handles.pseudoConsole.map .console).toList ++ (handles.processHandle.map .handle).toList ++
      (handles.processJob.map .handle).toList

/-- The four ends, in the order in which a failing `Start` closes them. -/
def ConPtyPipes.resources (pipes : ConPtyPipes) : List ConPtyResource :=
  [.handle pipes.inputRead, .handle pipes.outputWrite, .handle pipes.inputWrite,
    .handle pipes.outputRead]

/-- What the owner thread has to close or to put into the members. -/
def ConPtyOwner.resources : ConPtyOwner → List ConPtyResource
  | .join _ taken => taken.resources
  | .testValid _ process job | .getExitCode _ process job =>
    .handle process :: (job.map .handle).toList
  | .calls first rest next => releases ((first :: rest).map SystemCall.effect) ++ next.resources
  | .store _ _ next => next.resources
  | .createOutputPipe inputRead inputWrite => [.handle inputRead, .handle inputWrite]
  | .createPseudoConsole pipes => pipes.resources
  | .attributeListSize pipes console | .initializeAttributeList pipes console =>
    .console console :: pipes.resources
  | .updateAttribute pipes console attributes | .createProcess pipes console attributes =>
    .attributes attributes :: .console console :: pipes.resources
  | .createJobObject handles _ | .adopt handles => handles.resources
  | .setInformation handles _ job | .assignProcess handles _ job =>
    .handle job :: handles.resources
  | _ => []

/-- What `Stop` has moved out of the members while the reader may run. -/
def ConPtyOwner.taken : ConPtyOwner → Option ConPtyHandles
  | .join _ taken => some taken
  | .calls _ _ next | .store _ _ next => next.taken
  | _ => none

/-- The owner is behind the critical section of `Stop` and before the one of `Start`. -/
def ConPtyOwner.emptied : ConPtyOwner → Bool
  | .ready | .moveOut _ | .spawn _ | .loadExitCode _ | .loadExitSignal _ _
  | .loadExitCodeValid _ _ _ => false
  | .store _ _ next => next.emptied
  | _ => true

/-- The owner runs alone: behind the join in `Stop`, and until `Start` creates the reader. -/
def ConPtyOwner.alone : ConPtyOwner → Bool
  | .ready | .moveOut _ | .join _ _ | .loadExitCode _ | .loadExitSignal _ _
  | .loadExitCodeValid _ _ _ => false
  | .store _ _ next | .calls _ _ next => next.alone
  | _ => true

/-- The owner is in `GetStatus` or in no function of the session, or at the begin of `Stop`. -/
def ConPtyOwner.outside : ConPtyOwner → Bool
  | .ready | .moveOut _ | .loadExitCode _ | .loadExitSignal _ _ | .loadExitCodeValid _ _ _ => true
  | _ => false

/-- The handles that a started session has. The job object is not among them, as a session may run
without one. -/
structure ConPtyHandles.Open (handles : ConPtyHandles) : Prop where
  inputWrite : handles.inputWrite.isSome
  outputRead : handles.outputRead.isSome
  pseudoConsole : handles.pseudoConsole.isSome
  processHandle : handles.processHandle.isSome

/-- What the owner relies on at a point. Most points rely on nothing. `Start` relies on having
opened all handles of a session before it puts them into the members, and on finding its pipe there
when it creates the reader. -/
def ConPtyOwner.HandleAssertion (handles : ConPtyHandles) : ConPtyOwner → Prop
  | .calls first rest next =>
    UsesHeld next.resources ((first :: rest).map SystemCall.effect) ∧ next.outside = false ∧
      next.HandleAssertion handles
  | .store _ _ next => next.outside = false ∧ next.HandleAssertion handles
  | .createJobObject opened process | .setInformation opened process _
  | .assignProcess opened process _ =>
    opened.Open ∧ opened.processHandle = some process ∧ opened.processJob = none
  | .adopt opened => opened.Open
  | .spawn output => handles.Open ∧ handles.outputRead = some output
  | _ => True

/-! ## Borrowers -/

/-- The pipe that the reader reads from. -/
def ConPtyReader.output : ConPtyReader → Option Nat
  | .loop output | .readFile output => some output
  | _ => Option.none

/-- The process that the reader waits for. -/
def ConPtyReader.process : ConPtyReader → Option Nat
  | .testWait process | .waitForProcess process | .getExitCode process => some process
  | .testRecord process => process
  | _ => Option.none

/-- The handles that the reader or a caller may pass to the system. A borrower closes nothing, so a
handle may be here and with its owner as well. -/
def ConPty.borrowed (pty : ConPty) : List ConPtyResource :=
  (pty.reader.output.map .handle).toList ++ (pty.reader.process.map .handle).toList ++
    match pty.caller with
    | .none => []
    | .writeFile input => [.handle input]
    | .resize console => [.console console]

/-- The handles of the session, wherever `Stop` has put them. Until the join the reader may still
hold one of them. -/
def ConPty.sessionHandles (pty : ConPty) : ConPtyHandles :=
  pty.owner.taken.getD pty.members.handles

/-- What a caller relies on. -/
def ConPtyCaller.HandleAssertion (handles : ConPtyHandles) : ConPtyCaller → Prop
  | .none => True
  | .writeFile input => handles.inputWrite = some input
  | .resize console => handles.pseudoConsole = some console

/-- What the members hold between two calls of `Start` and `Stop`. -/
def ConPtyReturned.HandleAssertion (handles : ConPtyHandles) : ConPtyReturned → Prop
  | .started => handles.Open
  | .stopped | .failed => handles = {}

/-- Every open handle is owned, by the members or by the owner thread, and what the reader and the
callers have is among them. The remaining fields say when the members are empty and when the owner
runs alone. -/
structure HandleInvariant (pty : ConPty) : Prop where
  owned : pty.table.OwnedBy (pty.members.handles.resources ++ pty.owner.resources)
  owner : pty.owner.HandleAssertion pty.members.handles
  emptied : pty.owner.emptied = true → pty.members.handles = {}
  alone : pty.owner.alone = true → pty.reader = .none
  output : ∀ output, pty.reader.output = some output →
    pty.sessionHandles.outputRead = some output
  process : ∀ process, pty.reader.process = some process →
    pty.sessionHandles.processHandle = some process
  caller : pty.caller.HandleAssertion pty.members.handles
  returned : pty.owner.outside = true → pty.returned.HandleAssertion pty.members.handles

/-! ## Continuations -/

@[simp]
theorem ConPtyOwner.resources_afterCalls (next : ConPtyOwner) (calls : List SystemCall) :
    (next.afterCalls calls).resources =
      releases (calls.map SystemCall.effect) ++ next.resources := by
  cases calls <;> rfl

@[simp]
theorem ConPtyOwner.taken_afterCalls (next : ConPtyOwner) (calls : List SystemCall) :
    (next.afterCalls calls).taken = next.taken := by
  cases calls <;> rfl

theorem ConPtyOwner.handleAssertion_afterCalls {next : ConPtyOwner} {calls : List SystemCall}
    {handles : ConPtyHandles} (huses : UsesHeld next.resources (calls.map SystemCall.effect))
    (hinside : next.outside = false) (hnext : next.HandleAssertion handles) :
    (next.afterCalls calls).HandleAssertion handles := by
  cases calls with
  | nil => exact hnext
  | cons first rest => exact ⟨huses, hinside, hnext⟩

theorem ConPtyOwner.alone_afterCalls (next : ConPtyOwner) (calls : List SystemCall) :
    (next.afterCalls calls).alone = next.alone := by
  cases calls <;> rfl

theorem ConPtyOwner.outside_afterCalls {next : ConPtyOwner} (calls : List SystemCall)
    (hnext : next.outside = false) : (next.afterCalls calls).outside = false := by
  cases calls with
  | nil => exact hnext
  | cons => rfl

@[simp]
theorem releases_ifOpen_closeHandle (handle : Option Nat) :
    releases ((ifOpen .closeHandle handle).map SystemCall.effect) =
      (handle.map .handle).toList := by
  cases handle <;> rfl

@[simp]
theorem releases_ifOpen_closePseudoConsole (console : Option Nat) :
    releases ((ifOpen .closePseudoConsole console).map SystemCall.effect) =
      (console.map .console).toList := by
  cases console <;> rfl

theorem ConPtyPipes.mem_inputRead (pipes : ConPtyPipes) :
    .handle pipes.inputRead ∈ pipes.resources :=
  List.mem_cons_self

theorem ConPtyPipes.mem_outputWrite (pipes : ConPtyPipes) :
    .handle pipes.outputWrite ∈ pipes.resources :=
  List.mem_cons_of_mem _ List.mem_cons_self

theorem ConPtyHandles.mem_process {handles : ConPtyHandles} {process : Nat}
    (hprocess : handles.processHandle = some process) :
    .handle process ∈ handles.resources := by
  simp [ConPtyHandles.resources, hprocess]

/-- The pipes, in the order in which `Start` closes them. -/
theorem perm_pipes (a b c d : ConPtyResource) : [a, b, c, d].Perm [c, b, d, a] := by
  rw [List.perm_iff_count]
  intro resource
  simp only [List.count_cons]
  omega

theorem perm_notCreated (a c p q r s : ConPtyResource) :
    [a, c, p, q, r, s].Perm [a, p, q, c, r, s] := by
  rw [List.perm_iff_count]
  intro resource
  simp only [List.count_cons]
  omega

theorem perm_created (p : ConPtyResource) (thread : List ConPtyResource)
    (a c i o i' o' : ConPtyResource) :
    (p :: thread ++ [a, c, i, o, i', o']).Perm ([a, i, o] ++ thread ++ [o', i', c, p]) := by
  rw [List.perm_iff_count]
  intro resource
  simp only [List.count_append, List.count_cons, List.count_nil]
  omega

theorem perm_assigned {handles : ConPtyHandles} (hjob : handles.processJob = none) (job : Nat) :
    (.handle job :: handles.resources).Perm
      ({ handles with processJob := some job } : ConPtyHandles).resources := by
  rw [ConPtyHandles.resources, ConPtyHandles.resources, hjob]
  simp only [Option.map_none, Option.toList_none, List.append_nil]
  exact (List.perm_append_singleton _ _).symm

/-- What `Stop` calls before the join needs what it has taken only. -/
theorem usesHeld_terminate (taken : ConPtyHandles) :
    UsesHeld taken.resources
      ((ifOpen .terminateJobObject taken.processJob ++
        ifOpen .terminateProcess taken.processHandle ++
          ifOpen .cancelIoEx taken.outputRead).map SystemCall.effect) := by
  obtain ⟨input, output, console, process, job⟩ := taken
  cases job <;> cases process <;> cases output <;>
    simp [ifOpen, UsesHeld, SystemCall.effect, ConPtyHandles.resources]

theorem releases_terminate (taken : ConPtyHandles) :
    releases ((ifOpen .terminateJobObject taken.processJob ++
      ifOpen .terminateProcess taken.processHandle ++
        ifOpen .cancelIoEx taken.outputRead).map SystemCall.effect) = [] := by
  obtain ⟨input, output, console, process, job⟩ := taken
  cases job <;> cases process <;> cases output <;> rfl

theorem ConPtyOwner.resources_closeAll (restart : Bool) (taken : ConPtyHandles) :
    (ConPtyOwner.closeAll restart taken).resources = taken.resources := by
  obtain ⟨input, output, console, process, job⟩ := taken
  cases process with
  | some process =>
    simp [ConPtyOwner.closeAll, ConPtyHandles.resources, releases, SystemCall.effect,
      ConPtyOwner.resources]
  | none =>
    simp [ConPtyOwner.closeAll, ConPtyHandles.resources, ConPtyOwner.endStop,
      ConPtyOwner.resources]

theorem ConPtyOwner.outside_closeAll (restart : Bool) (taken : ConPtyHandles) :
    (ConPtyOwner.closeAll restart taken).outside = false := by
  unfold ConPtyOwner.closeAll
  cases taken.processHandle with
  | some process => exact ConPtyOwner.outside_afterCalls _ rfl
  | none => exact ConPtyOwner.outside_afterCalls _ rfl

/-- Behind the join the owner closes what it has taken, in any of the cases. -/
theorem ConPtyOwner.handleAssertion_closeAll (restart : Bool) (taken handles : ConPtyHandles) :
    (ConPtyOwner.closeAll restart taken).HandleAssertion handles := by
  obtain ⟨input, output, console, process, job⟩ := taken
  cases process with
  | some process =>
    refine ConPtyOwner.handleAssertion_afterCalls ?_ rfl trivial
    cases output <;> cases input <;> cases console <;>
      simp [ifOpen, UsesHeld, releases, SystemCall.effect, ConPtyOwner.resources]
  | none =>
    refine ConPtyOwner.handleAssertion_afterCalls ?_ rfl ⟨rfl, trivial⟩
    cases output <;> cases input <;> cases console <;> cases job <;>
      simp [ifOpen, UsesHeld, SystemCall.effect]

theorem ConPtyOwner.resources_closeProcess (restart : Bool) (process : Nat) (job : Option Nat) :
    (ConPtyOwner.closeProcess restart process job).resources =
      .handle process :: (job.map .handle).toList := by
  cases job <;> rfl

theorem ConPtyOwner.mem_resources_of_taken {owner : ConPtyOwner} {taken : ConPtyHandles}
    (htaken : owner.taken = some taken) {resource : ConPtyResource}
    (hmem : resource ∈ taken.resources) : resource ∈ owner.resources := by
  induction owner with
  | join restart own =>
    cases htaken
    exact hmem
  | calls first rest next ih => exact List.mem_append_right _ (ih htaken)
  | store first rest next ih => exact ih htaken
  | _ => contradiction

theorem ConPtyOwner.emptied_of_taken {owner : ConPtyOwner} {taken : ConPtyHandles}
    (htaken : owner.taken = some taken) : owner.emptied = true := by
  induction owner with
  | join | calls => rfl
  | store first rest next ih => exact ih htaken
  | _ => contradiction

/-- What the session has is owned by the members or by the owner thread. -/
theorem ConPty.mem_owned {pty : ConPty} {resource : ConPtyResource}
    (hmem : resource ∈ pty.sessionHandles.resources) :
    resource ∈ pty.members.handles.resources ++ pty.owner.resources := by
  cases htaken : pty.owner.taken with
  | none =>
    rw [ConPty.sessionHandles, htaken] at hmem
    exact List.mem_append_left _ hmem
  | some taken =>
    rw [ConPty.sessionHandles, htaken] at hmem
    exact List.mem_append_right _ (ConPtyOwner.mem_resources_of_taken htaken hmem)

/-! ## Steps of the owner -/

namespace HandleInvariant

variable {pty pty' : ConPty}

/-- The members keep their handles and the reader and the callers stay where they are. -/
theorem ownerMoves (h : HandleInvariant pty)
    (hhandles : pty'.members.handles = pty.members.handles) (hreader : pty'.reader = pty.reader)
    (hcaller : pty'.caller = pty.caller)
    (howned : pty'.table.OwnedBy (pty.members.handles.resources ++ pty'.owner.resources))
    (howner : pty'.owner.HandleAssertion pty.members.handles)
    (hemptied : pty'.owner.emptied = true → pty.members.handles = {})
    (halone : pty'.owner.alone = true → pty.reader = .none)
    (htaken : pty'.owner.taken = pty.owner.taken ∨ pty.reader = .none)
    (hreturned : pty'.owner.outside = true →
      pty'.returned.HandleAssertion pty.members.handles) :
    HandleInvariant pty' := by
  have hsession : pty.reader = .none ∨ pty'.sessionHandles = pty.sessionHandles := by
    rcases htaken with htaken | hnone
    · exact .inr (by rw [ConPty.sessionHandles, ConPty.sessionHandles, htaken, hhandles])
    · exact .inl hnone
  constructor
  case owned =>
    rw [hhandles]
    exact howned
  case owner =>
    rw [hhandles]
    exact howner
  case emptied =>
    rw [hhandles]
    exact hemptied
  case alone =>
    rw [hreader]
    exact halone
  case output =>
    intro output houtput
    rw [hreader] at houtput
    rcases hsession with hnone | hsession
    · rw [hnone] at houtput
      contradiction
    · rw [hsession]
      exact h.output output houtput
  case process =>
    intro process hprocess
    rw [hreader] at hprocess
    rcases hsession with hnone | hsession
    · rw [hnone] at hprocess
      contradiction
    · rw [hsession]
      exact h.process process hprocess
  case caller =>
    rw [hcaller, hhandles]
    exact h.caller
  case returned =>
    rw [hhandles]
    exact hreturned

/-- Inside of `Stop` and `Start` the owner holds all handles. -/
theorem ownedInside (h : HandleInvariant pty) {owner : ConPtyOwner} (howner : pty.owner = owner)
    (hemptied : owner.emptied = true) : pty.table.OwnedBy owner.resources := by
  have howned := h.owned
  rw [h.emptied (howner ▸ hemptied), howner] at howned
  exact howned

/-- The owner runs alone and stays inside of `Stop` or `Start`. -/
theorem insideMoves (h : HandleInvariant pty) {owner : ConPtyOwner} (howner : pty.owner = owner)
    (hemptied : owner.emptied = true) (halone : owner.alone = true)
    (hhandles : pty'.members.handles = pty.members.handles) (hreader : pty'.reader = pty.reader)
    (hcaller : pty'.caller = pty.caller)
    (howned : pty.table.OwnedBy owner.resources → pty'.table.OwnedBy pty'.owner.resources)
    (hassertion : pty'.owner.HandleAssertion {}) (hinside : pty'.owner.outside = false) :
    HandleInvariant pty' := by
  have hempty := h.emptied (howner ▸ hemptied)
  have hnone := h.alone (howner ▸ halone)
  apply h.ownerMoves hhandles hreader hcaller
  case howned =>
    rw [hempty]
    exact howned (h.ownedInside howner hemptied)
  case howner =>
    rw [hempty]
    exact hassertion
  case hemptied => exact fun _ => hempty
  case halone => exact fun _ => hnone
  case htaken => exact .inr hnone
  case hreturned =>
    intro houtside
    rw [hinside] at houtside
    contradiction

/-- The reader has ended. -/
theorem endReader (h : HandleInvariant pty) : HandleInvariant { pty with reader := .none } :=
  { h with
    alone := fun _ => rfl
    output := nofun
    process := nofun }

/-- The first critical section of `Stop`. What the reader has stays open, as the owner now holds it
and closes it only behind the join. -/
theorem moveOut (h : HandleInvariant pty) {restart : Bool} (howner : pty.owner = .moveOut restart)
    (hcaller : pty.caller = .none) :
    HandleInvariant { pty with
      members := { pty.members with handles := {} }
      owner := .terminate restart pty.members.handles } := by
  have howned := h.owned
  rw [howner] at howned
  have hsession : pty.sessionHandles = pty.members.handles := by
    rw [ConPty.sessionHandles, howner]
    rfl
  constructor
  case owned =>
    rw [ConPtyOwner.terminate, ConPtyOwner.resources_afterCalls, releases_terminate]
    exact howned.of_perm List.perm_append_comm
  case owner =>
    exact ConPtyOwner.handleAssertion_afterCalls (usesHeld_terminate _) rfl trivial
  case emptied => exact fun _ => rfl
  case alone =>
    rw [ConPtyOwner.terminate, ConPtyOwner.alone_afterCalls]
    exact nofun
  case output =>
    intro output houtput
    have hkept := h.output output houtput
    rw [hsession] at hkept
    rw [ConPty.sessionHandles, ConPtyOwner.terminate, ConPtyOwner.taken_afterCalls]
    exact hkept
  case process =>
    intro process hprocess
    have hkept := h.process process hprocess
    rw [hsession] at hkept
    rw [ConPty.sessionHandles, ConPtyOwner.terminate, ConPtyOwner.taken_afterCalls]
    exact hkept
  case caller =>
    rw [hcaller]
    trivial
  case returned =>
    rw [ConPtyOwner.terminate, ConPtyOwner.outside_afterCalls _ rfl]
    exact nofun

/-- The critical section of `Start`: what the owner had opened is in the members now. -/
theorem adopt (h : HandleInvariant pty) {handles : ConPtyHandles} {output : Nat}
    (howner : pty.owner = .adopt handles) (hcaller : pty.caller = .none)
    (houtput : handles.outputRead = some output) :
    HandleInvariant { pty with
      members := { pty.members with handles }
      owner :=
        .store (.stopRequested false) [.running true, .state .running] (.spawn output) } := by
  have hnone := h.alone (by rw [howner]; rfl)
  have hopen := h.owner
  rw [howner] at hopen
  constructor
  case owned => exact (h.ownedInside howner rfl).of_perm (.of_eq (List.append_nil _).symm)
  case owner => exact ⟨rfl, hopen, houtput⟩
  case emptied => exact nofun
  case alone => exact fun _ => hnone
  case output =>
    rw [hnone]
    exact nofun
  case process =>
    rw [hnone]
    exact nofun
  case caller =>
    rw [hcaller]
    trivial
  case returned => exact nofun

/-- The reader gets the pipe that is in the members. -/
theorem spawn (h : HandleInvariant pty) {output : Nat} (howner : pty.owner = .spawn output) :
    HandleInvariant { pty with
      reader := .loop output, owner := .ready, returned := .started } := by
  have howned := h.owned
  have hassertion := h.owner
  rw [howner] at howned hassertion
  constructor
  case owned => exact howned
  case owner => trivial
  case emptied => exact nofun
  case alone => exact nofun
  case output =>
    rintro _ ⟨rfl⟩
    exact hassertion.2
  case process => exact nofun
  case caller => exact h.caller
  case returned => exact fun _ => hassertion.1

/-- A step of the owner, one case for each constructor of its outcome. Most of them move a handle
within what the owner has to close, and the critical sections are lemmas of their own. -/
theorem ownerStep {action : ConPtyOwnerAction} (h : HandleInvariant pty)
    (hstep : ConPtyOwnerOutcome pty action pty') : HandleInvariant pty' := by
  have hassertion := h.owner
  have hreturned := h.returned
  cases hstep with
  | stop howner | start howner | getStatus howner =>
    have howned := h.owned
    rw [howner] at howned hreturned
    exact h.ownerMoves rfl rfl rfl howned trivial nofun nofun (.inl (by rw [howner]; rfl))
      fun _ => hreturned rfl
  | loadExitCode _ howner | loadExitSignal _ _ howner | report _ _ _ howner =>
    have howned := h.owned
    rw [howner] at howned hreturned
    exact h.ownerMoves rfl rfl rfl howned trivial nofun nofun (.inl (by rw [howner]; rfl))
      fun _ => hreturned rfl
  | moveOut restart howner hcaller => exact h.moveOut howner hcaller
  | call first rest next howner =>
    rw [howner] at hassertion
    obtain ⟨huses, hinside, hnext⟩ := hassertion
    have howned := h.owned
    rw [howner] at howned
    apply h.ownerMoves
    case hhandles | hreader | hcaller => rfl
    case howned =>
      rw [ConPtyOwner.resources_afterCalls]
      exact howned.perform huses
    case howner => exact ConPtyOwner.handleAssertion_afterCalls huses.tail hinside hnext
    case hemptied => exact fun _ => h.emptied (by rw [howner]; rfl)
    case halone =>
      intro halone
      apply h.alone
      rw [howner]
      rwa [ConPtyOwner.alone_afterCalls] at halone
    case htaken =>
      rw [ConPtyOwner.taken_afterCalls, howner]
      exact .inl rfl
    case hreturned =>
      rw [ConPtyOwner.outside_afterCalls _ hinside]
      exact nofun
  | join restart taken howner hreader =>
    apply h.endReader.ownerMoves
    case hhandles | hreader | hcaller => rfl
    case howned =>
      have howned := h.owned
      rw [howner] at howned
      rw [ConPtyOwner.resources_closeAll]
      exact howned
    case howner => exact ConPtyOwner.handleAssertion_closeAll restart taken _
    case hemptied => exact fun _ => h.emptied (by rw [howner]; rfl)
    case halone => exact fun _ => rfl
    case htaken => exact .inr rfl
    case hreturned =>
      rw [ConPtyOwner.outside_closeAll]
      exact nofun
  | valid restart process job howner hvalid =>
    refine h.insideMoves howner rfl rfl rfl rfl rfl ?_ ?_ rfl
    · rw [ConPtyOwner.resources_closeProcess]
      exact id
    · cases job <;> exact ⟨trivial, rfl, rfl, trivial⟩
  | notValid restart process job howner hvalid =>
    exact h.insideMoves howner rfl rfl rfl rfl rfl id trivial rfl
  | exitCode restart process job code howner =>
    refine h.insideMoves howner rfl rfl rfl rfl rfl ?_ ?_ rfl
    · intro howned
      rw [ConPtyOwner.resources, ConPtyOwner.resources_closeProcess]
      exact howned.use List.mem_cons_self
    · cases job <;> exact ⟨rfl, trivial, rfl, rfl, trivial⟩
  | noExitCode restart process job howner =>
    refine h.insideMoves howner rfl rfl rfl rfl rfl ?_ ?_ rfl
    · intro howned
      rw [ConPtyOwner.resources_closeProcess]
      exact howned.use List.mem_cons_self
    · cases job <;> exact ⟨trivial, rfl, rfl, trivial⟩
  | lastStore first next howner =>
    have howned := h.owned
    rw [howner] at howned hassertion
    apply h.ownerMoves
    case hhandles => exact ConPtyMembers.store_handles _ _
    case hreader | hcaller => rfl
    case howned => exact howned
    case howner => exact hassertion.2
    case hemptied => exact fun hemptied => h.emptied (by rw [howner]; exact hemptied)
    case halone => exact fun halone => h.alone (by rw [howner]; exact halone)
    case htaken =>
      rw [howner]
      exact .inl rfl
    case hreturned =>
      rw [hassertion.1]
      exact nofun
  | store first second rest next howner =>
    have howned := h.owned
    rw [howner] at howned hassertion
    apply h.ownerMoves
    case hhandles => exact ConPtyMembers.store_handles _ _
    case hreader | hcaller => rfl
    case howned => exact howned
    case howner => exact hassertion
    case hemptied => exact fun hemptied => h.emptied (by rw [howner]; exact hemptied)
    case halone => exact fun halone => h.alone (by rw [howner]; exact halone)
    case htaken =>
      rw [howner]
      exact .inl rfl
    case hreturned => exact nofun
  | notOver restart howner hstate =>
    exact h.insideMoves howner rfl rfl rfl rfl rfl id ⟨rfl, trivial⟩ rfl
  | ended restart howner hstate =>
    exact h.insideMoves howner rfl rfl rfl rfl rfl id trivial rfl
  | returns restart howner =>
    cases restart with
    | true => exact h.insideMoves howner rfl rfl rfl rfl rfl id trivial rfl
    | false =>
      have howned := h.owned
      have hempty := h.emptied (by rw [howner]; rfl)
      rw [howner] at howned
      exact h.ownerMoves rfl rfl rfl howned trivial nofun nofun (.inl (by rw [howner]; rfl))
        fun _ => hempty
  | begin howner =>
    exact h.insideMoves howner rfl rfl rfl rfl rfl id ⟨rfl, trivial⟩ rfl
  | noInputPipe howner =>
    exact h.insideMoves howner rfl rfl rfl rfl rfl id trivial rfl
  | noOutputPipe inputRead inputWrite howner =>
    exact h.insideMoves howner rfl rfl rfl rfl rfl id
      ⟨trivial, rfl, trivial⟩ rfl
  | inputPipe read write howner hfresh =>
    exact h.insideMoves howner rfl rfl rfl rfl rfl (OwnedBy.acquire · hfresh)
      trivial rfl
  | outputPipe inputRead inputWrite read write howner hfresh =>
    refine h.insideMoves howner rfl rfl rfl rfl rfl ?_ trivial rfl
    intro howned
    exact (howned.acquire hfresh).of_perm (perm_pipes _ _ _ _)
  | console pipes console howner hfresh =>
    refine h.insideMoves howner rfl rfl rfl rfl rfl ?_ trivial rfl
    intro howned
    have hused := (howned.use (pipes.mem_inputRead)).use (pipes.mem_outputWrite)
    exact hused.acquire hfresh
  | noConsole pipes howner =>
    refine h.insideMoves howner rfl rfl rfl rfl rfl ?_ ⟨trivial, rfl, trivial⟩ rfl
    intro howned
    exact (howned.use (pipes.mem_inputRead)).use (pipes.mem_outputWrite)
  | size pipes console howner =>
    exact h.insideMoves howner rfl rfl rfl rfl rfl id trivial rfl
  | noSize pipes console howner | noAttributes pipes console howner =>
    exact h.insideMoves howner rfl rfl rfl rfl rfl id ⟨trivial, rfl, trivial⟩ rfl
  | attributes pipes console attributes howner hfresh =>
    exact h.insideMoves howner rfl rfl rfl rfl rfl (OwnedBy.acquire · hfresh) trivial rfl
  | updated pipes console attributes howner =>
    refine h.insideMoves howner rfl rfl rfl rfl rfl ?_ trivial rfl
    intro howned
    exact (howned.use List.mem_cons_self).use (List.mem_cons_of_mem _ List.mem_cons_self)
  | notUpdated pipes console attributes howner =>
    refine h.insideMoves howner rfl rfl rfl rfl rfl ?_ ⟨trivial, rfl, trivial⟩ rfl
    intro howned
    exact (howned.use List.mem_cons_self).use (List.mem_cons_of_mem _ List.mem_cons_self)
  | created pipes console attributes process thread howner hfresh =>
    refine h.insideMoves howner rfl rfl rfl rfl rfl ?_ ?_ rfl
    · intro howned
      have hused := (howned.use List.mem_cons_self).use
        (List.mem_cons_of_mem _ List.mem_cons_self)
      apply (hused.acquire hfresh).of_perm
      cases thread with
      | none => exact perm_created _ [] _ _ _ _ _ _
      | some thread => exact perm_created _ [.handle thread] _ _ _ _ _ _
    · cases thread <;> exact ⟨trivial, rfl, ⟨rfl, rfl, rfl, rfl⟩, rfl, rfl⟩
  | notCreated pipes console attributes howner =>
    refine h.insideMoves howner rfl rfl rfl rfl rfl ?_ ⟨trivial, rfl, trivial⟩ rfl
    intro howned
    have hused := (howned.use List.mem_cons_self).use
      (List.mem_cons_of_mem _ List.mem_cons_self)
    exact hused.of_perm (perm_notCreated _ _ _ _ _ _)
  | job handles process job howner hfresh =>
    rw [howner] at hassertion
    exact h.insideMoves howner rfl rfl rfl rfl rfl (OwnedBy.acquire · hfresh) hassertion rfl
  | noJob handles process howner =>
    rw [howner] at hassertion
    exact h.insideMoves howner rfl rfl rfl rfl rfl id hassertion.1 rfl
  | limited handles process job howner =>
    rw [howner] at hassertion
    exact h.insideMoves howner rfl rfl rfl rfl rfl (OwnedBy.use · List.mem_cons_self) hassertion
      rfl
  | notLimited handles process job howner =>
    rw [howner] at hassertion
    exact h.insideMoves howner rfl rfl rfl rfl rfl (OwnedBy.use · List.mem_cons_self)
      ⟨trivial, rfl, hassertion.1⟩ rfl
  | assigned handles process job howner =>
    rw [howner] at hassertion
    obtain ⟨hopen, hprocess, hjob⟩ := hassertion
    refine h.insideMoves howner rfl rfl rfl rfl rfl ?_ ?_ rfl
    · intro howned
      have hused := (howned.use List.mem_cons_self).use
        (List.mem_cons_of_mem _ (ConPtyHandles.mem_process hprocess))
      apply hused.of_perm
      exact perm_assigned hjob job
    · exact ⟨hopen.inputWrite, hopen.outputRead, hopen.pseudoConsole, hopen.processHandle⟩
  | notAssigned handles process job howner =>
    rw [howner] at hassertion
    obtain ⟨hopen, hprocess, -⟩ := hassertion
    refine h.insideMoves howner rfl rfl rfl rfl rfl ?_ ⟨trivial, rfl, hopen⟩ rfl
    intro howned
    exact (howned.use List.mem_cons_self).use
      (List.mem_cons_of_mem _ (ConPtyHandles.mem_process hprocess))
  | adopt handles output howner hcaller houtput => exact h.adopt howner hcaller houtput
  | spawn output howner => exact h.spawn howner
  | fail howner =>
    have howned := h.owned
    have hempty := h.emptied (by rw [howner]; rfl)
    rw [howner] at howned
    exact h.ownerMoves rfl rfl rfl howned trivial nofun nofun (.inl (by rw [howner]; rfl))
      fun _ => hempty

/-! ## Steps of the reader and of callers -/

/-- The reader moves, and what it borrows is in the session. -/
theorem readerMoves (h : HandleInvariant pty) (hactive : pty.reader ≠ .none)
    (hhandles : pty'.members.handles = pty.members.handles) (howner : pty'.owner = pty.owner)
    (hcaller : pty'.caller = pty.caller) (hreturned : pty'.returned = pty.returned)
    (howned : pty'.table.OwnedBy (pty.members.handles.resources ++ pty.owner.resources))
    (houtput : ∀ output, pty'.reader.output = some output →
      pty.sessionHandles.outputRead = some output)
    (hprocess : ∀ process, pty'.reader.process = some process →
      pty.sessionHandles.processHandle = some process) :
    HandleInvariant pty' := by
  have hsession : pty'.sessionHandles = pty.sessionHandles := by
    rw [ConPty.sessionHandles, ConPty.sessionHandles, howner, hhandles]
  constructor
  case owned =>
    rw [hhandles, howner]
    exact howned
  case owner =>
    rw [hhandles, howner]
    exact h.owner
  case emptied =>
    rw [hhandles, howner]
    exact h.emptied
  case alone =>
    rw [howner]
    exact fun halone => absurd (h.alone halone) hactive
  case output =>
    rw [hsession]
    exact houtput
  case process =>
    rw [hsession]
    exact hprocess
  case caller =>
    rw [hhandles, hcaller]
    exact h.caller
  case returned =>
    rw [hhandles, howner, hreturned]
    exact h.returned

/-- What is still in the members is what the session has. -/
theorem session_process (h : HandleInvariant pty) {process : Nat}
    (hprocess : pty.members.handles.processHandle = some process) :
    pty.sessionHandles.processHandle = some process := by
  cases htaken : pty.owner.taken with
  | none =>
    rw [ConPty.sessionHandles, htaken]
    exact hprocess
  | some taken =>
    rw [h.emptied (ConPtyOwner.emptied_of_taken htaken)] at hprocess
    contradiction

/-- While there is a reader, the owner is not alone. -/
theorem not_alone (h : HandleInvariant pty) (hactive : pty.reader ≠ .none) :
    pty.owner.alone = false := by
  cases halone : pty.owner.alone with
  | false => rfl
  | true => exact absurd (h.alone halone) hactive

theorem use_output (h : HandleInvariant pty) {output : Nat}
    (houtput : pty.reader.output = some output) :
    (pty.use (.handle output)).table.OwnedBy
      (pty.members.handles.resources ++ pty.owner.resources) := by
  apply h.owned.use
  apply ConPty.mem_owned
  simp [ConPtyHandles.resources, h.output output houtput]

theorem use_process (h : HandleInvariant pty) {process : Nat}
    (hprocess : pty.reader.process = some process) :
    (pty.use (.handle process)).table.OwnedBy
      (pty.members.handles.resources ++ pty.owner.resources) := by
  apply h.owned.use
  apply ConPty.mem_owned
  exact ConPtyHandles.mem_process (h.process process hprocess)

/-- The reader uses what it has and closes nothing, so only its own fields are in question. -/
theorem readerStep {action : ConPtyReaderAction} (h : HandleInvariant pty)
    (hstep : ConPtyReaderOutcome pty action pty') : HandleInvariant pty' := by
  have hactive : ∀ {reader}, pty.reader = reader → reader ≠ .none → pty.reader ≠ .none := by
    rintro _ rfl hne
    exact hne
  have houtput := h.output
  have hprocess := h.process
  cases hstep with
  | leave _ hreader | stopped hreader | exits hreader | notFound hreader | recordsNot _ hreader =>
    exact h.readerMoves (hactive hreader nofun) rfl rfl rfl rfl h.owned nofun nofun
  | enter output hreader =>
    rw [hreader] at houtput
    exact h.readerMoves (hactive hreader nofun) rfl rfl rfl rfl h.owned houtput nofun
  | received output hreader =>
    have hused := h.use_output (by rw [hreader]; rfl)
    rw [hreader] at houtput
    exact h.readerMoves (hactive hreader nofun) rfl rfl rfl rfl hused houtput nofun
  | readFails output hreader =>
    have hused := h.use_output (by rw [hreader]; rfl)
    exact h.readerMoves (hactive hreader nofun) rfl rfl rfl rfl hused nofun nofun
  | found process hreader _ hfound =>
    refine h.readerMoves (hactive hreader nofun) rfl rfl rfl rfl h.owned nofun ?_
    rintro _ ⟨rfl⟩
    exact h.session_process hfound
  | waits process hreader | waitsNot process hreader | records process hreader =>
    rw [hreader] at hprocess
    exact h.readerMoves (hactive hreader nofun) rfl rfl rfl rfl h.owned nofun hprocess
  | timesOut process hreader | waited process hreader =>
    have hused := h.use_process (by rw [hreader]; rfl)
    rw [hreader] at hprocess
    exact h.readerMoves (hactive hreader nofun) rfl rfl rfl rfl hused nofun hprocess
  | exitCode process _ hreader =>
    have hused := h.use_process (by rw [hreader]; rfl)
    exact h.readerMoves (hactive hreader nofun) rfl rfl rfl rfl hused nofun nofun
  | noExitCode process hreader =>
    have hused := h.use_process (by rw [hreader]; rfl)
    exact h.readerMoves (hactive hreader nofun) rfl rfl rfl rfl hused nofun nofun
  | lastStore first hreader | store first _ _ hreader =>
    exact h.readerMoves (hactive hreader nofun) (ConPtyMembers.store_handles _ _) rfl rfl rfl
      h.owned nofun nofun
  | publish hreader | clear hreader =>
    exact h.readerMoves (hactive hreader nofun) rfl rfl rfl rfl h.owned nofun nofun

/-- A caller finds its handle in the members under the lock, which keeps the owner from moving it
out. -/
theorem callerStep {action : ConPtyCallerAction} (h : HandleInvariant pty)
    (hstep : ConPtyCallerOutcome pty action pty') : HandleInvariant pty' := by
  have hcaller := h.caller
  cases hstep with
  | write input _ hinput => exact { h with caller := hinput }
  | resize console _ hconsole => exact { h with caller := hconsole }
  | returns => exact { h with caller := trivial }
  | writeFile input hwrite =>
    rw [hwrite] at hcaller
    have hmem : .handle input ∈ pty.members.handles.resources := by
      rw [ConPtyCaller.HandleAssertion] at hcaller
      simp [ConPtyHandles.resources, hcaller]
    exact { h with owned := h.owned.use (List.mem_append_left _ hmem) }
  | resizePseudoConsole console hresize =>
    rw [hresize] at hcaller
    have hmem : .console console ∈ pty.members.handles.resources := by
      rw [ConPtyCaller.HandleAssertion] at hcaller
      simp [ConPtyHandles.resources, hcaller]
    exact { h with owned := h.owned.use (List.mem_append_left _ hmem) }

end HandleInvariant

/-- The ownership holds in every run, whatever is assumed of it. -/
theorem handleInvariant_of_reachable {allowed : ConPty → ConPtyAction → Prop} {pty : ConPty}
    (hreachable : conPtySystem.Reachable allowed pty) : HandleInvariant pty := by
  apply TransitionSystem.Reachable.invariant _ _ hreachable
  · rintro _ rfl
    exact {
      owned := ResourceTable.ownedBy_empty
      owner := trivial
      emptied := nofun
      alone := nofun
      output := nofun
      process := nofun
      caller := trivial
      returned := fun _ => rfl }
  · intro pty action pty' _ ih _ hstep
    cases action with
    | owner action => exact ih.ownerStep (conPtyOwnerOutcome_of_step hstep)
    | reader action => exact ih.readerStep (conPtyReaderOutcome_of_step hstep)
    | caller action => exact ih.callerStep (conPtyCallerOutcome_of_step hstep)

/-- What the reader or a caller may pass to the system is open. -/
theorem HandleInvariant.borrowed_live {pty : ConPty} (h : HandleInvariant pty)
    {resource : ConPtyResource} (hmem : resource ∈ pty.borrowed) : resource ∈ pty.table.live := by
  apply h.owned.mem_live
  rcases List.mem_append.mp hmem with hreader | hcaller
  · apply ConPty.mem_owned
    rcases List.mem_append.mp hreader with houtput | hprocess
    · obtain ⟨output, hread, rfl⟩ := Option.map_eq_some_iff.mp (Option.mem_toList.mp houtput)
      simp [ConPtyHandles.resources, h.output output hread]
    · obtain ⟨process, hwait, rfl⟩ := Option.map_eq_some_iff.mp (Option.mem_toList.mp hprocess)
      exact ConPtyHandles.mem_process (h.process process hwait)
  · apply List.mem_append_left
    have hassertion := h.caller
    cases hwhere : pty.caller with
    | none =>
      rw [hwhere] at hcaller
      contradiction
    | writeFile input =>
      rw [hwhere] at hcaller hassertion
      rw [ConPtyCaller.HandleAssertion] at hassertion
      rw [List.mem_singleton.mp hcaller]
      simp [ConPtyHandles.resources, hassertion]
    | resize console =>
      rw [hwhere] at hcaller hassertion
      rw [ConPtyCaller.HandleAssertion] at hassertion
      rw [List.mem_singleton.mp hcaller]
      simp [ConPtyHandles.resources, hassertion]

/-! ## Safety, and nothing lost -/

/-- Whatever the order of steps and the results of the system calls, no handle is used or closed
that is not open, each is closed once at most and by the function for its kind, and what the reader
and the callers hold is open. -/
theorem handles_safe {pty : ConPty} (hreachable : conPtySystem.Reachable AnyConPtyOrder pty) :
    pty.table.misused = false ∧ (pty.table.live ++ pty.table.released).Nodup ∧
      ∀ resource ∈ pty.borrowed, resource ∈ pty.table.live := by
  have hinvariant := handleInvariant_of_reachable hreachable
  exact ⟨hinvariant.owned.sound, hinvariant.owned.nodup, fun _ => hinvariant.borrowed_live⟩

/-- The child exits while `Stop` runs: the reader waits for the process that `Stop` has moved out
of the members and terminated. -/
def exitWhileStopping : List ConPtyAction :=
  startConPty ++ [.caller .write, .caller .writeFile, .reader .testLoop, .caller .returns,
    .reader (.readFile false), .reader .testLeave, .reader .lookUp, .reader .testWait, .owner .stop,
    .owner .moveOut, .owner .call, .owner .call, .reader (.wait true)]

theorem handles_safe_exitWhileStopping :
    ∃ pty : ConPty, pty.borrowed = [.handle 7] ∧ pty.members.handles = {} ∧
      pty.table.misused = false ∧ (pty.table.live ++ pty.table.released).Nodup ∧
      ∀ resource ∈ pty.borrowed, resource ∈ pty.table.live := by
  obtain ⟨pty, hrun, hborrowed, hmembers⟩ : ∃ pty,
      TransitionSystem.runSteps ConPty.step {} exitWhileStopping = some pty ∧
        pty.borrowed = [.handle 7] ∧ pty.members.handles = {} :=
    ⟨_, rfl, rfl, rfl⟩
  exact ⟨pty, hborrowed, hmembers, handles_safe (conPtyReachable_of_runSteps _ hrun)⟩

/-- Every handle that was opened is open or was closed once. Outside of `Start` and `Stop` the open
ones are those in the members: the pipes, the console and the process of a started session, and
none after `Stop` or after a `Start` that failed. -/
theorem handles_kept {pty : ConPty} (hreachable : conPtySystem.Reachable AnyConPtyOrder pty) :
    pty.table.acquired.Perm (pty.table.live ++ pty.table.released) ∧
      (pty.owner = .ready → pty.table.live.Perm pty.members.handles.resources ∧
        (pty.returned = .started → pty.members.handles.Open) ∧
        (pty.returned ≠ .started → pty.table.live = [])) := by
  have hinvariant := handleInvariant_of_reachable hreachable
  refine ⟨hinvariant.owned.acquired, fun hready => ?_⟩
  have hlive := hinvariant.owned.live
  have hreturned := hinvariant.returned
  rw [hready] at hlive hreturned
  rw [show ConPtyOwner.resources .ready = [] from rfl, List.append_nil] at hlive
  specialize hreturned rfl
  refine ⟨hlive, ?_, ?_⟩
  · intro hstarted
    rwa [hstarted] at hreturned
  · intro hnot
    have hempty : pty.members.handles = {} := by
      cases hhow : pty.returned with
      | started => exact absurd hhow hnot
      | stopped | failed =>
        rw [hhow] at hreturned
        exact hreturned
    rw [hempty] at hlive
    exact hlive.eq_nil

/-- The process cannot be created after five handles were opened. -/
def startFails : List ConPtyAction :=
  startConPty.take 16 ++ [.owner (.createProcess none), .owner .call, .owner .call, .owner .call,
    .owner .call, .owner .call, .owner .call, .owner .fail]

theorem handles_kept_startFails :
    ∃ pty : ConPty, pty.returned = .failed ∧ pty.table.released.length = 6 ∧
      pty.table.acquired.Perm (pty.table.live ++ pty.table.released) ∧
      (pty.owner = .ready → pty.table.live.Perm pty.members.handles.resources ∧
        (pty.returned = .started → pty.members.handles.Open) ∧
        (pty.returned ≠ .started → pty.table.live = [])) := by
  obtain ⟨pty, hrun, hreturned, hreleased⟩ : ∃ pty,
      TransitionSystem.runSteps ConPty.step {} startFails = some pty ∧
        pty.returned = .failed ∧ pty.table.released.length = 6 :=
    ⟨_, rfl, rfl, rfl⟩
  exact ⟨pty, hreturned, hreleased, handles_kept (conPtyReachable_of_runSteps _ hrun)⟩

end SakuraTerminal.Transport
