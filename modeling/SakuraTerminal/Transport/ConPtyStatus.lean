import SakuraTerminal.Transport.ConPtyHandles
import SakuraTerminal.Transport.TransportStatus

/-!
# The status of a ConPTY session

Both threads of `ConPtySession` may record the exit code: the reader once the process has ended, and
`Stop` behind the join unless a valid code is there. `ConPtyStatusInvariant` has the states
published and the exit values for each point of either thread, and what `GetStatus` has loaded so
far. It follows that one code at most is recorded in a session, and that a report of a state in
which the session is over has the exit values of that moment together (`conPtyStatus_consistent`). A
report of `Running` may have loaded them while the reader records.

The exit values are stored one after another, by whichever thread records them, and `GetStatus`
loads them one after another too. Between two stores the members agree with no single code, which is
why `exit` compares the recorded code with the members as they will be once the pending stores are
made. A thread with pending stores is alone in having them: the owner records only behind the join.

What `GetStatus` has loaded so far is related to the members by `LoadAssertion`. It promises
something only if the state it loaded first is one in which the session is over, since then the
reader has already stored what it will store.
-/

set_option autoImplicit false

namespace SakuraTerminal.Transport

open SakuraTerminal.Foundations

/-! ## Assertions -/

/-- The members after several stores. -/
def ConPtyMembers.storeAll (members : ConPtyMembers) (stores : List AtomicStore) : ConPtyMembers :=
  stores.foldl ConPtyMembers.store members

/-- What `GetStatus` reports in this state after these codes were recorded. -/
def recordedCode (state : TransportState) (recorded : List Int) : TransportStatus :=
  ⟨state, recorded.head?.getD (-1), 0, !recorded.isEmpty⟩

/-- What `GetStatus` reports in this state if nothing changes while it loads. -/
def ConPtyMembers.status (members : ConPtyMembers) (state : TransportState) : TransportStatus :=
  ⟨state, members.exitCode, members.exitSignal, members.exitCodeValid⟩

/-- A session in this state is over, or there was none. -/
def TransportState.over : TransportState → Bool
  | .stopped | .exited | .failed => true
  | .starting | .running => false

/-- The log after these states were stored into `state_`. -/
def ConPtyLog.publish (log : ConPtyLog) (states : List TransportState) : ConPtyLog :=
  { log with published := log.published ++ states }

/-- What the owner relies on at a point. The published states decide what the owner may store next,
so most points bound the list of them. -/
def ConPtyOwner.StatusAssertion (members : ConPtyMembers) (log : ConPtyLog) : ConPtyOwner → Prop
  | .getExitCode _ _ _ => Settled log.published ∧ members.exitCodeValid = false
  | .loadState _ => Settled log.published ∧ members.running = false
  | .stopped _ | .begin =>
    Settled log.published ∧ members.running = false ∧ members.state.over = true
  | .createInputPipe | .createOutputPipe _ _ | .createPseudoConsole _ | .attributeListSize _ _
  | .initializeAttributeList _ _ | .updateAttribute _ _ _ | .createProcess _ _ _
  | .createJobObject _ _ | .setInformation _ _ _ | .assignProcess _ _ _ | .adopt _ | .fail =>
    log.published = [.starting] ∧ log.recorded = [] ∧ members.running = false
  | .spawn _ => log.published = [.starting, .running] ∧ log.recorded = []
  | .calls _ _ next => next.StatusAssertion members log
  | .store first rest next =>
    next.alone = true ∧ next.StatusAssertion (members.storeAll (first :: rest))
      (log.publish (storedStates (first :: rest)))
  | _ => Settled log.published

/-- The reader has published `Exited`, or will not. From there on it changes nothing that
`GetStatus` loads. -/
def ConPtyReader.past : ConPtyReader → Bool
  | .none | .clear | .finished => true
  | _ => false

/-- What the reader relies on at a point. -/
def ConPtyReader.StatusAssertion (log : ConPtyLog) : ConPtyReader → Prop
  | .none => True
  | .clear | .finished =>
    log.published = [.starting, .running] ∨ log.published = [.starting, .running, .exited]
  | .record first rest =>
    log.published = [.starting, .running] ∧ ∀ store ∈ first :: rest, store.ofExit = true
  | .publish => log.published = [.starting, .running]
  | _ => log.published = [.starting, .running] ∧ log.recorded = []

/-- The stores of exit values left to make. -/
def ConPtyOwner.pending : ConPtyOwner → List AtomicStore
  | .store first rest next => (first :: rest).filter AtomicStore.ofExit ++ next.pending
  | .calls _ _ next => next.pending
  | _ => []

/-- The stores of exit values that the reader has left to make. -/
def ConPtyReader.pending : ConPtyReader → List AtomicStore
  | .record first rest => first :: rest
  | _ => []

/-- The stores left to make on either thread, of which one list is always empty. -/
def ConPty.pending (pty : ConPty) : List AtomicStore := pty.owner.pending ++ pty.reader.pending

/-- What `GetStatus` has loaded. -/
def ConPtyOwner.LoadAssertion (members : ConPtyMembers) (past : Bool) : ConPtyOwner → Prop
  | .loadExitCode state => state.over = true → past = true ∧ members.state = state
  | .loadExitSignal state exitCode =>
    state.over = true → past = true ∧ members.state = state ∧ members.exitCode = exitCode
  | .loadExitCodeValid state exitCode exitSignal =>
    state.over = true → past = true ∧ members.state = state ∧ members.exitCode = exitCode ∧
      members.exitSignal = exitSignal
  | _ => True

/-- A report made when the session was over has the exit values of the codes recorded by then.
`once` is what keeps a second code from overwriting the first between two loads. -/
structure ConPtyLog.Coherent (log : ConPtyLog) : Prop where
  once : log.recorded.length ≤ 1
  reports : ∀ report ∈ log.reports, report.recorded <:+ log.recorded ∧
    (report.status.state.over = true →
      report.status = recordedCode report.status.state report.recorded)

/-- What the members, the log and the points of both threads have to do with each other. -/
structure ConPtyStatusInvariant (pty : ConPty) : Prop where
  state : pty.members.state = pty.log.published.getLast?.getD .stopped
  owner : pty.owner.StatusAssertion pty.members pty.log
  reader : pty.reader.StatusAssertion pty.log
  /-- The exit values are those recorded, up to the stores left to make. -/
  exit : ∀ state,
    (pty.members.storeAll pty.pending).status state = recordedCode state pty.log.recorded
  coherent : pty.log.Coherent
  loading : pty.owner.LoadAssertion pty.members pty.reader.past
  returned : pty.owner.outside = true → pty.returned ≠ .started →
    pty.reader = .none ∧ pty.members.running = false ∧ pty.members.state.over = true

/-! ## Continuations -/

section continuations

variable {members : ConPtyMembers} {log : ConPtyLog}

theorem ConPtyOwner.statusAssertion_afterCalls {next : ConPtyOwner}
    (h : next.StatusAssertion members log) (calls : List SystemCall) :
    (next.afterCalls calls).StatusAssertion members log := by
  cases calls with
  | nil => exact h
  | cons => exact h

theorem ConPtyOwner.pending_afterCalls (next : ConPtyOwner) (calls : List SystemCall) :
    (next.afterCalls calls).pending = next.pending := by
  cases calls <;> rfl

theorem ConPtyOwner.loadAssertion_afterCalls {next : ConPtyOwner} {past : Bool}
    (h : next.LoadAssertion members past) (calls : List SystemCall) :
    (next.afterCalls calls).LoadAssertion members past := by
  cases calls with
  | nil => exact h
  | cons => trivial

theorem ConPtyLog.publish_nil (log : ConPtyLog) : log.publish [] = log := by
  rw [ConPtyLog.publish, List.append_nil]

theorem ConPtyLog.publish_publish (log : ConPtyLog) (first second : List TransportState) :
    (log.publish first).publish second = log.publish (first ++ second) := by
  simp [ConPtyLog.publish]

theorem ConPtyOwner.statusAssertion_endStop (hsettled : Settled log.published) (restart : Bool) :
    (ConPtyOwner.endStop restart).StatusAssertion members log := by
  refine ⟨rfl, ?_, rfl⟩
  rw [show storedStates [.running false] = [] from rfl, ConPtyLog.publish_nil]
  exact hsettled

theorem ConPtyOwner.statusAssertion_closeAll (hsettled : Settled log.published) (restart : Bool)
    (taken : ConPtyHandles) :
    (ConPtyOwner.closeAll restart taken).StatusAssertion members log := by
  unfold ConPtyOwner.closeAll
  cases taken.processHandle with
  | some process =>
    apply ConPtyOwner.statusAssertion_afterCalls
    exact hsettled
  | none =>
    exact ConPtyOwner.statusAssertion_afterCalls
      (ConPtyOwner.statusAssertion_endStop hsettled restart) _

theorem ConPtyOwner.pending_closeAll (restart : Bool) (taken : ConPtyHandles) :
    (ConPtyOwner.closeAll restart taken).pending = [] := by
  unfold ConPtyOwner.closeAll
  cases taken.processHandle with
  | some process => exact ConPtyOwner.pending_afterCalls _ _
  | none => exact ConPtyOwner.pending_afterCalls _ _

theorem ConPtyOwner.loadAssertion_closeAll (restart : Bool) (taken : ConPtyHandles) (past : Bool) :
    (ConPtyOwner.closeAll restart taken).LoadAssertion members past := by
  unfold ConPtyOwner.closeAll
  cases taken.processHandle with
  | some process | none =>
    apply ConPtyOwner.loadAssertion_afterCalls
    trivial

/-- The exit values after some stores depend on those before. -/
theorem ConPtyMembers.status_storeAll {members' : ConPtyMembers}
    (h : ∀ state, members'.status state = members.status state) (stores : List AtomicStore)
    (state : TransportState) :
    (members'.storeAll stores).status state = (members.storeAll stores).status state := by
  induction stores generalizing members members' with
  | nil => exact h state
  | cons store stores ih =>
    apply ih
    intro state
    have hsame := h state
    simp only [ConPtyMembers.status, TransportStatus.mk.injEq, true_and] at hsame
    obtain ⟨hcode, hsignal, hvalid⟩ := hsame
    cases store <;> simp [ConPtyMembers.store, ConPtyMembers.status, hcode, hsignal, hvalid]

theorem ConPtyMembers.status_store {store : AtomicStore} (hother : store.ofExit = false)
    (members : ConPtyMembers) (state : TransportState) :
    (members.store store).status state = members.status state := by
  cases store with
  | stopRequested | running | state => rfl
  | exitCode | exitSignal | exitCodeValid => contradiction

/-- A store that is made is one less to make. -/
theorem ConPtyMembers.status_pending (members : ConPtyMembers) (first : AtomicStore)
    (stores : List AtomicStore) (state : TransportState) :
    ((members.store first).storeAll stores).status state =
      (members.storeAll ([first].filter AtomicStore.ofExit ++ stores)).status state := by
  cases hfirst : first.ofExit with
  | true =>
    rw [List.filter_cons_of_pos hfirst]
    rfl
  | false =>
    rw [List.filter_cons_of_neg (by rw [hfirst]; exact nofun)]
    exact ConPtyMembers.status_storeAll (ConPtyMembers.status_store hfirst members) _ state

theorem ConPty.store_log (pty : ConPty) (store : AtomicStore) :
    (pty.store store).log = pty.log.publish (storedStates [store]) := by
  cases store with
  | state value => rfl
  | stopRequested | running | exitCode | exitSignal | exitCodeValid =>
    exact (ConPtyLog.publish_nil _).symm

/-- A store of an exit value publishes nothing. -/
theorem ConPty.store_log_ofExit (pty : ConPty) {store : AtomicStore}
    (hexit : store.ofExit = true) : (pty.store store).log = pty.log := by
  cases store with
  | exitCode | exitSignal | exitCodeValid => rfl
  | stopRequested | running | state => contradiction

theorem ConPty.store_state {pty : ConPty} (store : AtomicStore)
    (h : pty.members.state = pty.log.published.getLast?.getD .stopped) :
    (pty.store store).members.state = (pty.store store).log.published.getLast?.getD .stopped := by
  cases store with
  | state value => simp [ConPty.store, ConPtyMembers.store]
  | stopRequested | running | exitCode | exitSignal | exitCodeValid => exact h

theorem ConPtyLog.Coherent.of_store {pty : ConPty} (h : pty.log.Coherent) (store : AtomicStore) :
    (pty.store store).log.Coherent := by
  rw [ConPty.store_log]
  exact ⟨h.once, h.reports⟩

theorem ConPtyReader.statusAssertion_of_none {reader : ConPtyReader} (h : reader = .none) :
    reader.StatusAssertion log := by
  rw [h]
  trivial

theorem ConPtyReader.StatusAssertion.of_log {reader : ConPtyReader} {log log' : ConPtyLog}
    (h : reader.StatusAssertion log) (hpublished : log'.published = log.published)
    (hrecorded : log'.recorded = log.recorded) : reader.StatusAssertion log' := by
  cases reader <;> simp_all [ConPtyReader.StatusAssertion]

/-- The first code of a session. -/
theorem ConPtyLog.Coherent.records {log : ConPtyLog} (h : log.Coherent)
    (hnone : log.recorded = []) (code : Int) :
    ({ log with recorded := code :: log.recorded } : ConPtyLog).Coherent where
  once := by
    rw [hnone]
    exact Nat.le_refl 1
  reports := by
    intro report hmem
    obtain ⟨hsuffix, hstatus⟩ := h.reports report hmem
    exact ⟨hsuffix.trans (List.suffix_cons _ _), hstatus⟩

theorem Settled.over {published : List TransportState} {state : TransportState}
    (h : Settled published) (hlast : state = published.getLast?.getD .stopped)
    (hstate : ¬(state = .starting ∨ state = .running)) : state.over = true := by
  rcases h.ended hlast hstate with rfl | rfl | rfl <;> rfl

/-- While the owner is not alone, the reader cannot break its assertion. -/
theorem ConPtyOwner.StatusAssertion.ofReader {members' : ConPtyMembers} {log' : ConPtyLog}
    {owner : ConPtyOwner} (h : owner.StatusAssertion members log) (halone : owner.alone = false)
    (hsettled : Settled log.published → Settled log'.published) :
    owner.StatusAssertion members' log' := by
  induction owner with
  | ready | moveOut | join | loadExitCode | loadExitSignal | loadExitCodeValid => exact hsettled h
  | calls first rest next ih => exact ih h halone
  | store first rest next =>
    have hnext : next.alone = true := h.1
    rw [show next.alone = false from halone] at hnext
    contradiction
  | _ => contradiction

/-- While the owner is not alone, it has nothing left to store. -/
theorem ConPtyOwner.StatusAssertion.pending {owner : ConPtyOwner}
    (h : owner.StatusAssertion members log) (halone : owner.alone = false) :
    owner.pending = [] := by
  induction owner with
  | calls first rest next ih => exact ih h halone
  | store first rest next =>
    have hnext : next.alone = true := h.1
    rw [show next.alone = false from halone] at hnext
    contradiction
  | _ => rfl

/-- Once the reader is past, it changes nothing of what was loaded. -/
theorem ConPtyOwner.LoadAssertion.ofReader {members' : ConPtyMembers} {past past' : Bool}
    {owner : ConPtyOwner} (h : owner.LoadAssertion members past)
    (hpast : past = true → past' = true ∧ ∀ state, members'.state = members.state ∧
      members'.status state = members.status state) : owner.LoadAssertion members' past' := by
  cases owner with
  | loadExitCode state =>
    intro hover
    obtain ⟨hat, hstate⟩ := h hover
    obtain ⟨hstill, hsame⟩ := hpast hat
    exact ⟨hstill, (hsame state).1.trans hstate⟩
  | loadExitSignal state exitCode =>
    intro hover
    obtain ⟨hat, hstate, hcode⟩ := h hover
    obtain ⟨hstill, hsame⟩ := hpast hat
    have hvalues := congrArg TransportStatus.exitCode (hsame state).2
    exact ⟨hstill, (hsame state).1.trans hstate, hvalues.trans hcode⟩
  | loadExitCodeValid state exitCode exitSignal =>
    intro hover
    obtain ⟨hat, hstate, hcode, hsignal⟩ := h hover
    obtain ⟨hstill, hsame⟩ := hpast hat
    have hcodes := congrArg TransportStatus.exitCode (hsame state).2
    have hsignals := congrArg TransportStatus.exitSignal (hsame state).2
    exact ⟨hstill, (hsame state).1.trans hstate, hcodes.trans hcode, hsignals.trans hsignal⟩
  | _ => trivial

theorem ConPtyOwner.loadAssertion_of_alone {owner : ConPtyOwner} (halone : owner.alone = true)
    (past : Bool) : owner.LoadAssertion members past := by
  cases owner <;> trivial

theorem ConPtyOwner.outside_of_alone {owner : ConPtyOwner} (halone : owner.alone = true) :
    owner.outside = false := by
  cases owner <;> first | rfl | contradiction

/-- Where the session is over, the reader has nothing left to publish. -/
theorem ConPtyReader.StatusAssertion.past {reader : ConPtyReader} {state : TransportState}
    (h : reader.StatusAssertion log) (hlast : state = log.published.getLast?.getD .stopped)
    (hover : state.over = true) : reader.past = true := by
  have hnot : log.published ≠ [.starting, .running] := by
    intro heq
    rw [hlast, heq] at hover
    contradiction
  cases reader with
  | none | clear | finished => rfl
  | publish => exact absurd h hnot
  | loop | readFile | leave | lookUp | testWait | waitForProcess | testRecord | getExitCode
  | record =>
    exact absurd h.1 hnot

theorem ConPtyReader.pending_of_past {reader : ConPtyReader} (hpast : reader.past = true) :
    reader.pending = [] := by
  cases reader <;> first | rfl | contradiction

end continuations

/-! ## Steps of the owner -/

namespace ConPtyStatusInvariant

variable {pty pty' : ConPty}

/-- A reader that is past has nothing left to store. -/
theorem exit_of_past (hpast : pty.reader.past = true) {state : TransportState}
    (h : (pty.members.storeAll pty.owner.pending).status state =
      recordedCode state pty.log.recorded) :
    (pty.members.storeAll pty.pending).status state = recordedCode state pty.log.recorded := by
  rw [ConPty.pending, ConPtyReader.pending_of_past hpast, List.append_nil]
  exact h

/-- Neither the exit values nor what is left to store has changed. -/
theorem exit_of_status (h : ConPtyStatusInvariant pty) (hpending : pty'.pending = pty.pending)
    (hstatus : ∀ state, pty'.members.status state = pty.members.status state)
    (hrecorded : pty'.log.recorded = pty.log.recorded) (state : TransportState) :
    (pty'.members.storeAll pty'.pending).status state =
      recordedCode state pty'.log.recorded := by
  rw [hpending, hrecorded, ConPtyMembers.status_storeAll hstatus]
  exact h.exit state

/-- Where nothing is left to store, the exit values are the recorded ones. -/
theorem exit_past (h : ConPtyStatusInvariant pty) (hpast : pty.reader.past = true)
    (hpending : pty.owner.pending = []) (state : TransportState) :
    pty.members.status state = recordedCode state pty.log.recorded := by
  have hexit := h.exit state
  rw [ConPty.pending, hpending, ConPtyReader.pending_of_past hpast] at hexit
  exact hexit

/-- The owner makes the first of its stores. -/
theorem exit_of_store (h : ConPtyStatusInvariant pty) {first : AtomicStore}
    {rest : List AtomicStore} {next : ConPtyOwner} (howner : pty.owner = .store first rest next)
    (hstore : pty' = { pty.store first with
      owner :=
        match rest with
        | [] => next
        | second :: rest => .store second rest next }) (state : TransportState) :
    (pty'.members.storeAll pty'.pending).status state =
      recordedCode state pty'.log.recorded := by
  have hexit := h.exit state
  rw [ConPty.pending, howner, ConPtyOwner.pending] at hexit
  have hpending : [first].filter AtomicStore.ofExit ++ pty'.pending =
      (first :: rest).filter AtomicStore.ofExit ++ next.pending ++ pty.reader.pending := by
    subst hstore
    cases rest with
    | nil => simp [ConPty.pending, ConPty.store]
    | cons second rest =>
      rw [show first :: second :: rest = [first] ++ second :: rest from rfl, List.filter_append]
      simp [ConPty.pending, ConPtyOwner.pending, ConPty.store]
  rw [← hpending, ← ConPtyMembers.status_pending] at hexit
  subst hstore
  rw [show (ConPty.log _).recorded = (pty.store first).log.recorded from rfl, pty.store_log]
  exact hexit

/-- Only the owner moves. -/
theorem ownerMoves (h : ConPtyStatusInvariant pty) {owner : ConPtyOwner}
    (hat : pty.owner = owner) (hmembers : pty'.members = pty.members) (hlog : pty'.log = pty.log)
    (hreader : pty'.reader = pty.reader)
    (howner : owner.StatusAssertion pty.members pty.log →
      pty'.owner.StatusAssertion pty.members pty.log)
    (hpending : pty'.owner.pending = owner.pending)
    (hloading : pty'.owner.LoadAssertion pty.members pty.reader.past)
    (hreturned : pty'.owner.outside = true → pty'.returned ≠ .started →
      pty.reader = .none ∧ pty.members.running = false ∧ pty.members.state.over = true) :
    ConPtyStatusInvariant pty' := by
  have hknown := h.owner
  rw [hat] at hknown
  constructor
  case state =>
    rw [hmembers, hlog]
    exact h.state
  case owner =>
    rw [hmembers, hlog]
    exact howner hknown
  case reader =>
    rw [hreader, hlog]
    exact h.reader
  case exit =>
    rw [hmembers, hlog, ConPty.pending, hpending, hreader, ← hat]
    exact h.exit
  case coherent =>
    rw [hlog]
    exact h.coherent
  case loading =>
    rw [hmembers, hreader]
    exact hloading
  case returned =>
    rw [hmembers, hreader]
    exact hreturned

/-- The owner moves inside of `Start`, before `Running` is stored. -/
theorem insideMoves (h : ConPtyStatusInvariant pty) {owner : ConPtyOwner}
    (hat : pty.owner = owner) (hmembers : pty'.members = pty.members) (hlog : pty'.log = pty.log)
    (hreader : pty'.reader = pty.reader)
    (howner : owner.StatusAssertion pty.members pty.log →
      pty'.owner.StatusAssertion pty.members pty.log)
    (hpending : pty'.owner.pending = owner.pending)
    (hloading : pty'.owner.LoadAssertion pty.members pty.reader.past)
    (hinside : pty'.owner.outside = false) : ConPtyStatusInvariant pty' := by
  apply h.ownerMoves hat hmembers hlog hreader howner hpending hloading
  rw [hinside]
  exact nofun

/-- A step of the owner. The cases follow the outcome: within `Start` the published states grow,
within `Stop` the exit values are recorded behind the join, and `GetStatus` loads one member at a
time. -/
theorem ownerStep {action : ConPtyOwnerAction} (h : ConPtyStatusInvariant pty)
    (hhandles : HandleInvariant pty) (hstep : ConPtyOwnerOutcome pty action pty') :
    ConPtyStatusInvariant pty' := by
  -- what the owner knows at its point
  have known : ∀ {owner}, pty.owner = owner →
      owner.StatusAssertion pty.members pty.log := by
    rintro _ rfl
    exact h.owner
  have loaded : ∀ {owner}, pty.owner = owner →
      owner.LoadAssertion pty.members pty.reader.past := by
    rintro _ rfl
    exact h.loading
  have outside : ∀ {owner}, pty.owner = owner → owner.outside = true → pty.returned ≠ .started →
      pty.reader = .none ∧ pty.members.running = false ∧ pty.members.state.over = true := by
    rintro _ rfl
    exact h.returned
  have without : ∀ {owner}, pty.owner = owner → owner.alone = true → pty.reader = .none := by
    rintro _ rfl
    exact hhandles.alone
  cases hstep with
  | stop howner | start howner =>
    have hsettled := known howner
    have hreturned := outside howner rfl
    constructor
    case state => exact h.state
    case owner => exact hsettled
    case reader => exact h.reader
    case exit =>
      apply h.exit_of_status
      · rw [ConPty.pending, ConPty.pending, howner]
        rfl
      · exact fun _ => rfl
      · rfl
    case coherent => exact h.coherent
    case loading => trivial
    case returned => exact fun _ => hreturned
  | moveOut restart howner hcaller =>
    have hsettled := known howner
    constructor
    case state => exact h.state
    case owner =>
      apply ConPtyOwner.statusAssertion_afterCalls
      exact hsettled
    case reader => exact h.reader
    case exit =>
      apply h.exit_of_status
      · rw [ConPty.pending, ConPtyOwner.terminate, ConPtyOwner.pending_afterCalls, ConPty.pending,
          howner]
        rfl
      · exact fun _ => rfl
      · rfl
    case coherent => exact h.coherent
    case loading =>
      apply ConPtyOwner.loadAssertion_afterCalls
      trivial
    case returned =>
      rw [ConPtyOwner.terminate, ConPtyOwner.outside_afterCalls _ rfl]
      exact fun houtside => absurd houtside Bool.false_ne_true
  | call first rest next howner =>
    have hinside : next.outside = false := by
      have hassertion := hhandles.owner
      rw [howner] at hassertion
      exact hassertion.2.1
    apply h.insideMoves howner
    case hmembers | hlog | hreader => rfl
    case howner =>
      intro hnext
      apply ConPtyOwner.statusAssertion_afterCalls
      exact hnext
    case hpending => exact ConPtyOwner.pending_afterCalls next rest
    case hloading =>
      apply ConPtyOwner.loadAssertion_afterCalls
      cases next <;> trivial
    case hinside => exact ConPtyOwner.outside_afterCalls rest hinside
  | join restart taken howner hreader =>
    have hsettled := known howner
    have hnone : pty.reader.pending = [] := by
      rcases hreader with heq | heq <;> rw [heq] <;> rfl
    have hpending := h.exit
    rw [ConPty.pending, howner, hnone] at hpending
    constructor
    case state => exact h.state
    case owner => exact ConPtyOwner.statusAssertion_closeAll hsettled restart taken
    case reader => trivial
    case exit =>
      rw [ConPty.pending, ConPtyOwner.pending_closeAll]
      exact hpending
    case coherent => exact h.coherent
    case loading => exact ConPtyOwner.loadAssertion_closeAll restart taken _
    case returned =>
      rw [ConPtyOwner.outside_closeAll]
      exact fun houtside => absurd houtside Bool.false_ne_true
  | valid restart process job howner hvalid =>
    exact h.insideMoves howner rfl rfl rfl (ConPtyOwner.statusAssertion_endStop · restart) rfl
      trivial rfl
  | notValid restart process job howner hvalid =>
    exact h.insideMoves howner rfl rfl rfl (fun hsettled => ⟨hsettled, hvalid⟩) rfl trivial rfl
  | exitCode restart process job code howner =>
    obtain ⟨hsettled, hvalid⟩ := known howner
    have hnone := without howner rfl
    have hpast : pty.reader.past = true := by
      rw [hnone]
      rfl
    have hexit := h.exit_past hpast (by rw [howner]; rfl)
    have hrecorded : pty.log.recorded = [] := by
      have hempty := congrArg TransportStatus.exitCodeValid (hexit .stopped)
      simpa [ConPtyMembers.status, recordedCode, hvalid] using hempty
    constructor
    case state => exact h.state
    case owner =>
      refine ⟨rfl, ConPtyOwner.statusAssertion_endStop ?_ restart⟩
      simpa [ConPtyLog.publish, storedStates] using hsettled
    case reader => exact ConPtyReader.statusAssertion_of_none hnone
    case exit =>
      intro state
      have hsignal : pty.members.exitSignal = 0 :=
        congrArg TransportStatus.exitSignal (hexit state)
      apply exit_of_past
      · exact hpast
      · rw [recordedCode, ← hsignal]
        rfl
    case coherent => exact h.coherent.records hrecorded code
    case loading => trivial
    case returned => exact fun houtside => absurd houtside Bool.false_ne_true
  | noExitCode restart process job howner =>
    exact h.insideMoves howner rfl rfl rfl
      (fun hknown => ConPtyOwner.statusAssertion_endStop hknown.1 restart) rfl trivial rfl
  | lastStore first next howner =>
    obtain ⟨hnext, hafter⟩ := known howner
    have hnone := without howner hnext
    constructor
    case state => exact ConPty.store_state first h.state
    case owner =>
      rw [show _ = (pty.store first).log from rfl, pty.store_log first]
      exact hafter
    case reader => exact ConPtyReader.statusAssertion_of_none hnone
    case exit => exact h.exit_of_store howner rfl
    case coherent => exact h.coherent.of_store first
    case loading => exact ConPtyOwner.loadAssertion_of_alone hnext _
    case returned =>
      rw [ConPtyOwner.outside_of_alone hnext]
      exact fun houtside => absurd houtside Bool.false_ne_true
  | store first second rest next howner =>
    obtain ⟨hnext, hafter⟩ := known howner
    have hnone := without howner hnext
    constructor
    case state => exact ConPty.store_state first h.state
    case owner =>
      refine ⟨hnext, ?_⟩
      rw [show _ = (pty.store first).log from rfl, pty.store_log first, ConPtyLog.publish_publish,
        ← storedStates_cons]
      exact hafter
    case reader => exact ConPtyReader.statusAssertion_of_none hnone
    case exit => exact h.exit_of_store howner rfl
    case coherent => exact h.coherent.of_store first
    case loading => trivial
    case returned => exact fun houtside => absurd houtside Bool.false_ne_true
  | notOver restart howner hstate =>
    apply h.insideMoves howner
    case hmembers | hlog | hreader | hpending | hinside => rfl
    case howner =>
      rintro ⟨hsettled, hrunning⟩
      rw [h.state] at hstate
      refine ⟨rfl, ?_, hrunning, rfl⟩
      rw [ConPtyLog.publish, hsettled.running hstate]
      exact .inr (.inr (.inr (.inr rfl)))
    case hloading => trivial
  | ended restart howner hstate =>
    apply h.insideMoves howner
    case hmembers | hlog | hreader | hpending | hinside => rfl
    case howner =>
      rintro ⟨hsettled, hrunning⟩
      exact ⟨hsettled, hrunning, hsettled.over h.state hstate⟩
    case hloading => trivial
  | returns restart howner =>
    have hknown := known howner
    have hnone := without howner rfl
    apply h.ownerMoves howner
    case hmembers | hlog | hreader => rfl
    case howner => cases restart <;> first | exact id | exact And.left
    case hpending => cases restart <;> rfl
    case hloading => cases restart <;> trivial
    case hreturned => exact fun _ _ => ⟨hnone, hknown.2⟩
  | begin howner =>
    have hknown := known howner
    have hnone := without howner rfl
    constructor
    case state => rfl
    case owner => exact ⟨rfl, rfl, rfl, hknown.2.1⟩
    case reader => exact ConPtyReader.statusAssertion_of_none hnone
    case exit =>
      intro state
      have hpast : pty.reader.past = true := by
        rw [hnone]
        rfl
      apply exit_of_past
      · exact hpast
      · rfl
    case coherent => exact ⟨Nat.zero_le 1, fun _ hmem => absurd hmem List.not_mem_nil⟩
    case loading => trivial
    case returned => exact fun houtside => absurd houtside Bool.false_ne_true
  | noInputPipe howner | noOutputPipe _ _ howner | inputPipe _ _ howner
  | outputPipe _ _ _ _ howner | console _ _ howner | noConsole _ howner | size _ _ howner
  | noSize _ _ howner | attributes _ _ _ howner | noAttributes _ _ howner | updated _ _ _ howner
  | notUpdated _ _ _ howner | created _ _ _ _ _ howner | notCreated _ _ _ howner
  | job _ _ _ howner | noJob _ _ howner | limited _ _ _ howner | notLimited _ _ _ howner
  | assigned _ _ _ howner | notAssigned _ _ _ howner =>
    exact h.insideMoves howner rfl rfl rfl id rfl trivial rfl
  | adopt handles output howner hcaller houtput =>
    obtain ⟨hpublished, hrecorded, -⟩ := known howner
    have hnone := without howner rfl
    constructor
    case state => exact h.state
    case owner =>
      refine ⟨rfl, ?_, hrecorded⟩
      rw [ConPtyLog.publish, hpublished]
      rfl
    case reader => exact ConPtyReader.statusAssertion_of_none hnone
    case exit =>
      apply h.exit_of_status
      · rw [ConPty.pending, ConPty.pending, howner]
        rfl
      · exact fun _ => rfl
      · rfl
    case coherent => exact h.coherent
    case loading => trivial
    case returned => exact fun houtside => absurd houtside Bool.false_ne_true
  | spawn output howner =>
    obtain ⟨hpublished, hrecorded⟩ := known howner
    have hnone := without howner rfl
    constructor
    case state => exact h.state
    case owner => exact .inr (.inr (.inl hpublished))
    case reader => exact ⟨hpublished, hrecorded⟩
    case exit =>
      apply h.exit_of_status
      · rw [ConPty.pending, ConPty.pending, howner, hnone]
        rfl
      · exact fun _ => rfl
      · rfl
    case coherent => exact h.coherent
    case loading => trivial
    case returned => exact fun _ hstarted => absurd rfl hstarted
  | fail howner =>
    obtain ⟨hpublished, hrecorded, hrunning⟩ := known howner
    have hnone := without howner rfl
    constructor
    case state => exact ConPty.store_state (.state .failed) h.state
    case owner =>
      refine .inr (.inl ?_)
      rw [show _ = (pty.store (.state .failed)).log.published from rfl, pty.store_log,
        ConPtyLog.publish, hpublished]
      rfl
    case reader => exact ConPtyReader.statusAssertion_of_none hnone
    case exit =>
      apply h.exit_of_status
      · rw [ConPty.pending, ConPty.pending, howner]
        rfl
      · exact fun _ => rfl
      · rfl
    case coherent => exact h.coherent.of_store (.state .failed)
    case loading => trivial
    case returned => exact fun _ _ => ⟨hnone, hrunning, rfl⟩
  | getStatus howner =>
    apply h.ownerMoves howner
    case hmembers | hlog | hreader | hpending => rfl
    case howner => exact id
    case hloading => exact fun hover => ⟨h.reader.past h.state hover, rfl⟩
    case hreturned => exact fun _ => outside howner rfl
  | loadExitCode state howner =>
    have hloaded := loaded howner
    apply h.ownerMoves howner
    case hmembers | hlog | hreader | hpending => rfl
    case howner => exact id
    case hloading =>
      intro hover
      obtain ⟨hpast, hstate⟩ := hloaded hover
      exact ⟨hpast, hstate, rfl⟩
    case hreturned => exact fun _ => outside howner rfl
  | loadExitSignal state exitCode howner =>
    have hloaded := loaded howner
    apply h.ownerMoves howner
    case hmembers | hlog | hreader | hpending => rfl
    case howner => exact id
    case hloading =>
      intro hover
      obtain ⟨hpast, hstate, hcode⟩ := hloaded hover
      exact ⟨hpast, hstate, hcode, rfl⟩
    case hreturned => exact fun _ => outside howner rfl
  | report state exitCode exitSignal howner =>
    have hloaded := loaded howner
    have hreturned := outside howner rfl
    constructor
    case state => exact h.state
    case owner => exact known howner
    case reader => exact h.reader.of_log rfl rfl
    case exit =>
      apply h.exit_of_status
      · rw [ConPty.pending, ConPty.pending, howner]
        rfl
      · exact fun _ => rfl
      · rfl
    case coherent =>
      refine ⟨h.coherent.once, fun report hmem => ?_⟩
      rcases List.mem_append.mp hmem with hold | hnew
      · exact h.coherent.reports report hold
      · cases List.mem_singleton.mp hnew
        refine ⟨List.suffix_refl _, fun hover => ?_⟩
        obtain ⟨hpast, -, rfl, rfl⟩ := hloaded hover
        exact h.exit_past hpast (by rw [howner]; rfl) state
    case loading => trivial
    case returned => exact fun _ => hreturned

/-! ## Steps of the reader -/

/-- A step of the reader while the owner relies on its assertions. -/
theorem readerMoves (h : ConPtyStatusInvariant pty) (halone : pty.owner.alone = false)
    (hactive : pty.reader ≠ .none) (howner : pty'.owner = pty.owner)
    (hstate : pty'.members.state = pty'.log.published.getLast?.getD .stopped)
    (hsettled : Settled pty.log.published → Settled pty'.log.published)
    (hreader : pty'.reader.StatusAssertion pty'.log)
    (hexit : ∀ state,
      (pty'.members.storeAll pty'.pending).status state = recordedCode state pty'.log.recorded)
    (hcoherent : pty'.log.Coherent)
    (hpast : pty.reader.past = true → pty'.reader.past = true ∧
      ∀ state, pty'.members.state = pty.members.state ∧
        pty'.members.status state = pty.members.status state)
    (hreturned : pty'.returned = pty.returned) : ConPtyStatusInvariant pty' := by
  constructor
  case state => exact hstate
  case owner =>
    rw [howner]
    exact h.owner.ofReader halone hsettled
  case reader => exact hreader
  case exit => exact hexit
  case coherent => exact hcoherent
  case loading =>
    rw [howner]
    exact h.loading.ofReader hpast
  case returned =>
    rw [howner, hreturned]
    intro houtside hnot
    exact absurd (h.returned houtside hnot).1 hactive

/-- The reader makes the first of its stores. -/
theorem exit_of_record (h : ConPtyStatusInvariant pty) (halone : pty.owner.alone = false)
    {first : AtomicStore} {rest : List AtomicStore} (hreader : pty.reader = .record first rest)
    (hmembers : pty'.members = pty.members.store first) (howner : pty'.owner = pty.owner)
    (hrecorded : pty'.log.recorded = pty.log.recorded) (hpending : pty'.reader.pending = rest)
    (state : TransportState) :
    (pty'.members.storeAll pty'.pending).status state =
      recordedCode state pty'.log.recorded := by
  have hexit := h.exit state
  rw [ConPty.pending, h.owner.pending halone, hreader] at hexit
  rw [ConPty.pending, howner, h.owner.pending halone, hpending, hmembers, hrecorded]
  exact hexit

/-- The reader moves and stores nothing. -/
theorem readerGoesOn (h : ConPtyStatusInvariant pty) (hhandles : HandleInvariant pty)
    {reader : ConPtyReader} (hat : pty.reader = reader) (hpast : reader.past = false)
    (hmembers : pty'.members = pty.members) (hlog : pty'.log = pty.log)
    (howner : pty'.owner = pty.owner) (hreturned : pty'.returned = pty.returned)
    (hpending : pty'.reader.pending = reader.pending)
    (hreader : reader.StatusAssertion pty.log → pty'.reader.StatusAssertion pty.log) :
    ConPtyStatusInvariant pty' := by
  have hknown := h.reader
  rw [hat] at hknown
  have hactive : pty.reader ≠ .none := by
    rw [hat]
    rintro rfl
    contradiction
  apply h.readerMoves (hhandles.not_alone hactive) hactive howner
  case hstate =>
    rw [hmembers, hlog]
    exact h.state
  case hsettled =>
    rw [hlog]
    exact id
  case hreader =>
    rw [hlog]
    exact hreader hknown
  case hexit =>
    apply h.exit_of_status
    · rw [ConPty.pending, ConPty.pending, howner, hpending, hat]
    · rw [hmembers]
      exact fun _ => rfl
    · rw [hlog]
  case hcoherent =>
    rw [hlog]
    exact h.coherent
  case hpast =>
    rw [hat, hpast]
    exact nofun
  case hreturned => exact hreturned

/-- A step of the reader, which records the exit code and publishes `Exited` after it. The owner is
not alone while it does so, and its assertion survives. -/
theorem readerStep {action : ConPtyReaderAction} (h : ConPtyStatusInvariant pty)
    (hhandles : HandleInvariant pty) (hstep : ConPtyReaderOutcome pty action pty') :
    ConPtyStatusInvariant pty' := by
  -- what the reader knows at its point
  have known : ∀ {reader}, pty.reader = reader → reader.StatusAssertion pty.log := by
    rintro _ rfl
    exact h.reader
  have active : ∀ {reader}, pty.reader = reader → reader.past = false →
      pty.owner.alone = false ∧ pty.reader ≠ .none := by
    rintro _ rfl hpast
    have hne : pty.reader ≠ .none := by
      intro hnone
      rw [hnone] at hpast
      contradiction
    exact ⟨hhandles.not_alone hne, hne⟩
  have notPast : ∀ {reader} {P : Prop}, pty.reader = reader → reader.past = false →
      pty.reader.past = true → P := by
    rintro _ P rfl hfalse htrue
    rw [hfalse] at htrue
    contradiction
  cases hstep with
  | leave _ hreader | enter _ hreader | received _ hreader | readFails _ hreader | exits hreader
  | found _ hreader | notFound hreader | waits _ hreader | waitsNot _ hreader | timesOut _ hreader
  | waited _ hreader | records _ hreader =>
    exact h.readerGoesOn hhandles hreader rfl rfl rfl rfl rfl rfl id
  | recordsNot _ hreader | noExitCode _ hreader =>
    exact h.readerGoesOn hhandles hreader rfl rfl rfl rfl rfl rfl And.left
  | stopped hreader =>
    exact h.readerGoesOn hhandles hreader rfl rfl rfl rfl rfl rfl (fun hknown => .inl hknown.1)
  | exitCode process code hreader =>
    obtain ⟨hpublished, hrecorded⟩ := known hreader
    have hexit := h.exit
    rw [ConPty.pending, hreader, h.owner.pending (active hreader rfl).1] at hexit
    apply h.readerMoves (active hreader rfl).1 (active hreader rfl).2
    case howner | hreturned => rfl
    case hstate => exact h.state
    case hsettled => exact id
    case hreader =>
      refine ⟨hpublished, ?_⟩
      simp [AtomicStore.ofExit]
    case hexit =>
      intro state
      have hsignal : pty.members.exitSignal = 0 :=
        congrArg TransportStatus.exitSignal (hexit state)
      rw [ConPty.pending]
      change (pty.members.storeAll (pty.owner.pending ++ _)).status state = _
      rw [h.owner.pending (active hreader rfl).1, recordedCode, ← hsignal]
      rfl
    case hcoherent => exact h.coherent.records hrecorded code
    case hpast => exact notPast hreader rfl
  | lastStore first hreader =>
    obtain ⟨hpublished, hexits⟩ := known hreader
    have hlog := pty.store_log_ofExit (hexits first List.mem_cons_self)
    apply h.readerMoves (active hreader rfl).1 (active hreader rfl).2
    case howner | hreturned => rfl
    case hstate => exact ConPty.store_state first h.state
    case hsettled =>
      rw [hlog]
      exact id
    case hreader =>
      rw [hlog]
      exact hpublished
    case hexit =>
      exact h.exit_of_record (active hreader rfl).1 hreader rfl rfl (congrArg _ hlog) rfl
    case hcoherent => exact h.coherent.of_store first
    case hpast => exact notPast hreader rfl
  | store first second rest hreader =>
    obtain ⟨hpublished, hexits⟩ := known hreader
    have hlog := pty.store_log_ofExit (hexits first List.mem_cons_self)
    apply h.readerMoves (active hreader rfl).1 (active hreader rfl).2
    case howner | hreturned => rfl
    case hstate => exact ConPty.store_state first h.state
    case hsettled =>
      rw [hlog]
      exact id
    case hreader =>
      rw [hlog]
      exact ⟨hpublished, fun store hmem => hexits store (List.mem_cons_of_mem _ hmem)⟩
    case hexit =>
      exact h.exit_of_record (active hreader rfl).1 hreader rfl rfl (congrArg _ hlog) rfl
    case hcoherent => exact h.coherent.of_store first
    case hpast => exact notPast hreader rfl
  | publish hreader =>
    have hpublished : pty.log.published = [.starting, .running] := known hreader
    have hexited : (pty.store (.state .exited)).log.published =
        [.starting, .running, .exited] := by
      rw [pty.store_log, ConPtyLog.publish, hpublished]
      rfl
    apply h.readerMoves (active hreader rfl).1 (active hreader rfl).2
    case howner | hreturned => rfl
    case hstate => exact ConPty.store_state (.state .exited) h.state
    case hsettled => exact fun _ => .inr (.inr (.inr (.inl hexited)))
    case hreader => exact .inr hexited
    case hexit =>
      apply h.exit_of_status
      · rw [ConPty.pending, ConPty.pending, hreader]
        rfl
      · exact fun _ => rfl
      · rfl
    case hcoherent => exact h.coherent.of_store (.state .exited)
    case hpast => exact notPast hreader rfl
  | clear hreader =>
    have hpublished := known hreader
    have hactive : pty.reader ≠ .none := by
      rw [hreader]
      simp
    apply h.readerMoves (hhandles.not_alone hactive) hactive
    case howner | hreturned => rfl
    case hstate => exact h.state
    case hsettled => exact id
    case hreader => exact hpublished
    case hexit =>
      apply h.exit_of_status
      · rw [ConPty.pending, ConPty.pending, hreader]
        rfl
      · exact fun _ => rfl
      · rfl
    case hcoherent => exact h.coherent.of_store (.running false)
    case hpast => exact fun _ => ⟨rfl, fun _ => ⟨rfl, rfl⟩⟩

end ConPtyStatusInvariant

/-- The assertions hold in every run. -/
theorem conPtyStatusInvariant_of_reachable {allowed : ConPty → ConPtyAction → Prop} {pty : ConPty}
    (hreachable : conPtySystem.Reachable allowed pty) : ConPtyStatusInvariant pty := by
  apply TransitionSystem.Reachable.invariant _ _ hreachable
  · rintro _ rfl
    exact {
      state := rfl
      owner := .inl rfl
      reader := trivial
      exit := fun _ => rfl
      coherent := ⟨Nat.zero_le 1, nofun⟩
      loading := trivial
      returned := fun _ _ => ⟨rfl, rfl, rfl⟩ }
  · intro pty action pty' hpty ih _ hstep
    have hhandles := handleInvariant_of_reachable hpty
    cases action with
    | owner action => exact ih.ownerStep hhandles (conPtyOwnerOutcome_of_step hstep)
    | reader action => exact ih.readerStep hhandles (conPtyReaderOutcome_of_step hstep)
    | caller action =>
      cases conPtyCallerOutcome_of_step hstep with
      | write | writeFile | resize | resizePseudoConsole | returns => exact { ih with }

/-- A step may end the session, whose log then joins those of earlier sessions. -/
theorem conPty_ended_of_step {pty pty' : ConPty} {action : ConPtyAction}
    (hstep : conPtySystem.step pty action pty') :
    pty'.ended = pty.ended ∨ pty'.ended = pty.log :: pty.ended := by
  cases action with
  | owner action =>
    cases conPtyOwnerOutcome_of_step hstep <;> first | exact .inl rfl | exact .inr rfl
  | reader action => cases conPtyReaderOutcome_of_step hstep <;> exact .inl rfl
  | caller action => cases conPtyCallerOutcome_of_step hstep <;> exact .inl rfl

/-- The assertion at any point bounds what was published before. -/
theorem ConPtyOwner.StatusAssertion.stateMoves {members : ConPtyMembers} {log : ConPtyLog}
    {owner : ConPtyOwner} (h : owner.StatusAssertion members log) : StateMoves log.published := by
  induction owner generalizing members log with
  | store first rest next ih => exact StateMoves.of_append (ih h.2)
  | calls first rest next ih => exact ih h
  | ready | moveOut | join | testValid | loadExitCode | loadExitSignal | loadExitCodeValid =>
    exact Settled.stateMoves h
  | getExitCode | loadState | stopped | begin => exact h.1.stateMoves
  | spawn =>
    rw [show log.published = [.starting, .running] from h.1]
    exact .inr (.inl (by decide))
  | _ =>
    rw [show log.published = [.starting] from h.1]
    exact .inl (by decide)

/-- What holds of the log of the current session held of those before it when they ended. -/
theorem conPtyLogs_of_reachable {allowed : ConPty → ConPtyAction → Prop} {pty : ConPty}
    (hreachable : conPtySystem.Reachable allowed pty) :
    ∀ log ∈ pty.log :: pty.ended, StateMoves log.published ∧ log.Coherent := by
  induction hreachable with
  | init hinit =>
    rw [show _ = ({} : ConPty) from hinit]
    intro log hlog
    rw [List.mem_singleton.mp hlog]
    exact ⟨Settled.stateMoves (.inl rfl), Nat.zero_le 1, nofun⟩
  | step hpty hallowed hstep ih =>
    have hstatus := conPtyStatusInvariant_of_reachable (.step hpty hallowed hstep)
    refine List.forall_mem_cons.mpr ⟨⟨hstatus.owner.stateMoves, hstatus.coherent⟩, ?_⟩
    rcases conPty_ended_of_step hstep with hended | hended
    · rw [hended]
      exact (List.forall_mem_cons.mp ih).2
    · rw [hended]
      exact ih

/-! ## The whole lifecycle -/

/-- The states of a session move forward only, the state being the one published last; one exit
code at most is recorded in a session, by whichever thread, and a report made when the session was
over has the exit values of that moment together. When `Stop` has returned, or a `Start` that
failed, there is no reader and the session is over. -/
theorem conPtyStatus_consistent {pty : ConPty}
    (hreachable : conPtySystem.Reachable AnyConPtyOrder pty) :
    (∀ log ∈ pty.log :: pty.ended, StateMoves log.published ∧ log.Coherent) ∧
      pty.members.state = pty.log.published.getLast?.getD .stopped ∧
      (pty.owner = .ready → pty.returned ≠ .started →
        pty.reader = .none ∧ pty.members.running = false ∧ pty.members.state.over = true) := by
  have hstatus := conPtyStatusInvariant_of_reachable hreachable
  refine ⟨conPtyLogs_of_reachable hreachable, hstatus.state, fun hready => ?_⟩
  apply hstatus.returned
  rw [hready]
  rfl

/-- The process exits with 3 while `GetStatus` loads: the first report has the code that the reader
has stored and no valid flag. The second is made after `Exited`, the third after `Stop`. -/
def reportsAroundExit : List ConPtyAction :=
  startConPty ++ [.reader .testLoop, .reader (.readFile false), .reader .testLeave,
    .reader .lookUp, .reader .testWait, .reader (.wait false), .reader .testRecord,
    .owner .getStatus, .reader (.getExitCode (some 3)), .reader .store, .owner .loadExitCode,
    .owner .loadExitSignal, .owner .loadExitCodeValid, .reader .store, .reader .publish,
    .owner .getStatus, .owner .loadExitCode, .owner .loadExitSignal, .owner .loadExitCodeValid,
    .reader .clear, .owner .stop, .owner .moveOut, .owner .call, .owner .call, .owner .call,
    .owner .join, .owner .call, .owner .call, .owner .call, .owner .call, .owner .testValid,
    .owner .call, .owner .call, .owner .store, .owner .loadState, .owner .returns,
    .owner .getStatus, .owner .loadExitCode, .owner .loadExitSignal, .owner .loadExitCodeValid]

theorem conPtyStatus_consistent_reportsAroundExit :
    ∃ pty : ConPty,
      pty.log.reports.map ConPtyReport.status =
        [⟨.running, 3, 0, false⟩, ⟨.exited, 3, 0, true⟩, ⟨.exited, 3, 0, true⟩] ∧
      (∀ log ∈ pty.log :: pty.ended, StateMoves log.published ∧ log.Coherent) ∧
      pty.members.state = pty.log.published.getLast?.getD .stopped ∧
      (pty.owner = .ready → pty.returned ≠ .started →
        pty.reader = .none ∧ pty.members.running = false ∧ pty.members.state.over = true) := by
  obtain ⟨pty, hrun, hreports⟩ : ∃ pty,
      TransitionSystem.runSteps ConPty.step {} reportsAroundExit = some pty ∧
        pty.log.reports.map ConPtyReport.status =
          [⟨.running, 3, 0, false⟩, ⟨.exited, 3, 0, true⟩, ⟨.exited, 3, 0, true⟩] :=
    ⟨_, rfl, rfl⟩
  exact ⟨pty, hreports, conPtyStatus_consistent (conPtyReachable_of_runSteps _ hrun)⟩

end SakuraTerminal.Transport
