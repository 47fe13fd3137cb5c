import SakuraTerminal.Transport.QueueBound

/-!
# No output is lost

Every byte of a session that the reader read was removed by one of the calls of the owner, or is
queued, or is still in the reader's hands, in this order (`OutputAccounted`). `TakeOutput` removes
as many bytes as its limit allows and returns them; `DiscardOutput` and `Start` remove what is
queued.

A step either leaves the ledger, the queue and the bytes in hand alone, or moves bytes from one of
these places to the next: the reader's read puts them in hand, its push queues them, and the owner's
three functions remove them. `LedgerInvariant` is one equation between the places, and the order of
its right side is what says that nothing is reordered.
-/

set_option autoImplicit false

namespace SakuraTerminal.Transport

open SakuraTerminal.Foundations
open SakuraTerminal.Foundations.TransitionSystem

/-- Bytes read and not yet queued. -/
def ReaderState.held : ReaderState → List UInt8
  | .received data => data
  | _ => []

/-- The bytes that left the queue, in order. Calls that found nothing are in the ledger too, with an
empty list. -/
def Ledger.removed (ledger : Ledger) : List UInt8 := ledger.removals.flatMap Removal.removed

/-- The bytes `TakeOutput` returned, in order. -/
def Ledger.taken (ledger : Ledger) : List UInt8 :=
  ledger.removals.flatMap fun removal =>
    match removal.remover with
    | .takeOutput _ => removal.removed
    | .discardOutput | .start => []

/-- What a call removes is determined by what is queued when it holds the lock. `TakeOutput` takes a
prefix as long as its limit, and the other two take everything. -/
def Removal.Exact (removal : Removal) : Prop :=
  match removal.remover with
  | .takeOutput maxBytes =>
    removal.removed = removal.queued.take maxBytes ∧
      removal.removed.length = min maxBytes removal.queued.length
  | .discardOutput | .start => removal.removed = removal.queued

/-- The ledger of a session that a later `Start` ended: all bytes read were removed, the last of
them by this `Start`. No byte of an earlier session reaches a later one. -/
structure Ledger.Ended (ledger : Ledger) : Prop where
  read_eq : ledger.read = ledger.removed
  exact : ∀ removal ∈ ledger.removals, removal.Exact
  last : ∃ earlier queued, ledger.removals = earlier ++ [⟨.start, queued, queued⟩]

/-- All bytes read are accounted for, in this session and in those before it. -/
structure LedgerInvariant (session : Session) : Prop where
  read_eq : session.ledger.read = session.ledger.removed ++ session.queued ++ session.reader.held
  exact : ∀ removal ∈ session.ledger.removals, removal.Exact
  /-- `TakeOutput` returns the bytes it removed. -/
  returned : ∀ taken pending, session.owner = .subtracting taken pending →
    ∃ earlier maxBytes queued, session.ledger.removals =
      earlier ++ [⟨.takeOutput maxBytes, queued, pending.flatten⟩]
  ended : ∀ ledger ∈ session.ended, ledger.Ended

/-! ## One removal -/

/-- The ledger with one more removal. -/
def Ledger.remove (ledger : Ledger) (remover : Remover) (queued removed : List UInt8) : Ledger :=
  { ledger with removals := ledger.removals ++ [⟨remover, queued, removed⟩] }

@[simp]
theorem Ledger.removed_remove (ledger : Ledger) (remover : Remover) (queued removed : List UInt8) :
    (ledger.remove remover queued removed).removed = ledger.removed ++ removed := by
  simp [Ledger.removed, Ledger.remove]

@[simp]
theorem Ledger.taken_takeOutput (ledger : Ledger) (maxBytes : Nat) (queued removed : List UInt8) :
    (ledger.remove (.takeOutput maxBytes) queued removed).taken = ledger.taken ++ removed := by
  simp [Ledger.taken, Ledger.remove]

@[simp]
theorem Ledger.taken_discardOutput (ledger : Ledger) (queued removed : List UInt8) :
    (ledger.remove .discardOutput queued removed).taken = ledger.taken := by
  simp [Ledger.taken, Ledger.remove]

theorem Ledger.exact_remove {ledger : Ledger} {remover : Remover} {queued removed : List UInt8}
    (hexact : ∀ removal ∈ ledger.removals, removal.Exact)
    (hnew : Removal.Exact ⟨remover, queued, removed⟩) :
    ∀ removal ∈ (ledger.remove remover queued removed).removals, removal.Exact := by
  intro removal hremoval
  cases List.mem_append.mp hremoval with
  | inl hold => exact hexact removal hold
  | inr hlast =>
    rw [List.mem_singleton.mp hlast]
    exact hnew

/-- The bytes `TakeOutput` returns are the first of the queue. -/
theorem Session.ledger_takes (session : Session) (maxBytes : Nat) :
    (session.takes maxBytes).ledger =
      session.ledger.remove (.takeOutput maxBytes) session.queued
        (session.queued.take maxBytes) := by
  have hpending := (takeChunks_spec maxBytes 0 session.output).1
  rw [Nat.sub_zero] at hpending
  change session.ledger.remove _ _ (takeChunks maxBytes 0 session.output).1.flatten = _
  rw [hpending]
  rfl

theorem Session.ledger_discards (session : Session) :
    session.discards.ledger =
      session.ledger.remove .discardOutput session.queued session.queued := rfl

theorem Session.ended_clears (session : Session) :
    session.clears.ended =
      session.ledger.remove .start session.queued session.queued :: session.ended := rfl

theorem Removal.exact_takeOutput (maxBytes : Nat) (queued : List UInt8) :
    Removal.Exact ⟨.takeOutput maxBytes, queued, queued.take maxBytes⟩ := by
  constructor
  · rfl
  · exact List.length_take

/-! ## Preservation -/

namespace LedgerInvariant

variable {session : Session}

/-- Steps that leave ledger, queue and the bytes in hand alone. -/
theorem keep (h : LedgerInvariant session) {session' : Session}
    (hledger : session'.ledger = session.ledger) (hqueued : session'.queued = session.queued)
    (hheld : session'.reader.held = session.reader.held) (hended : session'.ended = session.ended)
    (howner : ∀ taken pending, session'.owner = .subtracting taken pending →
      session.owner = .subtracting taken pending) : LedgerInvariant session' where
  read_eq := by
    rw [hledger, hqueued, hheld]
    exact h.read_eq
  exact := by
    rw [hledger]
    exact h.exact
  returned := by
    intro taken pending hsubtracting
    rw [hledger]
    exact h.returned taken pending (howner taken pending hsubtracting)
  ended := by
    rw [hended]
    exact h.ended

/-- What was read is in the reader's hands. -/
theorem reads (h : LedgerInvariant session) {queued : UInt64}
    (hreader : session.reader = .reading queued) (data : List UInt8) :
    LedgerInvariant
      { session with
        reader := .received data
        ledger := { session.ledger with read := session.ledger.read ++ data } } where
  read_eq := by
    change session.ledger.read ++ data = session.ledger.removed ++ session.queued ++ data
    -- a reader about to read has nothing in hand, so the new bytes are the last ones
    rw [h.read_eq, hreader]
    simp [ReaderState.held]
  exact := h.exact
  returned := h.returned
  ended := h.ended

theorem pushes (h : LedgerInvariant session) {data : List UInt8}
    (hreader : session.reader = .received data) : LedgerInvariant (session.pushes data) where
  read_eq := by
    rw [Session.queued_pushes]
    change session.ledger.read = session.ledger.removed ++ (session.queued ++ data) ++ []
    -- the bytes in hand move to the end of the queue
    rw [h.read_eq, hreader, List.append_nil, List.append_assoc]
    rfl
  exact := h.exact
  returned := h.returned
  ended := h.ended

/-- The bytes that leave the front of the queue are added to the removals, so their order is
kept. -/
theorem takes (h : LedgerInvariant session) (maxBytes : Nat) :
    LedgerInvariant (session.takes maxBytes) where
  read_eq := by
    rw [Session.queued_takes, Session.ledger_takes, Ledger.removed_remove]
    change session.ledger.read = _ ++ _ ++ _ ++ session.reader.held
    -- what was taken and what is left are the old queue
    rw [List.append_assoc session.ledger.removed, List.take_append_drop]
    exact h.read_eq
  exact := by
    rw [Session.ledger_takes]
    exact Ledger.exact_remove h.exact (Removal.exact_takeOutput _ _)
  returned := by
    intro taken pending howner
    obtain ⟨pending', howner', hpending⟩ := session.owner_takes maxBytes
    -- the owner carries exactly the bytes of the last removal
    rw [howner'] at howner
    cases howner
    rw [Session.ledger_takes, hpending]
    exact ⟨session.ledger.removals, maxBytes, session.queued, rfl⟩
  ended := h.ended

/-- The whole queue is removed at once. -/
theorem discards (h : LedgerInvariant session) (howner : session.owner = .ready) :
    LedgerInvariant session.discards where
  read_eq := by
    rw [Session.ledger_discards, Ledger.removed_remove, Session.queued_discards, List.append_nil]
    exact h.read_eq
  exact := by
    rw [Session.ledger_discards]
    apply Ledger.exact_remove h.exact
    rfl
  returned := by
    intro taken pending hsubtracting
    rw [show session.owner = .subtracting taken pending from hsubtracting] at howner
    contradiction
  ended := h.ended

/-- With the reader joined nothing is in hand, and `Start` removes the rest. -/
theorem clears (h : LedgerInvariant session) (hreader : session.reader = .none) :
    LedgerInvariant session.clears where
  read_eq := by
    rw [Session.queued_clears]
    change [] = [] ++ [] ++ session.reader.held
    rw [hreader]
    rfl
  exact := by
    intro removal hremoval
    contradiction
  returned := by
    intro taken pending howner
    contradiction
  ended := by
    rw [Session.ended_clears]
    intro ledger hledger
    -- the ledger that ends now is the first one; the others ended before
    cases List.mem_cons.mp hledger with
    | inl hlast =>
      subst hlast
      constructor
      · rw [Ledger.removed_remove]
        change session.ledger.read = _
        -- nothing is in hand, so what was read is what was removed and what is queued
        rw [h.read_eq, hreader]
        exact List.append_nil _
      · apply Ledger.exact_remove h.exact
        rfl
      · exact ⟨session.ledger.removals, session.queued, rfl⟩
    | inr hearlier => exact h.ended ledger hearlier

/-- Every step preserves the invariant; the queue invariant says that `Start` clears alone. -/
theorem step (h : LedgerInvariant session) (hqueue : QueueInvariant session) {backend : Backend}
    {action : Action} {session' : Session} (hstep : session.step backend action = some session') :
    LedgerInvariant session' := by
  have kept : ∀ taken pending, session.owner = .subtracting taken pending →
    session.owner = .subtracting taken pending := fun _ _ howner => howner
  cases outcome_of_step hstep with
  | testStop hreader =>
    refine h.keep rfl rfl ?_ rfl kept
    rw [hreader]
    -- both branches of the test hold nothing
    change ReaderState.held (if session.stopRequested then _ else _) = _
    split <;> rfl
  | waits hreader hfull =>
    refine h.keep rfl rfl ?_ rfl kept
    rw [hreader]
    rfl
  | loads hreader hroom =>
    refine h.keep rfl rfl ?_ rfl kept
    rw [hreader]
    rfl
  | readNothing queued hreader hposix =>
    refine h.keep rfl rfl ?_ rfl kept
    rw [hreader]
    rfl
  | readFails queued hreader =>
    refine h.keep rfl rfl ?_ rfl kept
    rw [hreader]
    rfl
  | reads queued data hreader hsome hfits => exact h.reads hreader data
  | pushes data hreader => exact h.pushes hreader
  | leaves hreader =>
    refine h.keep rfl rfl ?_ rfl kept
    rw [hreader]
    change ReaderState.held (if session.stopRequested then _ else _) = _
    split <;> rfl
  | publishes hreader =>
    refine h.keep rfl rfl ?_ rfl kept
    rw [hreader]
    rfl
  | takes maxBytes howner => exact h.takes maxBytes
  | subtracts taken pending howner => exact h.keep rfl rfl rfl rfl fun _ _ heq => nomatch heq
  | discards howner => exact h.discards howner
  | stops restart howner => exact h.keep rfl rfl rfl rfl fun _ _ heq => nomatch heq
  | joins restart howner hreader =>
    refine h.keep rfl rfl ?_ rfl ?_
    · -- a reader that is joined has nothing in hand
      cases hreader with
      | inl hnone => rw [hnone]
      | inr hfinished =>
        rw [hfinished]
        rfl
    · intro taken pending heq
      change (if restart then OwnerState.clearing else .ready) = _ at heq
      split at heq <;> contradiction
  | clears howner =>
    -- `Start` joined the reader before it clears the queue
    apply h.clears
    apply hqueue.alone
    rw [howner]
    rfl
  | stores howner => exact h.keep rfl rfl rfl rfl fun _ _ heq => nomatch heq
  | spawns howner =>
    refine h.keep rfl rfl ?_ rfl fun _ _ heq => nomatch heq
    -- there was no reader, and the new one has nothing in hand
    have hnone := hqueue.alone (by rw [howner]; rfl)
    rw [hnone]
    rfl
  | spawnFails howner => exact h.keep rfl rfl rfl rfl fun _ _ heq => nomatch heq

theorem initial : LedgerInvariant {} where
  read_eq := rfl
  exact := fun _ hremoval => nomatch hremoval
  returned := fun _ _ howner => nomatch howner
  ended := fun _ hledger => nomatch hledger

/-- The invariant holds under every interleaving. -/
theorem reachable {backend : Backend} (h : Reachable (sessionSystem backend) AnyOrder session) :
    LedgerInvariant session := by
  refine Reachable.invariant (I := LedgerInvariant) ?_ ?_ h
  · rintro _ rfl
    exact initial
  · intro _ _ _ hreachable hinvariant _ hstep
    exact hinvariant.step (.reachable hreachable) hstep

end LedgerInvariant

/-! ## The contract -/

/-- What the transport promises about its output. The parts beyond the ledger say what `Stop` and
`Start` do to it. -/
structure OutputAccounted (backend : Backend) (session : Session) : Prop extends
    LedgerInvariant session where
  /-- `Stop` removes nothing, whether it was called alone or by `Start`. -/
  stop_keeps : ∀ action ∈ [Action.stop true, .stop false, .join], ∀ session',
    session.step backend action = some session' →
      session'.queued = session.queued ∧ session'.ledger = session.ledger
  /-- After `Stop` the owner can take what is queued, which is all that was read and not removed. -/
  stop_drainable : session.owner = .stopping false → ∀ session',
    session.step backend .join = some session' →
      session'.ledger.read = session'.ledger.removed ++ session'.queued ∧
      ∀ maxBytes, ∃ pending, pending.flatten = session.queued.take maxBytes ∧
        (session'.step backend (.takeOutput maxBytes)).map Session.owner =
          some (.subtracting (session.queued.take maxBytes).length pending)
  /-- `Start` removes exactly what is queued when it clears the queue. -/
  start_discards : ∀ session', session.step backend .clearOutput = some session' →
    session'.queued = [] ∧ session'.ended =
      session.ledger.remove .start session.queued session.queued :: session.ended

/-- Three bytes were read, two taken, and `Stop` waits for the reader. -/
def stoppingSession : Session :=
  { output := [[3]]
    queuedBytes := 1
    maxQueuedBytes := 3
    stopRequested := true
    state := .running
    reader := .finished
    owner := .stopping false
    ledger := { read := [1, 2, 3], removals := [⟨.takeOutput 2, [1, 2, 3], [1, 2]⟩] }
    ended := [{ removals := [⟨.start, [], []⟩] }] }

end SakuraTerminal.Transport
