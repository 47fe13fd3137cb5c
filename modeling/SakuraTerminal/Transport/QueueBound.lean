import SakuraTerminal.Transport.Session

/-!
# The queue bound

The reader loads `queued_bytes_` without the lock, and the owner subtracts what it took after it
released the lock. `QueueInvariant` says what keeps both harmless: until the subtraction the
counter still contains the bytes taken, and what the reader loaded is never below the counter,
since only the reader itself adds to it.

The counter has 64 bits and is compared with the length of the queue as a number, so the arithmetic
lemmas come first: below the maximum nothing wraps. A step lemma for each critical section follows,
and the run lemma puts them together. What the reader loaded may be out of date by the time it
reads, but only in one direction, as the owner does nothing but subtract; a capacity computed from
an old counter is therefore too small and never too large.
-/

set_option autoImplicit false

namespace SakuraTerminal.Transport

open SakuraTerminal.Foundations
open SakuraTerminal.Foundations.TransitionSystem

/-- Bytes that left the queue and are still counted. They are subtracted after the lock was
released. -/
def OwnerState.uncounted : OwnerState → Nat
  | .subtracting taken _ => taken
  | _ => 0

/-- The owner states in which the reader was joined and no new one exists. -/
def OwnerState.alone : OwnerState → Bool
  | .clearing | .storing | .starting => true
  | _ => false

/-- The counter covers the queue at every point of either thread, and what the reader has in hand
fits behind it. -/
structure QueueInvariant (session : Session) : Prop where
  counted : session.owner ≠ .storing →
    session.queuedBytes.toNat = session.queued.length + session.owner.uncounted
  storing : session.owner = .storing → session.output = []
  bounded : session.queuedBytes ≤ maximumQueuedOutputBytes
  /-- What the reader loaded is at least the counter, and leaves room. -/
  loaded : ∀ queued, session.reader = .reading queued →
    session.queuedBytes ≤ queued ∧ queued < maximumQueuedOutputBytes
  /-- Bytes read and not yet queued have room. -/
  fits : ∀ data, session.reader = .received data → 0 < data.length ∧
    session.queuedBytes.toNat + data.length ≤ maximumQueuedOutputBytes.toNat
  recorded : session.maxQueuedBytes ≤ maximumQueuedOutputBytes
  alone : session.owner.alone = true → session.reader = .none

/-! ## Arithmetic of the counter -/

theorem maximumQueuedOutputBytes_toNat : maximumQueuedOutputBytes.toNat = 1048576 := rfl

theorem UInt64.le_maximum {value : UInt64} :
    value ≤ maximumQueuedOutputBytes ↔ value.toNat ≤ 1048576 := by
  rw [UInt64.le_iff_toNat_le, maximumQueuedOutputBytes_toNat]

theorem toNat_toUInt64 {n : Nat} (hn : n ≤ 1048576) : n.toUInt64.toNat = n := by
  apply UInt64.toNat_ofNat_of_lt'
  exact Nat.lt_of_le_of_lt hn (by decide)

/-- Below the maximum the counter does not wrap. -/
theorem toNat_add_toUInt64 {value : UInt64} {n : Nat} (hfits : value.toNat + n ≤ 1048576) :
    (value + n.toUInt64).toNat = value.toNat + n := by
  rw [UInt64.toNat_add, toNat_toUInt64 (Nat.le_trans (Nat.le_add_left n _) hfits)]
  apply Nat.mod_eq_of_lt
  exact Nat.lt_of_le_of_lt hfits (by decide)

theorem toNat_sub_toUInt64 {value : UInt64} {n : Nat} (hle : n ≤ value.toNat)
    (hvalue : value ≤ maximumQueuedOutputBytes) :
    (value - n.toUInt64).toNat = value.toNat - n := by
  have hn : n.toUInt64.toNat = n := toNat_toUInt64 (Nat.le_trans hle (UInt64.le_maximum.mp hvalue))
  rw [UInt64.toNat_sub_of_le, hn]
  rw [UInt64.le_iff_toNat_le, hn]
  exact hle

/-- Bytes that fit the capacity computed from a loaded counter fit the queue. -/
theorem add_le_of_le_readCapacity {value queued : UInt64} {n : Nat} (hle : value ≤ queued)
    (hroom : queued < maximumQueuedOutputBytes) (hn : n ≤ readCapacity queued) :
    value.toNat + n ≤ maximumQueuedOutputBytes.toNat := by
  -- the capacity is at most the room above the loaded counter
  have hcapacity : n ≤ (maximumQueuedOutputBytes - queued).toNat :=
    Nat.le_trans hn (Nat.min_le_right _ _)
  rw [UInt64.toNat_sub_of_le _ _ (UInt64.le_of_lt hroom)] at hcapacity
  have hvalue : value.toNat ≤ queued.toNat := UInt64.le_iff_toNat_le.mp hle
  have hlt : queued.toNat < maximumQueuedOutputBytes.toNat := UInt64.lt_iff_toNat_lt.mp hroom
  -- the current counter is not above the loaded one, so its room is no smaller
  omega

theorem recordMaximum_le {maximum value : UInt64} (hmaximum : maximum ≤ maximumQueuedOutputBytes)
    (hvalue : value ≤ maximumQueuedOutputBytes) :
    recordMaximum maximum value ≤ maximumQueuedOutputBytes := by
  rw [recordMaximum]
  split
  · exact hvalue
  · exact hmaximum

/-! ## The critical sections -/

@[simp]
theorem Session.queued_pushes (session : Session) (data : List UInt8) :
    (session.pushes data).queued = session.queued ++ data := by
  simp [Session.pushes, Session.queued]

@[simp]
theorem Session.queued_takes (session : Session) (maxBytes : Nat) :
    (session.takes maxBytes).queued = session.queued.drop maxBytes := by
  have h := (takeChunks_spec maxBytes 0 session.output).2.1
  rw [Nat.sub_zero] at h
  exact h

/-- `TakeOutput` counts what it returns. -/
theorem Session.owner_takes (session : Session) (maxBytes : Nat) :
    ∃ pending, (session.takes maxBytes).owner =
        .subtracting (session.queued.take maxBytes).length pending ∧
      pending.flatten = session.queued.take maxBytes := by
  obtain ⟨hpending, -, htaken⟩ := takeChunks_spec maxBytes 0 session.output
  rw [Nat.sub_zero] at hpending
  refine ⟨(takeChunks maxBytes 0 session.output).1, ?_, hpending⟩
  change OwnerState.subtracting _ _ = _
  rw [htaken, hpending, Nat.zero_add]
  rfl

@[simp]
theorem Session.queued_discards (session : Session) : session.discards.queued = [] := rfl

@[simp]
theorem Session.queued_clears (session : Session) : session.clears.queued = [] := rfl

/-! ## Preservation -/

namespace QueueInvariant

variable {session : Session}

/-- A reader with nothing loaded and nothing in hand asks for nothing. -/
theorem setReader (h : QueueInvariant session) (reader : ReaderState)
    (hread : ∀ queued, reader ≠ .reading queued) (hreceived : ∀ data, reader ≠ .received data)
    (halone : session.owner.alone = true → reader = .none) :
    QueueInvariant { session with reader } where
  counted := h.counted
  storing := h.storing
  bounded := h.bounded
  loaded := fun queued heq => absurd heq (hread queued)
  fits := fun data heq => absurd heq (hreceived data)
  recorded := h.recorded
  alone := halone

/-- The owner moves on without touching queue or counter. -/
theorem setOwner (h : QueueInvariant session) (owner : OwnerState)
    (hready : session.owner.uncounted = 0) (huncounted : owner.uncounted = 0)
    (hstoring : session.owner ≠ .storing ∧ owner ≠ .storing)
    (halone : owner.alone = true → session.reader = .none) :
    QueueInvariant { session with owner } where
  counted := fun _ => by
    change session.queuedBytes.toNat = session.queued.length + owner.uncounted
    rw [h.counted hstoring.1, hready, huncounted]
  storing := fun heq => absurd heq hstoring.2
  bounded := h.bounded
  loaded := h.loaded
  fits := h.fits
  recorded := h.recorded
  alone := halone

/-- What the reader has in hand was read with a capacity that leaves room for it. -/
theorem pushes (h : QueueInvariant session) {data : List UInt8}
    (hreader : session.reader = .received data) : QueueInvariant (session.pushes data) := by
  have hfits := (h.fits data hreader).2
  rw [maximumQueuedOutputBytes_toNat] at hfits
  -- the bytes in hand have room, so the counter does not wrap
  have hcounter := toNat_add_toUInt64 hfits
  have hbounded : session.queuedBytes + data.length.toUInt64 ≤ maximumQueuedOutputBytes := by
    rw [UInt64.le_maximum, hcounter]
    exact hfits
  constructor
  case counted =>
    intro howner
    rw [Session.queued_pushes, List.length_append]
    change (session.queuedBytes + data.length.toUInt64).toNat = _
    -- queue and counter grow by the same bytes; those of a running `TakeOutput` stay counted
    rw [hcounter, h.counted howner]
    exact Nat.add_right_comm _ _ _
  case storing =>
    intro howner
    -- a reader with bytes in hand was not joined
    have hnone := h.alone (by rw [show session.owner = .storing from howner]; rfl)
    rw [hreader] at hnone
    contradiction
  case bounded => exact hbounded
  case loaded =>
    intro queued heq
    contradiction
  case fits =>
    intro data' heq
    contradiction
  case recorded => exact recordMaximum_le h.recorded hbounded
  case alone =>
    intro halone
    have hnone := h.alone halone
    rw [hreader] at hnone
    contradiction

/-- The bytes taken leave the queue and stay in the counter until the subtraction. -/
theorem takes (h : QueueInvariant session) (howner : session.owner = .ready) (maxBytes : Nat) :
    QueueInvariant (session.takes maxBytes) := by
  obtain ⟨pending, htakes, -⟩ := session.owner_takes maxBytes
  have hcounted := h.counted (by rw [howner]; exact OwnerState.noConfusion)
  rw [howner] at hcounted
  constructor
  case counted =>
    intro _
    rw [Session.queued_takes, htakes]
    change session.queuedBytes.toNat = _ + (session.queued.take maxBytes).length
    -- what left the queue is now uncounted, and the counter still contains it
    rw [hcounted, Nat.add_comm _ (List.length _), ← List.length_append, List.take_append_drop]
    rfl
  case storing =>
    intro heq
    rw [htakes] at heq
    contradiction
  case bounded => exact h.bounded
  case loaded => exact h.loaded
  case fits => exact h.fits
  case recorded => exact h.recorded
  case alone =>
    intro heq
    rw [htakes] at heq
    contradiction

/-- The counter contains what is subtracted, so the difference does not wrap. -/
theorem subtracts (h : QueueInvariant session) {taken : Nat} {pending : List (List UInt8)}
    (howner : session.owner = .subtracting taken pending) :
    QueueInvariant
      { session with queuedBytes := session.queuedBytes - taken.toUInt64, owner := .ready } := by
  have hcounted := h.counted (by rw [howner]; exact OwnerState.noConfusion)
  rw [howner] at hcounted
  change _ = _ + taken at hcounted
  -- the bytes taken are part of the counter, so `fetch_sub` does not pass 0
  have hcounter := toNat_sub_toUInt64 (n := taken) (by omega) h.bounded
  have hle : session.queuedBytes - taken.toUInt64 ≤ session.queuedBytes := by
    rw [UInt64.le_iff_toNat_le, hcounter]
    exact Nat.sub_le _ _
  constructor
  case counted =>
    intro _
    change (session.queuedBytes - taken.toUInt64).toNat = session.queued.length + 0
    omega
  case storing =>
    intro heq
    contradiction
  case bounded => exact UInt64.le_trans hle h.bounded
  case loaded =>
    -- the counter only falls under what the reader loaded
    intro queued hreader
    exact ⟨UInt64.le_trans hle (h.loaded queued hreader).1, (h.loaded queued hreader).2⟩
  case fits =>
    intro data hreader
    obtain ⟨hsome, hfits⟩ := h.fits data hreader
    refine ⟨hsome, ?_⟩
    -- bytes in hand fit all the more
    change (session.queuedBytes - taken.toUInt64).toNat + data.length ≤ _
    omega
  case recorded => exact h.recorded
  case alone =>
    intro heq
    contradiction

/-- The counter is stored under the same lock as the queue is cleared. -/
theorem discards (h : QueueInvariant session) (howner : session.owner = .ready) :
    QueueInvariant session.discards := by
  constructor
  case counted =>
    intro _
    rw [Session.queued_discards]
    -- queue and counter are emptied in one critical section
    change (0 : UInt64).toNat = 0 + session.owner.uncounted
    rw [howner]
    rfl
  case storing =>
    intro heq
    rfl
  case bounded => exact UInt64.zero_le
  case loaded =>
    intro queued hreader
    exact ⟨UInt64.zero_le, (h.loaded queued hreader).2⟩
  case fits =>
    intro data hreader
    obtain ⟨hsome, hfits⟩ := h.fits data hreader
    refine ⟨hsome, ?_⟩
    -- bytes in hand are queued after the call
    change 0 + data.length ≤ _
    omega
  case recorded => exact h.recorded
  case alone => exact h.alone

/-- The queue is empty and the counter is not stored yet; the reader was joined. -/
theorem clears (h : QueueInvariant session) (howner : session.owner = .clearing) :
    QueueInvariant session.clears := by
  have hnone : session.reader = .none := h.alone (by rw [howner]; rfl)
  constructor
  case counted =>
    intro hne
    -- until 0 is stored the counter is stale, and there is no reader to see it
    exact absurd rfl hne
  case storing =>
    intro _
    rfl
  case bounded => exact h.bounded
  case loaded => exact h.loaded
  case fits => exact h.fits
  case recorded => exact h.recorded
  case alone =>
    intro _
    exact hnone

/-- Both agree again. -/
theorem stores (h : QueueInvariant session) (howner : session.owner = .storing) :
    QueueInvariant { session with queuedBytes := 0, state := .starting, owner := .starting } := by
  have hnone : session.reader = .none := h.alone (by rw [howner]; rfl)
  constructor
  case counted =>
    intro _
    change (0 : UInt64).toNat = session.output.flatten.length + 0
    rw [h.storing howner]
    rfl
  case storing =>
    intro heq
    contradiction
  case bounded => exact UInt64.zero_le
  case loaded =>
    intro queued hreader
    rw [show session.reader = .reading queued from hreader] at hnone
    contradiction
  case fits =>
    intro data hreader
    rw [show session.reader = .received data from hreader] at hnone
    contradiction
  case recorded => exact h.recorded
  case alone =>
    intro _
    exact hnone

/-- Every step preserves the invariant. -/
theorem step (h : QueueInvariant session) {backend : Backend} {action : Action} {session' : Session}
    (hstep : session.step backend action = some session') : QueueInvariant session' := by
  -- a step of the reader means that it exists, so the owner is not alone
  have running : ∀ {reader}, session.reader = reader → reader ≠ .none →
      session.owner.alone = true → False := by
    intro reader hreader hne halone
    exact hne (hreader ▸ h.alone halone)
  cases outcome_of_step hstep with
  | testStop hreader =>
    apply h.setReader
    · intro queued
      split <;> exact ReaderState.noConfusion
    · intro data
      split <;> exact ReaderState.noConfusion
    · intro halone
      exact (running hreader ReaderState.noConfusion halone).elim
  | waits hreader hfull =>
    apply h.setReader
    · exact fun _ => ReaderState.noConfusion
    · exact fun _ => ReaderState.noConfusion
    · exact fun halone => (running hreader ReaderState.noConfusion halone).elim
  | loads hreader hroom =>
    -- the loaded value is the counter itself
    exact
      { counted := h.counted
        storing := h.storing
        bounded := h.bounded
        loaded := by
          rintro queued ⟨⟩
          exact ⟨UInt64.le_refl _, hroom⟩
        fits := fun data heq => nomatch heq
        recorded := h.recorded
        alone := fun halone => (running hreader ReaderState.noConfusion halone).elim }
  | readNothing queued hreader hposix =>
    apply h.setReader
    · exact fun _ => ReaderState.noConfusion
    · exact fun _ => ReaderState.noConfusion
    · exact fun halone => (running hreader ReaderState.noConfusion halone).elim
  | readFails queued hreader =>
    apply h.setReader
    · exact fun _ => ReaderState.noConfusion
    · exact fun _ => ReaderState.noConfusion
    · exact fun halone => (running hreader ReaderState.noConfusion halone).elim
  | reads queued data hreader hsome hfits =>
    -- the counter may have fallen since it was loaded, and the read still fits
    obtain ⟨hle, hroom⟩ := h.loaded queued hreader
    exact
      { counted := h.counted
        storing := h.storing
        bounded := h.bounded
        loaded := fun queued' heq => nomatch heq
        fits := by
          rintro data' ⟨⟩
          exact ⟨hsome, add_le_of_le_readCapacity hle hroom hfits⟩
        recorded := h.recorded
        alone := fun halone => (running hreader ReaderState.noConfusion halone).elim }
  | pushes data hreader => exact h.pushes hreader
  | leaves hreader =>
    apply h.setReader
    · intro queued
      split <;> exact ReaderState.noConfusion
    · intro data
      split <;> exact ReaderState.noConfusion
    · exact fun halone => (running hreader ReaderState.noConfusion halone).elim
  | publishes hreader =>
    have hfinished := h.setReader .finished (fun _ => ReaderState.noConfusion)
      (fun _ => ReaderState.noConfusion)
      (fun halone => (running hreader ReaderState.noConfusion halone).elim)
    exact { hfinished with }
  | takes maxBytes howner => exact h.takes howner maxBytes
  | subtracts taken pending howner => exact h.subtracts howner
  | discards howner => exact h.discards howner
  | stops restart howner =>
    have hstopping := h.setOwner (.stopping restart) (by rw [howner]; rfl) rfl
      ⟨by rw [howner]; exact OwnerState.noConfusion, OwnerState.noConfusion⟩
      (fun halone => nomatch halone)
    exact { hstopping with }
  | joins restart howner hreader =>
    -- the joined reader has nothing loaded and nothing in hand
    have hjoined := h.setReader .none (fun _ => ReaderState.noConfusion)
      (fun _ => ReaderState.noConfusion) (fun _ => rfl)
    have hreturned := hjoined.setOwner (if restart then .clearing else .ready)
      (by change session.owner.uncounted = 0; rw [howner]; rfl)
      (by split <;> rfl)
      ⟨by change session.owner ≠ .storing; rw [howner]; exact OwnerState.noConfusion,
        by split <;> exact OwnerState.noConfusion⟩ (fun _ => rfl)
    exact { hreturned with }
  | clears howner => exact h.clears howner
  | stores howner => exact h.stores howner
  | spawns howner =>
    have hready := h.setOwner .ready (by rw [howner]; rfl) rfl
      ⟨by rw [howner]; exact OwnerState.noConfusion, OwnerState.noConfusion⟩
      (fun halone => nomatch halone)
    -- the new reader starts at the loop with nothing loaded
    have hloop := hready.setReader .loop (fun _ => ReaderState.noConfusion)
      (fun _ => ReaderState.noConfusion) (fun halone => nomatch halone)
    exact { hloop with }
  | spawnFails howner =>
    have hready := h.setOwner .ready (by rw [howner]; rfl) rfl
      ⟨by rw [howner]; exact OwnerState.noConfusion, OwnerState.noConfusion⟩
      (fun halone => nomatch halone)
    exact { hready with }

theorem initial : QueueInvariant {} where
  counted := fun _ => rfl
  storing := fun _ => rfl
  bounded := by decide
  loaded := fun queued heq => nomatch heq
  fits := fun data heq => nomatch heq
  recorded := by decide
  alone := fun _ => rfl

/-- The invariant holds under every interleaving. -/
theorem reachable {backend : Backend} (h : Reachable (sessionSystem backend) AnyOrder session) :
    QueueInvariant session := by
  refine Reachable.invariant (I := QueueInvariant) ?_ ?_ h
  · rintro _ rfl
    exact initial
  · intro _ _ _ _ hinvariant _ hstep
    exact hinvariant.step hstep

end QueueInvariant

/-! ## The bound -/

/-- What the queue and its counter promise. Between clearing the queue and storing 0, `Start` runs
alone. The two differences of the source are among the parts, since an unsigned one that passed 0
would let the queue grow without a bound. -/
structure QueueSafe (session : Session) : Prop where
  queued_le_counter : session.queued.length ≤ session.queuedBytes.toNat
  counter_eq : (∀ taken pending, session.owner ≠ .subtracting taken pending) →
    session.owner ≠ .storing → session.queuedBytes.toNat = session.queued.length
  storing_alone : session.owner = .storing → session.reader = .none
  /-- `fetch_sub` does not pass 0. -/
  taken_le_counter : ∀ taken pending, session.owner = .subtracting taken pending →
    taken.toUInt64 ≤ session.queuedBytes ∧ taken.toUInt64.toNat = taken
  /-- `kMaximumQueuedOutputBytes - queued` does not pass 0. -/
  loaded_le : ∀ queued, session.reader = .reading queued → queued ≤ maximumQueuedOutputBytes
  queued_le : session.queued.length ≤ 1048576
  counter_le : session.queuedBytes.toNat ≤ 1048576
  recorded_le : session.maxQueuedBytes.toNat ≤ 1048576

/-- The queue stays within its bound, and its counter covers it, under every interleaving of the
reader and the owner. -/
theorem queueSafe (backend : Backend) {session : Session}
    (hreachable : Reachable (sessionSystem backend) AnyOrder session) : QueueSafe session := by
  have h := QueueInvariant.reachable hreachable
  have hcounter : session.queuedBytes.toNat ≤ 1048576 := UInt64.le_maximum.mp h.bounded
  have hqueued : session.queued.length ≤ session.queuedBytes.toNat := by
    -- while `Start` stores 0 the queue is empty already
    by_cases howner : session.owner = .storing
    · rw [Session.queued, h.storing howner]
      exact Nat.zero_le _
    · rw [h.counted howner]
      exact Nat.le_add_right _ _
  constructor
  case queued_le_counter => exact hqueued
  case counter_eq =>
    intro hsubtracting howner
    rw [h.counted howner]
    cases hcase : session.owner with
    | subtracting taken pending => exact absurd hcase (hsubtracting taken pending)
    | _ => rfl
  case storing_alone =>
    intro howner
    apply h.alone
    rw [howner]
    rfl
  case taken_le_counter =>
    intro taken pending howner
    -- the bytes taken are still counted
    have hcounted := h.counted (by rw [howner]; exact OwnerState.noConfusion)
    rw [howner] at hcounted
    change _ = _ + taken at hcounted
    have htaken : taken.toUInt64.toNat = taken := toNat_toUInt64 (by omega)
    refine ⟨?_, htaken⟩
    rw [UInt64.le_iff_toNat_le, htaken]
    omega
  case loaded_le =>
    intro queued hreader
    exact UInt64.le_of_lt (h.loaded queued hreader).2
  case queued_le => exact Nat.le_trans hqueued hcounter
  case counter_le => exact hcounter
  case recorded_le => exact UInt64.le_maximum.mp h.recorded

/-- The owner took two of three bytes, and the reader loads the counter before the subtraction. -/
def subtractingSession : Session :=
  { output := [[3]]
    queuedBytes := 3
    maxQueuedBytes := 3
    state := .running
    reader := .reading 3
    owner := .subtracting 2 [[1, 2]]
    ledger := { read := [1, 2, 3], removals := [⟨.takeOutput 2, [1, 2, 3], [1, 2]⟩] }
    ended := [{ removals := [⟨.start, [], []⟩] }] }

theorem queueSafe_subtracting : QueueSafe subtractingSession :=
  queueSafe .posixPty (reachable_of_runSteps
    (startActions ++ [.read [1, 2, 3], .push, .testStop, .takeOutput 2, .loadQueued]) (by decide))

end SakuraTerminal.Transport
