import SakuraTerminal.Wx.ExitNotice

/-!
# From the process to the core

What the reader thread reads goes through the queue of its session and the ticks of the control into
the core. Over a run with any number of restarts the output of each session reaches the core in the
order in which it was read, before the output of any later session, and nothing of it is missing but
what the interrupt key discarded and what was queued when the session ended (`outputPipeline`).

Two invariants meet here. The ledger of a session says what became of the bytes it read, and the log
of the core says what was fed for which session. Along a run the second follows the first, one
removal at a time, and the number of a session keeps the two apart from those of other sessions.
What is in flight at a restart is fed before `Stop`, since one thread does both.
-/

set_option autoImplicit false

namespace SakuraTerminal.Wx

open SakuraTerminal.Foundations
open SakuraTerminal.Foundations.TransitionSystem
open SakuraTerminal.Transport

/-- The output of one session that was fed. -/
def Control.sessionOutput (control : Control) (number : Nat) : List UInt8 :=
  control.fed.filterMap (CoreInput.outputOf number)

/-- The output of a session does not follow that of a later one. -/
def CoreInput.InSessionOrder : CoreInput → CoreInput → Prop
  | .output earlier _, .output later _ => earlier ≤ later
  | _, _ => True

/-- The interrupt key discarded nothing. -/
def Undiscarded (ledger : Ledger) : Prop :=
  ∀ removal ∈ ledger.removals, removal.remover ≠ .discardOutput

/-- Of the bytes a session read, `fed` reached the core and `rest` comes next. Bytes that were
discarded are missing between the two. -/
structure OutputFed (ledger : Ledger) (fed rest : List UInt8) : Prop where
  order : (fed ++ rest).Sublist ledger.read
  whole : Undiscarded ledger → fed ++ rest = ledger.read

/-- What the control promises about the output of all its sessions. -/
structure OutputPipeline (control : Control) : Prop where
  order : control.fed.Pairwise CoreInput.InSessionOrder
  /-- The sessions that ended, the first one first: `Start` removed the rest. -/
  past : ∀ number ledger, control.session.ended.reverse[number]? = some ledger →
    ∃ earlier queued, ledger.removals = earlier ++ [⟨.start, queued, queued⟩] ∧
      OutputFed ledger (control.sessionOutput number) queued
  /-- What is not fed yet is in the hands of the control, in the queue or in those of the reader. -/
  current : OutputFed control.session.ledger (control.sessionOutput control.number)
    (control.inFlight ++ control.session.queued ++ control.session.reader.held)

/-! ## The removals of one session -/

/-- `Start` has not ended the session of these removals. -/
def Unended (removals : List Removal) : Prop := ∀ removal ∈ removals, removal.remover ≠ .start

theorem Unended.append {removals : List Removal} (h : Unended removals) {removal : Removal}
    (hremoval : removal.remover ≠ .start) : Unended (removals ++ [removal]) := by
  intro removal' hmem
  cases List.mem_append.mp hmem with
  | inl hold => exact h removal' hold
  | inr hnew =>
    rw [List.mem_singleton.mp hnew]
    exact hremoval

/-- What was taken is what was removed, less what was discarded. -/
theorem Ledger.taken_sublist_removed (removals : List Removal) :
    (Ledger.taken { removals }).Sublist (Ledger.removed { removals }) := by
  simp only [Ledger.taken, Ledger.removed]
  induction removals with
  | nil => exact List.Sublist.refl _
  | cons removal removals ih =>
    rw [List.flatMap_cons, List.flatMap_cons]
    apply List.Sublist.append _ ih
    split
    · exact List.Sublist.refl _
    · exact List.nil_sublist _
    · exact List.nil_sublist _

theorem Ledger.taken_eq_removed {removals : List Removal} (hunended : Unended removals)
    (hundiscarded : ∀ removal ∈ removals, removal.remover ≠ .discardOutput) :
    Ledger.taken { removals } = Ledger.removed { removals } := by
  simp only [Ledger.taken, Ledger.removed]
  -- every remover that is left returns what it removes
  apply List.flatMap_congr
  intro removal hremoval
  split
  next => rfl
  next hdiscards => exact absurd hdiscards (hundiscarded removal hremoval)
  next hstarts => exact absurd hstarts (hunended removal hremoval)

/-- A ledger whose removals are those of `TakeOutput` and `DiscardOutput` and what may follow. -/
theorem OutputFed.of_removals {ledger : Ledger} {removals : List Removal} {fed rest : List UInt8}
    (hunended : Unended removals)
    (hdiscarded : Undiscarded ledger → ∀ removal ∈ removals, removal.remover ≠ .discardOutput)
    (hread : ledger.read = Ledger.removed { removals } ++ rest)
    (hfed : fed = Ledger.taken { removals }) : OutputFed ledger fed rest := by
  constructor
  case order =>
    rw [hread, hfed]
    exact (Ledger.taken_sublist_removed removals).append (List.Sublist.refl rest)
  case whole =>
    intro hundiscarded
    rw [hread, hfed, Ledger.taken_eq_removed hunended (hdiscarded hundiscarded)]

/-- Only the last removal of a session is that of `Start`. -/
structure RemovalsInvariant (session : Session) : Prop where
  current : Unended session.ledger.removals
  past : ∀ ledger ∈ session.ended, ∃ earlier queued,
    Unended earlier ∧ ledger.removals = earlier ++ [⟨.start, queued, queued⟩]

namespace RemovalsInvariant

variable {backend : Backend} {session : Session}

/-- `Start` adds its removal where it ends the session, and no other step does. -/
theorem step (h : RemovalsInvariant session) {action : Action} {session' : Session}
    (hstep : session.step backend action = some session') : RemovalsInvariant session' := by
  cases outcome_of_step hstep with
  | takes maxBytes howner =>
    constructor
    case current =>
      rw [Session.ledger_takes]
      exact h.current.append Remover.noConfusion
    case past => exact h.past
  | discards howner => exact ⟨h.current.append Remover.noConfusion, h.past⟩
  | clears howner =>
    constructor
    case current => exact fun _ hremoval => absurd hremoval List.not_mem_nil
    case past =>
      intro ledger hledger
      rw [Session.ended_clears] at hledger
      cases List.mem_cons.mp hledger with
      | inl hlast =>
        subst hlast
        exact ⟨session.ledger.removals, session.queued, h.current, rfl⟩
      | inr hearlier => exact h.past ledger hearlier
  | testStop | waits | loads | readNothing | readFails | reads | pushes | leaves | publishes
  | subtracts | stops | joins | stores | spawns | spawnFails => exact ⟨h.current, h.past⟩

theorem reachable (h : Reachable (sessionSystem backend) AnyOrder session) :
    RemovalsInvariant session := by
  refine Reachable.invariant (I := RemovalsInvariant) ?_ ?_ h
  · rintro _ rfl
    constructor
    case current => exact fun _ hremoval => absurd hremoval List.not_mem_nil
    case past => exact fun _ hledger => absurd hledger List.not_mem_nil
  · intro _ _ _ _ hinvariant _ hstep
    exact hinvariant.step hstep

end RemovalsInvariant

/-! ## The log of the core -/

theorem CoreInput.inSessionOrder_of_le {earlier : CoreInput} {number : Nat}
    (hearlier : earlier.session ≤ number) (byte : UInt8) :
    earlier.InSessionOrder (.output number byte) := by
  cases earlier with
  | output session byte' => exact hearlier
  | notice source session state => trivial
  | clearScreen => trivial
  | notStarted => trivial

/-- Texts may follow everything. -/
theorem CoreInput.inSessionOrder_text (earlier : CoreInput) {text : CoreInput}
    (htext : ∀ number, text.outputOf number = Option.none) : earlier.InSessionOrder text := by
  cases text with
  | output session byte =>
    have hnone := htext session
    simp [CoreInput.outputOf] at hnone
  | notice source session state => cases earlier <;> trivial
  | clearScreen => cases earlier <;> trivial
  | notStarted => cases earlier <;> trivial

theorem filterMap_output_ne {session number : Nat} (hne : session ≠ number) (bytes : List UInt8) :
    (bytes.map (CoreInput.output session)).filterMap (CoreInput.outputOf number) = [] := by
  rw [List.filterMap_eq_nil_iff]
  intro input hinput
  obtain ⟨byte, -, rfl⟩ := List.mem_map.mp hinput
  exact if_neg hne

theorem Control.outputOf_statusTexts {control : Control} {text : CoreInput}
    (htext : text ∈ control.statusTexts) (number : Nat) : text.outputOf number = Option.none := by
  rw [(Control.mem_statusTexts htext).2]
  rfl

theorem Control.outputOf_startTexts {control : Control} {restart : Bool} {text : CoreInput}
    (htext : text ∈ control.startTexts restart) (number : Nat) :
    text.outputOf number = Option.none := by
  rcases Control.mem_startTexts htext with rfl | rfl | rfl <;> rfl

/-- What was fed for a session that ended is what `TakeOutput` returned of it. The order of what was
fed is the order of the removals. -/
structure PipelineInvariant (control : Control) : Prop where
  order : control.fed.Pairwise CoreInput.InSessionOrder
  past : ∀ number ledger, control.session.ended.reverse[number]? = some ledger →
    control.sessionOutput number = ledger.taken

namespace PipelineInvariant

variable {backend : Backend} {outputBytesPerTick : UInt32} {control control' : Control}

theorem number_lt {sessions : List Ledger} {number : Nat} {ledger : Ledger}
    (h : sessions.reverse[number]? = some ledger) : number < sessions.length := by
  obtain ⟨hlt, -⟩ := List.getElem?_eq_some_iff.mp h
  rw [List.length_reverse] at hlt
  exact hlt

/-- Steps that neither feed nor end a session. -/
theorem keep (h : PipelineInvariant control) (hfed : control'.fed = control.fed)
    (hended : control'.session.ended = control.session.ended) : PipelineInvariant control' where
  order := by
    rw [hfed]
    exact h.order
  past := by
    intro number ledger hledger
    rw [hended] at hledger
    rw [Control.sessionOutput, hfed]
    exact h.past number ledger hledger

/-- Texts of the control are no output. -/
theorem feedTexts (h : PipelineInvariant control) {texts : List CoreInput}
    (hended : control'.session.ended = control.session.ended)
    (hfed : control'.fed = control.fed ++ texts)
    (htexts : ∀ text ∈ texts, ∀ number, text.outputOf number = none) :
    PipelineInvariant control' where
  order := by
    rw [hfed, List.pairwise_append]
    refine ⟨h.order, ?_, ?_⟩
    · apply List.pairwise_of_forall_mem_list
      exact fun earlier _ text htext => earlier.inSessionOrder_text (htexts text htext)
    · exact fun earlier _ text htext => earlier.inSessionOrder_text (htexts text htext)
  past := by
    intro number ledger hledger
    rw [hended] at hledger
    rw [Control.sessionOutput, hfed,
      filterMap_append_texts fun text htext => htexts text htext number]
    exact h.past number ledger hledger

/-- Output is fed for the current session, which is the last one. -/
theorem feeds (h : PipelineInvariant control)
    (hinvariant : ControlInvariant backend outputBytesPerTick control) (bytes : List UInt8) :
    PipelineInvariant
      { control with
        fed := control.fed ++ bytes.map (.output control.number), ui := .checking } where
  order := by
    rw [List.pairwise_append]
    refine ⟨h.order, ?_, ?_⟩
    · rw [List.pairwise_map]
      exact List.pairwise_of_forall fun _ _ => Nat.le_refl _
    · intro earlier hearlier later hlater
      obtain ⟨byte, -, rfl⟩ := List.mem_map.mp hlater
      exact CoreInput.inSessionOrder_of_le (hinvariant.numbered earlier hearlier) byte
  past := by
    intro number ledger hledger
    have hne : control.number ≠ number := Nat.ne_of_gt (number_lt hledger)
    rw [← h.past number ledger hledger]
    change (control.fed ++ bytes.map (CoreInput.output control.number)).filterMap _ = _
    rw [List.filterMap_append, filterMap_output_ne hne, List.append_nil]
    rfl

/-- The session ends with all that it returned in the core: nothing is in flight in `Start`. -/
theorem clears (h : PipelineInvariant control)
    (hinvariant : ControlInvariant backend outputBytesPerTick control)
    (hinFlight : control.inFlight = []) (restart : Bool) :
    PipelineInvariant
      { control with session := control.session.clears, ui := .starting restart } where
  order := h.order
  past := by
    intro number ledger hledger
    change control.sessionOutput number = ledger.taken
    change control.session.clears.ended.reverse[number]? = some ledger at hledger
    rw [Session.ended_clears, List.reverse_cons] at hledger
    by_cases hearlier : number < control.session.ended.reverse.length
    · rw [List.getElem?_append_left hearlier] at hledger
      exact h.past number ledger hledger
    · -- the ledger that is new is the one that was current
      rw [List.getElem?_append_right (Nat.le_of_not_lt hearlier),
        List.getElem?_singleton] at hledger
      split at hledger
      next hzero =>
        cases hledger
        have hnumber : number = control.number := by
          have hlength : control.session.ended.reverse.length = control.session.ended.length :=
            List.length_reverse
          rw [Control.number]
          omega
        have htaken := hinvariant.taken
        rw [hinFlight, List.append_nil] at htaken
        rw [hnumber]
        change control.fedOutput = _
        rw [htaken]
        simp [Ledger.taken, Ledger.remove]
      next => contradiction

/-- Where `Start` ends a session, what was fed for it is what `TakeOutput` had returned of it. -/
theorem starts (h : PipelineInvariant control)
    (hinvariant : ControlInvariant backend outputBytesPerTick control) {action : Action}
    {session : Session} {restart : Bool}
    (hui : control.ui = .stopping ∨ control.ui = .starting restart)
    (hstep : control.session.step backend action = some session) (hstart : action ∈ startSteps) :
    PipelineInvariant
      { control with
        session
        ui := if action = .spawn ∨ action = .spawnFails then .started restart
          else .starting restart } := by
  cases outcome_of_step hstep with
  | clears howner =>
    refine h.clears hinvariant (ControlInvariant.inFlight_eq_nil ?_) restart
    cases hui with
    | inl hstopping => rw [hstopping]; rfl
    | inr hstarting => rw [hstarting]; rfl
  | stops | joins | stores | spawns | spawnFails => exact h.keep rfl rfl
  | testStop | waits | loads | readNothing | readFails | reads | pushes | leaves | publishes
  | takes | subtracts | discards => simp [startSteps] at hstart

/-- Every step of the control keeps the order; only a feed adds output. -/
theorem step (h : PipelineInvariant control)
    (hinvariant : ControlInvariant backend outputBytesPerTick control) {action : ControlAction}
    (hstep : control.step backend outputBytesPerTick action = some control') :
    PipelineInvariant control' := by
  cases controlOutcome_of_step hstep with
  | reader action session hsession hreader => exact h.keep rfl (readerStep hsession hreader).ended
  | takes hui howner => exact h.keep rfl rfl
  | subtracts taken pending hui howner => exact h.keep rfl rfl
  | feeds output hui => exact h.feeds hinvariant output.flatten
  | checks hui =>
    obtain ⟨hsession, -, hfed⟩ := control.updateTransportStatus_eq
    refine h.feedTexts ?_ hfed fun text htext => Control.outputOf_statusTexts htext
    rw [hsession]
  | discards hui howner => exact h.keep rfl rfl
  | stops session hui hsession =>
    cases outcome_of_step hsession with
    | stops => exact h.keep rfl rfl
  | starts action session restart hui hsession hstart =>
    exact h.starts hinvariant hui hsession hstart
  | started restart hui =>
    refine h.feedTexts ?_ (control.afterStart_fed restart) fun text htext =>
      Control.outputOf_startTexts htext
    rfl

theorem reachable {allowed : Control → ControlAction → Prop}
    (h : Reachable (controlSystem backend outputBytesPerTick) allowed control) :
    PipelineInvariant control := by
  refine Reachable.invariant (I := PipelineInvariant) ?_ ?_ h
  · rintro _ (rfl | rfl)
    · exact ⟨.nil, fun _ _ hledger => by simp at hledger⟩
    · exact ⟨.nil, fun _ _ hledger => by simp at hledger⟩
  · intro _ _ _ hreachable hinvariant _ hstep
    exact hinvariant.step (.reachable hreachable) hstep

end PipelineInvariant

/-! ## The pipeline -/

/-- Output reaches the core whole and in order, session after session, whatever the threads do. -/
theorem outputPipeline (backend : Backend) (outputBytesPerTick : UInt32) {control : Control}
    (hreachable : Reachable (controlSystem backend outputBytesPerTick) (fun _ _ => True) control) :
    OutputPipeline control := by
  have hcontrol := ControlInvariant.reachable hreachable
  have hpipeline := PipelineInvariant.reachable hreachable
  have hledger := LedgerInvariant.reachable hcontrol.session
  have hremovals := RemovalsInvariant.reachable hcontrol.session
  constructor
  case order => exact hpipeline.order
  case past =>
    intro number ledger hnumber
    have hmem : ledger ∈ control.session.ended :=
      List.mem_reverse.mp (List.mem_of_getElem? hnumber)
    obtain ⟨earlier, queued, hunended, hlast⟩ := hremovals.past ledger hmem
    refine ⟨earlier, queued, hlast, OutputFed.of_removals hunended ?_ ?_ ?_⟩
    · intro hundiscarded removal hremoval
      apply hundiscarded
      rw [hlast]
      exact List.mem_append_left _ hremoval
    · rw [(hledger.ended ledger hmem).read_eq]
      simp [Ledger.removed, hlast]
    · rw [hpipeline.past number ledger hnumber]
      simp [Ledger.taken, hlast]
  case current =>
    -- the bytes in flight were taken, so they count with those that were fed
    have hfed : OutputFed control.session.ledger (control.fedOutput ++ control.inFlight)
        (control.session.queued ++ control.session.reader.held) := by
      apply OutputFed.of_removals hremovals.current (fun hundiscarded => hundiscarded) _
        hcontrol.taken
      rw [hledger.read_eq, List.append_assoc]
      rfl
    obtain ⟨hsublist, hwhole⟩ := hfed
    constructor
    case order =>
      rw [List.append_assoc, ← List.append_assoc]
      exact hsublist
    case whole =>
      intro hundiscarded
      rw [List.append_assoc, ← List.append_assoc]
      exact hwhole hundiscarded

/-- Two sessions: the first one is restarted with a byte in the queue. -/
def restartingActions : List ControlAction :=
  [.start (.stop true), .start .join, .start .clearOutput, .start .storeQueued, .start .spawn,
    .afterStart, .reader .testStop, .reader .loadQueued, .reader (.read [65, 66]), .reader .push,
    .onTimer, .subtract, .feedOutput, .updateTransportStatus,
    .restartTransport, .reader .testStop, .reader .leave, .start .join,
    .start (.stop true), .start .join, .start .clearOutput, .start .storeQueued, .start .spawn,
    .afterStart, .reader .testStop, .reader .loadQueued, .reader (.read [67]), .reader .push,
    .onTimer, .subtract, .feedOutput]

/-- The second `Start` removed the byte 66 of the first session. -/
def restartedControl : Control :=
  { session :=
      { maxQueuedBytes := 2
        state := .running
        reader := .loop
        ledger := { read := [67], removals := [⟨.takeOutput 1, [67], [67]⟩] }
        ended :=
          [{ read := [65, 66]
             removals := [⟨.takeOutput 1, [65, 66], [65]⟩, ⟨.start, [66], [66]⟩] },
            { removals := [⟨.start, [], []⟩] }] }
    fed := [.output 1 65, .clearScreen, .notice .restartTransport 2 .running, .output 2 67]
    ui := .checking
    queuedAtTake := 1 }

theorem outputPipeline_restarting : OutputPipeline restartedControl := by
  apply outputPipeline .posixPty 1
  exact Reachable.runSteps (Control.step .posixPty 1) restartingActions
    (fun _ _ _ hstep => ⟨trivial, hstep⟩) (.init (.inl rfl)) (by decide)

end SakuraTerminal.Wx
