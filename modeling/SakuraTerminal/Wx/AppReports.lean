import SakuraTerminal.Foundations.ChangeReports
import SakuraTerminal.Foundations.TransitionSystem
import SakuraTerminal.Transport.PtyLifecycle

/-!
# What the application is told

`VteOsc` of `src/terminal_core.cpp` sets the title of the window, and the constructor, the ticks and
`RestartTransport` of `src/wx/terminal_ctrl.cpp` call `on_title_changed` and `on_error`.

A title is set by the sequences `0;title`, `1;title` and `2;title` and by no others
(`vteOsc_eq_oscTitle`). Titles are looked at in ticks only. So the application is told some of those
that were set, as the C strings they are read as, in order and without repetition, and always the
last one. An error is
dropped when it is the last one that was reported, which nothing forgets: a control tells of one
failed restart in its life, whatever succeeds in between (`appReports`).

The title is stated through the sequences that were received. `oscTitle` says what a sequence sets
by its first two bytes, while `vteOsc` searches for the separator as the code does; that the two
agree is a lemma of its own, used by the invariant whenever a sequence arrives. Reports are kept
with what the control found each time, so that a title which was found and not told is seen too.
-/

set_option autoImplicit false

namespace SakuraTerminal.Wx

open SakuraTerminal.Foundations
open SakuraTerminal.Foundations.TransitionSystem
open SakuraTerminal.Transport

/-! ## Titles -/

/-- `VteOsc`: the title it sets, if it sets one. -/
def vteOsc : Option (List UInt8) → Option (List UInt8)
  | none => none
  | some sequence =>
    if sequence.length < 2 then none
    else
      match sequence.findIdx? (· == 59) with -- ';'
      | none => none
      | some separator =>
        let command := sequence.take separator
        -- '0', '1' and '2'
        if command = [48] ∨ command = [49] ∨ command = [50] then
          some (sequence.drop (separator + 1))
        else none

/-- A title is set by exactly the sequences `0;title`, `1;title` and `2;title`. -/
theorem vteOsc_eq_some_iff {sequence title : List UInt8} :
    vteOsc (some sequence) = some title ↔
      ∃ digit ∈ ([48, 49, 50] : List UInt8), sequence = digit :: 59 :: title := by
  constructor
  · intro h
    rw [vteOsc] at h
    split at h
    · contradiction
    · split at h
      · contradiction
      · rename_i separator hfind
        obtain ⟨hlt, hseparator, -⟩ := List.findIdx?_eq_some_iff_getElem.mp hfind
        dsimp only at h
        split at h
        · rename_i hcommand
          cases h
          have hsplit : sequence =
              sequence.take separator ++ 59 :: sequence.drop (separator + 1) := by
            conv_lhs => rw [← List.take_append_drop separator sequence,
              List.drop_eq_getElem_cons hlt, eq_of_beq hseparator]
          rcases hcommand with hcommand | hcommand | hcommand
          · exact ⟨48, by simp, by rw [hcommand] at hsplit; exact hsplit⟩
          · exact ⟨49, by simp, by rw [hcommand] at hsplit; exact hsplit⟩
          · exact ⟨50, by simp, by rw [hcommand] at hsplit; exact hsplit⟩
        · contradiction
  · rintro ⟨digit, hdigit, rfl⟩
    simp only [List.mem_cons, List.not_mem_nil, or_false] at hdigit
    rcases hdigit with rfl | rfl | rfl <;> simp [vteOsc, List.findIdx?_cons]

/-- The title in a sequence `0;title`, `1;title` or `2;title`, read off its first two bytes. This is
what `vteOsc` is to find; the code looks for the separator instead. -/
def oscTitle : Option (List UInt8) → Option (List UInt8)
  | some (digit :: 59 :: title) => -- ';'
    if digit ∈ ([48, 49, 50] : List UInt8) then some title else none
  | _ => none

/-- The two bytes are a digit and the separator, and the title is the rest. -/
theorem oscTitle_eq_some_iff {sequence title : List UInt8} :
    oscTitle (some sequence) = some title ↔
      ∃ digit ∈ ([48, 49, 50] : List UInt8), sequence = digit :: 59 :: title := by
  constructor
  · intro h
    rw [oscTitle.eq_def] at h
    split at h
    · rename_i digit rest hsequence
      cases hsequence
      split at h
      · rename_i hdigit
        cases h
        exact ⟨digit, hdigit, rfl⟩
      · contradiction
    · contradiction
  · rintro ⟨digit, hdigit, rfl⟩
    exact if_pos hdigit

/-- `VteOsc` sets the title that is in its sequence. -/
theorem vteOsc_eq_oscTitle (sequence : Option (List UInt8)) :
    vteOsc sequence = oscTitle sequence := by
  cases sequence with
  | none => rfl
  | some sequence =>
    apply Option.ext
    intro title
    rw [vteOsc_eq_some_iff, oscTitle_eq_some_iff]

/-- What is left of a string behind a `const char*`. -/
def cString (text : List UInt8) : List UInt8 := text.takeWhile (· != 0)

/-! ## The control -/

/-- The members of the core and of the control behind the two callbacks, and the calls of these. -/
structure ReportControl where
  /-- `title_` of the core. -/
  title : List UInt8 := []
  titleChanges : Nat := 0
  lastTitle : List UInt8 := []
  lastError : String := ""
  lastTransportState : TransportState := .stopped
  /-- `on_error`. -/
  errors : List String := []
  /-- What `NotifyTitleChanged` found, and whether it called `on_title_changed`. -/
  titles : List (Observation (List UInt8)) := []
  /-- The sequences that `VteOsc` was called with, null or not. Kept for the theorems only. -/
  sequences : List (Option (List UInt8)) := []
  /-- How often a failed start was to be reported after the constructor. Kept for the theorems
  only. -/
  failures : Nat := 0
  deriving DecidableEq, Repr

/-- The text of a start that failed. -/
def failedToStart : String := "Terminal process failed to start"

/-- The text of a platform without a transport. -/
def noPlatformTransport : String := "No platform terminal transport is available"

section source

variable (control : ReportControl)

/-- `VteOsc`: the core takes the title and counts it. Nothing is told yet. -/
def ReportControl.vteOsc (sequence : Option (List UInt8)) : ReportControl :=
  match Wx.vteOsc sequence with
  | none => control
  | some title =>
    { control with
      title := title
      titleChanges := control.titleChanges + 1 }

/-- `NotifyTitleChanged`, which reads the title through `const char*`. -/
def ReportControl.notifyTitleChanged : ReportControl :=
  let title := cString control.title
  if title = control.lastTitle then
    { control with titles := control.titles ++ [⟨title, false⟩] }
  else
    { control with lastTitle := title, titles := control.titles ++ [⟨title, true⟩] }

/-- `ReportError`: an empty text and a repeated one are dropped. -/
def ReportControl.reportError (message : String) : ReportControl :=
  if message.isEmpty ∨ message = control.lastError then control
  else { control with lastError := message, errors := control.errors ++ [message] }

/-- `ReportError` for a start that failed after the constructor. -/
def ReportControl.reportFailure : ReportControl :=
  { control with failures := control.failures + 1 }.reportError failedToStart

/-- `UpdateTransportStatus` with the state it reads. -/
def ReportControl.updateTransportStatus (state : TransportState) : ReportControl :=
  if state = control.lastTransportState then control
  else
    let control := { control with lastTransportState := state }
    if state = .failed then control.reportFailure else control

/-- `RestartTransport` with the state it reads after `Start`. -/
def ReportControl.restartTransport (state : TransportState) : ReportControl :=
  let control := { control with
    lastTransportState := if state = .failed then .failed else .stopped }
  if state = .failed then control.reportFailure else control

end source

/-- `error_` of a core that is not ready. -/
def coreErrors : List String :=
  ["libtsm could not create a screen", "libtsm could not create a VTE",
    "libtsm could not configure the terminal palette"]

/-- The constructor, where the core has no title yet. `coreError` is the error of a core that is not
ready, and `start` the result of `Start` and the state after it, if the transport is started. -/
def ReportControl.construct (coreError : Option String) (start : Option (Bool × TransportState)) :
    ReportControl :=
  match coreError with
  | some message => ({} : ReportControl).reportError message
  | none =>
    match start with
    | none => {}
    | some (started, state) =>
      let control : ReportControl :=
        if started then {} else ({} : ReportControl).reportError noPlatformTransport
      let control := { control with
        lastTransportState :=
          if state = TransportState.failed then TransportState.failed else .stopped }
      control.notifyTitleChanged

/-- What reaches the two callbacks. -/
inductive ReportEvent where
  /-- A sequence in the output. -/
  | vteOsc (sequence : Option (List UInt8))
  /-- `OnTimer`, and the state of the transport if there is one. -/
  | onTimer (state : Option TransportState)
  | restartTransport (state : TransportState)
  deriving DecidableEq, Repr

/-- One event. -/
def ReportControl.next (control : ReportControl) : ReportEvent → ReportControl
  | .vteOsc sequence =>
    { control with sequences := control.sequences ++ [sequence] }.vteOsc sequence
  | .onTimer none => control.notifyTitleChanged
  | .onTimer (some state) => control.notifyTitleChanged.updateTransportStatus state
  | .restartTransport state => control.restartTransport state

/-- All runs of a control whose constructor reported `first`. -/
def reportSystem (first : List String) : TransitionSystem ReportControl ReportEvent where
  init control := ∃ coreError start, control = .construct coreError start ∧
    (∀ message ∈ coreError, message ∈ coreErrors) ∧ control.errors = first
  step control event control' := control' = control.next event

/-! ## The property -/

/-- The titles in some sequences, in their order. -/
def titlesSet (sequences : List (Option (List UInt8))) : List (List UInt8) :=
  sequences.filterMap oscTitle

theorem titlesSet_concat (sequences : List (Option (List UInt8))) (sequence : Option (List UInt8)) :
    titlesSet (sequences ++ [sequence]) = titlesSet sequences ++ (oscTitle sequence).toList := by
  cases htitle : oscTitle sequence <;> simp [titlesSet, htitle]

/-- What the application knows: of titles those that a tick found to be new, and of errors that of
the constructor and one for all failed starts. -/
structure AppReports (first : List String) (control : ReportControl) : Prop where
  /-- The title of the core is that of the last sequence that has one, and each of them was
  counted. -/
  title : control.title = (titlesSet control.sequences).getLastD [] ∧
    control.titleChanges = (titlesSet control.sequences).length
  /-- The application is told when a title differs from the one it was told last. -/
  once : ReportedOnce [] control.titles
  /-- What it is told are some of the titles that were set, in order. -/
  told : (reports control.titles).Sublist ((titlesSet control.sequences).map cString)
  /-- After a tick it knows the title. -/
  tick : ∀ state, lastReport [] (control.next (.onTimer state)).titles = cString control.title
  /-- The errors are that of the constructor, if any, and one for all failed starts after it. -/
  errors : control.errors = first ++ if control.failures = 0 then [] else [failedToStart]
  constructor_error : first.length ≤ 1

/-- `NotifyTitleChanged`, in the terms of an observer. -/
theorem ReportControl.notifyTitleChanged_eq (control : ReportControl) :
    control.notifyTitleChanged =
      { control with
        lastTitle := cString control.title
        titles := control.titles ++
          [⟨cString control.title, decide (cString control.title ≠ control.lastTitle)⟩] } := by
  unfold ReportControl.notifyTitleChanged
  by_cases hsame : cString control.title = control.lastTitle
  · simp [hsame]
  · simp [hsame]

/-! ## The invariant -/

/-- The control remembers the last title it told, and the last error it reported. -/
structure ReportInvariant (first : List String) (control : ReportControl) : Prop where
  title : control.title = (titlesSet control.sequences).getLastD [] ∧
    control.titleChanges = (titlesSet control.sequences).length
  observed : ∃ values, control.titles = observe [] values ∧
    remembered [] values = control.lastTitle
  told : (reports control.titles).Sublist ((titlesSet control.sequences).map cString)
  /-- A title that was not told yet was set after those that were. -/
  untold : cString control.title ≠ control.lastTitle →
    (reports control.titles ++ [cString control.title]).Sublist
      ((titlesSet control.sequences).map cString)
  errors : control.errors = first ++ if control.failures = 0 then [] else [failedToStart]
  lastError : control.lastError =
    if control.failures = 0 then first.getLastD "" else failedToStart
  constructor_error : first.length ≤ 1 ∧ failedToStart ∉ first

namespace ReportInvariant

variable {first : List String} {control : ReportControl}

theorem lastReport_eq (h : ReportInvariant first control) :
    lastReport [] control.titles = control.lastTitle := by
  obtain ⟨values, htitles, hlast⟩ := h.observed
  rw [htitles, lastReport_observe, hlast]

/-- A sequence arrives. If it has a title this is the last one set, and was not told yet. -/
theorem vteOsc (h : ReportInvariant first control) (sequence : Option (List UInt8)) :
    ReportInvariant first (control.next (.vteOsc sequence)) := by
  rw [ReportControl.next, ReportControl.vteOsc, vteOsc_eq_oscTitle]
  cases htitle : oscTitle sequence with
  | none =>
    -- a sequence without a title sets none
    have hsame : titlesSet (control.sequences ++ [sequence]) = titlesSet control.sequences := by
      rw [titlesSet_concat, htitle, Option.toList_none, List.append_nil]
    constructor
    case title =>
      rw [hsame]
      exact h.title
    case observed => exact h.observed
    case told =>
      rw [hsame]
      exact h.told
    case untold =>
      rw [hsame]
      exact h.untold
    case errors => exact h.errors
    case lastError => exact h.lastError
    case constructor_error => exact h.constructor_error
  | some title =>
    have hset : titlesSet (control.sequences ++ [sequence]) =
        titlesSet control.sequences ++ [title] := by
      rw [titlesSet_concat, htitle, Option.toList_some]
    constructor
    case title =>
      rw [hset, List.getLastD_concat, List.length_append, ← h.title.2]
      exact ⟨rfl, rfl⟩
    case observed => exact h.observed
    case told =>
      rw [hset, List.map_append]
      exact h.told.trans (List.sublist_append_left _ _)
    case untold =>
      intro _
      rw [hset, List.map_append]
      exact h.told.append (List.Sublist.refl _)
    case errors => exact h.errors
    case lastError => exact h.lastError
    case constructor_error => exact h.constructor_error

/-- A tick finds the title of the core, and tells it if it is another one. -/
theorem notifyTitleChanged (h : ReportInvariant first control) :
    ReportInvariant first control.notifyTitleChanged := by
  rw [ReportControl.notifyTitleChanged_eq]
  obtain ⟨values, htitles, hlast⟩ := h.observed
  constructor
  case title => exact h.title
  case observed =>
    refine ⟨values ++ [cString control.title], ?_, remembered_concat _ _ _⟩
    rw [observe_concat, ← htitles, hlast]
  case told =>
    rw [reports_append]
    by_cases hsame : cString control.title = control.lastTitle
    · simpa [hsame] using h.told
    · simpa [hsame] using h.untold hsame
  case untold => exact fun hother => absurd rfl hother
  case errors => exact h.errors
  case lastError => exact h.lastError
  case constructor_error => exact h.constructor_error

/-- The last state of the transport plays no part. -/
theorem lastTransportState (h : ReportInvariant first control) (state : TransportState) :
    ReportInvariant first { control with lastTransportState := state } :=
  ⟨h.title, h.observed, h.told, h.untold, h.errors, h.lastError, h.constructor_error⟩

/-- Only the first failure differs from what was reported last. -/
theorem reportFailure (h : ReportInvariant first control) :
    ReportInvariant first control.reportFailure := by
  have hlastError := h.lastError
  have herrors := h.errors
  have hfirst : first.getLastD "" ≠ failedToStart := by
    intro hlast
    cases hgetLast : first.getLast? with
    | none =>
      rw [List.getLastD_eq_getLast?, hgetLast] at hlast
      revert hlast
      decide
    | some message =>
      rw [List.getLastD_eq_getLast?, hgetLast] at hlast
      apply h.constructor_error.2
      rw [← show message = failedToStart from hlast]
      exact List.mem_of_getLast? hgetLast
  unfold ReportControl.reportFailure ReportControl.reportError
  by_cases hnone : control.failures = 0
  · rw [if_pos hnone] at hlastError herrors
    have hnew : ¬(failedToStart.isEmpty = true ∨ failedToStart = control.lastError) := by
      rintro (hempty | hlast)
      · revert hempty
        decide
      · exact hfirst (hlastError.symm.trans hlast.symm)
    rw [if_neg hnew]
    refine ⟨h.title, h.observed, h.told, h.untold, ?_, ?_, h.constructor_error⟩
    · simp [herrors]
    · simp
  · rw [if_neg hnone] at hlastError herrors
    rw [if_pos (.inr hlastError.symm)]
    refine ⟨h.title, h.observed, h.told, h.untold, ?_, ?_, h.constructor_error⟩
    · simp [herrors]
    · simp [hlastError]

theorem updateTransportStatus (h : ReportInvariant first control) (state : TransportState) :
    ReportInvariant first (control.updateTransportStatus state) := by
  unfold ReportControl.updateTransportStatus
  split
  · exact h
  · dsimp only
    split
    · exact (h.lastTransportState state).reportFailure
    · exact h.lastTransportState state

theorem restartTransport (h : ReportInvariant first control) (state : TransportState) :
    ReportInvariant first (control.restartTransport state) := by
  unfold ReportControl.restartTransport
  dsimp only
  split
  · exact (h.lastTransportState _).reportFailure
  · exact h.lastTransportState _

theorem next (h : ReportInvariant first control) (event : ReportEvent) :
    ReportInvariant first (control.next event) := by
  cases event with
  | vteOsc sequence => exact h.vteOsc sequence
  | onTimer state =>
    cases state with
    | none => exact h.notifyTitleChanged
    | some state => exact h.notifyTitleChanged.updateTransportStatus state
  | restartTransport state => exact h.restartTransport state

/-- A control with no title that reported at most one error. -/
theorem fresh {message : String} (hmessage : message ≠ failedToStart) :
    ReportInvariant (({} : ReportControl).reportError message).errors
      (({} : ReportControl).reportError message) := by
  unfold ReportControl.reportError
  split
  · exact ⟨⟨rfl, rfl⟩, ⟨[], rfl, rfl⟩, List.Sublist.refl _, fun h => absurd rfl h, rfl, rfl,
      Nat.zero_le 1, List.not_mem_nil⟩
  · refine ⟨⟨rfl, rfl⟩, ⟨[], rfl, rfl⟩, List.Sublist.refl _, fun h => absurd rfl h, rfl, rfl,
      Nat.le_refl 1, fun hmem => ?_⟩
    exact hmessage (List.mem_singleton.mp hmem).symm

end ReportInvariant

theorem failedToStart_notMem_coreErrors : failedToStart ∉ coreErrors := by decide

/-- The constructor reports an error of the core, or that its `Start` failed, or nothing. -/
theorem reportInvariant_construct {coreError : Option String}
    (hcore : ∀ message ∈ coreError, message ∈ coreErrors)
    (start : Option (Bool × TransportState)) :
    ReportInvariant (ReportControl.construct coreError start).errors
      (ReportControl.construct coreError start) := by
  cases coreError with
  | some message =>
    apply ReportInvariant.fresh
    rintro rfl
    exact failedToStart_notMem_coreErrors (hcore failedToStart rfl)
  | none =>
    have hsilent : ReportInvariant [] {} := @ReportInvariant.fresh "" (by decide)
    cases start with
    | none => exact hsilent
    | some start =>
      obtain ⟨started, state⟩ := start
      cases started with
      | true => exact (hsilent.lastTransportState _).notifyTitleChanged
      | false =>
        have hfailed := @ReportInvariant.fresh noPlatformTransport (by decide)
        exact (hfailed.lastTransportState _).notifyTitleChanged

theorem reportInvariant {first : List String} {control : ReportControl}
    (h : (reportSystem first).Reachable (fun _ _ => True) control) :
    ReportInvariant first control := by
  apply h.invariant
  · rintro _ ⟨coreError, start, rfl, hcore, rfl⟩
    exact reportInvariant_construct hcore start
  · rintro control event _ - hcontrol - rfl
    exact hcontrol.next event

/-- The transport has nothing to do with the title. -/
theorem ReportControl.next_onTimer_lastTitle (control : ReportControl)
    (state : Option TransportState) :
    (control.next (.onTimer state)).lastTitle = cString control.title := by
  have hnotified : control.notifyTitleChanged.lastTitle = cString control.title := by
    rw [control.notifyTitleChanged_eq]
  cases state with
  | none => exact hnotified
  | some state =>
    simp only [ReportControl.next, ReportControl.updateTransportStatus,
      ReportControl.reportFailure, ReportControl.reportError]
    split
    · exact hnotified
    · split
      · split <;> exact hnotified
      · exact hnotified

/-- In every run the application is told of titles as they change, and of at most one error of the
constructor and one failed start after it. -/
theorem appReports {first : List String} {control : ReportControl}
    (h : (reportSystem first).Reachable (fun _ _ => True) control) : AppReports first control := by
  have hcontrol := reportInvariant h
  constructor
  case title => exact hcontrol.title
  case once =>
    obtain ⟨values, htitles, -⟩ := hcontrol.observed
    rw [htitles]
    exact reportedOnce_observe [] values
  case told => exact hcontrol.told
  case tick =>
    intro state
    rw [(hcontrol.next (.onTimer state)).lastReport_eq, control.next_onTimer_lastTitle]
  case errors => exact hcontrol.errors
  case constructor_error => exact hcontrol.constructor_error.1

/-- A title, a sequence for something else, and two restarts that fail with one between them that
succeeds. -/
def failingTwice : List ReportEvent :=
  [.vteOsc (some [48, 59, 97]), .vteOsc (some [55, 59, 98]), .onTimer (some .running),
    .restartTransport .failed, .restartTransport .running, .onTimer (some .running),
    .restartTransport .failed]

theorem appReports_failingTwice :
    AppReports [] (failingTwice.foldl ReportControl.next
        (.construct Option.none (some (true, .running)))) ∧
      (failingTwice.foldl ReportControl.next
        (.construct Option.none (some (true, .running)))).title = [97] := by
  refine ⟨appReports ?_, rfl⟩
  apply Reachable.foldl ReportControl.next (fun _ _ => ⟨trivial, rfl⟩)
  exact .init ⟨Option.none, some (true, .running), rfl, nofun, rfl⟩

end SakuraTerminal.Wx
