import Mathlib.Data.List.Basic

/-!
# The selection of the core

The selection functions of `TerminalBackend` in `src/terminal_core.cpp`. libtsm keeps the selection;
the core knows whether there is one (`selection_active_`), keeps cells outside of the screen from
libtsm, and passes targets and copies on while there is a selection.

`SelectionBackend.selected` is what libtsm was told to select, read off its calls. Whatever is asked
of the core, libtsm is given targets and asked for copies only while something is selected
(`Meets`), and the cells it is given to start from are on its screen.

The calls of libtsm are the only trace the core leaves, so everything that a user of the core wants
to know is stated on their list: what is selected now, and how often a copy was asked for. `Shows`
packs the two together with the core's own flag, and each function has one lemma that says what it
shows afterwards. The window's dragging works with these lemmas and never looks at the calls again.
-/

set_option autoImplicit false

namespace SakuraTerminal.Core

/-- The size of a screen of libtsm, which has at least one cell. libtsm gives no other, and a line
selection ends in the last column. -/
structure ScreenSize where
  width : Nat
  height : Nat
  width_pos : 0 < width
  height_pos : 0 < height
  deriving DecidableEq, Repr

/-- The cell is on a screen of this size. -/
def ScreenSize.Has (size : ScreenSize) (cell : Nat × Nat) : Prop :=
  cell.1 < size.width ∧ cell.2 < size.height

instance (size : ScreenSize) (cell : Nat × Nat) : Decidable (size.Has cell) :=
  inferInstanceAs (Decidable (_ ∧ _))

/-- A call of a `tsm_screen_selection_` function. -/
inductive TsmSelection where
  | start (cell : Nat × Nat)
  | target (cell : Nat × Nat)
  | word (cell : Nat × Nat)
  | reset
  | copy
  deriving DecidableEq, Repr

namespace TsmSelection

/-- The cell a call is about, if it names one. -/
def cell : TsmSelection → Option (Nat × Nat)
  | .start cell | .target cell | .word cell => some cell
  | .reset | .copy => none

/-- The call is about a selection that is there. libtsm does nothing useful with it otherwise. -/
def needsSelection : TsmSelection → Bool
  | .target _ | .copy => true
  | .start _ | .word _ | .reset => false

end TsmSelection

/-- A selection, from a cell or from the word at it. A word has its target where it starts; a drag
moves the target and leaves the start alone. -/
structure Selected where
  word : Bool
  start : Nat × Nat
  target : Nat × Nat
  deriving DecidableEq, Repr

/-- The selection with its target moved. -/
def Selected.extend (selected : Selected) (cell : Nat × Nat) : Selected :=
  { selected with target := cell }

@[simp]
theorem Selected.extend_extend (selected : Selected) (cell cell' : Nat × Nat) :
    (selected.extend cell).extend cell' = selected.extend cell' := rfl

/-- What is selected after a call. -/
def selectedAfter (selected : Option Selected) : TsmSelection → Option Selected
  | .start cell => some ⟨false, cell, cell⟩
  | .word cell => some ⟨true, cell, cell⟩
  | .target cell => selected.map (·.extend cell)
  | .reset => none
  | .copy => selected

/-- What is selected after calls, from none. -/
def selectedBy (calls : List TsmSelection) : Option Selected := calls.foldl selectedAfter none

@[simp]
theorem selectedBy_append_singleton (calls : List TsmSelection) (call : TsmSelection) :
    selectedBy (calls ++ [call]) = selectedAfter (selectedBy calls) call := by
  simp [selectedBy]

/-- Every target and every copy finds something selected. -/
inductive Meets : List TsmSelection → Prop where
  | nil : Meets []
  | call {calls : List TsmSelection} {call : TsmSelection} : Meets calls →
      (call.needsSelection = true → (selectedBy calls).isSome = true) → Meets (calls ++ [call])

/-- A call with the size the screen had then. The size matters since a cell is checked when the call
is made and the terminal may be resized later. -/
structure SelectionCall where
  call : TsmSelection
  screen : ScreenSize
  deriving DecidableEq, Repr

/-- A call that names a cell names one that the screen had. -/
def SelectionCall.OnScreen (call : SelectionCall) : Prop :=
  ∀ cell, call.call.cell = some cell → call.screen.Has cell

/-- The members of `TerminalBackend::Impl` for the selection, and the calls of libtsm so far.
`selectionCopies` counts the copies that came back with a text. -/
structure SelectionBackend where
  screen : ScreenSize
  selectionActive : Bool := false
  selectionCopies : Nat := 0
  calls : List SelectionCall := []
  deriving DecidableEq, Repr

namespace SelectionBackend

variable (backend : SelectionBackend)

/-! ## The source -/

def call (call : TsmSelection) : SelectionBackend :=
  { backend with calls := backend.calls ++ [⟨call, backend.screen⟩] }

/-- `StartSelection`, which ignores a cell outside of the screen. -/
def startSelection (cell : Nat × Nat) : SelectionBackend :=
  if cell.1 ≥ backend.screen.width ∨ cell.2 ≥ backend.screen.height then backend
  else { backend.call (.start cell) with selectionActive := true }

/-- `UpdateSelection`, which relies on the caller for a cell of the screen. -/
def updateSelection (cell : Nat × Nat) : SelectionBackend :=
  if backend.selectionActive then backend.call (.target cell) else backend

/-- `SelectWord`: the old selection is reset first. -/
def selectWord (cell : Nat × Nat) : SelectionBackend :=
  if cell.1 ≥ backend.screen.width ∨ cell.2 ≥ backend.screen.height then backend
  else { (backend.call .reset).call (.word cell) with selectionActive := true }

/-- `SelectLine`, from the first cell of the row to its last. -/
def selectLine (row : Nat) : SelectionBackend :=
  if row ≥ backend.screen.height then backend
  else (backend.startSelection (0, row)).updateSelection (backend.screen.width - 1, row)

/-- `ClearSelection`. -/
def clearSelection : SelectionBackend := { backend.call .reset with selectionActive := false }

/-- `HasSelection`. -/
def hasSelection : Bool := backend.selectionActive

/-- `CopySelection`. libtsm answers with a text, or with an error or no text at all. -/
def copySelection (copied : Option (List UInt8)) : SelectionBackend × List UInt8 :=
  if !backend.selectionActive then (backend, [])
  else
    match copied with
    | none => ({ backend.call .copy with selectionActive := false }, [])
    | some text =>
      ({ backend.call .copy with
          selectionCopies := backend.selectionCopies + if text.isEmpty then 0 else 1 }, text)

/-- `Resize`, which libtsm may refuse. -/
def resize (size : ScreenSize) (resized : Bool) : SelectionBackend :=
  if resized then { backend with screen := size } else backend

/-! ## What libtsm is told -/

/-- The calls of libtsm so far, without the sizes. -/
def told : List TsmSelection := backend.calls.map (·.call)

/-- What libtsm has selected after them. -/
def selected : Option Selected := selectedBy backend.told

/-- How often libtsm was asked for a copy. -/
def copies : Nat := backend.told.count .copy

@[simp]
theorem call_told (call : TsmSelection) :
    (backend.call call).told = backend.told ++ [call] := by
  simp [told, SelectionBackend.call]

@[simp]
theorem call_selected (call : TsmSelection) :
    (backend.call call).selected = selectedAfter backend.selected call := by
  simp [selected]

@[simp]
theorem call_copies (call : TsmSelection) :
    (backend.call call).copies = backend.copies + if call = .copy then 1 else 0 := by
  simp [copies, List.count_singleton]

@[simp]
theorem call_screen (call : TsmSelection) : (backend.call call).screen = backend.screen := rfl

@[simp]
theorem call_selectionActive (call : TsmSelection) :
    (backend.call call).selectionActive = backend.selectionActive := rfl

end SelectionBackend

/-- Calls that find something selected where they need it, with cells of the screen. -/
structure CallsSound (calls : List SelectionCall) : Prop where
  meets : Meets (calls.map (·.call))
  onScreen : ∀ call ∈ calls, call.OnScreen

/-- What holds of the core's selection after any functions of its own. The flag may be off while
libtsm has a selection, but never the other way round. -/
structure SelectionSound (backend : SelectionBackend) : Prop where
  calls : CallsSound backend.calls
  active : backend.selectionActive = true → backend.selected.isSome = true

section operations

variable {backend : SelectionBackend} {cell : Nat × Nat}

/-- One more call, which finds something selected if it has to and names a cell of the screen. -/
theorem CallsSound.call (h : CallsSound backend.calls) {call : TsmSelection}
    (hmeets : call.needsSelection = true → backend.selected.isSome = true)
    (hcell : ∀ cell, call.cell = some cell → backend.screen.Has cell) :
    CallsSound (backend.call call).calls where
  meets := by
    rw [SelectionBackend.call, List.map_append]
    exact h.meets.call hmeets
  onScreen := by
    intro made hmade
    rcases List.mem_append.mp hmade with hold | hnew
    · exact h.onScreen made hold
    · cases List.mem_singleton.mp hnew
      exact hcell

/-- `StartSelection` starts a selection on the screen. -/
theorem startSelection_of_has (hcell : backend.screen.Has cell) :
    backend.startSelection cell =
      { backend.call (.start cell) with selectionActive := true } := by
  apply if_neg
  rw [not_or, Nat.not_le, Nat.not_le]
  exact hcell

theorem startSelection_of_not_has (hcell : ¬ backend.screen.Has cell) :
    backend.startSelection cell = backend := by
  apply if_pos
  rw [ScreenSize.Has, not_and_or, Nat.not_lt, Nat.not_lt] at hcell
  exact hcell

theorem selectWord_of_has (hcell : backend.screen.Has cell) :
    backend.selectWord cell =
      { (backend.call .reset).call (.word cell) with selectionActive := true } := by
  apply if_neg
  rw [not_or, Nat.not_le, Nat.not_le]
  exact hcell

theorem selectWord_of_not_has (hcell : ¬ backend.screen.Has cell) :
    backend.selectWord cell = backend := by
  apply if_pos
  rw [ScreenSize.Has, not_and_or, Nat.not_lt, Nat.not_lt] at hcell
  exact hcell

theorem SelectionSound.startSelection (h : SelectionSound backend) (cell : Nat × Nat) :
    SelectionSound (backend.startSelection cell) := by
  by_cases hcell : backend.screen.Has cell
  · rw [startSelection_of_has hcell]
    constructor
    · apply h.calls.call
      · exact fun hneeds => absurd hneeds Bool.false_ne_true
      · rintro _ ⟨⟩
        exact hcell
    · exact fun _ => congrArg Option.isSome (backend.call_selected (.start cell))
  · rw [startSelection_of_not_has hcell]
    exact h

/-- The flag keeps a target from libtsm while nothing is selected. -/
theorem SelectionSound.updateSelection (h : SelectionSound backend)
    (hcell : backend.screen.Has cell) : SelectionSound (backend.updateSelection cell) := by
  unfold SelectionBackend.updateSelection
  split
  · rename_i hactive
    constructor
    · apply h.calls.call
      · exact fun _ => h.active hactive
      · rintro _ ⟨⟩
        exact hcell
    · intro _
      rw [SelectionBackend.call_selected, selectedAfter, Option.isSome_map]
      exact h.active hactive
  · exact h

/-- The reset comes first and needs nothing. -/
theorem SelectionSound.selectWord (h : SelectionSound backend) (cell : Nat × Nat) :
    SelectionSound (backend.selectWord cell) := by
  by_cases hcell : backend.screen.Has cell
  · rw [selectWord_of_has hcell]
    constructor
    · apply CallsSound.call
      · apply h.calls.call
        · exact fun hneeds => absurd hneeds Bool.false_ne_true
        · rintro _ ⟨⟩
      · exact fun hneeds => absurd hneeds Bool.false_ne_true
      · rintro _ ⟨⟩
        exact hcell
    · exact fun _ => congrArg Option.isSome ((backend.call .reset).call_selected (.word cell))
  · rw [selectWord_of_not_has hcell]
    exact h

theorem SelectionSound.selectLine (h : SelectionSound backend) (row : Nat) :
    SelectionSound (backend.selectLine row) := by
  unfold SelectionBackend.selectLine
  split
  · exact h
  · rename_i hrow
    have hrow : row < backend.screen.height := Nat.lt_of_not_le hrow
    apply (h.startSelection (0, row)).updateSelection
    rw [startSelection_of_has ⟨backend.screen.width_pos, hrow⟩]
    exact ⟨Nat.sub_lt backend.screen.width_pos Nat.one_pos, hrow⟩

theorem SelectionSound.clearSelection (h : SelectionSound backend) :
    SelectionSound backend.clearSelection := by
  constructor
  · apply h.calls.call
    · exact fun hneeds => absurd hneeds Bool.false_ne_true
    · rintro _ ⟨⟩
  · exact fun hactive => absurd hactive Bool.false_ne_true

/-- A copy that fails clears the flag, and one that succeeds leaves it. -/
theorem SelectionSound.copySelection (h : SelectionSound backend)
    (copied : Option (List UInt8)) : SelectionSound (backend.copySelection copied).1 := by
  unfold SelectionBackend.copySelection
  cases hactive : backend.selectionActive with
  | false => exact h
  | true =>
    have hcalls : CallsSound (backend.call .copy).calls := by
      apply h.calls.call
      · exact fun _ => h.active hactive
      · rintro _ ⟨⟩
    cases copied with
    | none => exact ⟨hcalls, fun hnot => absurd hnot Bool.false_ne_true⟩
    | some text =>
      refine ⟨hcalls, fun _ => ?_⟩
      exact (congrArg Option.isSome (backend.call_selected .copy)).trans (h.active hactive)

theorem SelectionSound.resize (h : SelectionSound backend) (size : ScreenSize) (resized : Bool) :
    SelectionSound (backend.resize size resized) := by
  unfold SelectionBackend.resize
  split
  · exact ⟨h.calls, h.active⟩
  · exact h

end operations

/-! ## What the functions select -/

/-- The core knows what is selected, after so many copies. This is what a lemma about one function
leaves to the next one. -/
structure Shows (backend : SelectionBackend) (selection : Option Selected) (count : Nat) :
    Prop where
  selected : backend.selected = selection
  active : backend.selectionActive = selection.isSome
  copies : backend.copies = count

section shows

variable {backend : SelectionBackend} {cell : Nat × Nat} {selection : Selected} {count : Nat}

theorem shows_clearSelection (backend : SelectionBackend) :
    Shows backend.clearSelection none backend.copies where
  selected := backend.call_selected .reset
  active := rfl
  copies := backend.call_copies .reset

theorem shows_startSelection (hcell : backend.screen.Has cell) :
    Shows (backend.startSelection cell) (some ⟨false, cell, cell⟩) backend.copies := by
  rw [startSelection_of_has hcell]
  exact ⟨backend.call_selected (.start cell), rfl, backend.call_copies (.start cell)⟩

theorem Shows.updateSelection (h : Shows backend (some selection) count) (cell : Nat × Nat) :
    Shows (backend.updateSelection cell) (some (selection.extend cell)) count := by
  have hactive : backend.selectionActive = true := h.active
  unfold SelectionBackend.updateSelection
  rw [if_pos hactive]
  constructor
  · rw [SelectionBackend.call_selected, h.selected]
    rfl
  · exact h.active
  · rw [SelectionBackend.call_copies, h.copies]
    rfl

theorem shows_selectWord (hcell : backend.screen.Has cell) :
    Shows (backend.selectWord cell) (some ⟨true, cell, cell⟩) backend.copies := by
  rw [selectWord_of_has hcell]
  constructor
  · exact (backend.call .reset).call_selected (.word cell)
  · rfl
  · exact ((backend.call .reset).call_copies (.word cell)).trans (backend.call_copies .reset)

theorem shows_selectLine {row : Nat} (hrow : row < backend.screen.height) :
    Shows (backend.selectLine row)
      (some ⟨false, (0, row), (backend.screen.width - 1, row)⟩) backend.copies := by
  unfold SelectionBackend.selectLine
  rw [if_neg (Nat.not_le.mpr hrow)]
  exact (shows_startSelection ⟨backend.screen.width_pos, hrow⟩).updateSelection _

/-- A copy leaves the selection as it is, also one that fails. -/
theorem Shows.copySelection (h : Shows backend (some selection) count)
    (copied : Option (List UInt8)) :
    (backend.copySelection copied).1.selected = some selection ∧
      (backend.copySelection copied).1.copies = count + 1 := by
  have hselected : (backend.call .copy).selected = some selection :=
    (backend.call_selected .copy).trans h.selected
  have hcopies : (backend.call .copy).copies = count + 1 :=
    (backend.call_copies .copy).trans (congrArg (· + 1) h.copies)
  unfold SelectionBackend.copySelection
  rw [h.active, if_neg (by simp)]
  cases copied with
  | none => exact ⟨hselected, hcopies⟩
  | some text => exact ⟨hselected, hcopies⟩

end shows

end SakuraTerminal.Core
