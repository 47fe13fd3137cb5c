import SakuraTerminal.Transport.PtyWrite

/-!
# The two transports as receivers of input

`Write` of `src/conpty_session.cpp`, and what `Write` of either session guarantees its caller:
a front part of the buffer is accepted, all of it when the result is true, and the buffer is counted
then only (`WriteSpec`). `InputTransport` is `TerminalTransport` as far as input is concerned.

The two loops are different: the POSIX session waits for a descriptor that may refuse a byte, while
the ConPTY session only asks whether `WriteFile` succeeded. A caller sees the same in both, and
`InputTransport` carries this as a field, so the module on the input pipeline has one proof for both
transports.
-/

set_option autoImplicit false

namespace SakuraTerminal.Transport

/-! ## ConPTY -/

/-- What `WriteFile` does: its result and `written`. It writes no more than it is given, and when
it fails it may have written a part. The loop goes on only if the call succeeded and wrote
something. -/
structure WriteFileAnswer where
  succeeds : Bool
  written : Nat
  deriving DecidableEq, Repr

/-- The members that `Write` reads and changes. `Stop` clears the handle under the lock that `Write`
holds. -/
structure ConPtyWriter where
  /-- `input_write_ != nullptr`. -/
  inputOpen : Bool := true
  bytesWritten : Nat := 0
  writeEvents : Nat := 0
  deriving DecidableEq, Repr

/-- The loop of `Write`, from `offset` on, and the bytes the pipe accepted. There is no result while
the loop still waits for an answer. -/
def conPtyWriteLoop (data : List UInt8) (offset : Nat) (accepted : List UInt8) :
    List WriteFileAnswer → Option (Bool × List UInt8)
  | [] => if offset < data.length then none else some (true, accepted)
  | answer :: answers =>
    if offset < data.length then
      let chunk := min (data.length - offset) (1 <<< 20)
      let written := min answer.written chunk
      let accepted := accepted ++ (data.drop offset).take written
      if !answer.succeeds || written == 0 then some (false, accepted)
      else conPtyWriteLoop data (offset + written) accepted answers
    else some (true, accepted)

/-- What a call of `ConPtySession::Write` does. The caller learns `returned` only; `accepted` is
what has arrived at the pipe, also when the call failed. -/
structure ConPtyWriteResult where
  returned : Bool
  accepted : List UInt8
  writer : ConPtyWriter
  deriving DecidableEq, Repr

/-- `ConPtySession::Write` with the answers of the system. There is no result while the call has not
returned. -/
def ConPtyWriter.write (writer : ConPtyWriter) (data : List UInt8)
    (answers : List WriteFileAnswer) : Option ConPtyWriteResult :=
  if writer.inputOpen = false then some ⟨false, [], writer⟩
  else
    (conPtyWriteLoop data 0 [] answers).map fun (finished, accepted) =>
      if finished then
        ⟨true, accepted, { writer with
          bytesWritten := writer.bytesWritten + data.length
          writeEvents := writer.writeEvents + 1 }⟩
      else ⟨false, accepted, writer⟩

/-- The pipe accepts a front part, and the loop is finished when that is the whole buffer. -/
theorem conPtyWriteLoop_spec {data : List UInt8} {offset : Nat} {answers : List WriteFileAnswer}
    {finished : Bool} {accepted : List UInt8}
    (h : conPtyWriteLoop data offset (data.take offset) answers = some (finished, accepted)) :
    accepted <+: data ∧ (finished = true → accepted = data) := by
  induction answers generalizing offset with
  | nil =>
    rw [conPtyWriteLoop] at h
    split at h
    · contradiction
    · rename_i hle
      cases h
      exact ⟨List.take_prefix offset data, fun _ => List.take_of_length_le (Nat.le_of_not_lt hle)⟩
  | cons answer answers ih =>
    rw [conPtyWriteLoop] at h
    by_cases hlt : offset < data.length
    · rw [if_pos hlt] at h
      dsimp only at h
      rw [← List.take_add] at h
      split at h
      · -- `WriteFile` fails, or writes nothing
        cases h
        exact ⟨List.take_prefix _ data, fun htrue => nomatch htrue⟩
      · exact ih h
    · rw [if_neg hlt] at h
      cases h
      exact ⟨List.take_prefix offset data, fun _ => List.take_of_length_le (Nat.le_of_not_lt hlt)⟩

/-! ## What a call guarantees -/

/-- The counters of a session and whether it is open. It is what the two sessions have in common. -/
structure WriterView where
  isOpen : Bool
  bytesWritten : Nat
  writeEvents : Nat
  deriving DecidableEq, Repr

/-- A call of `Write` with `data`, of which the system accepted `accepted`. A buffer that is refused
half way is not counted, though a front part of it was accepted. -/
structure WriteSpec (data : List UInt8) (before after : WriterView) (returned : Bool)
    (accepted : List UInt8) : Prop where
  front : accepted <+: data
  whole : returned = true → accepted = data
  isOpen : after.isOpen = before.isOpen
  /-- A session that is not open refuses the buffer. -/
  refused : before.isOpen = false → returned = false ∧ accepted = []
  bytesWritten : after.bytesWritten =
    before.bytesWritten + if returned = true then data.length else 0
  writeEvents : after.writeEvents = before.writeEvents + if returned = true then 1 else 0

/-- A call that returns before the loop or fails in it changes no member. -/
theorem WriteSpec.unreported {data accepted : List UInt8} {view : WriterView}
    (hfront : accepted <+: data) (hrefused : view.isOpen = false → accepted = []) :
    WriteSpec data view view false accepted where
  front := hfront
  whole := fun h => nomatch h
  isOpen := rfl
  refused := fun h => ⟨rfl, hrefused h⟩
  bytesWritten := rfl
  writeEvents := rfl

/-- A call that returns true. -/
theorem WriteSpec.finished {data : List UInt8} {view : WriterView} (hopen : view.isOpen = true) :
    WriteSpec data view { view with
      bytesWritten := view.bytesWritten + data.length
      writeEvents := view.writeEvents + 1 } true data where
  front := List.prefix_refl data
  whole := fun _ => rfl
  isOpen := rfl
  refused := fun h => absurd (hopen.symm.trans h) (by decide)
  bytesWritten := rfl
  writeEvents := rfl

/-- The view of the POSIX session. -/
def PtyWriter.view (writer : PtyWriter) : WriterView :=
  ⟨writer.masterOpen, writer.bytesWritten, writer.writeEvents⟩

/-- The view of the ConPTY session. -/
def ConPtyWriter.view (writer : ConPtyWriter) : WriterView :=
  ⟨writer.inputOpen, writer.bytesWritten, writer.writeEvents⟩

theorem PtyWriter.write_spec {writer : PtyWriter} {data : List UInt8} {answers : List WriteAnswer}
    {result : WriteResult} (h : writer.write (.bytes data) answers = some result) :
    WriteSpec data writer.view result.writer.view result.returned result.accepted := by
  cases writeOutcome h with
  | refused _ _ => exact .unreported List.nil_prefix fun _ => rfl
  | finished hopen _ _ => exact .finished hopen
  | fails before hopen _ _ =>
    exact .unreported (List.take_prefix _ data) fun hclosed =>
      absurd (hopen.symm.trans hclosed) (by decide)

/-- A call returns before the loop, fails in it, or finishes it and counts the buffer. -/
theorem ConPtyWriter.write_spec {writer : ConPtyWriter} {data : List UInt8}
    {answers : List WriteFileAnswer} {result : ConPtyWriteResult}
    (h : writer.write data answers = some result) :
    WriteSpec data writer.view result.writer.view result.returned result.accepted := by
  rw [ConPtyWriter.write] at h
  by_cases hclosed : writer.inputOpen = false
  · rw [if_pos hclosed] at h
    cases h
    exact .unreported List.nil_prefix fun _ => rfl
  · rw [if_neg hclosed] at h
    rw [Bool.not_eq_false] at hclosed
    obtain ⟨⟨finished, accepted⟩, hloop, hresult⟩ := Option.map_eq_some_iff.1 h
    obtain ⟨hfront, hwhole⟩ := @conPtyWriteLoop_spec _ 0 _ _ _ hloop
    cases finished with
    | true =>
      cases hresult
      rw [hwhole rfl]
      exact .finished hclosed
    | false =>
      cases hresult
      exact .unreported hfront fun hfalse => absurd (hclosed.symm.trans hfalse) (by decide)

/-! ## The interface -/

/-- `TerminalTransport`, as far as input is concerned: the members of a session and the answers of
the system to one call of `Write`. The last three fields are proofs, so an instance cannot be built
of a session that breaks the specification. -/
structure InputTransport (σ α : Type) where
  new : σ
  view : σ → WriterView
  /-- What `Start` and `Stop` do to the members that `Write` uses. -/
  setOpen : σ → Bool → σ
  /-- The result, what the system accepted, and the members afterwards. -/
  write : σ → List UInt8 → List α → Option (Bool × List UInt8 × σ)
  view_new : view new = ⟨false, 0, 0⟩
  view_setOpen : ∀ session isOpen, view (setOpen session isOpen) = { view session with isOpen }
  write_spec : ∀ session data answers returned accepted session',
    write session data answers = some (returned, accepted, session') →
      WriteSpec data (view session) (view session') returned accepted

/-- The POSIX session. -/
def PosixPtySession.input : InputTransport PtyWriter WriteAnswer where
  new := { masterOpen := false }
  view := PtyWriter.view
  setOpen writer isOpen := { writer with masterOpen := isOpen }
  write writer data answers := (writer.write (.bytes data) answers).map fun result =>
    (result.returned, result.accepted, result.writer)
  view_new := rfl
  view_setOpen := fun _ _ => rfl
  write_spec := by
    intro writer data answers returned accepted writer' h
    obtain ⟨result, hresult, heq⟩ := Option.map_eq_some_iff.1 h
    cases heq
    exact PtyWriter.write_spec hresult

/-- The ConPTY session. -/
def ConPtySession.input : InputTransport ConPtyWriter WriteFileAnswer where
  new := { inputOpen := false }
  view := ConPtyWriter.view
  setOpen writer isOpen := { writer with inputOpen := isOpen }
  write writer data answers := (writer.write data answers).map fun result =>
    (result.returned, result.accepted, result.writer)
  view_new := rfl
  view_setOpen := fun _ _ => rfl
  write_spec := by
    intro writer data answers returned accepted writer' h
    obtain ⟨result, hresult, heq⟩ := Option.map_eq_some_iff.1 h
    cases heq
    exact ConPtyWriter.write_spec hresult

end SakuraTerminal.Transport
