import Mathlib.Data.List.Basic
import Mathlib.Algebra.GroupWithZero.Nat

/-!
# Writing to the child

`PosixPtySession::Write` of `src/pty_session.cpp`, against any answers of `write` and `poll`. What
the descriptor accepts is a prefix of the buffer, and `Write` returns true when it is the whole
buffer (`writeLoop_spec`). `bytes_written_` is only increased behind the loop, so bytes accepted
before a failure are not counted: the call accounts for its bytes exactly when it does not fail
midway (`writeExact_iff`).

The loop is followed by recursion on the list of answers, so a call that does not return is one
whose answers are used up. `LoopResult` says what it returns in terms of the answers alone: either
all bytes were accepted, or some answer ended the loop and the ones before it had accepted so many.
The condition of the theorem asks of the answers that no failing one comes after some that accepted
bytes.
-/

set_option autoImplicit false

namespace SakuraTerminal.Transport

/-- What `poll` answers. Of `revents` the source looks at `POLLOUT` only. -/
inductive PollAnswer where
  | timedOut
  /-- A positive result, with or without `POLLOUT` among the events. -/
  | ready (pollOut : Bool)
  | interrupted
  | error
  deriving DecidableEq, Repr

/-- What `write` answers, and what `poll` answers after `EAGAIN` or `EWOULDBLOCK`. The system
accepts at most the bytes it is given, whatever `count` is. -/
inductive WriteAnswer where
  | written (count : Nat)
  | interrupted
  | wouldBlock (poll : PollAnswer)
  | error
  deriving DecidableEq, Repr

/-- The arguments `data` and `length`. A null pointer with a length is refused before anything is
written. -/
inductive WriteBuffer where
  | null (length : Nat)
  | bytes (data : List UInt8)
  deriving DecidableEq, Repr

/-- The argument `length`. -/
def WriteBuffer.length : WriteBuffer → Nat
  | .null length => length
  | .bytes data => data.length

/-- The argument `data` is null. -/
def WriteBuffer.isNull : WriteBuffer → Bool
  | .null _ => true
  | .bytes _ => false

/-- The bytes a buffer points to. -/
def WriteBuffer.data : WriteBuffer → List UInt8
  | .null _ => []
  | .bytes data => data

/-- The members that `Write` reads and changes. `io_mutex_` is held throughout, so no other call
changes them meanwhile. -/
structure PtyWriter where
  /-- `master_fd_ >= 0`. -/
  masterOpen : Bool := true
  bytesWritten : Nat := 0
  writeEvents : Nat := 0
  deriving DecidableEq, Repr

/-- The three tests after `poll`. The descriptor is tried again after a timeout too. -/
def PollAnswer.retries : PollAnswer → Bool
  | .interrupted => true
  | .ready pollOut => pollOut
  | .timedOut => true
  | .error => false

/-- The loop of `Write`, from `offset` on, and the bytes the descriptor accepted. There is no result
while the loop still waits for an answer. -/
def writeLoop (data : List UInt8) (offset : Nat) (accepted : List UInt8) :
    List WriteAnswer → Option (Bool × List UInt8)
  | [] => if offset < data.length then none else some (true, accepted)
  | answer :: answers =>
    if offset < data.length then
      match answer with
      | .written count =>
        let written := min count (data.length - offset)
        if written > 0 then
          writeLoop data (offset + written) (accepted ++ (data.drop offset).take written) answers
        else some (false, accepted)
      | .interrupted => writeLoop data offset accepted answers
      | .wouldBlock poll =>
        if poll.retries then writeLoop data offset accepted answers else some (false, accepted)
      | .error => some (false, accepted)
    else some (true, accepted)

/-- What a call of `Write` does. The caller learns `returned` only. -/
structure WriteResult where
  returned : Bool
  /-- The bytes the descriptor accepted. -/
  accepted : List UInt8
  writer : PtyWriter
  deriving DecidableEq, Repr

/-- `PosixPtySession::Write` with the answers of the system. There is no result while the call has
not returned. -/
def PtyWriter.write (writer : PtyWriter) (buffer : WriteBuffer) (answers : List WriteAnswer) :
    Option WriteResult :=
  if buffer.isNull ∧ buffer.length ≠ 0 then some ⟨false, [], writer⟩
  else if writer.masterOpen = false then some ⟨false, [], writer⟩
  else
    (writeLoop buffer.data 0 [] answers).map fun (finished, accepted) =>
      if finished then
        -- only a whole buffer is counted
        ⟨true, accepted, { writer with
          bytesWritten := writer.bytesWritten + buffer.length
          writeEvents := writer.writeEvents + 1 }⟩
      else ⟨false, accepted, writer⟩

/-! ## The loop -/

/-- The loop goes on after an answer. -/
def WriteAnswer.goesOn : WriteAnswer → Bool
  | .written count => decide (0 < count)
  | .interrupted => true
  | .wouldBlock poll => poll.retries
  | .error => false

/-- The bytes an answer offers to accept. -/
def WriteAnswer.count : WriteAnswer → Nat
  | .written count => count
  | _ => 0

/-- The bytes that a list of answers offers to accept. Offers beyond the end of the buffer are
included. -/
def acceptedBy (answers : List WriteAnswer) : Nat := (answers.map WriteAnswer.count).sum

/-- After the answers `before` some answer ends the loop while bytes are left. -/
def FailsAfter (length offset : Nat) (answers before : List WriteAnswer) : Prop :=
  ∃ failing after, answers = before ++ failing :: after ∧
    (∀ answer ∈ before, answer.goesOn = true) ∧ failing.goesOn = false ∧
      offset + acceptedBy before < length

/-- An answer the loop goes on after is one of those before the failing one. -/
theorem failsAfter_cons {length offset : Nat} {answer : WriteAnswer}
    {answers before : List WriteAnswer} (hgoesOn : answer.goesOn = true) :
    FailsAfter length offset (answer :: answers) before ↔
      ∃ rest, before = answer :: rest ∧ FailsAfter length (offset + answer.count) answers rest := by
  constructor
  · rintro ⟨failing, after, heq, hbefore, hfailing, hlt⟩
    cases before with
    | nil =>
      obtain ⟨rfl, -⟩ := List.cons.inj heq
      rw [hgoesOn] at hfailing
      contradiction
    | cons first rest =>
      obtain ⟨rfl, rfl⟩ := List.cons.inj heq
      refine ⟨rest, rfl, failing, after, rfl, ?_, hfailing, ?_⟩
      · exact fun earlier hearlier => hbefore earlier (List.mem_cons_of_mem _ hearlier)
      · simp only [acceptedBy, List.map_cons, List.sum_cons] at hlt ⊢
        omega
  · rintro ⟨rest, rfl, failing, after, rfl, hbefore, hfailing, hlt⟩
    refine ⟨failing, after, rfl, ?_, hfailing, ?_⟩
    · intro earlier hearlier
      rcases List.mem_cons.1 hearlier with rfl | hearlier
      · exact hgoesOn
      · exact hbefore earlier hearlier
    · simp only [acceptedBy, List.map_cons, List.sum_cons] at hlt ⊢
      omega

/-- What the loop returns: the descriptor accepted the whole buffer, or what the answers before a
failing one accepted. -/
inductive LoopResult (data : List UInt8) (offset : Nat) (answers : List WriteAnswer) :
    Bool → List UInt8 → Prop where
  | finished : (∀ before, ¬ FailsAfter data.length offset answers before) →
      LoopResult data offset answers true data
  | fails (before : List WriteAnswer) :
      (∀ other, FailsAfter data.length offset answers other ↔ other = before) →
      LoopResult data offset answers false (data.take (offset + acceptedBy before))

/-- The result of the rest of the loop is the result of the loop, with one more answer before it. -/
theorem LoopResult.cons {data : List UInt8} {offset : Nat} {answer : WriteAnswer}
    {answers : List WriteAnswer} {finished : Bool} {accepted : List UInt8}
    (hgoesOn : answer.goesOn = true)
    (h : LoopResult data (offset + answer.count) answers finished accepted) :
    LoopResult data offset (answer :: answers) finished accepted := by
  cases h with
  | finished hnot =>
    refine .finished fun before hfails => ?_
    obtain ⟨rest, -, hrest⟩ := (failsAfter_cons hgoesOn).1 hfails
    exact hnot rest hrest
  | fails before honly =>
    rw [Nat.add_assoc, show answer.count + acceptedBy before = acceptedBy (answer :: before) by
      simp [acceptedBy]]
    refine .fails (answer :: before) fun other => ?_
    rw [failsAfter_cons hgoesOn]
    constructor
    · rintro ⟨rest, rfl, hrest⟩
      rw [(honly rest).1 hrest]
    · rintro rfl
      exact ⟨before, rfl, (honly before).2 rfl⟩

/-- The same for bytes accepted; an answer that offers more than is left is cut to it. -/
theorem LoopResult.written {data : List UInt8} {offset count : Nat} {answers : List WriteAnswer}
    {finished : Bool} {accepted : List UInt8} (hpos : 0 < count)
    (h : LoopResult data (offset + min count (data.length - offset)) answers finished accepted) :
    LoopResult data offset (.written count :: answers) finished accepted := by
  have hgoesOn : (WriteAnswer.written count).goesOn = true := by simp [WriteAnswer.goesOn, hpos]
  by_cases hcut : count ≤ data.length - offset
  · rw [Nat.min_eq_left hcut] at h
    exact h.cons hgoesOn
  · -- nothing is left, so the loop cannot fail any more
    have hnot : ∀ {offset' : Nat} {answers' before : List WriteAnswer}, data.length ≤ offset' →
        ¬ FailsAfter data.length offset' answers' before := by
      rintro offset' answers' before hle ⟨_, _, _, _, _, hlt⟩
      omega
    cases h with
    | finished _ =>
      refine .finished fun before hfails => ?_
      obtain ⟨rest, -, hrest⟩ := (failsAfter_cons hgoesOn).1 hfails
      exact hnot (show data.length ≤ offset + count by omega) hrest
    | fails before honly =>
      exact absurd ((honly before).2 rfl) (hnot (by omega))

/-- The loop fails at an answer. -/
theorem loopResult_fails {data : List UInt8} {offset : Nat} {answer : WriteAnswer}
    (answers : List WriteAnswer) (hlt : offset < data.length) (hfails : answer.goesOn = false) :
    LoopResult data offset (answer :: answers) false (data.take offset) := by
  refine .fails [] fun before => ?_
  constructor
  · rintro ⟨failing, after, heq, hbefore, -⟩
    cases before with
    | nil => rfl
    | cons first rest =>
      obtain ⟨rfl, -⟩ := List.cons.inj heq
      rw [hbefore answer List.mem_cons_self] at hfails
      contradiction
  · rintro rfl
    exact ⟨answer, answers, rfl, by simp, hfails, hlt⟩

theorem loopResult_finished {data : List UInt8} {offset : Nat} (answers : List WriteAnswer)
    (hle : data.length ≤ offset) : LoopResult data offset answers true (data.take offset) := by
  rw [List.take_of_length_le hle]
  refine .finished ?_
  rintro before ⟨_, _, _, _, _, hlt⟩
  omega

/-- The loop, by induction on the answers: each of them is skipped, accepts bytes or ends the
loop. -/
theorem writeLoop_spec {data : List UInt8} {offset : Nat} {answers : List WriteAnswer}
    {finished : Bool} {accepted : List UInt8}
    (h : writeLoop data offset (data.take offset) answers = some (finished, accepted)) :
    LoopResult data offset answers finished accepted := by
  induction answers generalizing offset with
  | nil =>
    rw [writeLoop] at h
    split at h
    · contradiction
    · cases h
      exact loopResult_finished [] (by omega)
  | cons answer answers ih =>
    unfold writeLoop at h
    by_cases hlt : offset < data.length
    · rw [if_pos hlt] at h
      -- one turn of the loop: it goes on from the next offset, or it fails here
      cases answer with
      | written count =>
        dsimp only at h
        split at h
        next hpos =>
          rw [← List.take_add] at h
          exact (ih h).written (by omega)
        next hzero =>
          cases h
          exact loopResult_fails answers hlt (by simp [WriteAnswer.goesOn]; omega)
      | interrupted => exact (ih h).cons rfl
      | wouldBlock poll =>
        dsimp only at h
        split at h
        next hretries => exact (ih h).cons hretries
        next hretries =>
          cases h
          exact loopResult_fails answers hlt (by simpa [WriteAnswer.goesOn] using hretries)
      | error =>
        cases h
        exact loopResult_fails answers hlt rfl
    · rw [if_neg hlt] at h
      cases h
      exact loopResult_finished (answer :: answers) (by omega)

/-! ## A call -/

/-- A call accounts for its bytes: the descriptor accepted a prefix of the buffer, the result says
whether it was the whole buffer, and the bytes are counted. This is what a caller needs in order to
send the rest again after a failure. -/
structure WriteExact (writer : PtyWriter) (buffer : WriteBuffer) (result : WriteResult) :
    Prop where
  accepted : result.accepted <+: buffer.data
  returned : result.returned = true ↔ result.accepted.length = buffer.length
  counted : result.writer.bytesWritten = writer.bytesWritten + result.accepted.length

/-- Some answer ends the loop after others accepted a part of the buffer. It is a condition on the
answers, which come from the descriptor. -/
def FailsMidway (data : List UInt8) (answers : List WriteAnswer) : Prop :=
  ∃ before, FailsAfter data.length 0 answers before ∧ 0 < acceptedBy before

/-- A call returns before the loop or as the loop does. -/
inductive WriteOutcome (writer : PtyWriter) (buffer : WriteBuffer) (answers : List WriteAnswer) :
    WriteResult → Prop where
  | refused : (buffer.length = 0 → writer.masterOpen = false) →
      (writer.masterOpen = true → buffer.data = []) →
      WriteOutcome writer buffer answers ⟨false, [], writer⟩
  | finished : writer.masterOpen = true → buffer.length = buffer.data.length →
      (∀ before, ¬ FailsAfter buffer.data.length 0 answers before) →
      WriteOutcome writer buffer answers ⟨true, buffer.data, { writer with
        bytesWritten := writer.bytesWritten + buffer.length
        writeEvents := writer.writeEvents + 1 }⟩
  | fails (before : List WriteAnswer) : writer.masterOpen = true →
      buffer.length = buffer.data.length →
      (∀ other, FailsAfter buffer.data.length 0 answers other ↔ other = before) →
      WriteOutcome writer buffer answers ⟨false, buffer.data.take (acceptedBy before), writer⟩

/-- A call returns false before the loop, or what the loop returns. -/
theorem writeOutcome {writer : PtyWriter} {buffer : WriteBuffer} {answers : List WriteAnswer}
    {result : WriteResult} (h : writer.write buffer answers = some result) :
    WriteOutcome writer buffer answers result := by
  rw [PtyWriter.write] at h
  by_cases hnull : buffer.isNull ∧ buffer.length ≠ 0
  · rw [if_pos hnull] at h
    cases h
    obtain ⟨hisNull, hne⟩ := hnull
    refine .refused (fun hzero => absurd hzero hne) fun _ => ?_
    cases buffer with
    | null length => rfl
    | bytes data => contradiction
  · rw [if_neg hnull] at h
    have hlength : buffer.length = buffer.data.length := by
      cases buffer with
      | null length =>
        change (WriteBuffer.null length).length = 0
        simpa [WriteBuffer.isNull] using hnull
      | bytes data => rfl
    by_cases hopen : writer.masterOpen = false
    · rw [if_pos hopen] at h
      cases h
      exact .refused (fun _ => hopen) fun htrue => absurd (htrue.symm.trans hopen) (by simp)
    · rw [if_neg hopen] at h
      rw [Bool.not_eq_false] at hopen
      obtain ⟨⟨finished, accepted⟩, hrun, hresult⟩ := Option.map_eq_some_iff.1 h
      have hspec := @writeLoop_spec _ 0 _ _ _ hrun
      cases hspec with
      | finished hnot =>
        cases hresult
        exact .finished hopen hlength hnot
      | fails before honly =>
        cases hresult
        rw [Nat.zero_add]
        exact .fails before hopen hlength honly

/-- A call accounts for its bytes unless it fails midway; an empty buffer has to be written to an
open descriptor. -/
theorem writeExact_iff {writer : PtyWriter} {buffer : WriteBuffer} {answers : List WriteAnswer}
    {result : WriteResult} (h : writer.write buffer answers = some result) :
    WriteExact writer buffer result ↔
      (buffer.length = 0 → writer.masterOpen = true) ∧
        (writer.masterOpen = true → ¬ FailsMidway buffer.data answers) := by
  cases writeOutcome h with
  | refused hempty hdata =>
    constructor
    · intro hexact
      refine ⟨fun hzero => ?_, fun hopen => ?_⟩
      · -- nothing was accepted, which is all of an empty buffer
        exact absurd (hexact.returned.2 hzero.symm) Bool.false_ne_true
      · rw [hdata hopen]
        rintro ⟨before, ⟨_, _, _, _, _, hlt⟩, -⟩
        exact absurd hlt (Nat.not_lt_zero _)
    · rintro ⟨hopen, -⟩
      refine ⟨List.nil_prefix, ⟨fun hfalse => absurd hfalse Bool.false_ne_true, fun hzero => ?_⟩,
        rfl⟩
      have hclosed := hempty hzero.symm
      rw [hopen hzero.symm] at hclosed
      contradiction
  | finished hopen hlength hnot =>
    constructor
    · intro _
      exact ⟨fun _ => hopen, fun _ ⟨before, hfails, _⟩ => hnot before hfails⟩
    · intro _
      exact ⟨List.prefix_rfl, ⟨fun _ => hlength.symm, fun _ => rfl⟩, congrArg _ hlength⟩
  | fails before hopen hlength honly =>
    have hfails := (honly before).2 rfl
    have hlt : acceptedBy before < buffer.data.length := by
      obtain ⟨_, _, _, _, _, hlt⟩ := hfails
      omega
    have hcount : (buffer.data.take (acceptedBy before)).length = acceptedBy before := by
      rw [List.length_take, Nat.min_eq_left (Nat.le_of_lt hlt)]
    constructor
    · intro hexact
      refine ⟨fun _ => hopen, fun _ ⟨other, hother, hpos⟩ => ?_⟩
      -- the bytes before the failure are accepted and not counted
      have hcounted := hexact.counted
      rw [hcount] at hcounted
      rw [(honly other).1 hother] at hpos
      change writer.bytesWritten = _ at hcounted
      omega
    · rintro ⟨-, hmidway⟩
      have hzero : acceptedBy before = 0 := by
        by_contra hne
        exact hmidway hopen ⟨before, hfails, Nat.pos_of_ne_zero hne⟩
      refine ⟨List.take_prefix _ _, ⟨fun hfalse => absurd hfalse Bool.false_ne_true, ?_⟩, ?_⟩
      · intro hwhole
        rw [hcount, hlength] at hwhole
        omega
      · rw [hcount, hzero]
        rfl

/-- A short write, an interrupted one and a full descriptor that drains. -/
def draining : List WriteAnswer :=
  [.written 1, .interrupted, .wouldBlock .timedOut, .wouldBlock (.ready true), .written 5]

theorem writeExact_iff_draining :
    WriteExact {} (.bytes [97, 98, 99]) ⟨true, [97, 98, 99], ⟨true, 3, 1⟩⟩ := by
  refine (@writeExact_iff _ _ draining _ (by decide)).2 ⟨fun _ => rfl, fun _ => ?_⟩
  rintro ⟨before, ⟨failing, after, heq, -, hfailing, -⟩, -⟩
  -- no answer ends the loop
  have hmem : failing ∈ draining := by
    rw [heq]
    simp
  have hall : ∀ answer ∈ draining, answer.goesOn = true := by decide
  rw [hall failing hmem] at hfailing
  contradiction

/-- One byte is accepted before the child closes its side, and is not counted. -/
theorem not_writeExact : ¬ ∀ (writer : PtyWriter) (buffer : WriteBuffer)
    (answers : List WriteAnswer) (result : WriteResult),
    writer.write buffer answers = some result → WriteExact writer buffer result := by
  intro h
  have hexact := h {} (.bytes [97, 98]) [.written 1, .error] ⟨false, [97], {}⟩ (by decide)
  exact absurd hexact.counted (by decide)

end SakuraTerminal.Transport
