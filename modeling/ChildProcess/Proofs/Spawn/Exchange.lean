import ChildProcess.Proofs.Descriptors.Answers
import ChildProcess.Spawn.Report
import Mathlib.Tactic.IntervalCases

/-!
# What a child and its parent exchange

A child that fails writes the bytes of an error number, and its parent reads them and
collects the child.  Between two processes that are there, these calls fail only when a
signal interrupts them.  How often a process may be held up, by signals or by another
batch of directory records, is a number that runs down, so that it can be compared with
the rounds that a program has been granted.
-/

namespace ChildProcess

/-! ## The bytes of an error number -/

namespace Report

theorem word_of_bytes (word : UInt32) :
    word.toUInt8.toUInt32 ||| (word >>> 8).toUInt8.toUInt32 <<< 8
      ||| (word >>> 16).toUInt8.toUInt32 <<< 16
      ||| (word >>> 24).toUInt8.toUInt32 <<< 24 = word := by
  apply UInt32.toBitVec_inj.mp
  apply BitVec.eq_of_getLsbD_eq
  intro index isBit
  simp only [UInt32.toBitVec_or, UInt32.toBitVec_shiftLeft, UInt32.toBitVec_shiftRight,
    UInt8.toBitVec_toUInt32, UInt32.toBitVec_toUInt8, BitVec.getLsbD_or]
  interval_cases index <;> simp

/-- The parent reads the error number that the child has written. -/
theorem decode_encode (errno : Errno) : decode (encode errno) = some errno := by
  simp only [encode, decode, word_of_bytes]
  rw [Int32.toInt32_toUInt32]

theorem length_encode (errno : Errno) : (encode errno).length = length := rfl

end Report

/-! ## What has happened -/

/-- The bytes that have been written. -/
def sent (events : List Event) : Bytes :=
  events.flatMap fun event =>
    match event with
    | ⟨.write _ data, .ok count⟩ => data.take count
    | _ => []

/-- The bytes that have been read. -/
def received (events : List Event) : Bytes :=
  events.flatMap fun event =>
    match event with
    | ⟨.read _ _, .ok bytes⟩ => bytes
    | _ => []

/-- The end of a file has been read. -/
def EndSeen (events : List Event) : Prop :=
  ∃ number count, (⟨.read number count, .ok []⟩ : Event) ∈ events

/-- A child has been waited for. -/
def HasCollected (process : ProcessId) (events : List Event) : Prop :=
  ∃ answer, (⟨.collect process .untilEnd, answer⟩ : Event) ∈ events ∧
    answer ≠ .error Errno.EINTR

/-- Calls that concern nobody but the process that makes them. -/
def IsPrivate : Call → Prop
  | .read _ _ | .write _ _ | .collect _ _ | .fork | .exit _ => False
  | _ => True

section Events

variable {process : ProcessId} {first second events : List Event} {event : Event}

theorem sent_append : sent (first ++ second) = sent first ++ sent second :=
  List.flatMap_append

theorem received_append :
    received (first ++ second) = received first ++ received second :=
  List.flatMap_append

theorem endSeen_append : EndSeen (first ++ second) ↔ EndSeen first ∨ EndSeen second := by
  simp only [EndSeen, List.mem_append, exists_or]

theorem hasCollected_append :
    HasCollected process (first ++ second) ↔
      HasCollected process first ∨ HasCollected process second := by
  simp only [HasCollected, List.mem_append, or_and_right, exists_or]

theorem sent_of_ne
    {request : Call}
    (answer : request.Answer)
    (noWriting : ∀ number data, request ≠ .write number data) :
    sent [⟨request, answer⟩] = [] := by
  cases request <;> first | rfl | exact absurd rfl (noWriting _ _)

theorem received_of_ne
    {request : Call}
    (answer : request.Answer)
    (noReading : ∀ number count, request ≠ .read number count) :
    received [⟨request, answer⟩] = [] := by
  cases request <;> first | rfl | exact absurd rfl (noReading _ _)

theorem not_endSeen_of_ne
    {request : Call}
    {answer : request.Answer}
    (noReading : ∀ number count, request ≠ .read number count) :
    ¬EndSeen [⟨request, answer⟩] := by
  rintro ⟨number, count, isMember⟩
  cases List.mem_singleton.mp isMember
  exact noReading number count rfl

theorem not_hasCollected_of_ne
    {request : Call}
    {answer : request.Answer}
    (noCollecting : ∀ number mode, request ≠ .collect number mode) :
    ¬HasCollected process [⟨request, answer⟩] := by
  rintro ⟨answer, isMember, -⟩
  cases List.mem_singleton.mp isMember
  exact noCollecting process .untilEnd rfl

end Events

/-! ## What may be answered -/

/-- What may be answered about a pipe or a child, as long as both processes are there. -/
def IsOrderly : Event → Prop
  | ⟨.read _ count, .ok bytes⟩ => bytes.length ≤ count
  | ⟨.read _ _, .error errno⟩ => errno = Errno.EINTR
  | ⟨.write _ data, .ok count⟩ => 0 < count ∧ count ≤ data.length
  | ⟨.write _ _, .error errno⟩ => errno = Errno.EINTR
  | ⟨.collect _ _, .error errno⟩ => errno = Errno.EINTR ∨ errno = Errno.ECHILD
  | _ => True

/-- How often a process is held up by an event. -/
def delay : Event → Nat
  | ⟨.read _ _, .error _⟩ | ⟨.write _ _, .error _⟩ => 1
  | ⟨.collect _ _, .error errno⟩ => if errno = Errno.EINTR then 1 else 0
  | ⟨.directoryRecords _ _, .ok (_ :: _)⟩ => 1
  | _ => 0

/-- One of two processes. -/
structure Side where
  descriptors : Descriptors
  /-- How often the process may still be held up. -/
  delays : Nat

namespace Side

/-- What a call of one of two processes may be answered. -/
def Answers : System Side :=
  fun before request answer after =>
    before.descriptors.Answers request answer after.descriptors ∧
      IsOrderly ⟨request, answer⟩ ∧ before.delays = after.delays + delay ⟨request, answer⟩

/-- A call that concerns nobody else is answered at once. -/
theorem exists_answers (side : Side) {request : Call} (isPrivate : IsPrivate request) :
    ∃ answer next, side.Answers request answer next := by
  cases request with
  | read | write | collect | fork | exit => exact isPrivate.elim
  | close number =>
      exact ⟨.ok (), ⟨side.descriptors.release number, side.delays⟩,
        side.descriptors.becomes_release number, trivial, rfl⟩
  | execute => exact ⟨Errno.ENOENT, side, rfl, trivial, rfl⟩
  | setDisposition | setSignalMask | yield | sleep | log | traceMe =>
      exact ⟨(), side, rfl, trivial, rfl⟩
  | notedSignals => exact ⟨[], side, rfl, trivial, rfl⟩
  | descriptorLimit | processId => exact ⟨(0 : Int), side, rfl, trivial, rfl⟩
  | clock => exact ⟨(0 : Nat), side, rfl, trivial, rfl⟩
  | _ => exact ⟨.error Errno.ENOENT, side, rfl, trivial, rfl⟩

end Side

/-! ## Endurance -/

/-- The circumstances of a program that does not use up its rounds while it is held up. -/
abbrev enduring : Setting Nat where
  answers before request answer after :=
    IsOrderly ⟨request, answer⟩ ∧ before = after + delay ⟨request, answer⟩
  exhaustion := False

/-- A program has enough rounds to be held up so often. -/
def Lasts {α : Type} (delays : Nat) (program : Program α) : Prop :=
  ∀ history before, before ≤ delays →
    program.Ensures enduring (fun _ after _ => after ≤ delays) history before

section Endurance

variable {delays : Nat} {α β : Type}

theorem lasts_done (value : α) : Lasts delays (.done value) :=
  fun _ _ => id

theorem lasts_bind
    {program : Program α}
    {next : α → Program β}
    (first : Lasts delays program)
    (second : ∀ value, Lasts delays (next value)) :
    Lasts delays (program >>= next) := by
  intro history before enough
  rw [Program.ensures_bind]
  refine (first history before enough).mono ?_
  intro later after value left
  exact second value later after left

/-- A program that is held up once may be held up less often afterwards. -/
theorem lasts_call
    {request : Call}
    {resume : request.Answer → Program α}
    (goesOn : ∀ answer left, IsOrderly ⟨request, answer⟩ →
      left + delay ⟨request, answer⟩ ≤ delays → Lasts left (resume answer)) :
    Lasts delays (.call request resume) := by
  intro history before enough
  refine ⟨trivial, fun answer after answered => ?_⟩
  obtain ⟨orderly, rfl⟩ := answered
  refine (goesOn answer after orderly enough _ after le_rfl).mono ?_
  intro later last value left
  exact left.trans ((Nat.le_add_right _ _).trans enough)

theorem lasts_perform (request : Call) : Lasts delays (Program.perform request) :=
  lasts_call fun answer _ _ _ => lasts_done answer

/-- A program that has been granted no rounds cannot use them up. -/
theorem lasts_of_completes
    {kind : Call → Prop}
    {program : Program α}
    (completes : program.Completes kind) :
    Lasts delays program := by
  induction program generalizing delays with
  | done value => exact lasts_done value
  | exhausted => exact completes.elim
  | call request resume inductionHypothesis =>
      exact lasts_call fun answer _ _ _ => inductionHypothesis answer (completes.2 answer)

/-- A repetition lasts if every interruption holds it up. -/
theorem lasts_retrying
    {attempt : Program (Except Errno α)}
    {rounds : Nat}
    (attempts : ∀ history before,
      attempt.Ensures enduring
        (fun _ after answer =>
          after ≤ before ∧ (answer = .error Errno.EINTR → after < before))
        history before)
    (enough : delays < rounds) :
    Lasts delays (Program.retrying attempt rounds) := by
  induction rounds generalizing delays with
  | zero => exact absurd enough (Nat.not_lt_zero _)
  | succ rounds inductionHypothesis =>
      intro history before isBefore
      rw [Program.retrying, Program.ensures_bind]
      refine (attempts history before).mono ?_
      rintro later after (errno | value) ⟨left, interrupted⟩
      · dsimp only
        split
        · next isInterruption =>
          have less := interrupted (by rw [isInterruption])
          have enough : after < rounds := by omega
          refine (inductionHypothesis enough later after le_rfl).mono ?_
          exact fun _ last _ final => final.trans (left.trans isBefore)
        · exact left.trans isBefore
      · exact left.trans isBefore

end Endurance

/-- A program that does as it should, and does not use up its rounds, does both on a side
that may be held up so often. -/
theorem Lasts.ensures
    {α : Type}
    {allows : List Event → Descriptors → Call → Prop}
    {result : List Event → Descriptors → α → Prop}
    {program : Program α}
    {history : List Event}
    {side : Side}
    (lasts : Lasts side.delays program)
    (ensures : program.Ensures ⟨System.only Descriptors.Answers IsOrderly, allows, True⟩
      result history side.descriptors) :
    program.Ensures
      ⟨Side.Answers, fun history side => allows history side.descriptors, False⟩
      (fun later after => result later after.descriptors) history side := by
  have wellDone := ensures.lift Side.descriptors
    fun (before : Side) request answer after (answered : before.Answers request answer after) =>
      ⟨answered.1, answered.2.1⟩
  have enduring := (lasts history side.delays le_rfl).lift Side.delays
    fun (before : Side) request answer after (answered : before.Answers request answer after) =>
      answered.2
  refine Program.Ensures.mono (Program.Ensures.weaken (wellDone.and enduring) ?_ ?_ ?_)
    fun _ _ _ => And.left
  · exact fun _ _ _ _ => id
  · exact fun _ _ _ => And.left
  · exact And.right

end ChildProcess
