import ChildProcess.ChildStatus
import ChildProcess.Proofs.Runs
import ChildProcess.Signal
import Mathlib.Logic.Relation

/-!
# The life of a child

A child runs, is stopped, goes on and ends, each of them whenever it likes.  Its parent
sees of that what it is answered: a report shows the child as it is, collecting takes an
end away for good, and the news of a stop only once.  Between any two calls the child may
change as often as it can.  Nobody but the parent collects it, and a call about a child
that has not been collected fails with nothing but an interruption.
-/

namespace ChildProcess

/-- A number that a signal may have. -/
structure SignalNumber where
  number : Nat
  positive : 0 < number
  le_maximum : number ≤ Signal.maximum
  deriving DecidableEq, Repr

/-- How a child has ended. -/
inductive Ending
  /-- By itself, with a status. -/
  | exited (status : Fin 256)
  /-- A signal has ended it, and it may have left an image of its memory. -/
  | killed (signal : SignalNumber) (dumped : Bool)
  deriving DecidableEq, Repr

/-- The code of a child that a signal has stopped or ended. -/
def SignalNumber.code (signal : SignalNumber) : Int :=
  ChildStatus.signalBase + signal.number

/-- The report about a child that a signal has stopped. -/
def SignalNumber.stopReport (signal : SignalNumber) (process : ProcessId) : ChildReport :=
  ⟨ChildReport.stoppedEvent, process, signal.number⟩

namespace Ending

/-- The code of a child that has ended. -/
def code : Ending → Int
  | .exited status => (status : Nat)
  | .killed signal _ => signal.code

/-- What asking for the state of a child that has ended fills in. -/
def report (process : ProcessId) : Ending → ChildReport
  | .exited status => ⟨ChildReport.exitedEvent, process, (status : Nat)⟩
  | .killed signal false => ⟨ChildReport.killedEvent, process, signal.number⟩
  | .killed signal true => ⟨ChildReport.dumpedEvent, process, signal.number⟩

/-- The number that collecting a child that has ended yields: 128 is added to a signal
with which the child has left an image of its memory. -/
def word : Ending → StatusWord
  | .exited status => .ofExit status
  | .killed signal false => .ofKill signal.number
  | .killed signal true => .ofKill (signal.number + 128)

end Ending

/-- Where a child is in its life. -/
inductive Life
  | running
  /-- A signal has stopped it; the parent may have taken note. -/
  | stopped (signal : SignalNumber) (noted : Bool)
  /-- It has ended and waits to be collected. -/
  | ended (ending : Ending)
  /-- Its parent has collected it. -/
  | collected (ending : Ending)
  deriving DecidableEq, Repr

namespace Life

/-- What a child does by itself, or is made to do by others than its parent's waiting. -/
inductive Moves : Life → Life → Prop
  | stop (signal : SignalNumber) : Moves .running (.stopped signal false)
  | goOn (signal : SignalNumber) (noted : Bool) : Moves (.stopped signal noted) .running
  | exit (status : Fin 256) : Moves .running (.ended (.exited status))
  | kill (signal : SignalNumber) (dumped : Bool) :
      Moves .running (.ended (.killed signal dumped))
  | killStopped (stopSignal : SignalNumber) (noted : Bool) (signal : SignalNumber)
      (dumped : Bool) :
      Moves (.stopped stopSignal noted) (.ended (.killed signal dumped))

/-- The child has not been collected. -/
def IsUncollected : Life → Prop
  | .collected _ => False
  | _ => True

/-- What asking for the state of a child may be answered.  A report that says nothing
names no process. -/
def Shows (process : ProcessId) : Life → Except Errno ChildReport → Prop
  | .collected _, answer => answer = .error Errno.ECHILD
  | _, .error errno => errno = Errno.EINTR
  | .running, .ok report | .stopped _ true, .ok report => report.process = 0
  | .stopped signal false, .ok report => report = signal.stopReport process
  | .ended ending, .ok report => report = ending.report process

/-- What collecting a child may be answered, and the child afterwards.  Without blocking,
a child that has not changed is answered with no process, and one that has been stopped
with the news of that; both are waited for by a call that blocks. -/
def Yields (process : ProcessId) (mode : CollectMode) (before : Life)
    (answer : Except Errno (ProcessId × StatusWord)) (after : Life) : Prop :=
  match before, answer with
  | .collected _, answer => answer = .error Errno.ECHILD ∧ after = before
  | _, .error errno => errno = Errno.EINTR ∧ after = before
  | .running, .ok (child, _) | .stopped _ true, .ok (child, _) =>
      mode = .immediately ∧ child = 0 ∧ after = before
  | .stopped signal false, .ok (child, word) =>
      mode = .immediately ∧ child = process ∧ word = .ofStop signal.number ∧
        after = .stopped signal true
  | .ended ending, .ok (child, word) =>
      child = process ∧ word = ending.word ∧ after = .collected ending

/-- What a call of the parent may be answered, and the child afterwards. -/
def Answers (process : ProcessId) : System Life := fun before request answer after =>
  match request, answer with
  | .childReport child, answer =>
      (child = process → before.Shows process answer) ∧ after = before
  | .collect child mode, answer =>
      if child = process then before.Yields process mode answer after else after = before
  | _, _ => after = before

/-- The child lives its own life until a call of the parent is answered. -/
def watching (process : ProcessId) : System Life := fun before request answer after =>
  ∃ meanwhile, Relation.ReflTransGen Moves before meanwhile ∧
    Answers process meanwhile request answer after

end Life

/-! ## Codes -/

/-- Both decoders agree on how a child has ended. -/
theorem Ending.finalCode?_word (ending : Ending) :
    ending.word.finalCode? = some ending.code := by
  cases ending with
  | exited status =>
      have inRange : (status : Nat) < 256 := status.isLt
      have low : (StatusWord.ofExit status).low = 0 := by
        simp only [StatusWord.low, StatusWord.ofExit]
        omega
      have isStatus : (StatusWord.ofExit status).exitStatus? = some (status : Nat) := by
        rw [StatusWord.exitStatus?, if_pos low]
        simp only [StatusWord.ofExit, Option.some.injEq]
        omega
      simp [word, StatusWord.finalCode?, isStatus, code]
  | killed signal dumped =>
      have positive := signal.positive
      have inRange := signal.le_maximum
      have low : (Ending.killed signal dumped).word.low = signal.number := by
        unfold Signal.maximum at inRange
        cases dumped <;> simp only [word, StatusWord.low, StatusWord.ofKill] <;> omega
      have isSignal : signal.number ≠ 0 ∧ signal.number ≠ 127 := by
        unfold Signal.maximum at inRange
        omega
      simp [StatusWord.finalCode?, StatusWord.exitStatus?, StatusWord.killSignal?, low,
        isSignal, code, SignalNumber.code, ChildStatus.ofSignal, ChildStatus.exitCode?]

theorem Ending.exitCode?_status (ending : Ending) {process : ProcessId}
    (isProcess : process ≠ 0) :
    (ending.report process).status.exitCode? = some ending.code := by
  rcases ending with status | ⟨signal, dumped⟩
  · simp [report, ChildReport.status, isProcess, code, ChildStatus.exitCode?]
  · cases dumped <;>
      simp [report, ChildReport.status, isProcess, code, SignalNumber.code,
        ChildReport.exitedEvent, ChildReport.killedEvent, ChildReport.dumpedEvent,
        ChildStatus.ofSignal, ChildStatus.exitCode?]

theorem SignalNumber.exitCode?_status (signal : SignalNumber) {process : ProcessId}
    (isProcess : process ≠ 0) :
    (signal.stopReport process).status.exitCode? = some signal.code := by
  simp [stopReport, ChildReport.status, isProcess, ChildReport.exitedEvent,
    ChildReport.killedEvent, ChildReport.dumpedEvent, ChildReport.stoppedEvent, code,
    ChildStatus.ofSignal, ChildStatus.exitCode?]

/-- A child that has been stopped has no final code. -/
theorem SignalNumber.finalCode?_ofStop (signal : SignalNumber) :
    (StatusWord.ofStop signal.number).finalCode? = none := by
  have low : (StatusWord.ofStop signal.number).low = 127 := by
    simp only [StatusWord.low, StatusWord.ofStop]
    omega
  simp [StatusWord.finalCode?, StatusWord.exitStatus?, StatusWord.killSignal?, low]

/-! ## What a child goes through -/

namespace Life

variable {process : ProcessId} {before after : Life}

/-- An end is for good. -/
theorem eq_of_moves_ended
    {ending : Ending}
    (moves : Relation.ReflTransGen Moves (.ended ending) after) :
    after = .ended ending := by
  induction moves with
  | refl => rfl
  | tail _ move inductionHypothesis =>
      rw [inductionHypothesis] at move
      cases move

/-- No child collects itself. -/
theorem IsUncollected.of_moves
    (uncollected : before.IsUncollected)
    (moves : Relation.ReflTransGen Moves before after) :
    after.IsUncollected := by
  induction moves with
  | refl => exact uncollected
  | tail _ move => cases move <;> trivial

theorem eq_of_moves_collected
    {ending : Ending}
    (moves : Relation.ReflTransGen Moves (.collected ending) after) :
    after = .collected ending := by
  induction moves with
  | refl => rfl
  | tail _ move inductionHypothesis =>
      rw [inductionHypothesis] at move
      cases move

/-- A call that does not collect the child leaves it as it is. -/
theorem eq_of_answers
    {request : Call}
    {answer : request.Answer}
    (notCollecting : ∀ mode, request ≠ .collect process mode)
    (answered : Answers process before request answer after) :
    after = before := by
  cases request with
  | childReport child => exact answered.2
  | collect child mode =>
      have differs : child ≠ process := by
        rintro rfl
        exact notCollecting mode rfl
      simpa [Answers, differs] using answered
  | _ => exact answered

/-! ## Codes that have been collected -/

/-- The code with which the child has been collected. -/
def codes : Life → List Int
  | .collected ending => [ending.code]
  | _ => []

theorem codes_eq_nil (uncollected : before.IsUncollected) : before.codes = [] := by
  cases before with
  | collected => exact uncollected.elim
  | _ => rfl

theorem codes_of_moves (moves : Relation.ReflTransGen Moves before after) :
    after.codes = before.codes := by
  cases before with
  | collected ending => rw [eq_of_moves_collected moves]
  | running | stopped | ended =>
      have uncollected : IsUncollected after := IsUncollected.of_moves (by trivial) moves
      exact codes_eq_nil uncollected

end Life

/-- The final codes with which some events collect a child. -/
def collectedCodes (process : ProcessId) (events : List Event) : List Int :=
  events.filterMap fun event =>
    match event with
    | ⟨.collect child _, .ok (collected, word)⟩ =>
        if child = process ∧ collected = process then word.finalCode? else none
    | _ => none

theorem collectedCodes_append (process : ProcessId) (first second : List Event) :
    collectedCodes process (first ++ second) =
      collectedCodes process first ++ collectedCodes process second :=
  List.filterMap_append

theorem collectedCodes_of_ne
    {process : ProcessId}
    {request : Call}
    (answer : request.Answer)
    (notCollecting : ∀ mode, request ≠ .collect process mode) :
    collectedCodes process [⟨request, answer⟩] = [] := by
  cases request with
  | collect child mode =>
      have differs : child ≠ process := by
        rintro rfl
        exact notCollecting mode rfl
      rcases answer with errno | ⟨collected, word⟩
      · rfl
      · simp [collectedCodes, differs]
  | _ => rfl

theorem collectedCodes_error
    (process : ProcessId)
    (mode : CollectMode)
    (errno : Errno) :
    collectedCodes process [⟨.collect process mode, .error errno⟩] = [] := rfl

theorem collectedCodes_ok
    {process : ProcessId}
    (mode : CollectMode)
    (word : StatusWord) :
    collectedCodes process [⟨.collect process mode, .ok (process, word)⟩] =
      word.finalCode?.toList := by
  cases final : word.finalCode? <;> simp [collectedCodes, final]

namespace Life

variable {process : ProcessId} {before after : Life}

/-- A call collects the code that the child has afterwards and has not had before. -/
theorem codes_of_answers
    {request : Call}
    {answer : request.Answer}
    (isProcess : process ≠ 0)
    (answered : Answers process before request answer after) :
    before.codes ++ collectedCodes process [⟨request, answer⟩] = after.codes := by
  by_cases collects : ∃ mode, request = .collect process mode
  · obtain ⟨mode, rfl⟩ := collects
    have yields : before.Yields process mode answer after := by
      simpa [Answers] using answered
    rcases answer with errno | ⟨child, word⟩
    · have same : after = before := by
        cases before <;> exact yields.2
      rw [same, collectedCodes_error, List.append_nil]
    · cases before with
      | collected ending => cases yields.1
      | running =>
          obtain ⟨-, rfl, rfl⟩ := yields
          simp [collectedCodes, isProcess.symm]
      | stopped signal noted =>
          cases noted with
          | true =>
              obtain ⟨-, rfl, rfl⟩ := yields
              simp [collectedCodes, isProcess.symm]
          | false =>
              obtain ⟨-, rfl, rfl, rfl⟩ := yields
              rw [collectedCodes_ok, signal.finalCode?_ofStop]
              rfl
      | ended ending =>
          obtain ⟨rfl, rfl, rfl⟩ := yields
          rw [collectedCodes_ok, ending.finalCode?_word]
          rfl
  · have notCollecting : ∀ mode, request ≠ .collect process mode :=
      fun mode same => collects ⟨mode, same⟩
    rw [eq_of_answers notCollecting answered, collectedCodes_of_ne answer notCollecting,
      List.append_nil]

/-- Over a whole run, the child is collected at most once, with its own code. -/
theorem codes_of_runs
    {α : Type}
    {program left : Program α}
    {events : List Event}
    (isProcess : process ≠ 0)
    (runs : Program.Runs (watching process) program before events left after) :
    before.codes ++ collectedCodes process events = after.codes := by
  induction runs with
  | stop program state => exact List.append_nil _
  | @call request resume state next after answer events left answered rest
      inductionHypothesis =>
      obtain ⟨meanwhile, moves, answered⟩ := answered
      calc state.codes ++ collectedCodes process (⟨request, answer⟩ :: events)
          = (state.codes ++ collectedCodes process [⟨request, answer⟩]) ++
              collectedCodes process events := by
            rw [List.append_assoc, ← collectedCodes_append, List.singleton_append]
        _ = next.codes ++ collectedCodes process events := by
            rw [← codes_of_moves moves, codes_of_answers isProcess answered]
        _ = after.codes := inductionHypothesis

end Life
end ChildProcess
