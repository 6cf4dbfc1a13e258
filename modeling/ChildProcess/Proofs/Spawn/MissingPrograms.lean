import ChildProcess.Proofs.Spawn.AtExecution
import ChildProcess.Proofs.Spawn.Conduct
import ChildProcess.Proofs.Spawn.Leftovers
import ChildProcess.Proofs.Spawn.Transport
import ChildProcess.Runner.Error

/-!
# Missing programs

A child that fails tells its parent one error number, and not which of its steps it comes
from.  A parent that is told the number for something missing says that there is no such
program.  That is right where the execution has come to this number; but if the working
directory is missing, or another step of the set-up fails with the same number, the parent
says so as well.  It says so in no other case: not if there is no child, not if the child
fails with another number, and not if it becomes another program.

Nothing is asked of the operating system here.  Each process gets whatever answers, and the
pipe between them delivers what the child has written.
-/

namespace ChildProcess

open Program (Runs)

namespace Child

open Descriptors (findsOrCloses completes_closeEach makes_close)

variable {α β : Type} {request : ExecRequest} {events : List Event} {errno : Errno}

/-! ## Failures of a child -/

/-- The error numbers of the steps of the set-up that have failed. -/
def failures (events : List Event) : List Errno :=
  events.filterMap failure?

/-- A call that executes a program. -/
def executes : Event → Bool
  | ⟨.execute _ _ _, _⟩ => true
  | _ => false

/-- A step of the set-up has failed with an error number. -/
def FailsInSetUp (events : List Event) (errno : Errno) : Prop :=
  errno ∈ failures events

/-- No step of the set-up has failed, and the execution has come to an error number. -/
structure FailsInExecution (request : ExecRequest) (events : List Event) (errno : Errno) :
    Prop where
  unfailing : failures events = []
  comesTo : Runs anything request.run () (events.filter executes) (.done errno) ()

/-- The execution has failed with an error number, or a step of the set-up before it. -/
def HasFailed (request : ExecRequest) (events : List Event) (errno : Errno) : Prop :=
  FailsInExecution request events errno ∨ FailsInSetUp events errno

theorem failures_append (first second : List Event) :
    failures (first ++ second) = failures first ++ failures second :=
  List.filterMap_append

theorem failures_singleton (event : Event) :
    failures [event] = (failure? event).toList := by
  cases failed : failure? event <;> simp [failures, failed]

/-- What some events of a child come to: these steps have failed, these calls have executed
programs in vain, and these bytes have been written. -/
structure ComesTo (events : List Event) (failed : List Errno) (executions : List Event)
    (told : Bytes) : Prop where
  failures : failures events = failed
  executions : events.filter executes = executions
  sent : sent events = told

theorem ComesTo.append
    {first second firstExecutions secondExecutions : List Event}
    {firstFailed secondFailed : List Errno}
    {firstTold secondTold : Bytes}
    (comesTo : ComesTo first firstFailed firstExecutions firstTold)
    (goesOn : ComesTo second secondFailed secondExecutions secondTold) :
    ComesTo (first ++ second) (firstFailed ++ secondFailed)
      (firstExecutions ++ secondExecutions) (firstTold ++ secondTold) where
  failures := by rw [failures_append, comesTo.failures, goesOn.failures]
  executions := by rw [List.filter_append, comesTo.executions, goesOn.executions]
  sent := by rw [sent_append, comesTo.sent, goesOn.sent]

/-- What a child has told when it has made its last call. -/
inductive HasTold (request : ExecRequest) (events : List Event) : Prop
  /-- It has failed with one error number and told that. -/
  | failed (errno : Errno) (told : sent events = Report.encode errno)
      (only : ∀ other, HasFailed request events other ↔ other = errno)
  /-- It has not failed and told nothing. -/
  | unfailing (silent : sent events = []) (none : ∀ errno, ¬HasFailed request events errno)

namespace ComesTo

variable {executions : List Event} {told : Bytes}

/-- A step that has failed is all that has. -/
theorem hasTold_of_failure
    (comesTo : ComesTo events [errno] executions (Report.encode errno)) :
    HasTold request events := by
  refine .failed errno comesTo.sent fun other => ?_
  have unfailing : ¬FailsInExecution request events other := by
    rintro ⟨unfailing, -⟩
    rw [comesTo.failures] at unfailing
    cases unfailing
  rw [HasFailed, or_iff_right unfailing, FailsInSetUp, comesTo.failures, List.mem_singleton]

/-- Without such a step, it is up to the execution. -/
theorem hasFailed_iff
    (comesTo : ComesTo events [] executions told) :
    HasFailed request events errno ↔
      Runs anything request.run () executions (.done errno) () := by
  have noFailure : ¬FailsInSetUp events errno := by
    rw [FailsInSetUp, comesTo.failures]
    exact List.not_mem_nil
  rw [HasFailed, or_iff_left noFailure, ← comesTo.executions]
  exact ⟨FailsInExecution.comesTo, fun ends => ⟨comesTo.failures, ends⟩⟩

end ComesTo

/-! ## The preparation stops at a failure -/

/-- The error number of an outcome, if it is one. -/
def errors : Except Errno α → List Errno
  | .ok _ => []
  | .error errno => [errno]

/-- A part of the preparation goes on as long as its steps succeed, and comes to the error
number of the first one that fails. -/
def Stops (program : ExceptT Errno Program α) : Prop :=
  ∀ history, program.run.Ensures { answers := anything }
    (fun later _ outcome => failures later = failures history ++ errors outcome) history ()

namespace Stops

theorem pure (value : α) : Stops (Pure.pure value) :=
  fun history => (List.append_nil (failures history)).symm

theorem bind
    {program : ExceptT Errno Program α}
    {next : α → ExceptT Errno Program β}
    (first : Stops program)
    (second : ∀ value, Stops (next value)) :
    Stops (program >>= next) := by
  intro history
  rw [ExceptT.run_bind, Program.ensures_bind]
  refine (first history).mono ?_
  rintro later _ (errno | value) failed
  · exact failed
  · refine (second value later).mono fun last _ outcome more => ?_
    rw [more, failed, errors, List.append_nil]

/-- A single step. -/
theorem of_call
    {call : Call}
    {convert : call.Answer → Except Errno α}
    (tells : ∀ answer, (failure? ⟨call, answer⟩).toList = errors (convert answer)) :
    Stops (ExceptT.mk (.call call fun answer => .done (convert answer))) := by
  intro history
  refine ⟨trivial, fun answer _ _ => ?_⟩
  rw [Program.ensures_done, failures_append, failures_singleton, tells]

/-- A part whose calls are no steps. -/
theorem of_makes
    {kind : Call → Prop}
    {program : Program α}
    (makes : program.Makes kind)
    (unfailing : ∀ event : Event, kind event.1 → failure? event = none) :
    Stops (liftM program) := by
  intro history
  change (program >>= fun value => Program.done (Except.ok value)).Ensures _ _ _ _
  rw [Program.ensures_bind]
  refine makes.ensures (fun later _ => failures later = failures history ++ []) trivial
    (fun _ _ _ _ _ => trivial) ?_ (List.append_nil _).symm
  intro later _ call answer _ same isKind _
  rw [failures_append, same, failures_singleton, unfailing ⟨call, answer⟩ isKind]
  exact List.append_nil _

end Stops

theorem stops_moveAside (stream : StandardStream) (source : Option Descriptor) :
    Stops (moveAside stream source) := by
  cases source with
  | none => exact .pure none
  | some source =>
      rw [moveAside]
      split
      · rw [← bind_pure_comp]
        refine .bind (.of_call fun answer => ?_) fun moved => .pure (some moved)
        cases answer <;> rfl
      · exact .pure (some source)

theorem stops_install (stream : StandardStream) (source : Option Descriptor) :
    Stops (install stream source) := by
  cases source with
  | none => exact .pure ()
  | some source =>
      rw [install]
      split
      all_goals
        refine .of_call fun answer => ?_
        cases answer <;> rfl

theorem stops_setUp (rounds : Nat) (inheritance : Inheritance) :
    Stops (setUp rounds inheritance) := by
  have closes : ∀ number, findsOrCloses (.close number) := fun _ => trivial
  refine .bind ?_ fun sources => .bind ?_ fun _ => .bind ?_ fun _ => .bind ?_ fun _ => ?_
  · refine .bind (stops_moveAside _ _) fun _ => .bind (stops_moveAside _ _) fun _ => ?_
    exact .bind (stops_moveAside _ _) fun _ => .pure _
  · exact .bind (stops_install _ _) fun _ => .bind (stops_install _ _) fun _ =>
      stops_install _ _
  · exact .of_makes (completes_closeEach closes _).makes failure?_of_findsOrCloses
  · exact .of_makes (makes_close closes trivial (fun _ _ => trivial) _ _ _ _)
      failure?_of_findsOrCloses
  · refine .bind (.of_call fun answer => ?_) fun _ => .of_call fun answer => ?_
    all_goals cases answer <;> rfl

theorem stops_preparation (rounds : Nat) (inheritance : Inheritance) :
    Stops (preparation rounds inheritance) := by
  have closes : ∀ number, findsOrCloses (.close number) := fun _ => trivial
  have resets : resetSignals.Makes fun call => ∀ answer, failure? ⟨call, answer⟩ = none :=
    ⟨fun _ => rfl, fun _ => ⟨fun _ => rfl, fun _ => trivial⟩⟩
  refine .bind ?_ fun _ => .bind ?_ fun _ => stops_setUp rounds inheritance
  · exact .of_makes (completes_closeEach closes _).makes failure?_of_findsOrCloses
  · exact .of_makes resets fun event unfailing => unfailing event.2

theorem comesTo_of_runs_preparation
    {rounds : Nat}
    {inheritance : Inheritance}
    {outcome : Except Errno Unit}
    (runs : Runs anything (preparation rounds inheritance).run () events (.done outcome) ()) :
    ComesTo events (errors outcome) [] [] := by
  have prepares := ((makes_preparation rounds inheritance).of_runs runs).1
  refine ⟨((stops_preparation rounds inheritance) []).of_runs runs, ?_, ?_⟩
  · refine List.filter_eq_nil_iff.mpr fun ⟨call, answer⟩ isMember executed => ?_
    have prepares := prepares _ isMember
    cases call with
    | execute => exact prepares
    | _ => cases executed
  · refine sent_eq_nil fun event isMember number data isWriting => ?_
    have prepares := prepares event isMember
    rw [isWriting] at prepares
    exact prepares

/-- Executions are no steps of the set-up. -/
theorem comesTo_of_runs_execution
    {left : Program Errno}
    (runs : Runs anything request.run () events left ()) :
    ComesTo events [] events [] := by
  have executions := (request.completes_run.makes.of_runs runs).1
  have executed : ∀ event ∈ events, failure? event = none ∧ executes event = true := by
    intro ⟨call, answer⟩ isMember
    have isExecution := executions _ isMember
    cases call with
    | execute => exact ⟨rfl, rfl⟩
    | _ => exact isExecution.elim
  refine ⟨List.filterMap_eq_nil_iff.mpr fun event isMember => (executed event isMember).1,
    List.filter_eq_self.mpr fun event isMember => (executed event isMember).2, ?_⟩
  refine sent_eq_nil fun event isMember number data isWriting => ?_
  have isExecution := executions event isMember
  rw [isWriting] at isExecution
  exact isExecution

/-! ## What a child tells its parent -/

/-- Calls after which a child makes no more: it ends, or becomes another program. -/
def isFinal : Call → Prop
  | .exit _ => True
  | call => isExecution call

/-- Writing goes on until all bytes are written or it stops for good. -/
theorem ensures_send_finishes
    {σ : Type}
    {setting : Setting σ}
    {writer : Descriptor}
    (exhaustion : setting.exhaustion)
    (writes : ∀ history state data, setting.allows history state (.write writer data))
    (rounds : Nat)
    (rest : Bytes)
    (history : List Event)
    (state : σ) :
    (Report.send writer rounds rest).Ensures setting
      (fun later _ _ => HasFinished (sent history ++ rest) later) history state := by
  induction rounds generalizing rest history state with
  | zero =>
      cases rest with
      | nil => exact .inr (List.append_nil _).symm
      | cons byte rest => exact exhaustion
  | succ rounds inductionHypothesis =>
      cases rest with
      | nil => exact .inr (List.append_nil _).symm
      | cons byte rest =>
          refine ⟨writes _ _ _, fun answer next _ => ?_⟩
          let event : Event := ⟨.write writer (byte :: rest), answer⟩
          have goesOn : ∀ left, sent [event] ++ left = byte :: rest →
              (Report.send writer rounds left).Ensures setting
                (fun later _ _ => HasFinished (sent history ++ byte :: rest) later)
                (history ++ [event]) next := by
            intro left isRest
            rw [← isRest, ← List.append_assoc, ← sent_append]
            exact inductionHypothesis left _ next
          have stops : givesUp event = true →
              HasFinished (sent history ++ byte :: rest) (history ++ [event]) :=
            fun givesUp => .inl ((hasGivenUp_concat event).mpr (.inr givesUp))
          rcases answer with errno | (_ | count)
          · change (if errno = Errno.EINTR then _ else _ : Program Unit).Ensures _ _ _ _
            split
            · exact goesOn _ rfl
            · next notInterrupted => exact stops (decide_eq_true notInterrupted)
          · exact stops rfl
          · refine goesOn _ ?_
            simp [event, sent]

/-- A child that reports an error number ends when it has written it, or could not write. -/
theorem finished_of_runs_sendAndExit
    {rounds : Nat}
    {writer : Descriptor}
    {final : Call}
    {resume : final.Answer → Program Empty}
    (runs : Runs anything (Report.sendAndExit rounds writer errno) () events
      (.call final resume) ())
    (isLast : isFinal final) :
    HasFinished (Report.encode errno) events := by
  let setting : Setting Unit :=
    { answers := anything
      allows := fun history _ call => isFinal call → HasFinished (Report.encode errno) history }
  have ensures : (Report.sendAndExit rounds writer errno).Ensures setting
      (fun _ _ _ => False) [] () := by
    have writes : ∀ history state data,
        setting.allows history state (.write writer data) := fun _ _ _ => False.elim
    rw [Report.sendAndExit, Program.ensures_bind]
    refine (ensures_send_finishes trivial writes rounds _ [] ()).mono ?_
    intro later _ _ finished
    refine ⟨False.elim, fun answer _ _ => ?_⟩
    exact ⟨fun _ => finished.concat rfl, fun never => never.elim⟩
  exact (ensures.of_runs runs).1 isLast

/-- A report is no step of the set-up and executes nothing. -/
theorem comesTo_of_runs_sendAndExit
    {rounds : Nat}
    {writer : Descriptor}
    {final : Call}
    {resume : final.Answer → Program Empty}
    (runs : Runs anything (Report.sendAndExit rounds writer errno) () events
      (.call final resume) ())
    (isLast : isFinal final)
    (takes : ¬HasGivenUp events) :
    ComesTo events [] [] (Report.encode errno) := by
  have makes : (Report.sendAndExit rounds writer errno).Makes fun call =>
      ∀ answer, failure? ⟨call, answer⟩ = none ∧ executes ⟨call, answer⟩ = false :=
    Report.makes_sendAndExit (fun _ _ => ⟨rfl, rfl⟩) (fun _ => ⟨rfl, rfl⟩)
      (fun never => never.elim) rounds errno
  have reports := (makes.of_runs runs).1
  refine ⟨List.filterMap_eq_nil_iff.mpr fun event isMember => ?_,
    List.filter_eq_nil_iff.mpr fun event isMember => ?_,
    (finished_of_runs_sendAndExit runs isLast).resolve_left takes⟩
  · exact (reports event isMember event.2).1
  · exact Bool.eq_false_iff.mp (reports event isMember event.2).2

/-- A child that could write all it had to tells with what it has failed. -/
theorem hasTold_of_runs_run
    {rounds : Nat}
    {inheritance : Inheritance}
    {final : Call}
    {resume : final.Answer → Program Empty}
    (runs : Runs anything (run rounds inheritance) () events (.call final resume) ())
    (isLast : isFinal final)
    (takes : ¬HasGivenUp events) :
    HasTold inheritance.request events := by
  have notPrepares : ¬prepares final := by
    intro prepares
    cases final with
    | exit | execute => exact prepares
    | _ => exact isLast
  rw [run_eq] at runs
  obtain ⟨first, second, outcome, _, rfl, prepared, goesOn⟩ :=
    runs.of_bind_call (makes_preparation rounds inheritance) notPrepares
  have prepared := comesTo_of_runs_preparation prepared
  have takes : ¬HasGivenUp second := mt (hasGivenUp_append first) takes
  rcases outcome with errno | ⟨⟩
  · have reported := comesTo_of_runs_sendAndExit goesOn isLast takes
    exact (prepared.append reported).hasTold_of_failure
  rcases goesOn.bind_call_cases with
    ⟨_, -, executing⟩ | ⟨executions, reports, errno, _, rfl, executed, reporting⟩
  · have comesTo := prepared.append (comesTo_of_runs_execution executing)
    refine .unfailing comesTo.sent fun errno hasFailed => ?_
    cases executing.left_unique (comesTo.hasFailed_iff.mp hasFailed)
  · have takes : ¬HasGivenUp reports := mt (hasGivenUp_append executions) takes
    have reported := comesTo_of_runs_sendAndExit reporting isLast takes
    have comesTo := prepared.append ((comesTo_of_runs_execution executed).append reported)
    rw [List.append_nil executions] at comesTo
    refine .failed errno comesTo.sent fun other => ?_
    rw [comesTo.hasFailed_iff]
    refine ⟨fun ends => ?_, fun same => same ▸ executed⟩
    cases executed.left_unique ends
    rfl

end Child

/-! ## What the parent makes of it -/

/-- The pipe for the report delivers what a child writes to its parent. -/
structure Delivers (childEvents parentEvents : List Event) : Prop where
  /-- It takes all that the child writes. -/
  takes : ¬HasGivenUp childEvents
  /-- It gives no more than the parent asks for. -/
  fits : ∀ event ∈ parentEvents, Fits event
  /-- It can be read but for interruptions. -/
  interrupted : ∀ number count errno,
    (⟨.read number count, .error errno⟩ : Event) ∈ parentEvents → errno = Errno.EINTR
  /-- The parent gets what the child has written. -/
  bytes : received parentEvents = sent childEvents

/-- An outcome says that the program does not exist. -/
def SaysNotFound {α : Type} (outcome : Except LaunchError α) : Prop :=
  ∃ cause, outcome = .error cause ∧ cause.isNotFound = true

theorem Errno.kind_eq_notFound_iff (errno : Errno) :
    errno.kind = .notFound ↔ errno = Errno.ENOENT := by
  have isCode : errno = Errno.ENOENT ↔ errno.code.toInt = 2 := by
    obtain ⟨code⟩ := errno
    rw [Errno.ENOENT, Errno.mk.injEq, ← Int32.toInt_inj]
    rfl
  rw [isCode, Errno.kind]
  split <;> simp_all

/-- A program that could not be executed does not exist if the number for it says so. -/
theorem LaunchError.isNotFound_execution_iff (command : String) (errno : Errno) :
    (LaunchError.execution command (.os errno)).isNotFound = true ↔ errno = Errno.ENOENT := by
  rw [isNotFound, beq_iff_eq, SystemError.kind, Errno.kind_eq_notFound_iff]

/-- The code for a command that is not there is that of an error that says so. -/
theorem Runner.RunError.exitCode_start_eq_notFoundCode_iff (cause : LaunchError) :
    (RunError.start cause).exitCode = notFoundCode ↔ cause.isNotFound = true := by
  rw [exitCode]
  split
  · next isNotFound => exact ⟨fun _ => isNotFound, fun _ => rfl⟩
  · next isFound => exact ⟨nofun, fun isNotFound => absurd isNotFound isFound⟩

namespace Launch

open FailsOnlyWith (error)

variable {σ : Type} {answers : System σ} {launch : Launch} {rounds : Nat}
variable {environment : Environment} {before after : σ} {events childEvents : List Event}
variable {outcome : Except LaunchError Handle} {process : ProcessId}
variable {reader writer : Descriptor} {bindings : Bindings}

/-- A parent fails with the error that it learns, if it learns one. -/
theorem learns_of_runs_superviseStart
    (runs : Runs answers (launch.superviseStart rounds process reader writer bindings) before
      events (.done outcome) after)
    (fits : ∀ event ∈ events, Fits event) :
    ∃ answer, launch.Learns reader events answer ∧
      ∀ cause, outcome = .error cause ↔ answer = .error cause := by
  have noReading : ∀ request, preparesOrCloses request → doesNotRead request := by
    intro request prepares
    cases request <;> trivial
  have ensures : (launch.superviseStart rounds process reader writer bindings).Ensures
      { answers := answers.only Fits }
      (fun later _ outcome => ∃ answer, launch.Learns reader later answer ∧
        ∀ cause, outcome = .error cause ↔ answer = .error cause) [] before := by
    rw [superviseStart, Program.ensures_bind]
    have drops := (completes_dropDescriptor (some writer)).makes.mono noReading
    refine (ensures_filter_isReading drops []).mono fun first between _ nothing => ?_
    rw [Program.ensures_bind]
    refine Program.Ensures.of_start first ?_
    refine (ensures_awaitReport_learns (fun _ _ _ _ _ => And.right) launch).mono ?_
    intro second after answer learns
    have learns : launch.Learns reader (first ++ second) answer := by
      rwa [Learns, List.filter_append, nothing]
    rw [Program.ensures_bind]
    have closes := bindings.completes_closeChildEnds.makes.mono noReading
    refine (ensures_filter_isReading closes _).mono fun later after left same => ?_
    have tidies : ∀ {result : Except LaunchError Handle} (tidying : Program Unit),
        tidying.Makes doesNotRead →
        (∀ cause, result = .error cause ↔ answer = .error cause) →
        (tidying >>= fun _ => pure result).Ensures { answers := answers.only Fits }
          (fun later _ outcome => ∃ answer, launch.Learns reader later answer ∧
            ∀ cause, outcome = .error cause ↔ answer = .error cause) later after := by
      intro result tidying makes agrees
      rw [Program.ensures_bind]
      refine (ensures_filter_isReading makes later).mono fun last _ _ sameThen => ?_
      exact ⟨answer, by rwa [Learns, sameThen, same], agrees⟩
    cases answer with
    | ok => exact tidies (Program.log _ _ _) ⟨trivial, fun _ => trivial⟩ (by simp)
    | error cause =>
        refine tidies (Program.log _ _ _ >>= fun _ => left.drop) ?_ (by simp)
        exact Program.makes_bind ⟨trivial, fun _ => trivial⟩ fun _ =>
          left.completes_drop.makes.mono noReading
  exact ensures.of_runs (runs.only fits)

/-- A parent that is delivered an error number says that the program does not exist exactly
if that is the number for it. -/
theorem saysNotFound_iff_of_runs_superviseStart
    {request : ExecRequest}
    (runs : Runs answers (launch.superviseStart rounds process reader writer bindings) before
      events (.done outcome) after)
    (delivers : Delivers childEvents events)
    (hasTold : Child.HasTold request childEvents) :
    SaysNotFound outcome ↔ Child.HasFailed request childEvents Errno.ENOENT := by
  obtain ⟨answer, ⟨filled, fills, rfl⟩, agrees⟩ :=
    learns_of_runs_superviseStart runs delivers.fits
  have isRead : filled = .ok (sent childEvents) := by
    rw [← delivers.bytes, ← received_filter_isReading]
    refine fills.eq_ok_received fun number count errno isMember => ?_
    exact delivers.interrupted number count errno (List.mem_filter.mp isMember).1
  simp only [SaysNotFound, agrees, isRead]
  cases hasTold with
  | unfailing silent none =>
      rw [silent, iff_false_intro (none _)]
      simp [answerTo]
  | failed errno told only =>
      have nonempty : Report.encode errno ≠ [] := List.cons_ne_nil _ _
      rw [told, launch.answerTo_of_ne_nil nonempty, Report.decode_encode, only, eq_comm]
      simp [LaunchError.isNotFound_execution_iff]

/-! ## The whole start -/

/-- A start that makes no child does not say that the program does not exist. -/
theorem not_saysNotFound_of_runs_spawn
    {path : SearchPath}
    (runs : Runs answers (launch.spawn rounds path environment) before events (.done outcome)
      after)
    (childless : ∀ process, forked process ∉ events) :
    ¬SaysNotFound outcome := by
  let isOther : LaunchError → Prop := fun cause => cause.isNotFound = false
  suffices others : FailsOnlyWith isOther outcome by
    rintro ⟨cause, failed, isNotFound⟩
    exact Bool.false_ne_true ((others cause failed).symm.trans isNotFound)
  rw [spawn, Bindings.systemPipe_bind] at runs
  cases runs with
  | @call _ _ _ opened _ answer _ _ answered rest =>
  rcases answer with errno | ⟨reader, writer⟩
  · cases rest
    exact error rfl
  change Runs _ (Bindings.resolve (fun _ => Bindings.systemPipe) launch >>= _) _ _ _ _ at rest
  obtain ⟨made, others, bound, resolved, rfl, resolves, goesOn⟩ := rest.of_bind_done
  rcases bound with cause | bindings
  · have isOther : isOther cause :=
      (Bindings.results_resolve (fun _ _ => rfl) _ launch).of_runs resolves cause rfl
    exact (Bindings.results_tidying _ isOther).of_runs goesOn
  dsimp only at goesOn
  have refusal : FailsOnlyWith isOther (ExecRequest.ofLaunch launch path environment) :=
    FailsOnlyWith.ofLaunch (fun _ => rfl) launch path environment
  cases accepted : ExecRequest.ofLaunch launch path environment with
  | error cause =>
      rw [accepted] at goesOn
      refine Program.Results.of_runs ?_ goesOn
      exact Program.results_bind_anything _ fun _ =>
        Bindings.results_tidying _ (refusal cause accepted)
  | ok request =>
      rw [accepted] at goesOn
      dsimp only at goesOn
      rw [duplicate_eq] at goesOn
      cases goesOn with
      | call asked goesOn =>
      cases goesOn with
      | @call _ _ _ _ _ side _ _ forks goesOn =>
      rcases side with errno | (⟨⟩ | process)
      · have isOther : isOther (.fork (.os errno)) := rfl
        refine Program.Results.of_runs ?_ goesOn
        exact Program.results_bind_anything _ fun _ => Bindings.results_tidying _ isOther
      · -- The child's side comes to no result.
        refine Program.Results.of_runs ?_ goesOn
        exact Program.results_bind_anything _ fun never => never.elim
      · exact absurd (by simp [forked]) (childless process)

/-- Whatever is answered, a start says that the program does not exist, and the code for
that is reported, only if it has made a child.  If the pipe delivers what the child writes
until it ends or becomes another program, it says so exactly if the child has failed with
the error number for something missing, be it in executing the program or in a step of the
set-up before. -/
theorem saysNotFound_iff_of_runs_start
    (runs : Runs answers (launch.start rounds environment) before events (.done outcome)
      after) :
    (∀ cause, outcome = .error cause →
        ((Runner.RunError.start cause).exitCode = Runner.RunError.notFoundCode ↔
          SaysNotFound outcome)) ∧
      ((∀ process, forked process ∉ events) → ¬SaysNotFound outcome) ∧
      ∀ prior process parentEvents, events = prior ++ forked process :: parentEvents →
        ∃ side request,
          Runs anything (launch.start rounds environment) () prior (.call .fork side) () ∧
            ExecRequest.ofLaunch launch (SearchPath.ofEnvironment environment) environment =
              .ok request ∧
            ∀ childEvents final resume,
              Runs anything (side (.ok .child)) () childEvents (.call final resume) () →
                Child.isFinal final → Delivers childEvents parentEvents →
                  (SaysNotFound outcome ↔
                    Child.FailsInExecution request childEvents Errno.ENOENT ∨
                      Child.FailsInSetUp childEvents Errno.ENOENT) := by
  refine ⟨?_, ?_⟩
  · rintro cause rfl
    rw [Runner.RunError.exitCode_start_eq_notFoundCode_iff]
    simp [SaysNotFound]
  rw [start] at runs ⊢
  split at runs
  · cases runs
    refine ⟨fun _ => ?_, fun prior process parentEvents same => ?_⟩
    · rintro ⟨cause, ⟨⟩, isNotFound⟩
      cases isNotFound
    · cases prior <;> cases same
  next notEmpty =>
  rw [if_neg notEmpty]
  refine ⟨not_saysNotFound_of_runs_spawn runs, ?_⟩
  rintro prior process parentEvents rfl
  obtain ⟨side, atFork, between, forks, -, supervises⟩ := runs.cut
  obtain ⟨reader, writer, bindings, request, _, _, _, _, limit, -, -, -, -, accepted, rfl⟩ :=
    parts_of_runs_spawn forks
  refine ⟨_, request, forks.forget, accepted, ?_⟩
  intro childEvents final resume childRuns isLast delivers
  refine saysNotFound_iff_of_runs_superviseStart supervises delivers ?_
  rcases Runs.bind_call_cases childRuns with ⟨_, -, inChild⟩ | ⟨_, _, never, _⟩
  · exact Child.hasTold_of_runs_run inChild isLast delivers.takes
  · exact never.elim

/-- A child enters its directory and finds no program there, and the parent says so. -/
theorem saysNotFound_iff_of_runs_start_without_program :
    ∃ launch prior parentEvents cause side request childEvents resume,
      Runs anything (Launch.start 5 launch ⟨[]⟩) () (prior ++ forked 7 :: parentEvents)
          (.done (.error cause)) () ∧
        Runs anything (Launch.start 5 launch ⟨[]⟩) () prior (.call .fork side) () ∧
        Runs anything (side (.ok .child)) () childEvents (.call (.exit 127) resume) () ∧
        Delivers childEvents parentEvents ∧
        Child.FailsInExecution request childEvents Errno.ENOENT ∧
        SaysNotFound (.error cause : Except LaunchError Handle) ∧
        (Runner.RunError.start cause).exitCode = 127 := by
  let launch : Launch :=
    { initial with
      commandLine := ["./cat"]
      inheritsEnvironment := false
      redirections := ⟨.descriptor 0, .descriptor 1, .descriptor 2⟩ }
  let cause : LaunchError := .execution "./cat" (.os Errno.ENOENT)
  let prior : List Event := [⟨.pipe, .ok (3, 4)⟩, ⟨.descriptorLimit, (5 : Int)⟩]
  let report := Report.encode Errno.ENOENT
  let message := "spawn of " ++ Text.quotedList ["./cat"] ++ " failed: " ++ cause.message
  let parentEvents : List Event :=
    [⟨.close 4, .ok ()⟩, ⟨.read 3 4, .ok report⟩, ⟨.close 3, .ok ()⟩,
      ⟨.collect 7 .untilEnd, .ok (7, ⟨32512⟩)⟩, ⟨.log ⟨.debug, some .spawn, message⟩, ()⟩]
  let childEvents : List Event :=
    [⟨.close 3, .ok ()⟩, ⟨.setDisposition 13 .standard, ()⟩, ⟨.setSignalMask [], ()⟩,
      ⟨.setCloseOnExec 0 false, .ok ()⟩, ⟨.setCloseOnExec 1 false, .ok ()⟩,
      ⟨.setCloseOnExec 2 false, .ok ()⟩,
      ⟨.openFile Inherited.descriptorDirectory .listing, .error Errno.ENOENT⟩,
      ⟨.close 3, .error Errno.EBADF⟩, ⟨.changeDirectory [46], .ok ()⟩,
      ⟨.setCloseOnExec 4 true, .ok ()⟩,
      ⟨.execute (Bytes.ofText "./cat") [Bytes.ofText "./cat"] [], Errno.ENOENT⟩,
      ⟨.write 4 report, .ok 4⟩, ⟨.close 4, .ok ()⟩]
  have runs : Runs anything (launch.start 5 ⟨[]⟩) () (prior ++ forked 7 :: parentEvents)
      (.done (.error cause)) () :=
    .next <| .next <| .next <| .next <| .next <| .next <| .next <| .next <| .stop _ _
  have parts : ∃ side resume,
      Runs anything (launch.start 5 ⟨[]⟩) () prior (.call .fork side) () ∧
        Runs anything (side (.ok .child)) () childEvents (.call (.exit 127) resume) () :=
    ⟨_, _, .next <| .next <| .stop _ _, .next <| .next <| .next <| .next <| .next <| .next <|
      .next <| .next <| .next <| .next <| .next <| .next <| .next <| .stop _ _⟩
  obtain ⟨side, resume, forks, childRuns⟩ := parts
  have delivers : Delivers childEvents parentEvents :=
    { takes := by simp [HasGivenUp, givesUp, childEvents]
      fits := by simp [Fits, parentEvents, report, Report.encode]
      interrupted := by simp [parentEvents]
      bytes := rfl }
  have fails : ∃ request,
      ExecRequest.ofLaunch launch (SearchPath.ofEnvironment ⟨[]⟩) ⟨[]⟩ = .ok request ∧
        Child.FailsInExecution request childEvents Errno.ENOENT :=
    ⟨_, rfl, rfl, .next <| .stop _ _⟩
  obtain ⟨request, isRequest, fails⟩ := fails
  obtain ⟨reportsCode, -, follows⟩ := saysNotFound_iff_of_runs_start runs
  obtain ⟨other, requested, forksToo, accepted, tells⟩ := follows prior 7 parentEvents rfl
  cases forks.left_unique forksToo
  cases isRequest.symm.trans accepted
  have isSaid := (tells childEvents _ resume childRuns trivial delivers).mpr (.inl fails)
  exact ⟨launch, prior, parentEvents, cause, side, request, childEvents, resume, runs, forks,
    childRuns, delivers, fails, isSaid, (reportsCode cause rfl).mpr isSaid⟩

/-- A parent also says that the program does not exist when its child has not come to
executing it: the working directory is missing. -/
theorem exists_missing_directory_of_runs_start :
    ∃ launch prior parentEvents cause side request childEvents resume,
      Runs anything (Launch.start 5 launch ⟨[]⟩) () (prior ++ forked 7 :: parentEvents)
          (.done (.error cause)) () ∧
        Runs anything (Launch.start 5 launch ⟨[]⟩) () prior (.call .fork side) () ∧
        ExecRequest.ofLaunch launch (SearchPath.ofEnvironment ⟨[]⟩) ⟨[]⟩ = .ok request ∧
        Runs anything (side (.ok .child)) () childEvents (.call (.exit 127) resume) () ∧
        Delivers childEvents parentEvents ∧
        ⟨.changeDirectory launch.directory, .error Errno.ENOENT⟩ ∈ childEvents ∧
        childEvents.filter Child.executes = [] ∧
        ¬Child.FailsInExecution request childEvents Errno.ENOENT ∧
        SaysNotFound (.error cause : Except LaunchError Handle) ∧
        (Runner.RunError.start cause).exitCode = 127 := by
  let launch : Launch :=
    { initial with
      commandLine := ["/bin/cat"]
      inheritsEnvironment := false
      directory := Bytes.ofText "/gone"
      redirections := ⟨.descriptor 0, .descriptor 1, .descriptor 2⟩ }
  let cause : LaunchError := .execution "/bin/cat" (.os Errno.ENOENT)
  let prior : List Event := [⟨.pipe, .ok (3, 4)⟩, ⟨.descriptorLimit, (5 : Int)⟩]
  let report := Report.encode Errno.ENOENT
  let message := "spawn of " ++ Text.quotedList ["/bin/cat"] ++ " failed: " ++ cause.message
  let parentEvents : List Event :=
    [⟨.close 4, .ok ()⟩, ⟨.read 3 4, .ok report⟩, ⟨.close 3, .ok ()⟩,
      ⟨.collect 7 .untilEnd, .ok (7, ⟨32512⟩)⟩, ⟨.log ⟨.debug, some .spawn, message⟩, ()⟩]
  let childEvents : List Event :=
    [⟨.close 3, .ok ()⟩, ⟨.setDisposition 13 .standard, ()⟩, ⟨.setSignalMask [], ()⟩,
      ⟨.setCloseOnExec 0 false, .ok ()⟩, ⟨.setCloseOnExec 1 false, .ok ()⟩,
      ⟨.setCloseOnExec 2 false, .ok ()⟩,
      ⟨.openFile Inherited.descriptorDirectory .listing, .error Errno.ENOENT⟩,
      ⟨.close 3, .error Errno.EBADF⟩,
      ⟨.changeDirectory (Bytes.ofText "/gone"), .error Errno.ENOENT⟩,
      ⟨.write 4 report, .ok 4⟩, ⟨.close 4, .ok ()⟩]
  have runs : Runs anything (launch.start 5 ⟨[]⟩) () (prior ++ forked 7 :: parentEvents)
      (.done (.error cause)) () :=
    .next <| .next <| .next <| .next <| .next <| .next <| .next <| .next <| .stop _ _
  have parts : ∃ side request resume,
      Runs anything (launch.start 5 ⟨[]⟩) () prior (.call .fork side) () ∧
        ExecRequest.ofLaunch launch (SearchPath.ofEnvironment ⟨[]⟩) ⟨[]⟩ = .ok request ∧
        Runs anything (side (.ok .child)) () childEvents (.call (.exit 127) resume) () :=
    ⟨_, _, _, .next <| .next <| .stop _ _, rfl, .next <| .next <| .next <| .next <| .next <|
      .next <| .next <| .next <| .next <| .next <| .next <| .stop _ _⟩
  obtain ⟨side, request, resume, forks, accepted, childRuns⟩ := parts
  have delivers : Delivers childEvents parentEvents :=
    { takes := by simp [HasGivenUp, givesUp, childEvents]
      fits := by simp [Fits, parentEvents, report, Report.encode]
      interrupted := by simp [parentEvents]
      bytes := rfl }
  have doesNotCome : ¬Child.FailsInExecution request childEvents Errno.ENOENT :=
    fun fails => List.cons_ne_nil _ _ fails.unfailing
  exact ⟨launch, prior, parentEvents, cause, side, request, childEvents, resume, runs, forks,
    accepted, childRuns, delivers, by simp [childEvents, launch], rfl, doesNotCome,
    ⟨cause, rfl, rfl⟩, rfl⟩

end Launch
end ChildProcess
