import ChildProcess.Proofs.Spawn.Accounting
import ChildProcess.Proofs.Waiting.Outcome

/-!
# Parents of one child

A process that duplicates itself becomes the parent of a child, which lives its own life
from then on.  A child that was started successfully has not been collected, since the
parent collects it only after a report that it could not become another program.
-/

namespace ChildProcess

open Program (perform)

/-- What a process is to the child that it started last. -/
inductive Parenthood
  | childless
  | parent (process : ProcessId) (life : Life)
  deriving DecidableEq, Repr

namespace Parenthood

/-- What a process without a child is answered when it asks for one. -/
def Misses (request : Call) (answer : request.Answer) : Prop :=
  match request, answer with
  | .childReport _, answer => answer = .error Errno.ECHILD
  | .collect _ _, answer => answer = .error Errno.ECHILD
  | _, _ => True

/-- What a call may be answered, and what the process is afterwards.  Whoever comes into
being by a duplication has no child. -/
def Answers : System Parenthood := fun before request answer after =>
  match request, answer with
  | .fork, .ok (.parent process) => 0 < process ∧ after = .parent process .running
  | .fork, .ok .child => after = .childless
  | request, answer =>
      match before with
      | .childless => Misses request answer ∧ after = .childless
      | .parent process life =>
          ∃ later, Life.watching process life request answer later ∧
            after = .parent process later

/-- All that a process and its child may do. -/
def free : Setting Parenthood where
  answers := Answers

/-- The process waits for a child that has not been collected. -/
inductive Awaits (process : ProcessId) : Parenthood → Prop
  | parent {life : Life} (uncollected : life.IsUncollected) :
      Awaits process (.parent process life)

/-- Calls that neither make a child nor collect one. -/
def leavesChildren : Call → Prop
  | .fork | .collect _ _ => False
  | _ => True

variable {process : ProcessId} {before after : Parenthood}

/-- A parent that does not duplicate itself keeps its child. -/
theorem watching_of_answers
    {life : Life}
    {request : Call}
    {answer : request.Answer}
    (noFork : request ≠ .fork)
    (answered : Answers (.parent process life) request answer after) :
    ∃ later, Life.watching process life request answer later ∧
      after = .parent process later := by
  cases request with
  | fork => exact absurd rfl noFork
  | _ => exact answered

theorem Awaits.of_answers
    {request : Call}
    {answer : request.Answer}
    (awaits : before.Awaits process)
    (leaves : leavesChildren request)
    (answered : Answers before request answer after) :
    after.Awaits process := by
  have noFork : request ≠ .fork := by
    rintro rfl
    exact leaves
  have notCollecting : ∀ mode, request ≠ .collect process mode := by
    rintro mode rfl
    exact leaves
  cases awaits with
  | parent uncollected =>
      obtain ⟨later, watched, rfl⟩ := watching_of_answers noFork answered
      exact .parent (uncollected.of_other notCollecting watched)

section Programs

variable {α β : Type} {history : List Event}
variable {result : List Event → Parenthood → β → Prop}

/-- Whatever happens before it, a program ensures what it ensures at any time. -/
theorem ensures_bind_anything
    (program : Program α)
    {next : α → Program β}
    (follows : ∀ history state value, (next value).Ensures free result history state)
    (history : List Event)
    (state : Parenthood) :
    (program >>= next).Ensures free result history state := by
  rw [Program.ensures_bind]
  refine (Program.ensures_anything trivial (fun _ _ _ => trivial) program history
    state).mono ?_
  intro later after value _
  exact follows later after value

/-- A program that leaves the child alone leaves it to be collected. -/
theorem Awaits.ensures
    {program : Program α}
    (awaits : before.Awaits process)
    (makes : program.Makes leavesChildren)
    (history : List Event) :
    program.Ensures free (fun _ after _ => after.Awaits process) history before := by
  refine makes.ensures (fun _ (state : Parenthood) => state.Awaits process) trivial ?_ ?_
    awaits
  · intros
    trivial
  · intro _ _ _ _ _ awaits leaves answered
    exact awaits.of_answers leaves answered

theorem Awaits.ensures_bind
    {program : Program α}
    {next : α → Program β}
    (awaits : before.Awaits process)
    (makes : program.Makes leavesChildren)
    (follows : ∀ history state value, state.Awaits process →
      (next value).Ensures free result history state) :
    (program >>= next).Ensures free result history before := by
  rw [Program.ensures_bind]
  refine (awaits.ensures makes history).mono ?_
  intro later after value awaits
  exact follows later after value awaits

theorem leavesChildren_of_preparesOrCloses {request : Call}
    (prepares : preparesOrCloses request) : leavesChildren request := by
  cases request with
  | pipe | close | log => trivial
  | _ => exact prepares.elim

theorem makes_dropDescriptor (held? : Option Descriptor) :
    (dropDescriptor held?).Makes leavesChildren :=
  (completes_dropDescriptor held?).makes.mono fun _ => leavesChildren_of_preparesOrCloses

theorem makes_log (level : LogLevel) (topic? : Option LogTopic) (message : String) :
    (Program.log level topic? message).Makes leavesChildren :=
  ⟨trivial, fun _ => trivial⟩

/-- A child about which no report came is there to be collected. -/
theorem Awaits.ensures_awaitReport
    (awaits : before.Awaits process)
    (rounds : Nat)
    (launch : Launch)
    (reader : Descriptor)
    (history : List Event) :
    (launch.awaitReport rounds process reader).Ensures free
      (fun _ after answer => answer = .ok () → after.Awaits process) history before := by
  have reads : (Program.readFully rounds reader Report.length).Makes leavesChildren :=
    Program.makes_readFully rounds reader (fun _ => trivial) Report.length
  refine awaits.ensures_bind reads fun history state answer awaits => ?_
  refine awaits.ensures_bind (makes_dropDescriptor _) fun history state _ awaits => ?_
  rcases answer with cause | payload
  · exact nofun
  · cases payload with
    | nil => exact fun _ => awaits
    | cons byte rest =>
        refine ensures_bind_anything _ (fun later after _ => ?_) history state
        cases Report.decode (byte :: rest) <;> exact nofun

/-- A handle that is given out is one of a child that has not been collected. -/
def GivesOut (result : Except LaunchError Handle) (after : Parenthood) : Prop :=
  ∀ handle, result = .ok handle →
    0 < handle.process ∧ handle.collected = false ∧ after.Awaits handle.process

/-- Whatever is tidied up before it, an error gives out nothing. -/
theorem ensures_error
    (tidying : Program Unit)
    (cause : LaunchError)
    (history : List Event)
    (state : Parenthood) :
    (tidying >>= fun _ => pure (.error cause)).Ensures free
      (fun _ after result => after.GivesOut result) history state := by
  refine ensures_bind_anything tidying (fun history state _ => ?_) history state
  exact nofun

theorem Awaits.ensures_superviseStart
    (awaits : before.Awaits process)
    (isProcess : 0 < process)
    (rounds : Nat)
    (launch : Launch)
    (reader writer : Descriptor)
    (bindings : Bindings)
    (history : List Event) :
    (launch.superviseStart rounds process reader writer bindings).Ensures free
      (fun _ after result => after.GivesOut result) history before := by
  have closesEnds : bindings.closeChildEnds.Makes leavesChildren :=
    bindings.completes_closeChildEnds.makes.mono fun _ => leavesChildren_of_preparesOrCloses
  refine awaits.ensures_bind (makes_dropDescriptor _) fun history state _ awaits => ?_
  rw [Program.ensures_bind]
  refine (awaits.ensures_awaitReport rounds launch reader history).mono ?_
  intro history state answer awaitsIfOk
  rcases answer with cause | ⟨⟩
  · refine ensures_bind_anything _ (fun history state bindings => ?_) history state
    refine ensures_bind_anything _ (fun history state _ => ?_) history state
    exact ensures_error _ cause history state
  · refine (awaitsIfOk rfl).ensures_bind closesEnds fun history state bindings awaits => ?_
    refine awaits.ensures_bind (makes_log _ _ _) fun history state _ awaits => ?_
    rintro handle ⟨rfl⟩
    exact ⟨isProcess, rfl, awaits⟩

theorem ensures_duplicate
    (rounds : Nat)
    (launch : Launch)
    (request : ExecRequest)
    (reader writer : Descriptor)
    (bindings : Bindings)
    (history : List Event)
    (state : Parenthood) :
    (launch.duplicate rounds request reader writer bindings).Ensures free
      (fun _ after result => after.GivesOut result) history state := by
  refine ensures_bind_anything _ (fun history state limit => ?_) history state
  rw [Program.ensures_perform_bind]
  refine ⟨trivial, ?_⟩
  rintro (errno | ⟨⟩ | process) after answered
  · refine ensures_bind_anything _ (fun history state _ => ?_) _ after
    exact ensures_error _ _ history state
  · exact ensures_bind_anything _ (fun _ _ never => never.elim) _ after
  · obtain ⟨isProcess, rfl⟩ := answered
    exact (Awaits.parent (by trivial)).ensures_superviseStart isProcess rounds launch reader
      writer bindings _

theorem ensures_spawn
    (rounds : Nat)
    (launch : Launch)
    (path : SearchPath)
    (environment : Environment)
    (history : List Event)
    (state : Parenthood) :
    (launch.spawn rounds path environment).Ensures free
      (fun _ after result => after.GivesOut result) history state := by
  refine ensures_bind_anything _ (fun history state pipe => ?_) history state
  rcases pipe with cause | ⟨reader, writer⟩
  · exact nofun
  refine ensures_bind_anything _ (fun history state bindings => ?_) history state
  rcases bindings with cause | bindings
  · exact ensures_error _ cause history state
  cases ExecRequest.ofLaunch launch path environment with
  | error cause =>
      refine ensures_bind_anything _ (fun history state _ => ?_) history state
      exact ensures_error _ cause history state
  | ok request =>
      exact ensures_duplicate rounds launch request reader writer bindings history state

/-- Whoever starts a child gets a handle of a child that has not been collected. -/
theorem ensures_start
    (rounds : Nat)
    (launch : Launch)
    (environment : Environment)
    (history : List Event)
    (state : Parenthood) :
    (launch.start rounds environment).Ensures free
      (fun _ after result => after.GivesOut result) history state := by
  unfold Launch.start
  split
  · exact nofun
  · exact ensures_spawn rounds launch _ environment history state

end Programs
end Parenthood
end ChildProcess
