import ChildProcess.Proofs.Runs
import ChildProcess.Spawn.Start

/-!
# The errors of a start

A start can fail at six places: the pipe for the report, the pipe for a stream, the strings
that are to be handed over, the duplication, the execution in the child, and the reading of
its report.  No other error comes out of it, whatever the operating system answers.
-/

namespace ChildProcess

/-- An outcome that is an error has a cause of some kind. -/
def FailsOnlyWith {α : Type} (kind : LaunchError → Prop) (outcome : Except LaunchError α) :
    Prop :=
  ∀ cause, outcome = .error cause → kind cause

namespace FailsOnlyWith

variable {kind : LaunchError → Prop} {α β : Type}

theorem ok (value : α) : FailsOnlyWith kind (.ok value) := by
  intro cause failed
  cases failed

theorem error {cause : LaunchError} (isKind : kind cause) :
    FailsOnlyWith kind (.error cause : Except LaunchError α) := by
  intro other failed
  cases failed
  exact isKind

theorem bind
    {outcome : Except LaunchError α}
    {next : α → Except LaunchError β}
    (first : FailsOnlyWith kind outcome)
    (second : ∀ value, FailsOnlyWith kind (next value)) :
    FailsOnlyWith kind (outcome >>= next) := by
  cases outcome with
  | error cause => exact error (first cause rfl)
  | ok value => exact second value

theorem mapM
    {function : α → Except LaunchError β}
    (each : ∀ value, FailsOnlyWith kind (function value))
    (values : List α) :
    FailsOnlyWith kind (values.mapM function) := by
  induction values with
  | nil => exact ok []
  | cons value rest inductionHypothesis =>
      rw [List.mapM_cons]
      exact (each value).bind fun _ => inductionHypothesis.bind fun _ => ok _

/-! ## Requests -/

section Requests

variable (refusal : ∀ reason, kind (.invalidArgument reason))
include refusal

theorem requireString (what : String) (bytes : Bytes) :
    FailsOnlyWith kind (ExecRequest.requireString what bytes) := by
  unfold ExecRequest.requireString
  split
  · exact ok _
  · exact error (refusal _)

theorem locate (command : Bytes) (path : SearchPath) :
    FailsOnlyWith kind (ExecRequest.locate command path) := by
  unfold ExecRequest.locate
  split
  · exact ok _
  · split
    · rw [← bind_pure_comp]
      exact (requireString refusal _ _).bind fun _ => ok _
    · exact ok _

/-- A request is refused for an argument that cannot be handed over. -/
theorem ofLaunch (launch : Launch) (path : SearchPath) (parent : Environment) :
    FailsOnlyWith kind (ExecRequest.ofLaunch launch path parent) := by
  refine bind (mapM (fun _ => requireString refusal _ _) _) fun arguments => ?_
  refine bind (mapM (fun _ => requireString refusal _ _) _) fun environment => ?_
  refine bind (requireString refusal _ _) fun directory => ?_
  exact bind (locate refusal _ path) fun executable => ok _

end Requests

end FailsOnlyWith

/-! ## Starts -/

/-- An error of one of the steps of a start. -/
def LaunchError.IsOfStart : LaunchError → Prop
  | .reportPipe _ | .streamBinding _ _ | .invalidArgument _ | .fork _ | .execution _ _
  | .report _ => True
  | _ => False

open FailsOnlyWith (ok error)
open LaunchError (IsOfStart)
open Program (results_bind results_bind_anything)

namespace Bindings

section Blaming

variable {kind : LaunchError → Prop}

/-- Whatever is tidied up before it, the error is still the same. -/
theorem results_tidying {α : Type}
    {cause : LaunchError}
    (tidying : Program Unit)
    (isKind : kind cause) :
    (tidying >>= fun _ => pure (.error cause : Except LaunchError α)).Results
      (FailsOnlyWith kind) :=
  results_bind_anything tidying fun _ => error isKind

variable (blames : ∀ stream cause, kind (.streamBinding stream cause))
include blames

theorem results_bind (make : PipeMaker) (stream : StandardStream) (redirection : Redirection) :
    (bind make stream redirection).Results (FailsOnlyWith kind) := by
  unfold bind
  cases redirection with
  | descriptor number => exact ok _
  | pipe =>
      refine results_bind_anything _ fun made => ?_
      cases made with
      | ok ends => exact ok _
      | error cause => exact fun _ => error (blames stream cause)

theorem results_bindError (make : PipeMaker) (launch : Launch) :
    (bindError make launch).Results (FailsOnlyWith kind) := by
  unfold bindError
  split
  · exact ok _
  · exact results_bind blames make .stderr _

/-- Streams that cannot be bound are blamed. -/
theorem results_resolve (make : PipeMaker) (launch : Launch) :
    (resolve make launch).Results (FailsOnlyWith kind) := by
  refine Program.results_bind (results_bind blames make .stdin _) fun stdin ofStdin => ?_
  cases stdin with
  | error cause => exact error (ofStdin cause rfl)
  | ok stdin =>
  refine Program.results_bind (results_bind blames make .stdout _) fun stdout ofStdout => ?_
  cases stdout with
  | error cause => exact results_tidying _ (ofStdout cause rfl)
  | ok stdout =>
  refine Program.results_bind (results_bindError blames make launch) fun stderr ofStderr => ?_
  cases stderr with
  | error cause =>
      exact results_bind_anything _ fun _ => results_tidying _ (ofStderr cause rfl)
  | ok stderr => exact ok _

end Blaming

end Bindings

namespace Launch

variable (rounds : Nat) (launch : Launch)

theorem results_awaitReport (process : ProcessId) (reader : Descriptor) :
    (launch.awaitReport rounds process reader).Results (FailsOnlyWith IsOfStart) := by
  refine results_bind_anything _ fun answer => ?_
  refine results_bind_anything _ fun _ => ?_
  rcases answer with cause | (_ | ⟨byte, rest⟩)
  · exact error trivial
  · exact ok _
  · refine results_bind_anything _ fun _ => ?_
    split <;> exact error trivial

theorem results_superviseStart (process : ProcessId) (reader writer : Descriptor)
    (bindings : Bindings) :
    (launch.superviseStart rounds process reader writer bindings).Results
      (FailsOnlyWith IsOfStart) := by
  refine results_bind_anything _ fun _ => ?_
  refine results_bind (launch.results_awaitReport rounds process reader) fun result ofReport =>
    ?_
  refine results_bind_anything _ fun bindings => ?_
  cases result with
  | ok => exact fun _ => ok _
  | error cause => exact fun _ => Bindings.results_tidying _ (ofReport cause rfl)

theorem results_duplicate (request : ExecRequest) (reader writer : Descriptor)
    (bindings : Bindings) :
    (launch.duplicate rounds request reader writer bindings).Results
      (FailsOnlyWith IsOfStart) := by
  refine results_bind_anything Inherited.descriptorLimit fun limit => ?_
  refine results_bind_anything (Program.perform .fork) fun answer => ?_
  rcases answer with errno | child | process
  · have isOfStart : IsOfStart (.fork (.os errno)) := trivial
    exact results_bind_anything _ fun _ => Bindings.results_tidying _ isOfStart
  · exact results_bind_anything _ fun never => never.elim
  · exact launch.results_superviseStart rounds process reader writer bindings

/-- Whatever is answered, the error of a start is one of a step of it. -/
theorem results_spawn (path : SearchPath) (parent : Environment) :
    (launch.spawn rounds path parent).Results (FailsOnlyWith IsOfStart) := by
  refine results_bind_anything _ fun made => ?_
  rcases made with cause | ⟨reader, writer⟩
  · exact error trivial
  have binds : (Bindings.resolve (fun _ => Bindings.systemPipe) launch).Results
      (FailsOnlyWith IsOfStart) :=
    Bindings.results_resolve (fun _ _ => trivial) _ launch
  refine results_bind binds fun resolved ofBindings => ?_
  cases resolved with
  | error cause => exact Bindings.results_tidying _ (ofBindings cause rfl)
  | ok bindings =>
  have refusal : FailsOnlyWith IsOfStart (ExecRequest.ofLaunch launch path parent) :=
    FailsOnlyWith.ofLaunch (fun _ => trivial) launch path parent
  dsimp only
  cases requested : ExecRequest.ofLaunch launch path parent with
  | error cause =>
      exact results_bind_anything _ fun _ => Bindings.results_tidying _ (refusal cause requested)
  | ok request => exact launch.results_duplicate rounds request reader writer bindings

end Launch
end ChildProcess
