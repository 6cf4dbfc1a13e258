import ChildProcess.Proofs.Spawn.Preparation
import ChildProcess.Proofs.StartErrors

/-!
# Descriptors of a parent that starts a child

Starting a child opens pipes, duplicates the process and closes what is no longer
needed, and each of these can fail.  Whatever happens in the parent, a failed start
gives back everything, and a successful one leaves exactly the ends that the handle
owns: one for every stream that got a pipe.
-/

namespace ChildProcess

open Descriptors

/-- The stream that could not be bound, if that is the error. -/
def LaunchError.unbound? : LaunchError → Option StandardStream
  | .streamBinding stream _ => some stream
  | _ => none

/-- The descriptors that a handle owns. -/
def Handle.owned (handle : Handle) : List Descriptor :=
  handle.streams.toList.filterMap id

/-- The end of a pipe that the parent keeps of a stream, when pipes are handed out to
the streams in order: it writes standard input and reads the other two. -/
def Launch.keptEnd? (launch : Launch) (pipes : List (Descriptor × Descriptor))
    (stream : StandardStream) : Option Descriptor :=
  ((launch.pipedStreams.zip pipes).lookup stream).map fun (reader, writer) =>
    if stream = .stdin then writer else reader

/-! ## The parent's ends -/

namespace StreamEnds

theorem parentEnd_withoutChildEnd (ends : StreamEnds) (stream : StandardStream) :
    (ends.withoutChildEnd stream).parentEnd stream = ends.parentEnd stream := by
  cases ends <;> cases stream <;> rfl

theorem owned_withoutChildEnd (ends : StreamEnds) (stream : StandardStream) :
    (ends.withoutChildEnd stream).owned = (ends.parentEnd stream).toList := by
  cases ends <;> cases stream <;> simp [withoutChildEnd, owned, parentEnd]

end StreamEnds

namespace Bindings

theorem parentEnds_withoutChildEnds (bindings : Bindings) :
    bindings.withoutChildEnds.parentEnds = bindings.parentEnds := by
  simp [withoutChildEnds, parentEnds, StreamEnds.parentEnd_withoutChildEnd]

theorem owned_withoutChildEnds (bindings : Bindings) :
    bindings.withoutChildEnds.owned = bindings.parentEnds.toList.filterMap id := by
  obtain ⟨stdin, stdout, stderr⟩ := bindings
  simp only [withoutChildEnds, owned, StreamEnds.owned_withoutChildEnd, parentEnds,
    PerStream.toList]
  cases stdin.parentEnd .stdin <;> cases stdout.parentEnd .stdout <;>
    cases stderr.parentEnd .stderr <;> rfl

end Bindings

theorem Launch.mem_pipedStreams (launch : Launch) (stream : StandardStream) :
    stream ∈ launch.pipedStreams ↔
      (launch.redirections.get stream).target? = none ∧
        (launch.mergesOutputs && stream == .stderr) = false := by
  cases stream <;> simp [Launch.pipedStreams]

theorem Launch.lookup_eq_none_of_not_mem
    {launch : Launch}
    {stream : StandardStream}
    (noPipe : stream ∉ launch.pipedStreams)
    (pipes : List (Descriptor × Descriptor)) :
    (launch.pipedStreams.zip pipes).lookup stream = none := by
  rw [List.lookup_eq_none_iff]
  intro entry isMember
  have isPiped := (List.of_mem_zip isMember).1
  simp only [bne_iff_ne]
  rintro rfl
  exact noPipe isPiped

theorem Launch.isSome_keptEnd?
    {launch : Launch}
    {pipes : List (Descriptor × Descriptor)}
    (sameLength : pipes.length = launch.pipedStreams.length)
    (stream : StandardStream) :
    (launch.keptEnd? pipes stream).isSome ↔ stream ∈ launch.pipedStreams := by
  have keys : stream ∈ launch.pipedStreams ↔
      stream ∈ (launch.pipedStreams.zip pipes).map Prod.fst := by
    rw [List.map_fst_zip (Nat.le_of_eq sameLength.symm)]
  rw [keys, keptEnd?, Option.isSome_map, List.lookup_isSome_iff, List.mem_map]
  simp only [beq_iff_eq, eq_comm (a := stream)]

/-- The parent keeps an end of every pipe that a stream is bound to. -/
theorem Launch.parentEnd_bindingOf
    (launch : Launch)
    (pipes : List (Descriptor × Descriptor))
    (stream : StandardStream) :
    (launch.bindingOf pipes stream).parentEnd stream = launch.keptEnd? pipes stream := by
  have isPiped := launch.mem_pipedStreams stream
  rw [bindingOf, keptEnd?]
  cases follows : launch.mergesOutputs && stream == .stderr with
  | true =>
      rw [launch.lookup_eq_none_of_not_mem (by simp [isPiped, follows])]
      rfl
  | false =>
      cases redirection : launch.redirections.get stream with
      | descriptor number =>
          rw [launch.lookup_eq_none_of_not_mem
            (by simp [isPiped, redirection, Redirection.target?])]
          rfl
      | pipe =>
          cases (launch.pipedStreams.zip pipes).lookup stream with
          | none => rfl
          | some ends => cases stream <;> rfl

theorem Launch.parentEnds_bindings
    (launch : Launch)
    (pipes : List (Descriptor × Descriptor))
    (stream : StandardStream) :
    (launch.bindings pipes).parentEnds.get stream = launch.keptEnd? pipes stream := by
  rw [← launch.parentEnd_bindingOf]
  cases stream <;> rfl

/-! ## What a request refuses -/

/-- Whatever fails, no stream is to blame. -/
def BlamesNoStream {α : Type} (outcome : Except LaunchError α) : Prop :=
  ∀ cause, outcome = .error cause → cause.unbound? = none

theorem BlamesNoStream.ofLaunch (launch : Launch) (path : SearchPath) (parent : Environment) :
    BlamesNoStream (ExecRequest.ofLaunch launch path parent) :=
  FailsOnlyWith.ofLaunch (fun _ => rfl) launch path parent

/-! ## Reading the report -/

/-- Reading pieces asks for some bytes with every call. -/
theorem Program.makes_readPieces
    {kind : Call → Prop}
    {rounds : Nat}
    {descriptor : Descriptor}
    (isKind : ∀ count, 0 < count → kind (.read descriptor count))
    (pieces missing : Nat) :
    (readPieces (readSome rounds descriptor) pieces missing).Makes kind := by
  induction pieces generalizing missing with
  | zero => trivial
  | succ pieces inductionHypothesis =>
      rw [readPieces]
      split
      · trivial
      · next something =>
        have reads := isKind missing (Nat.pos_of_ne_zero something)
        refine makes_bind ?_ fun answer => ?_
        · exact makes_bind (makes_retrying (makes_perform reads) rounds) fun _ => trivial
        · split
          · trivial
          · trivial
          · refine makes_bind (inductionHypothesis _) fun rest => ?_
            cases rest <;> trivial

theorem Program.makes_readFully
    {kind : Call → Prop}
    (rounds : Nat)
    (descriptor : Descriptor)
    (isKind : ∀ count, kind (.read descriptor count))
    (count : Nat) :
    (readFully rounds descriptor count).Makes kind :=
  makes_readPieces (fun count _ => isKind count) (count + 1) count

theorem makes_collectEnded
    {kind : Call → Prop}
    (process : ProcessId)
    (rounds : Nat)
    (collects : kind (.collect process .untilEnd))
    (logs : ∀ record, kind (.log record)) :
    (collectEnded process rounds).Makes kind := by
  refine Program.makes_bind
    (Program.makes_retrying (Program.makes_perform collects) rounds) fun answer => ?_
  cases answer with
  | ok value => trivial
  | error errno =>
      dsimp only
      split
      · trivial
      · exact ⟨logs _, fun _ => trivial⟩

section Accounting

variable {before state : Descriptors} {owned : List Descriptor}
variable {history : List Event}

namespace Launch

/-- Reading a report gives up the reader, and blames no stream. -/
theorem ensures_awaitReport
    (rounds : Nat)
    (launch : Launch)
    (process : ProcessId)
    {reader : Descriptor}
    (adds : before.Adds (reader :: owned) state) :
    (launch.awaitReport rounds process reader).Ensures before.accounting
      (fun later after answer =>
        before.leaves owned history later after answer ∧ BlamesNoStream answer)
      history state := by
  have reads := adds.ensures_of_makes
    (Program.makes_readFully rounds reader (fun _ => rfl) Report.length) history
  refine ensures_bind_of_leaves reads fun later after answer adds sameRead => ?_
  refine ensures_bind_of_leaves
    (adds.ensures_dropDescriptor (some reader) later) ?_
  intro later after _ adds sameDrop
  have noPipe := sameDrop.trans sameRead
  split
  · exact ⟨⟨adds, noPipe⟩, fun _ same => by cases same; rfl⟩
  · exact ⟨⟨adds, noPipe⟩, FailsOnlyWith.ok ()⟩
  · refine ensures_bind_of_leaves
      (adds.ensures_of_makes
        (makes_collectEnded process rounds rfl fun _ => rfl) later) ?_
    intro later after _ adds sameCollect
    have noPipe := sameCollect.trans noPipe
    split <;> exact ⟨⟨adds, noPipe⟩, fun _ same => by cases same; rfl⟩

/-- A start ends with a handle that owns the parent's ends of some bindings, or with
nothing owned and no stream to blame. -/
def Settles (before : Descriptors) (bindings : Bindings) (history later : List Event)
    (after : Descriptors) (result : Except LaunchError Handle) : Prop :=
  pipeAnswers later = pipeAnswers history ∧
    match result with
    | .ok handle => handle.streams = bindings.parentEnds ∧ before.Adds handle.owned after
    | .error cause => cause.unbound? = none ∧ before.Adds [] after

theorem ensures_superviseStart
    (rounds : Nat)
    (launch : Launch)
    (process : ProcessId)
    {reader writer : Descriptor}
    {bindings : Bindings}
    (adds : before.Adds (bindings.owned ++ [writer, reader]) state) :
    (launch.superviseStart rounds process reader writer bindings).Ensures
      before.accounting (Settles before bindings history) history state := by
  have adds := adds.perm List.perm_append_comm
  refine ensures_bind_of_leaves
    (adds.ensures_dropDescriptor (some writer) history) ?_
  intro later after _ adds sameDrop
  rw [Program.ensures_bind]
  refine (ensures_awaitReport rounds launch process adds).mono ?_
  rintro later after result ⟨⟨adds, sameReport⟩, blamesNoStream⟩
  rw [← List.append_nil bindings.owned] at adds
  rw [Program.ensures_bind]
  refine (bindings.ensures_closeChildEnds adds later).mono ?_
  rintro later after left ⟨rfl, adds, sameClose⟩
  have noPipe := sameClose.trans (sameReport.trans sameDrop)
  cases result with
  | ok =>
      refine ensures_log fun later sameLog => ?_
      refine ⟨sameLog.trans noPipe, bindings.parentEnds_withoutChildEnds, ?_⟩
      rw [List.append_nil, bindings.owned_withoutChildEnds,
        ← bindings.parentEnds_withoutChildEnds] at adds
      exact adds
  | error cause =>
      refine ensures_log fun later sameLog => ?_
      refine ensures_bind_of_leaves (Bindings.ensures_drop _ adds later) ?_
      intro later after _ adds sameDrop
      exact ⟨sameDrop.trans (sameLog.trans noPipe), blamesNoStream cause rfl, adds⟩

/-- What settles a start does not depend on where the history began. -/
theorem Settles.of_eq
    {bindings : Bindings}
    {earlier later : List Event}
    {after : Descriptors}
    {result : Except LaunchError Handle}
    (settles : Settles before bindings history later after result)
    (noPipe : pipeAnswers history = pipeAnswers earlier) :
    Settles before bindings earlier later after result :=
  ⟨settles.1.trans noPipe, settles.2⟩

end Launch

/-! ## Both sides -/

/-- The answers in a process that never finds itself on a child's side. -/
def Descriptors.inParent : System Descriptors :=
  System.only Answers (· ≠ ⟨.fork, .ok .child⟩)

/-- The circumstances under which the descriptors of a parent are accounted for. -/
abbrev Descriptors.parentAccounting (before : Descriptors) : Setting Descriptors where
  answers := inParent
  allows := before.mayClose

theorem Descriptors.ensures_parentAccounting
    {α : Type}
    {program : Program α}
    {result : List Event → Descriptors → α → Prop}
    (ensures : program.Ensures before.accounting result history state) :
    program.Ensures before.parentAccounting result history state :=
  ensures.restrict

namespace Launch

theorem ensures_duplicate
    (rounds : Nat)
    (launch : Launch)
    (request : ExecRequest)
    {reader writer : Descriptor}
    {bindings : Bindings}
    (adds : before.Adds (bindings.owned ++ [writer, reader]) state) :
    (launch.duplicate rounds request reader writer bindings).Ensures
      before.parentAccounting (Settles before bindings history) history state := by
  have makesOneCall : Inherited.descriptorLimit.Makes fun request =>
      leavesDescriptors request = true := ⟨rfl, fun _ => trivial⟩
  have asksLimit := adds.ensures_of_makes makesOneCall history
  rw [duplicate, Program.ensures_bind]
  refine (ensures_parentAccounting asksLimit).mono ?_
  rintro later after limit ⟨adds, sameLimit⟩
  rw [Program.ensures_perform_bind]
  refine ⟨trivial, fun answer next answered => ?_⟩
  obtain ⟨answered, notChild⟩ := answered
  obtain rfl : next = after := answered
  have noPipe : pipeAnswers (later ++ [⟨.fork, answer⟩]) = pipeAnswers history := by
    rw [pipeAnswers_append, sameLimit]
    simp [pipeAnswers_cons_of_ne]
  rcases answer with errno | (_ | process)
  · refine ensures_parentAccounting (ensures_bind_of_leaves
      (bindings.ensures_drop adds _) fun later after _ adds sameDrop => ?_)
    refine ensures_bind_of_leaves (ensures_dropReportPipe adds _) ?_
    intro later after _ adds sameReport
    exact ⟨sameReport.trans (sameDrop.trans noPipe), rfl, adds⟩
  · exact absurd rfl notChild
  · refine (ensures_parentAccounting
      (ensures_superviseStart rounds launch process adds)).mono ?_
    intro later after result settles
    exact settles.of_eq noPipe

/-- A stream is the first one, in order, for which no pipe could be made. -/
def FirstUnbound (launch : Launch) (events : List Event) (stream : StandardStream)
    (reason : SystemError) : Prop :=
  ∃ (report : Descriptor × Descriptor) (pipes : List (Descriptor × Descriptor))
    (errno : Errno),
    pipeAnswers events = .ok report :: (pipes.map .ok ++ [.error errno]) ∧
      launch.pipedStreams[pipes.length]? = some stream ∧ reason = .os errno

/-- Where the descriptors of a parent are when the start of a child has ended. -/
def Accounts (launch : Launch) (before : Descriptors) (events : List Event)
    (after : Descriptors) : Except LaunchError Handle → Prop
  | .ok handle =>
      ∃ (report : Descriptor × Descriptor) (pipes : List (Descriptor × Descriptor)),
        pipeAnswers events = .ok report :: pipes.map .ok ∧
          pipes.length = launch.pipedStreams.length ∧
          (∀ stream, handle.streams.get stream = launch.keptEnd? pipes stream) ∧
          (∀ stream, (handle.streams.get stream).isSome ↔
            stream ∈ launch.pipedStreams) ∧
          before.Adds handle.owned after
  | .error cause =>
      after.slot? = before.slot? ∧
        ∀ stream reason,
          cause = .streamBinding stream reason ↔
            launch.FirstUnbound events stream reason

theorem not_firstUnbound
    {launch : Launch}
    {events : List Event}
    {report : Descriptor × Descriptor}
    {pipes : List (Descriptor × Descriptor)}
    (allMade : pipeAnswers events = .ok report :: pipes.map .ok)
    (stream : StandardStream)
    (reason : SystemError) :
    ¬launch.FirstUnbound events stream reason := by
  rintro ⟨other, made, errno, failed, -, -⟩
  have isAnswer : .error errno ∈ pipeAnswers events := by simp [failed]
  simp [allMade] at isAnswer

/-- When all pipes have been made, an error that blames no stream accounts for
everything. -/
theorem accounts_error
    {launch : Launch}
    {events : List Event}
    {after : Descriptors}
    {report : Descriptor × Descriptor}
    {pipes : List (Descriptor × Descriptor)}
    {cause : LaunchError}
    (allMade : pipeAnswers events = .ok report :: pipes.map .ok)
    (blamesNoStream : cause.unbound? = none)
    (adds : before.Adds [] after) :
    launch.Accounts before events after (.error cause) := by
  refine ⟨adds.slot?_eq, fun stream reason => iff_of_false ?_ ?_⟩
  · rintro rfl
    cases blamesNoStream
  · exact not_firstUnbound allMade stream reason

/-- When a pipe could not be made, the stream that it was for is the only one to
blame. -/
theorem firstUnbound_iff
    {launch : Launch}
    {events : List Event}
    {report : Descriptor × Descriptor}
    {pipes : List (Descriptor × Descriptor)}
    {errno : Errno}
    {first : StandardStream}
    (failed : pipeAnswers events = .ok report :: (pipes.map .ok ++ [.error errno]))
    (isFirst : launch.pipedStreams[pipes.length]? = some first)
    (stream : StandardStream)
    (reason : SystemError) :
    launch.FirstUnbound events stream reason ↔ stream = first ∧ reason = .os errno := by
  constructor
  · rintro ⟨other, made, code, sameFailure, isStream, rfl⟩
    rw [failed, List.cons.injEq] at sameFailure
    obtain ⟨sameMade, sameErrno⟩ := List.append_inj' sameFailure.2 rfl
    have sameLength : pipes.length = made.length := by
      simpa using congrArg List.length sameMade
    rw [← sameLength, isFirst] at isStream
    cases isStream
    cases sameErrno
    exact ⟨rfl, rfl⟩
  · rintro ⟨rfl, rfl⟩
    exact ⟨report, pipes, errno, failed, isFirst, rfl⟩

/-- What settles a start after all pipes have been made accounts for everything. -/
theorem Settles.accounts
    {launch : Launch}
    {later : List Event}
    {after : Descriptors}
    {report : Descriptor × Descriptor}
    {pipes : List (Descriptor × Descriptor)}
    {result : Except LaunchError Handle}
    (settles : Settles before (launch.bindings pipes) history later after result)
    (allMade : pipeAnswers history = .ok report :: pipes.map .ok)
    (sameLength : pipes.length = launch.pipedStreams.length) :
    launch.Accounts before later after result := by
  have allMade := settles.1.trans allMade
  cases result with
  | ok handle =>
      obtain ⟨-, isKept, adds⟩ := settles
      have isEnd : ∀ stream,
          handle.streams.get stream = launch.keptEnd? pipes stream := by
        intro stream
        rw [isKept, launch.parentEnds_bindings]
      refine ⟨report, pipes, allMade, sameLength, isEnd, fun stream => ?_, adds⟩
      rw [isEnd, isSome_keptEnd? sameLength]
  | error cause =>
      obtain ⟨-, blamesNoStream, adds⟩ := settles
      exact accounts_error allMade blamesNoStream adds

theorem ensures_spawn
    (rounds : Nat)
    (launch : Launch)
    (path : SearchPath)
    (environment : Environment)
    (before : Descriptors) :
    (launch.spawn rounds path environment).Ensures before.parentAccounting
      (launch.Accounts before) [] before := by
  rw [spawn, Bindings.systemPipe_bind, Program.ensures_perform_bind]
  refine ⟨trivial, fun answer state answered => ?_⟩
  replace answered := answered.1
  rcases answer with errno | ⟨reader, writer⟩
  · obtain rfl : state = before := answered
    refine ⟨rfl, fun stream reason => iff_of_false nofun ?_⟩
    rintro ⟨report, pipes, other, failed, -⟩
    simp at failed
  obtain ⟨freeReader, freeWriter, rfl⟩ := answered
  have adds := ((Adds.refl before).openNext freeReader).openNext freeWriter
  rw [← List.nil_append [writer, reader]] at adds
  dsimp only [Except.mapError]
  rw [Program.ensures_bind]
  refine (ensures_parentAccounting (launch.ensures_resolve adds)).mono ?_
  rintro later after (cause | bindings) resolved
  · obtain ⟨pipes, errno, stream, isFirst, rfl, adds, made⟩ := resolved
    refine ensures_parentAccounting
      (ensures_bind_of_leaves (ensures_dropReportPipe adds later) ?_)
    intro later after _ adds sameReport
    refine ⟨adds.slot?_eq, fun other reason => ?_⟩
    rw [firstUnbound_iff (sameReport.trans made) isFirst]
    simp [eq_comm]
  obtain ⟨pipes, sameLength, rfl, adds, allMade⟩ := resolved
  cases asked : ExecRequest.ofLaunch launch path environment with
  | error cause =>
      refine ensures_parentAccounting (ensures_bind_of_leaves
        ((launch.bindings pipes).ensures_drop adds later) ?_)
      intro later after _ adds sameDrop
      refine ensures_bind_of_leaves (ensures_dropReportPipe adds later) ?_
      intro later after _ adds sameReport
      exact accounts_error (sameReport.trans (sameDrop.trans allMade))
        (BlamesNoStream.ofLaunch launch path environment cause asked) adds
  | ok request =>
      refine (ensures_duplicate rounds launch request adds).mono ?_
      intro later after result settles
      exact settles.accounts allMade sameLength

end Launch
end Accounting
end ChildProcess
