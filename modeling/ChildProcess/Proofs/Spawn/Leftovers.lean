import ChildProcess.Proofs.Waiting.Parenthood

/-!
# What a failed start leaves behind

Whoever duplicates itself has a child until the child has been collected or the operating
system has released it by itself, as it may at any time where the signal about children is
ignored.  A start that fails after the duplication hands out nothing by which the child
could be collected later.  It collects the child itself if the child has reported anything,
and leaves it alone if the report could not be read.
-/

namespace ChildProcess

open Program (Runs)
open Parenthood (leavesChildren leavesChildren_of_preparesOrCloses makes_dropDescriptor
  makes_log)

/-- What has become of the child that a process started last. -/
inductive Custody
  /-- There is none. -/
  | childless
  /-- It runs, or has ended and has not been collected. -/
  | left (process : ProcessId)
  /-- It has been collected, or the operating system has released it. -/
  | released (process : ProcessId)
  deriving DecidableEq, Repr

namespace Custody

/-- What becomes of a child while its parent does not collect it. -/
inductive Passes : Custody → Custody → Prop
  | stays (custody : Custody) : Passes custody custody
  | releases (process : ProcessId) : Passes (.left process) (.released process)

theorem Passes.trans {first second third : Custody}
    (earlier : Passes first second)
    (later : Passes second third) :
    Passes first third := by
  cases earlier with
  | stays => exact later
  | releases process =>
      cases later
      exact .releases process

/-- What a call may be answered, and what has become of the child afterwards.  Waiting for
a child fails only if a signal interrupts it or there is no such child any more. -/
def Answers : System Custody := fun before request answer after =>
  match request, answer with
  | .fork, .ok .child => after = .childless
  | .fork, .ok (.parent process) => after = .left process
  | .collect process .untilEnd, .ok (collected, _) =>
      collected = process ∧ before = .left process ∧ after = .released process
  | .collect process .untilEnd, .error errno =>
      Passes before after ∧
        (errno = Errno.EINTR ∨ errno = Errno.ECHILD ∧ after ≠ .left process)
  | _, _ => Passes before after

theorem passes_of_answers
    {before after : Custody}
    {request : Call}
    {answer : request.Answer}
    (leaves : leavesChildren request)
    (answered : Answers before request answer after) :
    Passes before after := by
  cases request with
  | fork | collect => exact leaves.elim
  | _ => exact answered

end Custody

/-! ## Events that concern children -/

/-- An event that makes a child or waits for one. -/
def concernsChildren : Event → Bool
  | ⟨.fork, _⟩ | ⟨.collect _ _, _⟩ => true
  | _ => false

/-- The event by which a child comes into being. -/
def forked (process : ProcessId) : Event :=
  ⟨.fork, .ok (.parent process)⟩

/-- A call that waits for a child is interrupted so many times, and then answered. -/
def waits (process : ProcessId) (interruptions : Nat)
    (answer : Except Errno (ProcessId × StatusWord)) : List Event :=
  List.replicate interruptions ⟨.collect process .untilEnd, .error Errno.EINTR⟩ ++
    [⟨.collect process .untilEnd, answer⟩]

/-- Reading has failed with an error number other than that of an interruption. -/
def HasFailedReading (errno : Errno) (events : List Event) : Prop :=
  errno ≠ Errno.EINTR ∧
    ∃ number count, (⟨.read number count, .error errno⟩ : Event) ∈ events

/-- These events have concerned children, and no child has been collected since the last
one had come to be as given. -/
structure Stands (children : List Event) (origin : Custody) (events : List Event)
    (custody : Custody) : Prop where
  events : events.filter concernsChildren = children
  passes : Custody.Passes origin custody

namespace Stands

variable {children history : List Event} {origin state after : Custody} {α β : Type}
variable {result : List Event → Custody → β → Prop}

theorem of_leaves
    {request : Call}
    {answer : request.Answer}
    (stands : Stands children origin history state)
    (leaves : leavesChildren request)
    (answered : Custody.Answers state request answer after) :
    Stands children origin (history ++ [⟨request, answer⟩]) after := by
  refine ⟨?_, stands.passes.trans (Custody.passes_of_answers leaves answered)⟩
  have other : concernsChildren ⟨request, answer⟩ = false := by
    cases request with
    | fork | collect => exact leaves.elim
    | _ => rfl
  rw [List.filter_append, stands.events, List.filter_cons_of_neg (Bool.eq_false_iff.mp other)]
  exact List.append_nil _

/-- A program that leaves children alone changes nothing about them. -/
theorem ensures
    {program : Program α}
    (stands : Stands children origin history state)
    (makes : program.Makes leavesChildren) :
    program.Ensures { answers := Custody.Answers }
      (fun later after _ => Stands children origin later after) history state := by
  refine makes.ensures (fun later after => Stands children origin later after) trivial ?_ ?_
    stands
  · intros
    trivial
  · intro _ _ _ _ _ stands leaves answered
    exact stands.of_leaves leaves answered

theorem ensures_bind
    {program : Program α}
    {next : α → Program β}
    (stands : Stands children origin history state)
    (makes : program.Makes leavesChildren)
    (follows : ∀ later after value, Stands children origin later after →
      (next value).Ensures { answers := Custody.Answers } result later after) :
    (program >>= next).Ensures { answers := Custody.Answers } result history state := by
  rw [Program.ensures_bind]
  exact (stands.ensures makes).mono follows

/-! ## Reading the report -/

/-- What reading leaves: the children alone, and an error only if a call has failed. -/
def Reads (children : List Event) (origin : Custody) (later : List Event) (after : Custody)
    (answer : Except SystemError Bytes) : Prop :=
  Stands children origin later after ∧
    ∀ cause, answer = .error cause → ∃ errno, cause = .os errno ∧ HasFailedReading errno later

theorem ensures_readSome
    (stands : Stands children origin history state)
    (rounds : Nat)
    (reader : Descriptor)
    (count : Nat) :
    (Program.readSome rounds reader count).Ensures { answers := Custody.Answers }
      (Reads children origin) history state := by
  rw [Program.readSome, Program.ensures_bind]
  refine Program.ensures_retrying (Stands children origin) trivial ?_ rounds stands
  intro later between stands
  refine ⟨trivial, fun answer after answered => ?_⟩
  have leaves : leavesChildren (.read reader count) := trivial
  have stands : Stands children origin (later ++ [⟨.read reader count, answer⟩]) after :=
    stands.of_leaves leaves answered
  refine ⟨fun _ => stands, fun finished => ⟨stands, ?_⟩⟩
  cases answer with
  | ok bytes => exact nofun
  | error errno =>
      rintro _ ⟨⟩
      exact ⟨errno, rfl, fun same => finished (congrArg _ same), reader, count, by simp⟩

theorem ensures_readPieces
    (stands : Stands children origin history state)
    (rounds pieces : Nat)
    (reader : Descriptor)
    (missing : Nat) :
    (Program.readPieces (Program.readSome rounds reader) pieces missing).Ensures
      { answers := Custody.Answers } (Reads children origin) history state := by
  have whole : ∀ bytes later after, Stands children origin later after →
      Reads children origin later after (.ok bytes) :=
    fun _ _ _ stands => ⟨stands, by rintro _ ⟨⟩⟩
  refine Program.ensures_readPieces (fun _ => Stands children origin)
    (fun bytes later after stands _ => whole bytes later after stands) ?_ (.inl trivial)
    stands
  intro bytes earlier between stands _
  refine (stands.ensures_readSome rounds reader _).mono ?_
  rintro later after (cause | (_ | ⟨byte, rest⟩)) reads
  · exact reads
  · exact whole bytes later after reads.1
  · exact reads.1

end Stands

/-! ## Collecting the child -/

section Collecting

variable {process : ProcessId} {history : List Event} {state : Custody}

/-- A child that is waited for is gone afterwards. -/
theorem Stands.ensures_collectEnded
    (stands : Stands [forked process] (.left process) history state)
    (rounds : Nat) :
    (collectEnded process rounds).Ensures { answers := Custody.Answers }
      (fun later after _ => ∃ interruptions answer,
        Stands (forked process :: waits process interruptions answer) (.released process)
          later after)
      history state := by
  let asked : Nat → List Event := fun interruptions =>
    List.replicate interruptions ⟨.collect process .untilEnd, .error Errno.EINTR⟩
  rw [collectEnded, Program.ensures_bind]
  refine Program.ensures_retrying
    (fun later after => ∃ interruptions,
      Stands (forked process :: asked interruptions) (.left process) later after)
    trivial ?_ rounds ⟨0, stands⟩
  rintro later between ⟨interruptions, stands⟩
  refine ⟨trivial, fun answer after answered => ?_⟩
  let event : Event := ⟨.collect process .untilEnd, answer⟩
  have events : (later ++ [event]).filter concernsChildren =
      forked process :: waits process interruptions answer := by
    rw [List.filter_append, stands.events]
    rfl
  rcases answer with errno | ⟨collected, word⟩
  · obtain ⟨passes, interrupted | ⟨unknown, notLeft⟩⟩ := answered
    · subst interrupted
      rw [waits, ← List.replicate_succ'] at events
      exact ⟨fun _ => ⟨interruptions + 1, events, stands.passes.trans passes⟩,
        fun finished => absurd rfl finished⟩
    · subst unknown
      have isReleased : after = .released process := by
        cases stands.passes.trans passes with
        | stays => exact absurd rfl notLeft
        | releases => rfl
      subst isReleased
      exact ⟨nofun, fun _ => ⟨interruptions, _, events, .stays _⟩⟩
  · obtain ⟨-, -, rfl⟩ := answered
    exact ⟨nofun, fun _ => ⟨interruptions, _, events, .stays _⟩⟩

/-- What a failed start leaves of its child. -/
inductive Leftover (process : ProcessId) (cause : LaunchError) (events : List Event)
    (custody : Custody) : Prop
  /-- The child has been waited for and is gone. -/
  | collected (interruptions : Nat) (answer : Except Errno (ProcessId × StatusWord))
      (isRead : ∀ errno, cause ≠ .report (.os errno))
      (stands : Stands (forked process :: waits process interruptions answer)
        (.released process) events custody)
  /-- The report could not be read, and the child has been left alone. -/
  | unread (errno : Errno)
      (isCause : cause = .report (.os errno))
      (failed : HasFailedReading errno events)
      (stands : Stands [forked process] (.left process) events custody)

theorem HasFailedReading.concat
    {errno : Errno}
    (failed : HasFailedReading errno history)
    (event : Event) :
    HasFailedReading errno (history ++ [event]) := by
  obtain ⟨notInterrupted, number, count, isMember⟩ := failed
  exact ⟨notInterrupted, number, count, List.mem_append_left _ isMember⟩

/-- Tidying up after a failure changes nothing about the child. -/
theorem Leftover.ensures {α : Type}
    {program : Program α}
    {cause : LaunchError}
    (leftover : Leftover process cause history state)
    (makes : program.Makes leavesChildren) :
    program.Ensures { answers := Custody.Answers }
      (fun later after _ => Leftover process cause later after) history state := by
  refine makes.ensures (Leftover process cause) trivial ?_ ?_ leftover
  · intros
    trivial
  · intro _ _ _ _ _ leftover leaves answered
    cases leftover with
    | collected interruptions final isRead stands =>
        exact .collected interruptions final isRead (stands.of_leaves leaves answered)
    | unread errno isCause failed stands =>
        exact .unread errno isCause (failed.concat _) (stands.of_leaves leaves answered)

/-- Every report but one that could not be read is followed by a wait for the child. -/
theorem Stands.ensures_awaitReport
    (stands : Stands [forked process] (.left process) history state)
    (rounds : Nat)
    (launch : Launch)
    (reader : Descriptor) :
    (launch.awaitReport rounds process reader).Ensures { answers := Custody.Answers }
      (fun later after answer =>
        match answer with
        | .ok () => Stands [forked process] (.left process) later after
        | .error cause => Leftover process cause later after)
      history state := by
  rw [Launch.awaitReport, Program.ensures_bind]
  refine (stands.ensures_readPieces rounds _ reader _).mono ?_
  rintro later after (cause | payload) ⟨stands, failed⟩
  · obtain ⟨errno, rfl, hasFailed⟩ := failed cause rfl
    have leftover : Leftover process (.report (.os errno)) later after :=
      .unread errno rfl hasFailed stands
    rw [Program.ensures_bind]
    exact leftover.ensures (makes_dropDescriptor _)
  · refine stands.ensures_bind (makes_dropDescriptor _) fun later after _ stands => ?_
    cases payload with
    | nil => exact stands
    | cons byte rest =>
        dsimp only
        rw [Program.ensures_bind]
        refine (stands.ensures_collectEnded rounds).mono ?_
        rintro later after _ ⟨interruptions, answer, stands⟩
        cases Report.decode (byte :: rest) with
        | some errno => exact .collected interruptions answer nofun stands
        | none => exact .collected interruptions answer nofun stands

end Collecting

/-! ## Starting a child -/

/-- What a start with some result has done about children. -/
inductive Settlement (before : Custody) (events : List Event) (after : Custody) :
    Except LaunchError Handle → Prop
  /-- It has failed before it could make a child. -/
  | childless {cause : LaunchError}
      (stands : Stands [] before events after) :
      Settlement before events after (.error cause)
  /-- It was refused a child. -/
  | refused {errno : Errno}
      (stands : Stands [⟨.fork, .error errno⟩] before events after) :
      Settlement before events after (.error (.fork (.os errno)))
  /-- It has failed after it had made a child. -/
  | failed {process : ProcessId} {cause : LaunchError}
      (leftover : Leftover process cause events after) :
      Settlement before events after (.error cause)
  /-- It hands out the child, which is left to be collected. -/
  | handedOut {handle : Handle}
      (stands : Stands [forked handle.process] (.left handle.process) events after) :
      Settlement before events after (.ok handle)

/-- A start that has failed leaves no child. -/
def LeavesNoChild (events : List Event) (after : Custody)
    (result : Except LaunchError Handle) : Prop :=
  ∀ cause process, result = .error cause → forked process ∈ events →
    after = .released process

section Starting

variable {before state : Custody} {history : List Event} {process : ProcessId}

/-- What fails while there is no child leaves none. -/
theorem Stands.ensures_error
    {children : List Event}
    {tidying : Program Unit}
    {cause : LaunchError}
    (stands : Stands children before history state)
    (makes : tidying.Makes leavesChildren)
    (settles : ∀ later after, Stands children before later after →
      Settlement before later after (.error cause)) :
    (tidying >>= fun _ => pure (.error cause)).Ensures { answers := Custody.Answers }
      (Settlement before) history state :=
  stands.ensures_bind makes fun later after _ stands => settles later after stands

theorem Stands.ensures_superviseStart
    (stands : Stands [forked process] (.left process) history state)
    (rounds : Nat)
    (launch : Launch)
    (reader writer : Descriptor)
    (bindings : Bindings) :
    (launch.superviseStart rounds process reader writer bindings).Ensures
      { answers := Custody.Answers } (Settlement before) history state := by
  have closesEnds : bindings.closeChildEnds.Makes leavesChildren :=
    bindings.completes_closeChildEnds.makes.mono fun _ => leavesChildren_of_preparesOrCloses
  refine stands.ensures_bind (makes_dropDescriptor _) fun later after _ stands => ?_
  rw [Program.ensures_bind]
  refine (stands.ensures_awaitReport rounds launch reader).mono ?_
  rintro later after (cause | ⟨⟩) standing
  · have drops : ∀ left : Bindings, left.drop.Makes leavesChildren := fun left =>
      left.completes_drop.makes.mono fun _ => leavesChildren_of_preparesOrCloses
    rw [Program.ensures_bind]
    refine (standing.ensures closesEnds).mono fun later after left leftover => ?_
    refine (Program.ensures_bind ..).mpr ?_
    refine (leftover.ensures (makes_log _ _ _)).mono fun later after _ leftover => ?_
    refine (Program.ensures_bind ..).mpr ?_
    exact (leftover.ensures (drops left)).mono fun later after _ leftover =>
      .failed leftover
  · refine standing.ensures_bind closesEnds fun later after left stands => ?_
    refine stands.ensures_bind (makes_log _ _ _) fun later after _ stands => ?_
    exact .handedOut stands

theorem Stands.ensures_duplicate
    (stands : Stands [] before history state)
    (rounds : Nat)
    (launch : Launch)
    (request : ExecRequest)
    (reader writer : Descriptor)
    (bindings : Bindings) :
    (launch.duplicate rounds request reader writer bindings).Ensures
      { answers := Custody.Answers } (Settlement before) history state := by
  have drops : bindings.drop.Makes leavesChildren :=
    bindings.completes_drop.makes.mono fun _ => leavesChildren_of_preparesOrCloses
  have dropsPipe : (Launch.dropReportPipe reader writer).Makes leavesChildren :=
    (Launch.completes_dropReportPipe reader writer).makes.mono
      fun _ => leavesChildren_of_preparesOrCloses
  have asksLimit : Inherited.descriptorLimit.Makes leavesChildren :=
    ⟨trivial, fun _ => trivial⟩
  refine stands.ensures_bind asksLimit fun later between limit stands => ?_
  rw [Program.ensures_perform_bind]
  refine ⟨trivial, fun answer after answered => ?_⟩
  let event : Event := ⟨.fork, answer⟩
  have events : (later ++ [event]).filter concernsChildren = [event] := by
    rw [List.filter_append, stands.events]
    rfl
  rcases answer with errno | (⟨⟩ | process)
  · have stands : Stands [⟨.fork, .error errno⟩] before _ after :=
      ⟨events, stands.passes.trans answered⟩
    refine stands.ensures_bind drops fun later after _ stands => ?_
    exact stands.ensures_error dropsPipe fun _ _ stands => .refused stands
  · -- The child's side comes to no result.
    rw [Program.ensures_bind]
    exact (Program.ensures_anything trivial (fun _ _ _ => trivial) _ _ _).mono
      fun _ _ never => never.elim
  · obtain rfl : after = .left process := answered
    have stands : Stands [forked process] (.left process) _ _ := ⟨events, .stays _⟩
    exact stands.ensures_superviseStart rounds launch reader writer bindings

theorem Stands.ensures_spawn
    (stands : Stands [] before history state)
    (rounds : Nat)
    (launch : Launch)
    (path : SearchPath)
    (environment : Environment) :
    (launch.spawn rounds path environment).Ensures { answers := Custody.Answers }
      (Settlement before) history state := by
  have makesPipe : Bindings.systemPipe.Makes leavesChildren :=
    ⟨trivial, fun _ => trivial⟩
  have resolves : (Bindings.resolve (fun _ => Bindings.systemPipe) launch).Makes
      leavesChildren :=
    (Bindings.completes_resolve launch).makes.mono
      fun _ => leavesChildren_of_preparesOrCloses
  have drops : ∀ bindings : Bindings, bindings.drop.Makes leavesChildren := fun bindings =>
    bindings.completes_drop.makes.mono fun _ => leavesChildren_of_preparesOrCloses
  have dropsPipe : ∀ reader writer, (Launch.dropReportPipe reader writer).Makes
      leavesChildren := fun reader writer =>
    (Launch.completes_dropReportPipe reader writer).makes.mono
      fun _ => leavesChildren_of_preparesOrCloses
  refine stands.ensures_bind makesPipe fun later after pipe stands => ?_
  rcases pipe with cause | ⟨reader, writer⟩
  · exact .childless stands
  refine stands.ensures_bind resolves fun later after bindings stands => ?_
  rcases bindings with cause | bindings
  · exact stands.ensures_error (dropsPipe _ _) fun _ _ stands => .childless stands
  cases ExecRequest.ofLaunch launch path environment with
  | error cause =>
      refine stands.ensures_bind (drops bindings) fun later after _ stands => ?_
      exact stands.ensures_error (dropsPipe _ _) fun _ _ stands => .childless stands
  | ok request =>
      exact stands.ensures_duplicate rounds launch request reader writer bindings

theorem Stands.mem_iff
    {children : List Event}
    {origin : Custody}
    (stands : Stands children origin history state) :
    forked process ∈ history ↔ forked process ∈ children := by
  rw [← stands.events, List.mem_filter]
  exact (and_iff_left rfl).symm

theorem forked_notMem_waits
    (interruptions : Nat)
    (answer : Except Errno (ProcessId × StatusWord))
    (other : ProcessId) :
    forked other ∉ waits process interruptions answer := by
  simp [waits, forked]

/-- A failed start leaves no child unless it could not read the report. -/
theorem Settlement.leavesNoChild
    {result : Except LaunchError Handle}
    (settlement : Settlement before history state result)
    (isRead : ∀ errno, result ≠ .error (.report (.os errno))) :
    LeavesNoChild history state result := by
  rintro cause process rfl isForked
  cases settlement with
  | childless stands =>
      cases stands.mem_iff.mp isForked
  | refused stands =>
      rw [stands.mem_iff, List.mem_singleton] at isForked
      cases isForked
  | failed leftover =>
      cases leftover with
      | unread errno isCause => exact absurd (congrArg _ isCause) (isRead errno)
      | collected interruptions answer _ stands =>
          have isChild := (List.mem_cons.mp (stands.mem_iff.mp isForked)).resolve_right
            (forked_notMem_waits interruptions answer process)
          cases isChild
          cases stands.passes
          rfl

end Starting

namespace Launch

/-- Whatever is answered, a start makes at most one child.  If it fails afterwards, it has
waited for the child, which is gone, except that it does nothing about a child whose report
could not be read. -/
theorem settlement_of_runs_spawn
    {rounds : Nat}
    {launch : Launch}
    {path : SearchPath}
    {environment : Environment}
    {before after : Custody}
    {events : List Event}
    {result : Except LaunchError Handle}
    (runs : Runs Custody.Answers (launch.spawn rounds path environment) before events
      (.done result) after) :
    Settlement before events after result ∧
      ((∀ errno, result ≠ .error (.report (.os errno))) →
        LeavesNoChild events after result) := by
  have stands : Stands [] before [] before := ⟨rfl, .stays before⟩
  have settlement : Settlement before events after result :=
    (stands.ensures_spawn rounds launch path environment).of_runs runs
  exact ⟨settlement, settlement.leavesNoChild⟩

/-- A child reports that there is no such program, and its parent is interrupted once while
it waits for the child. -/
theorem settlement_of_runs_spawn_with_interruption :
    ∃ launch : Launch, ∃ events cause,
      Runs Custody.Answers (launch.spawn 5 ⟨[]⟩ ⟨[]⟩) .childless events
          (.done (.error cause)) (.released 7) ∧
        forked 7 ∈ events ∧ cause = .execution "no-such" (.os Errno.ENOENT) ∧
          LeavesNoChild events (.released 7) (.error cause) := by
  let launch : Launch :=
    { initial with
      commandLine := ["no-such"]
      inheritsEnvironment := false
      redirections := ⟨.descriptor 0, .descriptor 1, .descriptor 2⟩ }
  let before : Custody := .childless
  let left : Custody := .left 7
  let released : Custody := .released 7
  have opens : before.Answers .pipe (.ok (3, 4)) before := .stays _
  have asksLimit : before.Answers .descriptorLimit (20 : Int) before := .stays _
  have forks : before.Answers .fork (.ok (.parent 7)) left := rfl
  have closes : left.Answers (.close 4) (.ok ()) left ∧
      left.Answers (.close 3) (.ok ()) left := ⟨.stays _, .stays _⟩
  have reads : left.Answers (.read 3 4) (.ok (Report.encode Errno.ENOENT)) left := .stays _
  have interrupted : left.Answers (.collect 7 .untilEnd) (.error Errno.EINTR) left :=
    ⟨.stays _, .inl rfl⟩
  have collects : left.Answers (.collect 7 .untilEnd) (.ok (7, ⟨32512⟩)) released :=
    ⟨rfl, rfl, rfl⟩
  have logs : ∀ record, released.Answers (.log record) () released := fun _ => .stays _
  have runs : ∃ events,
      Runs Custody.Answers (launch.spawn 5 ⟨[]⟩ ⟨[]⟩) before
        (⟨.pipe, .ok (3, 4)⟩ :: ⟨.descriptorLimit, (20 : Int)⟩ :: forked 7 :: events)
        (.done (.error (.execution "no-such" (.os Errno.ENOENT)))) released :=
    ⟨_, .call opens <| .call asksLimit <| .call forks <| .call closes.1 <| .call reads <|
      .call closes.2 <| .call interrupted <| .call collects <| .call (logs _) <| .stop _ _⟩
  obtain ⟨events, runs⟩ := runs
  exact ⟨launch, _, _, runs, by simp, rfl, (settlement_of_runs_spawn runs).2 nofun⟩

/-- Not every failed start leaves no child: one whose report could not be read leaves the
child running. -/
theorem exists_left_of_runs_spawn :
    ∃ launch : Launch, ∃ events cause,
      Runs Custody.Answers (launch.spawn 5 ⟨[]⟩ ⟨[]⟩) .childless events
          (.done (.error cause)) (.left 7) ∧
        ¬LeavesNoChild events (.left 7) (.error cause) := by
  let launch : Launch :=
    { initial with
      commandLine := ["no-such"]
      inheritsEnvironment := false
      redirections := ⟨.descriptor 0, .descriptor 1, .descriptor 2⟩ }
  let before : Custody := .childless
  let left : Custody := .left 7
  have opens : before.Answers .pipe (.ok (3, 4)) before := .stays _
  have asksLimit : before.Answers .descriptorLimit (20 : Int) before := .stays _
  have forks : before.Answers .fork (.ok (.parent 7)) left := rfl
  have closes : left.Answers (.close 4) (.ok ()) left ∧
      left.Answers (.close 3) (.ok ()) left := ⟨.stays _, .stays _⟩
  have fails : left.Answers (.read 3 4) (.error Errno.EIO) left := .stays _
  have logs : ∀ record, left.Answers (.log record) () left := fun _ => .stays _
  have runs : ∃ events,
      Runs Custody.Answers (launch.spawn 5 ⟨[]⟩ ⟨[]⟩) before
        (⟨.pipe, .ok (3, 4)⟩ :: ⟨.descriptorLimit, (20 : Int)⟩ :: forked 7 :: events)
        (.done (.error (.report (.os Errno.EIO)))) left :=
    ⟨_, .call opens <| .call asksLimit <| .call forks <| .call closes.1 <| .call fails <|
      .call closes.2 <| .call (logs _) <| .stop _ _⟩
  obtain ⟨events, runs⟩ := runs
  refine ⟨launch, _, _, runs, fun leaves => ?_⟩
  cases leaves _ 7 rfl (by simp)

end Launch
end ChildProcess
