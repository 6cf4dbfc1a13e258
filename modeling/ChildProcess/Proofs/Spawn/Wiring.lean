import ChildProcess.Proofs.Spawn.Accounting
import ChildProcess.Proofs.Spawn.SetUp

/-!
# The wiring of a child

When a launch duplicates the process, the child's ends of its streams are open, and
they are none of the descriptors that the child closes first.  From there the set-up
carries each of them to the standard descriptor of its stream.  So when the child
executes a program, its standard streams stand for what they were bound to when the
process was duplicated.
-/

namespace ChildProcess

open Descriptors

/-! ## One duplication -/

/-- Calls that do not duplicate the process. -/
def isNoFork (request : Call) : Prop :=
  request ≠ .fork

theorem isNoFork_of_preparesOrCloses (request : Call)
    (prepares : preparesOrCloses request) : isNoFork request := by
  rintro rfl
  exact prepares

/-- The calls of a parent that follows a child. -/
def supervises : Call → Prop
  | .read _ _ | .collect _ _ => True
  | request => preparesOrCloses request

theorem supervises_of_preparesOrCloses (request : Call)
    (prepares : preparesOrCloses request) : supervises request := by
  cases request <;> trivial

theorem isNoFork_of_supervises (request : Call) (isOwn : supervises request) :
    isNoFork request := by
  rintro rfl
  exact isOwn

theorem Launch.makes_superviseStart
    (rounds : Nat)
    (launch : Launch)
    (process : ProcessId)
    (reader writer : Descriptor)
    (bindings : Bindings) :
    (launch.superviseStart rounds process reader writer bindings).Makes supervises := by
  have widen := supervises_of_preparesOrCloses
  refine Program.makes_bind ((completes_dropDescriptor _).makes.mono widen) fun _ => ?_
  refine Program.makes_bind ?_ fun result => ?_
  · refine Program.makes_bind (Program.makes_readFully rounds reader (fun _ => trivial) _)
      fun answer => ?_
    refine Program.makes_bind ((completes_dropDescriptor _).makes.mono widen) fun _ => ?_
    split
    · trivial
    · trivial
    · refine Program.makes_bind
        (makes_collectEnded process rounds trivial fun _ => trivial) fun _ => ?_
      split <;> trivial
  · refine Program.makes_bind (bindings.completes_closeChildEnds.makes.mono widen) ?_
    intro left
    cases result with
    | ok => exact ⟨trivial, fun _ => trivial⟩
    | error cause =>
        refine Program.makes_bind ⟨trivial, fun _ => trivial⟩ fun _ => ?_
        exact Program.makes_bind (left.completes_drop.makes.mono widen) fun _ => trivial

namespace Child

theorem makes_exceptT_bind
    {α β : Type}
    {kind : Call → Prop}
    {program : ExceptT Errno Program α}
    {next : α → ExceptT Errno Program β}
    (first : program.run.Makes kind)
    (second : ∀ value, (next value).run.Makes kind) :
    (program >>= next).run.Makes kind := by
  rw [ExceptT.run_bind]
  refine Program.makes_bind first fun outcome => ?_
  cases outcome with
  | error errno => trivial
  | ok value => exact second value

/-- Calls that change descriptors or the working directory. -/
def setsUp : Call → Prop
  | .duplicateFrom _ _ | .duplicate _ _ | .setCloseOnExec _ _ | .changeDirectory _ => True
  | request => findsOrCloses request

theorem completes_moveAside (stream : StandardStream) (source : Option Descriptor) :
    (moveAside stream source).run.Completes setsUp := by
  cases source with
  | none => trivial
  | some source =>
      rw [moveAside]
      split
      · refine ⟨trivial, fun answer => ?_⟩
        cases answer <;> trivial
      · trivial

theorem completes_install (stream : StandardStream) (source : Option Descriptor) :
    (install stream source).run.Completes setsUp := by
  cases source with
  | none => trivial
  | some source =>
      rw [install]
      split <;> exact ⟨trivial, fun _ => trivial⟩

theorem makes_setUp (rounds : Nat) (inheritance : Inheritance) :
    (setUp rounds inheritance).run.Makes setsUp := by
  refine makes_exceptT_bind ?_ fun sources => ?_
  · refine makes_exceptT_bind (completes_moveAside _ _).makes fun _ => ?_
    refine makes_exceptT_bind (completes_moveAside _ _).makes fun _ => ?_
    exact makes_exceptT_bind (completes_moveAside _ _).makes fun _ => trivial
  refine makes_exceptT_bind ?_ fun _ => ?_
  · refine makes_exceptT_bind (completes_install _ _).makes fun _ => ?_
    exact makes_exceptT_bind (completes_install _ _).makes fun _ =>
      (completes_install _ _).makes
  refine makes_exceptT_bind ?_ fun _ => ?_
  · exact Program.makes_bind (completes_closeEach (fun _ => trivial) _).makes fun _ => trivial
  refine makes_exceptT_bind ?_ fun _ => ?_
  · exact Program.makes_bind
      (makes_close (fun _ => trivial) trivial (fun _ _ => trivial) _ _ _ _) fun _ => trivial
  refine makes_exceptT_bind ⟨trivial, fun _ => trivial⟩ fun _ => ?_
  exact ⟨trivial, fun _ => trivial⟩

end Child

/-- Calls that execute a program. -/
def isExecution : Call → Prop
  | .execute _ _ _ => True
  | _ => False

namespace ExecRequest

theorem completes_attempt (request : ExecRequest) (path : CString) :
    (request.attempt path).Completes isExecution := by
  refine ⟨trivial, fun errno => ?_⟩
  change (if errno = Errno.ENOEXEC then _ else _ : Program Errno).Completes _
  split
  · exact ⟨trivial, fun _ => trivial⟩
  · trivial

theorem completes_search
    (request : ExecRequest)
    (outcome : Errno)
    (candidates : List CString) :
    (request.search outcome candidates).Completes isExecution := by
  induction candidates generalizing outcome with
  | nil => trivial
  | cons candidate rest inductionHypothesis =>
      refine Program.completes_bind (request.completes_attempt candidate) fun errno => ?_
      split
      · exact inductionHypothesis errno
      · split
        · exact inductionHypothesis outcome
        · trivial

/-- A request comes to an outcome, and makes no calls but those that execute a program. -/
theorem completes_run (request : ExecRequest) : request.run.Completes isExecution := by
  unfold run
  split
  · trivial
  · exact request.completes_attempt _
  · exact request.completes_search _ _

end ExecRequest

theorem Report.makes_send
    {kind : Call → Prop}
    {descriptor : Descriptor}
    (writes : ∀ data, kind (.write descriptor data))
    (rounds : Nat)
    (payload : Bytes) :
    (Report.send descriptor rounds payload).Makes kind := by
  induction rounds generalizing payload with
  | zero => cases payload <;> trivial
  | succ rounds inductionHypothesis =>
      cases payload with
      | nil => trivial
      | cons byte rest =>
          refine ⟨writes _, fun answer => ?_⟩
          rcases answer with errno | (_ | count)
          · change (if errno = Errno.EINTR then _ else _ : Program Unit).Makes _
            split
            · exact inductionHypothesis _
            · trivial
          · trivial
          · exact inductionHypothesis _

theorem Report.makes_sendAndExit
    {kind : Call → Prop}
    {descriptor : Descriptor}
    (writes : ∀ data, kind (.write descriptor data))
    (closes : kind (.close descriptor))
    (exits : kind (.exit failureCode))
    (rounds : Nat)
    (errno : Errno) :
    (Report.sendAndExit rounds descriptor errno).Makes kind := by
  refine Program.makes_bind (makes_send writes rounds _) ?_
  exact fun _ => ⟨closes, fun _ => ⟨exits, fun never => nomatch never⟩⟩

theorem Child.makes_run (rounds : Nat) (inheritance : Child.Inheritance) :
    (Child.run rounds inheritance).Makes isNoFork := by
  have setsUp : ∀ request, Child.setsUp request → isNoFork request := by
    rintro request setsUp rfl
    exact setsUp
  have executes : ∀ request, isExecution request → isNoFork request := by
    rintro request executes rfl
    exact executes
  refine Program.makes_bind ⟨nofun, fun _ => trivial⟩ fun _ => ?_
  refine Program.makes_bind (completes_closeEach (fun _ => nofun) _).makes fun _ => ?_
  refine Program.makes_bind ⟨nofun, fun _ => ⟨nofun, fun _ => trivial⟩⟩ fun _ => ?_
  refine Program.makes_bind ((Child.makes_setUp rounds inheritance).mono setsUp) ?_
  intro outcome
  cases outcome with
  | error errno => exact Report.makes_sendAndExit (fun _ => nofun) nofun nofun _ _
  | ok =>
      refine Program.makes_bind (inheritance.request.completes_run.makes.mono executes) ?_
      exact fun errno => Report.makes_sendAndExit (fun _ => nofun) nofun nofun _ _

/-! ## Up to the duplication -/

namespace Launch

variable {launch : Launch} {rounds : Nat} {path : SearchPath} {environment : Environment}
variable {before after : Descriptors} {events : List Event}
variable {reader writer : Descriptor} {bindings : Bindings}

/-- What happens on either side once the process is to be duplicated. -/
def follow (rounds : Nat) (launch : Launch) (request : ExecRequest)
    (reader writer : Descriptor) (bindings : Bindings) (limit : Descriptor) :
    Except Errno ForkSide → Program (Except LaunchError Handle)
  | .error errno => do
      bindings.drop
      dropReportPipe reader writer
      pure (.error (.fork (.os errno)))
  | .ok .child => do
      let never ←
        Child.run rounds
          ⟨request, reader, writer, bindings.childEnds, bindings.parentEnds, limit⟩
      nomatch never
  | .ok (.parent process) => launch.superviseStart rounds process reader writer bindings

theorem duplicate_eq
    (rounds : Nat)
    (launch : Launch)
    (request : ExecRequest)
    (reader writer : Descriptor)
    (bindings : Bindings) :
    launch.duplicate rounds request reader writer bindings =
      Inherited.descriptorLimit >>= fun limit =>
        .call .fork (launch.follow rounds request reader writer bindings limit) := by
  refine congrArg (Inherited.descriptorLimit >>= ·) (funext fun limit => ?_)
  refine congrArg (Program.call .fork) (funext fun side => ?_)
  rcases side with errno | (_ | process) <;> rfl

theorem makes_follow
    (rounds : Nat)
    (launch : Launch)
    (request : ExecRequest)
    (reader writer : Descriptor)
    (bindings : Bindings)
    (limit : Descriptor)
    (side : Except Errno ForkSide) :
    (launch.follow rounds request reader writer bindings limit side).Makes isNoFork := by
  have widen := isNoFork_of_preparesOrCloses
  rcases side with errno | (_ | process)
  · refine Program.makes_bind (bindings.completes_drop.makes.mono widen) fun _ => ?_
    refine Program.makes_bind ((completes_dropReportPipe _ _).makes.mono widen) ?_
    exact fun _ => trivial
  · exact Program.makes_bind (Child.makes_run _ _) fun never => nomatch never
  · exact (makes_superviseStart _ _ _ _ _ _).mono isNoFork_of_supervises

/-- A launch has made the pipe for the report and bound its streams, and has asked how
many descriptors there may be. -/
def Prepares (launch : Launch) (before : Descriptors) (events : List Event)
    (reader writer : Descriptor) (bindings : Bindings) (after : Descriptors) : Prop :=
  ∃ opened made limit,
    before.Answers .pipe (.ok (reader, writer)) opened ∧
      Program.Runs Answers (Bindings.resolve (fun _ => Bindings.systemPipe) launch)
        opened made (.done (.ok bindings)) after ∧
      events = ⟨.pipe, .ok (reader, writer)⟩ :: (made ++ [⟨.descriptorLimit, limit⟩])

/-- A start that is about to duplicate the process has made the pipe for the report, bound
the streams and asked for the limit, and will follow both sides. -/
theorem parts_of_runs_spawn
    {σ : Type}
    {answers : System σ}
    {state atFork : σ}
    {side : Except Errno ForkSide → Program (Except LaunchError Handle)}
    (runs : Program.Runs answers (launch.spawn rounds path environment) state events
      (.call .fork side) atFork) :
    ∃ reader writer bindings request opened resolved made asked limit,
      answers state .pipe (.ok (reader, writer)) opened ∧
        Program.Runs answers (Bindings.resolve (fun _ => Bindings.systemPipe) launch)
          opened made (.done (.ok bindings)) resolved ∧
        answers resolved .descriptorLimit asked atFork ∧
        events = ⟨.pipe, .ok (reader, writer)⟩ :: (made ++ [⟨.descriptorLimit, asked⟩]) ∧
        ExecRequest.ofLaunch launch path environment = .ok request ∧
        side = launch.follow rounds request reader writer bindings limit := by
  have noFork : ¬preparesOrCloses .fork := id
  rw [spawn, Bindings.systemPipe_bind] at runs
  cases runs with
  | @call _ _ _ opened _ answer _ _ answered rest =>
  rcases answer with errno | ⟨reader, writer⟩
  · exact absurd rest (Program.Runs.not_of_makes trivial noFork)
  change Program.Runs _ (Bindings.resolve (fun _ => Bindings.systemPipe) launch >>= _)
    _ _ _ _ at rest
  obtain ⟨made, asked, bound, resolved, rfl, resolves, goesOn⟩ :=
    rest.of_bind_call (Bindings.completes_resolve launch).makes noFork
  rcases bound with cause | bindings
  · refine absurd goesOn (Program.Runs.not_of_makes ?_ noFork)
    exact Program.makes_bind (completes_dropReportPipe reader writer).makes fun _ => trivial
  dsimp only at goesOn
  cases accepted : ExecRequest.ofLaunch launch path environment with
  | error cause =>
      rw [accepted] at goesOn
      refine absurd goesOn (Program.Runs.not_of_makes ?_ noFork)
      refine Program.makes_bind bindings.completes_drop.makes fun _ => ?_
      exact Program.makes_bind (completes_dropReportPipe reader writer).makes fun _ => trivial
  | ok request =>
      rw [accepted] at goesOn
      dsimp only at goesOn
      rw [duplicate_eq] at goesOn
      cases goesOn with
      | @call _ _ _ next _ limit _ _ asked rest =>
      cases rest with
      | stop =>
          exact ⟨reader, writer, bindings, request, opened, resolved, made, limit, _, answered,
            resolves, asked, rfl, rfl, rfl⟩
      | call forked rest =>
          -- The process has been duplicated already, and is not duplicated again.
          exact absurd rest
            (Program.Runs.not_of_makes (makes_follow _ _ _ _ _ _ _ _) fun isNot => isNot rfl)

/-- A start that is about to duplicate the process has prepared everything for it. -/
theorem prepares_of_runs_spawn
    {side : Except Errno ForkSide → Program (Except LaunchError Handle)}
    (runs : Program.Runs Answers (launch.spawn rounds path environment) before events
      (.call .fork side) after) :
    ∃ reader writer bindings request limit,
      launch.Prepares before events reader writer bindings after ∧
        ExecRequest.ofLaunch launch path environment = .ok request ∧
        side = launch.follow rounds request reader writer bindings limit := by
  obtain ⟨reader, writer, bindings, request, opened, resolved, made, asked, limit, opens,
    resolves, asks, isEvents, accepted, isSide⟩ := parts_of_runs_spawn runs
  obtain rfl : after = resolved := asks
  exact ⟨reader, writer, bindings, request, limit, ⟨opened, made, asked, opens, resolves,
    isEvents⟩, accepted, isSide⟩

/-- What has been prepared is all that has been added, and the streams are bound as the
launch says. -/
theorem Prepares.adds
    (prepares : launch.Prepares before events reader writer bindings after) :
    before.Adds (bindings.owned ++ [writer, reader]) after ∧
      ∃ pipes : List (Descriptor × Descriptor),
        pipes.length = launch.pipedStreams.length ∧ bindings = launch.bindings pipes := by
  obtain ⟨opened, made, limit, ⟨freeReader, freeWriter, rfl⟩, resolves, -⟩ := prepares
  have adds := ((Adds.refl before).openNext freeReader).openNext freeWriter
  have ensures : (Bindings.resolve (fun _ => Bindings.systemPipe) launch).Ensures
      before.accounting (launch.Resolves before [writer, reader] []) [] _ :=
    launch.ensures_resolve adds
  obtain ⟨pipes, sameLength, isBindings, adds, -⟩ := ensures.of_runs resolves
  exact ⟨adds, pipes, sameLength, isBindings⟩

end Launch

/-! ## The child's ends -/

/-- The child's end of a pipe, if there is one. -/
def StreamEnds.pipeEnd? (ends : StreamEnds) (stream : StandardStream) :
    Option Descriptor :=
  match ends with
  | .pipe _ _ => ends.childEnd stream
  | .caller _ | .unbound => none

/-- The child's ends of all pipes. -/
def Bindings.pipeEnds (bindings : Bindings) : List Descriptor :=
  [bindings.stdin.pipeEnd? .stdin, bindings.stdout.pipeEnd? .stdout,
    bindings.stderr.pipeEnd? .stderr].filterMap id

theorem StreamEnds.owned_perm (ends : StreamEnds) (stream : StandardStream) :
    ends.owned.Perm
      ((ends.pipeEnd? stream).toList ++ (ends.parentEnd stream).toList) := by
  cases ends with
  | caller | unbound => exact .refl _
  | pipe reader writer =>
      cases stream with
      | stdin => exact .refl _
      | stdout | stderr => exact List.perm_append_comm

/-- What the bindings own are the child's and the parent's ends of the pipes. -/
theorem Bindings.owned_perm (bindings : Bindings) :
    bindings.owned.Perm
      (bindings.pipeEnds ++ bindings.parentEnds.toList.filterMap id) := by
  have toLists : ∀ first second third : Option Descriptor,
      [first, second, third].filterMap id =
        first.toList ++ (second.toList ++ third.toList) := by
    intro first second third
    cases first <;> cases second <;> cases third <;> rfl
  rw [pipeEnds, PerStream.toList, parentEnds, toLists, toLists, List.perm_iff_count]
  intro number
  have stdin := (bindings.stdin.owned_perm .stdin).count_eq number
  have stdout := (bindings.stdout.owned_perm .stdout).count_eq number
  have stderr := (bindings.stderr.owned_perm .stderr).count_eq number
  simp only [owned, List.count_append] at stdin stdout stderr ⊢
  omega

/-- Every stream has a pipe, or a descriptor of the caller, or follows another one. -/
theorem Launch.bindingOf_cases
    {launch : Launch}
    {pipes : List (Descriptor × Descriptor)}
    (sameLength : pipes.length = launch.pipedStreams.length)
    {stream : StandardStream}
    (isBound : stream = .stderr → launch.mergesOutputs = false) :
    (∃ number, launch.redirections.get stream = .descriptor number ∧
        launch.bindingOf pipes stream = .caller number) ∨
      ∃ reader writer,
        launch.bindingOf pipes stream = .pipe (some reader) (some writer) := by
  have follows : (launch.mergesOutputs && stream == .stderr) = false := by
    cases stream with
    | stdin | stdout => simp
    | stderr => simp [isBound rfl]
  cases redirection : launch.redirections.get stream with
  | descriptor number =>
      exact .inl ⟨number, rfl, by simp only [bindingOf, follows, redirection]⟩
  | pipe =>
      have isPiped : stream ∈ launch.pipedStreams := by
        simp [launch.mem_pipedStreams, redirection, Redirection.target?, follows]
      rw [← launch.isSome_keptEnd? sameLength, keptEnd?, Option.isSome_map,
        Option.isSome_iff_exists] at isPiped
      obtain ⟨⟨reader, writer⟩, isPipe⟩ := isPiped
      exact .inr ⟨reader, writer, by simp only [bindingOf, follows, redirection, isPipe]⟩

/-- A descriptor that a child gets is a caller's, or its end of a pipe. -/
def Launch.Provides (launch : Launch) (bindings : Bindings) (source : Descriptor) :
    Prop :=
  source ∈ bindings.pipeEnds ∨
    ∃ stream, launch.redirections.get stream = .descriptor source ∧
      (stream = .stderr → launch.mergesOutputs = false)

theorem Launch.mem_pipeEnds_bindings
    {launch : Launch}
    {pipes : List (Descriptor × Descriptor)}
    {stream : StandardStream}
    {number : Descriptor}
    (isEnd : (launch.bindingOf pipes stream).pipeEnd? stream = some number) :
    number ∈ (launch.bindings pipes).pipeEnds := by
  rw [Bindings.pipeEnds, List.mem_filterMap]
  refine ⟨some number, ?_, rfl⟩
  cases stream <;> simp [Launch.bindings, ← isEnd]

/-- A standard error that follows standard output gets the same descriptor. -/
theorem Launch.childEnds_stderr
    {launch : Launch}
    (pipes : List (Descriptor × Descriptor))
    (merges : launch.mergesOutputs = true) :
    (launch.bindings pipes).childEnds.get .stderr =
      (launch.bindings pipes).childEnds.get .stdout := by
  have isUnbound : (launch.bindings pipes).stderr = .unbound := by
    simp [Launch.bindings, Launch.bindingOf, merges]
  simp only [PerStream.get, Bindings.childEnds, isUnbound]

/-- The child gets a descriptor for every stream. -/
theorem Launch.provides_childEnds
    {launch : Launch}
    {pipes : List (Descriptor × Descriptor)}
    (sameLength : pipes.length = launch.pipedStreams.length)
    (stream : StandardStream) :
    ∃ source, (launch.bindings pipes).childEnds.get stream = some source ∧
      launch.Provides (launch.bindings pipes) source := by
  have provides : ∀ stream, (stream = .stderr → launch.mergesOutputs = false) →
      launch.bindingOf pipes stream ≠ .unbound ∧
        ∃ source, (launch.bindingOf pipes stream).childEnd stream = some source ∧
          launch.Provides (launch.bindings pipes) source := by
    intro stream isBound
    rcases launch.bindingOf_cases sameLength isBound with
      ⟨number, isCaller, isEnd⟩ | ⟨reader, writer, isPipe⟩
    · exact ⟨by simp [isEnd], number, by rw [isEnd]; rfl, .inr ⟨stream, isCaller, isBound⟩⟩
    · have isEnd : ∃ source, (launch.bindingOf pipes stream).pipeEnd? stream =
          some source := by
        rw [isPipe]
        cases stream <;> exact ⟨_, rfl⟩
      obtain ⟨source, isEnd⟩ := isEnd
      refine ⟨by simp [isPipe], source, ?_, .inl (mem_pipeEnds_bindings isEnd)⟩
      rw [isPipe] at isEnd ⊢
      exact isEnd
  cases stream with
  | stdin => exact (provides .stdin nofun).2
  | stdout => exact (provides .stdout nofun).2
  | stderr =>
      cases merges : launch.mergesOutputs with
      | true =>
          rw [childEnds_stderr pipes merges]
          exact (provides .stdout nofun).2
      | false =>
          obtain ⟨notUnbound, source, isEnd, isProvided⟩ := provides .stderr fun _ => merges
          refine ⟨source, ?_, isProvided⟩
          rw [← isEnd]
          simp only [PerStream.get, Bindings.childEnds, Launch.bindings]

/-! ## What the child inherits -/

namespace Child

/-- The descriptors that a child closes first. -/
def Inheritance.surplus (inheritance : Inheritance) : List Descriptor :=
  inheritance.reportReader :: inheritance.parentEnds.toList.filterMap id

/-- What a child gets is open when the process is duplicated, and is kept apart from
what the child closes first. -/
structure Inheritance.IsApart (inheritance : Inheritance) (report : FileId)
    (sources : StandardStream → Descriptor) (files : StandardStream → FileId)
    (state : Descriptors) : Prop where
  areEnds : ∀ stream, inheritance.childEnds.get stream = some (sources stream)
  stand : ∀ stream, state.file? (sources stream) = some (files stream)
  spared : ∀ stream, sources stream ≠ inheritance.reportWriter
  kept : ∀ stream, sources stream ∉ inheritance.surplus
  notSurplus : inheritance.reportWriter ∉ inheritance.surplus
  only : state.OnlyAt inheritance.reportWriter report

/-- Besides, the descriptor for the report is none that a stream is put onto. -/
structure Inheritance.IsSound (inheritance : Inheritance) (report : FileId)
    (sources : StandardStream → Descriptor) (files : StandardStream → FileId)
    (state : Descriptors) : Prop
    extends inheritance.IsApart report sources files state where
  above : 2 < inheritance.reportWriter

end Child

/-- What has been prepared is kept apart for the child. -/
theorem Launch.Prepares.isApart
    {launch : Launch}
    {before after : Descriptors}
    {events : List Event}
    {reader writer : Descriptor}
    {bindings : Bindings}
    (prepares : launch.Prepares before events reader writer bindings after)
    (callersOpen : ∀ stream number, launch.redirections.get stream = .descriptor number →
      (stream = .stderr → launch.mergesOutputs = false) → before.IsOpen number)
    (request : ExecRequest)
    (limit : Descriptor) :
    ∃ report sources files,
      Child.Inheritance.IsApart
        ⟨request, reader, writer, bindings.childEnds, bindings.parentEnds, limit⟩
        report sources files after := by
  obtain ⟨adds, pipes, sameLength, rfl⟩ := prepares.adds
  generalize isParentEnds :
    (launch.bindings pipes).parentEnds.toList.filterMap id = parentEnds
  have perm := (launch.bindings pipes).owned_perm
  rw [isParentEnds] at perm
  have adds := adds.perm (perm.append_right [writer, reader])
  obtain ⟨report, -, only⟩ := adds.onlyAt (List.mem_append_right _ (List.mem_cons_self ..))
  obtain ⟨distinctEnds, distinctReport, differ⟩ := List.nodup_append.mp adds.distinct
  have differEnds := (List.nodup_append.mp distinctEnds).2.2
  have apart : ∀ source, launch.Provides (launch.bindings pipes) source →
      after.IsOpen source ∧ source ≠ writer ∧ source ≠ reader ∧ source ∉ parentEnds := by
    rintro source (isPipe | ⟨stream, isCaller, isBound⟩)
    · have isOwned := List.mem_append_left parentEnds isPipe
      refine ⟨adds.isOpen (List.mem_append_left _ isOwned), ?_, ?_, ?_⟩
      · exact differ source isOwned writer (by simp)
      · exact differ source isOwned reader (by simp)
      · exact fun isParentEnd => differEnds source isPipe source isParentEnd rfl
    · have isOpen := callersOpen stream source isCaller isBound
      have notOwned := adds.not_mem_of_isOpen isOpen
      have keeps := adds.keeps source notOwned
      simp only [List.mem_append, List.mem_cons, List.not_mem_nil, or_false, not_or]
        at notOwned
      refine ⟨fun isFree => isOpen (keeps ▸ isFree), ?_⟩
      exact ⟨notOwned.2.1, notOwned.2.2, notOwned.1.2⟩
  choose sources areEnds isProvided using launch.provides_childEnds sameLength
  have areOpen := fun stream =>
    (after.isOpen_iff_file? _).mp (apart _ (isProvided stream)).1
  choose files stand using areOpen
  refine ⟨report, sources, files, areEnds, stand, fun stream => ?_, fun stream => ?_,
    ?_, only⟩
  · exact (apart _ (isProvided stream)).2.1
  · rw [Child.Inheritance.surplus, isParentEnds, List.mem_cons, not_or]
    exact (apart _ (isProvided stream)).2.2
  · rw [Child.Inheritance.surplus, isParentEnds, List.mem_cons, not_or]
    have apartReport := (List.nodup_cons.mp distinctReport).1
    refine ⟨fun same => apartReport (List.mem_singleton.mpr same), fun isParentEnd => ?_⟩
    exact differ writer (List.mem_append_right _ isParentEnd) writer (by simp) rfl

/-- What has been prepared is sound for the child. -/
theorem Launch.Prepares.isSound
    {launch : Launch}
    {before after : Descriptors}
    {events : List Event}
    {reader writer : Descriptor}
    {bindings : Bindings}
    (prepares : launch.Prepares before events reader writer bindings after)
    (callersOpen : ∀ stream number, launch.redirections.get stream = .descriptor number →
      (stream = .stderr → launch.mergesOutputs = false) → before.IsOpen number)
    (above : 2 < writer)
    (request : ExecRequest)
    (limit : Descriptor) :
    ∃ report sources files,
      Child.Inheritance.IsSound
        ⟨request, reader, writer, bindings.childEnds, bindings.parentEnds, limit⟩
        report sources files after := by
  obtain ⟨report, sources, files, apart⟩ := prepares.isApart callersOpen request limit
  exact ⟨report, sources, files, apart, above⟩

/-! ## The whole child -/

namespace Child

/-- Everything up to the execution of programs. -/
def preparation (rounds : Nat) (inheritance : Inheritance) :
    ExceptT Errno Program Unit := do
  Inherited.closeEach inheritance.surplus
  resetSignals
  setUp rounds inheritance

theorem run_eq (rounds : Nat) (inheritance : Inheritance) :
    run rounds inheritance =
      (preparation rounds inheritance).run >>= fun outcome =>
        match outcome with
        | .error errno => Report.sendAndExit rounds inheritance.reportWriter errno
        | .ok () =>
            inheritance.request.run >>= fun errno =>
              Report.sendAndExit rounds inheritance.reportWriter errno := by
  have lifted : ∀ program : Program Unit,
      (liftM program : ExceptT Errno Program Unit).run =
        program >>= fun value => .done (.ok value) := fun _ => rfl
  simp only [run, preparation, Inheritance.surplus, ExceptT.run_bind, lifted, bind_assoc,
    Program.done_bind]
  rfl

/-- The child executes programs: everything is in its place. -/
structure IsReady (writer : Descriptor) (report : FileId)
    (files : StandardStream → FileId) (events : List Event) (state : Descriptors) :
    Prop where
  only : state.OnlyAt writer report
  proceeds : Proceeds writer .executing events
  isSetUp : IsSetUp writer report files events state

/-- Some events end with an error number that says why the child could not become
another program: that of the first step that has failed, or what the request has
answered after a set-up without failure. -/
def Fails (request : ExecRequest) (writer : Descriptor) (events : List Event)
    (errno : Errno) : Prop :=
  Breaks writer events errno ∨
    ∃ setUp executions, events = setUp ++ executions ∧
      Proceeds writer .sealing setUp ∧
      Program.Runs (fun (_ : Unit) _ _ _ => True) request.run () executions
        (.done errno) ()

section Running

variable {inheritance : Inheritance} {report : FileId}
variable {sources : StandardStream → Descriptor} {files : StandardStream → FileId}
variable {state : Descriptors}

/-- The sources stand for their files. -/
def StillStand (sources : StandardStream → Descriptor) (files : StandardStream → FileId)
    (state : Descriptors) : Prop :=
  ∀ stream, state.file? (sources stream) = some (files stream)

theorem arranges_closeSurplus
    (apart : inheritance.IsApart report sources files state) :
    Arranges inheritance.reportWriter report .moving
      (fun _ after _ => StillStand sources files after)
      (liftM (Inherited.closeEach inheritance.surplus)) [] state := by
  have closes : (Inherited.closeEach inheritance.surplus).Makes
      fun request => ∃ number, request = .close number :=
    (completes_closeEach (fun number => ⟨number, rfl⟩) _).makes
  have noFailure : ∀ event : Event, (∃ number, event.1 = .close number) →
      failure? event = none := by
    rintro ⟨_, answer⟩ ⟨number, rfl⟩
    rfl
  have noStage : ∀ request, (∃ number, request = .close number) →
      Stage.ofCall? inheritance.reportWriter request = none ∨
        Stage.ofCall? inheritance.reportWriter request = some .moving := by
    rintro _ ⟨number, rfl⟩
    exact .inl rfl
  refine .of_ensures ((ensures_proceeds_of_makes closes noFailure noStage .nil le_rfl
    (ensures_closeEach apart.notSurplus apart.only [])).mono ?_)
  rintro later after _ ⟨proceeds, only, closed, -⟩
  refine ⟨only, proceeds, fun stream => ?_⟩
  rw [Descriptors.file?, closed.keeps _ (apart.kept stream)]
  exact apart.stand stream

theorem arranges_resetSignals
    {writer : Descriptor}
    {history : List Event}
    (only : state.OnlyAt writer report)
    (proceeds : Proceeds writer .moving history)
    (stand : StillStand sources files state) :
    Arranges writer report .moving (fun _ after _ => StillStand sources files after)
      (liftM resetSignals) history state := by
  refine .of_ensures ⟨⟨only, trivial⟩, fun _ ignoring ignores => ?_⟩
  obtain rfl : ignoring = state := ignores
  refine ⟨⟨only, trivial⟩, fun _ unblocked unblocks => ?_⟩
  obtain rfl : unblocked = ignoring := unblocks
  exact ⟨only, (proceeds.skip rfl rfl).skip rfl rfl, stand⟩

theorem arranges_preparation
    (rounds : Nat)
    (sound : inheritance.IsSound report sources files state) :
    Arranges inheritance.reportWriter report .sealing
      (fun later after _ => IsSetUp inheritance.reportWriter report files later after)
      (preparation rounds inheritance) [] state := by
  refine (arranges_closeSurplus sound.toIsApart).bind fun later after _ only proceeds stand => ?_
  refine (arranges_resetSignals only proceeds stand).bind ?_
  intro later after _ only proceeds stand
  exact arranges_setUp rounds inheritance sound.areEnds stand sound.spared sound.above
    only proceeds

/-- An execution that fails leaves everything in its place. -/
theorem IsReady.execute
    {writer : Descriptor}
    {history : List Event}
    {path : Bytes}
    {arguments environment : List Bytes}
    (ready : IsReady writer report files history state)
    (answer : Errno) :
    IsReady writer report files
      (history ++ [⟨.execute path arguments environment, answer⟩]) state := by
  refine ⟨ready.only, ready.proceeds.step le_rfl rfl rfl, ready.isSetUp.installed,
    ready.isSetUp.isSealed, fun scanEnded => ?_⟩
  rw [scanEnded_append] at scanEnded
  exact ready.isSetUp.isClear (scanEnded.resolve_right (not_scanEnded_of_ne nofun))

/-- A child is ready whenever it executes a program, and reports only what has made it
fail. -/
theorem ensures_run
    {setting : Setting Descriptors}
    {result : List Event → Descriptors → Empty → Prop}
    (rounds : Nat)
    (sound : inheritance.IsSound report sources files state)
    (answers : ∀ state request answer next,
      setting.answers state request answer next → state.Answers request answer next)
    (exhaustion : setting.exhaustion)
    (arranges : ∀ history state request,
      state.OnlyAt inheritance.reportWriter report →
        spares inheritance.reportWriter request → setting.allows history state request)
    (executes : ∀ history state path arguments environment,
      IsReady inheritance.reportWriter report files history state →
        setting.allows history state (.execute path arguments environment))
    (reports : ∀ history state errno, state.OnlyAt inheritance.reportWriter report →
      Fails inheritance.request inheritance.reportWriter history errno →
        (Report.sendAndExit rounds inheritance.reportWriter errno).Ensures setting result
          history state) :
    (run rounds inheritance).Ensures setting result [] state := by
  rw [run_eq, Program.ensures_bind]
  refine ((arranges_preparation rounds sound).weaken answers
    (fun history state request allowed => arranges history state request allowed.1
      allowed.2) fun _ => exhaustion).mono ?_
  rintro later after (errno | _) ⟨only, outcome⟩
  · exact reports later after errno only (.inl outcome)
  obtain ⟨proceeds, isSetUp⟩ := outcome
  have ready : IsReady inheritance.reportWriter report files later after :=
    ⟨only, proceeds.mono (by decide), isSetUp⟩
  rw [Program.ensures_bind]
  have executed := inheritance.request.completes_run.makes.ensures
    (IsReady inheritance.reportWriter report files) exhaustion
    (fun history state request ready isExecution => ?_)
    (fun history state request answer next ready isExecution answered => ?_) ready
  · refine executed.mono_runs fun events after errno runs ready => ?_
    exact reports _ after errno ready.only (.inr ⟨later, events, rfl, proceeds, runs.forget⟩)
  · cases request with
    | execute path arguments environment => exact executes _ _ _ _ _ ready
    | _ => exact isExecution.elim
  · cases request with
    | execute path arguments environment =>
        obtain rfl : next = state := answers _ _ _ _ answered
        exact ready.execute answer
    | _ => exact isExecution.elim

end Running

/-! ## At the execution -/

/-- How the descriptors of a child are when it executes a program. -/
structure IsWired (childEnds : PerStream (Option Descriptor)) (writer : Descriptor)
    (atFork : Descriptors) (events : List Event) (atExecution : Descriptors) : Prop where
  /-- Every standard descriptor stands for what the child's end of its stream stood for
  when the process was duplicated, and stays open. -/
  streams : ∀ stream, ∃ source file, childEnds.get stream = some source ∧
    atFork.file? source = some file ∧
    atExecution.slot? stream.slot = some ⟨file, false⟩
  /-- The descriptor for the report is open, and closes on execution. -/
  report : ∃ file, atFork.file? writer = some file ∧
    atExecution.slot? writer = some ⟨file, true⟩
  /-- When the directory has been read to its end, nothing else is open. -/
  others : ScanEnded events → ∀ number, atExecution.IsOpen number ↔
    number = writer ∨ 0 ≤ number ∧ number ≤ 2
  /-- Then the new program has its standard streams, and nothing else. -/
  afterwards : ScanEnded events → ∀ number,
    (atExecution.afterExecution number).isSome ↔ 0 ≤ number ∧ number ≤ 2
  /-- No step of the set-up has failed. -/
  unfailing : ∀ event ∈ events, failure? event = none

theorem exists_slot {number : Descriptor} (low : 0 ≤ number) (high : number ≤ 2) :
    ∃ stream : StandardStream, number = stream.slot := by
  have cases : number = 0 ∨ number = 1 ∨ number = 2 := by
    unfold Descriptor at *
    omega
  rcases cases with rfl | rfl | rfl
  · exact ⟨.stdin, rfl⟩
  · exact ⟨.stdout, rfl⟩
  · exact ⟨.stderr, rfl⟩

/-- When nothing is left, a number is free, or is the one for the report, or is a
standard one. -/
theorem IsReady.free_or_known
    {writer : Descriptor}
    {report : FileId}
    {files : StandardStream → FileId}
    {atExecution : Descriptors}
    {events : List Event}
    (ready : IsReady writer report files events atExecution)
    (scanEnded : ScanEnded events)
    (number : Descriptor) :
    atExecution.slot? number = none ∧ number ≠ writer ∧ ¬(0 ≤ number ∧ number ≤ 2) ∨
      number = writer ∨ ∃ stream : StandardStream, number = stream.slot := by
  by_cases isWriter : number = writer
  · exact .inr (.inl isWriter)
  by_cases standard : 0 ≤ number ∧ number ≤ 2
  · exact .inr (.inr (exists_slot standard.1 standard.2))
  refine .inl ⟨?_, isWriter, standard⟩
  by_contra isOpen
  have bounds := atExecution.inRange number isOpen
  have above : 2 < number := Int.not_le.mp fun low => standard ⟨bounds.1, low⟩
  exact isOpen (ready.isSetUp.isClear scanEnded number above isWriter)

theorem IsReady.isWired
    {inheritance : Inheritance}
    {report : FileId}
    {sources : StandardStream → Descriptor}
    {files : StandardStream → FileId}
    {atFork atExecution : Descriptors}
    {events : List Event}
    (sound : inheritance.IsSound report sources files atFork)
    (ready : IsReady inheritance.reportWriter report files events atExecution) :
    IsWired inheritance.childEnds inheritance.reportWriter atFork events atExecution := by
  have isInstalled := ready.isSetUp.installed
  have isSealed := ready.isSetUp.isSealed
  refine ⟨fun stream => ?_, ⟨report, (sound.only _).mpr rfl, isSealed⟩, ?_, ?_,
    ready.proceeds.unfailing⟩
  · exact ⟨sources stream, files stream, sound.areEnds stream, sound.stand stream,
      isInstalled stream⟩
  · intro scanEnded number
    rcases ready.free_or_known scanEnded number with
      ⟨isFree, notWriter, notStandard⟩ | rfl | ⟨stream, rfl⟩
    · exact iff_of_false (fun isOpen => isOpen isFree) (by tauto)
    · exact iff_of_true (by simp [Descriptors.IsOpen, isSealed]) (.inl rfl)
    · refine iff_of_true (by simp [Descriptors.IsOpen, isInstalled stream]) (.inr ?_)
      cases stream <;> decide
  · intro scanEnded number
    rw [Descriptors.afterExecution]
    rcases ready.free_or_known scanEnded number with
      ⟨isFree, notWriter, notStandard⟩ | rfl | ⟨stream, rfl⟩
    · exact iff_of_false (by simp [isFree]) notStandard
    · refine iff_of_false (by simp [isSealed]) fun low => ?_
      exact absurd sound.above (Int.not_lt.mpr low.2)
    · refine iff_of_true (by simp [isInstalled stream]) ?_
      cases stream <;> decide

/-- The circumstances of a child that executes programs only when it is wired. -/
abbrev wiring (childEnds : PerStream (Option Descriptor)) (writer : Descriptor)
    (atFork : Descriptors) : Setting Descriptors where
  answers := Answers
  allows history state request :=
    isExecution request → IsWired childEnds writer atFork history state

theorem ensures_wired
    {inheritance : Inheritance}
    {report : FileId}
    {sources : StandardStream → Descriptor}
    {files : StandardStream → FileId}
    {atFork : Descriptors}
    {result : List Event → Descriptors → Empty → Prop}
    (rounds : Nat)
    (sound : inheritance.IsSound report sources files atFork) :
    (run rounds inheritance).Ensures
      (wiring inheritance.childEnds inheritance.reportWriter atFork) result [] atFork := by
  refine ensures_run rounds sound (fun _ _ _ _ => id) trivial ?_ ?_ ?_
  · intro history state request only spared isExecution
    cases request with
    | execute => exact spared.elim
    | _ => exact isExecution.elim
  · intro history state path arguments environment ready _
    exact ready.isWired sound
  · intro history state errno only fails
    have makes : (Report.sendAndExit rounds inheritance.reportWriter errno).Makes
        fun request => ¬isExecution request :=
      Report.makes_sendAndExit (fun _ => id) id id rounds errno
    refine (makes.ensures_of_allowed trivial ?_ history state).mono
      fun _ _ never => nomatch never
    exact fun _ _ _ notExecution isExecution => absurd isExecution notExecution

end Child

namespace Launch

/-- How a child is wired.  Whenever a child executes a program, its standard descriptors
stand for what its ends of the streams stood for when the process was duplicated, however
these lay, and it has got there without any failure. -/
theorem isWired_of_runs_spawn
    {rounds : Nat}
    {launch : Launch}
    {path : SearchPath}
    {environment : Environment}
    {before atFork atExecution : Descriptors}
    {prior events : List Event}
    {side : Except Errno ForkSide → Program (Except LaunchError Handle)}
    {program : Bytes}
    {arguments entries : List Bytes}
    {resume : Errno → Program (Except LaunchError Handle)}
    (forks : Program.Runs Answers (launch.spawn rounds path environment) before prior
      (.call .fork side) atFork)
    (callersOpen : ∀ stream number, launch.redirections.get stream = .descriptor number →
      (stream = .stderr → launch.mergesOutputs = false) → before.IsOpen number)
    (above : ∀ reader writer rest, prior = ⟨.pipe, .ok (reader, writer)⟩ :: rest →
      2 < writer)
    (executes : Program.Runs Answers (side (.ok .child)) atFork events
      (.call (.execute program arguments entries) resume) atExecution) :
    ∃ reader writer bindings,
      launch.Prepares before prior reader writer bindings atFork ∧
        Child.IsWired bindings.childEnds writer atFork events atExecution ∧
        (launch.mergesOutputs = true →
          atExecution.file? 1 = atExecution.file? 2) := by
  obtain ⟨reader, writer, bindings, request, limit, prepares, -, rfl⟩ :=
    prepares_of_runs_spawn forks
  have aboveStandard : 2 < writer := by
    obtain ⟨_, _, _, -, -, isPrior⟩ := prepares
    exact above reader writer _ isPrior
  obtain ⟨report, sources, files, sound⟩ :=
    prepares.isSound callersOpen aboveStandard request limit
  have wired : Child.IsWired bindings.childEnds writer atFork events atExecution := by
    have ensures : (launch.follow rounds request reader writer bindings limit
        (.ok .child)).Ensures (Child.wiring bindings.childEnds writer atFork)
          (fun _ _ _ => True) [] atFork :=
      (Program.ensures_bind _ _ _ _ _).mpr (Child.ensures_wired rounds sound)
    exact (ensures.of_runs executes).1 trivial
  refine ⟨reader, writer, bindings, prepares, wired, fun merges => ?_⟩
  obtain ⟨-, pipes, -, rfl⟩ := prepares.adds
  obtain ⟨output, outputFile, isOutput, outputStands, outputSlot⟩ := wired.streams .stdout
  obtain ⟨error, errorFile, isError, errorStands, errorSlot⟩ := wired.streams .stderr
  rw [childEnds_stderr pipes merges, isOutput] at isError
  obtain rfl : output = error := Option.some.inj isError
  obtain rfl : outputFile = errorFile :=
    Option.some.inj (outputStands.symm.trans errorStands)
  have sameSlot : atExecution.slot? 1 = atExecution.slot? 2 := outputSlot.trans errorSlot.symm
  rw [Descriptors.file?, Descriptors.file?, sameSlot]

/-- A child whose input and output are crossed, and whose errors follow its output. -/
theorem isWired_of_runs_spawn_with_crossed_streams :
    let launch : Launch :=
      { Launch.initial with
        commandLine := ["/bin/cat"]
        inheritsEnvironment := false
        redirections := ⟨.descriptor 1, .descriptor 0, .pipe⟩
        mergesOutputs := true }
    ∃ prior side atFork events program arguments entries resume atExecution,
      Program.Runs Answers (launch.spawn 5 ⟨[]⟩ ⟨[]⟩) standard prior (.call .fork side)
          atFork ∧
        (∀ stream number, launch.redirections.get stream = .descriptor number →
          (stream = .stderr → launch.mergesOutputs = false) → standard.IsOpen number) ∧
        (∀ reader writer rest, prior = ⟨.pipe, .ok (reader, writer)⟩ :: rest →
          2 < writer) ∧
        Program.Runs Answers (side (.ok .child)) atFork events
          (.call (.execute program arguments entries) resume) atExecution ∧
        ∃ reader writer bindings,
          launch.Prepares standard prior reader writer bindings atFork ∧
            Child.IsWired bindings.childEnds writer atFork events atExecution ∧
            (launch.mergesOutputs = true →
              atExecution.file? 1 = atExecution.file? 2) := by
  intro launch
  let atFork := standardAndPipe
  have asksLimit : atFork.Answers .descriptorLimit (5 : Int) atFork := rfl
  have forks : atFork.Answers .fork (.ok .child) atFork := rfl
  let started := atFork.release 3
  have closesReader : atFork.Answers (.close 3) (.ok ()) started := atFork.becomes_release 3
  have ignores : started.Answers (.setDisposition 13 .standard) () started := rfl
  have unblocks : started.Answers (.setSignalMask []) () started := rfl
  let moved := started.occupy 3 ⟨1, false⟩ (by decide) (by decide)
  have movesInput : started.Answers (.duplicateFrom 1 3) (.ok 3) moved :=
    ⟨⟨1, false⟩, rfl, by decide, ⟨rfl, by decide, by decide⟩, started.becomes_occupy ..⟩
  let movedTwice := moved.occupy 5 ⟨0, false⟩ (by decide) (by decide)
  have movesOutput : moved.Answers (.duplicateFrom 0 3) (.ok 5) movedTwice :=
    ⟨⟨0, false⟩, rfl, by decide, ⟨rfl, by decide, by decide⟩, moved.becomes_occupy ..⟩
  let movedAll := movedTwice.occupy 6 ⟨0, false⟩ (by decide) (by decide)
  have movesError : movedTwice.Answers (.duplicateFrom 0 3) (.ok 6) movedAll :=
    ⟨⟨0, false⟩, rfl, by decide, ⟨rfl, by decide, by decide⟩, movedTwice.becomes_occupy ..⟩
  let installed := movedAll.occupy 0 ⟨1, false⟩ (by decide) (by decide)
  have installsInput : movedAll.Answers (.duplicate 3 0) (.ok ()) installed :=
    ⟨⟨1, false⟩, rfl, by decide, movedAll.becomes_occupy ..⟩
  let installedTwice := installed.occupy 1 ⟨0, false⟩ (by decide) (by decide)
  have installsOutput : installed.Answers (.duplicate 5 1) (.ok ()) installedTwice :=
    ⟨⟨0, false⟩, rfl, by decide, installed.becomes_occupy ..⟩
  let installedAll := installedTwice.occupy 2 ⟨0, false⟩ (by decide) (by decide)
  have installsError : installedTwice.Answers (.duplicate 6 2) (.ok ()) installedAll :=
    ⟨⟨0, false⟩, rfl, by decide, installedTwice.becomes_occupy ..⟩
  let cleared := ((installedAll.release 3).release 5).release 6
  have clears : installedAll.Answers (.close 3) (.ok ()) (installedAll.release 3) ∧
      (installedAll.release 3).Answers (.close 5) (.ok ())
        ((installedAll.release 3).release 5) ∧
      ((installedAll.release 3).release 5).Answers (.close 6) (.ok ()) cleared :=
    ⟨becomes_release .., becomes_release .., becomes_release ..⟩
  have noListing : cleared.Answers (.openFile Inherited.descriptorDirectory .listing)
    (.error Errno.ENOENT) cleared := rfl
  let closed := cleared.release 3
  have closes : cleared.Answers (.close 3) (.error Errno.EBADF) closed :=
    cleared.becomes_release 3
  have enters : closed.Answers (.changeDirectory [46]) (.ok ()) closed := rfl
  let atExecution := closed.occupy 4 ⟨4, true⟩ (by decide) (by decide)
  have seals : closed.Answers (.setCloseOnExec 4 true) (.ok ()) atExecution :=
    ⟨⟨4, true⟩, rfl, closed.becomes_occupy ..⟩
  have runs : ∃ side events program arguments entries resume,
      Program.Runs Answers (launch.spawn 5 ⟨[]⟩ ⟨[]⟩) standard
          [⟨.pipe, .ok (3, 4)⟩, ⟨.descriptorLimit, (5 : Int)⟩] (.call .fork side) atFork ∧
        Program.Runs Answers (side (.ok .child)) atFork events
          (.call (.execute program arguments entries) resume) atExecution :=
    ⟨_, _, _, _, _, _, .call standard_answers_pipe <| .call asksLimit <| .stop _ _,
      .call closesReader <| .call ignores <| .call unblocks <| .call movesInput <|
        .call movesOutput <| .call movesError <| .call installsInput <|
        .call installsOutput <| .call installsError <| .call clears.1 <|
        .call clears.2.1 <| .call clears.2.2 <| .call noListing <| .call closes <|
        .call enters <| .call seals <| .stop _ _⟩
  obtain ⟨side, events, program, arguments, entries, resume, forks, executes⟩ := runs
  have callersOpen : ∀ stream number,
      launch.redirections.get stream = .descriptor number →
        (stream = .stderr → launch.mergesOutputs = false) → standard.IsOpen number := by
    intro stream number isCaller isBound
    cases stream with
    | stdin | stdout =>
        cases isCaller
        exact nofun
    | stderr => cases isBound rfl
  have above : ∀ reader writer rest,
      [⟨.pipe, .ok (3, 4)⟩, ⟨.descriptorLimit, (5 : Int)⟩] =
        (⟨.pipe, .ok (reader, writer)⟩ :: rest : List Event) → 2 < writer := by
    intro reader writer rest same
    cases same
    decide
  exact ⟨_, side, atFork, events, program, arguments, entries, resume, atExecution, forks,
    callersOpen, above, executes, isWired_of_runs_spawn forks callersOpen above executes⟩

end Launch

end ChildProcess
