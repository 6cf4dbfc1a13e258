import ChildProcess.Proofs.Spawn.AtExecution

/-!
# The descriptor for the report

The sources of the streams are moved before anything is put onto a standard descriptor,
but the descriptor for the report stays where the pipe has been opened.  If it lies above
the standard descriptors, nothing is put onto it, and it stands for the write end until
the child closes it at its end.  If it is a standard descriptor itself, the stream of that
number replaces the write end before any program is executed.  Then nothing that the
child writes comes to the parent, and the new program loses that stream, as the number is
made to close on execution.  A pipe lies so low only if two of the three standard
descriptors were free.
-/

namespace ChildProcess

open Descriptors

namespace Child

section Running

variable {inheritance : Inheritance} {report : FileId} {writer : Descriptor}
variable {sources : StandardStream → Descriptor} {files : StandardStream → FileId}
variable {state : Descriptors} {history : List Event} {reached stage : Stage}
variable {α β : Type}

/-! ## Above the standard descriptors -/

/-- The circumstances of a child that does not lose the descriptor for the report before
it ends. -/
abbrev holding (writer : Descriptor) (report : FileId) : Setting Descriptors where
  answers := Answers
  allows _ state request := (∀ code, request ≠ .exit code) → state.OnlyAt writer report

theorem holds_sendAndExit
    {result : List Event → Descriptors → Empty → Prop}
    (rounds : Nat)
    (errno : Errno)
    (only : state.OnlyAt writer report) :
    (Report.sendAndExit rounds writer errno).Ensures (holding writer report) result
      history state := by
  have makes : (Report.send writer rounds (Report.encode errno)).Makes
      fun request => ∃ data, request = .write writer data :=
    Report.makes_send (fun data => ⟨data, rfl⟩) rounds _
  rw [Report.sendAndExit, Program.ensures_bind]
  refine (makes.ensures (fun _ state => state.OnlyAt writer report) trivial ?_ ?_
    only).mono ?_
  · intro _ _ _ only _ _
    exact only
  · rintro _ state _ answer next only ⟨data, rfl⟩ answered
    obtain rfl : next = state := answered
    exact only
  · intro _ after _ only
    refine ⟨fun _ => only, fun _ _ _ => ⟨fun noExit => ?_, fun never => nomatch never⟩⟩
    exact absurd rfl (noExit Report.failureCode)

/-- A descriptor above the standard ones stands for the write end until the child ends. -/
theorem ensures_holding
    {result : List Event → Descriptors → Empty → Prop}
    (rounds : Nat)
    (sound : inheritance.IsSound report sources files state) :
    (run rounds inheritance).Ensures (holding inheritance.reportWriter report) result []
      state := by
  refine ensures_run rounds sound (fun _ _ _ _ => id) trivial ?_ ?_ ?_
  · intro _ _ _ only _ _
    exact only
  · intro _ _ _ _ _ ready _
    exact ready.only
  · intro _ _ errno only _
    exact holds_sendAndExit rounds errno only

/-! ## On a standard descriptor -/

/-- What is lost stays lost, whatever is done. -/
theorem leads_of_isLost (isLost : state.IsLost report) (program : ExceptT Errno Program α) :
    Leads program (fun _ state => state.IsLost report) history state :=
  .of_makes _ program.run.makes_anything (fun _ _ _ _ _ isLost => isLost.of_answers) isLost

/-- Putting a stream onto the descriptor for the report loses the write end. -/
theorem leads_install
    {stream : StandardStream}
    {source : Descriptor}
    {file : FileId}
    (isSource : IsSource stream.slot state stream source file)
    (only : state.OnlyAt stream.slot report) :
    Leads (install stream (some source)) (fun _ state => state.IsLost report) history state := by
  have isMade := file?_lt_nextFile ((only _).mpr rfl)
  rw [install, if_neg isSource.spared]
  refine ⟨trivial, fun answer after answered => ?_⟩
  cases answer with
  | error errno => rintro _ ⟨⟩
  | ok =>
      obtain ⟨slot, isSlot, different, becomes⟩ := answered
      refine fun _ _ => ⟨isMade.trans_eq becomes.files.symm, fun number stands => ?_⟩
      by_cases same : number = stream.slot
      · rw [same, Descriptors.file?, becomes.slot?_self] at stands
        refine different ((only source).mp ?_)
        rw [Descriptors.file?, isSlot]
        exact stands
      · rw [becomes.file?_of_ne same] at stands
        exact same ((only number).mp stands)

theorem leads_installSources
    {moved : PerStream (Option Descriptor)}
    (areSources : ∀ stream, moved.get stream = some (sources stream) ∧
      IsSource writer state stream (sources stream) (files stream))
    (low : writer ≤ 2)
    (only : state.OnlyAt writer report)
    (proceeds : Proceeds writer .moving history) :
    Leads (installSources moved) (fun _ state => state.IsLost report) history state := by
  have isStdin : moved.stdin = some (sources .stdin) := (areSources .stdin).1
  have isStdout : moved.stdout = some (sources .stdout) := (areSources .stdout).1
  have isStderr : moved.stderr = some (sources .stderr) := (areSources .stderr).1
  rw [installSources, isStdin, isStdout, isStderr]
  have isOpen : state.IsOpen writer :=
    (state.isOpen_iff_file? writer).mpr ⟨report, (only writer).mpr rfl⟩
  obtain ⟨stream, rfl⟩ := exists_slot (state.inRange writer isOpen).1 low
  -- The streams before this one are installed as if the descriptor lay above.
  cases stream with
  | stdin =>
      refine (leads_install (areSources .stdin).2 only).bind fun _ _ _ isLost => ?_
      exact leads_of_isLost isLost _
  | stdout =>
      refine (arranges_install (areSources .stdin).2 (by decide) only proceeds
        (by decide)).leads_bind ?_
      rintro later first _ only proceeds ⟨-, keepsFirst⟩
      have sourceStdout := (areSources .stdout).2.of_ne (by decide) keepsFirst
      refine (leads_install sourceStdout only).bind fun _ _ _ isLost => ?_
      exact leads_of_isLost isLost _
  | stderr =>
      refine (arranges_install (areSources .stdin).2 (by decide) only proceeds
        (by decide)).leads_bind ?_
      rintro later first _ only proceeds ⟨-, keepsFirst⟩
      have sourceStdout := (areSources .stdout).2.of_ne (by decide) keepsFirst
      refine (arranges_install sourceStdout (by decide) only proceeds le_rfl).leads_bind ?_
      rintro later second _ only proceeds ⟨-, keepsSecond⟩
      have sourceStderr :=
        ((areSources .stderr).2.of_ne (by decide) keepsFirst).of_ne (by decide) keepsSecond
      exact leads_install sourceStderr only

/-- The descriptor for the report has been overwritten by a stream. -/
structure IsOverwritten (writer : Descriptor) (report : FileId) (state : Descriptors) :
    Prop where
  /-- No number stands for the write end any more. -/
  isLost : state.IsLost report
  /-- The stream that has taken the number is not left to the new program. -/
  closes : ∃ file, state.slot? writer = some ⟨file, true⟩

theorem leads_seal (isLost : state.IsLost report) :
    Leads (ExceptT.mk (Program.perform (.setCloseOnExec writer true)))
      (fun _ => IsOverwritten writer report) history state := by
  refine ⟨trivial, fun answer after answered => ?_⟩
  cases answer with
  | error errno => exact nofun
  | ok =>
      have stays : state.Answers (.setCloseOnExec writer true) (.ok ()) after := answered
      obtain ⟨slot, -, becomes⟩ := answered
      exact fun _ _ => ⟨isLost.of_answers stays, slot.file, becomes.slot?_self⟩

theorem leads_setUp
    (rounds : Nat)
    (areEnds : ∀ stream, inheritance.childEnds.get stream = some (sources stream))
    (stand : StillStand sources files state)
    (spared : ∀ stream, sources stream ≠ inheritance.reportWriter)
    (low : inheritance.reportWriter ≤ 2)
    (only : state.OnlyAt inheritance.reportWriter report)
    (proceeds : Proceeds inheritance.reportWriter .moving history) :
    Leads (setUp rounds inheritance)
      (fun _ => IsOverwritten inheritance.reportWriter report) history state := by
  refine (arranges_moveSources areEnds stand spared only proceeds).leads_bind ?_
  rintro later after moved only proceeds ⟨numbers, areSources⟩
  refine (leads_installSources areSources low only proceeds).bind fun _ _ _ isLost => ?_
  refine (leads_of_isLost isLost _).bind fun _ _ _ isLost => ?_
  refine (leads_of_isLost isLost _).bind fun _ _ _ isLost => ?_
  refine (leads_of_isLost isLost _).bind fun _ _ _ isLost => ?_
  exact leads_seal isLost

theorem leads_preparation
    (rounds : Nat)
    (apart : inheritance.IsApart report sources files state)
    (low : inheritance.reportWriter ≤ 2) :
    Leads (preparation rounds inheritance)
      (fun _ => IsOverwritten inheritance.reportWriter report) [] state := by
  refine (arranges_closeSurplus apart).leads_bind fun later after _ only proceeds stand => ?_
  refine (arranges_resetSignals only proceeds stand).leads_bind ?_
  intro later after _ only proceeds stand
  exact leads_setUp rounds apart.areEnds stand apart.spared low only proceeds

end Running
end Child

/-! ## Which numbers a pipe gets -/

/-- Two numbers are the lowest free ones, in their order. -/
structure Descriptors.AreLowest (descriptors : Descriptors) (reader writer : Descriptor) :
    Prop where
  ordered : reader < writer
  areTaken : ∀ number, 0 ≤ number → number < writer → number ≠ reader →
    descriptors.IsOpen number

/-- A pipe's write end is a standard descriptor only if two of them were free. -/
theorem Descriptors.AreLowest.writer_le_iff
    {before opened : Descriptors}
    {reader writer : Descriptor}
    (areLowest : before.AreLowest reader writer)
    (answered : before.Answers .pipe (.ok (reader, writer)) opened) :
    writer ≤ 2 ↔ ∃ first second : StandardStream, first ≠ second ∧
      before.IsFree first.slot ∧ before.IsFree second.slot := by
  obtain ⟨freeReader, freeNext, -⟩ := answered
  obtain ⟨different, freeWriter⟩ := (isFree_openNext_iff freeReader true).mp freeNext
  constructor
  · intro low
    obtain ⟨first, rfl⟩ :=
      Child.exists_slot freeReader.2.1 (Int.le_trans (Int.le_of_lt areLowest.ordered) low)
    obtain ⟨second, rfl⟩ := Child.exists_slot freeWriter.2.1 low
    exact ⟨first, second, fun same => different (by rw [same]), freeReader, freeWriter⟩
  · rintro ⟨first, second, apart, freeFirst, freeSecond⟩
    by_contra high
    -- Every free number below the write end is the read end.
    have isReader : ∀ stream : StandardStream, before.IsFree stream.slot →
        (stream.slot : Descriptor) = reader := by
      intro stream isFree
      by_contra notReader
      refine areLowest.areTaken _ isFree.2.1 ?_ notReader isFree.1
      refine Int.lt_of_le_of_lt ?_ (Int.not_le.mp high)
      cases stream <;> decide
    have same := (isReader first freeFirst).trans (isReader second freeSecond).symm
    cases first <;> cases second <;> first | exact apart rfl | cases same

/-! ## What becomes of the report -/

namespace Launch

/-- What becomes of the descriptor for the report.  If it lies above the standard
descriptors, it stands for the write end at every call of the child but the last, and
whenever a program is executed, all streams are in their places.  If it lies on a standard
descriptor, the write end is lost whenever a program is executed, and so is the stream of
that number once the program takes over.  When a pipe gets the lowest free numbers, this
is so if and only if two of the standard descriptors were free. -/
theorem keepsReport_of_runs_spawn
    {rounds : Nat}
    {launch : Launch}
    {path : SearchPath}
    {environment : Environment}
    {before atFork : Descriptors}
    {prior : List Event}
    {side : Except Errno ForkSide → Program (Except LaunchError Handle)}
    (forks : Program.Runs Answers (launch.spawn rounds path environment) before prior
      (.call .fork side) atFork)
    (callersOpen : ∀ stream number, launch.redirections.get stream = .descriptor number →
      (stream = .stderr → launch.mergesOutputs = false) → before.IsOpen number) :
    ∃ reader writer bindings report,
      launch.Prepares before prior reader writer bindings atFork ∧
        atFork.OnlyAt writer report ∧
        (∀ events request resume state,
          Program.Runs Answers (side (.ok .child)) atFork events (.call request resume)
              state →
            (2 < writer →
              ((∀ code, request ≠ .exit code) → state.OnlyAt writer report) ∧
                (isExecution request →
                  Child.IsWired bindings.childEnds writer atFork events state)) ∧
              (writer ≤ 2 → isExecution request →
                Child.IsOverwritten writer report state)) ∧
        (before.AreLowest reader writer →
          (writer ≤ 2 ↔ ∃ first second : StandardStream, first ≠ second ∧
            before.IsFree first.slot ∧ before.IsFree second.slot)) := by
  obtain ⟨reader, writer, bindings, request, limit, prepares, -, rfl⟩ :=
    prepares_of_runs_spawn forks
  obtain ⟨report, sources, files, apart⟩ := prepares.isApart callersOpen request limit
  refine ⟨reader, writer, bindings, report, prepares, apart.only, ?_, ?_⟩
  · intro events call resume state runs
    refine ⟨fun above => ?_, fun low => ?_⟩
    · have sound : Child.Inheritance.IsSound _ report sources files atFork := ⟨apart, above⟩
      have holds : (launch.follow rounds request reader writer bindings limit
          (.ok .child)).Ensures (Child.holding writer report) (fun _ _ _ => True) [] atFork :=
        (Program.ensures_bind _ _ _ _ _).mpr (Child.ensures_holding rounds sound)
      have wires : (launch.follow rounds request reader writer bindings limit
          (.ok .child)).Ensures (Child.wiring bindings.childEnds writer atFork)
            (fun _ _ _ => True) [] atFork :=
        (Program.ensures_bind _ _ _ _ _).mpr (Child.ensures_wired rounds sound)
      exact ⟨(holds.of_runs runs).1, (wires.of_runs runs).1⟩
    · have leads := Child.ensures_run_of_leads rounds
        (Child.leads_preparation rounds apart low)
      have loses : (launch.follow rounds request reader writer bindings limit
          (.ok .child)).Ensures (Child.executing (Child.IsOverwritten writer report))
            (fun _ _ _ => True) [] atFork :=
        (Program.ensures_bind _ _ _ _ _).mpr (leads.mono fun _ _ never => nomatch never)
      exact (loses.of_runs runs).1
  · obtain ⟨_, _, _, answered, -, -⟩ := prepares
    exact fun areLowest => areLowest.writer_le_iff answered

/-- A child with the standard streams of its parent, whose working directory is missing,
reports this into the pipe. -/
theorem keepsReport_of_runs_spawn_without_directory :
    let launch : Launch :=
      { Launch.initial with
        commandLine := ["/bin/cat"]
        inheritsEnvironment := false
        redirections := ⟨.descriptor 0, .descriptor 1, .descriptor 2⟩ }
    ∃ prior side atFork,
      Program.Runs Answers (launch.spawn 5 ⟨[]⟩ ⟨[]⟩) standard prior (.call .fork side)
          atFork ∧
        (∀ stream number, launch.redirections.get stream = .descriptor number →
          (stream = .stderr → launch.mergesOutputs = false) → standard.IsOpen number) ∧
        (∃ events data resume state,
          Program.Runs Answers (side (.ok .child)) atFork events
            (.call (.write 4 data) resume) state) ∧
        ∃ reader writer bindings report,
          launch.Prepares standard prior reader writer bindings atFork ∧
            atFork.OnlyAt writer report ∧
            (∀ events request resume state,
              Program.Runs Answers (side (.ok .child)) atFork events
                  (.call request resume) state →
                (2 < writer →
                  ((∀ code, request ≠ .exit code) → state.OnlyAt writer report) ∧
                    (isExecution request →
                      Child.IsWired bindings.childEnds writer atFork events state)) ∧
                  (writer ≤ 2 → isExecution request →
                    Child.IsOverwritten writer report state)) ∧
            (standard.AreLowest reader writer →
              (writer ≤ 2 ↔ ∃ first second : StandardStream, first ≠ second ∧
                standard.IsFree first.slot ∧ standard.IsFree second.slot)) := by
  intro launch
  let atFork := standardAndPipe
  have asksLimit : atFork.Answers .descriptorLimit (5 : Int) atFork := rfl
  let started := atFork.release 3
  have closesReader : atFork.Answers (.close 3) (.ok ()) started := atFork.becomes_release 3
  have ignores : started.Answers (.setDisposition 13 .standard) () started := rfl
  have unblocks : started.Answers (.setSignalMask []) () started := rfl
  let first := started.occupy 0 ⟨0, false⟩ (by decide) (by decide)
  have keepsInput : started.Answers (.setCloseOnExec 0 false) (.ok ()) first :=
    ⟨⟨0, false⟩, rfl, started.becomes_occupy ..⟩
  let second := first.occupy 1 ⟨1, false⟩ (by decide) (by decide)
  have keepsOutput : first.Answers (.setCloseOnExec 1 false) (.ok ()) second :=
    ⟨⟨1, false⟩, rfl, first.becomes_occupy ..⟩
  let third := second.occupy 2 ⟨2, false⟩ (by decide) (by decide)
  have keepsErrors : second.Answers (.setCloseOnExec 2 false) (.ok ()) third :=
    ⟨⟨2, false⟩, rfl, second.becomes_occupy ..⟩
  have noListing : third.Answers (.openFile Inherited.descriptorDirectory .listing)
    (.error Errno.ENOENT) third := rfl
  let cleared := third.release 3
  have closes : third.Answers (.close 3) (.error Errno.EBADF) cleared :=
    third.becomes_release 3
  have noDirectory : cleared.Answers (.changeDirectory [46]) (.error Errno.ENOENT) cleared :=
    rfl
  have runs : ∃ side events data resume,
      Program.Runs Answers (launch.spawn 5 ⟨[]⟩ ⟨[]⟩) standard
          [⟨.pipe, .ok (3, 4)⟩, ⟨.descriptorLimit, (5 : Int)⟩] (.call .fork side) atFork ∧
        Program.Runs Answers (side (.ok .child)) atFork events
          (.call (.write 4 data) resume) cleared :=
    ⟨_, _, _, _, .call standard_answers_pipe <| .call asksLimit <| .stop _ _,
      .call closesReader <| .call ignores <| .call unblocks <| .call keepsInput <|
        .call keepsOutput <| .call keepsErrors <| .call noListing <| .call closes <|
        .call noDirectory <| .stop _ _⟩
  obtain ⟨side, events, data, resume, forks, reports⟩ := runs
  have callersOpen : ∀ stream number,
      launch.redirections.get stream = .descriptor number →
        (stream = .stderr → launch.mergesOutputs = false) → standard.IsOpen number := by
    intro stream number isCaller _
    cases stream <;> cases isCaller <;> exact nofun
  exact ⟨_, side, atFork, forks, callersOpen, ⟨events, data, resume, cleared, reports⟩,
    keepsReport_of_runs_spawn forks callersOpen⟩

/-- A process that has nothing but its standard error starts a program that does not
exist, with all streams bound to that.  Its pipe gets the numbers of the two other
streams, the child's standard output replaces the write end, and the child writes why it
has failed to the standard error of its parent. -/
theorem exists_overwritten_of_runs_spawn :
    ∃ launch before prior side atFork events program arguments entries resume finish
        state,
      Program.Runs Answers (Launch.spawn 5 launch ⟨[]⟩ ⟨[]⟩) before
          (⟨.pipe, .ok (0, 1)⟩ :: prior) (.call .fork side) atFork ∧
        (∀ stream number, launch.redirections.get stream = .descriptor number →
          before.IsOpen number) ∧
        before.AreLowest 0 1 ∧
        Program.Runs Answers (side (.ok .child)) atFork events
          (.call (.execute program arguments entries) resume) state ∧
        resume Errno.ENOENT = .call (.write 1 (Report.encode Errno.ENOENT)) finish ∧
        atFork.OnlyAt 1 4 ∧ state.IsLost 4 ∧
        state.file? 1 = before.file? 2 ∧ state.afterExecution 1 = none := by
  let launch : Launch :=
    { Launch.initial with
      commandLine := ["/bin/cat"]
      inheritsEnvironment := false
      redirections := ⟨.descriptor 2, .descriptor 2, .descriptor 2⟩ }
  let before := (standard.release 0).release 1
  let atFork := (before.openNext 0 true ⟨rfl, by decide, by decide⟩).openNext 1 true
    ⟨rfl, by decide, by decide⟩
  have opens : before.Answers .pipe (.ok (0, 1)) atFork :=
    ⟨⟨rfl, by decide, by decide⟩, ⟨rfl, by decide, by decide⟩, rfl⟩
  have asksLimit : atFork.Answers .descriptorLimit (5 : Int) atFork := rfl
  let started := atFork.release 0
  have closesReader : atFork.Answers (.close 0) (.ok ()) started := atFork.becomes_release 0
  have ignores : started.Answers (.setDisposition 13 .standard) () started := rfl
  have unblocks : started.Answers (.setSignalMask []) () started := rfl
  let moved := started.occupy 3 ⟨2, false⟩ (by decide) (by decide)
  have movesInput : started.Answers (.duplicateFrom 2 3) (.ok 3) moved :=
    ⟨⟨2, false⟩, rfl, by decide, ⟨rfl, by decide, by decide⟩, started.becomes_occupy ..⟩
  let movedTwice := moved.occupy 4 ⟨2, false⟩ (by decide) (by decide)
  have movesOutput : moved.Answers (.duplicateFrom 2 3) (.ok 4) movedTwice :=
    ⟨⟨2, false⟩, rfl, by decide, ⟨rfl, by decide, by decide⟩, moved.becomes_occupy ..⟩
  let installed := movedTwice.occupy 0 ⟨2, false⟩ (by decide) (by decide)
  have installsInput : movedTwice.Answers (.duplicate 3 0) (.ok ()) installed :=
    ⟨⟨2, false⟩, rfl, by decide, movedTwice.becomes_occupy ..⟩
  let overwritten := installed.occupy 1 ⟨2, false⟩ (by decide) (by decide)
  have installsOutput : installed.Answers (.duplicate 4 1) (.ok ()) overwritten :=
    ⟨⟨2, false⟩, rfl, by decide, installed.becomes_occupy ..⟩
  let installedAll := overwritten.occupy 2 ⟨2, false⟩ (by decide) (by decide)
  have keepsErrors : overwritten.Answers (.setCloseOnExec 2 false) (.ok ()) installedAll :=
    ⟨⟨2, false⟩, rfl, overwritten.becomes_occupy ..⟩
  let cleared := (installedAll.release 3).release 4
  have clears : installedAll.Answers (.close 3) (.ok ()) (installedAll.release 3) ∧
      (installedAll.release 3).Answers (.close 4) (.ok ()) cleared :=
    ⟨becomes_release .., becomes_release ..⟩
  have noListing : cleared.Answers (.openFile Inherited.descriptorDirectory .listing)
    (.error Errno.ENOENT) cleared := rfl
  let closed := (cleared.release 3).release 4
  have closes : cleared.Answers (.close 3) (.error Errno.EBADF) (cleared.release 3) ∧
      (cleared.release 3).Answers (.close 4) (.error Errno.EBADF) closed :=
    ⟨becomes_release .., becomes_release ..⟩
  have enters : closed.Answers (.changeDirectory [46]) (.ok ()) closed := rfl
  let atExecution := closed.occupy 1 ⟨2, true⟩ (by decide) (by decide)
  have seals : closed.Answers (.setCloseOnExec 1 true) (.ok ()) atExecution :=
    ⟨⟨2, false⟩, rfl, closed.becomes_occupy ..⟩
  have runs : ∃ side events program arguments entries resume finish,
      Program.Runs Answers (launch.spawn 5 ⟨[]⟩ ⟨[]⟩) before
          [⟨.pipe, .ok (0, 1)⟩, ⟨.descriptorLimit, (5 : Int)⟩] (.call .fork side) atFork ∧
        Program.Runs Answers (side (.ok .child)) atFork events
          (.call (.execute program arguments entries) resume) atExecution ∧
        resume Errno.ENOENT = .call (.write 1 (Report.encode Errno.ENOENT)) finish :=
    ⟨_, _, _, _, _, _, _, .call opens <| .call asksLimit <| .stop _ _,
      .call closesReader <| .call ignores <| .call unblocks <| .call movesInput <|
        .call movesOutput <| .call installsInput <| .call installsOutput <|
        .call keepsErrors <| .call clears.1 <| .call clears.2 <| .call noListing <|
        .call closes.1 <| .call closes.2 <| .call enters <| .call seals <| .stop _ _, rfl⟩
  obtain ⟨side, events, program, arguments, entries, resume, finish, forks, executes,
    reports⟩ := runs
  refine ⟨launch, before, _, side, atFork, events, program, arguments, entries, resume,
    finish, atExecution, forks, ?_, ?_, executes, reports, ?_, ⟨by decide, ?_⟩, rfl, rfl⟩
  · intro stream number isCaller
    cases stream <;> cases isCaller <;> exact nofun
  · refine ⟨by decide, fun number notNegative below different => ?_⟩
    exact absurd (Int.le_antisymm (Int.le_of_lt_add_one below) notNegative) different
  · have adds : before.Adds [1, 0] atFork := ((Adds.refl before).openNext _).openNext _
    obtain ⟨report, stands, only⟩ := adds.onlyAt (List.mem_cons_self ..)
    cases Option.some.inj stands
    exact only
  · intro number
    simp only [Descriptors.file?, atExecution, closed, cleared, installedAll, overwritten,
      installed, movedTwice, moved, started, atFork, before, occupy, release, openNext,
      standard, Function.update_apply]
    split_ifs with _ _ _ _ _ isStandard <;> simp
    clear * - isStandard
    unfold Descriptor FileId at *
    omega

end Launch
end ChildProcess
