import ChildProcess.Proofs.Descriptors.Closing
import ChildProcess.Spawn.Child

/-!
# Setting up a child

The calls of a new child that matter come in stages, and the first one that fails ends
its work.  While sources are moved and installed, each source that is still needed
stands for the file that it stood for at the beginning: a moved source lies above the
standard descriptors, and one that was not moved lies on its own.  Installing a stream
changes its own slot only, so no source is overwritten before it is used.
-/

namespace ChildProcess
namespace Child

open Descriptors

/-! ## Stages -/

/-- The stages that a new child goes through. -/
inductive Stage
  /-- Sources are moved out of the way. -/
  | moving
  /-- Sources are put onto the standard descriptors. -/
  | installing
  /-- Other descriptors are looked for. -/
  | clearing
  /-- The working directory is entered. -/
  | entering
  /-- The descriptor for the report is made to close on execution. -/
  | sealing
  /-- Programs are executed. -/
  | executing
  /-- The parent is told what has failed. -/
  | reporting
  deriving DecidableEq, Repr

namespace Stage

/-- Where a stage stands in their order. -/
def rank : Stage → Nat
  | .moving => 0
  | .installing => 1
  | .clearing => 2
  | .entering => 3
  | .sealing => 4
  | .executing => 5
  | .reporting => 6

/-- The stage to which a call belongs. -/
def ofCall? (writer : Descriptor) : Call → Option Stage
  | .duplicateFrom _ _ => some .moving
  | .duplicate _ _ => some .installing
  | .setCloseOnExec number _ => some (if number = writer then .sealing else .installing)
  | .openFile _ _ | .directoryRecords _ _ => some .clearing
  | .changeDirectory _ => some .entering
  | .execute _ _ _ => some .executing
  | .write _ _ => some .reporting
  | _ => none

end Stage

/-- The stages of some events, one after another. -/
def stages (writer : Descriptor) (events : List Event) : List Stage :=
  events.filterMap fun event => Stage.ofCall? writer event.1

/-- Why a step of the set-up has failed. -/
def failure? : Event → Option Errno
  | ⟨.duplicateFrom _ _, .error errno⟩ => some errno
  | ⟨.duplicate _ _, .error errno⟩ => some errno
  | ⟨.setCloseOnExec _ _, .error errno⟩ => some errno
  | ⟨.changeDirectory _, .error errno⟩ => some errno
  | _ => none

/-- All steps have been successful so far, and came in the order of their stages up to
some stage. -/
structure Proceeds (writer : Descriptor) (reached : Stage) (events : List Event) :
    Prop where
  unfailing : ∀ event ∈ events, failure? event = none
  ordered : (stages writer events).Pairwise (·.rank ≤ ·.rank)
  within : ∀ stage ∈ stages writer events, stage.rank ≤ reached.rank

/-- The last event is the first step that has failed, and came in its turn. -/
def Breaks (writer : Descriptor) (events : List Event) (errno : Errno) : Prop :=
  ∃ earlier event stage, events = earlier ++ [event] ∧ Proceeds writer stage earlier ∧
    Stage.ofCall? writer event.1 = some stage ∧ failure? event = some errno

section Stages

variable {writer : Descriptor} {reached stage : Stage} {events more : List Event}
variable {event : Event}

theorem stages_append (first second : List Event) :
    stages writer (first ++ second) = stages writer first ++ stages writer second :=
  List.filterMap_append

theorem mem_stages :
    stage ∈ stages writer events ↔
      ∃ event ∈ events, Stage.ofCall? writer event.1 = some stage :=
  List.mem_filterMap

theorem failure?_of_findsOrCloses (event : Event) (finds : findsOrCloses event.1) :
    failure? event = none := by
  obtain ⟨request, answer⟩ := event
  cases request <;> first | rfl | exact finds.elim

theorem ofCall?_of_findsOrCloses (request : Call) (finds : findsOrCloses request) :
    Stage.ofCall? writer request = none ∨
      Stage.ofCall? writer request = some .clearing := by
  cases request with
  | close => exact .inl rfl
  | openFile | directoryRecords => exact .inr rfl
  | _ => exact finds.elim

namespace Proceeds

theorem nil : Proceeds writer .moving [] :=
  ⟨by simp, List.Pairwise.nil, by simp [stages]⟩

theorem mono (proceeds : Proceeds writer reached events)
    (notBefore : reached.rank ≤ stage.rank) : Proceeds writer stage events where
  unfailing := proceeds.unfailing
  ordered := proceeds.ordered
  within other isMember := (proceeds.within other isMember).trans notBefore

/-- Successful steps of a stage that is not over, and calls that are no steps. -/
theorem append
    (proceeds : Proceeds writer reached events)
    (notBefore : reached.rank ≤ stage.rank)
    (unfailing : ∀ event ∈ more, failure? event = none)
    (inStage : ∀ event ∈ more, Stage.ofCall? writer event.1 = none ∨
      Stage.ofCall? writer event.1 = some stage) :
    Proceeds writer stage (events ++ more) := by
  have isStage : ∀ other ∈ stages writer more, other = stage := by
    intro other isMember
    obtain ⟨event, isEvent, belongs⟩ := mem_stages.mp isMember
    rcases inStage event isEvent with none | same
    · rw [none] at belongs
      cases belongs
    · exact Option.some.inj (belongs.symm.trans same)
  refine ⟨fun event isMember => ?_, ?_, fun other isMember => ?_⟩
  · rcases List.mem_append.mp isMember with earlier | later
    · exact proceeds.unfailing event earlier
    · exact unfailing event later
  · rw [stages_append, List.pairwise_append]
    refine ⟨proceeds.ordered, ?_, fun first isFirst second isSecond => ?_⟩
    · refine List.pairwise_of_forall_mem_list fun first isFirst second isSecond => ?_
      rw [isStage first isFirst, isStage second isSecond]
    · rw [isStage second isSecond]
      exact (proceeds.within first isFirst).trans notBefore
  · rw [stages_append, List.mem_append] at isMember
    rcases isMember with earlier | later
    · exact (proceeds.within other earlier).trans notBefore
    · rw [isStage other later]

theorem step
    (proceeds : Proceeds writer reached events)
    (notBefore : reached.rank ≤ stage.rank)
    (belongs : Stage.ofCall? writer event.1 = some stage)
    (succeeds : failure? event = none) :
    Proceeds writer stage (events ++ [event]) := by
  refine proceeds.append notBefore ?_ ?_ <;> simp [belongs, succeeds]

theorem skip
    (proceeds : Proceeds writer reached events)
    (isNoStep : Stage.ofCall? writer event.1 = none)
    (succeeds : failure? event = none) :
    Proceeds writer reached (events ++ [event]) := by
  refine proceeds.append le_rfl ?_ ?_ <;> simp [isNoStep, succeeds]

theorem breaks
    {errno : Errno}
    (proceeds : Proceeds writer reached events)
    (notBefore : reached.rank ≤ stage.rank)
    (belongs : Stage.ofCall? writer event.1 = some stage)
    (fails : failure? event = some errno) :
    Breaks writer (events ++ [event]) errno :=
  ⟨events, event, stage, rfl, proceeds.mono notBefore, belongs, fails⟩

/-- No directory has been listed before other descriptors are looked for. -/
theorem not_scanEnded
    (proceeds : Proceeds writer reached events)
    (before : reached.rank < Stage.clearing.rank) :
    ¬ScanEnded events := by
  rintro ⟨number, size, isMember⟩
  have listed : Stage.clearing ∈ stages writer events :=
    mem_stages.mpr ⟨_, isMember, rfl⟩
  exact Nat.not_lt.mpr (proceeds.within _ listed) before

end Proceeds
end Stages

/-! ## Steps of the set-up -/

/-- A part of the set-up either comes to the end of a stage, or breaks off at the first
step that fails.  In any case the only descriptor for the report is kept. -/
def Arranges {α : Type} (writer : Descriptor) (report : FileId) (stage : Stage)
    (result : List Event → Descriptors → α → Prop) (program : ExceptT Errno Program α)
    (history : List Event) (state : Descriptors) : Prop :=
  program.run.Ensures (keeping writer report)
    (fun later after outcome =>
      after.OnlyAt writer report ∧
        match outcome with
        | .ok value => Proceeds writer stage later ∧ result later after value
        | .error errno => Breaks writer later errno)
    history state

section Arranging

variable {writer : Descriptor} {report file : FileId} {reached stage : Stage}
variable {history : List Event} {state : Descriptors} {α β : Type}

namespace Arranges

theorem pure
    {result : List Event → Descriptors → α → Prop}
    {value : α}
    (only : state.OnlyAt writer report)
    (proceeds : Proceeds writer stage history)
    (isResult : result history state value) :
    Arranges writer report stage result (Pure.pure value) history state :=
  ⟨only, proceeds, isResult⟩

theorem bind
    {first : List Event → Descriptors → α → Prop}
    {result : List Event → Descriptors → β → Prop}
    {program : ExceptT Errno Program α}
    {next : α → ExceptT Errno Program β}
    (arranges : Arranges writer report reached first program history state)
    (goesOn : ∀ later after value, after.OnlyAt writer report →
      Proceeds writer reached later → first later after value →
        Arranges writer report stage result (next value) later after) :
    Arranges writer report stage result (program >>= next) history state := by
  unfold Arranges at arranges ⊢
  rw [ExceptT.run_bind, Program.ensures_bind]
  refine arranges.mono ?_
  rintro later after (errno | value) ⟨only, outcome⟩
  · exact ⟨only, outcome⟩
  · exact goesOn later after value only outcome.1 outcome.2

/-- A part of the set-up that cannot fail. -/
theorem of_ensures
    {result : List Event → Descriptors → α → Prop}
    {program : Program α}
    (ensures : program.Ensures (keeping writer report)
      (fun later after value =>
        after.OnlyAt writer report ∧ Proceeds writer stage later ∧
          result later after value)
      history state) :
    Arranges writer report stage result (liftM program) history state := by
  unfold Arranges
  change (program >>= fun value => Program.done (Except.ok value)).Ensures _ _ _ _
  rw [Program.ensures_bind]
  exact ensures

end Arranges

/-- A program whose calls belong to one stage, or to none, and cannot fail. -/
theorem ensures_proceeds_of_makes
    {kind : Call → Prop}
    {program : Program α}
    {result : List Event → Descriptors → α → Prop}
    (makes : program.Makes kind)
    (unfailing : ∀ event : Event, kind event.1 → failure? event = none)
    (inStage : ∀ request, kind request →
      Stage.ofCall? writer request = none ∨ Stage.ofCall? writer request = some stage)
    (proceeds : Proceeds writer reached history)
    (notBefore : reached.rank ≤ stage.rank)
    (ensures : program.Ensures (keeping writer report) result history state) :
    program.Ensures (keeping writer report)
      (fun later after value => Proceeds writer stage later ∧ result later after value)
      history state := by
  refine ensures.mono_runs fun events after value runs isResult => ⟨?_, isResult⟩
  have isKind := (makes.of_runs runs).1
  refine proceeds.append notBefore ?_ ?_
  · exact fun event isMember => unfailing event (isKind event isMember)
  · exact fun event isMember => inStage event.1 (isKind event isMember)

/-! ## Moving the sources -/

/-- A descriptor from which a stream may be installed: it stands for some file, and no
other stream's slot is the same number. -/
structure IsSource (writer : Descriptor) (state : Descriptors)
    (stream : StandardStream) (source : Descriptor) (file : FileId) : Prop where
  stands : state.file? source = some file
  inPlace : source = stream.slot ∨ 2 < source
  spared : source ≠ writer

/-- What is open stays as it is. -/
def Extends (before after : Descriptors) : Prop :=
  ∀ number, before.IsOpen number → after.slot? number = before.slot? number

theorem Extends.file?_eq
    {before after : Descriptors}
    (kept : Extends before after)
    {number : Descriptor}
    (stands : before.file? number = some file) :
    after.file? number = some file := by
  have isOpen : before.IsOpen number := by
    intro isFree
    rw [Descriptors.file?, isFree] at stands
    cases stands
  rw [Descriptors.file?, kept number isOpen]
  exact stands

theorem IsSource.of_extends
    {before after : Descriptors}
    {stream : StandardStream}
    {source : Descriptor}
    (isSource : IsSource writer before stream source file)
    (kept : Extends before after) :
    IsSource writer after stream source file :=
  ⟨kept.file?_eq isSource.stands, isSource.inPlace, isSource.spared⟩

theorem arranges_moveAside
    (stream : StandardStream)
    {source : Descriptor}
    (stands : state.file? source = some file)
    (spared : source ≠ writer)
    (only : state.OnlyAt writer report)
    (proceeds : Proceeds writer .moving history) :
    Arranges writer report .moving
      (fun _ after moved =>
        Extends state after ∧
          ∃ number, moved = some number ∧ IsSource writer after stream number file)
      (moveAside stream (some source)) history state := by
  rw [moveAside]
  split
  · refine ⟨⟨only, spared⟩, fun answer after answered => ?_⟩
    cases answer with
    | error errno =>
        obtain rfl : after = state := answered
        exact ⟨only, proceeds.breaks le_rfl rfl rfl⟩
    | ok number =>
        obtain ⟨slot, isSlot, above, free, becomes⟩ := answered
        obtain rfl : slot.file = file := by
          rw [Descriptors.file?, isSlot] at stands
          exact Option.some.inj stands
        refine ⟨only.of_becomes becomes (only.ne_of_isFree free) ?_,
          proceeds.step le_rfl rfl rfl, ?_, number, rfl, ?_, .inr ?_, ?_⟩
        · exact fun isReport => spared ((only source).mp (stands.trans isReport))
        · intro other isOpen
          exact becomes.slot?_of_ne fun same => isOpen (same ▸ free.1)
        · rw [Descriptors.file?, becomes.slot?_self]
          rfl
        · exact Int.lt_of_lt_of_le (by decide) above
        · exact only.ne_of_isFree free
  · next inPlace =>
    refine .pure only proceeds ⟨fun _ _ => rfl, source, rfl, stands, ?_, spared⟩
    by_cases low : source ≤ 2
    · exact .inl (not_not.mp fun different => inPlace ⟨low, different⟩)
    · exact .inr (Int.not_le.mp low)

/-- Every stream gets a source of its own file. -/
theorem arranges_moveSources
    {childEnds : PerStream (Option Descriptor)}
    {sources : StandardStream → Descriptor}
    {files : StandardStream → FileId}
    (areEnds : ∀ stream, childEnds.get stream = some (sources stream))
    (stand : ∀ stream, state.file? (sources stream) = some (files stream))
    (spared : ∀ stream, sources stream ≠ writer)
    (only : state.OnlyAt writer report)
    (proceeds : Proceeds writer .moving history) :
    Arranges writer report .moving
      (fun _ after moved =>
        ∃ numbers : StandardStream → Descriptor, ∀ stream,
          moved.get stream = some (numbers stream) ∧
            IsSource writer after stream (numbers stream) (files stream))
      (moveSources childEnds) history state := by
  have isStdin : childEnds.stdin = some (sources .stdin) := areEnds .stdin
  have isStdout : childEnds.stdout = some (sources .stdout) := areEnds .stdout
  have isStderr : childEnds.stderr = some (sources .stderr) := areEnds .stderr
  rw [moveSources, isStdin, isStdout, isStderr]
  refine (arranges_moveAside .stdin (stand .stdin) (spared .stdin) only proceeds).bind ?_
  rintro later first _ only proceeds ⟨extendsFirst, stdin, rfl, sourceStdin⟩
  refine (arranges_moveAside .stdout (extendsFirst.file?_eq (stand .stdout))
    (spared .stdout) only proceeds).bind ?_
  rintro later second _ only proceeds ⟨extendsSecond, stdout, rfl, sourceStdout⟩
  refine (arranges_moveAside .stderr
    (extendsSecond.file?_eq (extendsFirst.file?_eq (stand .stderr)))
    (spared .stderr) only proceeds).bind ?_
  rintro later third _ only proceeds ⟨extendsThird, stderr, rfl, sourceStderr⟩
  refine .pure only proceeds ⟨(PerStream.mk stdin stdout stderr).get, fun stream => ?_⟩
  cases stream with
  | stdin => exact ⟨rfl, (sourceStdin.of_extends extendsSecond).of_extends extendsThird⟩
  | stdout => exact ⟨rfl, sourceStdout.of_extends extendsThird⟩
  | stderr => exact ⟨rfl, sourceStderr⟩

/-! ## Installing the sources -/

theorem IsSource.of_ne
    {before after : Descriptors}
    {installed stream : StandardStream}
    {source : Descriptor}
    (isSource : IsSource writer before stream source file)
    (different : stream ≠ installed)
    (keeps : ∀ other : Descriptor, other ≠ installed.slot →
      after.slot? other = before.slot? other) :
    IsSource writer after stream source file := by
  have notInstalled : source ≠ installed.slot := by
    intro same
    rcases isSource.inPlace with inPlace | above
    · rw [same] at inPlace
      cases stream <;> cases installed <;> first | exact different rfl | cases inPlace
    · rw [same] at above
      cases installed <;> exact absurd above (by decide)
  refine ⟨?_, isSource.inPlace, isSource.spared⟩
  rw [Descriptors.file?, keeps source notInstalled]
  exact isSource.stands

theorem slot_ne_of_above (above : 2 < writer) (stream : StandardStream) :
    (stream.slot : Descriptor) ≠ writer := by
  rintro rfl
  cases stream <;> exact absurd above (by decide)

theorem arranges_install
    {stream : StandardStream}
    {source : Descriptor}
    (isSource : IsSource writer state stream source file)
    (notWriter : (stream.slot : Descriptor) ≠ writer)
    (only : state.OnlyAt writer report)
    (proceeds : Proceeds writer reached history)
    (notBefore : reached.rank ≤ Stage.installing.rank) :
    Arranges writer report .installing
      (fun _ after _ =>
        after.slot? stream.slot = some ⟨file, false⟩ ∧
          ∀ other : Descriptor, other ≠ stream.slot →
            after.slot? other = state.slot? other)
      (install stream (some source)) history state := by
  have otherFile : some file ≠ some report := fun isReport =>
    isSource.spared ((only source).mp (isSource.stands.trans isReport))
  obtain ⟨slot, isSlot, rfl⟩ := Option.map_eq_some_iff.mp isSource.stands
  rw [install]
  split
  · next inPlace =>
    have belongs : Stage.ofCall? writer (.setCloseOnExec source false) =
        some .installing := by
      rw [Stage.ofCall?, if_neg (inPlace ▸ notWriter)]
    refine ⟨⟨only, trivial⟩, fun answer after answered => ?_⟩
    cases answer with
    | error errno =>
        obtain rfl : after = state := answered
        exact ⟨only, proceeds.breaks notBefore belongs rfl⟩
    | ok =>
        obtain ⟨found, isFound, becomes⟩ := answered
        obtain rfl : slot = found := Option.some.inj (isSlot.symm.trans isFound)
        rw [inPlace] at becomes
        exact ⟨only.of_becomes becomes notWriter otherFile,
          proceeds.step notBefore belongs rfl, becomes.slot?_self,
          fun other different => becomes.slot?_of_ne different⟩
  · refine ⟨⟨only, isSource.spared, notWriter⟩, fun answer after answered => ?_⟩
    cases answer with
    | error errno =>
        obtain rfl : after = state := answered
        exact ⟨only, proceeds.breaks notBefore rfl rfl⟩
    | ok =>
        obtain ⟨found, isFound, -, becomes⟩ := answered
        obtain rfl : slot = found := Option.some.inj (isSlot.symm.trans isFound)
        exact ⟨only.of_becomes becomes notWriter otherFile,
          proceeds.step notBefore rfl rfl, becomes.slot?_self,
          fun other different => becomes.slot?_of_ne different⟩

/-- Every standard descriptor stands for the file of its stream, and stays open on
execution. -/
def IsInstalled (state : Descriptors) (files : StandardStream → FileId) : Prop :=
  ∀ stream, state.slot? stream.slot = some ⟨files stream, false⟩

theorem arranges_installSources
    {moved : PerStream (Option Descriptor)}
    {sources : StandardStream → Descriptor}
    {files : StandardStream → FileId}
    (areSources : ∀ stream, moved.get stream = some (sources stream) ∧
      IsSource writer state stream (sources stream) (files stream))
    (above : 2 < writer)
    (only : state.OnlyAt writer report)
    (proceeds : Proceeds writer reached history)
    (notBefore : reached.rank ≤ Stage.installing.rank) :
    Arranges writer report .installing (fun _ after _ => IsInstalled after files)
      (installSources moved) history state := by
  have isStdin : moved.stdin = some (sources .stdin) := (areSources .stdin).1
  have isStdout : moved.stdout = some (sources .stdout) := (areSources .stdout).1
  have isStderr : moved.stderr = some (sources .stderr) := (areSources .stderr).1
  rw [installSources, isStdin, isStdout, isStderr]
  have notWriter := slot_ne_of_above above
  refine (arranges_install (areSources .stdin).2 (notWriter .stdin) only proceeds
    notBefore).bind ?_
  rintro later first _ only proceeds ⟨stdin, keepsFirst⟩
  have sourceStdout := (areSources .stdout).2.of_ne (by decide) keepsFirst
  refine (arranges_install sourceStdout (notWriter .stdout) only proceeds le_rfl).bind ?_
  rintro later second _ only proceeds ⟨stdout, keepsSecond⟩
  have sourceStderr :=
    ((areSources .stderr).2.of_ne (by decide) keepsFirst).of_ne (by decide) keepsSecond
  refine (arranges_install sourceStderr (notWriter .stderr) only proceeds le_rfl).mono ?_
  rintro later third (errno | _) ⟨only, outcome⟩
  · exact ⟨only, outcome⟩
  obtain ⟨proceeds, stderr, keepsThird⟩ := outcome
  refine ⟨only, proceeds, fun stream => ?_⟩
  cases stream with
  | stdin => rw [keepsThird _ (by decide), keepsSecond _ (by decide), stdin]
  | stdout => rw [keepsThird _ (by decide), stdout]
  | stderr => exact stderr

/-! ## Clearing the rest -/

theorem IsInstalled.of_eq
    {before after : Descriptors}
    {files : StandardStream → FileId}
    (installed : IsInstalled before files)
    (keeps : ∀ number : Descriptor, number ≤ 2 →
      after.slot? number = before.slot? number) :
    IsInstalled after files := by
  intro stream
  rw [keeps stream.slot (by cases stream <;> decide)]
  exact installed stream

theorem arranges_closeSources
    {moved : PerStream (Option Descriptor)}
    {files : StandardStream → FileId}
    (spared : ∀ stream, moved.get stream ≠ some writer)
    (installed : IsInstalled state files)
    (only : state.OnlyAt writer report)
    (proceeds : Proceeds writer .installing history) :
    Arranges writer report .clearing
      (fun later after _ => ¬ScanEnded later ∧ IsInstalled after files)
      (liftM (closeSources moved)) history state := by
  have sparesWriter : writer ∉ (moved.toList.filterMap id).filter (2 < ·) := by
    intro isMember
    have isMoved := List.mem_of_mem_filter isMember
    simp only [PerStream.toList, List.mem_filterMap, List.mem_cons, List.not_mem_nil,
      or_false, id] at isMoved
    obtain ⟨_, rfl | rfl | rfl, isWriter⟩ := isMoved
    · exact spared .stdin isWriter
    · exact spared .stdout isWriter
    · exact spared .stderr isWriter
  have noListing := proceeds.not_scanEnded (by decide)
  have makes : (closeSources moved).Makes findsOrCloses :=
    (completes_closeEach (fun _ => trivial) _).makes
  refine .of_ensures ((ensures_proceeds_of_makes makes failure?_of_findsOrCloses
    ofCall?_of_findsOrCloses proceeds (by decide)
    (ensures_closeEach sparesWriter only history)).mono ?_)
  rintro later after _ ⟨proceeds, only, closed, ended⟩
  refine ⟨only, proceeds, fun scanEnded => noListing (ended scanEnded), ?_⟩
  refine installed.of_eq fun number low => closed.keeps number fun isClosed => ?_
  have above := (List.mem_filter.mp isClosed).2
  exact absurd (of_decide_eq_true above) (Int.not_lt.mpr low)

/-- Nothing is open but the standard descriptors and the one for the report. -/
def IsClear (state : Descriptors) (writer : Descriptor) : Prop :=
  ∀ number : Descriptor, 2 < number → number ≠ writer → state.slot? number = none

theorem arranges_closeInherited
    {files : StandardStream → FileId}
    (rounds : Nat)
    (limit : Descriptor)
    (noListing : ¬ScanEnded history)
    (installed : IsInstalled state files)
    (only : state.OnlyAt writer report)
    (proceeds : Proceeds writer .clearing history) :
    Arranges writer report .clearing
      (fun later after _ =>
        IsInstalled after files ∧ (ScanEnded later → IsClear after writer))
      (liftM (Inherited.close rounds 3 writer limit)) history state := by
  have makes : (Inherited.close rounds 3 writer limit).Makes findsOrCloses :=
    makes_close (fun _ => trivial) trivial (fun _ _ => trivial) _ _ _ _
  refine .of_ensures ((ensures_proceeds_of_makes makes
    failure?_of_findsOrCloses ofCall?_of_findsOrCloses proceeds le_rfl
    (ensures_close rounds 3 limit only history)).mono ?_)
  rintro later after _ ⟨proceeds, only, thins, ended⟩
  refine ⟨only, proceeds, installed.of_eq fun number low => ?_, fun scanEnded number above => ?_⟩
  · exact thins.keeps number (.inl (Int.lt_of_le_of_lt low (by decide)))
  · exact (ended scanEnded).resolve_left noListing number above

/-! ## The whole set-up -/

/-- What a child has when it is set up. -/
structure IsSetUp (writer : Descriptor) (report : FileId)
    (files : StandardStream → FileId) (events : List Event) (state : Descriptors) :
    Prop where
  installed : IsInstalled state files
  isSealed : state.slot? writer = some ⟨report, true⟩
  isClear : ScanEnded events → IsClear state writer

theorem arranges_enter
    {files : StandardStream → FileId}
    (directory : Bytes)
    (installed : IsInstalled state files)
    (isClear : ScanEnded history → IsClear state writer)
    (only : state.OnlyAt writer report)
    (proceeds : Proceeds writer .clearing history) :
    Arranges writer report .entering
      (fun later after _ =>
        IsInstalled after files ∧ (ScanEnded later → IsClear after writer))
      (ExceptT.mk (Program.perform (.changeDirectory directory))) history state := by
  refine ⟨⟨only, trivial⟩, fun answer after answered => ?_⟩
  obtain rfl : after = state := answered
  cases answer with
  | error errno => exact ⟨only, proceeds.breaks (by decide) rfl rfl⟩
  | ok =>
      refine ⟨only, proceeds.step (by decide) rfl rfl, installed, fun scanEnded => ?_⟩
      rw [scanEnded_append] at scanEnded
      exact isClear (scanEnded.resolve_right (not_scanEnded_of_ne nofun))

theorem arranges_seal
    {files : StandardStream → FileId}
    (above : 2 < writer)
    (installed : IsInstalled state files)
    (isClear : ScanEnded history → IsClear state writer)
    (only : state.OnlyAt writer report)
    (proceeds : Proceeds writer .entering history) :
    Arranges writer report .sealing
      (fun later after _ => IsSetUp writer report files later after)
      (ExceptT.mk (Program.perform (.setCloseOnExec writer true))) history state := by
  have belongs : Stage.ofCall? writer (.setCloseOnExec writer true) = some .sealing := by
    rw [Stage.ofCall?, if_pos rfl]
  refine ⟨⟨only, trivial⟩, fun answer after answered => ?_⟩
  cases answer with
  | error errno =>
      obtain rfl : after = state := answered
      exact ⟨only, proceeds.breaks (by decide) belongs rfl⟩
  | ok =>
      obtain ⟨slot, isSlot, becomes⟩ := answered
      obtain rfl : slot.file = report := by
        have stands := (only writer).mpr rfl
        rw [Descriptors.file?, isSlot] at stands
        exact Option.some.inj stands
      have keeps : ∀ number, number ≠ writer →
          after.slot? number = state.slot? number :=
        fun number => becomes.slot?_of_ne
      refine ⟨fun other => ?_, proceeds.step (by decide) belongs rfl, ?_,
        becomes.slot?_self, fun scanEnded number high different => ?_⟩
      · by_cases same : other = writer
        · rw [same, Descriptors.file?, becomes.slot?_self]
          exact iff_of_true rfl rfl
        · rw [becomes.file?_of_ne same]
          exact only other
      · refine installed.of_eq fun number low => keeps number fun same => ?_
        exact absurd (same ▸ above) (Int.not_lt.mpr low)
      · rw [scanEnded_append] at scanEnded
        rw [keeps number different]
        refine isClear (scanEnded.resolve_right (not_scanEnded_of_ne ?_)) number high
          different
        rintro _ _ ⟨⟩

/-- When the set-up of a child ends, each standard descriptor stands for the file that
the child's end of that stream stood for at the beginning. -/
theorem arranges_setUp
    (rounds : Nat)
    (inheritance : Inheritance)
    {sources : StandardStream → Descriptor}
    {files : StandardStream → FileId}
    (areEnds : ∀ stream, inheritance.childEnds.get stream = some (sources stream))
    (stand : ∀ stream, state.file? (sources stream) = some (files stream))
    (spared : ∀ stream, sources stream ≠ inheritance.reportWriter)
    (above : 2 < inheritance.reportWriter)
    (only : state.OnlyAt inheritance.reportWriter report)
    (proceeds : Proceeds inheritance.reportWriter .moving history) :
    Arranges inheritance.reportWriter report .sealing
      (fun later after _ => IsSetUp inheritance.reportWriter report files later after)
      (setUp rounds inheritance) history state := by
  refine (arranges_moveSources areEnds stand spared only proceeds).bind ?_
  rintro later after moved only proceeds ⟨numbers, areSources⟩
  refine (arranges_installSources areSources above only proceeds (by decide)).bind ?_
  intro later after _ only proceeds installed
  have sparesWriter : ∀ stream, moved.get stream ≠ some inheritance.reportWriter := by
    intro stream isWriter
    obtain ⟨isNumber, isSource⟩ := areSources stream
    exact isSource.spared (Option.some.inj (isNumber.symm.trans isWriter))
  refine (arranges_closeSources sparesWriter installed only proceeds).bind ?_
  rintro later after _ only proceeds ⟨noListing, installed⟩
  refine (arranges_closeInherited rounds _ noListing installed only proceeds).bind ?_
  rintro later after _ only proceeds ⟨installed, isClear⟩
  refine (arranges_enter _ installed isClear only proceeds).bind ?_
  rintro later after _ only proceeds ⟨installed, isClear⟩
  exact arranges_seal above installed isClear only proceeds

end Arranging
end Child
end ChildProcess
