import ChildProcess.Proofs.Spawn.Wiring

/-!
# The ledger of a start

Starts in several threads share the descriptors of their process.  What one of them has
opened can be kept in a ledger of its own: descriptors that are blank at first, on which
the start runs as if it were alone.  In its own process a start only makes pipes and
closes descriptors, so the ledger holds nothing but ends of its pipes, and it numbers them
in the order in which they were made.  When a start duplicates the process, the numbers
that it has bound to the streams stand in the ledger for the ends of the pipes in order.
-/

namespace ChildProcess

open Descriptors

/-- No descriptor is open, and no file has been made. -/
def Descriptors.blank : Descriptors where
  slot? _ := none
  nextFile := 0
  listedFrom? _ := none
  inRange _ isOpen := absurd rfl isOpen
  isMade _ _ isSlot := nomatch isSlot

/-! ## The calls of a start in its own process -/

/-- Calls that make pipes, close descriptors, or leave them as they are. -/
def usesPipes : Call → Prop
  | .pipe | .close _ => True
  | request => leavesDescriptors request = true

theorem usesPipes_of_supervises (request : Call) (isOwn : supervises request) :
    usesPipes request := by
  cases request with
  | pipe | close => trivial
  | read | collect | log => rfl
  | _ => exact isOwn.elim

namespace Launch

/-- The circumstances of a start that makes pipes and closes descriptors. -/
abbrev usingPipes : Setting Descriptors where
  answers := inParent
  allows _ _ request := usesPipes request

theorem ensures_usingPipes_of_makes
    {α : Type}
    {program : Program α}
    (makes : program.Makes supervises)
    (history : List Event)
    (state : Descriptors) :
    program.Ensures usingPipes (fun _ _ _ => True) history state :=
  makes.ensures_of_allowed trivial
    (fun _ _ request isOwn => usesPipes_of_supervises request isOwn) history state

/-- In its own process, a start makes pipes and closes descriptors. -/
theorem ensures_usesPipes
    (rounds : Nat)
    (launch : Launch)
    (path : SearchPath)
    (environment : Environment)
    (before : Descriptors) :
    (launch.spawn rounds path environment).Ensures usingPipes (fun _ _ _ => True) []
      before := by
  have widen := supervises_of_preparesOrCloses
  have resolves := (Bindings.completes_resolve launch).makes.mono widen
  have dropsReport : ∀ reader writer, (dropReportPipe reader writer).Makes supervises :=
    fun _ _ => (completes_dropReportPipe _ _).makes.mono widen
  have drops : ∀ bindings : Bindings, bindings.drop.Makes supervises :=
    fun bindings => bindings.completes_drop.makes.mono widen
  rw [spawn, Bindings.systemPipe_bind, Program.ensures_perform_bind]
  refine ⟨trivial, fun answer state _ => ?_⟩
  rcases answer with errno | ⟨reader, writer⟩
  · trivial
  dsimp only [Except.mapError]
  rw [Program.ensures_bind]
  refine (ensures_usingPipes_of_makes resolves _ state).mono ?_
  rintro later after (cause | bindings) -
  · have makes : (dropReportPipe reader writer >>= fun _ =>
        (pure (.error cause) : Program (Except LaunchError Handle))).Makes supervises :=
      Program.makes_bind (dropsReport reader writer) fun _ => trivial
    exact ensures_usingPipes_of_makes makes later after
  dsimp only
  cases ExecRequest.ofLaunch launch path environment with
  | error cause =>
      refine ensures_usingPipes_of_makes
        (Program.makes_bind (drops bindings) fun _ => ?_) later after
      exact Program.makes_bind (dropsReport reader writer) fun _ => trivial
  | ok request =>
      dsimp only
      rw [duplicate_eq]
      refine ⟨rfl, fun limit next _ => ⟨rfl, fun side forked answered => ?_⟩⟩
      rcases side with errno | (_ | process)
      · refine ensures_usingPipes_of_makes
          (Program.makes_bind (drops bindings) fun _ => ?_) _ forked
        exact Program.makes_bind (dropsReport reader writer) fun _ => trivial
      · exact absurd rfl answered.2
      · exact ensures_usingPipes_of_makes
          (makes_superviseStart rounds launch process reader writer bindings) _ forked

end Launch

/-! ## Pipes in order -/

/-- A new pipe takes two free numbers, and nothing else changes. -/
theorem Descriptors.slot?_openPipe_eq_some_iff
    {before : Descriptors}
    {reader writer : Descriptor}
    (freeReader : before.IsFree reader)
    (freeWriter : (before.openNext reader true freeReader).IsFree writer)
    (number : Descriptor)
    (slot : Slot) :
    ((before.openNext reader true freeReader).openNext writer true freeWriter).slot? number =
        some slot ↔
      number = reader ∧ slot = ⟨before.nextFile, true⟩ ∨
        number = writer ∧ slot = ⟨before.nextFile + 1, true⟩ ∨
          before.slot? number = some slot := by
  obtain ⟨different, wasFree⟩ := (isFree_openNext_iff freeReader true).mp freeWriter
  have isNext : (before.openNext reader true freeReader).nextFile = before.nextFile + 1 := rfl
  by_cases isWriter : number = writer
  · rw [isWriter, openNext_slot?_self, wasFree.1, isNext]
    simpa [different] using eq_comm
  rw [openNext_slot?_of_ne freeWriter true isWriter]
  by_cases isReader : number = reader
  · rw [isReader, openNext_slot?_self, freeReader.1]
    simpa [different.symm] using eq_comm
  · rw [openNext_slot?_of_ne freeReader true isReader]
    simp [isWriter, isReader]

/-- Some pipes are opened one after another. -/
inductive Descriptors.Opens :
    Descriptors → List (Descriptor × Descriptor) → Descriptors → Prop
  | nil (descriptors : Descriptors) : Opens descriptors [] descriptors
  | cons {before after : Descriptors} {reader writer : Descriptor}
      {pipes : List (Descriptor × Descriptor)}
      (freeReader : before.IsFree reader)
      (freeWriter : (before.openNext reader true freeReader).IsFree writer)
      (rest : Opens ((before.openNext reader true freeReader).openNext writer true
        freeWriter) pipes after) :
      Opens before ((reader, writer) :: pipes) after

namespace Descriptors.Opens

variable {before between after : Descriptors}
variable {first second pipes : List (Descriptor × Descriptor)}

theorem append (opensFirst : before.Opens first between)
    (opensSecond : between.Opens second after) :
    before.Opens (first ++ second) after := by
  induction opensFirst with
  | nil => exact opensSecond
  | cons freeReader freeWriter _ inductionHypothesis =>
      exact .cons freeReader freeWriter (inductionHypothesis opensSecond)

/-- What was open stays as it is. -/
theorem slot?_eq
    {number : Descriptor}
    {slot : Slot}
    (opens : before.Opens pipes after)
    (isSlot : before.slot? number = some slot) :
    after.slot? number = some slot := by
  induction opens with
  | nil => exact isSlot
  | cons freeReader freeWriter _ inductionHypothesis =>
      refine inductionHypothesis ?_
      exact (slot?_openPipe_eq_some_iff freeReader freeWriter _ _).mpr (.inr (.inr isSlot))

theorem nextFile_eq (opens : before.Opens pipes after) :
    after.nextFile = before.nextFile + 2 * pipes.length := by
  induction opens with
  | nil => rfl
  | @cons before after reader writer pipes freeReader freeWriter _ inductionHypothesis =>
      rw [inductionHypothesis, List.length_cons, Nat.mul_succ, Nat.add_comm _ 2]
      exact Nat.add_assoc before.nextFile 2 _

/-- The ends of the pipes stand for new files, in their order. -/
theorem slot?_of_getElem?
    {index : Nat}
    {reader writer : Descriptor}
    (opens : before.Opens pipes after)
    (isPipe : pipes[index]? = some (reader, writer)) :
    after.slot? reader = some ⟨before.nextFile + 2 * index, true⟩ ∧
      after.slot? writer = some ⟨before.nextFile + 2 * index + 1, true⟩ := by
  induction opens generalizing index with
  | nil => cases isPipe
  | @cons before after first second pipes freeReader freeWriter rest inductionHypothesis =>
      cases index with
      | zero =>
          cases isPipe
          constructor <;> refine rest.slot?_eq
            ((slot?_openPipe_eq_some_iff freeReader freeWriter _ _).mpr ?_)
          · exact .inl ⟨rfl, rfl⟩
          · exact .inr (.inl ⟨rfl, rfl⟩)
      | succ index =>
          obtain ⟨isReader, isWriter⟩ := inductionHypothesis isPipe
          rw [isReader, isWriter]
          change some (Slot.mk (before.nextFile + 1 + 1 + 2 * index) true) = _ ∧
            some (Slot.mk (before.nextFile + 1 + 1 + 2 * index + 1) true) = _
          have next : before.nextFile + 1 + 1 + 2 * index =
              before.nextFile + 2 * (index + 1) := by
            unfold FileId at *
            omega
          rw [next]
          exact ⟨rfl, rfl⟩

end Descriptors.Opens

/-! ## Binding the streams -/

theorem Bindings.ensures_bind_opens
    (stream : StandardStream)
    (redirection : Redirection)
    (history : List Event)
    (state : Descriptors) :
    (Bindings.bind (fun _ => Bindings.systemPipe) stream redirection).Ensures answering
      (fun _ after result => ∀ ends, result = .ok ends →
        ∃ pipes, BoundTo redirection pipes ends ∧ state.Opens pipes after)
      history state := by
  cases redirection with
  | descriptor number =>
      rintro _ ⟨⟩
      exact ⟨[], .caller number, .nil state⟩
  | pipe =>
      refine ⟨trivial, fun answer after answered => ?_⟩
      cases answer with
      | error errno => exact ⟨trivial, fun _ _ _ => nofun⟩
      | ok ends =>
          obtain ⟨reader, writer⟩ := ends
          obtain ⟨freeReader, freeWriter, rfl⟩ := answered
          rintro _ ⟨⟩
          exact ⟨[(reader, writer)], .pipe reader writer, .cons freeReader freeWriter (.nil _)⟩

theorem Bindings.ensures_bindError_opens
    (launch : Launch)
    (history : List Event)
    (state : Descriptors) :
    (Bindings.bindError (fun _ => Bindings.systemPipe) launch).Ensures answering
      (fun _ after result => ∀ ends, result = .ok ends →
        ∃ pipes, ErrorBoundTo launch pipes ends ∧ state.Opens pipes after)
      history state := by
  unfold Bindings.bindError
  cases merges : launch.mergesOutputs with
  | true =>
      rintro _ ⟨⟩
      exact ⟨[], by simp [ErrorBoundTo, merges], .nil state⟩
  | false =>
      simpa [ErrorBoundTo, merges] using
        Bindings.ensures_bind_opens .stderr launch.redirections.stderr history state

/-- Streams that can all be bound have been given new pipes in order. -/
theorem Launch.ensures_resolve_opens
    (launch : Launch)
    (history : List Event)
    (state : Descriptors) :
    (Bindings.resolve (fun _ => Bindings.systemPipe) launch).Ensures answering
      (fun _ after result => ∀ bindings, result = .ok bindings →
        ∃ pipes : List (Descriptor × Descriptor),
          pipes.length = launch.pipedStreams.length ∧ bindings = launch.bindings pipes ∧
            state.Opens pipes after)
      history state := by
  have fails : ∀ (cause : LaunchError) (program : Program Unit) (later : List Event)
      (after : Descriptors),
      (program >>= fun _ => (pure (.error cause) : Program (Except LaunchError Bindings))).Ensures
        answering (fun _ _ outcome => outcome = .error cause) later after := by
    intro cause program later after
    rw [Program.ensures_bind]
    exact (Program.ensures_anything trivial (fun _ _ _ => trivial) program later after).mono
      fun _ _ _ _ => rfl
  rw [Bindings.resolve, Program.ensures_bind]
  refine (Bindings.ensures_bind_opens .stdin _ history state).mono ?_
  rintro later first (cause | stdin) bound
  · rintro _ ⟨⟩
  obtain ⟨forStdin, stdinBound, opensFirst⟩ := bound stdin rfl
  rw [Program.ensures_bind]
  refine (Bindings.ensures_bind_opens .stdout _ later first).mono ?_
  rintro later second (cause | stdout) bound
  · refine (fails cause stdin.drop later second).mono ?_
    rintro _ _ _ rfl
    rintro _ ⟨⟩
  obtain ⟨forStdout, stdoutBound, opensSecond⟩ := bound stdout rfl
  rw [Program.ensures_bind]
  refine (Bindings.ensures_bindError_opens launch later second).mono ?_
  rintro later third (cause | stderr) bound
  · dsimp only
    rw [← bind_assoc]
    refine (fails cause (stdout.drop >>= fun _ => stdin.drop) later third).mono ?_
    rintro _ _ _ rfl
    rintro _ ⟨⟩
  obtain ⟨forStderr, stderrBound, opensThird⟩ := bound stderr rfl
  rintro _ ⟨⟩
  obtain ⟨sameLength, isBindings⟩ :=
    Launch.bindings_of_boundTo ⟨stdin, stdout, stderr⟩ stdinBound stdoutBound stderrBound
  exact ⟨_, sameLength, isBindings, opensFirst.append (opensSecond.append opensThird)⟩

/-- What has been prepared are the pipe for the report and those of the streams, in
order. -/
theorem Launch.Prepares.opens
    {launch : Launch}
    {before after : Descriptors}
    {events : List Event}
    {reader writer : Descriptor}
    {bindings : Bindings}
    (prepares : launch.Prepares before events reader writer bindings after) :
    ∃ pipes : List (Descriptor × Descriptor),
      pipes.length = launch.pipedStreams.length ∧ bindings = launch.bindings pipes ∧
        before.Opens ((reader, writer) :: pipes) after := by
  obtain ⟨opened, made, limit, ⟨freeReader, freeWriter, rfl⟩, resolves, -⟩ := prepares
  obtain ⟨pipes, sameLength, isBindings, opens⟩ :=
    (launch.ensures_resolve_opens [] _).of_runs resolves bindings rfl
  exact ⟨pipes, sameLength, isBindings, .cons freeReader freeWriter opens⟩

/-! ## The ends of the pipes -/

/-- The files of the two ends of a pipe. -/
structure PipeEnds where
  readEnd : FileId
  writeEnd : FileId
  deriving DecidableEq, Repr

namespace PipeEnds

/-- The ends of some pipes. -/
def files (pipes : List PipeEnds) : List FileId :=
  pipes.flatMap fun pipe => [pipe.readEnd, pipe.writeEnd]

/-- The end of some pipes that comes at a place, when each reader is followed by its
writer. -/
def file? (pipes : List PipeEnds) (place : Nat) : Option FileId :=
  pipes[place / 2]?.map fun pipe => if place % 2 = 0 then pipe.readEnd else pipe.writeEnd

variable {pipes more : List PipeEnds} {place : Nat} {file : FileId}

theorem mem_files :
    file ∈ files pipes ↔ ∃ pipe ∈ pipes, file = pipe.readEnd ∨ file = pipe.writeEnd := by
  simp [files]

theorem files_append : files (pipes ++ more) = files pipes ++ files more :=
  List.flatMap_append

/-- When all ends are different, no reader is a writer. -/
theorem readEnd_ne_writeEnd
    {reading writing : PipeEnds}
    (distinct : (files pipes).Nodup)
    (isReading : reading ∈ pipes)
    (isWriting : writing ∈ pipes) :
    reading.readEnd ≠ writing.writeEnd := by
  induction pipes with
  | nil => cases isReading
  | cons pipe pipes inductionHypothesis =>
      obtain ⟨notReader, distinct⟩ := List.nodup_cons.mp distinct
      obtain ⟨notWriter, distinct⟩ := List.nodup_cons.mp distinct
      rw [List.mem_cons] at isReading isWriting
      intro same
      rcases isReading with rfl | isReading
      · refine notReader (same ▸ ?_)
        rcases isWriting with rfl | isWriting
        · exact List.mem_cons_self
        · exact List.mem_cons_of_mem _ (mem_files.mpr ⟨writing, isWriting, .inr rfl⟩)
      · rcases isWriting with rfl | isWriting
        · exact notWriter (same ▸ mem_files.mpr ⟨reading, isReading, .inl rfl⟩)
        · exact inductionHypothesis distinct isReading isWriting same

theorem mem_files_of_file? (isFile : file? pipes place = some file) :
    file ∈ files pipes := by
  obtain ⟨pipe, isPipe, rfl⟩ := Option.map_eq_some_iff.mp isFile
  refine mem_files.mpr ⟨pipe, List.mem_of_getElem? isPipe, ?_⟩
  split
  · exact .inl rfl
  · exact .inr rfl

theorem file?_append (isFile : file? pipes place = some file) :
    file? (pipes ++ more) place = some file := by
  obtain ⟨pipe, isPipe, isEnd⟩ := Option.map_eq_some_iff.mp isFile
  refine Option.map_eq_some_iff.mpr ⟨pipe, ?_, isEnd⟩
  rw [List.getElem?_append_left (List.getElem?_eq_some_iff.mp isPipe).1, isPipe]

theorem file?_two_mul (index : Nat) :
    file? pipes (2 * index) = pipes[index]?.map readEnd := by
  rw [file?, Nat.mul_div_cancel_left index (by decide), Nat.mul_mod_right]
  rfl

theorem file?_two_mul_add_one (index : Nat) :
    file? pipes (2 * index + 1) = pipes[index]?.map writeEnd := by
  have half : (2 * index + 1) / 2 = index := by omega
  have odd : (2 * index + 1) % 2 = 1 := by omega
  rw [file?, half, odd]
  rfl

section Concat

/-! A pipe of two new files comes after all others. -/

variable {next : FileId}

theorem mem_files_concat :
    file ∈ files (pipes ++ [⟨next, next + 1⟩]) ↔
      file ∈ files pipes ∨ file = next ∨ file = next + 1 := by
  rw [files_append, List.mem_append]
  exact or_congr_right List.mem_pair

/-- An older file is an end of an older pipe. -/
theorem mem_files_of_lt
    (isEnd : file ∈ files (pipes ++ [⟨next, next + 1⟩]))
    (isOld : file < next) :
    file ∈ files pipes := by
  rcases mem_files_concat.mp isEnd with isEnd | rfl | rfl
  · exact isEnd
  · exact absurd isOld (Nat.lt_irrefl _)
  · exact absurd isOld (Nat.not_lt.mpr (Nat.le_succ _))

theorem lt_of_mem_files_concat
    (areMade : ∀ file ∈ files pipes, file < next) :
    ∀ file ∈ files (pipes ++ [⟨next, next + 1⟩]), file < next + 1 + 1 := by
  intro file isEnd
  rcases mem_files_concat.mp isEnd with isEnd | rfl | rfl
  · exact Nat.lt_succ_of_lt (Nat.lt_succ_of_lt (areMade file isEnd))
  · exact Nat.lt_succ_of_lt (Nat.lt_succ_self _)
  · exact Nat.lt_succ_self _

theorem nodup_files_concat
    (distinct : (files pipes).Nodup)
    (areMade : ∀ file ∈ files pipes, file < next) :
    (files (pipes ++ [⟨next, next + 1⟩])).Nodup := by
  rw [files_append]
  refine List.nodup_append.mpr ⟨distinct, by simp [files], ?_⟩
  rintro file isEnd other isNew rfl
  have isMade := areMade file isEnd
  rcases List.mem_pair.mp isNew with rfl | rfl
  · exact Nat.lt_irrefl _ isMade
  · exact Nat.not_lt.mpr (Nat.le_succ _) isMade

end Concat

end PipeEnds

namespace Launch

/-- The file of the child's end of a stream, when the pipes after the one for the report
are handed out to the streams in order. -/
def childFile? (launch : Launch) (pipes : List PipeEnds) (stream : StandardStream) :
    Option FileId :=
  ((launch.pipedStreams.zip pipes.tail).lookup stream).map fun pipe =>
    if stream = .stdin then pipe.readEnd else pipe.writeEnd

/-- What is found beside a key has its place in the list, and so has everything that
stands there in other lists. -/
theorem exists_place_of_lookup_zip
    {α β γ : Type}
    [BEq α]
    {keys : List α}
    {values : List β}
    {key : α}
    {value : β}
    (found : (keys.zip values).lookup key = some value) :
    ∃ place : Nat, values[place]? = some value ∧
      ∀ (others : List γ) (other : γ), others[place]? = some other →
        (keys.zip others).lookup key = some other := by
  induction keys generalizing values with
  | nil => cases found
  | cons first keys inductionHypothesis =>
      cases values with
      | nil => cases found
      | cons start values =>
          rw [List.zip_cons_cons, List.lookup_cons] at found
          split at found
          · next isFirst =>
            refine ⟨0, found, fun others other isOther => ?_⟩
            cases others with
            | nil => cases isOther
            | cons head rest => rw [List.zip_cons_cons, List.lookup_cons, isFirst, ← isOther]; rfl
          · next notFirst =>
            obtain ⟨place, isValue, beside⟩ := inductionHypothesis found
            refine ⟨place + 1, isValue, fun others other isOther => ?_⟩
            cases others with
            | nil => cases isOther
            | cons head rest =>
                rw [List.zip_cons_cons, List.lookup_cons, notFirst]
                exact beside rest other isOther

theorem childFile?_append
    {launch : Launch}
    {pipes : List PipeEnds}
    {stream : StandardStream}
    {file : FileId}
    (isFile : launch.childFile? pipes stream = some file)
    (more : List PipeEnds) :
    launch.childFile? (pipes ++ more) stream = some file := by
  obtain ⟨pipe, found, isEnd⟩ := Option.map_eq_some_iff.mp isFile
  obtain ⟨place, isPipe, beside⟩ := exists_place_of_lookup_zip found
  refine Option.map_eq_some_iff.mpr ⟨pipe, beside _ pipe ?_, isEnd⟩
  rw [List.getElem?_tail] at isPipe ⊢
  rw [List.getElem?_append_left (List.getElem?_eq_some_iff.mp isPipe).1, isPipe]

theorem exists_pipe_of_childFile?
    {launch : Launch}
    {pipes : List PipeEnds}
    {stream : StandardStream}
    {file : FileId}
    (isFile : launch.childFile? pipes stream = some file) :
    ∃ pipe ∈ pipes, file = if stream = .stdin then pipe.readEnd else pipe.writeEnd := by
  obtain ⟨pipe, found, isEnd⟩ := Option.map_eq_some_iff.mp isFile
  obtain ⟨before, after, isZip, -⟩ := List.lookup_eq_some_iff.mp found
  have isEntry : (stream, pipe) ∈ launch.pipedStreams.zip pipes.tail := by simp [isZip]
  exact ⟨pipe, List.mem_of_mem_tail (List.of_mem_zip isEntry).2, isEnd.symm⟩

theorem mem_files_of_childFile?
    {launch : Launch}
    {pipes : List PipeEnds}
    {stream : StandardStream}
    {file : FileId}
    (isFile : launch.childFile? pipes stream = some file) :
    file ∈ PipeEnds.files pipes := by
  obtain ⟨pipe, isPipe, rfl⟩ := exists_pipe_of_childFile? isFile
  refine PipeEnds.mem_files.mpr ⟨pipe, isPipe, ?_⟩
  split
  · exact .inl rfl
  · exact .inr rfl

/-- What a child reads from is no writer. -/
theorem ne_stdin_of_childFile?
    {launch : Launch}
    {pipes : List PipeEnds}
    {pipe : PipeEnds}
    {stream : StandardStream}
    (distinct : (PipeEnds.files pipes).Nodup)
    (isPipe : pipe ∈ pipes)
    (isFile : launch.childFile? pipes stream = some pipe.writeEnd) :
    stream ≠ .stdin := by
  rintro rfl
  obtain ⟨other, isOther, same⟩ := exists_pipe_of_childFile? isFile
  exact PipeEnds.readEnd_ne_writeEnd distinct isOther isPipe same.symm

theorem lookup_of_pipeEnd?
    {launch : Launch}
    {numbers : List (Descriptor × Descriptor)}
    {stream : StandardStream}
    {source : Descriptor}
    (isEnd : (launch.bindingOf numbers stream).pipeEnd? stream = some source) :
    ∃ reader writer, (launch.pipedStreams.zip numbers).lookup stream = some (reader, writer) ∧
      source = if stream = .stdin then reader else writer := by
  unfold bindingOf at isEnd
  split at isEnd
  · cases isEnd
  · cases isEnd
  · split at isEnd
    · next reader writer found =>
      refine ⟨reader, writer, found, ?_⟩
      cases stream <;> exact (Option.some.inj isEnd).symm
    · cases isEnd

/-- When a start duplicates the process, the child's ends of its pipes stand for the
files that are the child's. -/
theorem exists_childFile?_of_mem_pipeEnds
    {launch : Launch}
    {numbers : List (Descriptor × Descriptor)}
    {pipes : List PipeEnds}
    {own : Descriptors}
    {reader writer source : Descriptor}
    (opens : blank.Opens ((reader, writer) :: numbers) own)
    (sameLength : pipes.length = numbers.length + 1)
    (isEnd : source ∈ (launch.bindings numbers).pipeEnds) :
    ∃ stream slot file, own.slot? source = some slot ∧
      PipeEnds.file? pipes slot.file = some file ∧
        launch.childFile? pipes stream = some file := by
  have isStream : ∃ stream,
      (launch.bindingOf numbers stream).pipeEnd? stream = some source := by
    obtain ⟨held?, isMember, rfl⟩ := List.mem_filterMap.mp isEnd
    simp only [bindings, List.mem_cons, List.not_mem_nil, or_false] at isMember
    rcases isMember with isStdin | isStdout | isStderr
    · exact ⟨.stdin, isStdin.symm⟩
    · exact ⟨.stdout, isStdout.symm⟩
    · exact ⟨.stderr, isStderr.symm⟩
  obtain ⟨stream, isEnd⟩ := isStream
  obtain ⟨first, second, found, rfl⟩ := lookup_of_pipeEnd? isEnd
  obtain ⟨place, isPipe, beside⟩ := exists_place_of_lookup_zip found
  have isAt : ((reader, writer) :: numbers)[place + 1]? = some (first, second) := isPipe
  obtain ⟨standsFirst, standsSecond⟩ := opens.slot?_of_getElem? isAt
  have inRange : place + 1 < pipes.length := by
    rw [sameLength]
    exact Nat.succ_lt_succ (List.getElem?_eq_some_iff.mp isPipe).1
  have isMade : pipes[place + 1]? = some pipes[place + 1] := List.getElem?_eq_getElem inRange
  have isChilds := beside pipes.tail pipes[place + 1] (by rw [List.getElem?_tail, isMade])
  have start : blank.nextFile + 2 * (place + 1) = 2 * (place + 1) := Nat.zero_add _
  rw [start] at standsFirst standsSecond
  refine ⟨stream, ?_⟩
  rw [childFile?, isChilds]
  by_cases isStdin : stream = .stdin
  · rw [if_pos isStdin]
    refine ⟨_, pipes[place + 1].readEnd, standsFirst, ?_, by simp [isStdin]⟩
    rw [PipeEnds.file?_two_mul, isMade]
    rfl
  · rw [if_neg isStdin]
    refine ⟨_, pipes[place + 1].writeEnd, standsSecond, ?_, by simp [isStdin]⟩
    rw [PipeEnds.file?_two_mul_add_one, isMade]
    rfl

end Launch
end ChildProcess
