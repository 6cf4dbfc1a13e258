import ChildProcess.Proofs.Spawn.Conduct
import ChildProcess.Proofs.Spawn.Supervision

/-!
# The two sides of a start

After the duplication two processes go on side by side, each with its own descriptors,
and share a pipe, which comes to its end when neither of them can write to it any more.
What the parent has read and what is still in the pipe is always what the child has
written, and the parent sees the end only of a child that has become another program or
has said everything.  Whichever of the two is faster, the parent comes to an answer, and
the answer is true of the child.
-/

namespace ChildProcess

open Descriptors

/-! ## Two processes and a pipe -/

/-- What has become of a child. -/
inductive ChildLife
  | running (program : Program (Except LaunchError Handle))
  /-- It is another program now. -/
  | replaced
  /-- It has ended, and nobody has waited for it. -/
  | ended
  /-- It has ended, and has been waited for. -/
  | collected

/-- Waiting for a child is interrupted, or comes to its end when the child has. -/
def ChildLife.Collects (before : ChildLife)
    (answer : Except Errno (ProcessId × StatusWord)) (after : ChildLife) : Prop :=
  answer = .error Errno.EINTR ∧ after = before ∨
    answer ≠ .error Errno.EINTR ∧ before = .ended ∧ after = .collected

/-- A parent, its child, and what is in the pipe between them. -/
structure Sides where
  parent : Program (Except LaunchError Handle)
  parentSide : Side
  /-- What the parent has done since the duplication. -/
  parentEvents : List Event
  child : ChildLife
  childSide : Side
  /-- What the child has done since the duplication. -/
  childEvents : List Event
  pipe : Bytes

namespace Sides

/-- The child, or the program that it has become, has a descriptor for a file. -/
def ChildHolds (sides : Sides) (file : FileId) : Prop :=
  match sides.child with
  | .running _ => ∃ number, sides.childSide.descriptors.file? number = some file
  | .replaced =>
      ∃ number slot, sides.childSide.descriptors.afterExecution number = some slot ∧
        slot.file = file
  | .ended | .collected => False

/-- Somebody has a descriptor for a file. -/
def Holds (sides : Sides) (file : FileId) : Prop :=
  (∃ number, sides.parentSide.descriptors.file? number = some file) ∨
    sides.ChildHolds file

/-- Reading takes some of the bytes that are in the pipe.  When there are none, it waits
as long as somebody can write. -/
def Drains (sides : Sides) (writeEnd : FileId) (answer : Except Errno Bytes)
    (left : Bytes) : Prop :=
  match answer with
  | .error _ => left = sides.pipe
  | .ok [] => sides.pipe = [] ∧ left = [] ∧ ¬sides.Holds writeEnd
  | .ok bytes => sides.pipe = bytes ++ left

/-- What the pipe gains from an attempt to write. -/
def gained (data : Bytes) : Except Errno Nat → Bytes
  | .ok count => data.take count
  | .error _ => []

/-- One of the two processes takes a step. -/
inductive Step (process : ProcessId) (readEnd writeEnd : FileId) : Sides → Sides → Prop
  | parentCalls {sides : Sides} {request : Call}
      {resume : request.Answer → Program (Except LaunchError Handle)}
      {answer : request.Answer} {next : Side}
      (isNext : sides.parent = .call request resume)
      (isPrivate : IsPrivate request)
      (answered : sides.parentSide.Answers request answer next) :
      Step process readEnd writeEnd sides
        { sides with
          parent := resume answer
          parentSide := next
          parentEvents := sides.parentEvents ++ [⟨request, answer⟩] }
  | parentReads {sides : Sides} {number : Descriptor} {count : Nat}
      {resume : Except Errno Bytes → Program (Except LaunchError Handle)}
      {answer : Except Errno Bytes} {next : Side} {left : Bytes}
      (isNext : sides.parent = .call (.read number count) resume)
      (isPipe : sides.parentSide.descriptors.file? number = some readEnd)
      (answered : sides.parentSide.Answers (.read number count) answer next)
      (drains : sides.Drains writeEnd answer left) :
      Step process readEnd writeEnd sides
        { sides with
          parent := resume answer
          parentSide := next
          parentEvents := sides.parentEvents ++ [⟨.read number count, answer⟩]
          pipe := left }
  | parentCollects {sides : Sides}
      {resume : Except Errno (ProcessId × StatusWord) →
        Program (Except LaunchError Handle)}
      {answer : Except Errno (ProcessId × StatusWord)} {next : Side} {child : ChildLife}
      (isNext : sides.parent = .call (.collect process .untilEnd) resume)
      (answered : sides.parentSide.Answers (.collect process .untilEnd) answer next)
      (collects : sides.child.Collects answer child) :
      Step process readEnd writeEnd sides
        { sides with
          parent := resume answer
          parentSide := next
          parentEvents := sides.parentEvents ++ [⟨.collect process .untilEnd, answer⟩]
          child := child }
  | childCalls {sides : Sides} {request : Call}
      {resume : request.Answer → Program (Except LaunchError Handle)}
      {answer : request.Answer} {next : Side}
      (isNext : sides.child = .running (.call request resume))
      (isPrivate : IsPrivate request)
      (answered : sides.childSide.Answers request answer next) :
      Step process readEnd writeEnd sides
        { sides with
          child := .running (resume answer)
          childSide := next
          childEvents := sides.childEvents ++ [⟨request, answer⟩] }
  | childWrites {sides : Sides} {number : Descriptor} {data : Bytes}
      {resume : Except Errno Nat → Program (Except LaunchError Handle)}
      {answer : Except Errno Nat} {next : Side}
      (isNext : sides.child = .running (.call (.write number data) resume))
      (isPipe : sides.childSide.descriptors.file? number = some writeEnd)
      (answered : sides.childSide.Answers (.write number data) answer next) :
      Step process readEnd writeEnd sides
        { sides with
          child := .running (resume answer)
          childSide := next
          childEvents := sides.childEvents ++ [⟨.write number data, answer⟩]
          pipe := sides.pipe ++ gained data answer }
  | childBecomes {sides : Sides} {path : Bytes} {arguments environment : List Bytes}
      {resume : Errno → Program (Except LaunchError Handle)}
      (isNext : sides.child = .running (.call (.execute path arguments environment) resume)) :
      Step process readEnd writeEnd sides { sides with child := .replaced }
  | childEnds {sides : Sides} {code : Int}
      {resume : Empty → Program (Except LaunchError Handle)}
      (isNext : sides.child = .running (.call (.exit code) resume)) :
      Step process readEnd writeEnd sides { sides with child := .ended }

/-- The parent has come to an answer that is true of the child: either the child has
become another program, or it has been waited for and the answer names what has made it
fail. -/
def Concluded (launch : Launch) (request : ExecRequest) (writer : Descriptor)
    (sides : Sides) : Prop :=
  ∃ outcome, sides.parent = .done outcome ∧
    ((∃ handle, outcome = .ok handle) ↔ sides.child = .replaced) ∧
    (sides.child ≠ .replaced →
      sides.child = .collected ∧
        ∃ errno steps reports, sides.childEvents = steps ++ reports ∧
          Child.Fails request writer steps errno ∧
          (∀ event ∈ reports, Child.isReporting event.1) ∧
          outcome = .error (.execution (launch.program?.getD "") (.os errno)))

/-! ## What always holds -/

/-- The child conducts itself well, or has come to an end of which nothing more is to be
heard. -/
def ChildIsSound (request : ExecRequest) (writer : Descriptor) (writeEnd : FileId)
    (sides : Sides) : Prop :=
  match sides.child with
  | .running program =>
      program.Ensures (Child.behaving request writer writeEnd) (fun _ _ _ => False)
        sides.childEvents sides.childSide
  | .replaced => sent sides.childEvents = [] ∧ ¬sides.ChildHolds writeEnd
  | .ended | .collected => ∃ errno, Child.Tells request writer errno [] sides.childEvents

/-- Both sides do what they should, and what the parent has learnt is true. -/
structure Consistent (launch : Launch) (request : ExecRequest) (process : ProcessId)
    (writer : Descriptor) (readEnd writeEnd : FileId) (sides : Sides) : Prop where
  parent : sides.parent.Ensures (guiding process readEnd writeEnd)
    (fun later _ outcome => launch.Concludes process later outcome)
    sides.parentEvents sides.parentSide
  child : sides.ChildIsSound request writer writeEnd
  bytes : received sides.parentEvents ++ sides.pipe = sent sides.childEvents
  atEnd : EndSeen sides.parentEvents → sides.pipe = [] ∧ ¬sides.ChildHolds writeEnd
  isCollected : HasCollected process sides.parentEvents ↔ sides.child = .collected

section Consistency

variable {launch : Launch} {request : ExecRequest} {process : ProcessId}
variable {writer : Descriptor} {readEnd writeEnd : FileId} {sides next : Sides}

/-- A running child is about to make a call that it may make. -/
theorem Consistent.conducts
    {program : Program (Except LaunchError Handle)}
    (consistent : Consistent launch request process writer readEnd writeEnd sides)
    (isRunning : sides.child = .running program) :
    ∃ call resume, program = .call call resume ∧
      Child.Conducts request writer writeEnd sides.childEvents
        sides.childSide.descriptors call ∧
      ∀ answer after, sides.childSide.Answers call answer after →
        (resume answer).Ensures (Child.behaving request writer writeEnd)
          (fun _ _ _ => False) (sides.childEvents ++ [⟨call, answer⟩]) after := by
  have child := consistent.child
  simp only [ChildIsSound, isRunning] at child
  cases program with
  | done outcome => exact child.elim
  | exhausted => exact child.elim
  | call call resume => exact ⟨call, resume, rfl, child.1, child.2⟩

/-- A child that may still write has not let the parent see the end. -/
theorem Consistent.not_endSeen
    (consistent : Consistent launch request process writer readEnd writeEnd sides)
    {program : Program (Except LaunchError Handle)}
    (isRunning : sides.child = .running program)
    (only : sides.childSide.descriptors.OnlyAt writer writeEnd) :
    ¬EndSeen sides.parentEvents := by
  intro endSeen
  refine (consistent.atEnd endSeen).2 ?_
  simp only [ChildHolds, isRunning]
  exact ⟨writer, (only writer).mpr rfl⟩

theorem Consistent.not_hasCollected
    (consistent : Consistent launch request process writer readEnd writeEnd sides)
    {program : Program (Except LaunchError Handle)}
    (isRunning : sides.child = .running program) :
    ¬HasCollected process sides.parentEvents := by
  rw [consistent.isCollected, isRunning]
  exact nofun

/-! ### Steps of the parent -/

theorem Consistent.parentCalls
    {call : Call}
    {resume : call.Answer → Program (Except LaunchError Handle)}
    {answer : call.Answer}
    {after : Side}
    (consistent : Consistent launch request process writer readEnd writeEnd sides)
    (isNext : sides.parent = .call call resume)
    (isPrivate : IsPrivate call)
    (answered : sides.parentSide.Answers call answer after) :
    Consistent launch request process writer readEnd writeEnd
      { sides with
        parent := resume answer
        parentSide := after
        parentEvents := sides.parentEvents ++ [⟨call, answer⟩] } := by
  have ensures := consistent.parent
  rw [isNext] at ensures
  have quiet : Quiet process sides.parentEvents _ :=
    .append isPrivate answer sides.parentEvents
  refine ⟨ensures.2 answer after answered, consistent.child, ?_, ?_, ?_⟩
  · rw [quiet.received]
    exact consistent.bytes
  · rw [quiet.endSeen]
    exact consistent.atEnd
  · rw [quiet.hasCollected]
    exact consistent.isCollected

theorem Drains.pipe_eq
    {answer : Except Errno Bytes}
    {left : Bytes}
    (drains : sides.Drains writeEnd answer left)
    (number : Descriptor)
    (count : Nat) :
    sides.pipe = received [⟨.read number count, answer⟩] ++ left := by
  rcases answer with errno | (_ | ⟨byte, rest⟩)
  · exact Eq.symm drains
  · exact drains.1.trans drains.2.1.symm
  · exact drains.trans (congrArg (· ++ left) (List.append_nil _).symm)

theorem Consistent.parentReads
    {number : Descriptor}
    {count : Nat}
    {resume : Except Errno Bytes → Program (Except LaunchError Handle)}
    {answer : Except Errno Bytes}
    {after : Side}
    {left : Bytes}
    (consistent : Consistent launch request process writer readEnd writeEnd sides)
    (isNext : sides.parent = .call (.read number count) resume)
    (answered : sides.parentSide.Answers (.read number count) answer after)
    (drains : sides.Drains writeEnd answer left) :
    Consistent launch request process writer readEnd writeEnd
      { sides with
        parent := resume answer
        parentSide := after
        parentEvents := sides.parentEvents ++ [⟨.read number count, answer⟩]
        pipe := left } := by
  have ensures := consistent.parent
  rw [isNext] at ensures
  have noCollecting : ∀ child mode, Call.read number count ≠ .collect child mode := nofun
  have pipe := drains.pipe_eq number count
  refine ⟨ensures.2 answer after answered, consistent.child, ?_, fun endSeen => ?_, ?_⟩
  · rw [received_append, List.append_assoc, ← pipe]
    exact consistent.bytes
  · rw [endSeen_append] at endSeen
    rcases endSeen with earlier | ⟨_, _, isMember⟩
    · obtain ⟨isEmpty, notHeld⟩ := consistent.atEnd earlier
      exact ⟨(List.append_eq_nil_iff.mp (pipe.symm.trans isEmpty)).2, notHeld⟩
    · cases List.mem_singleton.mp isMember
      exact ⟨drains.2.1, fun held => drains.2.2 (.inr held)⟩
  · rw [hasCollected_append, or_iff_left (not_hasCollected_of_ne noCollecting)]
    exact consistent.isCollected

theorem Consistent.parentCollects
    {resume : Except Errno (ProcessId × StatusWord) → Program (Except LaunchError Handle)}
    {answer : Except Errno (ProcessId × StatusWord)}
    {after : Side}
    {child : ChildLife}
    (consistent : Consistent launch request process writer readEnd writeEnd sides)
    (isNext : sides.parent = .call (.collect process .untilEnd) resume)
    (answered : sides.parentSide.Answers (.collect process .untilEnd) answer after)
    (collects : sides.child.Collects answer child) :
    Consistent launch request process writer readEnd writeEnd
      { sides with
        parent := resume answer
        parentSide := after
        parentEvents := sides.parentEvents ++ [⟨.collect process .untilEnd, answer⟩]
        child := child } := by
  have ensures := consistent.parent
  rw [isNext] at ensures
  have noReading : ∀ number count,
      Call.collect process .untilEnd ≠ .read number count := nofun
  have bytes : received (sides.parentEvents ++ [⟨.collect process .untilEnd, answer⟩]) ++
      sides.pipe = sent sides.childEvents := by
    rw [received_append, received_of_ne answer noReading, List.append_nil]
    exact consistent.bytes
  have endSeen : EndSeen (sides.parentEvents ++ [⟨.collect process .untilEnd, answer⟩]) ↔
      EndSeen sides.parentEvents := by
    rw [endSeen_append, or_iff_left (not_endSeen_of_ne noReading)]
  rcases collects with ⟨interrupted, rfl⟩ | ⟨finished, isEnded, rfl⟩
  · refine ⟨ensures.2 answer after answered, consistent.child, bytes, ?_, ?_⟩
    · rw [endSeen]
      exact consistent.atEnd
    · rw [hasCollected_append, consistent.isCollected, or_iff_left]
      rintro ⟨other, isMember, finished⟩
      cases List.mem_singleton.mp isMember
      exact finished interrupted
  · refine ⟨ensures.2 answer after answered, ?_, bytes, fun ended => ⟨?_, id⟩, ?_⟩
    · have sound := consistent.child
      simp only [ChildIsSound, isEnded] at sound
      exact sound
    · exact (consistent.atEnd (endSeen.mp ended)).1
    · refine iff_of_true ?_ rfl
      exact ⟨answer, by simp, finished⟩

/-! ### Steps of the child -/

theorem Consistent.childCalls
    {call : Call}
    {resume : call.Answer → Program (Except LaunchError Handle)}
    {answer : call.Answer}
    {after : Side}
    (consistent : Consistent launch request process writer readEnd writeEnd sides)
    (isNext : sides.child = .running (.call call resume))
    (isPrivate : IsPrivate call)
    (answered : sides.childSide.Answers call answer after) :
    Consistent launch request process writer readEnd writeEnd
      { sides with
        child := .running (resume answer)
        childSide := after
        childEvents := sides.childEvents ++ [⟨call, answer⟩] } := by
  obtain ⟨_, _, same, conducts, goesOn⟩ := consistent.conducts isNext
  cases same
  have notEnd := consistent.not_endSeen isNext (Child.Conducts.onlyAt conducts isPrivate)
  have noWriting : ∀ number data, call ≠ .write number data := by
    rintro number data rfl
    exact isPrivate
  refine ⟨consistent.parent, goesOn answer after answered, ?_,
    fun endSeen => absurd endSeen notEnd, ?_⟩
  · rw [sent_append, sent_of_ne answer noWriting, List.append_nil]
    exact consistent.bytes
  · exact iff_of_false (consistent.not_hasCollected isNext) nofun

theorem gained_eq_sent
    (number : Descriptor)
    (data : Bytes)
    (answer : Except Errno Nat) :
    gained data answer = sent [⟨.write number data, answer⟩] := by
  cases answer with
  | ok count => exact (List.append_nil _).symm
  | error errno => rfl

theorem Consistent.childWrites
    {number : Descriptor}
    {data : Bytes}
    {resume : Except Errno Nat → Program (Except LaunchError Handle)}
    {answer : Except Errno Nat}
    {after : Side}
    (consistent : Consistent launch request process writer readEnd writeEnd sides)
    (isNext : sides.child = .running (.call (.write number data) resume))
    (answered : sides.childSide.Answers (.write number data) answer after) :
    Consistent launch request process writer readEnd writeEnd
      { sides with
        child := .running (resume answer)
        childSide := after
        childEvents := sides.childEvents ++ [⟨.write number data, answer⟩]
        pipe := sides.pipe ++ gained data answer } := by
  obtain ⟨_, _, same, conducts, goesOn⟩ := consistent.conducts isNext
  cases same
  have notEnd := consistent.not_endSeen isNext conducts.2.1
  refine ⟨consistent.parent, goesOn answer after answered, ?_,
    fun endSeen => absurd endSeen notEnd, ?_⟩
  · rw [sent_append, ← gained_eq_sent, ← List.append_assoc, consistent.bytes]
  · exact iff_of_false (consistent.not_hasCollected isNext) nofun

theorem Consistent.childBecomes
    {path : Bytes}
    {arguments environment : List Bytes}
    {resume : Errno → Program (Except LaunchError Handle)}
    (consistent : Consistent launch request process writer readEnd writeEnd sides)
    (isNext : sides.child = .running (.call (.execute path arguments environment) resume)) :
    Consistent launch request process writer readEnd writeEnd
      { sides with child := .replaced } := by
  obtain ⟨_, _, same, conducts, -⟩ := consistent.conducts isNext
  cases same
  obtain ⟨only, isSealed, noBytes⟩ := conducts
  have notEnd := consistent.not_endSeen isNext only
  refine ⟨consistent.parent, ⟨noBytes, ?_⟩, consistent.bytes,
    fun endSeen => absurd endSeen notEnd, ?_⟩
  · rintro ⟨number, slot, stays, isWriteEnd⟩
    rw [afterExecution, Option.filter_eq_some_iff] at stays
    obtain ⟨isSlot, staysOpen⟩ := stays
    -- The only number of the file is the sealed one, which does not stay open.
    obtain rfl : number = writer := by
      refine (only number).mp ?_
      rw [Descriptors.file?, isSlot, ← isWriteEnd]
      rfl
    rw [isSealed] at isSlot
    cases isSlot
    cases staysOpen
  · refine iff_of_false (consistent.not_hasCollected isNext) ?_
    rintro ⟨⟩

theorem Consistent.childEnds
    {code : Int}
    {resume : Empty → Program (Except LaunchError Handle)}
    (consistent : Consistent launch request process writer readEnd writeEnd sides)
    (isNext : sides.child = .running (.call (.exit code) resume)) :
    Consistent launch request process writer readEnd writeEnd
      { sides with child := .ended } := by
  obtain ⟨_, _, same, conducts, -⟩ := consistent.conducts isNext
  cases same
  obtain ⟨-, tells⟩ := conducts
  refine ⟨consistent.parent, tells, consistent.bytes, fun endSeen => ?_, ?_⟩
  · exact ⟨(consistent.atEnd endSeen).1, id⟩
  · exact iff_of_false (consistent.not_hasCollected isNext) nofun

/-- Whichever side takes a step, both sides stay consistent. -/
theorem Consistent.step
    (consistent : Consistent launch request process writer readEnd writeEnd sides)
    (step : Step process readEnd writeEnd sides next) :
    Consistent launch request process writer readEnd writeEnd next := by
  cases step with
  | parentCalls isNext isPrivate answered =>
      exact consistent.parentCalls isNext isPrivate answered
  | parentReads isNext isPipe answered drains =>
      exact consistent.parentReads isNext answered drains
  | parentCollects isNext answered collects =>
      exact consistent.parentCollects isNext answered collects
  | childCalls isNext isPrivate answered =>
      exact consistent.childCalls isNext isPrivate answered
  | childWrites isNext isPipe answered => exact consistent.childWrites isNext answered
  | childBecomes isNext => exact consistent.childBecomes isNext
  | childEnds isNext => exact consistent.childEnds isNext

/-! ## There is always a step -/

/-- A running child can take a step. -/
theorem Consistent.exists_step_of_running
    {program : Program (Except LaunchError Handle)}
    (consistent : Consistent launch request process writer readEnd writeEnd sides)
    (isRunning : sides.child = .running program) :
    ∃ next, Step process readEnd writeEnd sides next := by
  obtain ⟨call, resume, rfl, conducts, -⟩ := consistent.conducts isRunning
  have calls : IsPrivate call → ∃ next, Step process readEnd writeEnd sides next := by
    intro isPrivate
    obtain ⟨answer, after, answered⟩ := sides.childSide.exists_answers isPrivate
    exact ⟨_, .childCalls isRunning isPrivate answered⟩
  cases call with
  | execute => exact ⟨_, .childBecomes isRunning⟩
  | exit => exact ⟨_, .childEnds isRunning⟩
  | read | collect | fork => exact conducts.2.elim
  | write number data =>
      obtain ⟨rfl, only, nonempty, -⟩ := conducts
      have positive := List.length_pos_iff.mpr nonempty
      have answered : sides.childSide.Answers (.write number data) (.ok data.length)
          sides.childSide := ⟨rfl, ⟨positive, le_rfl⟩, rfl⟩
      exact ⟨_, .childWrites isRunning ((only number).mpr rfl) answered⟩
  | _ => exact calls trivial

/-- A parent that reads can take what is in the pipe or see its end, unless the child is
still running. -/
theorem Consistent.exists_step_of_reading
    {number : Descriptor}
    {count : Nat}
    {resume : Except Errno Bytes → Program (Except LaunchError Handle)}
    (consistent : Consistent launch request process writer readEnd writeEnd sides)
    (isNext : sides.parent = .call (.read number count) resume)
    (isPipe : sides.parentSide.descriptors.file? number = some readEnd)
    (noWriter : ∀ other, sides.parentSide.descriptors.file? other ≠ some writeEnd)
    (positive : 0 < count) :
    ∃ next, Step process readEnd writeEnd sides next := by
  have reads : ∀ answer : Except Errno Bytes, IsOrderly ⟨.read number count, answer⟩ →
      delay ⟨.read number count, answer⟩ = 0 →
        sides.parentSide.Answers (.read number count) answer sides.parentSide :=
    fun answer orderly noDelay => ⟨rfl, orderly, by rw [noDelay]; rfl⟩
  cases isPipeEmpty : sides.pipe with
  | cons byte rest =>
      have drains : sides.Drains writeEnd (.ok [byte]) rest := isPipeEmpty
      exact ⟨_, .parentReads isNext isPipe (reads (.ok [byte]) positive rfl) drains⟩
  | nil =>
      by_cases held : sides.ChildHolds writeEnd
      · -- Who can still write is a child that is running, for the other kinds cannot.
        cases isChild : sides.child with
        | running program => exact consistent.exists_step_of_running isChild
        | replaced =>
            have sound := consistent.child
            simp only [ChildIsSound, isChild] at sound
            exact absurd held sound.2
        | ended | collected =>
            simp only [ChildHolds, isChild] at held
      · have drains : sides.Drains writeEnd (.ok []) [] := by
          refine ⟨isPipeEmpty, rfl, ?_⟩
          rintro (⟨other, isWriteEnd⟩ | childHolds)
          · exact noWriter other isWriteEnd
          · exact held childHolds
        have empty : IsOrderly ⟨.read number count, .ok []⟩ := Nat.zero_le count
        exact ⟨_, .parentReads isNext isPipe (reads (.ok []) empty rfl) drains⟩

/-- A parent that waits can collect its child, unless the child is still running: what
the parent has read shows that the child has not become another program. -/
theorem Consistent.exists_step_of_collecting
    {resume : Except Errno (ProcessId × StatusWord) →
      Program (Except LaunchError Handle)}
    (consistent : Consistent launch request process writer readEnd writeEnd sides)
    (isNext : sides.parent = .call (.collect process .untilEnd) resume)
    (notCollected : ¬HasCollected process sides.parentEvents)
    (somethingRead : received sides.parentEvents ≠ []) :
    ∃ next, Step process readEnd writeEnd sides next := by
  cases isChild : sides.child with
  | running program => exact consistent.exists_step_of_running isChild
  | replaced =>
      have sound := consistent.child
      simp only [ChildIsSound, isChild] at sound
      have nothing := consistent.bytes.trans sound.1
      exact absurd (List.append_eq_nil_iff.mp nothing).1 somethingRead
  | ended =>
      have answered : sides.parentSide.Answers (.collect process .untilEnd)
          (.ok (process, .ofExit 127)) sides.parentSide := ⟨rfl, trivial, rfl⟩
      exact ⟨_, .parentCollects isNext answered (.inr ⟨nofun, isChild, rfl⟩)⟩
  | collected => exact absurd (consistent.isCollected.mpr isChild) notCollected

/-- As long as the parent has no answer, one of the two can take a step. -/
theorem Consistent.exists_step
    {call : Call}
    {resume : call.Answer → Program (Except LaunchError Handle)}
    (consistent : Consistent launch request process writer readEnd writeEnd sides)
    (isNext : sides.parent = .call call resume) :
    ∃ next, Step process readEnd writeEnd sides next := by
  have ensures := consistent.parent
  rw [isNext] at ensures
  have supervises := ensures.1
  have calls : IsPrivate call → ∃ next, Step process readEnd writeEnd sides next := by
    intro isPrivate
    obtain ⟨answer, after, answered⟩ := sides.parentSide.exists_answers isPrivate
    exact ⟨_, .parentCalls isNext isPrivate answered⟩
  cases call with
  | write | fork | exit => exact supervises.elim
  | read number count =>
      obtain ⟨isPipe, noWriter, positive⟩ := supervises
      exact consistent.exists_step_of_reading isNext isPipe noWriter positive
  | collect child mode =>
      obtain ⟨rfl, rfl, notCollected, somethingRead⟩ := supervises
      exact consistent.exists_step_of_collecting isNext notCollected somethingRead
  | _ => exact calls trivial

/-! ## The answer is true -/

/-- A child that lets the parent see the end of the pipe, and nothing before it, has
become another program. -/
theorem Consistent.isReplaced
    (consistent : Consistent launch request process writer readEnd writeEnd sides)
    (endSeen : EndSeen sides.parentEvents)
    (nothing : received sides.parentEvents = []) :
    sides.child = .replaced := by
  obtain ⟨isEmpty, notHeld⟩ := consistent.atEnd endSeen
  have silent : ¬∃ errno, Child.Tells request writer errno [] sides.childEvents := by
    rintro ⟨errno, -, bytes⟩
    rw [← consistent.bytes, nothing, isEmpty] at bytes
    cases bytes
  have sound := consistent.child
  cases isChild : sides.child with
  | running program =>
      obtain ⟨call, resume, rfl, conducts, -⟩ := consistent.conducts isChild
      rcases Child.Conducts.onlyAt_or_tells conducts with only | tells
      · exact absurd endSeen (consistent.not_endSeen isChild only)
      · exact absurd tells silent
  | replaced => rfl
  | ended | collected =>
      simp only [ChildIsSound, isChild] at sound
      exact absurd sound silent

/-- A parent that has read a whole error number, or all there is, has read what the child
has told. -/
theorem Consistent.received_eq
    {errno : Errno}
    (consistent : Consistent launch request process writer readEnd writeEnd sides)
    (tells : Child.Tells request writer errno [] sides.childEvents)
    (finished : (received sides.parentEvents).length = Report.length ∨
      EndSeen sides.parentEvents) :
    received sides.parentEvents = Report.encode errno := by
  have bytes := tells.bytes
  rw [List.append_nil, ← consistent.bytes] at bytes
  have isEmpty : sides.pipe = [] := by
    rcases finished with complete | endSeen
    · have lengths := congrArg List.length bytes
      rw [List.length_append, complete, Report.length_encode] at lengths
      exact List.length_eq_zero_iff.mp (Nat.left_eq_add.mp lengths.symm)
    · exact (consistent.atEnd endSeen).1
  rwa [isEmpty, List.append_nil] at bytes

/-- When the parent has an answer, it is true of the child. -/
theorem Consistent.concluded
    {outcome : Except LaunchError Handle}
    (consistent : Consistent launch request process writer readEnd writeEnd sides)
    (isDone : sides.parent = .done outcome) :
    sides.Concluded launch request writer := by
  have concludes : launch.Concludes process sides.parentEvents outcome := by
    have ensures := consistent.parent
    rwa [isDone] at ensures
  cases outcome with
  | ok handle =>
      have isReplaced := consistent.isReplaced concludes.1 concludes.2
      refine ⟨.ok handle, isDone, iff_of_true ⟨handle, rfl⟩ isReplaced, ?_⟩
      exact fun notReplaced => absurd isReplaced notReplaced
  | error cause =>
      obtain ⟨hasCollected, finished, -, isCause⟩ := concludes
      have isCollected := consistent.isCollected.mp hasCollected
      have sound := consistent.child
      simp only [ChildIsSound, isCollected] at sound
      obtain ⟨errno, tells⟩ := sound
      have isReport := consistent.received_eq tells finished
      have isCause := isCause errno (by rw [isReport, Report.decode_encode])
      obtain ⟨steps, reports, same, fails, reporting⟩ := tells.fails
      have notReplaced : sides.child ≠ .replaced := by
        rw [isCollected]
        exact nofun
      refine ⟨.error cause, isDone, iff_of_false nofun notReplaced, fun _ => ?_⟩
      exact ⟨isCollected, errno, steps, reports, same, fails, reporting, by rw [isCause]⟩

/-! ## In the end -/

/-- What a child still does, if it is running. -/
def childProgram? (sides : Sides) : Option (Program (Except LaunchError Handle)) :=
  match sides.child with
  | .running program => some program
  | .replaced | .ended | .collected => none

/-- A step goes on with what the parent does next, or with what the child does next, or
leaves a child that does nothing any more. -/
theorem Step.goesOn (step : Step process readEnd writeEnd sides next) :
    (∃ request resume answer, sides.parent = .call request resume ∧
        next.parent = resume answer) ∨
      next.parent = sides.parent ∧ ∃ program, sides.childProgram? = some program ∧
        (next.childProgram? = none ∨ ∃ request resume answer,
          program = .call request resume ∧ next.childProgram? = some (resume answer)) := by
  have runs : ∀ {program}, sides.child = .running program →
      sides.childProgram? = some program := fun isRunning => by
    rw [childProgram?, isRunning]
  cases step with
  | parentCalls isNext => exact .inl ⟨_, _, _, isNext, rfl⟩
  | parentReads isNext => exact .inl ⟨_, _, _, isNext, rfl⟩
  | parentCollects isNext => exact .inl ⟨_, _, _, isNext, rfl⟩
  | childCalls isNext => exact .inr ⟨rfl, _, runs isNext, .inr ⟨_, _, _, rfl, rfl⟩⟩
  | childWrites isNext => exact .inr ⟨rfl, _, runs isNext, .inr ⟨_, _, _, rfl, rfl⟩⟩
  | childBecomes isNext => exact .inr ⟨rfl, _, runs isNext, .inl rfl⟩
  | childEnds isNext => exact .inr ⟨rfl, _, runs isNext, .inl rfl⟩

theorem sideBySide :
    SideBySide (Step process readEnd writeEnd)
      (Consistent launch request process writer readEnd writeEnd) parent childProgram? where
  kept _ _ consistent step := consistent.step step
  possible _ _ _ consistent isNext := consistent.exists_step isNext
  goesOn _ _ _ step := step.goesOn

/-- Whatever the two sides do, the parent comes to an answer that is true. -/
theorem Consistent.eventually_concluded
    (consistent : Consistent launch request process writer readEnd writeEnd sides) :
    Eventually (Step process readEnd writeEnd) (Concluded launch request writer) sides := by
  refine sideBySide.eventually (fun _ _ consistent => consistent.concluded) ?_ consistent
  intro sides consistent isExhausted
  have ensures := consistent.parent
  rw [isExhausted] at ensures
  exact ensures

end Consistency

/-- The two sides right after the duplication. -/
def afterFork (side : Except Errno ForkSide → Program (Except LaunchError Handle))
    (process : ProcessId) (atFork : Descriptors) (parentDelays childDelays : Nat) :
    Sides where
  parent := side (.ok (.parent process))
  parentSide := ⟨atFork, parentDelays⟩
  parentEvents := []
  child := .running (side (.ok .child))
  childSide := ⟨atFork, childDelays⟩
  childEvents := []
  pipe := []

end Sides

namespace Launch

/-- The two sides are consistent when they begin. -/
theorem consistent_afterFork
    {atFork : Descriptors}
    {reader writer limit : Descriptor}
    {bindings : Bindings}
    {rounds parentDelays childDelays : Nat}
    {readEnd writeEnd : FileId}
    {request : ExecRequest}
    {sources : StandardStream → Descriptor}
    {files : StandardStream → FileId}
    (launch : Launch)
    (process : ProcessId)
    (sound : Child.Inheritance.IsSound
      ⟨request, reader, writer, bindings.childEnds, bindings.parentEnds, limit⟩
      writeEnd sources files atFork)
    (stands : atFork.file? reader = some readEnd)
    (enoughForParent : parentDelays < rounds)
    (enoughForChild : childDelays + Report.length ≤ rounds) :
    Sides.Consistent launch request process writer readEnd writeEnd
      (Sides.afterFork (launch.follow rounds request reader writer bindings limit) process
        atFork parentDelays childDelays) := by
  have different : reader ≠ writer := by
    rintro rfl
    exact sound.notSurplus (List.mem_cons_self ..)
  have behaves := Child.ensures_behaving ⟨atFork, childDelays⟩ sound enoughForChild
  refine ⟨?_, ?_, rfl, ?_, ?_⟩
  · exact launch.ensures_guiding bindings stands different sound.only enoughForParent
  · exact (Program.ensures_bind _ _ _ _ _).mpr
      (behaves.mono fun _ _ never => nomatch never)
  · rintro ⟨_, _, isMember⟩
    cases isMember
  · refine iff_of_false ?_ nofun
    rintro ⟨_, isMember, -⟩
    cases isMember

/-- How a start ends.  Once the process has been duplicated, and however often its two
sides are held up, the parent comes to an answer: a handle exactly if the child has become
another program, and otherwise, once the child has been waited for, the error number of
the first step that has failed. -/
theorem eventually_concluded_of_runs_spawn
    {rounds parentDelays childDelays : Nat}
    {launch : Launch}
    {path : SearchPath}
    {environment : Environment}
    {before atFork : Descriptors}
    {prior : List Event}
    {side : Except Errno ForkSide → Program (Except LaunchError Handle)}
    (forks : Program.Runs Answers (launch.spawn rounds path environment) before prior
      (.call .fork side) atFork)
    (callersOpen : ∀ stream number, launch.redirections.get stream = .descriptor number →
      (stream = .stderr → launch.mergesOutputs = false) → before.IsOpen number)
    (above : ∀ reader writer rest, prior = ⟨.pipe, .ok (reader, writer)⟩ :: rest →
      2 < writer)
    (enoughForParent : parentDelays < rounds)
    (enoughForChild : childDelays + Report.length ≤ rounds)
    (process : ProcessId) :
    ∃ reader writer bindings request readEnd writeEnd,
      launch.Prepares before prior reader writer bindings atFork ∧
        ExecRequest.ofLaunch launch path environment = .ok request ∧
        atFork.file? reader = some readEnd ∧ atFork.file? writer = some writeEnd ∧
        Eventually (Sides.Step process readEnd writeEnd)
          (Sides.Concluded launch request writer)
          (Sides.afterFork side process atFork parentDelays childDelays) := by
  obtain ⟨reader, writer, bindings, request, limit, prepares, accepted, rfl⟩ :=
    prepares_of_runs_spawn forks
  have aboveStandard : 2 < writer := by
    obtain ⟨_, _, _, -, -, isPrior⟩ := prepares
    exact above reader writer _ isPrior
  obtain ⟨writeEnd, sources, files, sound⟩ :=
    prepares.isSound callersOpen aboveStandard request limit
  obtain ⟨readEnd, held⟩ := prepares.adds.1.isHeld reader (by simp)
  have stands : atFork.file? reader = some readEnd := by
    rw [Descriptors.file?, held]
    rfl
  have consistent := launch.consistent_afterFork process sound stands enoughForParent
    enoughForChild
  exact ⟨reader, writer, bindings, request, readEnd, writeEnd, prepares, accepted, stands,
    (sound.only writer).mpr rfl, consistent.eventually_concluded⟩

/-- A start where either side is held up once. -/
theorem eventually_concluded_of_runs_spawn_with_delays :
    let launch : Launch :=
      { Launch.initial with
        commandLine := ["/bin/cat"]
        inheritsEnvironment := false
        redirections := ⟨.descriptor 0, .descriptor 1, .pipe⟩
        mergesOutputs := true }
    ∃ prior side atFork,
      Program.Runs Answers (launch.spawn 5 ⟨[]⟩ ⟨[]⟩) standard prior (.call .fork side)
          atFork ∧
        (∀ stream number, launch.redirections.get stream = .descriptor number →
          (stream = .stderr → launch.mergesOutputs = false) → standard.IsOpen number) ∧
        (∀ reader writer rest, prior = ⟨.pipe, .ok (reader, writer)⟩ :: rest →
          2 < writer) ∧
        1 < 5 ∧ 1 + Report.length ≤ 5 ∧
        ∃ reader writer bindings request readEnd writeEnd,
          launch.Prepares standard prior reader writer bindings atFork ∧
            ExecRequest.ofLaunch launch ⟨[]⟩ ⟨[]⟩ = .ok request ∧
            atFork.file? reader = some readEnd ∧ atFork.file? writer = some writeEnd ∧
            Eventually (Sides.Step 7 readEnd writeEnd)
              (Sides.Concluded launch request writer)
              (Sides.afterFork side 7 atFork 1 1) := by
  intro launch
  let atFork := standardAndPipe
  have asksLimit : atFork.Answers .descriptorLimit (1024 : Int) atFork := rfl
  have forks : ∃ side,
      Program.Runs Answers (launch.spawn 5 ⟨[]⟩ ⟨[]⟩) standard
        [⟨.pipe, .ok (3, 4)⟩, ⟨.descriptorLimit, (1024 : Int)⟩] (.call .fork side) atFork :=
    ⟨_, .call standard_answers_pipe <| .call asksLimit <| .stop _ _⟩
  obtain ⟨side, forks⟩ := forks
  have callersOpen : ∀ stream number,
      launch.redirections.get stream = .descriptor number →
        (stream = .stderr → launch.mergesOutputs = false) → standard.IsOpen number := by
    intro stream number isCaller isBound
    cases stream with
    | stdin | stdout =>
        cases isCaller
        exact nofun
    | stderr => cases isBound rfl
  have above : ∀ reader writer rest,
      [⟨.pipe, .ok (3, 4)⟩, ⟨.descriptorLimit, (1024 : Int)⟩] =
        (⟨.pipe, .ok (reader, writer)⟩ :: rest : List Event) → 2 < writer := by
    intro reader writer rest same
    cases same
    decide
  exact ⟨_, side, atFork, forks, callersOpen, above, by decide, by decide,
    eventually_concluded_of_runs_spawn forks callersOpen above (by decide) (by decide) 7⟩

end Launch
end ChildProcess
