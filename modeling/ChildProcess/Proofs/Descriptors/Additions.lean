import ChildProcess.Program.Transfer
import ChildProcess.Proofs.Descriptors.Answers

/-!
# Accounting for descriptors

What a process has opened since some moment is kept in a list of owned numbers.
`Descriptors.Adds` says that the list is the whole difference to that moment: the
owned numbers are new, and every other number stands for what it stood for.  Pipes
put their two ends on the list, and closing takes a number off it.  A program that
is accounted for (`Descriptors.accounting`) never closes a number that was in use
at that moment, nor one that is not in use.
-/

namespace ChildProcess

/-- The answers to the calls for pipes among some events. -/
def pipeAnswers (events : List Event) :
    List (Except Errno (Descriptor × Descriptor)) :=
  events.filterMap fun event =>
    match event with
    | ⟨.pipe, answer⟩ => some answer
    | _ => none

@[simp] theorem pipeAnswers_nil : pipeAnswers [] = [] := rfl

@[simp] theorem pipeAnswers_append (first second : List Event) :
    pipeAnswers (first ++ second) = pipeAnswers first ++ pipeAnswers second :=
  List.filterMap_append

@[simp] theorem pipeAnswers_pipe
    (answer : Except Errno (Descriptor × Descriptor))
    (events : List Event) :
    pipeAnswers (⟨.pipe, answer⟩ :: events) = answer :: pipeAnswers events := rfl

theorem pipeAnswers_cons_of_ne
    {request : Call}
    (answer : request.Answer)
    (events : List Event)
    (noPipe : request ≠ .pipe) :
    pipeAnswers (⟨request, answer⟩ :: events) = pipeAnswers events := by
  cases request <;> first | rfl | exact absurd rfl noPipe

namespace Descriptors

/-- Some owned numbers are all that has been added since a moment.  They are
different, close on execution, and each is the only one that stands for its file. -/
structure Adds (before : Descriptors) (owned : List Descriptor)
    (after : Descriptors) : Prop where
  distinct : owned.Nodup
  isNew : ∀ number ∈ owned, before.slot? number = none
  isHeld : ∀ number ∈ owned, ∃ file, after.slot? number = some ⟨file, true⟩
  isOnly : ∀ number ∈ owned, ∀ other,
    after.file? other = after.file? number → other = number
  keeps : ∀ number, number ∉ owned → after.slot? number = before.slot? number

namespace Adds

variable {before between after : Descriptors} {owned : List Descriptor}

theorem refl (descriptors : Descriptors) : descriptors.Adds [] descriptors where
  distinct := List.nodup_nil
  isNew := by simp
  isHeld := by simp
  isOnly := by simp
  keeps _ _ := rfl

theorem slot?_eq (adds : before.Adds [] after) : after.slot? = before.slot? :=
  funext fun number => adds.keeps number (by simp)

theorem isOpen
    (adds : before.Adds owned after)
    {number : Descriptor}
    (isOwned : number ∈ owned) :
    after.IsOpen number := by
  obtain ⟨file, held⟩ := adds.isHeld number isOwned
  simp [IsOpen, held]

theorem perm
    {other : List Descriptor}
    (adds : before.Adds owned after)
    (same : owned.Perm other) :
    before.Adds other after where
  distinct := same.nodup_iff.mp adds.distinct
  isNew number isOwned := adds.isNew number (same.mem_iff.mpr isOwned)
  isHeld number isOwned := adds.isHeld number (same.mem_iff.mpr isOwned)
  isOnly number isOwned := adds.isOnly number (same.mem_iff.mpr isOwned)
  keeps number notOwned :=
    adds.keeps number fun isOwned => notOwned (same.mem_iff.mp isOwned)

/-- A number that was in use is not owned. -/
theorem not_mem_of_isOpen
    (adds : before.Adds owned after)
    {number : Descriptor}
    (isOpen : before.IsOpen number) :
    number ∉ owned :=
  fun isOwned => isOpen (adds.isNew number isOwned)

/-- The only number of an owned number's file. -/
theorem onlyAt
    (adds : before.Adds owned after)
    {number : Descriptor}
    (isOwned : number ∈ owned) :
    ∃ file, after.slot? number = some ⟨file, true⟩ ∧ after.OnlyAt number file := by
  obtain ⟨file, held⟩ := adds.isHeld number isOwned
  have stands : after.file? number = some file := by simp [file?, held]
  refine ⟨file, held, fun other => ⟨fun same => ?_, fun same => same ▸ stands⟩⟩
  exact adds.isOnly number isOwned other (same.trans stands.symm)

/-- A number that is closed is no longer owned. -/
theorem close
    {number : Descriptor}
    (adds : before.Adds (number :: owned) between)
    (becomes : between.Becomes number none after) :
    before.Adds owned after := by
  obtain ⟨notOwned, distinct⟩ := List.nodup_cons.mp adds.distinct
  have differs : ∀ other ∈ owned, other ≠ number := by
    intro other isOwned same
    exact notOwned (same ▸ isOwned)
  refine ⟨distinct, ?_, ?_, ?_, ?_⟩
  · intro other isOwned
    exact adds.isNew other (List.mem_cons_of_mem _ isOwned)
  · intro other isOwned
    rw [becomes.slot?_of_ne (differs other isOwned)]
    exact adds.isHeld other (List.mem_cons_of_mem _ isOwned)
  · intro other isOwned another sameFile
    obtain ⟨file, held⟩ := adds.isHeld other (List.mem_cons_of_mem _ isOwned)
    by_cases closed : another = number
    · -- A closed number stands for no file, so it shares none.
      rw [becomes.file?_of_ne (differs other isOwned), file?, file?, closed,
        becomes.slot?_self, held] at sameFile
      cases sameFile
    · rw [becomes.file?_of_ne closed,
        becomes.file?_of_ne (differs other isOwned)] at sameFile
      exact adds.isOnly other (List.mem_cons_of_mem _ isOwned) another sameFile
  · intro other isNotOwned
    by_cases closed : other = number
    · rw [closed, becomes.slot?_self]
      exact (adds.isNew number (by simp)).symm
    · rw [becomes.slot?_of_ne closed]
      exact adds.keeps other (by simp [closed, isNotOwned])

/-- A new file that closes on execution is owned. -/
theorem openNext
    {number : Descriptor}
    (adds : before.Adds owned between)
    (free : between.IsFree number) :
    before.Adds (number :: owned) (between.openNext number true free) := by
  have notOwned : number ∉ owned := fun isOwned => adds.isOpen isOwned free.1
  have differs : ∀ other ∈ owned, other ≠ number := by
    intro other isOwned same
    exact notOwned (same ▸ isOwned)
  have newFile : (between.openNext number true free).file? number =
      some between.nextFile := by
    rw [file?, openNext_slot?_self]
    rfl
  refine ⟨List.nodup_cons.mpr ⟨notOwned, adds.distinct⟩, ?_, ?_, ?_, ?_⟩
  · intro other isOwned
    rcases List.mem_cons.mp isOwned with rfl | isOwned
    · rw [← adds.keeps other notOwned, free.1]
    · exact adds.isNew other isOwned
  · intro other isOwned
    rcases List.mem_cons.mp isOwned with rfl | isOwned
    · exact ⟨_, openNext_slot?_self free true⟩
    · rw [openNext_slot?_of_ne free true (differs other isOwned)]
      exact adds.isHeld other isOwned
  · intro other isOwned another sameFile
    rcases List.mem_cons.mp isOwned with rfl | isOwned
    · by_contra differ
      -- Before the call, no number stood for the file that is made next.
      rw [newFile, openNext_file?_of_ne free true differ] at sameFile
      exact Nat.lt_irrefl _ (file?_lt_nextFile sameFile)
    · rw [openNext_file?_of_ne free true (differs other isOwned)] at sameFile
      by_cases same : another = number
      · rw [same, newFile] at sameFile
        exact absurd (file?_lt_nextFile sameFile.symm) (Nat.lt_irrefl _)
      · rw [openNext_file?_of_ne free true same] at sameFile
        exact adds.isOnly other isOwned another sameFile
  · intro other isNotOwned
    rw [List.mem_cons, not_or] at isNotOwned
    rw [openNext_slot?_of_ne free true isNotOwned.1]
    exact adds.keeps other isNotOwned.2

end Adds

/-! ## Accounted programs -/

/-- Only what has been opened since a moment, and is still open, may be closed. -/
def mayClose (before : Descriptors) (_ : List Event) (state : Descriptors) :
    Call → Prop
  | .close number => before.slot? number = none ∧ state.IsOpen number
  | _ => True

/-- The circumstances under which descriptors are accounted for. -/
abbrev accounting (before : Descriptors) : Setting Descriptors where
  answers := Answers
  allows := before.mayClose

/-- Afterwards some numbers are owned, and no pipe has been made meanwhile. -/
def leaves (before : Descriptors) (owned : List Descriptor) (history : List Event)
    {α : Type} (later : List Event) (after : Descriptors) (_ : α) : Prop :=
  before.Adds owned after ∧ pipeAnswers later = pipeAnswers history

section Accounting

variable {before state : Descriptors} {owned between : List Descriptor}
variable {history : List Event} {α β : Type}

theorem leaves_of_adds
    (adds : before.Adds owned state)
    (value : α) :
    before.leaves owned history history state value :=
  ⟨adds, rfl⟩

/-- A program that leaves what another one starts with is followed by that one. -/
theorem ensures_bind_of_leaves
    {program : Program α}
    {next : α → Program β}
    {result : List Event → Descriptors → β → Prop}
    (first : program.Ensures before.accounting (before.leaves between history)
      history state)
    (second : ∀ later after value,
      before.Adds between after → pipeAnswers later = pipeAnswers history →
        (next value).Ensures before.accounting result later after) :
    (program >>= next).Ensures before.accounting result history state := by
  rw [Program.ensures_bind]
  refine first.mono ?_
  rintro later after value ⟨adds, noPipe⟩
  exact second later after value adds noPipe

/-- What is left does not depend on where the history began. -/
theorem ensures_leaves_of_eq
    {program : Program α}
    {earlier : List Event}
    (ensures : program.Ensures before.accounting (before.leaves owned history)
      history state)
    (noPipe : pipeAnswers history = pipeAnswers earlier) :
    program.Ensures before.accounting (before.leaves owned earlier) history state := by
  refine ensures.mono ?_
  rintro later after value ⟨adds, same⟩
  exact ⟨adds, same.trans noPipe⟩

/-- One of several programs that leave some numbers owned, and one that goes on from
there. -/
theorem ensures_leaves_bind
    {program : Program α}
    {next : α → Program β}
    (first : program.Ensures before.accounting (before.leaves between history)
      history state)
    (second : ∀ later after value, before.Adds between after →
      (next value).Ensures before.accounting (before.leaves owned later) later after) :
    (program >>= next).Ensures before.accounting (before.leaves owned history)
      history state :=
  ensures_bind_of_leaves first fun later after value adds noPipe =>
    ensures_leaves_of_eq (second later after value adds) noPipe

/-- An owned number is closed, and a failure may be logged. -/
theorem Adds.ensures_close
    {number : Descriptor}
    {next : Except Errno Unit → Program α}
    {result : List Event → Descriptors → α → Prop}
    (adds : before.Adds (number :: owned) state)
    (goesOn : ∀ later after answer,
      before.Adds owned after → pipeAnswers later = pipeAnswers history →
        (next answer).Ensures before.accounting result later after) :
    (Program.perform (.close number) >>= next).Ensures before.accounting result
      history state := by
  rw [Program.ensures_bind]
  refine ⟨⟨adds.isNew number (by simp), adds.isOpen (by simp)⟩, ?_⟩
  intro answer after answered
  exact goesOn _ after answer (adds.close answered) (by simp [pipeAnswers_cons_of_ne])

/-- A call that leaves the descriptors as they are. -/
theorem ensures_call_of_leavesDescriptors
    {request : Call}
    {next : request.Answer → Program α}
    {result : List Event → Descriptors → α → Prop}
    (leavesAll : leavesDescriptors request = true)
    (goesOn : ∀ later answer, pipeAnswers later = pipeAnswers history →
      (next answer).Ensures before.accounting result later state) :
    (Program.call request next).Ensures before.accounting result history state := by
  have noPipe : request ≠ .pipe := by
    rintro rfl
    cases leavesAll
  refine ⟨?_, fun answer after answered => ?_⟩
  · cases request with
    | close => cases leavesAll
    | _ => trivial
  · obtain rfl := eq_of_answers leavesAll answered
    exact goesOn _ answer (by simp [pipeAnswers_cons_of_ne answer [] noPipe])

theorem ensures_log
    {level : LogLevel}
    {topic? : Option LogTopic}
    {message : String}
    {next : Unit → Program α}
    {result : List Event → Descriptors → α → Prop}
    (goesOn : ∀ later, pipeAnswers later = pipeAnswers history →
      (next ()).Ensures before.accounting result later state) :
    (Program.log level topic? message >>= next).Ensures before.accounting result
      history state :=
  ensures_call_of_leavesDescriptors rfl fun later _ noPipe => goesOn later noPipe

/-- A program that only makes calls of this kind leaves what is owned. -/
theorem Adds.ensures_of_makes
    {program : Program α}
    (adds : before.Adds owned state)
    (makes : program.Makes fun request => leavesDescriptors request = true)
    (history : List Event) :
    program.Ensures before.accounting (before.leaves owned history) history state := by
  induction program generalizing history with
  | done value => exact leaves_of_adds adds value
  | exhausted => trivial
  | call request resume inductionHypothesis =>
      refine ensures_call_of_leavesDescriptors makes.1 fun later answer noPipe => ?_
      exact ensures_leaves_of_eq
        (inductionHypothesis answer (makes.2 answer) later) noPipe

/-- Giving up a descriptor takes it off the list. -/
theorem Adds.ensures_dropDescriptor
    (held? : Option Descriptor)
    (adds : before.Adds (held?.toList ++ owned) state)
    (history : List Event) :
    (dropDescriptor held?).Ensures before.accounting (before.leaves owned history)
      history state := by
  cases held? with
  | none => exact leaves_of_adds adds ()
  | some number =>
      refine adds.ensures_close fun later after answer adds noPipe => ?_
      cases answer with
      | ok => exact ⟨adds, noPipe⟩
      | error errno =>
          refine ensures_call_of_leavesDescriptors rfl fun later _ same => ?_
          exact ⟨adds, same.trans noPipe⟩

end Accounting
end Descriptors
end ChildProcess
