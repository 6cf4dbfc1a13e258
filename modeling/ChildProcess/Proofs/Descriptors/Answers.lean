import ChildProcess.Inherited.Close
import ChildProcess.Machine.DescriptorTable
import ChildProcess.Proofs.Runs
import Mathlib.Logic.Function.Basic
import Mathlib.Logic.Relation

/-!
# What calls do to descriptors

The operating system is known here only by what it promises about the descriptors of
one process: which answers a call may get, and which descriptors stand for which open
file afterwards.  Every call may fail at any time, new descriptors are any numbers
that are free, and closing a descriptor releases it whatever is answered.  All that
the calls do besides is left open.

The directory of a process's own descriptors is listed in whole records, in
increasing order, each time from behind the last number that was listed, and comes to
its end when no open descriptor is left there.
-/

namespace ChildProcess

namespace DirectoryRecord

/-- The name of a descriptor in the directory of descriptors. -/
def nameOf (number : Descriptor) : Bytes :=
  Bytes.ofText (toString number)

/-- The names that stand for the directory itself and for its parent. -/
def dots : List Bytes :=
  [Bytes.ofText ".", Bytes.ofText ".."]

/-- A whole record: sixteen bytes that do not matter here, its length, one more byte
that does not matter, its name, and at least one zero byte. -/
structure IsRecord (record name : Bytes) : Prop where
  shape : ∃ (front : Bytes) (low high kind : UInt8) (padding : Nat),
    front.length = lengthOffset ∧
      record =
        front ++ low :: high :: kind :: name ++ List.replicate (padding + 1) 0 ∧
      low.toNat + 256 * high.toNat = record.length
  nulFree : 0 ∉ name

/-- Bytes that are whole records with some names. -/
inductive AreRecords : Bytes → List Bytes → Prop
  | nil : AreRecords [] []
  | cons {record name records : Bytes} {names : List Bytes}
      (first : IsRecord record name)
      (rest : AreRecords records names) :
      AreRecords (record ++ records) (name :: names)

end DirectoryRecord

/-- What the operating system keeps about the descriptors of a process. -/
@[ext]
structure Descriptors where
  /-- What a number stands for. -/
  slot? : Descriptor → Option Slot
  /-- The open file that will be made next. -/
  nextFile : FileId
  /-- From which number on an open directory of descriptors is still to be listed. -/
  listedFrom? : FileId → Option Descriptor
  /-- Only some numbers can be descriptors. -/
  inRange : ∀ number, slot? number ≠ none →
    0 ≤ number ∧ number ≤ DirectoryRecord.maxDescriptor
  /-- Nothing stands for a file that has not been made. -/
  isMade : ∀ number slot, slot? number = some slot → slot.file < nextFile

namespace Descriptors

/-- A number is in use. -/
def IsOpen (descriptors : Descriptors) (number : Descriptor) : Prop :=
  descriptors.slot? number ≠ none

/-- A number may become a descriptor. -/
def IsFree (descriptors : Descriptors) (number : Descriptor) : Prop :=
  descriptors.slot? number = none ∧ 0 ≤ number ∧
    number ≤ DirectoryRecord.maxDescriptor

/-- The open file that a number stands for. -/
def file? (descriptors : Descriptors) (number : Descriptor) : Option FileId :=
  (descriptors.slot? number).map Slot.file

/-- A file is open under one number and under no other. -/
def OnlyAt (descriptors : Descriptors) (number : Descriptor) (file : FileId) : Prop :=
  ∀ other, descriptors.file? other = some file ↔ other = number

/-- The descriptors that are left when the process becomes another program. -/
def afterExecution (descriptors : Descriptors) (number : Descriptor) : Option Slot :=
  (descriptors.slot? number).filter fun slot => !slot.closesOnExec

/-- One number stands for something else, or for nothing any more, and nothing else
changes. -/
structure Becomes (before : Descriptors) (number : Descriptor) (slot? : Option Slot)
    (after : Descriptors) : Prop where
  slots : after.slot? = Function.update before.slot? number slot?
  files : after.nextFile = before.nextFile
  lists : after.listedFrom? = before.listedFrom?

/-- A new file is opened under a free number. -/
def openNext (descriptors : Descriptors) (number : Descriptor) (closesOnExec : Bool)
    (free : descriptors.IsFree number) : Descriptors where
  slot? :=
    Function.update descriptors.slot? number
      (some ⟨descriptors.nextFile, closesOnExec⟩)
  nextFile := descriptors.nextFile + 1
  listedFrom? := descriptors.listedFrom?
  inRange other isOpen := by
    by_cases same : other = number
    · exact same ▸ free.2
    · rw [Function.update_of_ne same] at isOpen
      exact descriptors.inRange other isOpen
  isMade other slot isSlot := by
    by_cases same : other = number
    · rw [same, Function.update_self] at isSlot
      cases isSlot
      exact Nat.lt_succ_self _
    · rw [Function.update_of_ne same] at isSlot
      exact Nat.lt_succ_of_lt (descriptors.isMade other slot isSlot)

/-- A number stands for nothing any more. -/
def release (descriptors : Descriptors) (number : Descriptor) : Descriptors where
  slot? := Function.update descriptors.slot? number none
  nextFile := descriptors.nextFile
  listedFrom? := descriptors.listedFrom?
  inRange other isOpen := by
    by_cases same : other = number
    · rw [same, Function.update_self] at isOpen
      exact absurd rfl isOpen
    · rw [Function.update_of_ne same] at isOpen
      exact descriptors.inRange other isOpen
  isMade other slot isSlot := by
    by_cases same : other = number
    · rw [same, Function.update_self] at isSlot
      cases isSlot
    · rw [Function.update_of_ne same] at isSlot
      exact descriptors.isMade other slot isSlot

/-- A number stands for a file that has been made. -/
def occupy (descriptors : Descriptors) (number : Descriptor) (slot : Slot)
    (fits : 0 ≤ number ∧ number ≤ DirectoryRecord.maxDescriptor)
    (made : slot.file < descriptors.nextFile) : Descriptors where
  slot? := Function.update descriptors.slot? number (some slot)
  nextFile := descriptors.nextFile
  listedFrom? := descriptors.listedFrom?
  inRange other isOpen := by
    by_cases same : other = number
    · exact same ▸ fits
    · rw [Function.update_of_ne same] at isOpen
      exact descriptors.inRange other isOpen
  isMade other held isSlot := by
    by_cases same : other = number
    · rw [same, Function.update_self] at isSlot
      exact Option.some.inj isSlot ▸ made
    · rw [Function.update_of_ne same] at isSlot
      exact descriptors.isMade other held isSlot

/-- The descriptors of a process that has nothing but its standard streams. -/
def standard : Descriptors where
  slot? number :=
    if 0 ≤ number ∧ number ≤ 2 then some ⟨number.toNat, false⟩ else none
  nextFile := 3
  listedFrom? _ := none
  inRange number isOpen := by
    rw [ne_eq, ite_eq_right_iff, Classical.not_imp] at isOpen
    have isStandard := isOpen.1
    unfold DirectoryRecord.maxDescriptor Descriptor at *
    omega
  isMade number slot isSlot := by
    split at isSlot
    · cases isSlot
      change number.toNat < (3 : Nat)
      unfold Descriptor at *
      omega
    · cases isSlot

/-- The descriptors of such a process when it has made a pipe. -/
def standardAndPipe : Descriptors :=
  (standard.openNext 3 true ⟨rfl, by decide, by decide⟩).openNext 4 true
    ⟨rfl, by decide, by decide⟩

/-- An open directory is to be listed from some number on. -/
def listing (descriptors : Descriptors) (file : FileId) (first? : Option Descriptor) :
    Descriptors :=
  { descriptors with
    listedFrom? := Function.update descriptors.listedFrom? file first? }

@[simp] theorem listing_listedFrom?_self
    (descriptors : Descriptors)
    (file : FileId)
    (first? : Option Descriptor) :
    (descriptors.listing file first?).listedFrom? file = first? := by
  simp [listing]

/-- Records of a directory of descriptors from a number on, after which it is to be
listed from `next` on.  There is no record only if there is no descriptor left. -/
def Lists (descriptors : Descriptors) (first : Descriptor) (records : Bytes)
    (next : Descriptor) : Prop :=
  ∃ (dots : List Bytes) (numbers : List Descriptor),
    DirectoryRecord.AreRecords records
        (dots ++ numbers.map DirectoryRecord.nameOf) ∧
      (∀ name ∈ dots, name ∈ DirectoryRecord.dots) ∧
      (∀ number ∈ numbers, first ≤ number ∧ number < next ∧
        descriptors.IsOpen number) ∧
      (∀ number, first ≤ number → number < next → descriptors.IsOpen number →
        number ∈ numbers) ∧
      (records = [] → ∀ number, first ≤ number → ¬descriptors.IsOpen number)

/-- What a call may be answered, and the descriptors afterwards. -/
def Answers (before : Descriptors) (request : Call) (answer : request.Answer)
    (after : Descriptors) : Prop :=
  match request, answer with
  | .pipe, .ok (reader, writer) =>
      ∃ (freeReader : before.IsFree reader)
        (freeWriter : (before.openNext reader true freeReader).IsFree writer),
        after = (before.openNext reader true freeReader).openNext writer true freeWriter
  | .close number, _ => before.Becomes number none after
  | .duplicate source target, .ok () =>
      ∃ slot, before.slot? source = some slot ∧ source ≠ target ∧
        before.Becomes target (some ⟨slot.file, false⟩) after
  | .duplicateFrom source floor, .ok number =>
      ∃ slot, before.slot? source = some slot ∧ floor ≤ number ∧
        before.IsFree number ∧
        before.Becomes number (some ⟨slot.file, false⟩) after
  | .setCloseOnExec number value, .ok () =>
      ∃ slot, before.slot? number = some slot ∧
        before.Becomes number (some ⟨slot.file, value⟩) after
  | .openFile path mode, .ok number =>
      ∃ free : before.IsFree number,
        after =
          (before.openNext number mode.closesOnExec free).listing before.nextFile
            (if path = Inherited.descriptorDirectory then some 0 else none)
  | .directoryRecords number _, .ok records =>
      ∃ slot, before.slot? number = some slot ∧
        match before.listedFrom? slot.file with
        | none => after = before
        | some first =>
            ∃ next, before.Lists first records next ∧
              after = before.listing slot.file (some next)
  | _, _ => after = before

/-- The circumstances in which nothing is asked of a program. -/
abbrev answering : Setting Descriptors where
  answers := Answers

theorem standard_answers_pipe : standard.Answers .pipe (.ok (3, 4)) standardAndPipe :=
  ⟨⟨rfl, by decide, by decide⟩, ⟨rfl, by decide, by decide⟩, rfl⟩

/-- Calls that leave all descriptors as they are, whatever is answered. -/
def leavesDescriptors : Call → Bool
  | .pipe | .close _ | .duplicate _ _ | .duplicateFrom _ _ | .setCloseOnExec _ _
  | .openFile _ _ | .directoryRecords _ _ => false
  | _ => true

section Answers

variable {before after : Descriptors} {number : Descriptor} {slot? : Option Slot}

theorem eq_of_answers
    {request : Call}
    {answer : request.Answer}
    (leaves : leavesDescriptors request = true)
    (answered : before.Answers request answer after) :
    after = before := by
  cases request with
  | pipe | close | duplicate | duplicateFrom | setCloseOnExec | openFile
  | directoryRecords => cases leaves
  | _ => exact answered

theorem answers_of_leaves
    {request : Call}
    (answer : request.Answer)
    (leaves : leavesDescriptors request = true) :
    before.Answers request answer before := by
  cases request with
  | pipe | close | duplicate | duplicateFrom | setCloseOnExec | openFile
  | directoryRecords => cases leaves
  | _ => exact rfl

/-! ## What a number stands for -/

theorem isOpen_iff_file? (descriptors : Descriptors) (number : Descriptor) :
    descriptors.IsOpen number ↔ ∃ file, descriptors.file? number = some file := by
  cases slot : descriptors.slot? number <;> simp [IsOpen, file?, slot]

theorem file?_lt_nextFile
    {descriptors : Descriptors}
    {file : FileId}
    (stands : descriptors.file? number = some file) :
    file < descriptors.nextFile := by
  obtain ⟨slot, isSlot, rfl⟩ := Option.map_eq_some_iff.mp stands
  exact descriptors.isMade number slot isSlot

theorem becomes_release (descriptors : Descriptors) (number : Descriptor) :
    descriptors.Becomes number none (descriptors.release number) :=
  ⟨rfl, rfl, rfl⟩

theorem becomes_occupy
    (descriptors : Descriptors)
    (number : Descriptor)
    (slot : Slot)
    (fits : 0 ≤ number ∧ number ≤ DirectoryRecord.maxDescriptor)
    (made : slot.file < descriptors.nextFile) :
    descriptors.Becomes number (some slot) (descriptors.occupy number slot fits made) :=
  ⟨rfl, rfl, rfl⟩

theorem openNext_slot?_self (free : before.IsFree number) (closesOnExec : Bool) :
    (before.openNext number closesOnExec free).slot? number =
      some ⟨before.nextFile, closesOnExec⟩ :=
  Function.update_self _ _ _

theorem openNext_slot?_of_ne
    (free : before.IsFree number)
    (closesOnExec : Bool)
    {other : Descriptor}
    (different : other ≠ number) :
    (before.openNext number closesOnExec free).slot? other = before.slot? other :=
  Function.update_of_ne different _ _

theorem openNext_file?_of_ne
    (free : before.IsFree number)
    (closesOnExec : Bool)
    {other : Descriptor}
    (different : other ≠ number) :
    (before.openNext number closesOnExec free).file? other = before.file? other := by
  rw [file?, openNext_slot?_of_ne free closesOnExec different, file?]

/-- What is free after a number has been taken was free before, and is another one. -/
theorem isFree_openNext_iff
    {other : Descriptor}
    (free : before.IsFree number)
    (closesOnExec : Bool) :
    (before.openNext number closesOnExec free).IsFree other ↔
      other ≠ number ∧ before.IsFree other := by
  by_cases same : other = number
  · simp [same, IsFree, openNext_slot?_self]
  · simp [same, IsFree, openNext_slot?_of_ne free closesOnExec same]

theorem Becomes.slot?_self (becomes : before.Becomes number slot? after) :
    after.slot? number = slot? := by
  rw [becomes.slots, Function.update_self]

theorem Becomes.slot?_of_ne
    (becomes : before.Becomes number slot? after)
    {other : Descriptor}
    (different : other ≠ number) :
    after.slot? other = before.slot? other := by
  rw [becomes.slots, Function.update_of_ne different]

theorem Becomes.file?_of_ne
    (becomes : before.Becomes number slot? after)
    {other : Descriptor}
    (different : other ≠ number) :
    after.file? other = before.file? other := by
  rw [file?, becomes.slot?_of_ne different, file?]

/-- What is left when a number has been closed. -/
theorem Becomes.slot?_eq_some_iff
    (closes : before.Becomes number none after)
    {other : Descriptor}
    {slot : Slot} :
    after.slot? other = some slot ↔ other ≠ number ∧ before.slot? other = some slot := by
  by_cases same : other = number
  · simp [same, closes.slot?_self]
  · simp [same, closes.slot?_of_ne same]

/-- A file stays open under its only number as long as other numbers are not made to
stand for it. -/
theorem OnlyAt.of_becomes
    {only : Descriptor}
    {file : FileId}
    (onlyAt : before.OnlyAt only file)
    (becomes : before.Becomes number slot? after)
    (different : number ≠ only)
    (otherFile : slot?.map Slot.file ≠ some file) :
    after.OnlyAt only file := by
  intro other
  by_cases same : other = number
  · rw [same, file?, becomes.slot?_self]
    exact iff_of_false otherFile different
  · rw [becomes.file?_of_ne same]
    exact onlyAt other

theorem OnlyAt.openNext
    {only : Descriptor}
    {file : FileId}
    (onlyAt : before.OnlyAt only file)
    (free : before.IsFree number)
    (closesOnExec : Bool) :
    (before.openNext number closesOnExec free).OnlyAt only file := by
  have stands := (onlyAt only).mpr rfl
  intro other
  by_cases same : other = number
  · rw [same, file?, openNext_slot?_self]
    refine iff_of_false (fun isFile => ?_) fun isOnly => ?_
    · exact Nat.ne_of_lt (file?_lt_nextFile stands) (Option.some.inj isFile).symm
    · rw [← isOnly, file?, free.1] at stands
      cases stands
  · rw [openNext_file?_of_ne free closesOnExec same]
    exact onlyAt other

theorem OnlyAt.ne_of_isFree
    {only : Descriptor}
    {file : FileId}
    (onlyAt : before.OnlyAt only file)
    (free : before.IsFree number) :
    number ≠ only := by
  rintro rfl
  have stands := (onlyAt number).mpr rfl
  rw [file?, free.1] at stands
  cases stands

/-! ## Which files there are -/

/-- One change of what numbers stand for. -/
inductive Change (before : Descriptors) : Descriptors → Prop
  | keep {after : Descriptors}
      (slots : after.slot? = before.slot?)
      (files : after.nextFile = before.nextFile) :
      Change before after
  | become {after : Descriptors} {number : Descriptor} {slot? : Option Slot}
      (becomes : before.Becomes number slot? after)
      (known : ∀ slot, slot? = some slot →
        ∃ source, before.file? source = some slot.file) :
      Change before after
  | openNext {after : Descriptors} {number : Descriptor} {closesOnExec : Bool}
      (free : before.IsFree number)
      (slots : after.slot? = (before.openNext number closesOnExec free).slot?)
      (files : after.nextFile = before.nextFile + 1) :
      Change before after

theorem Change.of_eq (same : after = before) : Change before after :=
  same ▸ .keep rfl rfl

theorem Change.of_becomes
    {source : Descriptor}
    {slot : Slot}
    {closesOnExec : Bool}
    (isSlot : before.slot? source = some slot)
    (becomes : before.Becomes number (some ⟨slot.file, closesOnExec⟩) after) :
    Change before after := by
  refine .become becomes ?_
  rintro _ ⟨⟩
  exact ⟨source, by rw [file?, isSlot]; rfl⟩

/-- Every call changes descriptors step by step. -/
theorem changes_of_answers
    {request : Call}
    {answer : request.Answer}
    (answered : before.Answers request answer after) :
    Relation.ReflTransGen Change before after := by
  cases request with
  | pipe =>
      rcases answer with errno | ⟨reader, writer⟩
      · exact .single (.of_eq answered)
      · obtain ⟨freeReader, freeWriter, rfl⟩ := answered
        exact .tail (.single (.openNext freeReader rfl rfl)) (.openNext freeWriter rfl rfl)
  | close => exact .single (.become answered nofun)
  | duplicate =>
      rcases answer with errno | _
      · exact .single (.of_eq answered)
      · obtain ⟨slot, isSlot, -, becomes⟩ := answered
        exact .single (.of_becomes isSlot becomes)
  | duplicateFrom =>
      rcases answer with errno | copy
      · exact .single (.of_eq answered)
      · obtain ⟨slot, isSlot, -, -, becomes⟩ := answered
        exact .single (.of_becomes isSlot becomes)
  | setCloseOnExec =>
      rcases answer with errno | _
      · exact .single (.of_eq answered)
      · obtain ⟨slot, isSlot, becomes⟩ := answered
        exact .single (.of_becomes isSlot becomes)
  | openFile =>
      rcases answer with errno | opened
      · exact .single (.of_eq answered)
      · obtain ⟨free, rfl⟩ := answered
        exact .single (.openNext free rfl rfl)
  | directoryRecords =>
      rcases answer with errno | records
      · exact .single (.of_eq answered)
      · obtain ⟨slot, -, listed⟩ := answered
        split at listed
        · exact .single (.of_eq listed)
        · obtain ⟨next, -, rfl⟩ := listed
          exact .single (.keep rfl rfl)
  | _ => exact .single (.of_eq answered)

theorem Change.nextFile_le (change : Change before after) :
    before.nextFile ≤ after.nextFile := by
  cases change with
  | keep slots files => exact Nat.le_of_eq files.symm
  | become becomes known => exact Nat.le_of_eq becomes.files.symm
  | openNext free slots files => exact files ▸ Nat.le_succ _

theorem nextFile_le_of_answers
    {request : Call}
    {answer : request.Answer}
    (answered : before.Answers request answer after) :
    before.nextFile ≤ after.nextFile := by
  have changes := changes_of_answers answered
  clear answered
  induction changes with
  | refl => exact Nat.le_refl _
  | tail _ change inductionHypothesis =>
      exact Nat.le_trans inductionHypothesis change.nextFile_le

/-- A change makes a number stand for a new file, or for one that some number stood for
before. -/
theorem Change.exists_file?
    {file : FileId}
    (change : Change before after)
    (stands : after.file? number = some file) :
    before.nextFile ≤ file ∨ ∃ source, before.file? source = some file := by
  cases change with
  | keep slots files => exact .inr ⟨number, by rwa [file?, ← slots]⟩
  | @become changed slot? becomes known =>
      by_cases same : number = changed
      · rw [same, file?, becomes.slot?_self] at stands
        obtain ⟨slot, isSlot, rfl⟩ := Option.map_eq_some_iff.mp stands
        exact .inr (known slot isSlot)
      · rw [becomes.file?_of_ne same] at stands
        exact .inr ⟨number, stands⟩
  | @openNext opened closesOnExec free slots files =>
      rw [file?, slots] at stands
      by_cases same : number = opened
      · rw [same, openNext_slot?_self] at stands
        exact .inl (Nat.le_of_eq (Option.some.inj stands))
      · rw [openNext_slot?_of_ne free closesOnExec same] at stands
        exact .inr ⟨number, stands⟩

/-- A file has been made, and no number stands for it any more. -/
structure IsLost (descriptors : Descriptors) (file : FileId) : Prop where
  isMade : file < descriptors.nextFile
  isNowhere : ∀ number, descriptors.file? number ≠ some file

theorem IsLost.change
    {file : FileId}
    (isLost : before.IsLost file)
    (change : Change before after) :
    after.IsLost file := by
  refine ⟨Nat.lt_of_lt_of_le isLost.isMade change.nextFile_le, fun number stands => ?_⟩
  rcases change.exists_file? stands with isNew | ⟨source, stood⟩
  · exact Nat.not_lt.mpr isNew isLost.isMade
  · exact isLost.isNowhere source stood

/-- What is lost does not come back. -/
theorem IsLost.of_answers
    {request : Call}
    {answer : request.Answer}
    {file : FileId}
    (isLost : before.IsLost file)
    (answered : before.Answers request answer after) :
    after.IsLost file := by
  have changes := changes_of_answers answered
  clear answered
  induction changes with
  | refl => exact isLost
  | tail _ change inductionHypothesis => exact inductionHypothesis.change change

end Answers

end Descriptors
end ChildProcess
