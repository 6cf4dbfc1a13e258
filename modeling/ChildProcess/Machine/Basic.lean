import ChildProcess.Machine.DescriptorTable
import ChildProcess.Machine.Fault
import ChildProcess.Machine.Path
import ChildProcess.Signal

/-!
# Machines

A machine is everything that programs can change: its files, its pipes, its
processes, and the time. Open files are shared by all descriptors that stand for
them, in whatever process, and are gone with the last of these. A pipe that no
descriptor reads is broken, and one that no descriptor writes is at its end.
-/

namespace ChildProcess

/-- A place that has been opened. -/
structure OpenFile where
  place : Place
  /-- Where the next byte is read or written. -/
  offset : Nat := 0
  reads : Bool
  writes : Bool
  /-- Whether everything is written behind the end. -/
  appends : Bool := false
  deriving DecidableEq, Repr, Inhabited

/-- Bytes on their way from writers to readers. -/
structure Pipe where
  buffer : Bytes := []
  /-- How many bytes there is room for. -/
  capacity : Nat := 65536
  deriving DecidableEq, Repr, Inhabited

/-- Whether a process runs. -/
inductive RunState
  | running
  /-- A signal stopped it; the parent may have been told. -/
  | stopped (signal : Nat) (reported : Bool)
  /-- It is being traced, and a signal stopped it. -/
  | trapped (signal : Nat)
  /-- It ended and waits to be collected. -/
  | ended (word : StatusWord)
  deriving DecidableEq, Repr, Inhabited

/-- A process. -/
structure Process where
  /-- What it is still to do, unless it acts from outside the machine. -/
  program? : Option (Program Unit) := none
  parent : ProcessId
  descriptors : DescriptorTable := .empty
  /-- Its working directory. -/
  directory : Place
  /-- Its root directory. -/
  root : NodeId := FileSystem.root
  /-- New descriptors are below this number. -/
  descriptorLimit : Nat := 1024
  ignoredSignals : List Nat := []
  /-- Signals that are noted when they arrive. -/
  watchedSignals : List Nat := []
  /-- Signals that have been noted. -/
  notedSignals : List Nat := []
  blockedSignals : List Nat := []
  /-- Signals that wait until they are no longer blocked or the process goes on. -/
  pendingSignals : List Nat := []
  state : RunState := .running
  /-- When its sleep ends. -/
  wakeTime? : Option Nat := none
  /-- How much of a write that waits for room has been written. -/
  written : Nat := 0
  /-- How many of its next waits a signal interrupts. -/
  interruptions : Nat := 0
  faults : List Fault := []
  isTraced : Bool := false

/-- Everything that programs can change. -/
structure Machine where
  fileSystem : FileSystem
  files : OrderedMap FileId OpenFile := .empty
  pipes : OrderedMap PipeId Pipe := .empty
  processes : OrderedMap ProcessId Process := .empty
  /-- Nanoseconds since the machine was made. -/
  clock : Nat := 0
  nextFile : FileId := 0
  nextPipe : PipeId := 0
  nextProcess : ProcessId := 2

namespace Machine

/-- The process that inherits the children of those that end, and collects
them. -/
def firstProcess : ProcessId := 1

/-! ## Processes -/

/-- A process by its number. -/
def process? (machine : Machine) (id : ProcessId) : Option Process :=
  machine.processes.get? id

/-- Change a process. -/
def modifyProcess (machine : Machine) (id : ProcessId)
    (change : Process → Process) : Machine :=
  { machine with processes := machine.processes.modify id change }

/-- The processes that are the children of another one. -/
def children (machine : Machine) (id : ProcessId) : List (ProcessId × Process) :=
  machine.processes.entries.filter fun entry => entry.2.parent == id

/-- Whether a process runs. -/
def isRunning (machine : Machine) (id : ProcessId) : Bool :=
  (machine.process? id).any fun process => process.state == .running

/-! ## Open files -/

/-- The descriptors of a process. -/
def descriptors (machine : Machine) (id : ProcessId) : DescriptorTable :=
  ((machine.process? id).map Process.descriptors).getD .empty

/-- What a descriptor of a process stands for, with the number of the open file. -/
def opened? (machine : Machine) (id : ProcessId) (number : Descriptor) :
    Except Errno (FileId × OpenFile) :=
  match (machine.descriptors id).get? number with
  | none => .error Errno.EBADF
  | some slot =>
      match machine.files.get? slot.file with
      | none => .error Errno.EBADF
      | some file => .ok (slot.file, file)

/-- What a process can see of the machine. -/
def view (machine : Machine) (id : ProcessId) : View where
  fileSystem := machine.fileSystem
  root := ((machine.process? id).map Process.root).getD FileSystem.root
  self := id
  opened other :=
    (machine.process? other).map fun process =>
      process.descriptors.ascending.filterMap fun number =>
        match machine.opened? other number with
        | .ok (_, file) => some (number, file.place)
        | .error _ => none

/-- The working directory of a process. -/
def directory (machine : Machine) (id : ProcessId) : Place :=
  ((machine.process? id).map Process.directory).getD (.node FileSystem.root)

/-- Whether a descriptor stands for an open file, in whatever process. -/
def isReferred (machine : Machine) (file : FileId) : Bool :=
  machine.processes.entries.any fun entry =>
    DescriptorTable.refersTo entry.2.descriptors file

/-- Forget an open file if no descriptor stands for it any more. -/
def release (machine : Machine) (file : FileId) : Machine :=
  if machine.isReferred file then machine
  else { machine with files := machine.files.erase file }

/-- Whether somebody can read from a pipe. -/
def hasReader (machine : Machine) (pipe : PipeId) : Bool :=
  machine.files.entries.any fun entry =>
    entry.2.place == .pipe pipe && entry.2.reads

/-- Whether somebody can write to a pipe. -/
def hasWriter (machine : Machine) (pipe : PipeId) : Bool :=
  machine.files.entries.any fun entry =>
    entry.2.place == .pipe pipe && entry.2.writes

/-- Let a descriptor of a process stand for an open file. What it stood for before
is closed. -/
def setDescriptor (machine : Machine) (id : ProcessId) (number : Descriptor)
    (slot : Slot) : Machine :=
  let before := (machine.descriptors id).get? number
  let machine := machine.modifyProcess id fun process =>
    { process with descriptors := process.descriptors.insert number slot }
  match before with
  | none => machine
  | some earlier => machine.release earlier.file

/-- Let a descriptor of a process stand for nothing. -/
def clearDescriptor (machine : Machine) (id : ProcessId) (number : Descriptor) :
    Except Errno Machine :=
  match (machine.descriptors id).get? number with
  | none => .error Errno.EBADF
  | some slot =>
      let machine := machine.modifyProcess id fun process =>
        { process with descriptors := process.descriptors.erase number }
      .ok (machine.release slot.file)

/-- Let all descriptors of a process go that a predicate does not keep. -/
def keepDescriptors (machine : Machine) (id : ProcessId)
    (keeps : Descriptor → Slot → Bool) : Machine :=
  let lost := (machine.descriptors id).filter fun number slot => !keeps number slot
  let machine := machine.modifyProcess id fun process =>
    { process with descriptors := process.descriptors.filter keeps }
  lost.entries.foldl (fun current entry => current.release entry.2.file) machine

/-- A new open file under a given descriptor. -/
def openAs (machine : Machine) (id : ProcessId) (number : Descriptor)
    (file : OpenFile) (closesOnExec : Bool) : Machine :=
  let fileId := machine.nextFile
  let machine : Machine :=
    { machine with
      files := machine.files.insert fileId file
      nextFile := fileId + 1 }
  machine.setDescriptor id number ⟨fileId, closesOnExec⟩

/-- The lowest free descriptor of a process from a number on, if there may be one
more. -/
def freeDescriptor (machine : Machine) (id : ProcessId) (floor : Descriptor) :
    Except Errno Descriptor :=
  let number := DescriptorTable.lowestFree (machine.descriptors id) floor
  let limit := ((machine.process? id).map Process.descriptorLimit).getD 0
  if number < limit then .ok number else .error Errno.EMFILE

end Machine
end ChildProcess
