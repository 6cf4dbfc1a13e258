import ChildProcess.Machine.Setup

/-!
# Sessions

In a session a process from outside runs one program after another on a machine, and
the conditions under which a program runs can be changed for as long as it runs. A
session ends when a program is stuck.
-/

namespace ChildProcess

/-- Something done on a machine that can get stuck. -/
abbrev Session := StateT Machine Option

namespace Session

open Machine (outsider)

/-- Run a program to its end. -/
def perform {α : Type} (program : Program α) : Session α := fun machine =>
  match machine.run outsider program with
  | (machine, .returned value) => some (value, machine)
  | (_, .ended) | (_, .stuck) => none

/-- Change the process that runs the programs. -/
def adjust (change : Process → Process) : Session Unit :=
  modify fun machine => machine.modifyProcess outsider change

/-- The process that runs the programs. -/
def self : Session Process := fun machine => do
  some (← machine.process? outsider, machine)

/-- Let calls fail meanwhile. -/
def withFaults {α : Type} (faults : List Fault) (session : Session α) :
    Session α := do
  adjust fun process => { process with faults }
  let value ← session
  adjust fun process => { process with faults := [] }
  pure value

/-- Limit the number of descriptors meanwhile. -/
def withDescriptorLimit {α : Type} (limit : Nat) (session : Session α) :
    Session α := do
  let before := (← self).descriptorLimit
  adjust fun process => { process with descriptorLimit := limit }
  let value ← session
  adjust fun process => { process with descriptorLimit := before }
  pure value

/-- Use another descriptor for every number up to the greatest one in use; the answer
is the list of those. -/
def fillGaps : Session (List Descriptor) := do
  let descriptors := (← self).descriptors
  let greatest := (descriptors.keys.max?.getD 0).toNat
  let gaps :=
    ((List.range greatest).map Int.ofNat).filter fun number =>
      (descriptors.get? number).isNone
  modify fun machine =>
    gaps.foldl
      (fun current number =>
        current.openAs outsider number
          { place := .node FileSystem.root, reads := true, writes := false } true)
      machine
  pure gaps

/-- Close descriptors without a program's doing. -/
def closeQuietly (numbers : List Descriptor) : Session Unit :=
  modify fun machine =>
    numbers.foldl
      (fun current number =>
        (current.clearDescriptor outsider number).toOption.getD current)
      machine

/-- Have exactly so many free descriptors meanwhile. -/
def withFreeDescriptors {α : Type} (count : Nat) (session : Session α) :
    Session α := do
  let gaps ← fillGaps
  let greatest := ((← self).descriptors.keys.max?.getD (-1)) + 1
  let value ← withDescriptorLimit (greatest.toNat + count) session
  closeQuietly gaps
  pure value

/-- Have the working directory as root meanwhile. -/
def withOwnRoot {α : Type} (session : Session α) : Session α := do
  let before := (← self).root
  adjust fun process =>
    match process.directory with
    | .node root => { process with root }
    | _ => process
  let value ← session
  adjust fun process => { process with root := before }
  pure value

/-- Do something under a condition that holds only on demand. -/
def whenever {α : Type} (condition : Bool) (wrap : Session α → Session α)
    (session : Session α) : Session α :=
  if condition then wrap session else session

/-- Put things into the working directory. -/
def furnish (items : List Furnishing) : Session Unit :=
  modify fun machine => items.foldl (·.furnish outsider ·) machine

/-- The content of a file of the working directory, if it can be read. -/
def content? (path : Bytes) : Session (Option Bytes) := fun machine =>
  let content :=
    match (machine.view outsider).locate (machine.directory outsider) path with
    | .ok (.node node) =>
        match machine.fileSystem.content? node with
        | some (.file bytes) => some bytes
        | _ => none
    | _ => none
  some (content, machine)

/-- Have a file of the working directory open for reading and appending under a
number. -/
def provide (number : Descriptor) (path content : Bytes) : Session Unit := do
  furnish [.file path content FileSystem.filePermissions]
  modify fun machine =>
    match (machine.view outsider).locate (machine.directory outsider) path with
    | .ok place =>
        machine.openAs outsider number
          { place, reads := true, writes := true, appends := true } false
    | .error _ => machine

/-- Have files of the working directory as standard streams, the first of them with
some content. -/
def provideStreams (names : PerStream String) (input : Bytes) : Session Unit := do
  provide 0 (Bytes.ofText names.stdin) input
  provide 1 (Bytes.ofText names.stdout) []
  provide 2 (Bytes.ofText names.stderr) []

/-- Files of the working directory with their contents, if these can be read. -/
def contents (paths : List Bytes) : Session (List (Bytes × Option Bytes)) :=
  paths.mapM fun path => do pure (path, ← content? path)

/-- Which numbers of a list are open descriptors. -/
def opened (numbers : List Descriptor) : Session (List Descriptor) := do
  let descriptors := (← self).descriptors
  pure (numbers.filter fun number => (descriptors.get? number).isSome)

end Session
end ChildProcess
