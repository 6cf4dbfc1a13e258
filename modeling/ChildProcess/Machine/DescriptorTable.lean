import ChildProcess.Launch

/-!
# Descriptor tables

A process refers to open files by descriptors. Its descriptor table says for each
descriptor in use which open file of the machine it stands for, and whether it is
closed when the process becomes another program. New descriptors are the lowest
numbers that are free.
-/

namespace ChildProcess

/-- The number of an open file of the machine. -/
abbrev FileId := Nat

/-- What a descriptor stands for. -/
structure Slot where
  /-- The open file. -/
  file : FileId
  /-- Whether the descriptor is closed on execution. -/
  closesOnExec : Bool
  deriving DecidableEq, Repr, Inhabited

/-- The descriptors of a process. -/
abbrev DescriptorTable := OrderedMap Descriptor Slot

namespace DescriptorTable

/-- The first of some consecutive numbers that is free. -/
def firstFree (table : DescriptorTable) : Nat → Descriptor → Descriptor
  | 0, number => number
  | tries + 1, number =>
      if (table.get? number).isSome then firstFree table tries (number + 1)
      else number

/-- The lowest free descriptor from a number on. -/
def lowestFree (table : DescriptorTable) (floor : Descriptor) : Descriptor :=
  firstFree table table.entries.length floor

/-- The table after the process has become another program. -/
def afterExecution (table : DescriptorTable) : DescriptorTable :=
  table.filter fun _ slot => !slot.closesOnExec

/-- The descriptors in use, in increasing order. -/
def ascending (table : DescriptorTable) : List Descriptor :=
  table.keys.mergeSort

/-- Whether a descriptor stands for an open file. -/
def refersTo (table : DescriptorTable) (file : FileId) : Bool :=
  table.entries.any fun entry => entry.2.file == file

end DescriptorTable
end ChildProcess
