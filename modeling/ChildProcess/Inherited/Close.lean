import ChildProcess.Inherited.DirectoryRecord
import ChildProcess.Program

/-!
# Closing inherited descriptors

A duplicated process has all descriptors of its parent and closes those that are
not meant for it. It first goes through the directory of its own descriptors; if
that cannot be read to its end, it closes every number up to the limit instead.
-/

namespace ChildProcess
namespace Inherited

open Program (perform)

/-- How the descriptors were found. -/
inductive Strategy
  /-- In the directory of the process's descriptors. -/
  | directoryScan
  /-- By trying every number. -/
  | bruteForce
  deriving DecidableEq, Repr, Inhabited

/-- The limit assumed where the operating system names none. -/
def fallbackLimit : Int := 1024

/-- The number from which on no descriptor is expected. -/
def descriptorLimit : Program Descriptor := do
  let limit ← perform .descriptorLimit
  pure (if limit ≤ 0 then fallbackLimit
    else min limit DirectoryRecord.maxDescriptor)

/-- Close a list of descriptors, whether they are open or not. -/
def closeEach : List Descriptor → Program Unit
  | [] => pure ()
  | descriptor :: rest => do
      let _ ← perform (.close descriptor)
      closeEach rest

/-- Close a number of consecutive descriptors except one. -/
def closeRange (keep : Descriptor) : Nat → Descriptor → Program Unit
  | 0, _ => pure ()
  | count + 1, descriptor => do
      if descriptor ≠ keep then
        let _ ← perform (.close descriptor)
      closeRange keep count (descriptor + 1)

/-- Close every descriptor from `first` up to a limit except one. -/
def closeByNumber (first keep limit : Descriptor) : Program Unit :=
  closeRange keep (limit - first).toNat first

/-- The directory that lists a process's own descriptors. -/
def descriptorDirectory : Bytes := Bytes.ofText "/proc/self/fd"

/-- How many bytes of records are asked for at once. -/
def bufferSize : Nat := 1024

/-- Close the descriptors that an open directory lists, from `first` on, except
`keep` and the directory's own. The buffer keeps what earlier records left in it.
The answer tells whether the directory was read to its end. -/
def closeListed (first keep directory : Descriptor) :
    Nat → Bytes → Program Bool
  | 0, _ => .exhausted
  | rounds + 1, buffer => do
      match ← perform (.directoryRecords directory bufferSize) with
      | .error _ => pure false
      | .ok [] => pure true
      | .ok records =>
          let filled := records ++ buffer.drop records.length
          closeEach
            ((DirectoryRecord.descriptors filled records.length 0).filter
              fun descriptor =>
                first ≤ descriptor && descriptor != keep
                  && descriptor != directory)
          closeListed first keep directory rounds filled

/-- Close every listed descriptor from `first` on except one. The answer tells
whether the list was complete. -/
def closeByDirectory (rounds : Nat) (first keep : Descriptor) : Program Bool := do
  match ← perform (.openFile descriptorDirectory OpenMode.listing) with
  | .error _ => pure false
  | .ok directory =>
      let completed ←
        closeListed first keep directory rounds (List.replicate bufferSize 0)
      let _ ← perform (.close directory)
      pure completed

/-- Close every descriptor from `first` on except one. -/
def close (rounds : Nat) (first keep limit : Descriptor) : Program Strategy := do
  if ← closeByDirectory rounds first keep then
    pure .directoryScan
  else
    closeByNumber first keep limit
    pure .bruteForce

end Inherited
end ChildProcess
