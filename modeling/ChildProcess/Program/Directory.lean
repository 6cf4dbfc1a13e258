import ChildProcess.Inherited.DirectoryRecord
import ChildProcess.Program

/-!
# Listing directories
-/

namespace ChildProcess
namespace Program

/-- How many bytes of records are asked for at once. -/
def listingSize : Nat := 32768

/-- The names in the records that are still to come of an open directory. -/
def remainingNames (directory : Descriptor) : Nat → Program (Except Errno (List Bytes))
  | 0 => .exhausted
  | rounds + 1 => do
      match ← perform (.directoryRecords directory listingSize) with
      | .error errno => pure (.error errno)
      | .ok [] => pure (.ok [])
      | .ok records =>
          match ← remainingNames directory rounds with
          | .error errno => pure (.error errno)
          | .ok others =>
              pure (.ok (DirectoryRecord.names records records.length 0 ++ others))

/-- The names in a directory, without those of the directory itself and its
parent. -/
def directoryNames (path : Bytes) : Program (Except Errno (List Bytes)) := do
  match ← perform (.openFile path .listing) with
  | .error errno => pure (.error errno)
  | .ok directory => do
      let names ← remainingNames directory patience
      let _ ← perform (.close directory)
      pure (names.map fun names =>
        names.filter fun name => name != [46] && name != [46, 46])

end Program
end ChildProcess
