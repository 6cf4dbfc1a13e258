import ChildProcess.Machine.FileSystem
import ChildProcess.Program.Transfer

/-!
# Programs that come with the machine

What they have in common: they take their arguments behind their name, complain on
standard error with their name in front, and end with a code.
-/

namespace ChildProcess
namespace Tools

open Program (perform)

/-- A text as a list of bytes. -/
def bytes (text : String) : Bytes := Bytes.ofText text

/-- Write bytes to a descriptor; the answer is whether that succeeded. -/
def write (descriptor : Descriptor) (data : Bytes) : Program Bool := do
  match ← Program.writeAll (Program.writeSome Program.patience descriptor)
      Program.patience data with
  | .ok () => pure true
  | .error _ => pure false

/-- Write to standard output. -/
def print (data : Bytes) : Program Bool := write 1 data

/-- Complain in the name of a program. -/
def complain (name : String) (message : Bytes) : Program Unit := do
  let _ ← write 2 (bytes (name ++ ": ") ++ message ++ [10])

/-- A text in the quotes that messages use. -/
def quoted (text : Bytes) : Bytes :=
  bytes "'" ++ text ++ bytes "'"

/-- A program that does something with its arguments and ends with a code. -/
def ofArguments (work : List Bytes → Program Nat) : Tool := fun arguments _ => do
  let code ← work (arguments.drop 1)
  Program.exit (code : Nat)

/-- The number that some bytes are the digits of. -/
def number? (digits : Bytes) : Option Nat :=
  if digits.isEmpty
      || !digits.all (fun byte => decide (48 ≤ byte ∧ byte ≤ 57)) then none
  else some (digits.foldl (fun value byte => value * 10 + (byte.toNat - 48)) 0)

/-- How many bytes are read at once. -/
def blockSize : Nat := 131072

/-- Read at most a block. The end of a file is an empty block. -/
def readBlock (descriptor : Descriptor) : Program (Except Errno Bytes) :=
  Program.retrying (perform (.read descriptor blockSize)) Program.patience

/-- Do something with an open file that a name stands for; `-` is standard input. -/
def withFile (name : Bytes) (work : Descriptor → Program (Except Errno Unit)) :
    Program (Except Errno Unit) := do
  if name = bytes "-" then work 0
  else
    match ← perform (.openFile name .reading) with
    | .error errno => pure (.error errno)
    | .ok descriptor => do
        let result ← work descriptor
        let _ ← perform (.close descriptor)
        pure result

/-- Do something with files one after another, or with standard input if there are
none. A file that cannot be read is complained about. -/
def forFiles (program : String) (work : Descriptor → Program (Except Errno Unit)) :
    List Bytes → Program Nat
  | [] => pure 0
  | name :: rest => do
      let failed ←
        match ← withFile name work with
        | .ok () => pure false
        | .error errno => do
            complain program (name ++ bytes (": " ++ errno.message))
            pure true
      let code ← forFiles program work rest
      pure (if failed then 1 else code)

/-- The names of files, or that of standard input if there are none. -/
def orInput (names : List Bytes) : List Bytes :=
  if names.isEmpty then [bytes "-"] else names

end Tools
end ChildProcess
