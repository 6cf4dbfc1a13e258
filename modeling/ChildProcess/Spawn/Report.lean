import ChildProcess.Program.Transfer

/-!
# The child's report

Parent and child share a pipe that closes when the child becomes another program.
If the child cannot do so, it writes the error number into the pipe, as four bytes
with the lowest one first, and ends. The parent reads until four bytes or the end
of the file are there: nothing means that the child made it.
-/

namespace ChildProcess
namespace Report

/-- How many bytes an error number has. -/
def length : Nat := 4

/-- An error number as bytes. -/
def encode (errno : Errno) : Bytes :=
  let word := errno.code.toUInt32
  [word.toUInt8, (word >>> 8).toUInt8, (word >>> 16).toUInt8,
    (word >>> 24).toUInt8]

/-- The error number that four bytes are. -/
def decode (bytes : Bytes) : Option Errno :=
  match bytes with
  | [first, second, third, fourth] =>
      some ⟨(first.toUInt32 ||| second.toUInt32 <<< 8 ||| third.toUInt32 <<< 16
        ||| fourth.toUInt32 <<< 24).toInt32⟩
  | _ => none

/-- The exit code of a child that could not become another program. -/
def failureCode : Int := 127

/-- Write what is left of a report. An interrupted call is repeated; if the pipe
takes nothing, the rest is lost. -/
def send (descriptor : Descriptor) : Nat → Bytes → Program Unit
  | _, [] => pure ()
  | 0, _ :: _ => .exhausted
  | rounds + 1, payload => do
      match ← Program.perform (.write descriptor payload) with
      | .ok 0 => pure ()
      | .ok count => send descriptor rounds (payload.drop count)
      | .error errno =>
          if errno = Errno.EINTR then send descriptor rounds payload
          else pure ()

/-- Report an error number and end. -/
def sendAndExit (rounds : Nat) (descriptor : Descriptor) (errno : Errno) :
    Program Empty := do
  send descriptor rounds (encode errno)
  let _ ← Program.perform (.close descriptor)
  Program.exit failureCode

end Report
end ChildProcess
