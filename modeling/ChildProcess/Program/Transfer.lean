import ChildProcess.Program

/-!
# Moving bytes through descriptors

A call that reads or writes may be interrupted by a signal and may move fewer
bytes than it was asked to. The programs here repeat interrupted calls, read until
a number of bytes or the end of the file is there, and write until nothing is
left. A stream may have lost its descriptor: reading from it finds the end of the
file, and writing to it fails.
-/

namespace ChildProcess
namespace Program

/-- Read at most so many bytes. No bytes are the end of the file. -/
def readSome (rounds : Nat) (descriptor : Descriptor) (count : Nat) :
    Program (Except SystemError Bytes) := do
  let answer ← retrying (perform (.read descriptor count)) rounds
  pure (answer.mapError .os)

/-- Write some of the bytes; the answer is how many. -/
def writeSome (rounds : Nat) (descriptor : Descriptor) (data : Bytes) :
    Program (Except SystemError Nat) := do
  let answer ← retrying (perform (.write descriptor data)) rounds
  pure (answer.mapError .os)

/-- Read pieces until so many bytes or the end of the file is there. -/
def readPieces
    (read : Nat → Program (Except SystemError Bytes)) :
    Nat → Nat → Program (Except SystemError Bytes)
  | 0, _ => .exhausted
  | pieces + 1, missing =>
      if missing = 0 then pure (.ok [])
      else do
        match ← read missing with
        | .error cause => pure (.error cause)
        | .ok [] => pure (.ok [])
        | .ok piece =>
            match ← readPieces read pieces (missing - piece.length) with
            | .error cause => pure (.error cause)
            | .ok rest => pure (.ok (piece ++ rest))

/-- Read until so many bytes or the end of the file is there. -/
def readFully (rounds : Nat) (descriptor : Descriptor) (count : Nat) :
    Program (Except SystemError Bytes) :=
  readPieces (readSome rounds descriptor) (count + 1) count

/-- How many bytes are asked for at once by those who read to the end. -/
def pieceSize : Nat := 8192

/-- Read pieces until the end of the file is there. -/
def readToEnd
    (read : Nat → Program (Except SystemError Bytes)) :
    Nat → Program (Except SystemError Bytes)
  | 0 => .exhausted
  | rounds + 1 => do
      match ← read pieceSize with
      | .error cause => pure (.error cause)
      | .ok [] => pure (.ok [])
      | .ok piece =>
          match ← readToEnd read rounds with
          | .error cause => pure (.error cause)
          | .ok rest => pure (.ok (piece ++ rest))

/-- Write pieces until nothing is left. -/
def writeAll
    (write : Bytes → Program (Except SystemError Nat)) :
    Nat → Bytes → Program (Except SystemError Unit)
  | _, [] => pure (.ok ())
  | 0, _ :: _ => .exhausted
  | rounds + 1, data => do
      match ← write data with
      | .error cause => pure (.error cause)
      | .ok 0 =>
          pure (.error (.described .writeZero "failed to write whole buffer"))
      | .ok count => writeAll write rounds (data.drop count)

end Program

/-- Why nothing can be written to a stream without a descriptor. -/
def notConnected : SystemError :=
  .described .notConnected "stream is not connected to the child process"

/-- Read from a stream that may have no descriptor. -/
def readStream (rounds : Nat) (stream : Option Descriptor) (count : Nat) :
    Program (Except SystemError Bytes) :=
  match stream with
  | some descriptor => Program.readSome rounds descriptor count
  | none => pure (.ok [])

/-- Write to a stream that may have no descriptor. -/
def writeStream (rounds : Nat) (stream : Option Descriptor) (data : Bytes) :
    Program (Except SystemError Nat) :=
  match stream with
  | some descriptor => Program.writeSome rounds descriptor data
  | none => pure (.error notConnected)

/-- Close what a stream or another owner holds; a failure goes to the log. -/
def dropDescriptor (owned : Option Descriptor) : Program Unit := do
  match owned with
  | none => pure ()
  | some descriptor =>
      match ← Program.perform (.close descriptor) with
      | .ok () => pure ()
      | .error errno =>
          Program.log .warn (some .fds)
            ("failed to close descriptor: i/o error: "
              ++ (SystemError.os errno).message)

end ChildProcess
