import ChildProcess.Machine.NativeImage
import ChildProcess.Machine.Storage

/-!
# Becoming another program

What a file is decides how it is executed. A program that comes with the machine
and a native image are executed themselves. A file that starts with `#!` names its
interpreter in its first line, which gets the path of the file as an argument;
interpreters may be such files too, up to a depth. Any other file is in no format
that the machine knows.
-/

namespace ChildProcess
namespace Machine

/-- How much of a file is looked at to find an interpreter. -/
def headLength : Nat := 256

/-- How many interpreters may be interpreted in turn. -/
def interpreterDepth : Nat := 6

/-- The longest argument or variable with the zero byte behind it. -/
def longestArgument : Nat := 131072

/-- How many bytes all arguments and variables may take, with a pointer to each. -/
def argumentSpace : Nat := 2097152

/-- Whether a byte separates words in the first line of a script. -/
def isBlank (byte : UInt8) : Bool := byte == 32 || byte == 9

/-- Whether a byte ends a word in the first line of a script. -/
def endsWord (byte : UInt8) : Bool := isBlank byte || byte == 0

/-- Bytes without the blanks at their end. -/
def withoutBlanks (bytes : Bytes) : Bytes :=
  (bytes.reverse.dropWhile isBlank).reverse

/-- The first line of a script behind its mark, without the blanks at its end. The
file counts as continued by zero bytes. If the line does not end within what is
looked at, the name of the interpreter has to. -/
def scriptLine? (head : Bytes) : Option Bytes :=
  let text := (head ++ List.replicate (headLength - head.length) 0).drop 2
  let line := text.takeWhile fun byte => byte != 10 && byte != 0
  if text[line.length]? = some 10 then some (withoutBlanks line)
  else if (text.dropWhile isBlank).any endsWord then
    some (withoutBlanks text.dropLast)
  else none

/-- The interpreter that a file names, with at most one argument. -/
def interpreter? (head : Bytes) : Option (Bytes × List Bytes) := do
  let line ← scriptLine? head
  match line.dropWhile isBlank with
  | [] => none
  | words =>
      let name := words.takeWhile (!endsWord ·)
      let behind := (words.drop name.length).dropWhile isBlank
      let argument := behind.takeWhile (· != 0)
      some (name, if argument.isEmpty then [] else [argument])

/-- The node that a process may execute at a path. -/
def executableAt (machine : Machine) (id : ProcessId) (path : Bytes) :
    Except Errno Content := do
  let place ← (machine.view id).locate (machine.directory id) path
  match place with
  | .node node =>
      match machine.fileSystem.nodes[node]? with
      | none => throw Errno.ENOENT
      | some found =>
          if !found.content.isFile || found.permissions &&& 0o111 = 0 then
            throw Errno.EACCES
          else if machine.isWritten place then throw Errno.ETXTBSY
          else pure found.content
  | _ => throw Errno.EACCES

/-- What executing a path with some arguments does. -/
def programAt (machine : Machine) (id : ProcessId) (environment : List Bytes) :
    Nat → Bytes → List Bytes → Except Errno (Program Unit)
  | depth, path, arguments => do
      match depth, ← machine.executableAt id path with
      | 0, _ => throw Errno.ELOOP
      | _ + 1, .tool main => pure (main arguments environment)
      | depth + 1, .file bytes =>
          if NativeImage.isExecutable bytes then pure (NativeImage.program bytes)
          else if bytes.take 2 = [0x23, 0x21] then
            match interpreter? (bytes.take headLength) with
            | none => throw Errno.ENOEXEC
            | some ([], _) => throw Errno.EACCES
            | some (name, extra) =>
                programAt machine id environment depth name
                  (name :: extra ++ path :: arguments.drop 1)
          else throw Errno.ENOEXEC
      | _ + 1, _ => throw Errno.ENOEXEC

/-- Whether the arguments and variables fit into a new program. -/
def argumentsFit (texts : List Bytes) : Bool :=
  texts.all (fun text => decide (text.length < longestArgument))
    && decide
      ((texts.map fun text => text.length + 9).foldl (· + ·) 0 ≤ argumentSpace)

/-- A program that comes with the machine is put together from libraries, which
cannot be loaded if reading fails. -/
def isBroken (process : Process) (path? : Option Content) : Bool :=
  (match path? with | some (.tool _) => true | _ => false)
    && process.faults.any fun fault => fault.call == .read

/-- Let a process become another program. -/
def execute (machine : Machine) (id : ProcessId) (path : Bytes)
    (arguments environment : List Bytes) :
    Except Errno (Machine × Program Unit) := do
  let content ← machine.executableAt id path
  if !argumentsFit (arguments ++ environment) then throw Errno.E2BIG
  let program ←
    machine.programAt id environment interpreterDepth path arguments
  let machine := machine.keepDescriptors id fun _ slot => !slot.closesOnExec
  let machine := machine.modifyProcess id fun process =>
    { process with watchedSignals := [], notedSignals := [], interruptions := 0 }
  match machine.process? id with
  | none => throw Errno.ESRCH
  | some process =>
      pure (machine,
        if isBroken process (some content) then Program.exit 127 else program)

end Machine
end ChildProcess
