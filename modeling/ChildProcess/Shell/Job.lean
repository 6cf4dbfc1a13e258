import ChildProcess.Shell.State
import ChildProcess.Signal

/-!
# Processes of the command interpreter

The interpreter does work in processes of its own, waits for them, and becomes other
programs. A program is looked for along the search path unless its name is a path. A
file that is in no format that the operating system knows is a script.
-/

namespace ChildProcess
namespace Shell

open Program (perform)

/-- What the interpreter does until it has a result. -/
abbrev Action := StateT State Program

/-- Write a message about the command at hand. -/
def report (message : String) : Action Unit := do
  complainHere (← get) message

/-- Set the code of the last command. -/
def setStatus (status : Nat) : Action Unit :=
  modify (·.withStatus status)

namespace Job

/-- Start a process that does something and ends with a code. The answer is its
number. -/
def start (work : Action Nat) : Action (Option ProcessId) := do
  match ← perform .fork with
  | .error _ => do
      report "Cannot fork"
      pure none
  | .ok (.parent process) => pure (some process)
  | .ok .child => do
      (← get).traps.keys.forM fun signal =>
        if signal = 0 then pure ()
        else (perform (.setDisposition signal .standard) : Program Unit)
      modify fun state => { state with traps := .empty }
      let code ← work
      Program.exit (code : Nat)

/-- The code for a process that has ended. -/
def codeOf (word : StatusWord) : Nat :=
  match word.killSignal? with
  | some signal => 128 + signal
  | none => ((word.exitStatus?.map Int.toNat).getD 0) % 256

/-- Say by what signal a process was ended, unless that is usual. -/
def announce (word : StatusWord) : Program Unit := do
  match word.killSignal? with
  | none => pure ()
  | some signal =>
      if signal = Signal.interrupt || signal = Signal.pipe then pure ()
      else
        let _ ← write 2 ((Signal.description signal).toList ++ ['\n'])

/-- Wait until a process has ended. -/
def collect (process : ProcessId) : Program (Option StatusWord) := do
  match ← Program.retrying (perform (.collect process .untilEnd)) Program.patience with
  | .ok (_, word) => pure (some word)
  | .error _ => pure none

/-- Wait for a process that the commands that follow depend on. -/
def await (process : ProcessId) : Program Nat := do
  match ← collect process with
  | none => pure 0
  | some word => do
      announce word
      pure (codeOf word)

/-- Wait for processes one after another; the code is that of the last one. -/
def awaitAll : List ProcessId → Program Nat
  | [] => pure 0
  | [last] => await last
  | first :: rest => do
      let _ ← await first
      awaitAll rest

/-! ## Becoming another program -/

/-- The program that scripts are executed with. -/
def interpreter : Text := "/bin/sh".toList

/-- Become the program at a path. The answer is why that fails. -/
def becomeAt (path : Text) (words : List Text) (environment : List Bytes) :
    Program Errno := do
  let execute := fun (path : Text) (words : List Text) =>
    perform
      (.execute (Bytes.ofCharacters path) (words.map Bytes.ofCharacters) environment)
  let errno ← execute path words
  if errno = Errno.ENOEXEC then execute interpreter (interpreter :: path :: words.drop 1)
  else pure errno

/-- The paths at which a command is looked for. -/
def candidates (searchPath name : Text) : List Text :=
  if name.contains '/' then [name]
  else
    (Bytes.fields 58 (Bytes.ofCharacters searchPath)).map fun directory =>
      if directory.isEmpty then name
      else Bytes.toCharacters directory ++ '/' :: name

/-- Whether an error says that there is nothing at a path. -/
def isAbsence (errno : Errno) : Bool :=
  errno == Errno.ENOENT || errno == Errno.ENOTDIR

/-- Become the first program of some paths that there is. The answer is why that
fails. -/
def becomeFirst (words : List Text) (environment : List Bytes) :
    Errno → List Text → Program Errno
  | errno, [] => pure errno
  | errno, path :: rest => do
      let reason ← becomeAt path words environment
      becomeFirst words environment (if isAbsence reason then errno else reason) rest

/-- The code of a command that cannot be executed. -/
def failureCode (errno : Errno) : Nat :=
  if isAbsence errno || errno = Errno.ELOOP || errno = Errno.ENAMETOOLONG then 127
  else 126

/-- Become the program of a command. If that fails, say why, behind the name of
whoever asked for it, and answer the code. -/
def become (origin : String) (words : List Text) : Action Nat := do
  let state ← get
  let name := words.headD []
  let environment := state.environment
  let errno ←
    if name.contains '/' then becomeAt name words environment
    else becomeFirst words environment Errno.ENOENT (candidates state.searchPath name)
  let reason := if isAbsence errno then "not found" else errno.message
  report (origin ++ String.ofList name ++ ": " ++ reason)
  pure (failureCode errno)

end Job
end Shell
end ChildProcess
