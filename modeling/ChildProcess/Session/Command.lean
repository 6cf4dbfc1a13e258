import ChildProcess.Runner.Command
import ChildProcess.Session.Basic

/-!
# Running commands in a session

A command is run under some options, or the whole command-line program is, with files
as its standard streams.
-/

namespace ChildProcess
namespace Session

/-- Run a command. The answer tells how many more descriptors are open than
before. -/
def runCommand (parent : Environment) (command : List String)
    (options : Runner.RunOptions) (paths : PerStream (Option Bytes)) :
    Session (Except Runner.RunError Int × Int) := do
  let before := (← self).descriptors.keys.length
  let result ← perform (Runner.runCommand parent command options paths)
  let after := (← self).descriptors.keys.length
  pure (result, (after : Int) - before)

/-- The names of files for the standard streams of the command-line program, beside
the working directory. -/
def streamFiles : PerStream String := ⟨"../stdin", "../stdout", "../stderr"⟩

/-- What the command-line program leaves. -/
structure ProgramOutcome where
  exitCode : Int
  output : Bytes
  errors : Bytes
  deriving Repr

/-- Run the command-line program with some input. -/
def runProgram (environment : Environment) (arguments : List Bytes) (input : Bytes) :
    Session ProgramOutcome := do
  provideStreams streamFiles input
  let exitCode ← perform (Runner.program environment arguments)
  let output ← content? (Bytes.ofText streamFiles.stdout)
  let errors ← content? (Bytes.ofText streamFiles.stderr)
  pure ⟨exitCode, output.getD [], errors.getD []⟩

end Session
end ChildProcess
