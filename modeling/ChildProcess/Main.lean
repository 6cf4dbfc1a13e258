import ChildProcess.Session.Command
import ChildProcess.Tools.Standard

/-!
# The command line

The command-line program is run on a standard machine. Standard input is read to its
end beforehand, and what the program writes is printed in the end.
-/

namespace ChildProcess

/-- The variables that the program, or the programs that it runs, look at. -/
def consultedVariables : List String :=
  ["PATH", "HOME", "XDG_CONFIG_HOME", Runner.Arguments.settingsVariable]

/-- The variables that are looked at, as far as they are set. -/
def inheritedEnvironment : IO Environment := do
  let pairs ← consultedVariables.filterMapM fun name => do
    let value? ← IO.getEnv name
    pure (value?.map fun value => (Bytes.ofText name, Bytes.ofText value))
  pure (Environment.ofPairs pairs)

/-- Everything that a stream yields. -/
partial def readInput (input : IO.FS.Stream) : IO Bytes := do
  let block ← input.read 65536
  if block.isEmpty then pure []
  else do
    let rest ← readInput input
    pure (block.data.toList ++ rest)

/-- Write bytes to a stream. -/
def writeOutput (output : IO.FS.Stream) (data : Bytes) : IO Unit := do
  output.write ⟨data.toArray⟩
  output.flush

end ChildProcess

open ChildProcess in
/-- Run the command-line program on a standard machine. -/
def main (arguments : List String) : IO UInt32 := do
  let environment ← inheritedEnvironment
  let input ← readInput (← IO.getStdin)
  let session := Session.runProgram environment (arguments.map Bytes.ofText) input
  match session.run' (Machine.standard Tools.standard) with
  | none => pure 1
  | some outcome => do
      writeOutput (← IO.getStdout) outcome.output
      writeOutput (← IO.getStderr) outcome.errors
      pure (UInt32.ofNat (outcome.exitCode % 256).toNat)
