import ChildProcess.Machine.FileSystem
import ChildProcess.Shell.Run

/-!
# The command interpreter as a program

The interpreter takes its commands from an argument, from a file, or from standard
input. What it reads from a descriptor it reads in blocks, and it runs whole lines as
soon as they are there.
-/

namespace ChildProcess
namespace Shell

open Program (perform)

/-- Where commands come from. -/
inductive CommandSource
  | text (script : Text)
  | file (path : Text)
  | standardInput
  deriving DecidableEq, Repr, Inhabited

/-- How the interpreter has been called. -/
structure Invocation where
  source : CommandSource
  /-- What the interpreter itself is called. -/
  caller : Text
  /-- What its commands are called. -/
  name : Text
  arguments : List Text
  /-- The letters of its options. -/
  options : List Char
  deriving DecidableEq, Repr, Inhabited

namespace Invocation

/-! ## Arguments -/

/-- The letters of the options that are known. -/
def knownOptions : List Char := "abCefIilmnpqsuVvxc".toList

/-- The letters of the options in front, and the arguments behind them. -/
def takeOptions : List Text → List Char × List Text
  | ['-', '-'] :: rest | ['-'] :: rest => ([], rest)
  | ('-' :: letters) :: rest =>
      let (others, rest) := takeOptions rest
      (letters ++ others, rest)
  | ('+' :: _) :: rest => takeOptions rest
  | rest => ([], rest)

/-- Read the arguments, the first of which is the name of the interpreter. -/
def ofArguments (words : List Text) : Except String Invocation :=
  let caller := words.headD []
  let (options, rest) := takeOptions (words.drop 1)
  match options.find? (!knownOptions.contains ·) with
  | some letter => .error ("Illegal option -" ++ String.singleton letter)
  | none =>
      if options.contains 'c' then
        match rest with
        | [] => .error "-c requires an argument"
        | [script] => .ok ⟨.text script, caller, caller, [], options⟩
        | script :: name :: arguments =>
            .ok ⟨.text script, caller, name, arguments, options⟩
      else
        match rest, options.contains 's' with
        | path :: arguments, false =>
            .ok ⟨.file path, caller, path, arguments, options⟩
        | arguments, _ =>
            .ok ⟨.standardInput, caller, caller, arguments, options⟩

/-! ## Reading commands -/

/-- How many bytes of commands are read at once. -/
def blockSize : Nat := 8191

/-- A text up to the end of its last whole line, and what is behind. -/
def splitLines (text : Text) : Text × Text :=
  let rest := (text.reverse.takeWhile (· != '\n')).reverse
  (text.take (text.length - rest.length), rest)

/-- The next block of commands, which is empty at the end. -/
def readBlock (descriptor : Descriptor) : Program Text := do
  match ← Program.readSome Program.patience descriptor blockSize with
  | .ok block => pure (Bytes.toCharacters block)
  | .error _ => pure []

/-- Run the commands that a descriptor yields, where some text is there already. -/
def runFrom (descriptor : Descriptor) : Nat → Nat → Text → Action Flow
  | 0, _, _ => (Program.exhausted : Program Flow)
  | depth + 1, line, pending => do
      let block ← (readBlock descriptor : Program Text)
      let text := pending ++ block
      if block.isEmpty then
        Run.source Program.patience {} false { tokens := Token.ofText text, line }
      else
        let (whole, rest) := splitLines text
        let given : Source := { tokens := Token.ofText whole, line }
        if Reader.isIncomplete given (given.tokens.length + 1) then
          runFrom descriptor depth line text
        else do
          match ← Run.source Program.patience {} false given with
          | .exit => pure .exit
          | _ => runFrom descriptor depth given.lastLine rest

/-- Open a file with commands under a number that commands do not see. -/
def openScript (path : Text) : Program (Except String Descriptor) := do
  match ← perform (.openFile (Bytes.ofCharacters path) .reading) with
  | .error errno => pure (.error (Redirection.openFailure path .reading errno))
  | .ok descriptor => do
      match ← perform (.duplicateFrom descriptor Redirection.keptFloor) with
      | .error _ => pure (.ok descriptor)
      | .ok copy => do
          let _ ← perform (.setCloseOnExec copy true)
          let _ ← perform (.close descriptor)
          pure (.ok copy)

/-- Run the commands. -/
def run (invocation : Invocation) : Action Flow := do
  match invocation.source with
  | .text script =>
      Run.source Program.patience {} true { tokens := Token.ofText script }
  | .standardInput => runFrom 0 Program.patience 1 []
  | .file path =>
      match ← (openScript path : Program _) with
      | .error reason => do
          modify fun state => { state with name := invocation.caller, line := 0 }
          Run.fail reason
      | .ok descriptor => runFrom descriptor Program.patience 1 []

/-- The interpreter as a program. -/
def main : Tool := fun arguments environment => do
  perform (.setDisposition Signal.child .standard)
  let words := arguments.map Bytes.toCharacters
  match ofArguments words with
  | .error reason => do
      let _ ← write 2 (words.headD [] ++ (": 0: " ++ reason ++ "\n").toList)
      Program.exit 2
  | .ok invocation => do
      let process ← perform .processId
      let directory ← Builtin.workingDirectory
      let state :=
        State.initial invocation.name invocation.arguments environment process
      let state := (state.set "PWD".toList directory).markExported "PWD".toList
      let (code, _) ←
        (Run.toEnd Program.patience invocation.run).run
          { state with options := invocation.options.filter (· != 'c') }
      Program.exit (code : Nat)

end Invocation
end Shell
end ChildProcess
