import ChildProcess.Shell.Expansion
import ChildProcess.Shell.Job
import ChildProcess.Shell.Utility

/-!
# Built-in commands

Commands that change what the interpreter itself knows or does: its variables, its
working directory, its arguments, what it does about signals. A few of them are
special: if one of those fails, the interpreter ends.
-/

namespace ChildProcess
namespace Shell

open Program (perform)

/-- A built-in command: it answers a code, or why it fails. -/
abbrev Builtin := List Text → Action (Except String Nat)

namespace Builtin

/-- The code of a built-in command that fails. -/
def failureCode : Nat := 2

/-- Whether the interpreter ends when a command fails. -/
def isSpecial (name : String) : Bool :=
  ["break", ":", ".", "continue", "eval", "exec", "exit", "export", "return", "set",
    "shift", "times", "trap", "unset"].contains name

/-- The path of the working directory. -/
def workingDirectory : Program Text := do
  match ← perform .currentDirectory with
  | .ok path => pure (Bytes.toCharacters path)
  | .error _ => pure []

/-- Go to another directory. -/
def changeDirectory : Builtin := fun arguments => do
  let state ← get
  let target :=
    match arguments with
    | [] => (state.get? "HOME".toList).getD []
    | ['-'] :: _ => (state.get? "OLDPWD".toList).getD []
    | first :: _ => first
  let answer ←
    if target.isEmpty then pure (.ok ())
    else perform (.changeDirectory (Bytes.ofCharacters target))
  match answer with
  | .error _ => pure (.error ("can't cd to " ++ String.ofList target))
  | .ok () => do
      let path ← workingDirectory
      let before := (state.get? "PWD".toList).getD []
      set ((state.set "OLDPWD".toList before).set "PWD".toList path)
      if arguments == [['-']] then
        let _ ← write 1 (path ++ ['\n'])
      pure (.ok 0)

/-- Export variables, some of which may be set at the same time. -/
def exportVariables : Builtin := fun arguments => do
  let names := arguments.filter (· != "-p".toList)
  let invalid? := names.find? fun argument =>
    !Reader.isName (argument.takeWhile (· != '='))
  match invalid? with
  | some argument => pure (.error (String.ofList argument ++ ": bad variable name"))
  | none => do
      names.forM fun argument =>
        match Reader.assignment? argument with
        | some (name, value) =>
            modify fun state => (state.set name value).markExported name
        | none => modify (·.markExported argument)
      pure (.ok 0)

/-- Unset variables. -/
def unsetVariables : Builtin := fun arguments => do
  arguments.forM fun name => modify (·.unset name)
  pure (.ok 0)

/-- Set options and arguments. -/
def setOptions : Builtin
  | [] => pure (.ok 0)
  | ['-', '-'] :: arguments => do
      modify fun state => { state with arguments }
      pure (.ok 0)
  | ('-' :: letters) :: rest => do
      modify (·.withOptions letters true)
      setOptions rest
  | ('+' :: letters) :: rest => do
      modify (·.withOptions letters false)
      setOptions rest
  | arguments => do
      modify fun state => { state with arguments }
      pure (.ok 0)

/-- Drop arguments from the front. -/
def shiftArguments : Builtin := fun arguments => do
  let state ← get
  match (arguments.head?.getD ['1'] |> Token.number?) with
  | none => pure (.error ("Illegal number: " ++ String.ofList (arguments.headD [])))
  | some count =>
      if count > state.arguments.length then pure (.error "can't shift that many")
      else do
        set { state with arguments := state.arguments.drop count }
        pure (.ok 0)

/-! ## Reading a line -/

/-- The next line of standard input without its end, and whether it has one. A
backslash quotes the character behind it, or hides the end of the line, unless the
line is taken as it is. -/
def takeLine (isRaw : Bool) : Nat → Program (Marked × Bool)
  | 0 => .exhausted
  | rounds + 1 => do
      match ← perform (.read 0 1) with
      | .ok [10] => pure ([], true)
      | .ok [92] =>
          if isRaw then do
            let (rest, isComplete) ← takeLine isRaw rounds
            pure (('\\', false) :: rest, isComplete)
          else
            match ← perform (.read 0 1) with
            | .ok [10] => takeLine isRaw rounds
            | .ok [byte] => do
                let (rest, isComplete) ← takeLine isRaw rounds
                pure ((Char.ofNat byte.toNat, true) :: rest, isComplete)
            | _ => pure ([], false)
      | .ok (byte :: _) => do
          let (rest, isComplete) ← takeLine isRaw rounds
          if byte = 0 then pure (rest, isComplete)
          else pure ((Char.ofNat byte.toNat, false) :: rest, isComplete)
      | _ => pure ([], false)

/-- Whether a character that is not quoted separates fields. -/
def isSeparator (separators : Text) (entry : Char × Bool) : Bool :=
  !entry.2 && separators.contains entry.1

/-- Whether a character that is not quoted is a blank that separates fields. -/
def isBlank (separators : Text) (entry : Char × Bool) : Bool :=
  isSeparator separators entry && Expansion.isSpace entry.1

/-- A line divided among some names. The last one gets all that is left. -/
def divide (separators : Text) : List Text → Marked → List (Text × Text)
  | [], _ => []
  | [name], line =>
      let isBlank := isBlank separators
      let rest := ((line.dropWhile isBlank).reverse.dropWhile isBlank).reverse
      [(name, Pattern.text rest)]
  | name :: names, line =>
      let isBlank := isBlank separators
      let line := line.dropWhile isBlank
      let field := line.takeWhile (!isSeparator separators ·)
      let behind := (line.drop field.length).dropWhile isBlank
      let rest :=
        match behind with
        | entry :: rest => if isSeparator separators entry then rest else behind
        | [] => []
      (name, Pattern.text field) :: divide separators names rest

/-- Read a line into variables. -/
def readVariables : Builtin := fun arguments => do
  let isRaw := arguments.head? == some ['-', 'r']
  let names := if isRaw then arguments.drop 1 else arguments
  match names with
  | [] => pure (.error "arg count")
  | _ => do
      let (line, isComplete) ← (takeLine isRaw Program.patience : Program _)
      let separators := Expansion.separators (← get)
      (divide separators names line).forM fun (name, value) => modify (·.set name value)
      pure (.ok (if isComplete then 0 else 1))

/-! ## Processes and signals -/

/-- Collect children until there are none. -/
def collectAll : Nat → Program Unit
  | 0 => .exhausted
  | rounds + 1 => do
      match ← Job.collect (-1) with
      | none => pure ()
      | some _ => collectAll rounds

/-- Wait for processes, or for all children. -/
def waitForProcesses : Builtin
  | [] => do
      (collectAll Program.patience : Program Unit)
      pure (.ok 0)
  | arguments => do
      let words ← arguments.mapM fun argument =>
        match Token.number? argument with
        | none => pure none
        | some process => (Job.collect process : Program _)
      match words.getLast? with
      | some (some word) => pure (.ok (Job.codeOf word))
      | _ => pure (.ok 127)

/-- Say what is done when a signal arrives, or when the interpreter ends. With `-`
signals act as usual, and with an empty text they are ignored. -/
def trapSignals : Builtin
  | [] => pure (.ok 0)
  | action :: names => do
      let invalid? := names.find? fun name => (Utility.signal? name).isNone
      match invalid? with
      | some name => pure (.error (String.ofList name ++ ": bad trap"))
      | none => do
          names.forM fun name =>
            match Utility.signal? name with
            | none => pure ()
            | some signal => do
                let text := if action == ['-'] then [] else action
                modify (·.withTrap signal text)
                let disposition : Disposition :=
                  if action.isEmpty then .ignore
                  else if text.isEmpty then .standard
                  else .note
                if signal ≠ 0 then perform (.setDisposition signal disposition)
          pure (.ok 0)

/-- A utility as a built-in command. -/
def ofUtility (utility : Utility) : Builtin := fun arguments => do
  let state ← get
  let code ← (utility (complainHere state) arguments : Program Nat)
  pure (.ok code)

/-- The built-in command of a name. -/
def ofName? (name : String) : Option Builtin :=
  match name with
  | "cd" => some changeDirectory
  | "export" => some exportVariables
  | "unset" => some unsetVariables
  | "set" => some setOptions
  | "shift" => some shiftArguments
  | "read" => some readVariables
  | "wait" => some waitForProcesses
  | "trap" => some trapSignals
  | "ulimit" | "umask" => some fun _ => pure (.ok 0)
  | _ => (Utility.ofName? name).map ofUtility

end Builtin
end Shell
end ChildProcess
