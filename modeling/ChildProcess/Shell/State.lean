import ChildProcess.Program.Transfer
import ChildProcess.Shell.Command

/-!
# The state of the command interpreter
-/

namespace ChildProcess
namespace Shell

/-- A variable; an exported one is in the environment of commands. -/
structure Variable where
  value : Text
  isExported : Bool := false
  deriving DecidableEq, Repr, Inhabited

/-- What the interpreter knows. -/
structure State where
  /-- Its name, which stands in front of its messages. -/
  name : Text
  arguments : List Text
  bindings : OrderedMap Text Variable := .empty
  /-- The code of the last command. -/
  status : Nat := 0
  /-- Its process, which subshells take for their own. -/
  process : ProcessId
  lastBackground? : Option ProcessId := none
  /-- The letters of its options that are on. -/
  options : List Char := []
  functions : OrderedMap Text Command := .empty
  /-- How many loops are around the command at hand. -/
  loops : Nat := 0
  /-- What is done when a signal arrives, or, for zero, at the end. -/
  traps : OrderedMap Nat Text := .empty
  /-- The code of the last substitution in the command at hand. -/
  substituted? : Option Nat := none
  /-- The line of the command at hand. -/
  line : Nat := 1

namespace State

/-- The value of a variable that is set. -/
def get? (state : State) (name : Text) : Option Text :=
  (state.bindings.get? name).map Variable.value

/-- Set a variable. -/
def set (state : State) (name value : Text) : State :=
  let isExported := (state.bindings.get? name).any Variable.isExported
  { state with bindings := state.bindings.insert name ⟨value, isExported⟩ }

/-- Export a variable, which is set to nothing unless it has a value. -/
def markExported (state : State) (name : Text) : State :=
  let value := (state.get? name).getD []
  { state with bindings := state.bindings.insert name ⟨value, true⟩ }

/-- Unset a variable. -/
def unset (state : State) (name : Text) : State :=
  { state with bindings := state.bindings.erase name }

/-- Whether a failing command ends the interpreter. -/
def exitsOnError (state : State) : Bool := state.options.contains 'e'

/-- Turn options on or off. -/
def withOptions (state : State) (letters : List Char) (value : Bool) : State :=
  let others := state.options.filter (!letters.contains ·)
  { state with options := if value then letters ++ others else others }

/-- Whether anything is to be done when a signal arrives, or at the end. -/
def hasTraps (state : State) : Bool := !state.traps.entries.isEmpty

/-- Say what is done when a signal arrives; no text stands for nothing. -/
def withTrap (state : State) (signal : Nat) (text : Text) : State :=
  let others := state.traps.erase signal
  { state with traps := if text.isEmpty then others else others.insert signal text }

/-- Set the code of the last command. -/
def withStatus (state : State) (status : Nat) : State := { state with status }

/-- Where commands are looked for. -/
def searchPath (state : State) : Text :=
  (state.get? "PATH".toList).getD []

/-- The environment of commands. -/
def environment (state : State) : List Bytes :=
  state.bindings.entries.filterMap fun (name, binding) =>
    if binding.isExported then
      some (Bytes.ofCharacters (name ++ '=' :: binding.value))
    else none

/-- Where commands are looked for unless the environment says otherwise. -/
def defaultPath : Text :=
  "/usr/local/sbin:/usr/local/bin:/usr/sbin:/usr/bin:/sbin:/bin".toList

/-- The state at the start. Variables whose names are no names are left out. -/
def initial (name : Text) (arguments : List Text) (environment : List Bytes)
    (process : ProcessId) : State :=
  let own : OrderedMap Text Variable :=
    OrderedMap.empty.insert "PATH".toList ⟨defaultPath, false⟩
  let bindings := environment.foldl
    (fun (known : OrderedMap Text Variable) entry =>
      let text := Bytes.toCharacters entry
      match Reader.assignment? text with
      | some (name, value) => known.insert name ⟨value, true⟩
      | none => known)
    own
  { name, arguments, bindings, process }

end State

/-- Write a text to a descriptor. -/
def write (descriptor : Descriptor) (text : Text) : Program Bool := do
  match ← Program.writeAll (Program.writeSome Program.patience descriptor)
      Program.patience (Bytes.ofCharacters text) with
  | .ok () => pure true
  | .error _ => pure false

/-- Write a message to standard error, behind the name of the interpreter. -/
def complain (state : State) (message : String) : Program Unit := do
  let _ ← write 2 (state.name ++ ": ".toList ++ message.toList ++ ['\n'])

/-- Write a message about the command at hand. -/
def complainHere (state : State) (message : String) : Program Unit :=
  complain state (toString state.line ++ ": " ++ message)

end Shell
end ChildProcess
