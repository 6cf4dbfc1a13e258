import ChildProcess.Shell.Condition
import ChildProcess.Shell.Printing
import ChildProcess.Shell.State
import ChildProcess.Signal

/-!
# Simple utilities

Utilities that the command interpreter has built in and that exist as programs as
well. Each gets its arguments and a way to complain, and answers with a code.
-/

namespace ChildProcess
namespace Shell

/-- A utility. -/
abbrev Utility := (String → Program Unit) → List Text → Program Nat

namespace Utility

/-- Write to standard output for a utility; the code tells whether that
succeeded. -/
def print (name : String) (complain : String → Program Unit) (text : Text) :
    Program Nat := do
  if ← write 1 text then pure 0
  else do
    complain (name ++ ": " ++ name ++ ": I/O error")
    pure 1

/-- Write the arguments. -/
def echo : Utility := fun complain arguments =>
  print "echo" complain (Printing.echo arguments)

/-- Write the arguments in a format. -/
def printf : Utility := fun complain arguments =>
  match arguments with
  | [] => do
      complain "printf: usage: printf format [arg ...]"
      pure 2
  | pattern :: rest =>
      print "printf" complain (Printing.printf pattern rest)

/-- Find out whether a condition holds. -/
def test (name : String) : Utility := fun complain arguments => do
  let arguments? :=
    if name == "[" then
      if arguments.getLast? == some [']'] then some arguments.dropLast else none
    else some arguments
  match arguments? with
  | none => do
      complain (name ++ ": missing ]")
      pure 2
  | some arguments =>
      match ← Condition.evaluate arguments with
      | some true => pure 0
      | some false => pure 1
      | none => do
          complain (name ++ ": unexpected operator")
          pure 2

/-- The signal that a text names, with or without its prefix, or is the number of. -/
def signal? (text : Text) : Option Nat :=
  match Token.number? text with
  | some number => if number ≤ Signal.maximum then some number else none
  | none =>
      let name := String.ofList (text.map Char.toUpper)
      if name == "EXIT" then some 0
      else Signal.ofName? (if name.startsWith "SIG" then (name.drop 3).toString else name)

/-- The signal and the targets in the arguments of `kill`. -/
def killTargets? (arguments : List Text) : Option (Nat × List Text) :=
  match arguments with
  | ['-', '-'] :: targets => some (Signal.terminate, targets)
  | ['-', 's'] :: name :: targets | ['-', 'n'] :: name :: targets =>
      (signal? name).map (·, targets)
  | ('-' :: name) :: targets => (signal? name).map (·, targets)
  | targets => some (Signal.terminate, targets)

/-- Send a signal to processes one after another; the code tells whether all of them
got it. -/
def killEach (complain : String → Program Unit) (signal : Nat) :
    List Text → Program Nat
  | [] => pure 0
  | target :: rest => do
      let failed ←
        match Condition.number? target with
        | none => do
            complain ("kill: Illegal number: " ++ String.ofList target)
            pure true
        | some process =>
            match ← Program.perform (.signal process signal) with
            | .ok () => pure false
            | .error errno => do
                complain ("kill: " ++ errno.message ++ "\n")
                pure true
      let code ← killEach complain signal rest
      pure (if failed then 1 else code)

/-- Send a signal to processes. -/
def kill : Utility := fun complain arguments =>
  match killTargets? arguments with
  | none | some (_, []) => do
      complain
        ("kill: Usage: kill [-s sigspec | -signum | -sigspec] [pid | job]... or\n"
          ++ "kill -l [exitstatus]")
      pure 2
  | some (signal, targets) => killEach complain signal targets

/-- Write the path of the working directory. -/
def pwd : Utility := fun complain _ => do
  match ← Program.perform .currentDirectory with
  | .ok path => print "pwd" complain (Bytes.toCharacters path ++ ['\n'])
  | .error errno => do
      complain ("pwd: " ++ errno.message)
      pure 1

/-- The utility of a name. -/
def ofName? (name : String) : Option Utility :=
  match name with
  | "true" | ":" => some fun _ _ => pure 0
  | "false" => some fun _ _ => pure 1
  | "echo" => some echo
  | "printf" => some printf
  | "test" => some (test "test")
  | "[" => some (test "[")
  | "kill" => some kill
  | "pwd" => some pwd
  | _ => none

end Utility
end Shell
end ChildProcess
