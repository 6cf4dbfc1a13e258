import ChildProcess.Shell.Token
import ChildProcess.Program

/-!
# Conditions

The conditions of `test`: on texts, on numbers and on files. How arguments are read
depends on how many there are, so that a text can look like an operator.
-/

namespace ChildProcess
namespace Shell
namespace Condition

/-- The number that an argument is. -/
def number? : Text → Option Int
  | '-' :: digits => (Token.number? digits).map fun value => -Int.ofNat value
  | '+' :: digits => (Token.number? digits).map Int.ofNat
  | digits => (Token.number? digits).map Int.ofNat

/-- Whether two numbers are related as an operator says. -/
def compare? (relation : Int → Int → Bool) (left right : Text) : Option Bool := do
  some (relation (← number? left) (← number? right))

/-- A condition on two arguments. -/
def binary? (operator : String) (left right : Text) : Option Bool :=
  match operator with
  | "=" => some (left == right)
  | "!=" => some (left != right)
  | "<" => some (left < right)
  | ">" => some (right < left)
  | "-eq" => compare? (· == ·) left right
  | "-ne" => compare? (· != ·) left right
  | "-lt" => compare? (· < ·) left right
  | "-le" => compare? (· ≤ ·) left right
  | "-gt" => compare? (· > ·) left right
  | "-ge" => compare? (· ≥ ·) left right
  | _ => none

/-- What is asked about a file. -/
def onFile? (operator : String) : Option (FileInfo → Bool) :=
  match operator with
  | "-e" | "-r" | "-w" => some fun _ => true
  | "-f" => some FileInfo.isFile
  | "-d" => some FileInfo.isDirectory
  | "-x" => some fun info => info.isDirectory || info.permissions &&& 0o111 != 0
  | "-s" => some fun info => info.size != 0
  | "-h" | "-L" => some FileInfo.isLink
  | _ => none

/-- A condition on one argument. -/
def unary (operator : String) (argument : Text) : Program (Option Bool) := do
  match operator, onFile? operator with
  | "-n", _ => pure (some !argument.isEmpty)
  | "-z", _ => pure (some argument.isEmpty)
  | _, none => pure none
  | _, some question => do
      let follows := operator != "-h" && operator != "-L"
      match ← Program.perform (.fileInfo (Bytes.ofCharacters argument) follows) with
      | .ok info => pure (some (question info))
      | .error _ => pure (some false)

/-- A condition of few arguments. -/
def simple : List Text → Program (Option Bool)
  | [] => pure (some false)
  | [single] => pure (some !single.isEmpty)
  | ['!'] :: rest => do
      let value? ← simple rest
      pure (value?.map (!·))
  | [operator, argument] => unary (String.ofList operator) argument
  | [left, operator, right] => pure (binary? (String.ofList operator) left right)
  | _ => pure none

/-- A condition that holds if all of several do. -/
def all : List (List Text) → Program (Option Bool)
  | [] => pure (some true)
  | first :: rest => do
      match ← simple first with
      | some true => all rest
      | other => pure other

/-- A condition that holds if any of several does. -/
def any : List (List (List Text)) → Program (Option Bool)
  | [] => pure (some false)
  | first :: rest => do
      match ← all first with
      | some false => any rest
      | other => pure other

/-- Split arguments at a word. -/
def splitAt (word : Text) : List Text → List (List Text)
  | [] => [[]]
  | argument :: rest =>
      if argument == word then [] :: splitAt word rest
      else
        match splitAt word rest with
        | [] => [[argument]]
        | first :: others => (argument :: first) :: others

/-- Whether a condition holds, if it is one. -/
def evaluate (arguments : List Text) : Program (Option Bool) :=
  if arguments.length ≤ 3 then simple arguments
  else any ((splitAt "-o".toList arguments).map (splitAt "-a".toList))

end Condition
end Shell
end ChildProcess
