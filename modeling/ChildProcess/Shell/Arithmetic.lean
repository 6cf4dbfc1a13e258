import ChildProcess.Shell.Token

/-!
# Arithmetic

Expressions over whole numbers of 64 bits, with the operators of the command
language. Names stand for the values of variables; one without a value is zero.
-/

namespace ChildProcess
namespace Shell
namespace Arithmetic

/-- The binary operators, those that bind weakest first. -/
def levels : List (List String) :=
  [["||"], ["&&"], ["|"], ["^"], ["&"], ["==", "!="], ["<=", ">=", "<", ">"],
    ["<<", ">>"], ["+", "-"], ["*", "/", "%"]]

/-- A number of 64 bits. -/
def wrap (value : Int) : Int := Int.bmod value (Nat.pow 2 64)

/-- A truth value as a number. -/
def ofBool (value : Bool) : Int := if value then 1 else 0

/-- Apply a binary operator, unless that divides by zero. -/
def apply (operator : String) (left right : Int) : Option Int :=
  match operator with
  | "||" => some (ofBool (left != 0 || right != 0))
  | "&&" => some (ofBool (left != 0 && right != 0))
  | "|" => some (Int64.ofInt left ||| Int64.ofInt right).toInt
  | "^" => some (Int64.ofInt left ^^^ Int64.ofInt right).toInt
  | "&" => some (Int64.ofInt left &&& Int64.ofInt right).toInt
  | "==" => some (ofBool (left == right))
  | "!=" => some (ofBool (left != right))
  | "<=" => some (ofBool (left ≤ right))
  | ">=" => some (ofBool (right ≤ left))
  | "<" => some (ofBool (left < right))
  | ">" => some (ofBool (right < left))
  | "<<" => some (wrap (left * (Nat.pow 2 (right % 64).toNat : Int)))
  | ">>" => some (left / (Nat.pow 2 (right % 64).toNat : Int))
  | "+" => some (wrap (left + right))
  | "-" => some (wrap (left - right))
  | "*" => some (wrap (left * right))
  | "/" => if right = 0 then none else some (wrap (Int.tdiv left right))
  | "%" => if right = 0 then none else some (Int.tmod left right)
  | _ => none

/-- A text without the blanks in front. -/
def skip (text : Text) : Text :=
  text.dropWhile fun character => character == ' ' || character == '\t'
    || character == '\n'

/-- The operator of a level that a text starts with, with what follows. An operator
is not taken for the first half of a longer one. -/
def operator? (operators : List String) (text : Text) : Option (String × Text) :=
  operators.findSome? fun operator =>
    let spelled := operator.toList
    let rest := text.drop spelled.length
    let isLonger :=
      match spelled, rest with
      | ['|'], '|' :: _ | ['&'], '&' :: _ | ['<'], '<' :: _ | ['>'], '>' :: _ => true
      | _, _ => false
    if spelled.isPrefixOf text && !isLonger then some (operator, rest) else none

/-- The value of a digit. -/
def digit? (base : Nat) (character : Char) : Option Nat :=
  let value :=
    if character.isDigit then character.toNat - 48
    else if character.isLower then character.toNat - 87
    else if character.isUpper then character.toNat - 55
    else base
  if value < base then some value else none

/-- A number in decimal, octal or hexadecimal digits. -/
def literal? (digits : Text) : Option Int :=
  let read := fun (base : Nat) (digits : Text) =>
    (digits.foldlM
      (fun value character => (digit? base character).map (value * base + ·)) 0).map
        Int.ofNat
  match digits with
  | '0' :: 'x' :: rest | '0' :: 'X' :: rest =>
      if rest.isEmpty then none else read 16 rest
  | '0' :: rest => read 8 rest
  | _ => read 10 digits

/-- The value of a variable's text, which is zero for the empty one. -/
def valueOf? (text : Text) : Option Int :=
  match skip text with
  | [] => some 0
  | '-' :: digits => (literal? digits).map (- ·)
  | '+' :: digits => literal? digits
  | digits => literal? digits

/-- Whether a character may stand in a name or a number. -/
def isWordCharacter (character : Char) : Bool :=
  character.isAlphanum || character == '_'

mutual

/-- A conditional expression. -/
def conditional (lookup : Text → Text) : Nat → Text → Option (Int × Text)
  | 0, _ => none
  | depth + 1, text => do
      let (condition, rest) ← binary lookup depth levels text
      match skip rest with
      | '?' :: rest => do
          let (first, rest) ← conditional lookup depth rest
          match skip rest with
          | ':' :: rest => do
              let (second, rest) ← conditional lookup depth rest
              some (if condition != 0 then first else second, rest)
          | _ => none
      | rest => some (condition, rest)

/-- An expression with operators of some levels. -/
def binary (lookup : Text → Text) :
    Nat → List (List String) → Text → Option (Int × Text)
  | 0, _, _ => none
  | depth + 1, [], text => unary lookup depth text
  | depth + 1, operators :: tighter, text => do
      let (first, rest) ← binary lookup depth tighter text
      binaryRest lookup depth operators tighter first rest

/-- What follows on an operand, with operators of one level. -/
def binaryRest (lookup : Text → Text) :
    Nat → List String → List (List String) → Int → Text → Option (Int × Text)
  | 0, _, _, _, _ => none
  | depth + 1, operators, tighter, left, text =>
      match operator? operators (skip text) with
      | none => some (left, text)
      | some (operator, rest) => do
          let (right, rest) ← binary lookup depth tighter rest
          binaryRest lookup depth operators tighter (← apply operator left right) rest

/-- An operand with the operators in front of it. -/
def unary (lookup : Text → Text) : Nat → Text → Option (Int × Text)
  | 0, _ => none
  | depth + 1, text =>
      match skip text with
      | '-' :: rest => do
          let (value, rest) ← unary lookup depth rest
          some (wrap (-value), rest)
      | '+' :: rest => unary lookup depth rest
      | '!' :: rest => do
          let (value, rest) ← unary lookup depth rest
          some (ofBool (value == 0), rest)
      | '~' :: rest => do
          let (value, rest) ← unary lookup depth rest
          some (-value - 1, rest)
      | '(' :: rest => do
          let (value, rest) ← conditional lookup depth rest
          match skip rest with
          | ')' :: rest => some (value, rest)
          | _ => none
      | rest =>
          let word := rest.takeWhile isWordCharacter
          let behind := rest.drop word.length
          match word with
          | [] => none
          | first :: _ =>
              if first.isDigit then (literal? word).map (·, behind)
              else (valueOf? (lookup word)).map (·, behind)

end

/-- The value of an expression, if it is one. -/
def evaluate (lookup : Text → Text) (text : Text) : Option Int :=
  if (skip text).isEmpty then some 0
  else
    match conditional lookup (16 * (text.length + 2)) text with
    | some (value, rest) => if (skip rest).isEmpty then some value else none
    | none => none

end Arithmetic
end Shell
end ChildProcess
