import ChildProcess.Decimal.Binary64

/-!
# Reading decimal numbers

A decimal number is a sign, digits with at most one point among them, and an
exponent; `inf`, `infinity` and `nan` in any case are numbers too.
-/

namespace ChildProcess
namespace Decimal

/-- Why a text is not a number. -/
inductive ReadError
  | empty
  | invalid
  deriving DecidableEq, Repr, Inhabited

/-- The text of the error. -/
def ReadError.message : ReadError → String
  | .empty => "cannot parse float from empty string"
  | .invalid => "invalid float literal"

/-- The number that decimal digits are. -/
def digitsValue (digits : List Char) : Nat :=
  digits.foldl (fun value digit => value * 10 + (digit.toNat - 48)) 0

/-- A sign and what follows it. -/
def readSign : List Char → Bool × List Char
  | '-' :: rest => (true, rest)
  | '+' :: rest => (false, rest)
  | characters => (false, characters)

/-- An exponent up to the end of the text. -/
def readExponent : List Char → Option Int
  | [] => some 0
  | mark :: rest =>
      let (signed, digits) := readSign rest
      if (mark = 'e' ∨ mark = 'E') ∧ !digits.isEmpty ∧ digits.all Char.isDigit then
        let value : Int := digitsValue digits
        some (if signed then -value else value)
      else none

/-- Digits with at most one point, and an exponent. -/
def readFinite (signed : Bool) (characters : List Char) : Option Binary64 :=
  let whole := characters.takeWhile Char.isDigit
  let behindWhole := characters.dropWhile Char.isDigit
  let (fraction, behind) :=
    match behindWhole with
    | '.' :: rest => (rest.takeWhile Char.isDigit, rest.dropWhile Char.isDigit)
    | rest => ([], rest)
  if whole.isEmpty && fraction.isEmpty then none
  else
    (readExponent behind).map fun exponent =>
      Binary64.ofDecimal signed (digitsValue (whole ++ fraction))
        (exponent - fraction.length)

/-- The number that a text is. -/
def read (text : String) : Except ReadError Binary64 :=
  if text.isEmpty then .error .empty
  else
    let (signed, characters) := readSign text.toList
    let word := String.ofList (characters.map Char.toLower)
    if word = "inf" ∨ word = "infinity" then .ok (.infinity signed)
    else if word = "nan" then .ok (.nan signed)
    else
      match readFinite signed characters with
      | some number => .ok number
      | none => .error .invalid

end Decimal
end ChildProcess
