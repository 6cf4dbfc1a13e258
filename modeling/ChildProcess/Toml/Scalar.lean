import ChildProcess.Decimal.Reading
import ChildProcess.Toml.Value

/-!
# Unquoted values of TOML

Booleans, whole numbers, floating point numbers, dates and times are words without
quotes. A word is one of them as a whole or malformed. A whole number beyond a range
has no value, and neither has a floating point number that is too great or the mark
of a base without digits.
-/

namespace ChildProcess
namespace Toml

/-- Digits with single underscores between them, without the underscores. -/
def digits? (isDigit : Char → Bool) : List Char → Option (List Char)
  | [] => none
  | [digit] => if isDigit digit then some [digit] else none
  | digit :: '_' :: rest =>
      if isDigit digit then (digits? isDigit rest).map (digit :: ·) else none
  | digit :: rest =>
      if isDigit digit then (digits? isDigit rest).map (digit :: ·) else none

/-- Decimal digits of a whole number, which has no needless zero in front. -/
def wholeDigits? (word : List Char) : Option (List Char) := do
  let digits ← digits? Char.isDigit word
  if digits.length = 1 || digits.head? != some '0' then some digits else none

/-- The value of a digit in a base up to 16. -/
def digitValue (digit : Char) : Nat :=
  if digit.isDigit then digit.toNat - 48 else digit.toLower.toNat - 87

/-- The number that digits are in a base. -/
def numberOf (base : Nat) (digits : List Char) : Nat :=
  digits.foldl (fun value digit => value * base + digitValue digit) 0

/-- Whether a digit belongs to a base up to 16. -/
def isDigitOf (base : Nat) (digit : Char) : Bool :=
  (digit.isDigit || ('a' ≤ digit.toLower && digit.toLower ≤ 'f'))
    && digitValue digit < base

/-- The value of a whole number: there is a range of those that can be held. -/
def valueOfInteger (number : Int) : Value :=
  if -(Nat.pow 2 127 : Int) ≤ number ∧ number < (Nat.pow 2 128 : Int) then
    .integer number
  else .unreadable

/-- A whole number in a base, behind the mark of the base. -/
def readBased (base : Nat) (word : List Char) : Option Value :=
  if word.isEmpty then some .unreadable
  else
    (digits? (isDigitOf base) word).map fun digits =>
      valueOfInteger (numberOf base digits)

/-- A whole number. Only decimal ones have a sign. -/
def readInteger (word : List Char) : Option Value :=
  match word with
  | '0' :: 'x' :: rest => readBased 16 rest
  | '0' :: 'o' :: rest => readBased 8 rest
  | '0' :: 'b' :: rest => readBased 2 rest
  | _ =>
      let (signed, digits) := Decimal.readSign word
      (wholeDigits? digits).map fun digits =>
        let number : Int := numberOf 10 digits
        valueOfInteger (if signed then -number else number)

/-- The exponent of a floating point number; there is none at the end of the
word. -/
def readPower : List Char → Option Int
  | [] => some 0
  | mark :: rest =>
      let (signed, digits) := Decimal.readSign rest
      if mark = 'e' ∨ mark = 'E' then
        (digits? Char.isDigit digits).map fun digits =>
          let power : Int := numberOf 10 digits
          if signed then -power else power
      else none

/-- A floating point number. -/
def readFloat (word : List Char) : Option Value :=
  let (signed, unsigned) := Decimal.readSign word
  if unsigned = ['i', 'n', 'f'] then some (.float (.infinity signed))
  else if unsigned = ['n', 'a', 'n'] then some (.float (.nan signed))
  else do
    let isPart := fun (character : Char) => character.isDigit || character == '_'
    let whole ← wholeDigits? (unsigned.takeWhile isPart)
    let behind := unsigned.dropWhile isPart
    let (fraction, behind) ←
      match behind with
      | '.' :: rest =>
          (digits? Char.isDigit (rest.takeWhile isPart)).map fun fraction =>
            (fraction, rest.dropWhile isPart)
      | [] => none
      | rest => some ([], rest)
    let power ← readPower behind
    let number := Binary64.ofDecimal signed (numberOf 10 (whole ++ fraction))
      (power - fraction.length)
    some (if number.isFinite then .float number else .unreadable)

/-- So many decimal digits as a number, and what follows them. -/
def fixedDigits (count : Nat) (word : List Char) : Option (Nat × List Char) :=
  let digits := word.take count
  if digits.length = count ∧ digits.all Char.isDigit then
    some (numberOf 10 digits, word.drop count)
  else none

/-- The number of days in a month. -/
def daysInMonth (year month : Nat) : Nat :=
  if month = 2 then
    if (year % 4 = 0 ∧ year % 100 ≠ 0) ∨ year % 400 = 0 then 29 else 28
  else if month = 4 ∨ month = 6 ∨ month = 9 ∨ month = 11 then 30
  else 31

/-- A number with zeros in front up to a width. -/
def padded (width number : Nat) : String :=
  let digits := Nat.toDigits 10 number
  String.ofList (List.replicate (width - digits.length) '0' ++ digits)

/-- A date, in its uniform spelling, and what follows it. -/
def readDate (word : List Char) : Option (String × List Char) := do
  let (year, rest) ← fixedDigits 4 word
  let '-' :: rest := rest | none
  let (month, rest) ← fixedDigits 2 rest
  let '-' :: rest := rest | none
  let (day, rest) ← fixedDigits 2 rest
  if 1 ≤ month ∧ month ≤ 12 ∧ 1 ≤ day ∧ day ≤ daysInMonth year month then
    some (padded 4 year ++ "-" ++ padded 2 month ++ "-" ++ padded 2 day, rest)
  else none

/-- The fraction of a second, in its uniform spelling: nine places at most, and no
zeros at the end but for the first place. -/
def spellFraction (digits : List Char) : String :=
  let places := ((digits.take 9).reverse.dropWhile (· == '0')).reverse
  "." ++ (if places.isEmpty then "0" else String.ofList places)

/-- A time of day, in its uniform spelling, and what follows it. -/
def readTime (word : List Char) : Option (String × List Char) := do
  let (hour, rest) ← fixedDigits 2 word
  let ':' :: rest := rest | none
  let (minute, rest) ← fixedDigits 2 rest
  if 23 < hour ∨ 59 < minute then none
  else
    let spelling := padded 2 hour ++ ":" ++ padded 2 minute
    match rest with
    | ':' :: rest =>
        let (second, rest) ← fixedDigits 2 rest
        if 60 < second then none
        else
          let spelling := spelling ++ ":" ++ padded 2 second
          match rest with
          | '.' :: rest =>
              let fraction := rest.takeWhile Char.isDigit
              if fraction.isEmpty then none
              else
                some (spelling ++ spellFraction fraction,
                  rest.dropWhile Char.isDigit)
          | rest => some (spelling, rest)
    | rest => some (spelling, rest)

/-- The distance from universal time, in its uniform spelling, up to the end of the
word. No distance is not negative. -/
def readOffset (word : List Char) : Option String :=
  match word with
  | [] => some ""
  | ['Z'] | ['z'] => some "Z"
  | sign :: rest => do
      if sign ≠ '+' ∧ sign ≠ '-' then none
      else
        let (hour, rest) ← fixedDigits 2 rest
        let ':' :: rest := rest | none
        let (minute, rest) ← fixedDigits 2 rest
        if rest.isEmpty ∧ hour ≤ 23 ∧ minute ≤ 59 then
          let sign := if hour = 0 ∧ minute = 0 then '+' else sign
          some (String.singleton sign ++ padded 2 hour ++ ":" ++ padded 2 minute)
        else none

/-- A date, a time, or both. Only both together have an offset. -/
def readDateTime (word : List Char) : Option Value :=
  match readDate word with
  | some (date, []) => some (.dateTime date)
  | some (date, separator :: rest) =>
      if separator = 'T' ∨ separator = 't' ∨ separator = ' ' then do
        let (time, rest) ← readTime rest
        let offset ← readOffset rest
        some (.dateTime (date ++ "T" ++ time ++ offset))
      else none
  | none =>
      match readTime word with
      | some (time, []) => some (.dateTime time)
      | _ => none

/-- A character that ends an unquoted word. -/
def endsWord (character : Char) : Bool :=
  [' ', '\t', '\n', '\r', ',', '[', ']', '\x7b', '\x7d', '#', '=', '\x22',
    '\''].contains character

/-- The word that starts here, and what follows it. A date and a time are one word
even with a blank between them. -/
def readWord (characters : List Char) : List Char × List Char :=
  let word := characters.takeWhile (!endsWord ·)
  let rest := characters.dropWhile (!endsWord ·)
  match readDate word, rest with
  | some (_, []), ' ' :: digit :: behind =>
      if digit.isDigit then
        (word ++ ' ' :: (digit :: behind).takeWhile (!endsWord ·),
          (digit :: behind).dropWhile (!endsWord ·))
      else (word, rest)
  | _, _ => (word, rest)

/-- The value of an unquoted word. -/
def scalar? (word : List Char) : Option Value :=
  if word = "true".toList then some (.boolean true)
  else if word = "false".toList then some (.boolean false)
  else
    match readInteger word with
    | some value => some value
    | none =>
        match readFloat word with
        | some value => some value
        | none => readDateTime word

end Toml
end ChildProcess
