import ChildProcess.Shell.Token

/-!
# Formatted output

`echo` writes its arguments with a blank between them, and `printf` writes them as a
format says, which is used again as long as there are arguments left. In both,
backslashes introduce characters that cannot be written otherwise.
-/

namespace ChildProcess
namespace Shell
namespace Printing

/-- The character that a letter behind a backslash stands for. -/
def escaped? : Char → Option Char
  | 'a' => some '\x07'
  | 'b' => some '\x08'
  | 'f' => some '\x0c'
  | 'n' => some '\n'
  | 'r' => some '\r'
  | 't' => some '\t'
  | 'v' => some '\x0b'
  | '\\' => some '\\'
  | _ => none

/-- Whether a character is an octal digit. -/
def isOctal (character : Char) : Bool := '0' ≤ character && character ≤ '7'

/-- The character that octal digits are the number of. -/
def ofOctal (digits : Text) : Char :=
  Char.ofNat ((digits.foldl (fun value digit => value * 8 + (digit.toNat - 48)) 0) % 256)

/-- A text with its backslashes replaced, and whether everything behind it is left
out as well. Octal numbers start with a zero. -/
def unescape : Text → Text × Bool
  | '\\' :: 'c' :: _ => ([], true)
  | '\\' :: '0' :: rest =>
      let digits := (rest.take 3).takeWhile isOctal
      let (text, stops) := unescape (rest.drop digits.length)
      (ofOctal digits :: text, stops)
  | '\\' :: letter :: rest =>
      let (text, stops) := unescape rest
      match escaped? letter with
      | some character => (character :: text, stops)
      | none => ('\\' :: letter :: text, stops)
  | character :: rest =>
      let (text, stops) := unescape rest
      (character :: text, stops)
  | [] => ([], false)
  termination_by text => text.length

/-- What `echo` writes. -/
def echo (arguments : List Text) : Text :=
  let (withoutNewline, arguments) :=
    match arguments with
    | ['-', 'n'] :: rest => (true, rest)
    | _ => (false, arguments)
  let (text, stops) := unescape ((arguments.intersperse [' ']).flatten)
  if stops || withoutNewline then text else text ++ ['\n']

/-! ## Conversions -/

/-- A conversion in a format. -/
structure Conversion where
  flags : Text := []
  width : Nat := 0
  precision? : Option Nat := none
  letter : Char
  deriving Repr

/-- A text made as wide as the conversion asks for. -/
def pad (conversion : Conversion) (text : Text) : Text :=
  let missing := conversion.width - text.length
  if conversion.flags.contains '-' then text ++ List.replicate missing ' '
  else if conversion.flags.contains '0' && conversion.precision?.isNone
      && conversion.letter != 's' then
    match text with
    | '-' :: digits => '-' :: List.replicate missing '0' ++ digits
    | _ => List.replicate missing '0' ++ text
  else List.replicate missing ' ' ++ text

/-- A number in some base. -/
def digits (base value : Nat) : Text := Nat.toDigits base value

/-- The number that an argument is; a quote stands for the number of the character
behind it. -/
def numberOf (argument : Text) : Int :=
  match argument with
  | '\x22' :: character :: _ | '\'' :: character :: _ => character.toNat
  | '-' :: rest => -Int.ofNat ((Token.number? (rest.takeWhile Char.isDigit)).getD 0)
  | '+' :: rest => Int.ofNat ((Token.number? (rest.takeWhile Char.isDigit)).getD 0)
  | _ => Int.ofNat ((Token.number? (argument.takeWhile Char.isDigit)).getD 0)

/-- A number with at least as many digits as the precision says. -/
def withPrecision (conversion : Conversion) (text : Text) : Text :=
  match conversion.precision? with
  | none => text
  | some count => List.replicate (count - text.length) '0' ++ text

/-- A signed number. -/
def signed (conversion : Conversion) (value : Int) : Text :=
  let body := withPrecision conversion (digits 10 value.natAbs)
  if value < 0 then '-' :: body
  else if conversion.flags.contains '+' then '+' :: body
  else if conversion.flags.contains ' ' then ' ' :: body
  else body

/-- A number read as an unsigned one of 64 bits. -/
def unsigned (value : Int) : Nat := (value % (Nat.pow 2 64 : Int)).toNat

/-- An argument as a conversion writes it, and whether everything behind it is left
out. -/
def convert (conversion : Conversion) (argument : Text) : Text × Bool :=
  let number := numberOf argument
  let cut := fun (text : Text) =>
    match conversion.precision? with
    | none => text
    | some count => text.take count
  match conversion.letter with
  | 'd' | 'i' => (pad conversion (signed conversion number), false)
  | 'u' =>
      (pad conversion (withPrecision conversion (digits 10 (unsigned number))), false)
  | 'o' =>
      (pad conversion (withPrecision conversion (digits 8 (unsigned number))), false)
  | 'x' =>
      (pad conversion (withPrecision conversion (digits 16 (unsigned number))), false)
  | 'X' =>
      (pad conversion (withPrecision conversion
        ((digits 16 (unsigned number)).map Char.toUpper)), false)
  | 'c' => (pad { conversion with letter := 's' } (argument.take 1), false)
  | 'b' =>
      let (text, stops) := unescape argument
      (pad { conversion with letter := 's' } (cut text), stops)
  | _ => (pad conversion (cut argument), false)

/-- The conversion behind a percent sign, and what follows. -/
def conversion? (text : Text) : Option (Conversion × Text) :=
  let flags := text.takeWhile ("-+ #0".toList.contains ·)
  let rest := text.drop flags.length
  let width := rest.takeWhile Char.isDigit
  let rest := rest.drop width.length
  let (precision?, rest) :=
    match rest with
    | '.' :: behind =>
        let count := behind.takeWhile Char.isDigit
        (some ((Token.number? count).getD 0), behind.drop count.length)
    | _ => (none, rest)
  match rest with
  | letter :: rest =>
      if "diouxXcsb".toList.contains letter then
        some (⟨flags, (Token.number? width).getD 0, precision?, letter⟩, rest)
      else none
  | [] => none

/-- What a format writes with some arguments, the arguments that are left, and
whether everything behind is left out. At most so many characters are looked at. -/
def format : Nat → Text → List Text → Text × List Text × Bool
  | 0, _, arguments | _, [], arguments => ([], arguments, false)
  | more + 1, '%' :: '%' :: rest, arguments =>
      let (text, arguments, stops) := format more rest arguments
      ('%' :: text, arguments, stops)
  | more + 1, '%' :: rest, arguments =>
      match conversion? rest with
      | none => (['%'], arguments, true)
      | some (conversion, rest) =>
          let (written, stops) := convert conversion (arguments.head?.getD [])
          if stops then (written, arguments.drop 1, true)
          else
            let (text, arguments, stops) := format more rest (arguments.drop 1)
            (written ++ text, arguments, stops)
  | more + 1, '\\' :: character :: rest, arguments =>
      let digits := ((character :: rest).take 3).takeWhile isOctal
      if digits.isEmpty then
        let written :=
          match escaped? character with
          | some meant => [meant]
          | none =>
              if character == '\x22' then [character] else ['\\', character]
        let (text, arguments, stops) := format more rest arguments
        (written ++ text, arguments, stops)
      else
        let (text, arguments, stops) :=
          format more ((character :: rest).drop digits.length) arguments
        (ofOctal digits :: text, arguments, stops)
  | more + 1, character :: rest, arguments =>
      let (text, arguments, stops) := format more rest arguments
      (character :: text, arguments, stops)

/-- What a format writes when it is used until the arguments are used up, so many
times at most. -/
def formatAll : Nat → Text → List Text → Text
  | 0, _, _ => []
  | more + 1, pattern, arguments =>
      let (text, rest, stops) := format (pattern.length + 1) pattern arguments
      if stops || rest.isEmpty || rest.length == arguments.length then text
      else text ++ formatAll more pattern rest

/-- What `printf` writes. -/
def printf (pattern : Text) (arguments : List Text) : Text :=
  formatAll (arguments.length + 1) pattern arguments

end Printing
end Shell
end ChildProcess
