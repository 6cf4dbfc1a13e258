import ChildProcess.Text.Unprintable

/-!
# Quoted texts

A text is shown in a log between quotes, with escapes for what cannot be seen: the
quote and the backslash have a backslash in front, some control characters have a
letter, and all other characters without a picture of their own have their number
in braces.
-/

namespace ChildProcess
namespace Text

/-- A character within quotes. -/
def quotedCharacter (character : Char) : List Char :=
  match character with
  | '\x22' => ['\\', '\x22']
  | '\\' => ['\\', '\\']
  | '\n' => ['\\', 'n']
  | '\r' => ['\\', 'r']
  | '\t' => ['\\', 't']
  | '\x00' => ['\\', '0']
  | _ =>
      if isUnprintable character then
        ['\\', 'u', '\x7b'] ++ Nat.toDigits 16 character.toNat ++ ['\x7d']
      else [character]

/-- A text in quotes. -/
def quoted (text : String) : String :=
  String.ofList
    ('\x22' :: text.toList.flatMap quotedCharacter ++ ['\x22'])

/-- Several texts in quotes, between brackets. -/
def quotedList (texts : List String) : String :=
  "[" ++ String.intercalate ", " (texts.map quoted) ++ "]"

end Text
end ChildProcess
