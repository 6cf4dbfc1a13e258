/-!
# Texts for terminals

A terminal takes some characters for commands: the escape character, the bell, the
backspace, the form feed, the delete character, and the control characters from
U+0080 to U+009F. A text that comes from elsewhere is shown with their numbers in
place of them, so that it cannot give commands. All other characters, line ends and
tabs included, are shown as they are.
-/

namespace ChildProcess
namespace Text

/-- A character as it is shown on a terminal. -/
def terminalCharacter (character : Char) : List Char :=
  match character with
  | '\x07' => ['\\', 'x', '0', '7']
  | '\x08' => ['\\', 'x', '0', '8']
  | '\x0c' => ['\\', 'x', '0', 'c']
  | '\x1b' => ['\\', 'x', '1', 'b']
  | '\x7f' => ['\\', 'x', '7', 'f']
  | _ =>
      if '\u0080' ≤ character ∧ character ≤ '\u009f' then
        ['\\', 'u', '\x7b'] ++ Nat.toDigits 16 character.toNat ++ ['\x7d']
      else [character]

/-- A text as it is shown on a terminal. -/
def forTerminal (text : String) : String :=
  String.ofList (text.toList.flatMap terminalCharacter)

end Text
end ChildProcess
