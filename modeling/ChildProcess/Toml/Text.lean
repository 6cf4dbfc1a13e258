/-!
# Characters and strings of TOML

Blanks, line ends, comments, keys and the four kinds of strings. Every reader
takes the characters from where it starts and answers with what it read and with
the characters behind it, or with nothing if the text is malformed.
-/

namespace ChildProcess
namespace Toml

/-- A blank within a line. -/
def isBlank (character : Char) : Bool :=
  character == ' ' || character == '\t'

/-- A character that may stand in a comment or a string: no control character but
the tab. -/
def isPlain (character : Char) : Bool :=
  character == '\t' || (' ' ≤ character && character != '\x7f')

/-- The characters behind the blanks of a line. -/
def skipBlanks (characters : List Char) : List Char :=
  characters.dropWhile isBlank

/-- The characters behind a line end. -/
def readLineEnd : List Char → Option (List Char)
  | '\n' :: rest | '\r' :: '\n' :: rest => some rest
  | _ => none

/-- The characters behind a comment, if there is one here. -/
def skipComment : List Char → Option (List Char)
  | '#' :: rest => some (rest.dropWhile isPlain)
  | characters => some characters

/-- The characters behind the end of a line with nothing but blanks and a comment
in front of it. The end of the text will do. -/
def finishLine (characters : List Char) : Option (List Char) := do
  let behind ← skipComment (skipBlanks characters)
  if behind.isEmpty then some [] else readLineEnd behind

/-- The characters behind blanks, comments and line ends. -/
def skipLines : Nat → List Char → List Char
  | 0, characters => characters
  | rounds + 1, characters =>
      let here := skipBlanks characters
      match here with
      | '#' :: rest => skipLines rounds (rest.dropWhile isPlain)
      | _ =>
          match readLineEnd here with
          | some rest => skipLines rounds rest
          | none => here

/-- The value of a hexadecimal digit. -/
def hexDigit? (character : Char) : Option Nat :=
  if character.isDigit then some (character.toNat - 48)
  else if 'a' ≤ character ∧ character ≤ 'f' then some (character.toNat - 87)
  else if 'A' ≤ character ∧ character ≤ 'F' then some (character.toNat - 55)
  else none

/-- The character whose number hexadecimal digits give, if there is one. -/
def hexCharacter? (digits : List Char) : Option Char := do
  let number ← digits.foldlM
    (fun value digit => (hexDigit? digit).map (value * 16 + ·)) 0
  if number.isValidChar then some (Char.ofNat number) else none

/-- The character that a backslash and one more character stand for. -/
def simpleEscape? : Char → Option Char
  | 'b' => some '\x08'
  | 't' => some '\t'
  | 'n' => some '\n'
  | 'f' => some '\x0c'
  | 'r' => some '\r'
  | 'e' => some '\x1b'
  | '\x22' => some '\x22'
  | '\\' => some '\\'
  | _ => none

/-- Put a character in front of what a reader read. -/
def prepend (character : Char) (read : Option (List Char × List Char)) :
    Option (List Char × List Char) :=
  read.map fun (content, rest) => (character :: content, rest)

/-- Put a character, if there is one, in front of what a reader read. -/
def prepend? (character? : Option Char) (read : Option (List Char × List Char)) :
    Option (List Char × List Char) :=
  character?.bind fun character => prepend character read

/-- A string in quotes with escapes, behind its opening quote. -/
def readBasic : List Char → Option (List Char × List Char)
  | '\x22' :: rest => some ([], rest)
  | '\\' :: 'x' :: a :: b :: rest =>
      prepend? (hexCharacter? [a, b]) (readBasic rest)
  | '\\' :: 'u' :: a :: b :: c :: d :: rest =>
      prepend? (hexCharacter? [a, b, c, d]) (readBasic rest)
  | '\\' :: 'U' :: a :: b :: c :: d :: e :: f :: g :: h :: rest =>
      prepend? (hexCharacter? [a, b, c, d, e, f, g, h]) (readBasic rest)
  | '\\' :: escaped :: rest => prepend? (simpleEscape? escaped) (readBasic rest)
  | character :: rest =>
      if isPlain character && character != '\\' then
        prepend character (readBasic rest)
      else none
  | [] => none

/-- A string in single quotes, behind its opening quote. -/
def readLiteral : List Char → Option (List Char × List Char)
  | '\'' :: rest => some ([], rest)
  | character :: rest =>
      if isPlain character then prepend character (readLiteral rest) else none
  | [] => none

/-- Up to two more quotes behind three that end a string over several lines: they
belong to its content. -/
def closingQuotes (quote : Char) : List Char → List Char × List Char
  | first :: second :: rest =>
      if first = quote ∧ second = quote then ([quote, quote], rest)
      else if first = quote then ([quote], second :: rest)
      else ([], first :: second :: rest)
  | [single] => if single = quote then ([quote], []) else ([], [single])
  | [] => ([], [])

/-- Whether nothing but blanks is left of a line. -/
def lineEndsHere (characters : List Char) : Bool :=
  (readLineEnd (skipBlanks characters)).isSome

/-- A string in three quotes with escapes, behind its opening quotes. A backslash
at the end of a line hides the blanks and line ends behind it; `trimming` tells that
the reader is among those. -/
def readLongBasic (trimming : Bool) : List Char → Option (List Char × List Char)
  | '\x22' :: '\x22' :: '\x22' :: rest => some (closingQuotes '\x22' rest)
  | '\\' :: 'x' :: a :: b :: rest =>
      prepend? (hexCharacter? [a, b]) (readLongBasic false rest)
  | '\\' :: 'u' :: a :: b :: c :: d :: rest =>
      prepend? (hexCharacter? [a, b, c, d]) (readLongBasic false rest)
  | '\\' :: 'U' :: a :: b :: c :: d :: e :: f :: g :: h :: rest =>
      prepend? (hexCharacter? [a, b, c, d, e, f, g, h]) (readLongBasic false rest)
  | '\\' :: escaped :: rest =>
      if lineEndsHere (escaped :: rest) then readLongBasic true (escaped :: rest)
      else prepend? (simpleEscape? escaped) (readLongBasic false rest)
  | '\r' :: '\n' :: rest =>
      if trimming then readLongBasic true rest
      else prepend '\r' (prepend '\n' (readLongBasic false rest))
  | character :: rest =>
      if trimming && (isBlank character || character == '\n') then
        readLongBasic true rest
      else if (isPlain character || character == '\n') && character != '\\' then
        prepend character (readLongBasic false rest)
      else none
  | [] => none

/-- A string in three single quotes, behind its opening quotes. -/
def readLongLiteral : List Char → Option (List Char × List Char)
  | '\'' :: '\'' :: '\'' :: rest => some (closingQuotes '\'' rest)
  | '\r' :: '\n' :: rest => prepend '\r' (prepend '\n' (readLongLiteral rest))
  | character :: rest =>
      if isPlain character || character == '\n' then
        prepend character (readLongLiteral rest)
      else none
  | [] => none

/-- The characters behind a line end right after opening quotes, which is not part
of the string. -/
def skipFirstLineEnd (characters : List Char) : List Char :=
  (readLineEnd characters).getD characters

/-- A string of any kind, if one starts here. -/
def readString (characters : List Char) : Option (String × List Char) :=
  let content : Option (List Char × List Char) :=
    match characters with
    | '\x22' :: '\x22' :: '\x22' :: rest =>
        readLongBasic false (skipFirstLineEnd rest)
    | '\x22' :: rest => readBasic rest
    | '\'' :: '\'' :: '\'' :: rest => readLongLiteral (skipFirstLineEnd rest)
    | '\'' :: rest => readLiteral rest
    | _ => none
  content.map fun (content, rest) => (String.ofList content, rest)

/-- A character of a key without quotes. -/
def isBare (character : Char) : Bool :=
  (character.isAlphanum && character.toNat < 128)
    || character == '_' || character == '-'

/-- One part of a key. -/
def readKeyPart (characters : List Char) : Option (String × List Char) :=
  match characters with
  | '\x22' :: rest =>
      (readBasic rest).map fun (content, rest) => (String.ofList content, rest)
  | '\'' :: rest =>
      (readLiteral rest).map fun (content, rest) => (String.ofList content, rest)
  | _ =>
      let bare := characters.takeWhile isBare
      if bare.isEmpty then none
      else some (String.ofList bare, characters.dropWhile isBare)

/-- How many parts a key may have, and how deep arrays and inline tables may stand
in one another. -/
def depthLimit : Nat := 80

/-- At most so many parts of a key, with points between them. -/
def readKeyParts : Nat → List Char → Option (List String × List Char)
  | 0, _ => none
  | parts + 1, characters => do
      let (part, rest) ← readKeyPart (skipBlanks characters)
      match skipBlanks rest with
      | '.' :: rest =>
          let (others, rest) ← readKeyParts parts rest
          some (part :: others, rest)
      | rest => some ([part], rest)

/-- A key. -/
def readKey (characters : List Char) : Option (List String × List Char) :=
  readKeyParts depthLimit characters

end Toml
end ChildProcess
