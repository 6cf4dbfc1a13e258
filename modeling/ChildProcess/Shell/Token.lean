import ChildProcess.Bytes

/-!
# Tokens of the command language

A script is a sequence of words and operators. A word is kept as it is written, with
its quotes and substitutions, which are looked at when the word is expanded; here it
is only found out where it ends. One character stands for each byte of a script.
-/

namespace ChildProcess
namespace Shell

/-- A text of the command language. -/
abbrev Text := List Char

/-- How a redirection opens its target. -/
inductive RedirectionKind
  | read
  | write
  | append
  | readWrite
  /-- The target is a descriptor, or `-` for none. -/
  | duplicate
  deriving DecidableEq, Repr, Inhabited

/-- The operators between commands. -/
inductive Operator
  | newline
  | semicolon
  | doubleSemicolon
  | ampersand
  | both
  | either
  | pipe
  | openParen
  | closeParen
  deriving DecidableEq, Repr, Inhabited

/-- How an operator is written. -/
def Operator.text : Operator → String
  | .newline => "newline"
  | .semicolon => ";"
  | .doubleSemicolon => ";;"
  | .ampersand => "&"
  | .both => "&&"
  | .either => "||"
  | .pipe => "|"
  | .openParen => "("
  | .closeParen => ")"

/-- A token. -/
inductive Token
  | word (raw : Text)
  | operator (value : Operator)
  /-- A redirection of a descriptor, the target of which is the next word. -/
  | redirection (kind : RedirectionKind) (descriptor : Nat)
  /-- A quote that is not closed. -/
  | unclosed
  deriving DecidableEq, Repr, Inhabited

namespace Token

/-- What a word is inside of, the innermost first. -/
inductive Nesting
  | single
  | double
  | back
  | paren
  | brace
  deriving DecidableEq, Repr

/-- Whether a character separates words. -/
def isBlank (character : Char) : Bool := character == ' ' || character == '\t'

/-- Whether a character ends a word that is not inside of anything. -/
def endsWord (character : Char) : Bool :=
  isBlank character || "\n;&|<>()".toList.contains character

/-- Put a character in front of the first part of a pair. -/
def keep (characters : Text) : Option (Text × Text) → Option (Text × Text) :=
  Option.map fun (raw, rest) => (characters ++ raw, rest)

/-- Split a text behind the word that it starts with, or behind what it is inside
of. -/
def take (isWord : Bool) : List Nesting → Text → Option (Text × Text)
  | [], [] => some ([], [])
  | _ :: _, [] => none
  | .single :: outer, character :: rest =>
      keep [character]
        (take isWord (if character = '\'' then outer else .single :: outer) rest)
  | .back :: outer, '\\' :: escaped :: rest =>
      keep ['\\', escaped] (take isWord (.back :: outer) rest)
  | .back :: outer, character :: rest =>
      keep [character]
        (take isWord (if character = '`' then outer else .back :: outer) rest)
  | nesting, character :: rest =>
      if nesting.isEmpty && (!isWord || endsWord character) then
        some ([], character :: rest)
      else
        match nesting, character, rest with
        | _, '\\', escaped :: rest =>
            keep ['\\', escaped] (take isWord nesting rest)
        | _, '$', '(' :: rest =>
            keep ['$', '('] (take isWord (.paren :: nesting) rest)
        | _, '$', '{' :: rest =>
            keep ['$', '{'] (take isWord (.brace :: nesting) rest)
        | _, '`', rest => keep ['`'] (take isWord (.back :: nesting) rest)
        | .double :: outer, '\x22', rest => keep ['\x22'] (take isWord outer rest)
        | .double :: _, _, rest => keep [character] (take isWord nesting rest)
        | _, '\x22', rest => keep ['\x22'] (take isWord (.double :: nesting) rest)
        | _, '\'', rest => keep ['\''] (take isWord (.single :: nesting) rest)
        | .paren :: _, '(', rest => keep ['('] (take isWord (.paren :: nesting) rest)
        | .paren :: outer, ')', rest => keep [')'] (take isWord outer rest)
        | .brace :: outer, '}', rest => keep ['}'] (take isWord outer rest)
        | _, _, rest => keep [character] (take isWord nesting rest)
  termination_by _ text => text.length

/-- Split a text behind the word that it starts with. -/
def takeWord (text : Text) : Option (Text × Text) := take true [] text

/-- Split a text at the end of what it is inside of; the end belongs to neither
part. -/
def takeInside (nesting : Nesting) (text : Text) : Option (Text × Text) :=
  (take false [nesting] text).map fun (inside, rest) => (inside.dropLast, rest)

/-- The redirection that a text starts with, if it starts with one. Without a
number, input is redirected for the descriptor 0 and output for 1. -/
def redirection? (number? : Option Nat) : Text → Option (Token × Text)
  | '<' :: '>' :: rest => some (.redirection .readWrite (number?.getD 0), rest)
  | '<' :: '&' :: rest => some (.redirection .duplicate (number?.getD 0), rest)
  | '<' :: rest => some (.redirection .read (number?.getD 0), rest)
  | '>' :: '>' :: rest => some (.redirection .append (number?.getD 1), rest)
  | '>' :: '&' :: rest => some (.redirection .duplicate (number?.getD 1), rest)
  | '>' :: '|' :: rest => some (.redirection .write (number?.getD 1), rest)
  | '>' :: rest => some (.redirection .write (number?.getD 1), rest)
  | _ => none

/-- The operator that a text starts with, if it starts with one. -/
def operator? : Text → Option (Operator × Text)
  | '\n' :: rest => some (.newline, rest)
  | ';' :: ';' :: rest => some (.doubleSemicolon, rest)
  | ';' :: rest => some (.semicolon, rest)
  | '&' :: '&' :: rest => some (.both, rest)
  | '&' :: rest => some (.ampersand, rest)
  | '|' :: '|' :: rest => some (.either, rest)
  | '|' :: rest => some (.pipe, rest)
  | '(' :: rest => some (.openParen, rest)
  | ')' :: rest => some (.closeParen, rest)
  | _ => none

/-- The number that a text of digits is. -/
def number? (text : Text) : Option Nat :=
  if text.isEmpty || !text.all Char.isDigit then none
  else some (text.foldl (fun value digit => value * 10 + (digit.toNat - 48)) 0)

/-- A word, or the redirection of the descriptor that it is the number of. -/
def ofWord (raw rest : Text) : Token × Text :=
  match number? raw with
  | none => (.word raw, rest)
  | some number => (redirection? (some number) rest).getD (.word raw, rest)

/-- The tokens of a text, of which at most so many are taken. -/
def scan : Nat → Text → List Token
  | 0, _ | _ + 1, [] => []
  | more + 1, '\\' :: '\n' :: rest => scan more rest
  | more + 1, '#' :: rest => scan more (rest.dropWhile (· != '\n'))
  | more + 1, character :: rest =>
      if isBlank character then scan more rest
      else
        match redirection? none (character :: rest) with
        | some (token, rest) => token :: scan more rest
        | none =>
            match operator? (character :: rest) with
            | some (value, rest) => .operator value :: scan more rest
            | none =>
                match takeWord (character :: rest) with
                | none => [.unclosed]
                | some (raw, rest) =>
                    let (token, rest) := ofWord raw rest
                    token :: scan more rest

/-- The tokens of a text. -/
def ofText (text : Text) : List Token :=
  scan (text.length + 1) text

end Token
end Shell
end ChildProcess
