import ChildProcess.Shell.Arithmetic
import ChildProcess.Shell.Pattern
import ChildProcess.Shell.State

/-!
# Expansion of words

A word is expanded from left to right: quotes are taken off, and parameters,
expressions and commands are replaced by what they stand for. What has been put in
is split at blanks unless it is quoted. A word that is a pattern then stands for the
paths that match it.
-/

namespace ChildProcess
namespace Shell

/-- A piece of an expanded word. -/
inductive Piece
  | character (value : Char) (isQuoted isSplit : Bool)
  /-- There is a field here, even if nothing is in it. -/
  | present
  /-- One field ends here and another one starts. -/
  | boundary
  deriving DecidableEq, Repr

/-- Why a command cannot be expanded. -/
inductive ExpansionError
  | badSubstitution
  | arithmetic (expression : Text)
  | unset (name message : Text)
  deriving Repr

namespace Expansion

/-- A text that stands in the script, or has been put in quoted. -/
def plain (isQuoted : Bool) (text : Text) : List Piece :=
  text.map fun character => .character character isQuoted false

/-- A text that has been put in. -/
def inserted (isQuoted : Bool) (text : Text) : List Piece :=
  if isQuoted then .present :: plain true text
  else text.map fun character => .character character false true

/-- Texts that have been put in as fields of their own. -/
def insertedFields (isQuoted : Bool) (texts : List Text) : List Piece :=
  (texts.map (inserted isQuoted)).intersperse [.boundary] |>.flatten

/-- A number as a text. -/
def decimal (value : Int) : Text := (toString value).toList

/-- What a parameter stands for, as fields. -/
def parameter? (state : State) (name : Text) : Option (List Text) :=
  match name with
  | ['@'] | ['*'] => some state.arguments
  | ['#'] => some [decimal state.arguments.length]
  | ['?'] => some [decimal state.status]
  | ['$'] => some [decimal state.process]
  | ['!'] => state.lastBackground?.map fun process => [decimal process]
  | ['-'] => some [state.options]
  | ['0'] => some [state.name]
  | _ =>
      match Token.number? name with
      | some index => (state.arguments[index - 1]?).map ([·])
      | none => (state.get? name).map ([·])

/-- What a parameter stands for. One that is not set stands for nothing, unless an
option forbids that. -/
def required (state : State) (name : Text) : Except ExpansionError (List Text) :=
  match parameter? state name with
  | some values => .ok values
  | none => if state.options.contains 'u' then .error (.unset name []) else .ok [[]]

/-- The pieces of what a parameter stands for. -/
def parameterPieces (isQuoted : Bool) (name : Text) (values : List Text) : List Piece :=
  match name, isQuoted with
  | ['*'], true => inserted true ((values.intersperse [' ']).flatten)
  | _, _ => insertedFields isQuoted values

/-- The name of a parameter that a text starts with, and what follows. -/
def takeParameter : Text → Option (Text × Text)
  | [] => none
  | first :: rest =>
      if "@*#?$!-".toList.contains first || first.isDigit then some ([first], rest)
      else
        let name := (first :: rest).takeWhile Reader.isNameCharacter
        if name.isEmpty then none else some (name, (first :: rest).drop name.length)

/-- The name in braces, which may have several digits, and what follows. -/
def takeBracedParameter (text : Text) : Option (Text × Text) :=
  let digits := text.takeWhile Char.isDigit
  if digits.isEmpty then takeParameter text
  else some (digits, text.drop digits.length)

/-- What is done about a parameter that is not set, or whose value is cut. -/
inductive Operation
  /-- Another word stands for it. -/
  | default
  | assign
  | fail
  /-- Another word stands for it if it is set. -/
  | alternative
  | cutFront (longest : Bool)
  | cutBack (longest : Bool)
  deriving DecidableEq, Repr

/-- The operation behind the name of a parameter in braces, whether an empty value
counts as not set, and the word. -/
def operation? : Text → Option (Operation × Bool × Text)
  | ':' :: '-' :: word => some (.default, true, word)
  | '-' :: word => some (.default, false, word)
  | ':' :: '=' :: word => some (.assign, true, word)
  | '=' :: word => some (.assign, false, word)
  | ':' :: '?' :: word => some (.fail, true, word)
  | '?' :: word => some (.fail, false, word)
  | ':' :: '+' :: word => some (.alternative, true, word)
  | '+' :: word => some (.alternative, false, word)
  | '#' :: '#' :: word => some (.cutFront true, false, word)
  | '#' :: word => some (.cutFront false, false, word)
  | '%' :: '%' :: word => some (.cutBack true, false, word)
  | '%' :: word => some (.cutBack false, false, word)
  | _ => none

/-- A value without the part at its front or back that matches a pattern. -/
def cut (operation : Operation) (pattern : Marked) (value : Text) : Text :=
  let lengths := List.range (value.length + 1)
  let found? :=
    match operation with
    | .cutFront true =>
        (lengths.reverse.find? fun count =>
          Pattern.isMatch pattern (value.take count)).map value.drop
    | .cutFront false =>
        (lengths.find? fun count =>
          Pattern.isMatch pattern (value.take count)).map value.drop
    | .cutBack true =>
        (lengths.find? fun count =>
          Pattern.isMatch pattern (value.drop count)).map value.take
    | .cutBack false =>
        (lengths.reverse.find? fun count =>
          Pattern.isMatch pattern (value.drop count)).map value.take
    | _ => none
  found?.getD value

/-- The characters of some pieces, with a blank between fields. -/
def marked (pieces : List Piece) : Marked :=
  pieces.filterMap fun piece =>
    match piece with
    | .character value isQuoted _ => some (value, isQuoted)
    | .present => none
    | .boundary => some (' ', true)

/-- The text of some pieces. -/
def textOf (pieces : List Piece) : Text := Pattern.text (marked pieces)

/-- A script in backquotes, without the backslashes that backquotes need. -/
def unescapeBack : Text → Text
  | '\\' :: escaped :: rest =>
      if ['`', '\\', '$'].contains escaped then escaped :: unescapeBack rest
      else '\\' :: escaped :: unescapeBack rest
  | character :: rest => character :: unescapeBack rest
  | [] => []

/-- Whether a backslash in double quotes acts on a character. -/
def isEscapable (character : Char) : Bool :=
  ['$', '`', '\x22', '\\', '\n'].contains character

/-- Expanding changes the state and may fail. -/
abbrev Expander := ExceptT ExpansionError (StateT State Program)

/-- Run a script and take its output. -/
abbrev Substitute := Text → State → Program (State × Text)

/-- Put in the output of a script, without the newlines at its end. -/
def command (substitute : Substitute) (isQuoted : Bool) (script : Text) :
    Expander (List Piece) := do
  let (state, output) ← (substitute script (← get) : Program _)
  set state
  pure (inserted isQuoted (output.reverse.dropWhile (· == '\n')).reverse)

/-- Expand what stands in braces, where words are expanded in a given way. -/
def braced (go : Bool → Text → Expander (List Piece)) (isQuoted : Bool)
    (inside : Text) : Expander (List Piece) := do
  let state ← get
  match inside with
  | '#' :: first :: name =>
      let values := (parameter? state (first :: name)).getD [[]]
      pure (inserted isQuoted
        (decimal ((values.intersperse [' ']).flatten.length : Nat)))
  | _ =>
      match takeBracedParameter inside with
      | none => throw .badSubstitution
      | some (name, rest) =>
          let values? := parameter? state name
          let value := ((values?.getD []).intersperse [' ']).flatten
          match rest, operation? rest with
          | [], _ => pure (parameterPieces isQuoted name (← required state name))
          | _, none => throw .badSubstitution
          | _, some (operation, countsEmpty, word) =>
              let isSet := values?.isSome && !(countsEmpty && value.isEmpty)
              match operation, isSet with
              | .default, true | .assign, true | .fail, true =>
                  pure (parameterPieces isQuoted name (values?.getD [[]]))
              | .default, false | .alternative, true =>
                  go isQuoted word
              | .alternative, false => pure (inserted isQuoted [])
              | .assign, false => do
                  let pieces ← go isQuoted word
                  modify (·.set name (textOf pieces))
                  pure pieces
              | .fail, false => do
                  let pieces ← go isQuoted word
                  throw (.unset name (textOf pieces))
              | operation, _ => do
                  let pattern ← go false word
                  pure (inserted isQuoted (cut operation (marked pattern) value))

/-- Expand a text to pieces. -/
def expand (substitute : Substitute) :
    Nat → Bool → Text → Expander (List Piece)
  | 0, _, _ | _ + 1, _, [] => pure []
  | depth + 1, isQuoted, text => do
      let go := expand substitute depth isQuoted
      let followed := fun (pieces : List Piece) (rest : Text) => do
        pure (pieces ++ (← go rest))
      match text with
      | '\\' :: '\n' :: rest => go rest
      | '\\' :: escaped :: rest =>
          if isQuoted && !isEscapable escaped then
            followed (plain true ['\\', escaped]) rest
          else followed (plain true [escaped]) rest
      | '\'' :: rest =>
          if isQuoted then followed (plain true ['\'']) rest
          else
            let inside := rest.takeWhile (· != '\'')
            followed (.present :: plain true inside) (rest.drop (inside.length + 1))
      | '\x22' :: '\x22' :: rest =>
          followed [.present] rest
      | '\x22' :: rest => expand substitute depth (!isQuoted) rest
      | '`' :: rest =>
          match Token.takeInside .back rest with
          | none => throw .badSubstitution
          | some (script, rest) => do
              followed (← command substitute isQuoted (unescapeBack script)) rest
      | '$' :: '(' :: '(' :: rest =>
          match Token.takeInside .paren rest with
          | some (expression, ')' :: rest) => do
              let pieces ← expand substitute depth true expression
              let expression := textOf pieces
              let state ← get
              match Arithmetic.evaluate (fun name => (state.get? name).getD [])
                  expression with
              | none => throw (.arithmetic expression)
              | some value => followed (inserted isQuoted (decimal value)) rest
          | _ =>
              match Token.takeInside .paren ('(' :: rest) with
              | none => throw .badSubstitution
              | some (script, rest) => do
                  followed (← command substitute isQuoted script) rest
      | '$' :: '(' :: rest =>
          match Token.takeInside .paren rest with
          | none => throw .badSubstitution
          | some (script, rest) => do
              followed (← command substitute isQuoted script) rest
      | '$' :: '{' :: rest =>
          match Token.takeInside .brace rest with
          | none => throw .badSubstitution
          | some (inside, rest) => do
              followed (← braced (expand substitute depth) isQuoted inside) rest
      | '$' :: rest =>
          match takeParameter rest with
          | none => followed (plain isQuoted ['$']) rest
          | some (name, rest) => do
              let values ← required (← get) name
              followed (parameterPieces isQuoted name values) rest
      | character :: rest => followed (plain isQuoted [character]) rest
      | [] => pure []

/-- The blanks at which what has been put in is split. -/
def separators (state : State) : Text :=
  (state.get? "IFS".toList).getD [' ', '\t', '\n']

/-- Whether a separator counts only once where it is repeated. -/
def isSpace (character : Char) : Bool :=
  character == ' ' || character == '\t' || character == '\n'

/-- Split pieces into fields. The field at hand may not have started yet. -/
def split (separators : Text) : Option Marked → List Piece → List Marked
  | current?, [] => current?.toList
  | current?, .present :: rest => split separators (some (current?.getD [])) rest
  | current?, .boundary :: rest => current?.toList ++ split separators none rest
  | current?, .character value isQuoted isSplit :: rest =>
      if isSplit && separators.contains value then
        if isSpace value then current?.toList ++ split separators none rest
        else current?.getD [] :: split separators none rest
      else split separators (some (current?.getD [] ++ [(value, isQuoted)])) rest

/-- How deep substitutions in a word can be nested. -/
def depthOf (word : Text) : Nat := 4 * word.length + 16

/-- The fields that a word stands for. -/
def fields (substitute : Substitute) (word : Text) : Expander (List Text) := do
  let pieces ← expand substitute (depthOf word) false word
  let several := split (separators (← get)) none pieces
  if (← get).options.contains 'f' then pure (several.map Pattern.text)
  else do
    let lists ← several.mapM fun field => (Pattern.paths field : Program _)
    pure lists.flatten

/-- The fields that words stand for. -/
def allFields (substitute : Substitute) (words : List Text) : Expander (List Text) := do
  let lists ← words.mapM (fields substitute)
  pure lists.flatten

/-- The one text that a word stands for. -/
def text (substitute : Substitute) (word : Text) : Expander Text := do
  pure (textOf (← expand substitute (depthOf word) false word))

/-- The pattern that a word stands for. -/
def pattern (substitute : Substitute) (word : Text) : Expander Marked := do
  pure (marked (← expand substitute (depthOf word) false word))

end Expansion
end Shell
end ChildProcess
