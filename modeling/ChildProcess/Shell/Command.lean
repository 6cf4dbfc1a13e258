import ChildProcess.Shell.Token

/-!
# Commands

A script is read command by command. Commands are combined by operators and by the
reserved words of the language, which are words of their own only where a command
may start.
-/

namespace ChildProcess
namespace Shell

/-- A redirection with the word that names its target. -/
structure Redirection where
  kind : RedirectionKind
  descriptor : Nat
  target : Text
  deriving DecidableEq, Repr, Inhabited

/-- A command. Words are as they are written. -/
inductive Command
  | nothing
  | simple (line : Nat) (assignments : List (Text × Text)) (words : List Text)
      (redirections : List Redirection)
  | pipeline (stages : List Command)
  | negation (command : Command)
  | both (first second : Command)
  | either (first second : Command)
  | sequence (first second : Command)
  | background (command : Command)
  | subshell (body : Command)
  | conditional (condition body otherwise : Command)
  /-- A repetition as long as the condition succeeds, or fails. -/
  | repetition (whileFails : Bool) (condition body : Command)
  /-- A repetition for some words, or for the arguments of the script. -/
  | iteration (name : Text) (words? : Option (List Text)) (body : Command)
  | selection (subject : Text) (clauses : List (List Text × Command))
  | redirected (command : Command) (redirections : List Redirection)
  /-- Give a name to a command. -/
  | definition (name : Text) (body : Command)
  deriving Inhabited

/-- Why a text is no command. -/
inductive SyntaxError
  | unexpectedEnd (expected? : Option String)
  | unexpected (line : Nat) (token : String) (expected? : Option String)
  | unclosedQuote (line : Nat)
  deriving DecidableEq, Repr, Inhabited

namespace SyntaxError

/-- What is said about the token that should be there. -/
def expectation : Option String → String
  | none => ""
  | some token => " (expecting \x22" ++ token ++ "\x22)"

/-- The text of the error with the line that it is reported for. -/
def message (lastLine : Nat) : SyntaxError → String
  | .unexpectedEnd expected? =>
      toString lastLine ++ ": Syntax error: end of file unexpected"
        ++ expectation expected?
  | .unexpected line token expected? =>
      toString line ++ ": Syntax error: \x22" ++ token ++ "\x22 unexpected"
        ++ expectation expected?
  | .unclosedQuote line =>
      toString line ++ ": Syntax error: Unterminated quoted string"

end SyntaxError

/-- What is still to be read, and on which line. -/
structure Source where
  tokens : List Token
  line : Nat := 1
  deriving Repr

/-- How many lines a token ends. -/
def Token.lineEnds : Token → Nat
  | .operator .newline => 1
  | .word raw => raw.count '\n'
  | _ => 0

/-- The line on which a source ends. -/
def Source.lastLine (source : Source) : Nat :=
  source.line + (source.tokens.map Token.lineEnds).foldl (· + ·) 0

/-- A reader of commands. -/
abbrev Reader := StateT Source (Except SyntaxError)

namespace Reader

/-- The next token. -/
def peek : Reader (Option Token) := do
  match (← get).tokens with
  | [] => pure none
  | .unclosed :: _ => throw (.unclosedQuote (← get).line)
  | token :: _ => pure (some token)

/-- Go past the next token. -/
def advance : Reader Unit :=
  modify fun source =>
    let line := source.line + ((source.tokens.head?.map Token.lineEnds).getD 0)
    { tokens := source.tokens.drop 1, line }

/-- Go past newlines. -/
def skipNewlines : Nat → Reader Unit
  | 0 => pure ()
  | more + 1 => do
      if (← peek) == some (.operator .newline) then
        advance
        skipNewlines more

/-- How a token is called in an error. -/
def nameOf : Token → String
  | .word raw => String.ofList raw
  | .operator operator => operator.text
  | .redirection _ _ => "redirection"
  | .unclosed => "quote"

/-- Refuse the next token, in the place of which another one may be expected. -/
def refuseFor {α : Type} (expected? : Option String) : Reader α := do
  match ← peek with
  | none => throw (.unexpectedEnd expected?)
  | some token => throw (.unexpected (← get).line (nameOf token) expected?)

/-- Refuse the next token. -/
def refuse {α : Type} : Reader α := refuseFor none

/-- Go past a token that must come next. -/
def expect (token : Token) : Reader Unit := do
  if (← peek) == some token then advance else refuseFor (some (nameOf token))

/-- A reserved word as a token. -/
def reserved (text : String) : Token := .word text.toList

/-- The words that end a list of commands. -/
def closers : List Token :=
  ["then", "else", "elif", "fi", "do", "done", "esac", "\x7d"].map reserved

/-- Whether a character may stand in a name. -/
def isNameCharacter (character : Char) : Bool :=
  character.isAlphanum || character == '_'

/-- Whether a text is a name. -/
def isName : Text → Bool
  | [] => false
  | first :: rest => isNameCharacter first && !first.isDigit && rest.all isNameCharacter

/-- The name and the value of an assignment. -/
def assignment? (raw : Text) : Option (Text × Text) :=
  let name := raw.takeWhile (· != '=')
  if isName name && name.length < raw.length then
    some (name, raw.drop (name.length + 1))
  else none

/-- The word that must come next. -/
def word : Reader Text := do
  match ← peek with
  | some (.word raw) => do
      advance
      pure raw
  | _ => refuse

/-- Redirections as long as there are any. -/
def redirections : Nat → Reader (List Redirection)
  | 0 => pure []
  | more + 1 => do
      match ← peek with
      | some (.redirection kind descriptor) => do
          advance
          let target ← word
          pure (⟨kind, descriptor, target⟩ :: (← redirections more))
      | _ => pure []

/-- The parts of a simple command. -/
structure Parts where
  assignments : List (Text × Text) := []
  words : List Text := []
  redirections : List Redirection := []

/-- The parts of a simple command as long as there are any. -/
def parts : Nat → Parts → Reader Parts
  | 0, read => pure read
  | more + 1, read => do
      match ← peek with
      | some (.redirection kind descriptor) => do
          advance
          let target ← word
          parts more
            { read with
              redirections := read.redirections ++ [⟨kind, descriptor, target⟩] }
      | some (.word raw) => do
          advance
          match read.words, assignment? raw with
          | [], some assignment =>
              parts more { read with assignments := read.assignments ++ [assignment] }
          | _, _ => parts more { read with words := read.words ++ [raw] }
      | _ => pure read

/-- A simple command. -/
def simpleCommand (depth : Nat) : Reader Command := do
  let line := (← get).line
  let read ← parts depth {}
  if read.assignments.isEmpty && read.words.isEmpty && read.redirections.isEmpty then
    refuse
  else pure (.simple line read.assignments read.words read.redirections)

/-- Words up to the end of the line or a semicolon. -/
def words : Nat → Reader (List Text)
  | 0 => pure []
  | more + 1 => do
      match ← peek with
      | some (.word raw) => do
          advance
          pure (raw :: (← words more))
      | _ => pure []

/-- The patterns of a clause, up to the parenthesis behind them. -/
def patterns : Nat → Reader (List Text)
  | 0 => pure []
  | more + 1 => do
      let pattern ← word
      if (← peek) == some (.operator .pipe) then
        advance
        pure (pattern :: (← patterns more))
      else
        expect (.operator .closeParen)
        pure [pattern]

/-- Whether a list of commands is at its end. -/
def isClosed (token? : Option Token) : Bool :=
  match token? with
  | none => true
  | some (.operator .closeParen)
  | some (.operator .doubleSemicolon) => true
  | some token => closers.contains token

/-- Two commands one after the other. -/
def andThen (first second : Command) : Command :=
  match second with
  | .nothing => first
  | _ => .sequence first second

mutual

/-- Commands one after another, up to what ends them. There may have to be one. -/
def list (needsOne : Bool) : Nat → Reader Command
  | 0 => refuse
  | depth + 1 => do
      skipNewlines depth
      let next? ← peek
      if isClosed next? then
        if needsOne && next?.isSome then refuse else pure .nothing
      else do
        let first ← andOr depth
        match ← peek with
        | some (.operator .ampersand) => do
            advance
            pure (andThen (.background first) (← list false depth))
        | some (.operator .semicolon) | some (.operator .newline) => do
            advance
            pure (andThen first (← list false depth))
        | token? => if isClosed token? then pure first else refuse

/-- Pipelines that depend on each other. -/
def andOr : Nat → Reader Command
  | 0 => refuse
  | depth + 1 => do
      let first ← pipeline depth
      andOrRest depth first

/-- What follows on a pipeline and depends on it. -/
def andOrRest : Nat → Command → Reader Command
  | 0, _ => refuse
  | depth + 1, first => do
      match ← peek with
      | some (.operator .both) => do
          advance
          skipNewlines depth
          andOrRest depth (.both first (← pipeline depth))
      | some (.operator .either) => do
          advance
          skipNewlines depth
          andOrRest depth (.either first (← pipeline depth))
      | _ => pure first

/-- Commands with pipes between them. -/
def pipeline : Nat → Reader Command
  | 0 => refuse
  | depth + 1 => do
      if (← peek) == some (reserved "!") then do
        advance
        pure (.negation (← pipeline depth))
      else
        match ← stages depth with
        | [single] => pure single
        | several => pure (.pipeline several)

/-- The stages of a pipeline. -/
def stages : Nat → Reader (List Command)
  | 0 => refuse
  | depth + 1 => do
      let first ← command depth
      if (← peek) == some (.operator .pipe) then do
        advance
        skipNewlines depth
        pure (first :: (← stages depth))
      else pure [first]

/-- One command with what is redirected for it. -/
def command : Nat → Reader Command
  | 0 => refuse
  | depth + 1 => do
      match (← get).tokens with
      | .word name :: .operator .openParen :: .operator .closeParen :: _ => do
          advance
          advance
          advance
          skipNewlines depth
          pure (.definition name (← command depth))
      | _ => plainCommand depth

/-- One command that gives no name. -/
def plainCommand : Nat → Reader Command
  | 0 => refuse
  | depth + 1 => do
      match ← compound? depth with
      | none => simpleCommand depth
      | some read =>
          match ← redirections depth with
          | [] => pure read
          | several => pure (.redirected read several)

/-- A command that starts with a parenthesis or a reserved word. -/
def compound? : Nat → Reader (Option Command)
  | 0 => refuse
  | depth + 1 => do
      match ← peek with
      | some (.operator .openParen) => do
          advance
          let body ← list true depth
          expect (.operator .closeParen)
          pure (some (.subshell body))
      | some (.word ['{']) => do
          advance
          let body ← list true depth
          expect (reserved "\x7d")
          pure (some body)
      | some (.word raw) =>
          match String.ofList raw with
          | "if" => do
              advance
              some <$> conditional depth
          | "while" => do
              advance
              some <$> repetition depth false
          | "until" => do
              advance
              some <$> repetition depth true
          | "for" => do
              advance
              some <$> iteration depth
          | "case" => do
              advance
              some <$> selection depth
          | _ =>
              if closers.contains (.word raw) then refuse else pure none
      | _ => pure none

/-- What follows on `if` or `elif`. -/
def conditional : Nat → Reader Command
  | 0 => refuse
  | depth + 1 => do
      let condition ← list true depth
      expect (reserved "then")
      let body ← list true depth
      let next ← peek
      if next == some (reserved "elif") then do
        advance
        pure (.conditional condition body (← conditional depth))
      else if next == some (reserved "else") then do
        advance
        let otherwise ← list true depth
        expect (reserved "fi")
        pure (.conditional condition body otherwise)
      else do
        expect (reserved "fi")
        pure (.conditional condition body .nothing)

/-- The body of a repetition. -/
def loopBody : Nat → Reader Command
  | 0 => refuse
  | depth + 1 => do
      expect (reserved "do")
      let body ← list true depth
      expect (reserved "done")
      pure body

/-- What follows on `while` or `until`. -/
def repetition : Nat → Bool → Reader Command
  | 0, _ => refuse
  | depth + 1, whileFails => do
      let condition ← list true depth
      pure (.repetition whileFails condition (← loopBody depth))

/-- What follows on `for`. -/
def iteration : Nat → Reader Command
  | 0 => refuse
  | depth + 1 => do
      let name ← word
      skipNewlines depth
      let words? ←
        if (← peek) == some (reserved "in") then do
          advance
          some <$> words depth
        else pure none
      if (← peek) == some (.operator .semicolon) then advance
      skipNewlines depth
      pure (.iteration name words? (← loopBody depth))

/-- What follows on `case`. -/
def selection : Nat → Reader Command
  | 0 => refuse
  | depth + 1 => do
      let subject ← word
      skipNewlines depth
      expect (reserved "in")
      pure (.selection subject (← clauses depth))

/-- The clauses of a selection with the word behind them. -/
def clauses : Nat → Reader (List (List Text × Command))
  | 0 => refuse
  | depth + 1 => do
      skipNewlines depth
      if (← peek) == some (reserved "esac") then do
        advance
        pure []
      else do
        if (← peek) == some (.operator .openParen) then advance
        if (← peek).isNone then refuseFor (some ")")
        let several ← patterns depth
        let body ← list false depth
        if (← peek) == some (.operator .doubleSemicolon) then do
          advance
          pure ((several, body) :: (← clauses depth))
        else do
          skipNewlines depth
          expect (reserved "esac")
          pure [(several, body)]

end

/-- The commands on a line, and those that belong to them. -/
def line (depth : Nat) : Nat → Reader Command
  | 0 => refuse
  | more + 1 => do
      let first ← andOr depth
      let (first, separated) ←
        match ← peek with
        | some (.operator .ampersand) => do
            advance
            pure (Command.background first, true)
        | some (.operator .semicolon) => do
            advance
            pure (first, true)
        | _ => pure (first, false)
      match ← peek with
      | none => pure first
      | some (.operator .newline) => do
          advance
          pure first
      | _ => if separated then .sequence first <$> line depth more else refuse

/-- How deep the commands in a source can be nested. -/
def depthOf (source : Source) : Nat := 8 * source.tokens.length + 16

/-- Read the commands of the next line. There are none at the end of the source. -/
def next? (source : Source) : Except SyntaxError (Option Command × Source) :=
  let depth := depthOf source
  let reader : Reader (Option Command) := do
    skipNewlines depth
    match ← peek with
    | none => pure none
    | some _ => some <$> line depth depth
  reader.run source

/-- Whether a source only lacks something at its end. -/
def isIncomplete (source : Source) : Nat → Bool
  | 0 => false
  | more + 1 =>
      match next? source with
      | .error (.unexpectedEnd _) | .error (.unclosedQuote _) => true
      | .error (.unexpected _ _ _) | .ok (none, _) => false
      | .ok (some _, rest) => isIncomplete rest more

end Reader
end Shell
end ChildProcess
