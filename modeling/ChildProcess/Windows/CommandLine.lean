/-!
# Windows command lines

On Windows a child gets its arguments as one line, which it splits itself: blanks
outside quotes stand between arguments, and backslashes are special in front of a
quote only. Of these, every two stand for one; if the number of them is odd, the
quote belongs to the argument, and else it starts or ends a quoted part.
`commandLine` writes a line, and `argumentsOf` splits one.
-/

namespace ChildProcess
namespace Windows

/-- The characters that a token cannot hold outside quotes. -/
def needsQuotes (character : Char) : Bool :=
  character == ' ' || character == '\t' || character == '\n'
    || character == '\x0b' || character == '\x22'

/-- The inside of a quoted token, and the closing quote. Backslashes are held back
until it is known what follows them: in front of a quote, the closing one
included, each is written twice. -/
def quotedBody (backslashes : Nat) : List Char → List Char
  | [] => List.replicate (backslashes * 2) '\\' ++ ['\x22']
  | '\\' :: rest => quotedBody (backslashes + 1) rest
  | character :: rest =>
      if character = '\x22' then
        List.replicate (backslashes * 2 + 1) '\\' ++ '\x22' :: quotedBody 0 rest
      else
        List.replicate backslashes '\\' ++ character :: quotedBody 0 rest

/-- One token, in quotes if it is empty or holds a character that asks for them. -/
def quoted (token : List Char) : List Char :=
  if token.isEmpty || token.any needsQuotes then
    '\x22' :: quotedBody 0 token
  else token

/-- The tokens with a blank between neighbours. -/
def joined : List (List Char) → List Char
  | [] => []
  | [token] => quoted token
  | token :: rest => quoted token ++ ' ' :: joined rest

/-- The command line for a list of tokens. -/
def commandLine (tokens : List String) : String :=
  String.ofList (joined (tokens.map String.toList))

/-! ## Splitting a line -/

/-- How much of an argument has been read without being part of it yet. -/
structure ArgumentState where
  /-- Whether a quoted part has been started. -/
  isQuoted : Bool
  /-- How many backslashes have been read last. -/
  backslashes : Nat
  deriving DecidableEq, Repr, Inhabited

namespace ArgumentState

/-- The state at the start of an argument. -/
def initial : ArgumentState := ⟨false, 0⟩

/-- Read one character. The answer is what this adds to the argument, and the state
behind it; there is none at a blank that ends the argument. -/
def read (state : ArgumentState) (character : Char) :
    Option (List Char × ArgumentState) :=
  if character = '\\' then
    some ([], { state with backslashes := state.backslashes + 1 })
  else if character = '\x22' then
    let halved := List.replicate (state.backslashes / 2) '\\'
    if state.backslashes % 2 = 0 then some (halved, ⟨!state.isQuoted, 0⟩)
    else some (halved ++ ['\x22'], ⟨state.isQuoted, 0⟩)
  else if (character = ' ' ∨ character = '\t') ∧ !state.isQuoted then none
  else
    some (List.replicate state.backslashes '\\' ++ [character],
      ⟨state.isQuoted, 0⟩)

end ArgumentState

/-- Put characters in front of the first argument of a list. -/
def extendFirst (characters : List Char) : List (List Char) → List (List Char)
  | [] => [characters]
  | first :: rest => (characters ++ first) :: rest

/-- The arguments in the rest of a line. If one has been started, the first of them
is what is still to come of it. -/
def argumentsFrom : Option ArgumentState → List Char → List (List Char)
  | none, [] => []
  | some state, [] => [List.replicate state.backslashes '\\']
  | started?, character :: rest =>
      match (started?.getD .initial).read character, started? with
      | some (characters, state), _ =>
          extendFirst characters (argumentsFrom (some state) rest)
      | none, some state =>
          List.replicate state.backslashes '\\' :: argumentsFrom none rest
      | none, none => argumentsFrom none rest

/-- The arguments that a command line is split into. -/
def argumentsOf (line : String) : List String :=
  (argumentsFrom none line.toList).map String.ofList

end Windows
end ChildProcess
