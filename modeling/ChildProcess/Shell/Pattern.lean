import ChildProcess.Program.Directory
import ChildProcess.Shell.Token

/-!
# Patterns

In a pattern, `*` stands for any text, `?` for any character, and brackets for one
of a set of characters, unless they are quoted. A word that is a pattern stands for
the paths that match it, if there are any. A dot at the start of a name is matched
by a dot only.
-/

namespace ChildProcess
namespace Shell

/-- A text in which some characters are quoted. -/
abbrev Marked := List (Char × Bool)

namespace Pattern

/-- The plain text. -/
def text (marked : Marked) : Text := marked.map Prod.fst

/-- Whether a character has a meaning of its own here. -/
def isSpecial (entry : Char × Bool) (character : Char) : Bool :=
  entry == (character, false)

/-- Whether a text is a pattern. -/
def isPattern (marked : Marked) : Bool :=
  marked.any fun entry => ['*', '?', '['].any (isSpecial entry)

/-- Whether a character is in a set, given as characters and ranges. -/
def inSet (character : Char) : Text → Bool
  | first :: '-' :: last :: rest =>
      (first ≤ character && character ≤ last) || inSet character rest
  | single :: rest => single == character || inSet character rest
  | [] => false

/-- The set of characters in brackets and what follows it. A closing bracket that
comes first belongs to the set. -/
def bracket? (marked : Marked) : Option (Bool × Text × Marked) :=
  let (isNegated, inside) :=
    match marked with
    | entry :: rest =>
        if isSpecial entry '!' || isSpecial entry '^' then (true, rest)
        else (false, marked)
    | [] => (false, [])
  let first := inside.take 1
  let body := (inside.drop 1).takeWhile (!isSpecial · ']')
  match inside.drop (1 + body.length) with
  | _ :: rest => some (isNegated, text (first ++ body), rest)
  | [] => none

/-- Whether a pattern matches all of a text, comparing so many times at most. -/
def isMatchWithin : Nat → Marked → Text → Bool
  | 0, _, _ => false
  | _ + 1, [], [] => true
  | _ + 1, [], _ :: _ => false
  | more + 1, entry :: pattern, subject =>
      if isSpecial entry '*' then
        isMatchWithin more pattern subject
          || match subject with
            | [] => false
            | _ :: rest => isMatchWithin more (entry :: pattern) rest
      else
        match subject with
        | [] => false
        | character :: rest =>
            if isSpecial entry '?' then isMatchWithin more pattern rest
            else if isSpecial entry '[' then
              match bracket? pattern with
              | some (isNegated, set, pattern) =>
                  (inSet character set != isNegated)
                    && isMatchWithin more pattern rest
              | none => character == '[' && isMatchWithin more pattern rest
            else entry.1 == character && isMatchWithin more pattern rest

/-- Whether a pattern matches all of a text. -/
def isMatch (pattern : Marked) (subject : Text) : Bool :=
  isMatchWithin (pattern.length + subject.length + 1) pattern subject

/-- Whether a pattern matches a name in a directory. -/
def matchesName (pattern : Marked) (name : Text) : Bool :=
  match name, pattern with
  | '.' :: _, entry :: _ => entry.1 == '.' && isMatch pattern name
  | _, _ => isMatch pattern name

/-- The parts of a path between its slashes. -/
def components (marked : Marked) : List Marked :=
  marked.splitBy (fun left right => left.1 != '/' && right.1 != '/')
    |>.filter (·.any (·.1 != '/'))

/-- The paths that a pattern stands for, below some paths that have been matched
already. -/
def pathsFrom (isAbsolute : Bool) : List Text → List Marked → Program (List Text)
  | matched, [] => pure matched
  | matched, component :: rest => do
      let extend := fun (front name : Text) =>
        if front.isEmpty then (if isAbsolute then '/' :: name else name)
        else front ++ '/' :: name
      if isPattern component then do
        let lists ← matched.mapM fun front => do
          let directory :=
            if front.isEmpty then (if isAbsolute then ['/'] else ['.']) else front
          let names ← Program.directoryNames (Bytes.ofCharacters directory)
          let names := (names.toOption.getD []).map Bytes.toCharacters
          pure ((names.filter (matchesName component)).map (extend front))
        pathsFrom isAbsolute lists.flatten rest
      else
        pathsFrom isAbsolute
          (matched.map fun front => extend front (text component)) rest

/-- The paths that a word stands for, in order: itself unless it is a pattern that
matches something. -/
def paths (marked : Marked) : Program (List Text) := do
  if !isPattern marked then pure [text marked]
  else do
    let candidates ←
      pathsFrom ((text marked).head? == some '/') [[]] (components marked)
    let existing ← candidates.filterM fun path => do
      match ← Program.perform (.fileInfo (Bytes.ofCharacters path) false) with
      | .ok _ => pure true
      | .error _ => pure false
    match existing with
    | [] => pure [text marked]
    | several => pure (several.mergeSort fun left right => !decide (right < left))

end Pattern
end Shell
end ChildProcess
