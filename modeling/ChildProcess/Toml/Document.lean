import ChildProcess.Toml.Scalar
import ChildProcess.Toml.Table
import ChildProcess.Toml.Text

/-!
# TOML documents

A document is read line by line: headers open tables, and every other line puts a
value under a key. Arrays and inline tables may go over several lines and may end
in a comma; only the parts of one key have to stand on one line. Neither values nor
keys may be deeper than `depthLimit`.
-/

namespace ChildProcess
namespace Toml

mutual

/-- A value of any kind, in which arrays and inline tables stand at most `depth` deep
in one another. -/
def readValue : Nat → Nat → List Char → Option (Value × List Char)
  | 0, _, _ => none
  | rounds + 1, depth, characters =>
      match characters, depth with
      | '[' :: _, 0 | '\x7b' :: _, 0 => none
      | '[' :: rest, depth + 1 =>
          (readElements rounds depth (skipLines rest.length rest)).map
            fun (elements, rest) => (.array elements, rest)
      | '\x7b' :: rest, depth + 1 =>
          (readPairs rounds depth [] (skipLines rest.length rest)).map
            fun (entries, rest) => (.table (entriesToValues entries), rest)
      | '\x22' :: _, _ | '\'' :: _, _ =>
          (readString characters).map fun (content, rest) => (.text content, rest)
      | _, _ =>
          let (word, rest) := readWord characters
          (scalar? word).map fun value => (value, rest)

/-- The elements of an array up to its closing bracket. -/
def readElements : Nat → Nat → List Char → Option (List Value × List Char)
  | 0, _, _ => none
  | rounds + 1, depth, characters =>
      match characters with
      | ']' :: rest => some ([], rest)
      | _ => do
          let (element, rest) ← readValue rounds depth characters
          match skipLines rest.length rest with
          | ',' :: rest =>
              let (elements, rest) ←
                readElements rounds depth (skipLines rest.length rest)
              some (element :: elements, rest)
          | ']' :: rest => some ([element], rest)
          | _ => none

/-- The entries of an inline table, put behind those read so far, up to its
closing brace. -/
def readPairs : Nat → Nat → Entries → List Char → Option (Entries × List Char)
  | 0, _, _, _ => none
  | rounds + 1, depth, entries, characters =>
      match characters with
      | '\x7d' :: rest => some (entries, rest)
      | _ => do
          let (keys, rest) ← readKey characters
          let '=' :: rest := skipLines rest.length rest | none
          let (value, rest) ← readValue rounds depth (skipLines rest.length rest)
          let entries ← Entries.assign keys value false entries
          match skipLines rest.length rest with
          | ',' :: rest =>
              readPairs rounds depth entries (skipLines rest.length rest)
          | '\x7d' :: rest => some (entries, rest)
          | _ => none

end

/-- A document that has been read in part: the key of the table that is open, and
all tables. -/
structure Draft where
  current : List String
  entries : Entries

/-- Read one line that is not blank, and what follows it. -/
def readLine (draft : Draft) (characters : List Char) : Option (Draft × List Char) :=
  match characters with
  | '[' :: '[' :: rest => do
      let (keys, rest) ← readKey rest
      let ']' :: ']' :: rest := skipBlanks rest | none
      let rest ← finishLine rest
      let entries ← draft.entries.openElement keys
      some (⟨keys, entries⟩, rest)
  | '[' :: rest => do
      let (keys, rest) ← readKey rest
      let ']' :: rest := skipBlanks rest | none
      let rest ← finishLine rest
      let entries ← draft.entries.openTable keys
      some (⟨keys, entries⟩, rest)
  | _ => do
      let (keys, rest) ← readKey characters
      let '=' :: rest := skipBlanks rest | none
      let (value, rest) ← readValue (2 * rest.length + 2) depthLimit (skipBlanks rest)
      let rest ← finishLine rest
      let entries ← draft.entries.assignAt draft.current keys value
      some ({ draft with entries }, rest)

/-- Read all lines. -/
def readLines : Nat → Draft → List Char → Option Draft
  | 0, _, _ => none
  | rounds + 1, draft, characters =>
      match skipLines characters.length characters with
      | [] => some draft
      | rest => do
          let (draft, rest) ← readLine draft rest
          readLines rounds draft rest

/-- The entries of a document. A mark of the byte order in front is skipped. -/
def parse (text : String) : Option (List (String × Value)) :=
  let characters :=
    match text.toList with
    | '\uFEFF' :: rest => rest
    | characters => characters
  (readLines (characters.length + 1) ⟨[], []⟩ characters).map
    fun draft => entriesToValues draft.entries

end Toml
end ChildProcess
