import ChildProcess.Bytes

/-!
# Process environments

A process has a list of entries, usually of the form `KEY=VALUE`, in some order
and perhaps with repetitions. There are two readings of it: looking up one
variable finds the first entry for it, and enumerating the variables yields all
entries that have a name.
-/

namespace ChildProcess

/-- The environment entries of a process in order. -/
structure Environment where
  /-- The entries, as a rule `KEY=VALUE`. -/
  entries : List Bytes
  deriving DecidableEq, Repr, Inhabited

namespace Environment

/-- The byte `=`. -/
def equals : UInt8 := 61

/-- The environment with one entry for each pair. -/
def ofPairs (pairs : List (Bytes × Bytes)) : Environment :=
  ⟨pairs.map fun pair => pair.1 ++ equals :: pair.2⟩

/-- The rest of an entry behind a key and the byte `=`. -/
def valueOf? (key : Bytes) (entry : Bytes) : Option Bytes :=
  if (key ++ [equals]).isPrefixOf entry then
    some (entry.drop (key.length + 1))
  else none

/-- The value of a variable: that of the first entry for it. -/
def lookup (environment : Environment) (key : Bytes) : Option Bytes :=
  environment.entries.findSome? (valueOf? key)

/-- Split an entry at its first byte `=`, the first byte of the entry excepted:
a name may start with `=` but is never empty. -/
def splitEntry : Bytes → Option (Bytes × Bytes)
  | [] => none
  | first :: rest =>
      if rest.contains equals then
        some (first :: rest.takeWhile (· != equals),
          (rest.dropWhile (· != equals)).drop 1)
      else none

/-- All variables in order; entries without a name or a value are skipped. -/
def pairs (environment : Environment) : List (Bytes × Bytes) :=
  environment.entries.filterMap splitEntry

/-- The variables whose name and value are texts. -/
def textVariables (environment : Environment) : List (String × String) :=
  environment.pairs.filterMap fun (key, value) =>
    match key.toText?, value.toText? with
    | some key, some value => some (key, value)
    | _, _ => none

end Environment
end ChildProcess
