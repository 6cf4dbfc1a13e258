import ChildProcess.Bytes
import ChildProcess.LogRecord
import ChildProcess.Toml.Document

/-!
# Settings files

A settings file holds defaults for the runs of a command: a table `process` with
the working directory and the time limits, a table `env` with variables, and a
table `debug` with the log topics that are to be watched. Everything in it may be
absent, and keys that mean nothing are ignored.
-/

namespace ChildProcess
namespace Runner

/-- What a settings file says. -/
structure Settings where
  directory? : Option Bytes := none
  mergesOutputs? : Option Bool := none
  /-- Seconds until a command is asked to end. -/
  timeout? : Option Binary64 := none
  /-- Seconds from there until it is killed. -/
  killAfter? : Option Binary64 := none
  /-- Variables by their names. -/
  environment : List (String × String) := []
  topics : List LogTopic := []
  deriving DecidableEq, Repr, Inhabited

namespace Settings

open Toml (Value)

/-- The key under which a date or time counts as a table. -/
def dateTimeKey : String := "$__toml_private_datetime"

/-- The entries of a table with known fields. Other entries are ignored, but the
numbers in them have to have values. -/
def knownFields? (names : List String) (entries : List (String × Value)) :
    Option (List (String × Value)) :=
  if entries.all fun (name, value) => names.contains name || value.isReadable then
    some entries
  else none

/-- The fields of something that is to be a table with known fields. An array has
the fields in their order, and what is behind them is not looked at. -/
def fields? (names : List String) : Value → Option (List (String × Value))
  | .table entries => knownFields? names entries
  | .array elements => some (names.zip elements)
  | .dateTime spelling => some [(dateTimeKey, .text spelling)]
  | _ => none

/-- Read a field that may be absent. -/
def readField {α : Type}
    (read : Value → Option α)
    (fields : List (String × Value))
    (name : String) : Option (Option α) :=
  match fields.lookup name with
  | none => some none
  | some value => (read value).map some

/-- A text. -/
def readText : Value → Option String
  | .text content => some content
  | _ => none

/-- A truth value. -/
def readBoolean : Value → Option Bool
  | .boolean value => some value
  | _ => none

/-- A floating point number, or a whole one that fits into 64 bits. -/
def readNumber : Value → Option Binary64
  | .float number => some number
  | .integer number =>
      if -(Nat.pow 2 63 : Int) ≤ number ∧ number < (Nat.pow 2 64 : Int) then
        some (.ofInt number)
      else none
  | _ => none

/-- The variables of a table. -/
def readVariables : Value → Option (List (String × String))
  | .table entries =>
      entries.mapM fun (key, value) => (readText value).map fun text => (key, text)
  | .dateTime spelling => some [(dateTimeKey, spelling)]
  | _ => none

/-- A log topic: its name, or a table with nothing but its name and nothing under
it. -/
def readTopic : Value → Option LogTopic
  | .text name => LogTopic.ofName? name
  | .table [(name, .table [])] | .table [(name, .array [])] => LogTopic.ofName? name
  | _ => none

/-- Several log topics. -/
def readTopics : Value → Option (List LogTopic)
  | .array elements => elements.mapM readTopic
  | _ => none

/-- The names of the fields of the table `process`, in their order. -/
def processFields : List String :=
  ["directory", "merge-outputs", "timeout-secs", "kill-after-secs"]

/-- Read the entries of a settings file. -/
def ofEntries (entries : List (String × Value)) : Option Settings := do
  let entries ← knownFields? ["process", "env", "debug"] entries
  let process ← readField (fields? processFields) entries "process"
  let process := process.getD []
  let debug ← readField (fields? ["events"]) entries "debug"
  let debug := debug.getD []
  let environment ← readField readVariables entries "env"
  let directory? ← readField readText process "directory"
  let mergesOutputs? ← readField readBoolean process "merge-outputs"
  let timeout? ← readField readNumber process "timeout-secs"
  let killAfter? ← readField readNumber process "kill-after-secs"
  let topics ← readField readTopics debug "events"
  some
    { directory? := directory?.map Bytes.ofText
      mergesOutputs?
      timeout?
      killAfter?
      environment :=
        (environment.getD []).mergeSort fun left right =>
          !decide (right.1 < left.1)
      topics := topics.getD [] }

/-- Read the text of a settings file. -/
def parse (text : String) : Option Settings :=
  (Toml.parse text).bind ofEntries

end Settings
end Runner
end ChildProcess
