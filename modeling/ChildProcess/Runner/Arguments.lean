import ChildProcess.Bytes
import ChildProcess.Decimal.Reading
import ChildProcess.LogRecord

/-!
# Command line arguments

The arguments are options up to the first one that is none; from there on they are
the command to run. An option is recognised as soon as it is read, and its value is
looked at when the next option or the command begins, or at the end: of several
mistakes the one that is noticed first is reported.
-/

namespace ChildProcess
namespace Runner

/-- Why the arguments are refused, or not carried out. -/
inductive ArgumentError
  /-- The user asked for help. -/
  | helpRequested
  /-- The user asked for the version. -/
  | versionRequested
  /-- There is no command. -/
  | missingCommand
  | unknownOption
  /-- A value is missing, empty, or not one of those allowed. -/
  | invalidValue
  /-- A value has not the required form. -/
  | malformedValue (reason : String)
  /-- An option is given twice, or together with one that excludes it. -/
  | conflict
  /-- A value is given to an option that has none. -/
  | unneededValue
  /-- A text is not valid UTF-8. -/
  | invalidText
  deriving DecidableEq, Repr, Inhabited

/-- Options without a value. -/
inductive Flag
  | clearEnvironment
  | mergeOutputs
  | skipSettings
  | help
  | version
  deriving DecidableEq, Repr, Inhabited

/-- Options with a value. -/
inductive Setting
  | environment
  | directory
  | stdin
  | stdout
  | stderr
  | timeout
  | killAfter
  | topic
  | settingsFile
  deriving DecidableEq, Repr, Inhabited

/-- Any option. -/
inductive OptionKind
  | flag (flag : Flag)
  | setting (setting : Setting)
  deriving DecidableEq, Repr, Inhabited

namespace OptionKind

/-- The options by their long names. -/
def longNames : List (String × OptionKind) :=
  [("env", .setting .environment),
   ("clear-env", .flag .clearEnvironment),
   ("directory", .setting .directory),
   ("merge-outputs", .flag .mergeOutputs),
   ("stdin", .setting .stdin),
   ("stdout", .setting .stdout),
   ("stderr", .setting .stderr),
   ("timeout", .setting .timeout),
   ("kill-after", .setting .killAfter),
   ("debug", .setting .topic),
   ("config", .setting .settingsFile),
   ("no-config", .flag .skipSettings),
   ("help", .flag .help),
   ("version", .flag .version)]

/-- The options by their letters. -/
def letters : List (Char × OptionKind) :=
  [('e', .setting .environment),
   ('C', .setting .directory),
   ('h', .flag .help),
   ('V', .flag .version)]

/-- The option with a long name. -/
def ofLongName? (name : Bytes) : Option OptionKind :=
  name.toText?.bind fun name => longNames.lookup name

/-- The option with a letter. -/
def ofLetter? (letter : UInt8) : Option OptionKind :=
  letters.lookup (Char.ofNat letter.toNat)

end OptionKind

/-- What the arguments say. -/
structure Arguments where
  /-- Variables for the command, in the order given. -/
  environment : List (String × String) := []
  clearsEnvironment : Bool := false
  directory? : Option Bytes := none
  mergesOutputs : Bool := false
  stdin? : Option Bytes := none
  stdout? : Option Bytes := none
  stderr? : Option Bytes := none
  timeout? : Option Binary64 := none
  killAfter? : Option Binary64 := none
  topics : List LogTopic := []
  settingsFile? : Option Bytes := none
  skipsSettings : Bool := false
  command : List String := []
  deriving DecidableEq, Repr, Inhabited

namespace Arguments

/-- A variable and its value, with `=` between them. -/
def readVariable (text : String) : Except ArgumentError (String × String) :=
  let characters := text.toList
  let key := characters.takeWhile (· != '=')
  match characters.dropWhile (· != '=') with
  | [] => .error (.malformedValue ("expected KEY=VALUE, found '" ++ text ++ "'"))
  | _ :: value =>
      if key.isEmpty then
        .error (.malformedValue ("missing variable name in '" ++ text ++ "'"))
      else .ok (String.ofList key, String.ofList value)

/-- A value that is a text. -/
def readText (value : Bytes) : Except ArgumentError String :=
  match value.toText? with
  | some text => .ok text
  | none => .error .invalidText

/-- A value that is a path. -/
def readPath (value : Bytes) : Except ArgumentError Bytes :=
  if value.isEmpty then .error .invalidValue else .ok value

/-- A value that is a number. -/
def readNumber (value : Bytes) : Except ArgumentError Binary64 := do
  match Decimal.read (← readText value) with
  | .ok number => .ok number
  | .error cause => .error (.malformedValue cause.message)

/-- A value that is the name of a log topic. -/
def readTopic (value : Bytes) : Except ArgumentError LogTopic :=
  match value.toText?.bind LogTopic.ofName? with
  | some topic => .ok topic
  | none => .error .invalidValue

/-- Refuse an option that was there before. -/
def requireNew (present : Bool) : Except ArgumentError Unit :=
  if present then .error .conflict else .ok ()

/-- Take in an option without a value. -/
def acceptFlag (arguments : Arguments) : Flag → Except ArgumentError Arguments
  | .clearEnvironment => do
      requireNew arguments.clearsEnvironment
      .ok { arguments with clearsEnvironment := true }
  | .mergeOutputs => do
      requireNew arguments.mergesOutputs
      .ok { arguments with mergesOutputs := true }
  | .skipSettings => do
      requireNew arguments.skipsSettings
      .ok { arguments with skipsSettings := true }
  | .help => .error .helpRequested
  | .version => .error .versionRequested

/-- Take in an option with its value. Variables and log topics add up; any other
option may be there once. -/
def acceptSetting (arguments : Arguments) (setting : Setting) (value : Bytes) :
    Except ArgumentError Arguments :=
  match setting with
  | .environment => do
      let pair ← readVariable (← readText value)
      .ok { arguments with environment := arguments.environment ++ [pair] }
  | .directory => do
      requireNew arguments.directory?.isSome
      .ok { arguments with directory? := some (← readPath value) }
  | .stdin => do
      requireNew arguments.stdin?.isSome
      .ok { arguments with stdin? := some (← readPath value) }
  | .stdout => do
      requireNew arguments.stdout?.isSome
      .ok { arguments with stdout? := some (← readPath value) }
  | .stderr => do
      requireNew arguments.stderr?.isSome
      .ok { arguments with stderr? := some (← readPath value) }
  | .timeout => do
      requireNew arguments.timeout?.isSome
      .ok { arguments with timeout? := some (← readNumber value) }
  | .killAfter => do
      requireNew arguments.killAfter?.isSome
      .ok { arguments with killAfter? := some (← readNumber value) }
  | .topic => do
      .ok { arguments with topics := arguments.topics ++ [← readTopic value] }
  | .settingsFile => do
      requireNew arguments.settingsFile?.isSome
      .ok { arguments with settingsFile? := some (← readPath value) }

end Arguments

/-- An option whose value is still to come, or has not been looked at yet. -/
structure Pending where
  setting : Setting
  value? : Option Bytes
  deriving DecidableEq, Repr

/-- How far the arguments have been read. -/
structure Scan where
  arguments : Arguments := {}
  pending? : Option Pending := none
  deriving DecidableEq, Repr

namespace Scan

/-- Look at the value of the pending option. -/
def settle (scan : Scan) : Except ArgumentError Scan :=
  match scan.pending? with
  | none => .ok scan
  | some ⟨_, none⟩ => .error .invalidValue
  | some ⟨setting, some value⟩ => do
      .ok ⟨← scan.arguments.acceptSetting setting value, none⟩

/-- An option without a value. -/
def flag (scan : Scan) (flag : Flag) : Except ArgumentError Scan := do
  let scan ← scan.settle
  .ok { scan with arguments := ← scan.arguments.acceptFlag flag }

/-- An option whose value stands in the same argument. -/
def attached (scan : Scan) (setting : Setting) (value : Bytes) :
    Except ArgumentError Scan := do
  let scan ← scan.settle
  .ok { scan with arguments := ← scan.arguments.acceptSetting setting value }

/-- An option whose value is the next argument. -/
def await (scan : Scan) (setting : Setting) : Except ArgumentError Scan := do
  let scan ← scan.settle
  .ok { scan with pending? := some ⟨setting, none⟩ }

/-- Options given by their letters in one argument. The first one with a value takes
the rest of the argument, less a leading `=`, or else the next argument. -/
def readLetters (scan : Scan) : Bytes → Except ArgumentError Scan
  | [] => .ok scan
  | letter :: rest =>
      match OptionKind.ofLetter? letter with
      | none => .error .unknownOption
      | some (.flag flag) => do readLetters (← scan.flag flag) rest
      | some (.setting setting) =>
          match rest with
          | [] => scan.await setting
          | first :: value =>
              scan.attached setting
                (if first = 61 then value else first :: value)

/-- An option given by its long name, behind which a value may stand after `=`. -/
def readLong (scan : Scan) (argument : Bytes) : Except ArgumentError Scan :=
  let name := argument.takeWhile (· != 61)
  let value? :=
    match argument.dropWhile (· != 61) with
    | [] => none
    | _ :: value => some value
  match OptionKind.ofLongName? name, value? with
  | none, _ => .error .unknownOption
  | some (.flag _), some _ => .error .unneededValue
  | some (.flag flag), none => scan.flag flag
  | some (.setting setting), some value => scan.attached setting value
  | some (.setting setting), none => scan.await setting

/-- Read options up to the command. -/
def readOptions (scan : Scan) :
    List Bytes → Except ArgumentError (Scan × List Bytes)
  | [] => .ok (scan, [])
  | [45, 45] :: rest => .ok (scan, rest)
  | (45 :: 45 :: long) :: rest => do
      readOptions (← scan.readLong long) rest
  | (45 :: letter :: letters) :: rest => do
      readOptions (← scan.readLetters (letter :: letters)) rest
  | argument :: rest =>
      match scan.pending? with
      | some ⟨setting, none⟩ =>
          readOptions { scan with pending? := some ⟨setting, some argument⟩ } rest
      | _ => .ok (scan, argument :: rest)

end Scan

namespace Arguments

/-- The name of the variable that stands in for the option with the settings
file. -/
def settingsVariable : String := "SPAWNKIT_CONFIG"

/-- Read the arguments behind the program's name. -/
def parse (arguments : List Bytes) (settingsVariable? : Option Bytes) :
    Except ArgumentError Arguments := do
  let (scan, command) ← Scan.readOptions {} arguments
  let scan ← scan.settle
  let command ← command.mapM readText
  let arguments := { scan.arguments with command }
  let arguments ←
    match arguments.settingsFile?, settingsVariable? with
    | none, some path => do
        .ok { arguments with settingsFile? := some (← readPath path) }
    | _, _ => .ok arguments
  if arguments.settingsFile?.isSome && arguments.skipsSettings then
    .error .conflict
  else if arguments.command.isEmpty then .error .missingCommand
  else .ok arguments

end Arguments
end Runner
end ChildProcess
