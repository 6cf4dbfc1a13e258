import ChildProcess.Runner.LogFilter
import ChildProcess.Runner.Supervision
import ChildProcess.Text.Terminal

/-!
# The command-line program

The program reads its arguments, loads the settings file, and runs the command. Its
exit code is that of the command, or says why there is none. Log records that are
shown go to standard error, one on a line.
-/

namespace ChildProcess

/-- The line that shows a record. -/
def LogRecord.line (record : LogRecord) : String :=
  record.level.label ++ " " ++ Text.forTerminal record.message ++ "\n"

namespace Program

/-- Write a text to a descriptor; what cannot be written is lost. -/
def writeText (descriptor : Descriptor) (text : String) : Program Unit := do
  let _ ← writeAll (writeSome patience descriptor) patience (Bytes.ofText text)

/-- The program with its log records written to standard error, if they are
shown. -/
def showingLog {α : Type} (shows : LogRecord → Bool) : Program α → Program α
  | .done value => .done value
  | .exhausted => .exhausted
  | .call (.log record) resume =>
      if shows record then
        (writeText StandardStream.stderr.slot record.line).bind
          fun _ => showingLog shows (resume ())
      else showingLog shows (resume ())
  | .call request resume => .call request fun answer => showingLog shows (resume answer)

end Program

namespace Runner

/-- What a run needs besides the arguments. -/
structure Preparation where
  options : RunOptions
  filter : LogFilter

/-- The enabled topics as they are logged. -/
def displayTopics (topics : List LogTopic) : String :=
  "\x7b" ++ ", ".intercalate (topics.map LogTopic.constructorName) ++ "\x7d"

/-- Load the settings. Those that the user did not name are only warned about when
they cannot be loaded. -/
def findSettings (environment : Environment) (arguments : Arguments) :
    Program (Except RunError Settings) := do
  let loaded ← loadSettings environment arguments.skipsSettings arguments.settingsFile?
  match loaded.error? with
  | none => pure (.ok loaded.settings)
  | some cause =>
      let path := loaded.path?.getD []
      if loaded.isExplicit then pure (.error (.settings path cause))
      else do
        Program.log .warn none
          ("ignoring configuration from " ++ path.toLossyText ++ ": "
            ++ cause.message)
        pure (.ok loaded.settings)

/-- Prepare a run. -/
def prepare (environment : Environment) (arguments : Arguments) :
    Program (Except RunError Preparation) := do
  match ← findSettings environment arguments with
  | .error cause => pure (.error cause)
  | .ok settings => do
      let (filter, enabled) :=
        (LogFilter.ofTopics arguments.topics).enable settings.topics
      match enabled with
      | .ok () => pure ()
      | .error cause => Program.log .warn none cause.message
      Program.showingLog filter.shows
        (Program.log .debug (some .spawn)
          ("enabled trace events: " ++ displayTopics filter.topics))
      match RunOptions.combine settings arguments with
      | .error cause => pure (.error cause)
      | .ok options => pure (.ok ⟨options, filter⟩)

/-- The files that the arguments name for the standard streams. -/
def redirections (arguments : Arguments) : PerStream (Option Bytes) :=
  ⟨arguments.stdin?, arguments.stdout?, arguments.stderr?⟩

/-- Run the command of the arguments. Records are shown as the settings say. -/
def runArguments (environment : Environment) (arguments : Arguments) :
    Program (Except RunError Int) := do
  let filter := LogFilter.ofTopics arguments.topics
  match ← Program.showingLog filter.shows (prepare environment arguments) with
  | .error cause => pure (.error cause)
  | .ok preparation =>
      Program.showingLog preparation.filter.shows
        (runCommand environment arguments.command preparation.options
          (redirections arguments))

/-- The exit code for arguments that cannot be used. -/
def usageCode : Int := 2

/-- The name and the version of the program. -/
def versionText : String := "spawnkit 0.1.0"

/-- What is printed for arguments that name no command to run. -/
def usageText : ArgumentError → String
  | .versionRequested => versionText ++ "\n"
  | .helpRequested => "Usage: spawnkit [OPTIONS] <COMMAND>...\n"
  | _ => "error: invalid arguments\n\nUsage: spawnkit [OPTIONS] <COMMAND>...\n"

/-- Answer arguments that name no command to run. -/
def explain (cause : ArgumentError) : Program Int := do
  match cause with
  | .versionRequested | .helpRequested => do
      Program.writeText StandardStream.stdout.slot (usageText cause)
      pure 0
  | _ => do
      Program.writeText StandardStream.stderr.slot (usageText cause)
      pure usageCode

/-- The whole program. The answer is its exit code. -/
def program (environment : Environment) (arguments : List Bytes) : Program Int := do
  match Arguments.parse arguments
      (environment.lookup (Bytes.ofText Arguments.settingsVariable)) with
  | .error cause => explain cause
  | .ok arguments =>
      match ← runArguments environment arguments with
      | .ok code => pure code
      | .error cause => do
          Program.showingLog (LogFilter.ofTopics []).shows
            (Program.log .error none ("error: " ++ cause.message))
          pure cause.exitCode

end Runner
end ChildProcess
