import ChildProcess.Runner.Arguments
import ChildProcess.Runner.Error
import ChildProcess.Runner.Settings

/-!
# Options of a run

Where the arguments say nothing, the settings file decides, and where it says
nothing either, a default does. Variables of the arguments come first, so that they
win over those of the settings file.
-/

namespace ChildProcess
namespace Runner

/-- How a command is to be run. -/
structure RunOptions where
  /-- Variables for the command; the first one of several with the same name
  counts. -/
  environment : List (String × String) := []
  clearsEnvironment : Bool := false
  directory? : Option Bytes := none
  mergesOutputs : Bool := false
  /-- How long the command may run. -/
  timeout? : Option Duration := none
  /-- How long it may go on after it was asked to end. -/
  killAfter : Duration := .ofSeconds 5
  deriving DecidableEq, Repr, Inhabited

namespace RunOptions

/-- Seconds as a duration. -/
def readDuration (name : String) (secs : Binary64) : Except RunError Duration :=
  match Duration.ofSeconds? secs with
  | some duration => .ok duration
  | none => .error (.duration name secs)

/-- Seconds, if there are any, as a duration. -/
def readDuration? (name : String) : Option Binary64 → Except RunError (Option Duration)
  | none => .ok none
  | some secs => some <$> readDuration name secs

/-- The options that arguments and settings amount to. -/
def combine (settings : Settings) (arguments : Arguments) :
    Except RunError RunOptions := do
  let timeout? ←
    readDuration? "timeout" (arguments.timeout?.or settings.timeout?)
  let killAfter? ←
    readDuration? "kill-after" (arguments.killAfter?.or settings.killAfter?)
  .ok
    { environment := arguments.environment ++ settings.environment
      clearsEnvironment := arguments.clearsEnvironment
      directory? := arguments.directory?.or settings.directory?
      mergesOutputs := arguments.mergesOutputs || settings.mergesOutputs?.getD false
      timeout?
      killAfter := killAfter?.getD (.ofSeconds 5) }

end RunOptions
end Runner
end ChildProcess
