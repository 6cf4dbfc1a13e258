import ChildProcess.Decimal.Shortest
import ChildProcess.Duration
import ChildProcess.LaunchError
import ChildProcess.Text.Lossy

/-!
# Errors of a run

What can keep a command from being run to its end, and the exit code that is
reported for it. The codes follow the usage of shells: 127 for a command that is
not there, 126 for one that cannot be started.
-/

namespace ChildProcess
namespace Runner

/-- Why a settings file could not be loaded. -/
inductive SettingsError
  | unreadable (cause : SystemError)
  | malformed
  deriving DecidableEq, Repr, Inhabited

/-- The text of the error. -/
def SettingsError.message : SettingsError → String
  | .unreadable cause => "failed to read config file: " ++ cause.message
  | .malformed => "failed to parse config file"

/-- Why a run failed. -/
inductive RunError
  /-- The settings file that was asked for could not be loaded. -/
  | settings (path : Bytes) (cause : SettingsError)
  /-- A file for a standard stream could not be opened. -/
  | redirection (path : Bytes) (cause : SystemError)
  /-- A time limit is no duration. -/
  | duration (name : String) (value : Binary64)
  /-- The command could not be started. -/
  | start (cause : LaunchError)
  /-- The command could not be waited for or signalled. -/
  | wait (cause : LaunchError)
  /-- The choice of log topics could not be changed. -/
  | tracing (reason : String)
  deriving DecidableEq, Repr, Inhabited

namespace RunError

/-- The text of an error. -/
def message : RunError → String
  | .settings path cause => path.toLossyText ++ ": " ++ cause.message
  | .redirection path cause => path.toLossyText ++ ": " ++ cause.message
  | .duration name value => "invalid " ++ name ++ ": " ++ Decimal.display value
  | .start cause | .wait cause => cause.message
  | .tracing reason => "failed to update tracing: " ++ reason

/-- The text of what lies behind an error. A failed start or wait passes for its
own cause. -/
def cause? : RunError → Option String
  | .settings _ cause => some cause.message
  | .redirection _ cause => some cause.message
  | .start cause | .wait cause => cause.cause?
  | .duration _ _ | .tracing _ => none

/-- The code for a command that is not there. -/
def notFoundCode : Int := 127

/-- The code for a command that cannot be started. -/
def cannotStartCode : Int := 126

/-- The code for any other failure. -/
def failureCode : Int := 1

/-- The exit code that is reported for an error. -/
def exitCode : RunError → Int
  | .start cause => if cause.isNotFound then notFoundCode else cannotStartCode
  | _ => failureCode

end RunError
end Runner
end ChildProcess
