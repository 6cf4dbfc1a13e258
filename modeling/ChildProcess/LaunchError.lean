import ChildProcess.Launch
import ChildProcess.SystemError

/-!
# Errors of child processes

What can go wrong in starting, watching and stopping a child process. Each error
has a message (`LaunchError.message`) and most have a cause of their own
(`LaunchError.cause?`).
-/

namespace ChildProcess

/-- Why a child process could not be started, watched or stopped. -/
inductive LaunchError
  /-- The pipe that reports failures of the child could not be made. -/
  | reportPipe (cause : SystemError)
  /-- The pipe for a standard stream could not be made. -/
  | streamBinding (stream : StandardStream) (cause : SystemError)
  /-- A token, a variable or the directory cannot be handed over. -/
  | invalidArgument (reason : String)
  /-- There is no command line. -/
  | noCommand
  /-- The process could not be duplicated. -/
  | fork (cause : SystemError)
  /-- The child could not run its command; it is gone by now. -/
  | execution (command : String) (cause : SystemError)
  /-- The operating system refused to create the process. -/
  | creation (command : String) (cause : SystemError)
  /-- The child's report could not be read, or was cut short. -/
  | report (cause : SystemError)
  /-- The state of the child could not be asked for. -/
  | poll (errno : Errno)
  /-- It could not be found out how the end of children is signalled. -/
  | disposition (errno : Errno)
  /-- The operating system refused to wait for the child. -/
  | wait (cause : SystemError)
  /-- A signal could not be sent. -/
  | signal (process : ProcessId)
  /-- An input or output operation failed. -/
  | system (cause : SystemError)
  /-- A system call failed. -/
  | call (errno : Errno)
  deriving DecidableEq, Repr, Inhabited

namespace LaunchError

/-- The text of an error. -/
def message : LaunchError → String
  | .reportPipe cause =>
      "unable to create communication pipe: " ++ cause.message
  | .streamBinding stream cause =>
      "unable to bind " ++ stream.name ++ ": " ++ cause.message
  | .invalidArgument reason =>
      "invalid argument for child process: " ++ reason
  | .noCommand => "no command specified"
  | .fork cause => "unable to fork subprocess: " ++ cause.message
  | .execution command cause =>
      "child exec failed: " ++ command ++ ": " ++ cause.message
  | .creation command cause =>
      "unable to create process: " ++ command ++ ": " ++ cause.message
  | .report cause => "read failed: " ++ cause.message
  | .poll errno =>
      "failed to poll child process status: " ++ errno.symbolicMessage
  | .disposition errno =>
      "failed to query SIGCHLD disposition: " ++ errno.symbolicMessage
  | .wait cause => "failed to wait for child process: " ++ cause.message
  | .signal process => "failed to send signal to process " ++ toString process
  | .system cause => "i/o error: " ++ cause.message
  | .call errno => "system error: " ++ errno.symbolicMessage

/-- The text of what lies behind an error. -/
def cause? : LaunchError → Option String
  | .reportPipe cause | .streamBinding _ cause | .fork cause
  | .execution _ cause | .creation _ cause | .report cause | .wait cause
  | .system cause => some cause.message
  | .poll errno | .disposition errno | .call errno => some errno.symbolicMessage
  | .invalidArgument _ | .noCommand | .signal _ => none

/-- Whether the error says that the program to run does not exist. -/
def isNotFound : LaunchError → Bool
  | .execution _ cause | .creation _ cause => cause.kind == .notFound
  | _ => false

end LaunchError
end ChildProcess
