/-!
# Signals

A signal is a number from 1 to 64. Most have a name, and each has an action that a
process takes when the signal arrives and the process has not asked for anything
else.
-/

namespace ChildProcess
namespace Signal

/-- What a process does when a signal arrives. -/
inductive Action
  | terminate
  | discard
  | stop
  | resume
  deriving DecidableEq, Repr, Inhabited

/-- The greatest number of a signal. -/
def maximum : Nat := 64

/-- Asked for from the keyboard. -/
def interrupt : Nat := 2

/-- Asked for from the keyboard, with an image of the process. -/
def quit : Nat := 3

/-- End at once; this cannot be ignored. -/
def kill : Nat := 9

/-- Written into a pipe that nobody reads. -/
def pipe : Nat := 13

/-- End, please. -/
def terminate : Nat := 15

/-- The state of a child changed. -/
def child : Nat := 17

/-- Go on after a stop. -/
def resume : Nat := 18

/-- Stop at once; this cannot be ignored. -/
def stop : Nat := 19

/-- The names of the signals that have one, by number from 1 on. -/
def names : List String :=
  ["HUP", "INT", "QUIT", "ILL", "TRAP", "ABRT", "BUS", "FPE", "KILL", "USR1",
    "SEGV", "USR2", "PIPE", "ALRM", "TERM", "STKFLT", "CHLD", "CONT", "STOP",
    "TSTP", "TTIN", "TTOU", "URG", "XCPU", "XFSZ", "VTALRM", "PROF", "WINCH",
    "POLL", "PWR", "SYS"]

/-- The number of a named signal. -/
def ofName? (name : String) : Option Nat :=
  (names.findIdx? (· == name)).map (· + 1)

/-- What the signals that have a name are called in messages, by number from 1 on. -/
def descriptions : List String :=
  ["Hangup", "Interrupt", "Quit", "Illegal instruction", "Trace/breakpoint trap",
    "Aborted", "Bus error", "Floating point exception", "Killed",
    "User defined signal 1", "Segmentation fault", "User defined signal 2",
    "Broken pipe", "Alarm clock", "Terminated", "Stack fault", "Child exited",
    "Continued", "Stopped (signal)", "Stopped", "Stopped (tty input)",
    "Stopped (tty output)", "Urgent I/O condition", "CPU time limit exceeded",
    "File size limit exceeded", "Virtual timer expired", "Profiling timer expired",
    "Window changed", "I/O possible", "Power failure", "Bad system call"]

/-- What a signal is called in messages. -/
def description (signal : Nat) : String :=
  match descriptions[signal - 1]? with
  | some text => text
  | none => "Unknown signal " ++ toString signal

/-- What happens when a signal arrives that nothing else is said about. -/
def action (signal : Nat) : Action :=
  if signal = resume then .resume
  else if [19, 20, 21, 22].contains signal then .stop
  else if [17, 23, 28].contains signal then .discard
  else .terminate

/-- Whether a signal acts even on a process that ignores or blocks it. -/
def isUnstoppable (signal : Nat) : Bool :=
  signal == kill || signal == stop

end Signal
end ChildProcess
