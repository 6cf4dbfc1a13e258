import ChildProcess.Environment
import ChildProcess.OrderedMap
import ChildProcess.StandardStream

/-!
# Launches

A `Launch` says everything about a child process that is to be started: its
command line, how its environment differs from the parent's, its working
directory, and where its standard streams go. A launch is put together by
settings applied one after another to the default launch; the command may be set
before or after its arguments.
-/

namespace ChildProcess

/-- The number of an open file in a process. -/
abbrev Descriptor := Int

/-- The number of a process. -/
abbrev ProcessId := Int

/-- Where a standard stream of a child goes. -/
inductive Redirection
  /-- Through a new pipe, of which the parent keeps the other end. -/
  | pipe
  /-- To a descriptor that the caller owns and keeps. -/
  | descriptor (number : Descriptor)
  deriving DecidableEq, Repr, Inhabited

namespace Redirection

/-- The caller's descriptor, if the stream goes to one. -/
def target? : Redirection → Option Descriptor
  | .pipe => none
  | .descriptor number => some number

end Redirection

/-- What is to be started, and in which surroundings. -/
structure Launch where
  /-- The command followed by its arguments. -/
  commandLine : List String
  /-- Variables that the child gets in any case. -/
  overrides : OrderedMap String String
  /-- Whether the child also gets the parent's variables. -/
  inheritsEnvironment : Bool
  /-- The child's working directory. -/
  directory : Bytes
  /-- Where the child's standard streams go. -/
  redirections : PerStream Redirection
  /-- Whether standard error goes where standard output goes. -/
  mergesOutputs : Bool
  deriving Inhabited

/-- One step in putting a launch together. -/
inductive LaunchSetting
  | command (name : String)
  | arguments (tokens : List String)
  | environment (key value : String)
  | inheritEnvironment (inherit : Bool)
  | redirect (stream : StandardStream) (target : Descriptor)
  | directory (path : Bytes)
  | mergeOutputs (merge : Bool)
  deriving DecidableEq, Repr

namespace Launch

/-- No command yet, the parent's environment and directory, all streams piped. -/
def initial : Launch where
  commandLine := []
  overrides := .empty
  inheritsEnvironment := true
  directory := [46]
  redirections := ⟨.pipe, .pipe, .pipe⟩
  mergesOutputs := false

/-- The program to run, if a command line has been started. -/
def program? (launch : Launch) : Option String :=
  launch.commandLine.head?

/-- Make a text the first token of a command line. -/
def withCommand (name : String) : List String → List String
  | [] => [name]
  | _ :: arguments => name :: arguments

/-- Put arguments behind a command that has none; an absent command holds its
place as an empty token. -/
def withArguments (tokens : List String) : List String → List String
  | [] => "" :: tokens
  | [command] => command :: tokens
  | commandLine => commandLine

/-- Apply one setting. Arguments and values of variables are kept once they are
there; every other setting replaces the earlier one of its kind. -/
def apply (launch : Launch) : LaunchSetting → Launch
  | .command name =>
      { launch with commandLine := withCommand name launch.commandLine }
  | .arguments tokens =>
      { launch with commandLine := withArguments tokens launch.commandLine }
  | .environment key value =>
      { launch with overrides := launch.overrides.insertIfNew key value }
  | .inheritEnvironment inherit => { launch with inheritsEnvironment := inherit }
  | .redirect stream target =>
      { launch with
        redirections := launch.redirections.set stream (.descriptor target) }
  | .directory path => { launch with directory := path }
  | .mergeOutputs merge => { launch with mergesOutputs := merge }

/-- The launch that a list of settings describes. -/
def ofSettings (settings : List LaunchSetting) : Launch :=
  settings.foldl apply initial

/-- The variables of the child: the parent's textual ones, unless they are not
inherited, with the overrides on top. -/
def effectiveEnvironment (launch : Launch) (parent : Environment) :
    OrderedMap String String :=
  let inherited :=
    if launch.inheritsEnvironment then
      OrderedMap.empty.insertMany parent.textVariables
    else .empty
  inherited.insertMany launch.overrides.entries

end Launch
end ChildProcess
