/-!
# Log records

Starting and watching children leaves records of what happened. A record has a
level, a message and, if it comes from one of the three areas that can be watched
separately, a topic.
-/

namespace ChildProcess

/-- The areas whose records can be asked for separately. -/
inductive LogTopic
  /-- Closing of descriptors. -/
  | fds
  /-- Starting of children. -/
  | spawn
  /-- Watching and collecting of children. -/
  | wait
  deriving DecidableEq, Repr, Inhabited

namespace LogTopic

/-- The name by which a topic is asked for. -/
def name : LogTopic → String
  | .fds => "fds"
  | .spawn => "spawn"
  | .wait => "wait"

/-- All topics. -/
def all : List LogTopic := [.fds, .spawn, .wait]

/-- The topic of a name. -/
def ofName? (name : String) : Option LogTopic :=
  all.find? fun topic => topic.name == name

/-- The name of a topic as a constructor. -/
def constructorName : LogTopic → String
  | .fds => "Fds"
  | .spawn => "Spawn"
  | .wait => "Wait"

end LogTopic

/-- How important a record is. -/
inductive LogLevel
  | error
  | warn
  | info
  | debug
  deriving DecidableEq, Repr, Inhabited

/-- The name of a level, five characters wide. -/
def LogLevel.label : LogLevel → String
  | .error => "ERROR"
  | .warn => " WARN"
  | .info => " INFO"
  | .debug => "DEBUG"

/-- One record. -/
structure LogRecord where
  level : LogLevel
  topic? : Option LogTopic
  message : String
  deriving DecidableEq, Repr, Inhabited

end ChildProcess
