import ChildProcess.Environment

/-!
# Search paths

A bare command name is looked for in the directories of a search path, which is
written with `:` between them. An empty entry is the current directory.
-/

namespace ChildProcess

/-- The directories in which commands are looked for. -/
structure SearchPath where
  directories : List Bytes
  deriving DecidableEq, Repr, Inhabited

namespace SearchPath

/-- The byte `:`, which stands between the entries. -/
def colon : UInt8 := 58

/-- Read a search path as it is written in a variable. -/
def parse (text : Bytes) : SearchPath :=
  ⟨(Bytes.fields colon text).map fun entry =>
    if entry.isEmpty then [46] else entry⟩

/-- The search path of a process without one: the current directory and the
standard ones. -/
def standard : SearchPath :=
  parse (Bytes.ofText ":/bin:/usr/bin")

/-- The search path that an environment asks for. -/
def ofEnvironment (environment : Environment) : SearchPath :=
  match environment.lookup (Bytes.ofText "PATH") with
  | some text => parse text
  | none => standard

/-- Where a command may be, one place for each directory. -/
def candidates (path : SearchPath) (name : Bytes) : List Bytes :=
  path.directories.map fun directory => Bytes.join directory name

/-- Whether a command is a path and not a bare name. -/
def isPath (command : Bytes) : Bool :=
  command.contains Bytes.slash

end SearchPath
end ChildProcess
