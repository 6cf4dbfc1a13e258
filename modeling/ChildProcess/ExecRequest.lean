import ChildProcess.LaunchError
import ChildProcess.SearchPath

/-!
# Requests to execute a program

Before a process is duplicated, everything that the child will hand to the
operating system is put into the form that the operating system takes: strings
without zero bytes, and vectors of them that end in a null pointer. A launch with
a zero byte in a token, a variable or the directory is refused here.
-/

namespace ChildProcess

/-- A byte string without zero bytes, which can be passed with a zero byte as
its end. -/
structure CString where
  /-- The bytes before the end. -/
  bytes : Bytes
  /-- None of them is zero. -/
  nulFree : (0 : UInt8) ∉ bytes
  deriving DecidableEq

namespace CString

/-- The string of some bytes, or the position of the first zero byte. -/
def ofBytes (bytes : Bytes) : Except Nat CString :=
  if nulFree : (0 : UInt8) ∈ bytes then
    .error (bytes.findIdx (· == 0))
  else .ok ⟨bytes, nulFree⟩

/-- The string of some bytes that hold no zero byte. -/
def ofBytes? (bytes : Bytes) : Option CString :=
  (ofBytes bytes).toOption

/-- The command interpreter that runs files without a recognised format. -/
def shell : CString := ⟨[47, 98, 105, 110, 47, 115, 104], by decide⟩

end CString

/-- A vector of pointers to strings, in which `none` is the null pointer. -/
abbrev PointerVector := List (Option CString)

namespace PointerVector

/-- Pointers to the strings of a list, and the null pointer behind them. -/
def ofList (strings : List CString) : PointerVector :=
  strings.map some ++ [none]

/-- What is read from a vector: the strings before the first null pointer. -/
def read : PointerVector → List Bytes
  | some string :: rest => string.bytes :: read rest
  | none :: _ | [] => []

end PointerVector

/-- Where the program that is to be executed is looked for. -/
inductive Executable
  /-- Nowhere, since the command is empty. -/
  | absent
  /-- At a path. -/
  | path (location : CString)
  /-- At several places, the first one first. -/
  | search (candidates : List CString)
  deriving DecidableEq

/-- What a child needs to become another program. -/
structure ExecRequest where
  executable : Executable
  /-- The working directory. -/
  directory : CString
  /-- The command line. -/
  arguments : PointerVector
  /-- The command line for the command interpreter, given what stands in its
  second place. -/
  scriptArguments : Option CString → PointerVector
  /-- The entries of the environment. -/
  environment : PointerVector

namespace ExecRequest

/-- Refuse bytes with a zero byte among them. -/
def requireString (what : String) (bytes : Bytes) : Except LaunchError CString :=
  match CString.ofBytes bytes with
  | .ok string => .ok string
  | .error position =>
      .error (.invalidArgument
        (what ++ " contains a NUL byte: nul byte found in provided data at position: "
          ++ toString position))

/-- An environment entry. -/
def entry (binding : String × String) : Bytes :=
  Bytes.ofText binding.1 ++ Environment.equals :: Bytes.ofText binding.2

/-- Where a command is looked for. Places with a zero byte are left out. -/
def locate (command : Bytes) (path : SearchPath) : Except LaunchError Executable :=
  if command.isEmpty then .ok .absent
  else if SearchPath.isPath command then
    .path <$> requireString "command" command
  else
    .ok (.search ((path.candidates command).filterMap CString.ofBytes?))

/-- The request for a launch. Of several strings that cannot be passed, the first
is blamed: tokens come before variables, and variables before the directory. -/
def ofLaunch (launch : Launch) (path : SearchPath) (parent : Environment) :
    Except LaunchError ExecRequest := do
  let arguments ←
    launch.commandLine.mapM fun token =>
      requireString "argument" (Bytes.ofText token)
  let environment ←
    (launch.effectiveEnvironment parent).entries.mapM fun binding =>
      requireString "environment entry" (entry binding)
  let directory ← requireString "working directory" launch.directory
  let executable ← locate (Bytes.ofText (launch.program?.getD "")) path
  pure
    { executable
      directory
      arguments := .ofList arguments
      scriptArguments := fun script =>
        some CString.shell :: script :: PointerVector.ofList (arguments.drop 1)
      environment := .ofList environment }

end ExecRequest
end ChildProcess
