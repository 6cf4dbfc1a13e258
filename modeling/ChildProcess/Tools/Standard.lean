import ChildProcess.Shell.Invocation
import ChildProcess.Tools.Copying
import ChildProcess.Tools.Surroundings

/-!
# The standard programs

All programs that come with the standard machine, by the name under which they are
found.
-/

namespace ChildProcess
namespace Tools

/-- A utility of the command interpreter as a program of its own. -/
def ofUtility (utility : Shell.Utility) : Tool :=
  ofArguments fun arguments =>
    utility
      (fun message => do
        let _ ← write 2 (bytes (message ++ "\n")))
      (arguments.map Bytes.toCharacters)

/-- Write the arguments as they are, behind each other. -/
def echo : Tool := ofArguments fun arguments => do
  let (endsLine, words) :=
    match arguments with
    | [45, 110] :: rest => (false, rest)
    | _ => (true, arguments)
  let line := (words.intersperse [32]).flatten
  let _ ← print (if endsLine then line ++ [10] else line)
  pure 0

/-- The utilities that exist as programs of their own and act the same. -/
def utilities : List (String × Tool) :=
  ["true", "false", "printf", "test", "[", "kill"].filterMap fun name =>
    (Shell.Utility.ofName? name).map fun utility => (name, ofUtility utility)

/-- The standard programs. -/
def standard : List (String × Tool) :=
  [("sh", Shell.Invocation.main), ("dash", Shell.Invocation.main), ("cat", cat),
    ("head", head), ("tail", tail), ("wc", wc), ("seq", seq), ("yes", yes), ("env", env),
    ("printenv", printenv), ("pwd", pwd), ("ls", ls), ("sleep", sleep),
    ("echo", echo)]
    ++ utilities

end Tools
end ChildProcess
