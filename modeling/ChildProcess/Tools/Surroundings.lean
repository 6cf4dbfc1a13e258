import ChildProcess.Machine.FileSystem
import ChildProcess.Program.Directory
import ChildProcess.Tools.Basic

/-!
# Programs about their surroundings

`env` and `printenv` show the environment, `pwd` and `ls` show directories, and
`sleep` waits.
-/

namespace ChildProcess
namespace Tools

open Program (perform)

/-! ## The environment -/

/-- The name in an entry of the environment. -/
def entryName (entry : Bytes) : Bytes := entry.takeWhile (· != 61)

/-- The value in an entry of the environment. -/
def entryValue (entry : Bytes) : Bytes := entry.drop ((entryName entry).length + 1)

/-- An environment without a name. -/
def without (name : Bytes) (environment : List Bytes) : List Bytes :=
  environment.filter fun entry => entryName entry != name

/-- An environment with another entry, in the place of the entry of that name. -/
def including (environment : List Bytes) (entry : Bytes) : List Bytes :=
  if environment.any fun other => entryName other == entryName entry then
    environment.map fun other =>
      if entryName other == entryName entry then entry else other
  else environment ++ [entry]

/-- What `env` is to do with its environment, and the command behind. -/
def changedEnvironment (environment : List Bytes) :
    List Bytes → List Bytes × List Bytes
  | [] => (environment, [])
  | argument :: rest =>
      if argument = bytes "-i" || argument = bytes "-" then changedEnvironment [] rest
      else if argument = bytes "-u" then
        match rest with
        | name :: rest => changedEnvironment (without name environment) rest
        | [] => (environment, [])
      else if argument.contains 61 then
        changedEnvironment (including environment argument) rest
      else (environment, argument :: rest)

/-- The directories in which commands are looked for. -/
def searchDirectories (environment : List Bytes) : List Bytes :=
  match environment.find? fun entry => entryName entry == bytes "PATH" with
  | some entry => Bytes.fields 58 (entryValue entry)
  | none => [bytes "/bin", bytes "/usr/bin"]

/-- Become the first program of some paths. The answer is why that fails. -/
def becomeFirst (words environment : List Bytes) : Errno → List Bytes → Program Errno
  | errno, [] => pure errno
  | errno, path :: rest => do
      let reason ← perform (.execute path words environment)
      becomeFirst words environment
        (if reason = Errno.ENOENT || reason = Errno.ENOTDIR then errno else reason) rest

/-- Show the environment, or run a command in a changed one. -/
def env : Tool := fun arguments environment => do
  match changedEnvironment environment (arguments.drop 1) with
  | (environment, []) => do
      let _ ← print (environment.flatMap (· ++ [10]))
      Program.exit 0
  | (environment, name :: rest) => do
      let paths :=
        if name.contains Bytes.slash then [name]
        else (searchDirectories environment).map fun directory => directory.join name
      let errno ← becomeFirst (name :: rest) environment Errno.ENOENT paths
      complain "env" (quoted name ++ bytes (": " ++ errno.message))
      Program.exit (if errno = Errno.ENOENT then 127 else 126)

/-- Show the values of some variables, or the whole environment. -/
def printenv : Tool := fun arguments environment => do
  let names := arguments.drop 1
  if names.isEmpty then
    let _ ← print (environment.flatMap (· ++ [10]))
    Program.exit 0
  else
    let found := names.filterMap fun name =>
      environment.find? fun entry => entryName entry == name
    let _ ← print (found.flatMap fun entry => entryValue entry ++ [10])
    Program.exit (if found.length = names.length then 0 else 1)

/-! ## Directories -/

/-- Show the working directory. -/
def pwd : Tool := ofArguments fun _ => do
  match ← perform .currentDirectory with
  | .ok path => do
      let _ ← print (path ++ [10])
      pure 0
  | .error errno => do
      complain "pwd" (bytes errno.message)
      pure 1

/-- Whether a byte string comes before another one in a listing. -/
def isBefore : Bytes → Bytes → Bool
  | [], _ => true
  | _ :: _, [] => false
  | left :: others, right :: rest =>
      left < right || (left == right && isBefore others rest)

/-- Show what is chosen of what there is in a directory, or a single name. -/
def list (choose : List Bytes → List Bytes) (isNamed : Bool) (path : Bytes) :
    Program Nat := do
  match ← perform (.fileInfo path true) with
  | .error errno => do
      complain "ls" (bytes "cannot access '" ++ path ++ bytes ("': " ++ errno.message))
      pure 2
  | .ok info =>
      if !info.isDirectory then do
        let _ ← print (path ++ [10])
        pure 0
      else
        match ← Program.directoryNames path with
        | .error errno => do
            complain "ls"
              (bytes "reading directory '" ++ path ++ bytes ("': " ++ errno.message))
            pure 2
        | .ok names => do
            let shown := choose names
            let title := if isNamed then path ++ bytes ":\n" else []
            let _ ← print (title ++ (shown.mergeSort isBefore).flatMap (· ++ [10]))
            pure 0

/-- Show directories one after another, the worst code of all. -/
def listEach (choose : List Bytes → List Bytes) (isNamed : Bool) :
    List Bytes → Program Nat
  | [] => pure 0
  | path :: rest => do
      let code ← list choose isNamed path
      if isNamed && !rest.isEmpty then
        let _ ← print [10]
      let others ← listEach choose isNamed rest
      pure (max code others)

/-- Show directories. -/
def ls : Tool := ofArguments fun arguments =>
  let (options, names) := arguments.partition fun argument => argument.head? == some 45
  let shown := fun (found : List Bytes) =>
    if options.any (·.contains 97) then bytes "." :: bytes ".." :: found
    else if options.any (·.contains 65) then found
    else found.filter fun name => name.head? != some 46
  let names := if names.isEmpty then [bytes "."] else names
  listEach shown (decide (names.length > 1)) names

/-! ## Time -/

/-- Where more is said about how to use a program. -/
def hint (name : String) : Bytes :=
  bytes ("\nTry '" ++ name ++ " --help' for more information.")

/-- How many nanoseconds a unit of time has. -/
def unit? : Bytes → Option Nat
  | [] | [115] => some 1000000000
  | [109] => some 60000000000
  | [104] => some 3600000000000
  | [100] => some 86400000000000
  | _ => none

/-- How many nanoseconds a text with a unit stands for. -/
def interval? (text : Bytes) : Option Nat := do
  let isDigit := fun (byte : UInt8) => decide (48 ≤ byte ∧ byte ≤ 57)
  let whole := text.takeWhile isDigit
  let behind := text.drop whole.length
  let (fraction, unit) :=
    match behind with
    | 46 :: rest =>
        let digits := rest.takeWhile isDigit
        (digits, rest.drop digits.length)
    | _ => ([], behind)
  let digits := whole ++ fraction
  let value ← number? digits
  some (value * (← unit? unit) / Nat.pow 10 fraction.length)

/-- Wait for the sum of some times. -/
def sleep : Tool := ofArguments fun arguments => do
  match arguments.find? fun argument => (interval? argument).isNone, arguments with
  | _, [] => do
      complain "sleep" (bytes "missing operand" ++ hint "sleep")
      pure 1
  | some invalid, _ => do
      complain "sleep" (bytes "invalid time interval " ++ quoted invalid ++ hint "sleep")
      pure 1
  | none, _ => do
      perform (.sleep ((arguments.filterMap interval?).foldl (· + ·) 0))
      pure 0

end Tools
end ChildProcess
