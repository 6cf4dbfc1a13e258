import ChildProcess.Program.Transfer
import ChildProcess.Runner.Error
import ChildProcess.Runner.Settings

/-!
# The settings file

Settings are read from the file that the user names, or from a file at a usual
place, which may be missing. That place is below the directory for settings, if the
environment names one by an absolute path, and else below the home directory. The
home directory is what the environment says, or what the list of users says.
-/

namespace ChildProcess
namespace Runner

/-! ## Reading a file -/

/-- Why a path with a zero byte names no file. -/
def nulInPath : SystemError :=
  .described .invalidInput "file name contained an unexpected NUL byte"

/-- Why a file is not read as a text. -/
def notText : SystemError :=
  .described .invalidData "stream did not contain valid UTF-8"

/-- Open a path, which must not hold a zero byte. -/
def openFile (path : Bytes) (mode : OpenMode) :
    Program (Except SystemError Descriptor) := do
  if path.firstNul?.isSome then pure (.error nulInPath)
  else
    let answer ←
      Program.retrying (Program.perform (.openFile path mode)) Program.patience
    pure (answer.mapError .os)

/-- The content of a file. -/
def readFile (path : Bytes) : Program (Except SystemError Bytes) := do
  match ← openFile path .reading with
  | .error cause => pure (.error cause)
  | .ok descriptor => do
      let content ←
        Program.readToEnd (Program.readSome Program.patience descriptor)
          Program.patience
      let _ ← Program.perform (.close descriptor)
      pure content

/-- The content of a file that is a text. -/
def readText (path : Bytes) : Program (Except SystemError String) := do
  match ← readFile path with
  | .error cause => pure (.error cause)
  | .ok content =>
      match Bytes.toText? content with
      | none => pure (.error notText)
      | some text => pure (.ok text)

/-! ## The usual place -/

/-- The list of users. -/
def userList : Bytes := Bytes.ofText "/etc/passwd"

/-- The home directory on a line of the list of users, if the line is about the
superuser. -/
def superuserHome? (line : Bytes) : Option Bytes :=
  match Bytes.fields 58 line with
  | _ :: _ :: user :: _ :: _ :: home :: _ =>
      if user = Bytes.ofText "0" then some home else none
  | _ => none

/-- The home directory of the user. -/
def homeDirectory (environment : Environment) : Program (Option Bytes) := do
  match environment.lookup (Bytes.ofText "HOME") with
  | some home => pure (some home)
  | none =>
      match ← readFile userList with
      | .error _ => pure none
      | .ok content => pure ((Bytes.fields 10 content).findSome? superuserHome?)

/-- The directory for settings. Without a home directory there is none, even if the
environment names it. -/
def settingsDirectory (environment : Environment) : Program (Option Bytes) := do
  match ← homeDirectory environment with
  | none => pure none
  | some home =>
      match environment.lookup (Bytes.ofText "XDG_CONFIG_HOME") with
      | some directory =>
          if directory.isAbsolute then pure (some directory)
          else pure (some (home.join (Bytes.ofText ".config")))
      | none => pure (some (home.join (Bytes.ofText ".config")))

/-- The usual place of the settings file. -/
def defaultSettingsPath (environment : Environment) : Program (Option Bytes) := do
  let directory? ← settingsDirectory environment
  pure (directory?.map fun directory =>
    (directory.join (Bytes.ofText "spawnkit")).join (Bytes.ofText "config.toml"))

/-! ## Loading -/

/-- The settings in force, and where they come from. -/
structure LoadedSettings where
  settings : Settings := {}
  path? : Option Bytes := none
  /-- Whether the user named the file. -/
  isExplicit : Bool := false
  error? : Option SettingsError := none

/-- Load the settings of a file. If that fails, nothing is set. -/
def loadFile (path : Bytes) (isExplicit : Bool) : Program LoadedSettings := do
  match ← readText path with
  | .error cause =>
      pure { path? := some path, isExplicit, error? := some (.unreadable cause) }
  | .ok text =>
      match Settings.parse text with
      | none => pure { path? := some path, isExplicit, error? := some .malformed }
      | some settings => pure { settings, path? := some path, isExplicit }

/-- Whether there is something at a path. -/
def pathExists (path : Bytes) : Program Bool := do
  if path.firstNul?.isSome then pure false
  else
    match ← Program.perform (.fileInfo path true) with
    | .ok _ => pure true
    | .error _ => pure false

/-- Load the settings, unless the user does not want any. -/
def loadSettings (environment : Environment) (skips : Bool) (named? : Option Bytes) :
    Program LoadedSettings := do
  if skips then pure {}
  else
    match named? with
    | some path => loadFile path true
    | none =>
        match ← defaultSettingsPath environment with
        | none => pure {}
        | some path =>
            if ← pathExists path then loadFile path false
            else pure { path? := some path }

end Runner
end ChildProcess
