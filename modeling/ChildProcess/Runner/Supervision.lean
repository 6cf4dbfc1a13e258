import ChildProcess.Runner.Options
import ChildProcess.Runner.SettingsFile
import ChildProcess.Spawn.Start
import ChildProcess.Wait

/-!
# Supervising a command

A command is started with files in the place of its standard streams where that is
asked for, and with the caller's own streams elsewhere. If it goes on for longer
than it may, it is asked to end, and if it does not, it is ended by force. In any
case it is waited for.
-/

namespace ChildProcess
namespace Runner

open Program (perform)

/-! ## Files for standard streams -/

/-- Close files, whatever comes of it. -/
def closeFiles (files : PerStream (Option Descriptor)) : Program Unit :=
  Inherited.closeEach (files.toList.filterMap id)

/-- Open the file for a stream, if there is one: an existing file for standard
input, and a new or emptied one for the others. -/
def openRedirection (stream : StandardStream) (path? : Option Bytes) :
    Program (Except RunError (Option Descriptor)) := do
  match path? with
  | none => pure (.ok none)
  | some path =>
      let mode := if stream = .stdin then OpenMode.reading else OpenMode.replacing
      match ← openFile path mode with
      | .ok descriptor => pure (.ok (some descriptor))
      | .error cause => pure (.error (.redirection path cause))

/-- Open the files for the standard streams in order. If one cannot be opened, those
before it are closed again. -/
def openRedirections (paths : PerStream (Option Bytes)) :
    Program (Except RunError (PerStream (Option Descriptor))) := do
  match ← openRedirection .stdin paths.stdin with
  | .error cause => pure (.error cause)
  | .ok stdin =>
      match ← openRedirection .stdout paths.stdout with
      | .error cause => do
          closeFiles ⟨stdin, none, none⟩
          pure (.error cause)
      | .ok stdout =>
          match ← openRedirection .stderr paths.stderr with
          | .error cause => do
              closeFiles ⟨stdin, stdout, none⟩
              pure (.error cause)
          | .ok stderr => pure (.ok ⟨stdin, stdout, stderr⟩)

/-! ## The launch -/

/-- The settings that redirect a stream to a file, or to the caller's own stream. -/
def redirect (files : PerStream (Option Descriptor)) (stream : StandardStream) :
    LaunchSetting :=
  .redirect stream ((files.get stream).getD stream.slot)

/-- The launch of a command under some options. -/
def launchOf (command : String) (arguments : List String) (options : RunOptions)
    (files : PerStream (Option Descriptor)) : Launch :=
  Launch.ofSettings
    ([.command command, .arguments arguments,
        .inheritEnvironment (!options.clearsEnvironment),
        .mergeOutputs options.mergesOutputs]
      ++ (options.environment.map fun entry => .environment entry.1 entry.2)
      ++ (options.directory?.map LaunchSetting.directory).toList
      ++ [redirect files .stdin, redirect files .stdout, redirect files .stderr])

/-! ## Time limits -/

/-- The time between two looks at the command, in nanoseconds. -/
def pollInterval : Nat := 10000000

/-- The clock does not reach this number of seconds. -/
def clockBound : Nat := Nat.pow 2 63

/-- Look at the command until it does not go on or the time is up, at most so many
times. -/
def exitsBefore (handle : Handle) (deadline : Nat) :
    Nat → Program (Except RunError Bool)
  | 0 => .exhausted
  | rounds + 1 => do
      match ← handle.hasExited Program.patience with
      | .error cause => pure (.error (.wait cause))
      | .ok true => pure (.ok true)
      | .ok false => do
          let now ← perform .clock
          if deadline ≤ now then pure (.ok false)
          else do
            perform (.sleep (min pollInterval (deadline - now)))
            exitsBefore handle deadline rounds

/-- Whether the command does not go on within a time. A time that is too long for
the clock never passes; the command then counts as if it had exited, and waiting for
it does the rest. A longer time is granted more looks. -/
def exitsWithin (handle : Handle) (limit : Duration) :
    Program (Except RunError Bool) := do
  let now ← perform .clock
  let deadline := now + limit.nanoseconds
  if clockBound * nanosPerSecond ≤ deadline then do
    Program.log .debug none
      ("timeout of " ++ limit.display
        ++ " is unbounded; waiting without a deadline")
    pure (.ok true)
  else
    exitsBefore handle deadline
      (limit.nanoseconds / pollInterval + Program.patience)

/-- Send a signal to the command. -/
def interrupt (handle : Handle) (force : Bool) : Program (Except RunError Unit) := do
  let answer ← handle.interrupt force
  pure (answer.mapError .wait)

/-- End the command if it goes on for too long. It is not collected. -/
def enforceTimeout (handle : Handle) (timeout killAfter : Duration) :
    Program (Except RunError Unit) := do
  match ← exitsWithin handle timeout with
  | .error cause => pure (.error cause)
  | .ok true => pure (.ok ())
  | .ok false => do
      Program.log .info none
        ("command timed out after " ++ timeout.display ++ "; terminating pid "
          ++ toString handle.process)
      match ← interrupt handle false with
      | .error cause => pure (.error cause)
      | .ok () =>
          match ← exitsWithin handle killAfter with
          | .error cause => pure (.error cause)
          | .ok true => pure (.ok ())
          | .ok false => do
              Program.log .info none
                ("pid " ++ toString handle.process
                  ++ " ignored termination; killing it")
              interrupt handle true

/-- Wait for a started command, within its time limits if there are any. -/
def finishCommand (handle : Handle) (options : RunOptions) :
    Program (Except RunError Int) := do
  let enforced ←
    match options.timeout? with
    | none => pure (.ok ())
    | some timeout => enforceTimeout handle timeout options.killAfter
  match enforced with
  | .error cause => do
      handle.drop
      pure (.error cause)
  | .ok () => do
      let (answer, handle) ← handle.waitFor Program.patience
      handle.drop
      pure (answer.mapError .wait)

/-- Run a command to its end. The answer is its exit code. -/
def runCommand (parent : Environment) (command : List String) (options : RunOptions)
    (paths : PerStream (Option Bytes)) : Program (Except RunError Int) := do
  match ← openRedirections paths with
  | .error cause => pure (.error cause)
  | .ok files =>
      match command with
      | [] => do
          closeFiles files
          pure (.error (.start .noCommand))
      | name :: arguments =>
          let launch := launchOf name arguments options files
          let started ← launch.start Program.patience parent
          closeFiles files
          match started with
          | .error cause => pure (.error (.start cause))
          | .ok handle => finishCommand handle options

end Runner
end ChildProcess
