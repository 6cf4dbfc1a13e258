import ChildProcess.Handle
import ChildProcess.Spawn.Binding
import ChildProcess.Spawn.Child
import ChildProcess.Text.Quoted

/-!
# Starting a child

A child is started by duplicating the process. Everything that can fail beforehand
is done first, and whatever fails, no descriptor is left open. A child whose
report arrives is collected at once, so that a failed start leaves no child behind.
-/

namespace ChildProcess

open Program (perform)

/-- Collect a child that is about to end, blocking until it has. -/
def collectEnded (process : ProcessId) (rounds : Nat) : Program Unit := do
  let answer ←
    Program.retrying (perform (.collect process .untilEnd)) rounds
  match answer with
  | .ok _ => pure ()
  | .error errno =>
      if errno = Errno.ECHILD then pure ()
      else
        Program.log .warn (some .wait)
          ("failed to reap pid " ++ toString process ++ ": "
            ++ errno.symbolicMessage)

namespace Launch

/-- Why a report of a wrong length is refused. -/
def partialReport (count : Nat) : SystemError :=
  .described .unexpectedEof
    ("received " ++ toString count ++ " of " ++ toString Report.length
      ++ " status bytes")

/-- Read the report of a child. The pipe is closed in any case; a child that
reported something is collected. -/
def awaitReport
    (rounds : Nat)
    (launch : Launch)
    (process : ProcessId)
    (reader : Descriptor) :
    Program (Except LaunchError Unit) := do
  let answer ← Program.readFully rounds reader Report.length
  dropDescriptor (some reader)
  match answer with
  | .error cause => pure (.error (.report cause))
  | .ok [] => pure (.ok ())
  | .ok payload => do
      collectEnded process rounds
      match Report.decode payload with
      | some errno =>
          pure (.error (.execution (launch.program?.getD "") (.os errno)))
      | none => pure (.error (.report (partialReport payload.length)))

/-- Close both ends of the pipe for the report. -/
def dropReportPipe (reader writer : Descriptor) : Program Unit := do
  dropDescriptor (some writer)
  dropDescriptor (some reader)

/-- What the parent does once the child is there. -/
def superviseStart
    (rounds : Nat)
    (launch : Launch)
    (process : ProcessId)
    (reader writer : Descriptor)
    (bindings : Bindings) :
    Program (Except LaunchError Handle) := do
  dropDescriptor (some writer)
  let result ← launch.awaitReport rounds process reader
  let bindings ← bindings.closeChildEnds
  match result with
  | .ok () => do
      Program.log .debug (some .spawn)
        ("spawned " ++ Text.quotedList launch.commandLine ++ " as pid "
          ++ toString process)
      pure (.ok { process, streams := bindings.parentEnds })
  | .error cause => do
      Program.log .debug (some .spawn)
        ("spawn of " ++ Text.quotedList launch.commandLine ++ " failed: "
          ++ cause.message)
      bindings.drop
      pure (.error cause)

/-- Duplicate the process and follow both sides. -/
def duplicate
    (rounds : Nat)
    (launch : Launch)
    (request : ExecRequest)
    (reader writer : Descriptor)
    (bindings : Bindings) :
    Program (Except LaunchError Handle) := do
  let limit ← Inherited.descriptorLimit
  match ← perform .fork with
  | .error errno => do
      bindings.drop
      dropReportPipe reader writer
      pure (.error (.fork (.os errno)))
  | .ok .child => do
      let never ←
        Child.run rounds
          { request
            reportReader := reader
            reportWriter := writer
            childEnds := bindings.childEnds
            parentEnds := bindings.parentEnds
            limit }
      nomatch never
  | .ok (.parent process) =>
      launch.superviseStart rounds process reader writer bindings

/-- Start a child with a given search path. -/
def spawn
    (rounds : Nat)
    (launch : Launch)
    (path : SearchPath)
    (parent : Environment) :
    Program (Except LaunchError Handle) := do
  match ← Bindings.systemPipe with
  | .error cause => pure (.error (.reportPipe cause))
  | .ok (reader, writer) =>
      match ← Bindings.resolve (fun _ => Bindings.systemPipe) launch with
      | .error cause => do
          dropReportPipe reader writer
          pure (.error cause)
      | .ok bindings =>
          match ExecRequest.ofLaunch launch path parent with
          | .error cause => do
              bindings.drop
              dropReportPipe reader writer
              pure (.error cause)
          | .ok request =>
              launch.duplicate rounds request reader writer bindings

/-- Start the child that a launch describes. It is found along the search path of
the parent's environment. -/
def start (rounds : Nat) (launch : Launch) (parent : Environment) :
    Program (Except LaunchError Handle) :=
  if launch.commandLine.isEmpty then pure (.error .noCommand)
  else launch.spawn rounds (SearchPath.ofEnvironment parent) parent

end Launch
end ChildProcess
