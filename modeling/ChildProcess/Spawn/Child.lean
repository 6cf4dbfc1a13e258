import ChildProcess.Inherited.Close
import ChildProcess.Spawn.Execution
import ChildProcess.Spawn.Report

/-!
# What a new child does

Between its creation and its becoming another program, a child puts the ends of its
streams onto the standard descriptors, closes everything else, and enters its
working directory. The first call that fails is reported to the parent.

A source on one of the standard descriptors that belongs on another one is first
moved out of the way, so that no copy overwrites a source that is still needed.
-/

namespace ChildProcess
namespace Child

open Program (perform)

/-- The signal for writing into a pipe that nobody reads. -/
def brokenPipeSignal : Nat := 13

/-- Close the descriptors that are there. -/
def closePresent (descriptors : PerStream (Option Descriptor)) : Program Unit :=
  Inherited.closeEach (descriptors.toList.filterMap id)

/-- Handle signals as any new program does: end on a broken pipe, and block
none. -/
def resetSignals : Program Unit := do
  perform (.setDisposition brokenPipeSignal .standard)
  perform (.setSignalMask [])

/-- Move a source that lies on a standard descriptor other than its own. -/
def moveAside (stream : StandardStream) (source : Option Descriptor) :
    ExceptT Errno Program (Option Descriptor) :=
  match source with
  | none => pure none
  | some source =>
      if source ≤ 2 ∧ source ≠ stream.slot then do
        some <$> ExceptT.mk (perform (.duplicateFrom source 3))
      else pure (some source)

/-- Move all sources that another one would overwrite. -/
def moveSources (sources : PerStream (Option Descriptor)) :
    ExceptT Errno Program (PerStream (Option Descriptor)) := do
  let stdin ← moveAside .stdin sources.stdin
  let stdout ← moveAside .stdout sources.stdout
  let stderr ← moveAside .stderr sources.stderr
  pure ⟨stdin, stdout, stderr⟩

/-- Put a source onto its standard descriptor, so that it stays open. -/
def install (stream : StandardStream) (source : Option Descriptor) :
    ExceptT Errno Program Unit :=
  match source with
  | none => pure ()
  | some source =>
      if source = stream.slot then
        ExceptT.mk (perform (.setCloseOnExec source false))
      else ExceptT.mk (perform (.duplicate source stream.slot))

/-- Put all sources onto their standard descriptors. -/
def installSources (sources : PerStream (Option Descriptor)) :
    ExceptT Errno Program Unit := do
  install .stdin sources.stdin
  install .stdout sources.stdout
  install .stderr sources.stderr

/-- Close the sources that have been copied. -/
def closeSources (sources : PerStream (Option Descriptor)) : Program Unit :=
  Inherited.closeEach ((sources.toList.filterMap id).filter (2 < ·))

/-- What a child gets from its parent. -/
structure Inheritance where
  request : ExecRequest
  /-- The parent's end of the pipe for the report. -/
  reportReader : Descriptor
  /-- The child's end of the pipe for the report. -/
  reportWriter : Descriptor
  childEnds : PerStream (Option Descriptor)
  parentEnds : PerStream (Option Descriptor)
  /-- No descriptor is expected from this number on. -/
  limit : Descriptor

/-- Put everything in its place. -/
def setUp (rounds : Nat) (inheritance : Inheritance) :
    ExceptT Errno Program Unit := do
  let sources ← moveSources inheritance.childEnds
  installSources sources
  closeSources sources
  let _ ← Inherited.close rounds 3 inheritance.reportWriter inheritance.limit
  ExceptT.mk (perform (.changeDirectory inheritance.request.directory.bytes))
  ExceptT.mk (perform (.setCloseOnExec inheritance.reportWriter true))

/-- Everything that a new child does. -/
def run (rounds : Nat) (inheritance : Inheritance) : Program Empty := do
  let _ ← perform (.close inheritance.reportReader)
  closePresent inheritance.parentEnds
  resetSignals
  match ← (setUp rounds inheritance).run with
  | .error errno => Report.sendAndExit rounds inheritance.reportWriter errno
  | .ok () =>
      let errno ← inheritance.request.run
      Report.sendAndExit rounds inheritance.reportWriter errno

end Child
end ChildProcess
