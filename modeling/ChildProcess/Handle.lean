import ChildProcess.Program.Transfer

/-!
# Handles of children

Whoever started a child holds its number, the ends of its streams that are not the
child's, and what is known about its end. Streams can be taken out of a handle,
which leaves nothing in their place.
-/

namespace ChildProcess

/-- A started child. -/
structure Handle where
  process : ProcessId
  /-- The ends that the parent keeps: it writes standard input and reads the other
  two. -/
  streams : PerStream (Option Descriptor)
  /-- The code of the last wait. -/
  exitCode? : Option Int := none
  /-- Whether the child has been collected. -/
  collected : Bool := false
  deriving DecidableEq, Repr, Inhabited

namespace Handle

/-- The handle without one of its streams. -/
def withoutStream (handle : Handle) (stream : StandardStream) : Handle :=
  { handle with streams := handle.streams.set stream none }

/-- Give up a handle: its streams are closed, the child goes on. -/
def drop (handle : Handle) : Program Unit := do
  if !handle.collected then
    Program.log .debug (some .wait)
      ("dropping handle for pid " ++ toString handle.process
        ++ " without waiting for it")
  dropDescriptor handle.streams.stdin
  dropDescriptor handle.streams.stdout
  dropDescriptor handle.streams.stderr

end Handle
end ChildProcess
