import ChildProcess.LaunchError
import ChildProcess.Program.Transfer

/-!
# Binding of standard streams

Before a child is started, each of its standard streams is bound: to a new pipe, to
a descriptor of the caller, or, for a standard error that follows standard output,
to nothing of its own. Streams are bound in order, and if a pipe cannot be made,
those made before it are closed again. Of a pipe, the child gets one end and the
parent keeps the other; a caller's descriptor is never closed.
-/

namespace ChildProcess

/-- What a standard stream of a child is bound to. -/
inductive StreamEnds
  /-- The two ends of a pipe, as long as they are held. -/
  | pipe (reader writer : Option Descriptor)
  /-- A descriptor of the caller. -/
  | caller (descriptor : Descriptor)
  /-- Nothing of its own. -/
  | unbound
  deriving DecidableEq, Repr, Inhabited

namespace StreamEnds

/-- The end that the child gets when the pair serves as a given stream: it reads
standard input and writes the other two. -/
def childEnd (ends : StreamEnds) (stream : StandardStream) : Option Descriptor :=
  match ends, stream with
  | .pipe reader _, .stdin => reader
  | .pipe _ writer, _ => writer
  | .caller descriptor, _ => some descriptor
  | .unbound, _ => none

/-- The end of a pipe that the parent keeps. -/
def parentEnd (ends : StreamEnds) (stream : StandardStream) : Option Descriptor :=
  match ends, stream with
  | .pipe _ writer, .stdin => writer
  | .pipe reader _, _ => reader
  | .caller _, _ | .unbound, _ => none

/-- The pair without the child's end of a pipe. -/
def withoutChildEnd (ends : StreamEnds) (stream : StandardStream) : StreamEnds :=
  match ends, stream with
  | .pipe _ writer, .stdin => .pipe none writer
  | .pipe reader _, _ => .pipe reader none
  | other, _ => other

/-- The pair without the parent's end of a pipe. -/
def withoutParentEnd (ends : StreamEnds) (stream : StandardStream) : StreamEnds :=
  match ends, stream with
  | .pipe reader _, .stdin => .pipe reader none
  | .pipe _ writer, _ => .pipe none writer
  | other, _ => other

/-- Close the child's end of a pipe, once the child has its own copy. A failure
goes to the log. -/
def closeChildEnd (ends : StreamEnds) (stream : StandardStream) :
    Program StreamEnds := do
  match ends with
  | .caller _ | .unbound => pure ends
  | .pipe _ _ =>
      match ends.childEnd stream with
      | none => pure ends
      | some descriptor =>
          match ← Program.perform (.close descriptor) with
          | .ok () => pure ()
          | .error errno =>
              Program.log .warn (some .fds)
                ("failed to close " ++ stream.name ++ " pipe end: i/o error: "
                  ++ (SystemError.os errno).message)
          pure (ends.withoutChildEnd stream)

/-- Close what is still held of a pipe. -/
def drop : StreamEnds → Program Unit
  | .pipe reader writer => do
      dropDescriptor reader
      dropDescriptor writer
  | .caller _ | .unbound => pure ()

end StreamEnds

/-- The bindings of the three standard streams. -/
abbrev Bindings := PerStream StreamEnds

namespace Bindings

/-- How a pipe for a stream is made. -/
abbrev PipeMaker :=
  StandardStream → Program (Except SystemError (Descriptor × Descriptor))

/-- Make a pipe with the operating system. -/
def systemPipe : Program (Except SystemError (Descriptor × Descriptor)) := do
  pure ((← Program.perform .pipe).mapError .os)

/-- Bind one stream. -/
def bind (make : PipeMaker) (stream : StandardStream) (redirection : Redirection) :
    Program (Except LaunchError StreamEnds) := do
  match redirection with
  | .descriptor number => pure (.ok (.caller number))
  | .pipe =>
      match ← make stream with
      | .ok (reader, writer) => pure (.ok (.pipe (some reader) (some writer)))
      | .error cause =>
          Program.log .debug (some .spawn)
            ("unable to bind " ++ stream.name ++ "; rolling back earlier pipes")
          pure (.error (.streamBinding stream cause))

/-- Bind standard error, unless it follows standard output. -/
def bindError (make : PipeMaker) (launch : Launch) :
    Program (Except LaunchError StreamEnds) :=
  if launch.mergesOutputs then pure (.ok .unbound)
  else bind make .stderr launch.redirections.stderr

/-- Bind the streams of a launch in order. -/
def resolve (make : PipeMaker) (launch : Launch) :
    Program (Except LaunchError Bindings) := do
  match ← bind make .stdin launch.redirections.stdin with
  | .error cause => pure (.error cause)
  | .ok stdin =>
      match ← bind make .stdout launch.redirections.stdout with
      | .error cause => do
          stdin.drop
          pure (.error cause)
      | .ok stdout =>
          match ← bindError make launch with
          | .error cause => do
              stdout.drop
              stdin.drop
              pure (.error cause)
          | .ok stderr => pure (.ok ⟨stdin, stdout, stderr⟩)

/-- What the child is to find on its standard descriptors. A standard error without
a binding is the same as standard output. -/
def childEnds (bindings : Bindings) : PerStream (Option Descriptor) :=
  let stdout := bindings.stdout.childEnd .stdout
  { stdin := bindings.stdin.childEnd .stdin
    stdout
    stderr :=
      match bindings.stderr with
      | .unbound => stdout
      | ends => ends.childEnd .stderr }

/-- The ends of pipes that the parent keeps. -/
def parentEnds (bindings : Bindings) : PerStream (Option Descriptor) :=
  ⟨bindings.stdin.parentEnd .stdin, bindings.stdout.parentEnd .stdout,
    bindings.stderr.parentEnd .stderr⟩

/-- Close the ends of all pipes that the child has copies of. -/
def closeChildEnds (bindings : Bindings) : Program Bindings := do
  let stdin ← bindings.stdin.closeChildEnd .stdin
  let stdout ← bindings.stdout.closeChildEnd .stdout
  let stderr ← bindings.stderr.closeChildEnd .stderr
  pure ⟨stdin, stdout, stderr⟩

/-- Close what is still held of all pipes. -/
def drop (bindings : Bindings) : Program Unit := do
  bindings.stdin.drop
  bindings.stdout.drop
  bindings.stderr.drop

end Bindings
end ChildProcess
