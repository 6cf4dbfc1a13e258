import ChildProcess.ChildStatus
import ChildProcess.LogRecord
import ChildProcess.SystemError

/-!
# Programs

What a process does is a `Program`: a tree of calls to the operating system, each
with one continuation for every answer that it may get. Nothing is said here about
what is answered, so a statement about all runs of a program ranges over all
answers, and duplicating a process is nothing but following two continuations.

Repetitions whose number depends on the answers alone are bounded by an explicit
number of rounds; a program that used them up is `exhausted`.
-/

namespace ChildProcess

/-- How a file is to be opened. -/
structure OpenMode where
  reads : Bool := true
  writes : Bool := false
  appends : Bool := false
  creates : Bool := false
  truncates : Bool := false
  directoryOnly : Bool := false
  closesOnExec : Bool := true
  deriving DecidableEq, Repr, Inhabited

namespace OpenMode

/-- For reading. -/
def reading : OpenMode := {}

/-- For writing a new content, into a new file if there is none. -/
def replacing : OpenMode :=
  { reads := false, writes := true, creates := true, truncates := true }

/-- A directory whose entries are to be listed. -/
def listing : OpenMode := { directoryOnly := true }

end OpenMode

/-- On which side of a duplication a process finds itself. -/
inductive ForkSide
  | child
  | parent (child : ProcessId)
  deriving DecidableEq, Repr, Inhabited

/-- Until when collecting a child blocks. -/
inductive CollectMode
  /-- Until the child has ended. -/
  | untilEnd
  /-- Not at all; stopped children are reported too. -/
  | immediately
  deriving DecidableEq, Repr, Inhabited

/-- What a process does when a signal arrives. -/
inductive Disposition
  | standard
  | ignore
  /-- It is noted, and the process asks what has been noted when it likes. -/
  | note
  deriving DecidableEq, Repr, Inhabited

/-- What there is at a path. -/
structure FileInfo where
  isFile : Bool
  isDirectory : Bool
  isLink : Bool
  permissions : Nat
  size : Nat
  deriving DecidableEq, Repr, Inhabited

/-- The calls that a process can make. -/
inductive Call
  /-- Make a pipe whose two ends close on execution. -/
  | pipe
  /-- Duplicate the process. -/
  | fork
  /-- Become another program. -/
  | execute (path : Bytes) (arguments environment : List Bytes)
  /-- End with a code. -/
  | exit (code : Int)
  | openFile (path : Bytes) (mode : OpenMode)
  | close (descriptor : Descriptor)
  | read (descriptor : Descriptor) (count : Nat)
  | write (descriptor : Descriptor) (data : Bytes)
  /-- Make a descriptor a copy of another one, which stays open on execution. -/
  | duplicate (source target : Descriptor)
  /-- Copy a descriptor to the lowest free number from `floor` on. -/
  | duplicateFrom (source floor : Descriptor)
  | setCloseOnExec (descriptor : Descriptor) (value : Bool)
  | closesOnExec (descriptor : Descriptor)
  /-- The next records of a directory, at most so many bytes of them. -/
  | directoryRecords (descriptor : Descriptor) (size : Nat)
  | changeDirectory (path : Bytes)
  /-- The report about a child, which stays to be collected. -/
  | childReport (process : ProcessId)
  /-- Collect a child (any child if the number is -1). -/
  | collect (process : ProcessId) (mode : CollectMode)
  | signal (process : ProcessId) (number : Nat)
  | disposition (number : Nat)
  | setDisposition (number : Nat) (disposition : Disposition)
  | setSignalMask (blocked : List Nat)
  /-- The signals that have been noted since this was asked before. -/
  | notedSignals
  /-- The number of descriptors that the process may have, or at most 0. -/
  | descriptorLimit
  /-- Let other processes run. -/
  | yield
  | sleep (nanoseconds : Nat)
  /-- Nanoseconds since some instant. -/
  | clock
  | log (record : LogRecord)
  | fileInfo (path : Bytes) (followsLinks : Bool)
  | currentDirectory
  | processId
  /-- Let the parent trace this process. -/
  | traceMe
  deriving DecidableEq, Repr

/-- What a call answers. -/
@[reducible] def Call.Answer : Call → Type
  | .pipe => Except Errno (Descriptor × Descriptor)
  | .fork => Except Errno ForkSide
  | .execute _ _ _ => Errno
  | .exit _ => Empty
  | .openFile _ _ => Except Errno Descriptor
  | .close _ => Except Errno Unit
  | .read _ _ => Except Errno Bytes
  | .write _ _ => Except Errno Nat
  | .duplicate _ _ => Except Errno Unit
  | .duplicateFrom _ _ => Except Errno Descriptor
  | .setCloseOnExec _ _ => Except Errno Unit
  | .closesOnExec _ => Except Errno Bool
  | .directoryRecords _ _ => Except Errno Bytes
  | .changeDirectory _ => Except Errno Unit
  | .childReport _ => Except Errno ChildReport
  | .collect _ _ => Except Errno (ProcessId × StatusWord)
  | .signal _ _ => Except Errno Unit
  | .disposition _ => Except Errno Disposition
  | .setDisposition _ _ => Unit
  | .setSignalMask _ => Unit
  | .notedSignals => List Nat
  | .descriptorLimit => Int
  | .yield => Unit
  | .sleep _ => Unit
  | .clock => Nat
  | .log _ => Unit
  | .fileInfo _ _ => Except Errno FileInfo
  | .currentDirectory => Except Errno Bytes
  | .processId => ProcessId
  | .traceMe => Unit

/-- What a process does until it has a result of type `α`. -/
inductive Program (α : Type) : Type
  /-- The result is there. -/
  | done (value : α)
  /-- Make a call, and go on with its answer. -/
  | call (request : Call) (resume : request.Answer → Program α)
  /-- The rounds granted to a repetition are used up. -/
  | exhausted

namespace Program

/-- Go on with another program when the result is there. -/
def bind {α β : Type} : Program α → (α → Program β) → Program β
  | .done value, next => next value
  | .call request resume, next =>
      .call request fun answer => (resume answer).bind next
  | .exhausted, _ => .exhausted

instance : Monad Program where
  pure := .done
  bind := bind

@[simp] theorem pure_eq_done {α : Type} (value : α) :
    (pure value : Program α) = .done value := rfl

@[simp] theorem done_bind {α β : Type} (value : α) (next : α → Program β) :
    (Program.done value) >>= next = next value := rfl

@[simp] theorem call_bind {α β : Type}
    (request : Call)
    (resume : request.Answer → Program α)
    (next : α → Program β) :
    (Program.call request resume) >>= next =
      .call request fun answer => resume answer >>= next := rfl

@[simp] theorem exhausted_bind {α β : Type} (next : α → Program β) :
    (Program.exhausted : Program α) >>= next = .exhausted := rfl

theorem bind_done {α : Type} (program : Program α) :
    program.bind .done = program := by
  induction program with
  | done value => rfl
  | call request resume inductionHypothesis =>
      simp [bind, inductionHypothesis]
  | exhausted => rfl

theorem bind_assoc {α β γ : Type}
    (program : Program α)
    (first : α → Program β)
    (second : β → Program γ) :
    (program.bind first).bind second =
      program.bind fun value => (first value).bind second := by
  induction program with
  | done value => rfl
  | call request resume inductionHypothesis =>
      simp [bind, inductionHypothesis]
  | exhausted => rfl

instance : LawfulMonad Program :=
  LawfulMonad.mk' Program bind_done (fun _ _ => rfl) bind_assoc

/-- Make one call. -/
def perform (request : Call) : Program request.Answer :=
  .call request .done

/-- End the process. -/
def exit {α : Type} (code : Int) : Program α :=
  .call (.exit code) fun never => nomatch never

/-- Write a record to the log. -/
def log (level : LogLevel) (topic? : Option LogTopic) (message : String) :
    Program Unit :=
  .call (.log ⟨level, topic?, message⟩) .done

/-- Repeat a call as long as a signal interrupts it. -/
def retrying {α : Type} (attempt : Program (Except Errno α)) :
    Nat → Program (Except Errno α)
  | 0 => .exhausted
  | rounds + 1 => do
      match ← attempt with
      | .ok value => pure (.ok value)
      | .error errno =>
          if errno = Errno.EINTR then retrying attempt rounds
          else pure (.error errno)

/-- Rounds that are enough for every repetition that ends in practice. -/
def patience : Nat := 100000000

end Program
end ChildProcess
