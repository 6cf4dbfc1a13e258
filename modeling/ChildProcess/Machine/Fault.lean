import ChildProcess.Program

/-!
# Faults

A fault makes a process's calls of one kind fail with a given error number. With
the number zero they do nothing and succeed. Several calls of a program can be the
same call to the operating system, so faults are named after the latter.
-/

namespace ChildProcess

/-- The calls to the operating system that can be made to fail. -/
inductive SystemCall
  | clone
  | execve
  | wait4
  | waitid
  | getdents64
  | pipe2
  | dup2
  | chdir
  | read
  | write
  | kill
  | sigaction
  deriving DecidableEq, Repr, Inhabited

namespace SystemCall

/-- The call that a name stands for. -/
def ofName? (name : String) : Option SystemCall :=
  [("clone", clone), ("execve", execve), ("wait4", wait4), ("waitid", waitid),
    ("getdents64", getdents64), ("pipe2", pipe2), ("dup2", dup2),
    ("chdir", chdir), ("read", read), ("write", write), ("kill", kill),
    ("rt_sigaction", sigaction)].lookup name

end SystemCall

/-- Calls that are made to fail. -/
structure Fault where
  call : SystemCall
  errno : Errno
  deriving DecidableEq, Repr, Inhabited

namespace Fault

/-- The error, or an answer that stands for nothing having been done. -/
def answer {α : Type} (errno : Errno) (nothing : α) : Except Errno α :=
  if errno.code = 0 then .ok nothing else .error errno

/-- What a call of a program answers under a fault, if the fault is about it. -/
def apply (fault : Fault) (request : Call) : Option request.Answer :=
  match request, fault.call with
  | .fork, .clone => some (.error fault.errno)
  | .execute _ _ _, .execve => some fault.errno
  | .collect _ _, .wait4 => some (answer fault.errno (0, ⟨0⟩))
  | .childReport _, .waitid => some (answer fault.errno .empty)
  | .directoryRecords _ _, .getdents64 => some (answer fault.errno [])
  | .pipe, .pipe2 => some (.error fault.errno)
  | .duplicate _ _, .dup2 => some (answer fault.errno ())
  | .changeDirectory _, .chdir => some (answer fault.errno ())
  | .read _ _, .read => some (answer fault.errno [])
  | .write _ _, .write => some (answer fault.errno 0)
  | .signal _ _, .kill => some (answer fault.errno ())
  | .disposition _, .sigaction => some (answer fault.errno .standard)
  | .setDisposition _ _, .sigaction => some ()
  | _, _ => none

end Fault
end ChildProcess
