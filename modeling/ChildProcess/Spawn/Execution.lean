import ChildProcess.ExecRequest
import ChildProcess.Program

/-!
# Becoming another program

The places where a program may be are tried in order. A file that the operating
system does not recognise is given to the command interpreter. The search goes on
past places where nothing usable is; if it ends without success, a file that was
there but may not be executed is what is reported.
-/

namespace ChildProcess
namespace ExecRequest

/-- Ask the operating system to execute a file with some arguments. -/
def execute (request : ExecRequest) (path : CString) (arguments : PointerVector) :
    Program Errno :=
  Program.perform (.execute path.bytes arguments.read request.environment.read)

/-- Execute a file, or have the command interpreter run it if its format is not
recognised. An interpreter that cannot be executed either does not change what is
reported. -/
def attempt (request : ExecRequest) (path : CString) : Program Errno := do
  let errno ← request.execute path request.arguments
  if errno = Errno.ENOEXEC then
    let _ ← request.execute CString.shell (request.scriptArguments (some path))
    pure Errno.ENOEXEC
  else pure errno

/-- Whether the search goes on after a failure, since nothing usable is there. -/
def isSkipped (errno : Errno) : Bool :=
  [Errno.ENOENT, Errno.ENOTDIR, Errno.ELOOP, Errno.ESTALE, Errno.ENODEV,
    Errno.ETIMEDOUT].contains errno

/-- Try several places. `outcome` is what is reported if they are used up. -/
def search (request : ExecRequest) (outcome : Errno) :
    List CString → Program Errno
  | [] => pure outcome
  | candidate :: rest => do
      let errno ← request.attempt candidate
      if errno = Errno.EACCES then search request errno rest
      else if isSkipped errno then search request outcome rest
      else pure errno

/-- Become the program of a request. There is an answer only if that fails. -/
def run (request : ExecRequest) : Program Errno :=
  match request.executable with
  | .absent => pure Errno.ENOENT
  | .path path => request.attempt path
  | .search candidates => request.search Errno.ENOENT candidates

end ExecRequest
end ChildProcess
