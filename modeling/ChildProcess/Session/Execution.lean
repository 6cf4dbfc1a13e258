import ChildProcess.Session.Basic
import ChildProcess.Spawn.Execution

/-!
# Attempts to become another program
-/

namespace ChildProcess
namespace Session

/-- Try to become the program of a launch in furnished surroundings. The answer is
why that fails. -/
def attemptExecution (items : List Furnishing) (launch : Launch) (path : SearchPath)
    (parent : Environment) (ownRoot : Bool) (faults : List Fault) :
    Session (Except LaunchError (Bytes × Errno)) := do
  furnish items
  match ExecRequest.ofLaunch launch path parent with
  | .error cause => pure (.error cause)
  | .ok request => do
      let errno ←
        whenever ownRoot withOwnRoot (withFaults faults (perform request.run))
      pure (.ok (request.directory.bytes, errno))

end Session
end ChildProcess
