import ChildProcess.Inherited.Close
import ChildProcess.Session.Basic

/-!
# Closing descriptors of one's own

A process opens some descriptors and closes all but one from a number on.
-/

namespace ChildProcess
namespace Session

/-- How the descriptors are to be closed. -/
inductive Closing
  | byDirectory
  | byNumber
  | either
  deriving DecidableEq, Repr, Inhabited

/-- What closing tells: whether the directory was read to its end, nothing, or which
way was taken. -/
inductive ClosingAnswer
  | completed (value : Bool)
  | nothing
  | strategy (value : Inherited.Strategy)
  deriving DecidableEq, Repr, Inhabited

/-- Close descriptors in one of the ways. -/
def close (closing : Closing) (first keep limit : Descriptor) :
    Program ClosingAnswer := do
  match closing with
  | .byDirectory =>
      pure (.completed
        (← Inherited.closeByDirectory Program.patience first keep))
  | .byNumber =>
      Inherited.closeByNumber first keep limit
      pure .nothing
  | .either =>
      pure (.strategy (← Inherited.close Program.patience first keep limit))

/-- Open descriptors, close some of them, and see which ones are left. -/
def closeOpened (closing : Closing) (numbers : List Descriptor)
    (first keep limit : Descriptor) (ownRoot : Bool) (faults : List Fault) :
    Session (ClosingAnswer × List Descriptor) := do
  modify fun machine =>
    numbers.foldl
      (fun current number =>
        current.openAs Machine.outsider number
          { place := .node FileSystem.root, reads := true, writes := false } true)
      machine
  let answer ←
    whenever ownRoot withOwnRoot
      (withFaults faults (perform (close closing first keep limit)))
  pure (answer, ← opened numbers)

end Session
end ChildProcess
