import ChildProcess.Session.Basic
import ChildProcess.Wait

/-!
# Handles of processes that are no children

A handle can be made for any process number. Waiting for a process that is no child
finds nothing to wait for, and the handle learns from that.
-/

namespace ChildProcess
namespace Session

/-- A use of a handle. -/
inductive HandleUse
  | id
  | wait
  | exited
  | interrupt (force : Bool)
  deriving DecidableEq, Repr, Inhabited

/-- The answer of a use. -/
inductive HandleAnswer
  | id (process : ProcessId)
  | code (value : Int)
  | flag (value : Bool)
  | done
  | failed (cause : LaunchError)
  /-- The use was refused, since it might signal a process of others. -/
  | refused
  deriving DecidableEq, Repr, Inhabited

/-- The conditions under which it is asked whether a process has exited. -/
structure Conditions where
  faults : List Fault := []
  freeDescriptors? : Option Nat := none
  deriving Repr

/-- Do something under conditions. -/
def under {α : Type} (conditions : Conditions) (session : Session α) : Session α :=
  let limited :=
    match conditions.freeDescriptors? with
    | none => session
    | some count => withFreeDescriptors count session
  withFaults conditions.faults limited

/-- The number of a process that does not exist. -/
def absentProcess : ProcessId := 2147483647

/-- Use a handle once. -/
def useHandle (conditions : Conditions) (handle : Handle) :
    HandleUse → Session (Handle × HandleAnswer)
  | .id => pure (handle, .id handle.process)
  | .wait => do
      let (answer, handle) ← perform (handle.waitFor Program.patience)
      match answer with
      | .ok code => pure (handle, .code code)
      | .error cause => pure (handle, .failed cause)
  | .exited => do
      match ← under conditions (perform (handle.hasExited Program.patience)) with
      | .ok value => pure (handle, .flag value)
      | .error cause => pure (handle, .failed cause)
  | .interrupt force => do
      if handle.process ≠ absentProcess ∧ !handle.collected then
        pure (handle, .refused)
      else
        match ← perform (handle.interrupt force) with
        | .ok () => pure (handle, .done)
        | .error cause => pure (handle, .failed cause)

/-- Use a handle several times. -/
def useHandleMany (conditions : Conditions) (handle : Handle) :
    List HandleUse → Session (List HandleAnswer)
  | [] => pure []
  | use :: rest => do
      let (handle, answer) ← useHandle conditions handle use
      let answers ← useHandleMany conditions handle rest
      pure (answer :: answers)

/-- Use the handle of a process, with or without an interest in children. -/
def useStranger (process : ProcessId) (ignoresChildren : Bool)
    (conditions : Conditions) (uses : List HandleUse) :
    Session (List HandleAnswer) := do
  if ignoresChildren then
    perform (Program.perform (.setDisposition Signal.child .ignore))
  useHandleMany conditions { process, streams := ⟨none, none, none⟩ } uses

end Session
end ChildProcess
