import ChildProcess.Machine.Answer

/-!
# Running programs

The processes of a machine take turns. One process may act from outside: its program
has a result, and before each of its calls all others go on until they wait. When
everybody waits, time passes until the first sleep ends. A program that cannot go on
although nobody sleeps is stuck.
-/

namespace ChildProcess
namespace Machine

/-! ## Processes of the machine -/

/-- Replace what a process is still to do, unless it has ended. -/
def setProgram (machine : Machine) (id : ProcessId) (program : Program Unit) :
    Machine :=
  machine.modifyProcess id fun process =>
    match process.state with
    | .ended _ => process
    | _ => { process with program? := some program }

/-- How a program that never gets its answers ends. -/
def giveUp (machine : Machine) (id : ProcessId) : Machine :=
  machine.finish id (.ofKill Signal.kill)

/-- Whether a process that waits has moved more bytes than before. -/
def hasMoved (machine : Machine) (id : ProcessId) (before : Process) : Bool :=
  (machine.process? id).any fun process => process.written != before.written

/-- Let a process make its next call, unless it does not run or has to wait. The
answer tells whether anything happened. -/
def advance (machine : Machine) (id : ProcessId) : Machine × Bool :=
  match machine.process? id with
  | none => (machine, false)
  | some process =>
      if process.state != .running then (machine, false)
      else
        match process.program? with
        | none => (machine, false)
        | some (.done ()) => (machine.finish id (.ofExit 0), true)
        | some .exhausted => (machine.giveUp id, true)
        | some (.call request resume) =>
            match machine.answer id request with
            | (machine, .answer value) => (machine.setProgram id (resume value), true)
            | (machine, .both own other child) =>
                ((machine.setProgram id (resume own)).setProgram child (resume other),
                  true)
            | (machine, .become program) => (machine.setProgram id program, true)
            | (machine, .ended) => (machine, true)
            | (machine, .waiting) => (machine, machine.hasMoved id process)

/-- Let a process make at most so many calls. The answer tells whether anything
happened. -/
def advanceUpTo (id : ProcessId) : Nat → Machine → Machine × Bool
  | 0, machine => (machine, false)
  | calls + 1, machine =>
      match machine.advance id with
      | (machine, false) => (machine, false)
      | (machine, true) => ((advanceUpTo id calls machine).1, true)

/-- How many calls a process makes in its turn. -/
def turnLength : Nat := 64

/-- How many turns everybody has before time passes. -/
def roundLimit : Nat := 40

/-- Let every process have a turn. The answer tells whether any made a call. -/
def advanceAll (machine : Machine) : Machine × Bool :=
  machine.processes.keys.foldl
    (fun (machine, progressed) id =>
      let (machine, moved) := advanceUpTo id turnLength machine
      (machine, progressed || moved))
    (machine, false)

/-- What has become of the processes that had their turns. -/
inductive Rest
  /-- All waited already. -/
  | unchanged
  /-- All wait now. -/
  | settled
  /-- Some go on. -/
  | busy
  deriving DecidableEq, Repr

/-- Let all processes go on until they wait. -/
def settle : Nat → Machine → Machine × Rest
  | 0, machine => (machine, .busy)
  | rounds + 1, machine =>
      match machine.advanceAll with
      | (machine, false) => (machine, .unchanged)
      | (machine, true) =>
          match settle rounds machine with
          | (machine, .busy) => (machine, .busy)
          | (machine, _) => (machine, .settled)

/-! ## Time -/

/-- The end of the sleep that ends first. -/
def nextWakeTime? (machine : Machine) : Option Nat :=
  (machine.processes.entries.filterMap fun entry =>
    if entry.2.state == .running then entry.2.wakeTime? else none).min?

/-- How much time passes while processes go on that never wait. -/
def busyTime : Nat := 1000000

/-! ## A process from outside -/

/-- How a program ends that acts from outside. -/
inductive Ending (α : Type)
  | returned (value : α)
  /-- Its process ended. -/
  | ended
  /-- It never got an answer. -/
  | stuck
  deriving Repr

/-- Answer a call, letting the others go on and time pass as long as it has to
wait. -/
def await (id : ProcessId) (request : Call) : Nat → Machine → Machine × Reply request
  | 0, machine => (machine, .waiting)
  | turns + 1, machine =>
      match machine.answer id request with
      | (machine, .waiting) =>
          match machine.settle roundLimit with
          | (machine, .settled) => await id request turns machine
          | (machine, .busy) =>
              await id request turns
                { machine with clock := machine.clock + busyTime }
          | (machine, .unchanged) =>
              match machine.nextWakeTime? with
              | none => (machine, .waiting)
              | some time =>
                  await id request turns
                    { machine with clock := max time machine.clock }
      | reply => reply

/-- Run a program as a process from outside. -/
def run {α : Type} (id : ProcessId) : Program α → Machine → Machine × Ending α
  | .done value, machine => (machine, .returned value)
  | .exhausted, machine => (machine, .stuck)
  | .call request resume, machine =>
      match await id request Program.patience (machine.settle roundLimit).1 with
      | (machine, .answer value) => run id (resume value) machine
      | (machine, .both own other child) =>
          run id (resume own)
            (machine.setProgram child ((resume other).bind fun _ => .done ()))
      | (machine, .waiting) => (machine, .stuck)
      | (machine, .become _) | (machine, .ended) => (machine, .ended)

end Machine
end ChildProcess
