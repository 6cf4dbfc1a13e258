import ChildProcess.Machine.Basic

/-!
# Life and death of processes

A process that ends closes everything, leaves its children to the first process,
and waits to be collected by its parent, unless the parent does not want to know. A
signal ends, stops or resumes a process, or it is kept until the process can take
it. A process that is being traced stops at every signal that reaches it, whether
it ignores the signal or not.
-/

namespace ChildProcess
namespace Machine

/-- Whether nobody will collect a child of this process. -/
def disownsChildren (machine : Machine) (id : ProcessId) : Bool :=
  id == firstProcess
    || match machine.process? id with
      | none => true
      | some process => process.ignoredSignals.contains Signal.child

/-- Forget a process. -/
def remove (machine : Machine) (id : ProcessId) : Machine :=
  { machine with processes := machine.processes.erase id }

/-- Make a process a child of the first one, which collects it if it ended. -/
def adopt (machine : Machine) (id : ProcessId) : Machine :=
  match machine.process? id with
  | none => machine
  | some process =>
      match process.state with
      | .ended _ => machine.remove id
      | _ =>
          machine.modifyProcess id fun process =>
            { process with parent := firstProcess }

/-- End a process. -/
def finish (machine : Machine) (id : ProcessId) (word : StatusWord) : Machine :=
  match machine.process? id with
  | none => machine
  | some process =>
      let machine := machine.keepDescriptors id fun _ _ => false
      let orphans := (machine.children id).map Prod.fst
      let machine := orphans.foldl adopt machine
      if machine.disownsChildren process.parent then machine.remove id
      else
        machine.modifyProcess id fun process =>
          { process with state := .ended word, program? := none }

/-- Change the state of a process. -/
def setState (machine : Machine) (id : ProcessId) (state : RunState) : Machine :=
  machine.modifyProcess id fun process => { process with state }

/-- Keep a signal until the process can take it. -/
def postpone (machine : Machine) (id : ProcessId) (signal : Nat) : Machine :=
  machine.modifyProcess id fun process =>
    if process.pendingSignals.contains signal then process
    else { process with pendingSignals := process.pendingSignals ++ [signal] }

/-- Note a signal, which interrupts what the process waits for. -/
def note (machine : Machine) (id : ProcessId) (signal : Nat) : Machine :=
  machine.modifyProcess id fun process =>
    { process with
      notedSignals := process.notedSignals ++ [signal]
      interruptions := 1 }

/-- Let a signal act on a running process. -/
def act (machine : Machine) (id : ProcessId) (process : Process) (signal : Nat) :
    Machine :=
  if process.blockedSignals.contains signal && !Signal.isUnstoppable signal then
    machine.postpone id signal
  else if process.isTraced && signal != Signal.kill then
    machine.setState id (.trapped signal)
  else if process.ignoredSignals.contains signal && !Signal.isUnstoppable signal then
    machine
  else if process.watchedSignals.contains signal && !Signal.isUnstoppable signal then
    machine.note id signal
  else
    match Signal.action signal with
    | .terminate => machine.finish id (.ofKill signal)
    | .stop => machine.setState id (.stopped signal false)
    | .discard | .resume => machine

/-- Let a signal reach a process that runs; once it does not, signals are kept. -/
def take (machine : Machine) (id : ProcessId) (signal : Nat) : Machine :=
  match machine.process? id with
  | none => machine
  | some process =>
      match process.state with
      | .running => machine.act id process signal
      | .ended _ => machine
      | .stopped _ _ | .trapped _ => machine.postpone id signal

/-- Let the signals that were kept reach a process. -/
def takePending (machine : Machine) (id : ProcessId) : Machine :=
  let pending := ((machine.process? id).map Process.pendingSignals).getD []
  let machine := machine.modifyProcess id fun process =>
    { process with pendingSignals := [] }
  pending.foldl (fun current signal => current.take id signal) machine

/-- Let a stopped process go on. -/
def continueProcess (machine : Machine) (id : ProcessId) : Machine :=
  (machine.setState id .running).takePending id

/-- Send a signal to a process. -/
def raise (machine : Machine) (id : ProcessId) (signal : Nat) : Machine :=
  match machine.process? id with
  | none => machine
  | some process =>
      match process.state with
      | .ended _ => machine
      | .running => machine.act id process signal
      | .stopped _ _ =>
          if signal = Signal.kill then machine.finish id (.ofKill signal)
          else if signal = Signal.resume then machine.continueProcess id
          else machine.postpone id signal
      | .trapped _ =>
          if signal = Signal.kill then machine.finish id (.ofKill signal)
          else machine.postpone id signal

/-- Send a signal on behalf of some process. The signal zero only asks whether
there is such a process. -/
def send (machine : Machine) (id : ProcessId) (signal : Nat) :
    Except Errno Machine :=
  if signal > Signal.maximum then .error Errno.EINVAL
  else if (machine.process? id).isNone then .error Errno.ESRCH
  else if signal = 0 then .ok machine
  else .ok (machine.raise id signal)

/-! ## What parents learn -/

/-- The report about a child. -/
def report (id : ProcessId) (process : Process) : ChildReport :=
  match process.state with
  | .running => .empty
  | .stopped _ true => .empty
  | .stopped signal false => ⟨ChildReport.stoppedEvent, id, signal⟩
  | .trapped signal => ⟨ChildReport.trappedEvent, id, signal⟩
  | .ended word =>
      match word.exitStatus? with
      | some status => ⟨ChildReport.exitedEvent, id, status⟩
      | none => ⟨ChildReport.killedEvent, id, (word.killSignal?.getD 0 : Nat)⟩

/-- The number that collecting a child yields, if there is something to collect.
An ended child is gone afterwards, a stopped one has been reported. -/
def collectChild (machine : Machine) (id : ProcessId) (process : Process)
    (mode : CollectMode) : Option (Machine × StatusWord) :=
  match process.state, mode with
  | .ended word, _ => some (machine.remove id, word)
  | .stopped signal false, .immediately =>
      some (machine.setState id (.stopped signal true), .ofStop signal)
  | .trapped signal, _ => some (machine, .ofStop signal)
  | _, _ => none

/-- The first child for which there is something to collect. -/
def collectFirst (machine : Machine) (mode : CollectMode) :
    List (ProcessId × Process) → Option (Machine × ProcessId × StatusWord)
  | [] => none
  | (id, process) :: rest =>
      match machine.collectChild id process mode with
      | some (machine, word) => some (machine, id, word)
      | none => collectFirst machine mode rest

/-- The children that a number stands for: a child, or any. -/
def childrenNamed (machine : Machine) (parent id : ProcessId) :
    List (ProcessId × Process) :=
  (machine.children parent).filter fun entry => id == -1 || entry.1 == id

end Machine
end ChildProcess
