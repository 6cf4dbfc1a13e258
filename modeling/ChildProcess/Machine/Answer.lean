import ChildProcess.Machine.Execution

/-!
# What a machine answers

Every call of a program is answered by the machine on which the process runs, which
may change in answering. Some calls are not answered: a process that waits makes its
call again later, one that becomes another program or ends has no use for an answer,
and one that duplicates itself is answered twice.
-/

namespace ChildProcess

/-- What comes of a call. -/
inductive Reply (request : Call)
  | answer (value : request.Answer)
  /-- The process goes on with one answer, and a new process with another. -/
  | both (own other : request.Answer) (child : ProcessId)
  /-- The process has to wait. -/
  | waiting
  /-- The process goes on as another program. -/
  | become (program : Program Unit)
  /-- The process has ended. -/
  | ended

namespace Machine

/-- What has succeeded changes the machine, and what has failed does not. -/
def commit {α : Type} (machine : Machine) :
    Except Errno (Machine × α) → Machine × Except Errno α
  | .ok (changed, value) => (changed, .ok value)
  | .error errno => (machine, .error errno)

/-- What has succeeded changes the machine, and what has failed does not. -/
def commitUnit (machine : Machine) : Except Errno Machine → Machine × Except Errno Unit
  | .ok changed => (changed, .ok ())
  | .error errno => (machine, .error errno)

/-- A call that is answered at once. -/
def answered {request : Call} (result : Machine × request.Answer) :
    Machine × Reply request :=
  (result.1, .answer result.2)

/-- A call that may have to wait. -/
def attempted {request : Call} (result : Machine × Attempt request.Answer) :
    Machine × Reply request :=
  match result with
  | (machine, .finished value) => (machine, .answer value)
  | (machine, .waiting) => (machine, .waiting)

/-- A new process that is like another one but has no children and no signals
pending. -/
def fork (machine : Machine) (id : ProcessId) : Except Errno (Machine × ProcessId) :=
  match machine.process? id with
  | none => .error Errno.ESRCH
  | some process =>
      let child := machine.nextProcess
      let copy : Process :=
        { process with
          parent := id
          pendingSignals := []
          notedSignals := []
          wakeTime? := none
          written := 0
          interruptions := 0
          isTraced := false }
      .ok
        ({ machine with
            processes := machine.processes.insert child copy
            nextProcess := child + 1 }, child)

/-- Ask about a child. -/
def childReport (machine : Machine) (id child : ProcessId) :
    Except Errno ChildReport :=
  if child ≤ 0 then .error Errno.EINVAL
  else
    match machine.childrenNamed id child with
    | [] => .error Errno.ECHILD
    | (number, process) :: _ => .ok (report number process)

/-- Collect a child. -/
def collect (machine : Machine) (id child : ProcessId) (mode : CollectMode) :
    Machine × Attempt (Except Errno (ProcessId × StatusWord)) :=
  match machine.childrenNamed id child with
  | [] => (machine, .finished (.error Errno.ECHILD))
  | children =>
      match machine.collectFirst mode children, mode with
      | some (machine, number, word), _ => (machine, .finished (.ok (number, word)))
      | none, .immediately => (machine, .finished (.ok (0, ⟨0⟩)))
      | none, .untilEnd => (machine, .waiting)

/-- What a process does with a signal that it has asked to be treated. -/
def setDisposition (machine : Machine) (id : ProcessId) (signal : Nat)
    (disposition : Disposition) : Machine :=
  machine.modifyProcess id fun process =>
    let ignoredSignals := process.ignoredSignals.filter (· != signal)
    let watchedSignals := process.watchedSignals.filter (· != signal)
    match disposition with
    | .standard => { process with ignoredSignals, watchedSignals }
    | .ignore =>
        { process with ignoredSignals := signal :: ignoredSignals, watchedSignals }
    | .note =>
        { process with ignoredSignals, watchedSignals := signal :: watchedSignals }

/-- What a process does with a signal. -/
def disposition (machine : Machine) (id : ProcessId) (signal : Nat) : Disposition :=
  match machine.process? id with
  | none => .standard
  | some process =>
      if process.ignoredSignals.contains signal then .ignore
      else if process.watchedSignals.contains signal then .note
      else .standard

/-- Forget the signals that a process has noted, which no longer interrupt it. -/
def forgetNoted (machine : Machine) (id : ProcessId) : Machine :=
  machine.modifyProcess id fun process =>
    { process with notedSignals := [], interruptions := 0 }

/-- Let time pass for a process. -/
def sleep (machine : Machine) (id : ProcessId) (nanoseconds : Nat) :
    Machine × Attempt Unit :=
  match machine.process? id with
  | none => (machine, .waiting)
  | some process =>
      match process.wakeTime? with
      | none =>
          (machine.modifyProcess id fun process =>
              { process with wakeTime? := some (machine.clock + nanoseconds) },
            .waiting)
      | some time =>
          if time ≤ machine.clock then
            (machine.modifyProcess id fun process =>
              { process with wakeTime? := none }, .finished ())
          else (machine, .waiting)

/-- Send a signal to a process. -/
def signalNamed (machine : Machine) (id target : ProcessId) (signal : Nat) :
    Except Errno Machine :=
  machine.send (if target = 0 then id else target) signal

/-- Change what signals a process does not take at once, and let those reach it that
it takes now. -/
def setSignalMask (machine : Machine) (id : ProcessId) (blocked : List Nat) :
    Machine :=
  (machine.modifyProcess id fun process =>
    { process with blockedSignals := blocked }).takePending id

/-- Answer a call that is not under a fault. -/
def answerSound (machine : Machine) (id : ProcessId) (request : Call) :
    Machine × Reply request :=
  match request with
  | .pipe => answered (machine.commit (machine.makePipe id))
  | .fork =>
      match machine.fork id with
      | .ok (machine, child) =>
          (machine, .both (.ok (.parent child)) (.ok .child) child)
      | .error errno => (machine, .answer (.error errno))
  | .execute path arguments environment =>
      match machine.execute id path arguments environment with
      | .ok (machine, program) => (machine, .become program)
      | .error errno => (machine, .answer errno)
  | .exit code => (machine.finish id (.ofExit (code % 256).toNat), .ended)
  | .openFile path mode => answered (machine.commit (machine.openPath id path mode))
  | .close number => answered (machine.commitUnit (machine.clearDescriptor id number))
  | .read number count => attempted (machine.read id number count)
  | .write number data => attempted (machine.write id number data)
  | .duplicate source target =>
      answered (machine.commitUnit (machine.duplicate id source target))
  | .duplicateFrom source floor =>
      answered (machine.commit (machine.duplicateFrom id source floor))
  | .setCloseOnExec number value =>
      answered (machine.commitUnit (machine.setCloseOnExec id number value))
  | .closesOnExec number =>
      (machine, .answer
        (match (machine.descriptors id).get? number with
          | some slot => .ok slot.closesOnExec
          | none => .error Errno.EBADF))
  | .directoryRecords number size =>
      answered (machine.commit (machine.directoryRecords id number size))
  | .changeDirectory path =>
      answered (machine.commitUnit (machine.changeDirectory id path))
  | .childReport child => (machine, .answer (machine.childReport id child))
  | .collect child mode => attempted (machine.collect id child mode)
  | .signal target number =>
      answered (machine.commitUnit (machine.signalNamed id target number))
  | .disposition number => (machine, .answer (.ok (machine.disposition id number)))
  | .setDisposition number disposition =>
      (machine.setDisposition id number disposition, .answer ())
  | .setSignalMask blocked => (machine.setSignalMask id blocked, .answer ())
  | .notedSignals =>
      (machine.forgetNoted id,
        .answer (((machine.process? id).map Process.notedSignals).getD []))
  | .descriptorLimit =>
      (machine, .answer
        (((machine.process? id).map Process.descriptorLimit).getD 0 : Nat))
  | .yield => (machine, .answer ())
  | .sleep nanoseconds => attempted (machine.sleep id nanoseconds)
  | .clock => (machine, .answer machine.clock)
  | .log _ => (machine, .answer ())
  | .fileInfo path followsLinks =>
      (machine, .answer (machine.fileInfo id path followsLinks))
  | .currentDirectory => (machine, .answer (machine.directoryPath id))
  | .processId => (machine, .answer id)
  | .traceMe =>
      (machine.modifyProcess id fun process => { process with isTraced := true },
        .answer ())

/-- Answer a call of a process. -/
def answer (machine : Machine) (id : ProcessId) (request : Call) :
    Machine × Reply request :=
  let faults := ((machine.process? id).map Process.faults).getD []
  match faults.findSome? fun fault => fault.apply request with
  | some value => (machine, .answer value)
  | none => machine.answerSound id request

end Machine
end ChildProcess
