import ChildProcess.Handle
import ChildProcess.LaunchError

/-!
# Waiting for a child

A child is watched without being collected: its state is asked for again and again,
at first as fast as possible and then with growing pauses. Once it does not go on,
it is collected, unless it is only stopped; a stopped child is reported and can be
waited for again. After it has been collected, a child is never asked for or
signalled again, since its number may belong to another process by then.
-/

namespace ChildProcess

open Program (perform)

namespace Wait

/-- Ask for the state of a child, and leave it to be collected. -/
def poll (rounds : Nat) (process : ProcessId) :
    Program (Except Errno ChildStatus) := do
  let answer ← Program.retrying (perform (.childReport process)) rounds
  pure (answer.map ChildReport.status)

/-- What waiting for a child yields. -/
structure Outcome where
  code : Int
  /-- Whether the child has been collected. -/
  collected : Bool
  deriving DecidableEq, Repr, Inhabited

/-- How many times the state is asked for without a pause. -/
def eagerPolls : Nat := 16

/-- The pause after so many polls, in nanoseconds: none at first, then in steps of
50 microseconds up to ten milliseconds. -/
def pause (polls : Nat) : Nat :=
  min (50000 * (polls - eagerPolls)) 10000000

/-- Let time pass after so many polls. -/
def rest (polls : Nat) : Program Unit :=
  if polls ≤ eagerPolls then perform .yield
  else perform (.sleep (pause polls))

/-- Ask until the child does not go on; the answer is its code, or nothing if there
is no such child. -/
def awaitCode (rounds : Nat) (process : ProcessId) :
    Nat → Nat → Program (Except LaunchError (Option Int))
  | 0, _ => .exhausted
  | more + 1, polls => do
      match ← poll rounds process with
      | .error errno =>
          if errno = Errno.ECHILD then do
            Program.log .debug (some .wait)
              ("pid " ++ toString process ++ " already reaped; reporting 0")
            pure (.ok none)
          else pure (.error (.poll errno))
      | .ok status =>
          match status.exitCode? with
          | some code => pure (.ok (some code))
          | none => do
              rest (polls + 1)
              awaitCode rounds process more (polls + 1)

/-- Collect a child without blocking. The answer is its final code; a stopped child
has none, and the report that it stopped is used up. A child that is gone by now
ended with the code that was seen before. -/
def collect (rounds : Nat) (process : ProcessId) (seen : Int) :
    Program (Option Int) := do
  let answer ←
    Program.retrying (perform (.collect process .immediately)) rounds
  match answer with
  | .ok (collected, word) =>
      pure (if collected = 0 then none else word.finalCode?)
  | .error errno =>
      if errno = Errno.ECHILD then pure (some seen)
      else do
        Program.log .warn (some .wait)
          ("failed to reap pid " ++ toString process ++ ": "
            ++ errno.symbolicMessage)
        pure none

/-- Wait until a child does not go on, and collect it if it ended. -/
def waitFor (rounds : Nat) (process : ProcessId) :
    Program (Except LaunchError Outcome) := do
  match ← awaitCode rounds process rounds 0 with
  | .error cause => pure (.error cause)
  | .ok none => pure (.ok ⟨0, true⟩)
  | .ok (some seen) => do
      let final ← collect rounds process seen
      let outcome : Outcome := ⟨final.getD seen, final.isSome⟩
      Program.log .debug (some .wait)
        ("pid " ++ toString process ++ " finished with code "
          ++ toString outcome.code ++ " (reaped: " ++ toString outcome.collected
          ++ ")")
      pure (.ok outcome)

/-- The signal that tells a parent about its children. -/
def childSignal : Nat := 17

/-- The entry of a process in the directory of processes. -/
def processEntry (process : ProcessId) : Bytes :=
  Bytes.ofText ("/proc/" ++ toString process)

/-- Whether a process has an entry in the directory of processes. One that cannot
be looked at is taken to be there. -/
def entryExists (process : ProcessId) : Program Bool := do
  match ← perform (.openFile (processEntry process) OpenMode.listing) with
  | .error errno => pure (errno != Errno.ENOENT)
  | .ok descriptor => do
      let _ ← perform (.close descriptor)
      pure true

/-- Whether a child does not go on. Where the operating system collects children by
itself, a child that cannot be asked for is looked for among the processes. -/
def hasExited (rounds : Nat) (process : ProcessId) :
    Program (Except LaunchError Bool) := do
  match ← poll rounds process with
  | .ok status => pure (.ok status.isTerminal)
  | .error errno =>
      if errno ≠ Errno.ECHILD then pure (.error (.poll errno))
      else
        match ← perform (.disposition childSignal) with
        | .error errno => pure (.error (.disposition errno))
        | .ok .standard | .ok .note => pure (.ok true)
        | .ok .ignore => do
            let isThere ← entryExists process
            Program.log .debug (some .wait)
              ("pid " ++ toString process
                ++ " not waitable with SIGCHLD ignored; entry exists: "
                ++ toString isThere)
            pure (.ok !isThere)

/-- The signal that asks a process to end. -/
def terminationSignal : Nat := 15

/-- The signal that ends a process. -/
def killSignal : Nat := 9

end Wait

namespace Handle

/-- Wait for the child, and collect it if it ended. After that the code is
remembered. -/
def waitFor (rounds : Nat) (handle : Handle) :
    Program (Except LaunchError Int × Handle) := do
  match handle.collected, handle.exitCode? with
  | true, some code => pure (.ok code, handle)
  | _, _ =>
      match ← Wait.waitFor rounds handle.process with
      | .error cause => pure (.error cause, handle)
      | .ok outcome =>
          pure (.ok outcome.code,
            { handle with
              exitCode? := some outcome.code
              collected := outcome.collected })

/-- Whether the child does not go on. It is not collected. -/
def hasExited (rounds : Nat) (handle : Handle) :
    Program (Except LaunchError Bool) :=
  if handle.collected then pure (.ok true)
  else Wait.hasExited rounds handle.process

/-- Ask the child to end, or end it by force. A collected child is left alone. -/
def interrupt (handle : Handle) (force : Bool) :
    Program (Except LaunchError Unit) :=
  if handle.collected then pure (.ok ())
  else do
    Program.log .debug (some .wait)
      ("interrupting pid " ++ toString handle.process ++ " (force: "
        ++ toString force ++ ")")
    let number := if force then Wait.killSignal else Wait.terminationSignal
    match ← perform (.signal handle.process number) with
    | .ok () => pure (.ok ())
    | .error _ => pure (.error (.signal handle.process))

end Handle
end ChildProcess
