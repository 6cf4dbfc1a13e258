import ChildProcess.Launch

/-!
# The state of a child

A parent learns about its child in two forms. Asking without collecting fills in
a `ChildReport`; collecting yields a `StatusWord`, in which the kind of the event,
a signal and an exit status share one number. Both are decoded into what the
parent wants to know: whether the child ended, and with which code. A child that
was ended or stopped by a signal has the code 128 plus the number of the signal.
-/

namespace ChildProcess

/-- The state of a child as the parent sees it. -/
inductive ChildStatus
  /-- The child ended by itself with a code. -/
  | exited (code : Int)
  /-- A signal ended or stopped the child; the code tells which one. -/
  | signaled (code : Int)
  /-- The child goes on. -/
  | running
  deriving DecidableEq, Repr, Inhabited

namespace ChildStatus

/-- What is added to the number of a signal to form a code. -/
def signalBase : Int := 128

/-- The state of a child that a signal ended or stopped. -/
def ofSignal (signal : Int) : ChildStatus :=
  .signaled (signalBase + signal)

/-- The code of a child that does not go on. -/
def exitCode? : ChildStatus → Option Int
  | .exited code | .signaled code => some code
  | .running => none

/-- Whether the child does not go on. -/
def isTerminal : ChildStatus → Bool
  | .exited _ | .signaled _ => true
  | .running => false

end ChildStatus

/-- What the operating system fills in about a child: the kind of the event, the
child (0 if there is nothing to report), and an exit status or a signal. -/
structure ChildReport where
  event : Int
  process : ProcessId
  detail : Int
  deriving DecidableEq, Repr, Inhabited

namespace ChildReport

/-- The child ended by itself. -/
def exitedEvent : Int := 1

/-- A signal ended the child. -/
def killedEvent : Int := 2

/-- A signal ended the child, which left a memory image. -/
def dumpedEvent : Int := 3

/-- The child, which is being traced, was stopped. -/
def trappedEvent : Int := 4

/-- A signal stopped the child. -/
def stoppedEvent : Int := 5

/-- The report that says nothing. -/
def empty : ChildReport := ⟨0, 0, 0⟩

/-- The state that a report tells. -/
def status (report : ChildReport) : ChildStatus :=
  if report.process = 0 then .running
  else if report.event = exitedEvent then .exited report.detail
  else if report.event = killedEvent ∨ report.event = dumpedEvent
      ∨ report.event = stoppedEvent then
    .ofSignal report.detail
  else .running

end ChildReport

/-- The number that collecting a child yields. -/
structure StatusWord where
  number : Nat
  deriving DecidableEq, Repr, Inhabited

namespace StatusWord

/-- The word for a child that ended with a status below 256. -/
def ofExit (status : Nat) : StatusWord := ⟨status * 256⟩

/-- The word for a child that a signal ended. -/
def ofKill (signal : Nat) : StatusWord := ⟨signal⟩

/-- The word for a child that a signal stopped. -/
def ofStop (signal : Nat) : StatusWord := ⟨signal * 256 + 127⟩

/-- The low seven bits, which tell how the child ended. -/
def low (word : StatusWord) : Nat := word.number % 128

/-- The exit status, if the child ended by itself. -/
def exitStatus? (word : StatusWord) : Option Nat :=
  if word.low = 0 then some (word.number / 256 % 256) else none

/-- The signal that ended the child, if one did. -/
def killSignal? (word : StatusWord) : Option Nat :=
  if word.low ≠ 0 ∧ word.low ≠ 127 then some word.low else none

/-- The code of a child that ended; a stopped child has none. -/
def finalCode? (word : StatusWord) : Option Int :=
  match word.exitStatus?, word.killSignal? with
  | some status, _ => some status
  | none, some signal => (ChildStatus.ofSignal signal).exitCode?
  | none, none => none

end StatusWord
end ChildProcess
