import ChildProcess.Session.Stranger
import ChildProcess.Spawn.Start

/-!
# Children by name

Children are started under names and used step by step: their streams are written,
read and taken away, they are waited for, interrupted and given up. Calls can be made
to fail during single steps. In the end it is counted what has been left behind:
descriptors that are still open, children that nobody collected, and children that
were started without anybody getting a handle.
-/

namespace ChildProcess
namespace Session

open Machine (outsider)

/-! ## Launches with files -/

/-- A part of the description of a launch. -/
inductive LaunchPart
  | setting (value : LaunchSetting)
  /-- Redirect a stream to a file that is opened beforehand. -/
  | file (stream : StandardStream) (path : Bytes) (mode : OpenMode)
  deriving Repr

/-- The setting that a part stands for. A file that cannot be opened counts as the
number -1. -/
def LaunchPart.open : LaunchPart → Session LaunchSetting
  | .setting value => pure value
  | .file stream path mode => do
      let answer ← perform (Program.perform (.openFile path mode))
      pure (.redirect stream (answer.toOption.getD (-1)))

/-- The launch that some parts describe. -/
def launchOf (parts : List LaunchPart) : Session Launch := do
  pure (Launch.ofSettings (← parts.mapM LaunchPart.open))

/-! ## Steps -/

/-- The conditions under which a child is started. -/
structure StartConditions where
  conditions : Conditions := {}
  /-- Signals that are blocked meanwhile. -/
  blocked : List Nat := []
  /-- Whether the working directory is the root meanwhile. -/
  ownRoot : Bool := false
  deriving Repr

/-- A use of a child. -/
inductive ChildUse
  | write (data : Bytes)
  | flush
  | closeInput
  | read (stream : StandardStream) (count? : Option Nat)
  | detached
  | take (stream : StandardStream) (name : String)
  | wait (faults : List Fault)
  | exited (faults : List Fault)
  | untilExited
  /-- Wait until the child is stopped because it is traced. -/
  | untilTrapped
  | interrupt (force : Bool) (faults : List Fault)
  | id
  | signal (number : Nat)
  | drop
  | takenRead (name : String) (count? : Option Nat)
  | takenWrite (name : String) (data : Bytes)
  | takenDrop (name : String)
  deriving Repr

/-- A step. -/
inductive ChildStep
  /-- Start one of the launches under a name. -/
  | start (child : String) (launch : Launch) (conditions : StartConditions)
  | use (child : String) (use : ChildUse)

/-- The answer of a step. -/
inductive ChildAnswer
  | done
  | flag (value : Bool)
  | code (value : Int)
  | bytes (value : Bytes)
  | flags (values : PerStream Bool)
  | launchError (cause : LaunchError)
  | systemError (cause : SystemError)
  /-- There is no such child, or its handle has been given up. -/
  | noChild
  | unsuitable
  deriving Repr

/-! ## What is there -/

/-- A child that was started under a name. -/
structure NamedChild where
  process : ProcessId
  /-- Its handle, unless that has been given up. -/
  handle? : Option Handle

/-- A stream that has been taken from a child. -/
inductive TakenStream
  | reader (number? : Option Descriptor)
  | writer (number? : Option Descriptor)
  deriving DecidableEq, Repr

namespace TakenStream

/-- The descriptor of a stream. -/
def number? : TakenStream → Option Descriptor
  | .reader number? | .writer number? => number?

end TakenStream

/-- Everything that has been started and taken. -/
structure Family where
  children : OrderedMap String NamedChild := .empty
  taken : OrderedMap String TakenStream := .empty
  /-- All children that were started successfully. -/
  started : List ProcessId := []

namespace Family

/-- Put another handle in the place of that of a child. -/
def setHandle (family : Family) (name : String) (handle? : Option Handle) : Family :=
  { family with
    children := family.children.modify name fun child => { child with handle? } }

end Family

/-! ## Taking steps -/

/-- Start a child under a name. The handle of an earlier child of that name is given
up. -/
def startChild (parent : Environment) (family : Family) (name : String)
    (launch : Launch) (given : StartConditions) : Session (Family × ChildAnswer) := do
  let blockedBefore := (← self).blockedSignals
  adjust fun process => { process with blockedSignals := given.blocked }
  let started ←
    whenever given.ownRoot withOwnRoot
      (under given.conditions (perform (launch.start Program.patience parent)))
  adjust fun process => { process with blockedSignals := blockedBefore }
  match started with
  | .error cause => pure (family, .launchError cause)
  | .ok handle => do
      match (family.children.get? name).bind NamedChild.handle? with
      | none => pure ()
      | some earlier => perform earlier.drop
      pure
        ({ family with
            children := family.children.insert name ⟨handle.process, some handle⟩
            started := family.started ++ [handle.process] }, .flag true)

/-- Read from a stream to its end, or so many bytes. -/
def readWhole (stream : Option Descriptor) (count? : Option Nat) :
    Program (Except SystemError Bytes) :=
  let read := readStream Program.patience stream
  match count? with
  | none => Program.readToEnd read Program.patience
  | some count => Program.readPieces read (count + 1) count

/-- Write everything to a stream. -/
def writeWhole (stream : Option Descriptor) (data : Bytes) :
    Program (Except SystemError Unit) :=
  Program.writeAll (writeStream Program.patience stream) Program.patience data

/-- The answer of reading. -/
def ofRead : Except SystemError Bytes → ChildAnswer
  | .ok data => .bytes data
  | .error cause => .systemError cause

/-- The answer of writing. -/
def ofWrite : Except SystemError Unit → ChildAnswer
  | .ok () => .done
  | .error cause => .systemError cause

/-- The answer of something done to a child. -/
def ofResult {α : Type} (succeeded : α → ChildAnswer) :
    Except LaunchError α → ChildAnswer
  | .ok value => succeeded value
  | .error cause => .launchError cause

/-- The time between two looks at a child, in nanoseconds. -/
def lookInterval : Nat := 2000000

/-- Look at a child until it has exited. -/
def awaitExit (handle : Handle) : Nat → Program (Except LaunchError Unit)
  | 0 => .exhausted
  | rounds + 1 => do
      match ← handle.hasExited Program.patience with
      | .error cause => pure (.error cause)
      | .ok true => pure (.ok ())
      | .ok false => do
          Program.perform (.sleep lookInterval)
          awaitExit handle rounds

/-- Look at a child until it is stopped because it is traced. -/
def awaitTrap (process : ProcessId) : Nat → Program Unit
  | 0 => .exhausted
  | rounds + 1 => do
      match ← Program.perform (.childReport process) with
      | .ok report =>
          if report.event = ChildReport.trappedEvent then pure ()
          else do
            Program.perform (.sleep lookInterval)
            awaitTrap process rounds
      | .error _ => pure ()

/-- Use a child whose handle is there. -/
def useChild (family : Family) (name : String) (handle : Handle) :
    ChildUse → Session (Family × ChildAnswer)
  | .write data => do
      let answer ← perform (writeWhole handle.streams.stdin data)
      pure (family, ofWrite answer)
  | .flush => pure (family, .done)
  | .closeInput => do
      perform (dropDescriptor handle.streams.stdin)
      pure (family.setHandle name (some (handle.withoutStream .stdin)), .done)
  | .read stream count? => do
      let answer ← perform (readWhole (handle.streams.get stream) count?)
      pure (family, ofRead answer)
  | .detached => pure (family, .flags (handle.streams.map Option.isNone))
  | .take stream target => do
      let number? := handle.streams.get stream
      let taken : TakenStream :=
        if stream = .stdin then .writer number? else .reader number?
      perform (dropDescriptor ((family.taken.get? target).bind TakenStream.number?))
      let family := family.setHandle name (some (handle.withoutStream stream))
      pure
        ({ family with taken := family.taken.insert target taken },
          .flag number?.isNone)
  | .wait faults => do
      let (answer, handle) ←
        withFaults faults (perform (handle.waitFor Program.patience))
      pure (family.setHandle name (some handle), ofResult .code answer)
  | .exited faults => do
      let answer ← withFaults faults (perform (handle.hasExited Program.patience))
      pure (family, ofResult .flag answer)
  | .untilExited => do
      let answer ← perform (awaitExit handle Program.patience)
      pure (family, ofResult (fun _ => .flag true) answer)
  | .untilTrapped => do
      perform (awaitTrap handle.process Program.patience)
      pure (family, .flag true)
  | .interrupt force faults => do
      let answer ← withFaults faults (perform (handle.interrupt force))
      pure (family, ofResult (fun _ => .done) answer)
  | .id => pure (family, .flag (decide (0 < handle.process)))
  | .drop => do
      perform handle.drop
      pure (family.setHandle name none, .done)
  | .signal _ | .takenRead _ _ | .takenWrite _ _ | .takenDrop _ =>
      pure (family, .unsuitable)

/-- Use a child that has been started under a name. Some uses need no handle. -/
def useNamed (family : Family) (name : String) (child : NamedChild) (use : ChildUse) :
    Session (Family × ChildAnswer) := do
  match use with
  | .signal number => do
      let answer ← perform (Program.perform (.signal child.process number))
      pure (family, .flag answer.isOk)
  | .takenRead target count? =>
      match family.taken.get? target with
      | some (.reader number?) => do
          let answer ← perform (readWhole number? count?)
          pure (family, ofRead answer)
      | _ => pure (family, .unsuitable)
  | .takenWrite target data =>
      match family.taken.get? target with
      | some (.writer number?) => do
          let answer ← perform (writeWhole number? data)
          pure (family, ofWrite answer)
      | _ => pure (family, .unsuitable)
  | .takenDrop target =>
      match family.taken.get? target with
      | some taken => do
          perform (dropDescriptor taken.number?)
          pure ({ family with taken := family.taken.erase target }, .done)
      | none => pure (family, .unsuitable)
  | _ =>
      match child.handle?, use with
      | some handle, use => useChild family name handle use
      | none, .drop => pure (family, .done)
      | none, _ => pure (family, .noChild)

/-- Take a step. -/
def takeChildStep (parent : Environment) (family : Family) :
    ChildStep → Session (Family × ChildAnswer)
  | .start name launch conditions => startChild parent family name launch conditions
  | .use name use =>
      match family.children.get? name with
      | none => pure (family, .noChild)
      | some child => useNamed family name child use

/-- Take steps one after another. -/
def takeChildSteps (parent : Environment) (family : Family) :
    List ChildStep → Session (Family × List ChildAnswer)
  | [] => pure (family, [])
  | step :: rest => do
      let (family, answer) ← takeChildStep parent family step
      let (family, answers) ← takeChildSteps parent family rest
      pure (family, answer :: answers)

/-! ## What is left behind -/

/-- How many descriptors are open. -/
def descriptorCount : Session Nat := do
  pure (← self).descriptors.keys.length

/-- The children that can still be collected. -/
def remainingChildren : Session (List ProcessId) := do
  pure (((← get).children outsider).map Prod.fst)

/-- What came of some steps. -/
structure FamilyOutcome where
  answers : List ChildAnswer
  /-- How many more descriptors are open than before. -/
  leakedDescriptors : Int
  /-- How many of the started children have not been collected. -/
  uncollected : Nat
  /-- How many children are there that were never started successfully. -/
  lost : Nat
  deriving Repr

/-- Give up all handles and taken streams. -/
def dropAll (family : Family) : Session Unit := do
  family.children.entries.forM fun entry =>
    match entry.2.handle? with
    | none => pure ()
    | some handle => perform handle.drop
  family.taken.entries.forM fun entry => perform (dropDescriptor entry.2.number?)

/-- Copy standard output to other numbers, where children inherit it. -/
def copyOutput (numbers : List Descriptor) : Session Unit :=
  numbers.forM fun number => do
    let _ ← perform (Program.perform (.duplicate 1 number))

/-- Start children and use them. -/
def raiseFamily (parent : Environment) (ignoresChildren : Bool)
    (steps : List ChildStep) : Session FamilyOutcome := do
  if ignoresChildren then
    perform (Program.perform (.setDisposition Signal.child .ignore))
  let before ← descriptorCount
  let (family, answers) ← takeChildSteps parent {} steps
  dropAll family
  let after ← descriptorCount
  let remaining ← remainingChildren
  let uncollected := remaining.filter (family.started.contains ·)
  pure
    { answers
      leakedDescriptors := (after : Int) - before
      uncollected := uncollected.length
      lost := remaining.length - uncollected.length }

end Session
end ChildProcess
