import ChildProcess.LaunchError
import ChildProcess.Program.Transfer
import ChildProcess.Session.Basic

/-!
# Streams by name

Descriptors, readers and writers are held under names and used step by step. A
descriptor can become a reader or a writer and the other way round, and it can be
given up, after which only its number is left. A call that has to wait can be
interrupted by signals before somebody at the other end of the pipe lets it go on.
-/

namespace ChildProcess
namespace Session

/-- What is held under a name. Readers and writers may have lost their descriptor. -/
inductive Holding
  | descriptor (number? : Option Descriptor)
  | reader (number? : Option Descriptor)
  | writer (number? : Option Descriptor)
  /-- A number that nobody owns. -/
  | raw (number? : Option Descriptor)
  deriving DecidableEq, Repr, Inhabited

/-- A use of what is held under a name. -/
inductive StreamUse
  | invalid
  | detachedReader
  | detachedWriter
  /-- Take a number that is not open for a descriptor. -/
  | bad (number : Descriptor)
  | close
  | intoRaw
  | fromRaw
  | intoReader
  | intoWriter
  | intoDescriptor
  /-- Read once; somebody may write into the other end under a name meanwhile. -/
  | read (count : Nat) (peer? : Option (String × Bytes))
  | readAll
  /-- Write once; somebody may read so many bytes from the other end meanwhile. -/
  | write (data : Bytes) (peer? : Option (String × Nat))
  | writeAll (data : Bytes)
  | flush
  | readFully (count : Nat)
  | setCloseOnExec (value : Bool)
  | closesOnExec
  | drop
  deriving DecidableEq, Repr, Inhabited

/-- A step on the streams. -/
inductive StreamStep
  | pipe (reader writer : String) (capacity? : Option Nat)
  | use (name : String) (use : StreamUse)
  deriving DecidableEq, Repr, Inhabited

/-- The answer of a step. -/
inductive StreamAnswer
  | done
  | flag (value : Option Bool)
  | bytes (value : Bytes)
  | count (value : Nat)
  /-- So many bytes were read into a buffer. -/
  | buffer (count : Nat) (content : Bytes)
  | systemError (cause : SystemError)
  | launchError (cause : LaunchError)
  /-- The step does not fit what is held under the name. -/
  | unsuitable
  deriving DecidableEq, Repr, Inhabited

/-- What is held under which names. -/
abbrev Holdings := OrderedMap String Holding

/-- Close what is held, if it is owned. -/
def dropHolding : Holding → Program Unit
  | .descriptor number? | .reader number? | .writer number? =>
      dropDescriptor number?
  | .raw _ => pure ()

/-- Hold something under a name, and close what was held there. -/
def hold (holdings : Holdings) (name : String) (holding : Holding) :
    Program Holdings := do
  match holdings.get? name with
  | none => pure ()
  | some before => dropHolding before
  pure (holdings.insert name holding)

/-- The answer to a transfer of bytes. -/
def answerOf {α : Type} (wrap : α → StreamAnswer) :
    Except SystemError α → StreamAnswer
  | .ok value => wrap value
  | .error cause => .systemError cause

/-- The number of a descriptor that is there, owned or not. -/
def heldNumber? : Option Holding → Option Descriptor
  | some (.descriptor number?) | some (.raw number?) => number?
  | _ => none

/-- Close a descriptor. -/
def closeDescriptor (number? : Option Descriptor) : Program StreamAnswer := do
  match number? with
  | none => pure .done
  | some number =>
      match ← Program.perform (.close number) with
      | .ok () => pure .done
      | .error errno => pure (.launchError (.system (.os errno)))

/-- How what is held turns into something else, where that is possible. -/
def converted? : StreamUse → Option Holding → Option (Holding × StreamAnswer)
  | .intoRaw, some (.descriptor number?) =>
      some (.raw number?, .flag (some number?.isSome))
  | .fromRaw, some (.raw (some number)) => some (.descriptor (some number), .done)
  | .intoReader, some (.descriptor number?) => some (.reader number?, .done)
  | .intoWriter, some (.descriptor number?) => some (.writer number?, .done)
  | .intoDescriptor, some (.reader number?) => some (.descriptor number?, .done)
  | .intoDescriptor, some (.writer number?) => some (.descriptor number?, .done)
  | _, _ => none

/-- What is held afresh under a name. -/
def fresh? : StreamUse → Option Holding
  | .invalid => some (.descriptor none)
  | .detachedReader => some (.reader none)
  | .detachedWriter => some (.writer none)
  | .bad number => some (.descriptor (some number))
  | _ => none

/-- Uses that leave what is held as it is. -/
def useInPlace (held : Option Holding) : StreamUse → Program StreamAnswer
  | .read count _ =>
      match held with
      | some (.reader number?) => do
          pure (answerOf .bytes (← readStream Program.patience number? count))
      | _ => pure .unsuitable
  | .readAll =>
      match held with
      | some (.reader number?) => do
          let answer ←
            Program.readToEnd (readStream Program.patience number?)
              Program.patience
          pure (answerOf .bytes answer)
      | _ => pure .unsuitable
  | .write data _ =>
      match held with
      | some (.writer number?) => do
          pure (answerOf .count (← writeStream Program.patience number? data))
      | _ => pure .unsuitable
  | .writeAll data =>
      match held with
      | some (.writer number?) => do
          let answer ←
            Program.writeAll (writeStream Program.patience number?)
              Program.patience data
          pure (answerOf (fun _ => .done) answer)
      | _ => pure .unsuitable
  | .flush =>
      match held with
      | some (.writer _) => pure .done
      | _ => pure .unsuitable
  | .readFully count =>
      match heldNumber? held with
      | none => pure .unsuitable
      | some number => do
          let answer ← Program.readFully Program.patience number count
          pure (answerOf
            (fun piece =>
              .buffer piece.length
                (piece ++ List.replicate (count - piece.length) 46))
            answer)
  | .setCloseOnExec value =>
      match heldNumber? held with
      | none => pure .unsuitable
      | some number => do
          let answer ← Program.perform (.setCloseOnExec number value)
          pure (answerOf (fun _ => .done) (answer.mapError .os))
  | .closesOnExec =>
      match heldNumber? held with
      | none => pure .unsuitable
      | some number => do
          let answer ← Program.perform (.closesOnExec number)
          pure (.flag answer.toOption)
  | _ => pure .unsuitable

/-- Use what is held under a name. -/
def useHolding (holdings : Holdings) (name : String) (use : StreamUse) :
    Program (Holdings × StreamAnswer) := do
  let held := holdings.get? name
  match fresh? use, converted? use held, use, held with
  | some holding, _, _, _ => pure (← hold holdings name holding, .done)
  | none, some (holding, answer), _, _ =>
      pure (holdings.insert name holding, answer)
  | none, none, .close, some (.descriptor number?) => do
      let answer ← closeDescriptor number?
      pure (holdings.insert name (.descriptor none), answer)
  | none, none, .drop, _ => do
      match held with
      | none => pure ()
      | some holding => dropHolding holding
      pure (holdings.erase name, .done)
  | none, none, use, held => pure (holdings, ← useInPlace held use)

/-! ## Somebody at the other end -/

/-- How many signals interrupt a call before somebody lets it go on. -/
def interruptionCount : Nat := 3

/-- How long it takes until somebody lets a call go on, in nanoseconds. -/
def peerDelay : Nat := 20000000

/-- Write to a descriptor after a while. -/
def writeLater (number : Descriptor) (data : Bytes) : Program Unit := do
  Program.perform (.sleep peerDelay)
  let _ ←
    Program.writeAll (Program.writeSome Program.patience number)
      Program.patience data

/-- Read so many bytes from a descriptor after a while. -/
def readLater (number : Descriptor) (count : Nat) : Program Unit := do
  Program.perform (.sleep peerDelay)
  let _ ← Program.readFully Program.patience number count

/-- What somebody at the other end does during a use. -/
def peerProgram? (holdings : Holdings) : StreamUse → Option (Descriptor × Program Unit)
  | .read _ (some (peer, data)) =>
      (heldNumber? (holdings.get? peer)).map fun number =>
        (number, writeLater number data)
  | .write _ (some (peer, count)) =>
      (heldNumber? (holdings.get? peer)).map fun number =>
        (number, readLater number count)
  | _ => none

/-- Have another process, which has no descriptor but one, do something while this
one's next calls are interrupted. -/
def withPeer {α : Type} (peer? : Option (Descriptor × Program Unit))
    (session : Session α) : Session α := do
  match peer? with
  | none => session
  | some (number, program) => do
      modify fun machine =>
        match machine.fork Machine.outsider with
        | .error _ => machine
        | .ok (machine, child) =>
            (machine.keepDescriptors child fun other _ => other == number)
              |>.setProgram child program
      adjust fun process => { process with interruptions := interruptionCount }
      let value ← session
      adjust fun process => { process with interruptions := 0 }
      pure value

/-- The room of a pipe is a power of two of pages. -/
def roundedCapacity (size : Nat) : Nat :=
  4096 * ((size + 4095) / 4096).nextPowerOfTwo

/-- Say how many bytes a pipe has room for. -/
def setCapacity (number : Descriptor) (size : Nat) : Session Unit :=
  modify fun machine =>
    match machine.opened? Machine.outsider number with
    | .ok (_, { place := .pipe pipe, .. }) =>
        machine.modifyPipe pipe fun pipe =>
          { pipe with capacity := roundedCapacity size }
    | _ => machine

/-- Take a step. -/
def takeStreamStep (holdings : Holdings) :
    StreamStep → Session (Holdings × StreamAnswer)
  | .use name use =>
      withPeer (peerProgram? holdings use) (perform (useHolding holdings name use))
  | .pipe reader writer capacity? => do
      match ← perform (Program.perform .pipe) with
      | .error errno => pure (holdings, .systemError (.os errno))
      | .ok (readEnd, writeEnd) =>
          match capacity? with
          | none => pure ()
          | some size => setCapacity readEnd size
          let holdings ←
            perform (hold holdings reader (.descriptor (some readEnd)))
          let holdings ←
            perform (hold holdings writer (.descriptor (some writeEnd)))
          pure (holdings, .done)

/-- Take steps one after another; the answers come with what is held then. -/
def takeStreamSteps (holdings : Holdings) :
    List StreamStep → Session (List (StreamAnswer × Holdings))
  | [] => pure []
  | step :: rest => do
      let (holdings, answer) ← takeStreamStep holdings step
      let others ← takeStreamSteps holdings rest
      pure ((answer, holdings) :: others)

end Session
end ChildProcess
