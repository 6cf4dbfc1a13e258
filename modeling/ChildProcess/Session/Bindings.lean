import ChildProcess.Session.Basic
import ChildProcess.Spawn.Binding

/-!
# Watching stream bindings

The streams of a launch are bound to real pipes, and the bindings are then used step
by step. After each step it is told which ends child and parent would get and which
ends are still open. An end of a pipe goes by the stream it was made for and its
side, so that it keeps its name when it is closed.
-/

namespace ChildProcess

/-- The streams for which pipes are to be made, in order. -/
def Launch.pipedStreams (launch : Launch) : List StandardStream :=
  [StandardStream.stdin, .stdout, .stderr].filter fun stream =>
    (launch.redirections.get stream).target?.isNone
      && !(launch.mergesOutputs && stream == .stderr)

namespace Session

/-- A side of a pipe. -/
inductive PipeSide
  | reader
  | writer
  deriving DecidableEq, Repr, Inhabited

/-- An end of a stream as it is told. -/
inductive EndName
  | pipe (stream : StandardStream) (side : PipeSide)
  | caller (number : Descriptor)
  deriving DecidableEq, Repr, Inhabited

/-- A step in the use of bindings. The binding of `slot` is used as that of `role`,
which may be another stream. -/
inductive BindingStep
  | childEnd (slot role : StandardStream)
  | parentEnd (slot role : StandardStream)
  | closeChildEnd (slot role : StandardStream)
  /-- Take the parent's end out and hold it. -/
  | takeParentEnd (slot role : StandardStream)
  /-- Close the child's end behind the back of the bindings. -/
  | steal (slot role : StandardStream)
  /-- Close all ends that are held. -/
  | dropTaken
  | closeChildEnds
  deriving DecidableEq, Repr, Inhabited

/-- What is told after a step. -/
structure BindingState where
  result : Option EndName
  childEnds : PerStream (Option EndName)
  parentEnds : PerStream (Option EndName)
  opened : List EndName
  deriving Repr

/-- How using the bindings ended. -/
inductive BindingOutcome
  | failed (cause : LaunchError) (opened : List EndName)
  | used (states : List BindingState) (openedAfterDrop : List EndName)
  deriving Repr

/-- The ends of pipes among the descriptors of the process, in the order of their
making. Pipes are numbered from `first` on, in the order of the streams. -/
def pipeEnds (streams : List StandardStream) (first : PipeId) :
    Session (List (EndName × Descriptor)) := fun machine =>
  let numbers := (machine.descriptors Machine.outsider).ascending
  let number? (pipe : PipeId) (side : PipeSide) : Option Descriptor :=
    numbers.find? fun number =>
      match machine.opened? Machine.outsider number with
      | .ok (_, file) =>
          file.place == .pipe pipe && file.reads == (side == .reader)
      | .error _ => false
  let ends :=
    (streams.mapIdx fun index stream =>
      [PipeSide.reader, .writer].filterMap fun side =>
        (number? (first + index) side).map fun number =>
          (EndName.pipe stream side, number)).flatten
  some (ends, machine)

/-- What a descriptor is called. -/
def nameOf (ends : List (EndName × Descriptor)) (number : Descriptor) : EndName :=
  ((ends.find? fun entry => entry.2 == number).map Prod.fst).getD (.caller number)

/-- The bindings in use, and the ends that have been taken out of them. -/
structure BindingUse where
  bindings : Bindings
  taken : List Descriptor := []

/-- The answer of a step that has none. -/
def silently (use : BindingUse) (program : Program Bindings) :
    Program (BindingUse × Option Descriptor) := do
  pure ({ use with bindings := ← program }, none)

/-- Take a step. -/
def useBindings (ends : List (EndName × Descriptor)) (use : BindingUse) :
    BindingStep → Program (BindingUse × Option Descriptor)
  | .childEnd slot role => pure (use, (use.bindings.get slot).childEnd role)
  | .parentEnd slot role => pure (use, (use.bindings.get slot).parentEnd role)
  | .closeChildEnd slot role =>
      silently use do
        let closed ← (use.bindings.get slot).closeChildEnd role
        pure (use.bindings.set slot closed)
  | .takeParentEnd slot role => do
      let binding := use.bindings.get slot
      match binding.parentEnd role with
      | none => pure (use, none)
      | some number =>
          pure
            ({ bindings := use.bindings.set slot (binding.withoutParentEnd role)
               taken := use.taken ++ [number] }, some number)
  | .steal slot role => do
      match (use.bindings.get slot).childEnd role with
      | none => pure (use, none)
      | some number =>
          if ends.any fun entry => entry.2 == number then
            let _ ← Program.perform (.close number)
          pure (use, some number)
  | .dropTaken => do
      use.taken.forM fun number => dropDescriptor (some number)
      pure ({ use with taken := [] }, none)
  | .closeChildEnds => silently use use.bindings.closeChildEnds

/-- What is told about bindings in use. -/
def bindingState (streams : List StandardStream) (first : PipeId)
    (ends : List (EndName × Descriptor)) (use : BindingUse)
    (result : Option Descriptor) : Session BindingState := do
  let opened ← pipeEnds streams first
  let named := fun (number? : Option Descriptor) => number?.map (nameOf ends)
  pure
    { result := named result
      childEnds := use.bindings.childEnds.map named
      parentEnds := use.bindings.parentEnds.map named
      opened := opened.map Prod.fst }

/-- Take steps one after another. -/
def useAll (streams : List StandardStream) (first : PipeId)
    (ends : List (EndName × Descriptor)) (use : BindingUse) :
    List BindingStep → Session (List BindingState × BindingUse)
  | [] => pure ([], use)
  | step :: rest => do
      let (use, result) ← perform (useBindings ends use step)
      let state ← bindingState streams first ends use result
      let (states, use) ← useAll streams first ends use rest
      pure (state :: states, use)

/-- Make pipes with the operating system, except for one stream. -/
def pipesExcept (failing? : Option (StandardStream × SystemError)) :
    Bindings.PipeMaker := fun stream =>
  match failing? with
  | some (failing, cause) =>
      if stream = failing then pure (.error cause) else Bindings.systemPipe
  | none => Bindings.systemPipe

/-- Bind the streams of a launch, of which one may fail, and use the bindings. The
answer starts with the streams that a pipe was asked for. -/
def watchBindings (launch : Launch) (failing? : Option (Nat × SystemError))
    (steps : List BindingStep) : Session (List StandardStream × BindingOutcome) := do
  let streams := launch.pipedStreams
  let failure? := failing?.bind fun (count, cause) =>
    if count = 0 then none else streams[count - 1]?.map fun stream => (stream, cause)
  let asked :=
    match failing?, failure? with
    | some (count, _), some _ => streams.take count
    | _, _ => streams
  let first := (← get).nextPipe
  match ← perform (Bindings.resolve (pipesExcept failure?) launch) with
  | .error cause =>
      let opened ← pipeEnds streams first
      pure (asked, .failed cause (opened.map Prod.fst))
  | .ok bindings =>
      let ends ← pipeEnds streams first
      let use : BindingUse := { bindings }
      let initial ← bindingState streams first ends use none
      let (states, use) ← useAll streams first ends use steps
      perform use.bindings.drop
      let opened ← pipeEnds streams first
      pure (asked, .used (initial :: states) (opened.map Prod.fst))

end Session
end ChildProcess
