import ChildProcess.Inherited.DirectoryRecord
import ChildProcess.Machine.Lifecycle

/-!
# Files, pipes and directories

Opening, reading and writing. Reading an empty pipe waits as long as somebody may
still write into it, and writing into a full one waits for a reader; a short write
goes into a pipe as a whole. Whoever writes into a pipe without readers gets a
signal as well as an error.
-/

namespace ChildProcess

/-- What has become of an attempt. -/
inductive Attempt (α : Type)
  | finished (value : α)
  /-- It has to be made again later. -/
  | waiting
  deriving Repr

namespace Machine

/-! ## Opening -/

/-- Whether something is open for writing at a place. -/
def isWritten (machine : Machine) (place : Place) : Bool :=
  machine.files.entries.any fun entry =>
    entry.2.place == place && entry.2.writes

/-- Open what there is at a place. -/
def openPlace (machine : Machine) (id : ProcessId) (number : Descriptor)
    (place : Place) (mode : OpenMode) : Except Errno Machine :=
  let isDirectory := (machine.view id).isDirectory place
  if isDirectory && (mode.writes || mode.creates) then .error Errno.EISDIR
  else if mode.directoryOnly && !isDirectory then .error Errno.ENOTDIR
  else
    let file : OpenFile :=
      { place, reads := mode.reads, writes := mode.writes, appends := mode.appends }
    let machine :=
      match place, mode.truncates with
      | .node node, true =>
          match machine.fileSystem.content? node with
          | some (.file _) =>
              { machine with
                fileSystem := machine.fileSystem.setContent node (.file []) }
          | _ => machine
      | _, _ => machine
    .ok (machine.openAs id number file mode.closesOnExec)

/-- Make a file and open it. -/
def openNew (machine : Machine) (id : ProcessId) (number : Descriptor)
    (directory : Place) (name : Bytes) (mode : OpenMode) : Except Errno Machine :=
  match directory with
  | .node node =>
      match machine.fileSystem.content? node with
      | some (.directory _ _) =>
          let (fileSystem, fresh) :=
            machine.fileSystem.add node name ⟨.file [], FileSystem.filePermissions⟩
          openPlace { machine with fileSystem } id number (.node fresh) mode
      | _ => .error Errno.ENOENT
  | _ => .error Errno.ENOENT

/-- Whether a path asks for a directory by the slash at its end. -/
def endsInSlash (path : Bytes) : Bool :=
  path.getLast? == some Bytes.slash

/-- A path without the slashes at its end, of which the root keeps one. -/
def withoutSlashes (path : Bytes) : Bytes :=
  match (path.reverse.dropWhile (· == Bytes.slash)).reverse with
  | [] => [Bytes.slash]
  | shorter => shorter

/-- Open a path. A slash at the end of the name of a file to be made is refused
once the way there has been found. -/
def openPath (machine : Machine) (id : ProcessId) (path : Bytes) (mode : OpenMode) :
    Except Errno (Machine × Descriptor) := do
  let view := machine.view id
  let directory := machine.directory id
  let number ← machine.freeDescriptor id 0
  if mode.creates && endsInSlash path then
    let _ ← view.find directory (withoutSlashes path) false
    throw Errno.EISDIR
  match ← view.find directory path true with
  | .present place =>
      let machine ← machine.openPlace id number place mode
      pure (machine, number)
  | .absent parent name =>
      if mode.creates then
        let machine ← machine.openNew id number parent name mode
        pure (machine, number)
      else throw Errno.ENOENT

/-! ## Reading and writing -/

/-- Change an open file. -/
def modifyFile (machine : Machine) (file : FileId) (change : OpenFile → OpenFile) :
    Machine :=
  { machine with files := machine.files.modify file change }

/-- Change a pipe. -/
def modifyPipe (machine : Machine) (pipe : PipeId) (change : Pipe → Pipe) :
    Machine :=
  { machine with pipes := machine.pipes.modify pipe change }

/-- Wait, unless a signal interrupts the process. Bytes that have been moved by
then count. -/
def waitOr {α : Type} (machine : Machine) (id : ProcessId)
    (interrupted : Except Errno α) :
    Machine × Attempt (Except Errno α) :=
  match machine.process? id with
  | some process =>
      if process.interruptions = 0 then (machine, .waiting)
      else
        (machine.modifyProcess id fun process =>
            { process with interruptions := process.interruptions - 1, written := 0 },
          .finished interrupted)
  | none => (machine, .waiting)

/-- Read from a pipe. -/
def readPipe (machine : Machine) (id : ProcessId) (pipe : PipeId) (count : Nat) :
    Machine × Attempt (Except Errno Bytes) :=
  let buffer := ((machine.pipes.get? pipe).map Pipe.buffer).getD []
  if count = 0 then (machine, .finished (.ok []))
  else if buffer.isEmpty then
    if machine.hasWriter pipe then machine.waitOr id (.error Errno.EINTR)
    else (machine, .finished (.ok []))
  else
    (machine.modifyPipe pipe fun pipe => { pipe with buffer := buffer.drop count },
      .finished (.ok (buffer.take count)))

/-- Read from a node of the tree. -/
def readNode (machine : Machine) (file : FileId) (offset : Nat) (node : NodeId)
    (count : Nat) : Machine × Except Errno Bytes :=
  match machine.fileSystem.content? node with
  | some (.file bytes) =>
      let piece := (bytes.drop offset).take count
      (machine.modifyFile file fun opened =>
          { opened with offset := offset + piece.length },
        .ok piece)
  | some (.directory _ _) | some (.processes _) => (machine, .error Errno.EISDIR)
  | some (.device (some byte)) => (machine, .ok (List.replicate count byte))
  | _ => (machine, .ok [])

/-- Read what a descriptor of a process stands for. -/
def read (machine : Machine) (id : ProcessId) (number : Descriptor) (count : Nat) :
    Machine × Attempt (Except Errno Bytes) :=
  match machine.opened? id number with
  | .error errno => (machine, .finished (.error errno))
  | .ok (file, opened) =>
      if !opened.reads then (machine, .finished (.error Errno.EBADF))
      else
        match opened.place with
        | .pipe pipe => machine.readPipe id pipe count
        | .node node =>
            let (machine, answer) :=
              machine.readNode file opened.offset node count
            (machine, .finished answer)
        | _ => (machine, .finished (.error Errno.EISDIR))

/-- The longest write that goes into a pipe as a whole. -/
def atomicLength : Nat := 4096

/-- Write into a pipe. Part of a long write may be in the pipe already. -/
def writePipe (machine : Machine) (id : ProcessId) (pipe : PipeId) (data : Bytes) :
    Machine × Attempt (Except Errno Nat) :=
  let written := ((machine.process? id).map Process.written).getD 0
  let rest := data.drop written
  let contents := (machine.pipes.get? pipe).getD {}
  let room := contents.capacity - contents.buffer.length
  let setWritten (machine : Machine) (count : Nat) : Machine :=
    machine.modifyProcess id fun process => { process with written := count }
  if data.isEmpty then (machine, .finished (.ok 0))
  else if !machine.hasReader pipe then
    let machine := (setWritten machine 0).raise id Signal.pipe
    (machine, .finished (if written = 0 then .error Errno.EPIPE else .ok written))
  else if room ≥ rest.length then
    (setWritten
        (machine.modifyPipe pipe fun pipe =>
          { pipe with buffer := pipe.buffer ++ rest }) 0,
      .finished (.ok data.length))
  else
    let part := if data.length ≤ atomicLength then 0 else room
    let machine :=
      if part = 0 then machine
      else
        setWritten
          (machine.modifyPipe pipe fun pipe =>
            { pipe with buffer := pipe.buffer ++ rest.take part })
          (written + part)
    machine.waitOr id
      (if written + part = 0 then .error Errno.EINTR else .ok (written + part))

/-- Put bytes into a file; a gap before them is filled with zeros. -/
def overwrite (bytes : Bytes) (offset : Nat) (data : Bytes) : Bytes :=
  bytes.take offset ++ List.replicate (offset - bytes.length) 0 ++ data
    ++ bytes.drop (offset + data.length)

/-- Write into a node of the tree. -/
def writeNode (machine : Machine) (file : FileId) (opened : OpenFile) (node : NodeId)
    (data : Bytes) : Machine :=
  match machine.fileSystem.content? node with
  | some (.file bytes) =>
      let offset := if opened.appends then bytes.length else opened.offset
      let machine :=
        { machine with
          fileSystem :=
            machine.fileSystem.setContent node
              (.file (overwrite bytes offset data)) }
      machine.modifyFile file fun opened =>
        { opened with offset := offset + data.length }
  | _ => machine

/-- Write to what a descriptor of a process stands for. -/
def write (machine : Machine) (id : ProcessId) (number : Descriptor) (data : Bytes) :
    Machine × Attempt (Except Errno Nat) :=
  match machine.opened? id number with
  | .error errno => (machine, .finished (.error errno))
  | .ok (file, opened) =>
      if !opened.writes then (machine, .finished (.error Errno.EBADF))
      else
        match opened.place with
        | .pipe pipe => machine.writePipe id pipe data
        | .node node =>
            (machine.writeNode file opened node data, .finished (.ok data.length))
        | _ => (machine, .finished (.error Errno.EINVAL))

/-! ## Descriptors -/

/-- Make a pipe. -/
def makePipe (machine : Machine) (id : ProcessId) :
    Except Errno (Machine × Descriptor × Descriptor) := do
  let pipe := machine.nextPipe
  let fresh : Machine :=
    { machine with
      pipes := machine.pipes.insert pipe {}
      nextPipe := pipe + 1 }
  let reader ← fresh.freeDescriptor id 0
  let withReader :=
    fresh.openAs id reader { place := .pipe pipe, reads := true, writes := false } true
  let writer ← withReader.freeDescriptor id 0
  let withBoth :=
    withReader.openAs id writer
      { place := .pipe pipe, reads := false, writes := true } true
  pure (withBoth, reader, writer)

/-- Make a descriptor a copy of another one. -/
def duplicate (machine : Machine) (id : ProcessId) (source target : Descriptor) :
    Except Errno Machine := do
  let (file, _) ← machine.opened? id source
  let limit := ((machine.process? id).map Process.descriptorLimit).getD 0
  if source = target then pure machine
  else if target < 0 ∨ target ≥ limit then throw Errno.EBADF
  else pure (machine.setDescriptor id target ⟨file, false⟩)

/-- Copy a descriptor to the lowest free number from a number on. -/
def duplicateFrom (machine : Machine) (id : ProcessId)
    (source floor : Descriptor) : Except Errno (Machine × Descriptor) := do
  let (file, _) ← machine.opened? id source
  let limit := ((machine.process? id).map Process.descriptorLimit).getD 0
  if floor < 0 ∨ floor ≥ limit then throw Errno.EINVAL
  let number ← machine.freeDescriptor id floor
  pure (machine.setDescriptor id number ⟨file, false⟩, number)

/-- Say whether a descriptor closes on execution. -/
def setCloseOnExec (machine : Machine) (id : ProcessId) (number : Descriptor)
    (value : Bool) : Except Errno Machine := do
  let (file, _) ← machine.opened? id number
  pure (machine.setDescriptor id number ⟨file, value⟩)

/-! ## Directories -/

/-- The entries of a directory behind a position, each with its own position. The
descriptors of a process stand at fixed positions, so that closing some does not
hide others. -/
def entriesFrom (view : View) (place : Place) (position : Nat) :
    List (Nat × Bytes) :=
  let names : List (Nat × Bytes) :=
    match place with
    | .descriptors id =>
        ((view.opened id).getD []).map fun entry =>
          (entry.1.toNat + 2, Bytes.ofText (toString entry.1))
    | _ => (view.names place).mapIdx fun index name => (index + 2, name)
  ((0, [46]) :: (1, [46, 46]) :: names).filter fun entry => position ≤ entry.1

/-- The records of as many entries as fit into a number of bytes, with the position
of the last one. -/
def recordsWithin (size : Nat) : List (Nat × Bytes) → Bytes × Option Nat
  | [] => ([], none)
  | (position, name) :: rest =>
      let record := DirectoryRecord.encode position name
      if record.length ≤ size then
        let (records, last?) := recordsWithin (size - record.length) rest
        (record ++ records, some (last?.getD position))
      else ([], none)

/-- The next records of an open directory. -/
def directoryRecords (machine : Machine) (id : ProcessId) (number : Descriptor)
    (size : Nat) : Except Errno (Machine × Bytes) := do
  let (file, opened) ← machine.opened? id number
  let view := machine.view id
  if !view.isDirectory opened.place then throw Errno.ENOTDIR
  match entriesFrom view opened.place opened.offset with
  | [] => pure (machine, [])
  | entries =>
      match recordsWithin size entries with
      | (_, none) => throw Errno.EINVAL
      | (records, some last) =>
          pure (machine.modifyFile file fun opened =>
            { opened with offset := last + 1 }, records)

/-- What there is at a path. -/
def fileInfo (machine : Machine) (id : ProcessId) (path : Bytes)
    (followsLinks : Bool) : Except Errno FileInfo := do
  let view := machine.view id
  match ← view.find (machine.directory id) path followsLinks with
  | .absent _ _ => throw Errno.ENOENT
  | .present (.node node) =>
      match machine.fileSystem.nodes[node]? with
      | none => throw Errno.ENOENT
      | some found =>
          pure
            { isFile := found.content.isFile
              isDirectory := found.content.isDirectory
              isLink := match found.content with | .link _ => true | _ => false
              permissions := found.permissions
              size := found.content.size }
  | .present place =>
      pure
        { isFile := false
          isDirectory := view.isDirectory place
          isLink := match place with | .descriptor _ _ => true | _ => false
          permissions := FileSystem.openPermissions
          size := 0 }

/-- Enter a directory. -/
def changeDirectory (machine : Machine) (id : ProcessId) (path : Bytes) :
    Except Errno Machine := do
  let view := machine.view id
  let place ← view.locate (machine.directory id) path
  if view.isDirectory place then
    pure (machine.modifyProcess id fun process => { process with directory := place })
  else throw Errno.ENOTDIR

/-- The path of the working directory. -/
def directoryPath (machine : Machine) (id : ProcessId) : Except Errno Bytes :=
  let view := machine.view id
  match machine.directory id with
  | .node node => .ok (machine.fileSystem.pathTo view.root node)
  | .process process => .ok (Bytes.ofText ("/proc/" ++ toString process))
  | .descriptors process => .ok (Bytes.ofText ("/proc/" ++ toString process ++ "/fd"))
  | _ => .error Errno.ENOENT

end Machine
end ChildProcess
