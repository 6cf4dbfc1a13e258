import ChildProcess.Machine.FileSystem

/-!
# Following paths

A path is followed name by name. Symbolic links on the way are followed too, up to
a number of them that is taken to mean that there is no end; a link at the end of
the path is followed on demand. Nothing is found above the root of the process that
looks. The directory of processes is filled with what the looking process can see:
one directory for each process, which lists its descriptors as links to what is
open.
-/

namespace ChildProcess

/-- The number of a pipe of the machine. -/
abbrev PipeId := Nat

/-- What a path can lead to. -/
inductive Place
  | node (id : NodeId)
  | pipe (id : PipeId)
  /-- The directory of a process. -/
  | process (id : ProcessId)
  /-- The directory of a process's descriptors. -/
  | descriptors (id : ProcessId)
  /-- The link to what a descriptor of a process stands for. -/
  | descriptor (id : ProcessId) (number : Descriptor)
  deriving DecidableEq, Repr, Inhabited

/-- What a process that follows a path can see. -/
structure View where
  fileSystem : FileSystem
  /-- The root of the process. -/
  root : NodeId
  /-- The process itself. -/
  self : ProcessId
  /-- What the descriptors of a process stand for. -/
  opened : ProcessId → Option (List (Descriptor × Place))

/-- Where a path ends. -/
inductive Found
  | present (place : Place)
  /-- Only the last name is missing. -/
  | absent (directory : Place) (name : Bytes)
  deriving DecidableEq, Repr, Inhabited

namespace View

/-- The longest name. -/
def longestName : Nat := 255

/-- The longest path with the zero byte behind it. -/
def longestPath : Nat := 4096

/-- How many links are followed at most. -/
def linkLimit : Nat := 40

/-- The names of a path. A slash at the end asks for a directory, as the name `.`
does. -/
def components (path : Bytes) : List Bytes :=
  let names := (Bytes.fields Bytes.slash path).filter (!·.isEmpty)
  if path.getLast? == some Bytes.slash then names ++ [[46]] else names

/-- The directory of processes. -/
def processesNode? (view : View) : Option NodeId :=
  view.fileSystem.nodes.findIdx? fun node =>
    match node.content with
    | .processes _ => true
    | _ => false

/-- Whether names can be looked up at a place. -/
def isDirectory (view : View) : Place → Bool
  | .node id => view.fileSystem.isDirectory id
  | .process _ | .descriptors _ => true
  | .pipe _ | .descriptor _ _ => false

/-- The number that a name is. -/
def number? (name : Bytes) : Option Nat := do
  let text ← Bytes.toText? name
  if text.toList.all Char.isDigit then text.toNat? else none

/-- Look up a name in a node of the tree. -/
def nodeEntry? (view : View) (id : NodeId) (name : Bytes) :
    Except Errno (Option Place) :=
  match view.fileSystem.content? id with
  | some (.directory entries parent) =>
      if name = [46, 46] then
        .ok (some (.node (if id = view.root then id else parent)))
      else if name.length > longestName then .error Errno.ENAMETOOLONG
      else .ok ((entries.get? name).map .node)
  | some (.processes parent) =>
      if name = [46, 46] then .ok (some (.node parent))
      else if name = Bytes.ofText "self" then .ok (some (.process view.self))
      else
        .ok ((number? name).bind fun number =>
          if (view.opened number).isSome then some (.process number) else none)
  | _ => .error Errno.ENOTDIR

/-- Look up a name at a place. -/
def entry? (view : View) (place : Place) (name : Bytes) :
    Except Errno (Option Place) :=
  match place with
  | .node id => view.nodeEntry? id name
  | .process id =>
      if name = [46, 46] then .ok (view.processesNode?.map .node)
      else if name = Bytes.ofText "fd" then .ok (some (.descriptors id))
      else .ok none
  | .descriptors id =>
      if name = [46, 46] then .ok (some (.process id))
      else
        .ok ((number? name).bind fun number =>
          if ((view.opened id).getD []).any (·.1 == number) then
            some (.descriptor id number)
          else none)
  | .pipe _ | .descriptor _ _ => .error Errno.ENOTDIR

/-- What a link leads to: a place, or a path to follow. -/
inductive Lead
  | place (place : Place)
  | path (target : Bytes)

/-- Where a place leads if it is a link. -/
def lead? (view : View) : Place → Option Lead
  | .node id =>
      match view.fileSystem.content? id with
      | some (.link target) => some (.path target)
      | _ => none
  | .descriptor id number =>
      (((view.opened id).getD []).lookup number).map .place
  | _ => none

/-- Where a path starts that is met at a place. -/
def origin (view : View) (place : Place) (path : Bytes) : Place :=
  if path.isAbsolute then .node view.root else place

/-- Follow names from a place, and so many links at most. -/
def walk (view : View) (followsLast : Bool) (links : Nat) (place : Place)
    (names : List Bytes) : Except Errno Found :=
  match names with
  | [] => .ok (.present place)
  | name :: rest =>
      if !view.isDirectory place then .error Errno.ENOTDIR
      else if name = [46] then walk view followsLast links place rest
      else
        match view.entry? place name with
        | .error errno => .error errno
        | .ok none =>
            if rest.isEmpty then .ok (.absent place name)
            else .error Errno.ENOENT
        | .ok (some next) =>
            match if rest.isEmpty && !followsLast then none else view.lead? next with
            | none => walk view followsLast links next rest
            | some lead =>
                match links with
                | 0 => .error Errno.ELOOP
                | fewer + 1 =>
                    match lead with
                    | .place target => walk view followsLast fewer target rest
                    | .path target =>
                        walk view followsLast fewer (view.origin place target)
                          (components target ++ rest)
  termination_by (links, names.length)

/-- Follow a path from a directory. -/
def find (view : View) (directory : Place) (path : Bytes) (followsLast : Bool) :
    Except Errno Found :=
  if path.isEmpty then .error Errno.ENOENT
  else if path.length ≥ longestPath then .error Errno.ENAMETOOLONG
  else walk view followsLast linkLimit (view.origin directory path) (components path)

/-- What is at a path. -/
def locate (view : View) (directory : Place) (path : Bytes) : Except Errno Place := do
  match ← view.find directory path true with
  | .present place => pure place
  | .absent _ _ => throw Errno.ENOENT

/-- The names in a directory, in no particular order. -/
def names (view : View) : Place → List Bytes
  | .node id =>
      match view.fileSystem.content? id with
      | some (.directory entries _) => entries.keys
      | _ => []
  | .descriptors id =>
      ((view.opened id).getD []).map fun entry => Bytes.ofText (toString entry.1)
  | _ => []

end View
end ChildProcess
