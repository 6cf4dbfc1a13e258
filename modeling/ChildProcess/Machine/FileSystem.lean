import ChildProcess.Program

/-!
# File systems

A file system is a tree of nodes: files, directories, symbolic links, and what the
machine itself provides. A directory maps names to nodes and knows its parent. The
user may do everything except execute what nobody may execute, so of the
permissions only the execution bits matter.
-/

namespace ChildProcess

/-- A program that comes with the machine: what it does when it is executed with
arguments and an environment. -/
abbrev Tool := List Bytes → List Bytes → Program Unit

/-- The number of a node. -/
abbrev NodeId := Nat

/-- What a node is. -/
inductive Content
  | file (bytes : Bytes)
  | directory (entries : OrderedMap Bytes NodeId) (parent : NodeId)
  | link (target : Bytes)
  /-- A device that takes everything, and yields the same byte again and again or
  nothing. -/
  | device (byte? : Option UInt8)
  | tool (main : Tool)
  /-- The directory of processes. -/
  | processes (parent : NodeId)
  deriving Inhabited

namespace Content

/-- Whether names can be looked up in it. -/
def isDirectory : Content → Bool
  | .directory _ _ | .processes _ => true
  | _ => false

/-- Whether it is a file, be it one that comes with the machine. -/
def isFile : Content → Bool
  | .file _ | .tool _ => true
  | _ => false

/-- How many bytes can be read from it. -/
def size : Content → Nat
  | .file bytes => bytes.length
  | .link target => target.length
  | _ => 0

end Content

/-- A node with its permissions. -/
structure Node where
  content : Content
  permissions : Nat
  deriving Inhabited

/-- A tree of nodes, the first of which is its root. -/
structure FileSystem where
  nodes : Array Node
  deriving Inhabited

namespace FileSystem

/-- The root of the tree. -/
def root : NodeId := 0

/-- The usual permissions of a directory or program. -/
def openPermissions : Nat := 0o755

/-- The usual permissions of a file. -/
def filePermissions : Nat := 0o644

/-- The tree that is only a root. -/
def empty : FileSystem :=
  ⟨#[⟨.directory .empty root, openPermissions⟩]⟩

/-- What a node is. -/
def content? (files : FileSystem) (id : NodeId) : Option Content :=
  files.nodes[id]?.map Node.content

/-- Whether names can be looked up in a node. -/
def isDirectory (files : FileSystem) (id : NodeId) : Bool :=
  (files.content? id).any Content.isDirectory

/-- Put other content into a node. -/
def setContent (files : FileSystem) (id : NodeId) (content : Content) : FileSystem :=
  ⟨files.nodes.modify id fun node => { node with content }⟩

/-- Give a name in a directory to a node. -/
def setEntry (files : FileSystem) (directory : NodeId) (name : Bytes)
    (target : NodeId) : FileSystem :=
  match files.content? directory with
  | some (.directory entries parent) =>
      files.setContent directory (.directory (entries.insert name target) parent)
  | _ => files

/-- Add a node under a name in a directory. -/
def add (files : FileSystem) (directory : NodeId) (name : Bytes) (node : Node) :
    FileSystem × NodeId :=
  let id := files.nodes.size
  (FileSystem.setEntry ⟨files.nodes.push node⟩ directory name id, id)

/-- Add an empty directory. -/
def addDirectory (files : FileSystem) (parent : NodeId) (name : Bytes) :
    FileSystem × NodeId :=
  files.add parent name ⟨.directory .empty parent, openPermissions⟩

/-- The name that a directory has in its parent. -/
def nameOf? (files : FileSystem) (parent child : NodeId) : Option Bytes :=
  match files.content? parent with
  | some (.directory entries _) =>
      (entries.entries.find? fun entry => entry.2 == child).map Prod.fst
  | _ => none

/-- The names on the way to a node, from a root downwards. -/
def namesTo (files : FileSystem) (root : NodeId) :
    Nat → NodeId → List Bytes → List Bytes
  | 0, _, below => below
  | levels + 1, id, below =>
      if id = root then below
      else
        match files.content? id with
        | some (.directory _ parent) | some (.processes parent) =>
            namesTo files root levels parent
              (((files.nameOf? parent id).getD []) :: below)
        | _ => below

/-- The path of a directory, as it is called below a root. -/
def pathTo (files : FileSystem) (root id : NodeId) : Bytes :=
  match files.namesTo root files.nodes.size id [] with
  | [] => [Bytes.slash]
  | names => names.flatMap fun name => Bytes.slash :: name

end FileSystem
end ChildProcess
