import ChildProcess.Machine.Run

/-!
# Setting up a machine

A standard machine has the usual directories, the programs that come with it, one
first process, and one process that acts from outside. That process has a directory
of its own, in which things can be put before it starts.
-/

namespace ChildProcess

/-- Something to be put into a directory. -/
inductive Furnishing
  | file (path content : Bytes) (permissions : Nat)
  | directory (path : Bytes)
  | link (path target : Bytes)
  deriving DecidableEq, Repr, Inhabited

namespace Machine

/-! ## Furnishing a directory -/

/-- Go down a list of names, making the directories that are missing. -/
def descend (machine : Machine) (id : ProcessId) (place : Place) :
    List Bytes → Machine × Place
  | [] => (machine, place)
  | name :: rest =>
      match (machine.view id).find place name true with
      | .ok (.present next) => descend machine id next rest
      | .ok (.absent (.node parent) name) =>
          let (fileSystem, fresh) := machine.fileSystem.addDirectory parent name
          descend { machine with fileSystem } id (.node fresh) rest
      | _ => (machine, place)

/-- Put a node under the last of some names. A file that is there already gets the
content of the new one. -/
def putNode (machine : Machine) (id : ProcessId) (place : Place)
    (names : List Bytes) (node : Node) : Machine :=
  match names.getLast? with
  | none => machine
  | some last =>
      let (machine, parent) := machine.descend id place names.dropLast
      match (machine.view id).find parent last true, node.content, parent with
      | .ok (.present (.node found)), .file _, _ =>
          { machine with
            fileSystem := ⟨machine.fileSystem.nodes.modify found fun _ => node⟩ }
      | .ok (.absent (.node directory) name), _, _ =>
          { machine with fileSystem := (machine.fileSystem.add directory name node).1 }
      | _, _, .node directory =>
          { machine with fileSystem := (machine.fileSystem.add directory last node).1 }
      | _, _, _ => machine

/-- Put something into the working directory of a process. -/
def furnish (machine : Machine) (id : ProcessId) (item : Furnishing) : Machine :=
  let place := machine.directory id
  match item with
  | .file path content permissions =>
      machine.putNode id place (View.components path) ⟨.file content, permissions⟩
  | .directory path => (machine.descend id place (View.components path)).1
  | .link path target =>
      machine.putNode id place (View.components path)
        ⟨.link target, FileSystem.openPermissions⟩

/-! ## The standard machine -/

/-- The process that acts from outside. -/
def outsider : ProcessId := 1000

/-- The usual files and directories below the root. -/
def rootFurnishings : List Furnishing :=
  [.directory (Bytes.ofText "usr/bin"),
    .directory (Bytes.ofText "usr/lib"),
    .link (Bytes.ofText "bin") (Bytes.ofText "usr/bin"),
    .link (Bytes.ofText "lib") (Bytes.ofText "usr/lib"),
    .directory (Bytes.ofText "dev"),
    .link (Bytes.ofText "dev/stdin") (Bytes.ofText "/proc/self/fd/0"),
    .link (Bytes.ofText "dev/stdout") (Bytes.ofText "/proc/self/fd/1"),
    .link (Bytes.ofText "dev/stderr") (Bytes.ofText "/proc/self/fd/2"),
    .directory (Bytes.ofText "etc"),
    .file (Bytes.ofText "etc/passwd")
      (Bytes.ofText "root:x:0:0:root:/root:/bin/bash\n") FileSystem.filePermissions,
    .directory (Bytes.ofText "home"),
    .directory (Bytes.ofText "root"),
    .directory (Bytes.ofText "var"),
    .directory (Bytes.ofText "tmp/work")]

/-- The outsider's own directory. -/
def workDirectory : Bytes := Bytes.ofText "/tmp/work"

/-- A machine with nothing but its processes and the root directory. -/
def bare : Machine :=
  let root : Place := .node FileSystem.root
  { fileSystem := .empty
    processes :=
      OrderedMap.empty.insertMany
        [(firstProcess, { parent := 0, directory := root }),
          (outsider,
            { parent := firstProcess
              directory := root
              ignoredSignals := [Signal.pipe] })]
    nextProcess := outsider + 1 }

/-- Put a node below the root. -/
def putBelowRoot (machine : Machine) (path : String) (content : Content) : Machine :=
  machine.putNode outsider (.node FileSystem.root)
    (View.components (Bytes.ofText path)) ⟨content, FileSystem.openPermissions⟩

/-- The standard machine with some programs. -/
def standard (tools : List (String × Tool)) : Machine :=
  let machine := rootFurnishings.foldl (·.furnish outsider ·) bare
  let machine := machine.putBelowRoot "dev/null" (.device none)
  let machine := machine.putBelowRoot "dev/zero" (.device (some 0))
  let machine := machine.putBelowRoot "proc" (.processes FileSystem.root)
  let machine :=
    tools.foldl
      (fun current tool => current.putBelowRoot ("usr/bin/" ++ tool.1) (.tool tool.2))
      machine
  let place := ((machine.view outsider).locate (.node FileSystem.root) workDirectory)
    |>.toOption.getD (.node FileSystem.root)
  machine.modifyProcess outsider fun process => { process with directory := place }

end Machine
end ChildProcess
