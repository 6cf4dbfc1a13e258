import ChildProcess.Shell.State

/-!
# Redirecting descriptors

A redirection lets a descriptor stand for another file or for what another
descriptor stands for. What it stood for before is kept under a high number that
commands do not see, and comes back when the command is done.
-/

namespace ChildProcess
namespace Shell

open Program (perform)

/-- What a redirected descriptor stood for. -/
structure Kept where
  descriptor : Descriptor
  /-- The copy, if the descriptor stood for anything. -/
  copy? : Option Descriptor
  deriving DecidableEq, Repr

namespace Redirection

/-- The lowest number for what is kept from commands. -/
def keptFloor : Descriptor := 10

/-- Copy what a descriptor stands for to a place that commands do not see. -/
def keep (descriptor : Descriptor) : Program Kept := do
  match ← perform (.duplicateFrom descriptor keptFloor) with
  | .error _ => pure ⟨descriptor, none⟩
  | .ok copy => do
      let _ ← perform (.setCloseOnExec copy true)
      pure ⟨descriptor, some copy⟩

/-- Let a descriptor stand for what it stood for before. -/
def restore (kept : Kept) : Program Unit := do
  match kept.copy? with
  | none => do
      let _ ← perform (.close kept.descriptor)
  | some copy => do
      let _ ← perform (.duplicate copy kept.descriptor)
      let _ ← perform (.close copy)

/-- Let descriptors stand for what they stood for before, the last one first. -/
def restoreAll (kept : List Kept) : Program Unit :=
  kept.reverse.forM restore

/-- Forget what descriptors stood for. -/
def forgetAll (kept : List Kept) : Program Unit :=
  (kept.filterMap Kept.copy?).forM fun copy => do
    let _ ← perform (.close copy)

/-- How a target is opened, unless it is a descriptor. -/
def mode? : RedirectionKind → Option OpenMode
  | .read => some { closesOnExec := false }
  | .write => some { OpenMode.replacing with closesOnExec := false }
  | .append =>
      some
        { reads := false
          writes := true
          appends := true
          creates := true
          closesOnExec := false }
  | .readWrite => some { writes := true, creates := true, closesOnExec := false }
  | .duplicate => none

/-- Why a file cannot be opened. -/
def openFailure (target : Text) (mode : OpenMode) (errno : Errno) : String :=
  let isMissing := errno = Errno.ENOENT || errno = Errno.ENOTDIR
  let reason :=
    if !isMissing then errno.message
    else if mode.creates then "Directory nonexistent"
    else "No such file"
  "cannot " ++ (if mode.creates then "create " else "open ")
    ++ String.ofList target ++ ": " ++ reason

/-- Let a descriptor stand for a file. -/
def redirectToFile (descriptor : Descriptor) (target : Text) (mode : OpenMode) :
    Program (Except String Kept) := do
  match ← perform (.openFile (Bytes.ofCharacters target) mode) with
  | .error errno => pure (.error (openFailure target mode errno))
  | .ok file =>
      if file = descriptor then pure (.ok ⟨descriptor, none⟩)
      else do
        let kept ← keep descriptor
        let _ ← perform (.duplicate file descriptor)
        let _ ← perform (.close file)
        pure (.ok kept)

/-- Let a descriptor stand for what another one stands for, or for nothing. -/
def redirectToDescriptor (descriptor : Descriptor) (target : Text) :
    Program (Except String Kept) := do
  match target, Token.number? target with
  | ['-'], _ => do
      let kept ← keep descriptor
      let _ ← perform (.close descriptor)
      pure (.ok kept)
  | _, none => pure (.error "Syntax error: Bad fd number")
  | _, some source => do
      let kept ← keep descriptor
      match ← perform (.duplicate source descriptor) with
      | .ok () => pure (.ok kept)
      | .error errno => do
          restore kept
          pure (.error (toString source ++ ": " ++ errno.message))

/-- Do what a redirection says, the target of which has been expanded. -/
def apply (redirection : Redirection) : Program (Except String Kept) :=
  match mode? redirection.kind with
  | some mode => redirectToFile redirection.descriptor redirection.target mode
  | none => redirectToDescriptor redirection.descriptor redirection.target

/-- Do what redirections say, one after another. If one cannot be done, those before
it are undone. -/
def applyAll : List Redirection → Program (Except String (List Kept))
  | [] => pure (.ok [])
  | first :: rest => do
      match ← apply first with
      | .error reason => pure (.error reason)
      | .ok kept =>
          match ← applyAll rest with
          | .error reason => do
              restore kept
              pure (.error reason)
          | .ok others => pure (.ok (kept :: others))

end Redirection
end Shell
end ChildProcess
