import Buildwright.Files.Disk

/-!
# Writing files

A rule says what becomes of a file that is there already.
-/

namespace Buildwright

inductive WriteRule where
  | always
  | ifMissing
  | ifChanged
deriving Repr, DecidableEq, Inhabited

inductive WriteOutcome where
  | written
  | skipped
  | unchanged
deriving Repr, DecidableEq, Inhabited

inductive WriteFault where
  /-- The directory for the file could not be made. -/
  | noDirectory (parent : Path)
  | noFile (path : Path)
deriving Repr, DecidableEq, Inhabited

def WriteFault.message : WriteFault → String
  | .noDirectory parent => s!"failed to create '{parent.text}'"
  | .noFile path => s!"failed to write '{path.text}'"

namespace Path

variable {m : Type → Type} [Monad m] [Disk m]

def makeParent (p : Path) : m (Except WriteFault Unit) := do
  match p.parent? with
  | none => return .ok ()
  | some parent =>
    if ← Disk.makeDirectories parent then
      return .ok ()
    else
      return .error (.noDirectory parent)

def putFile (p : Path) (content : String) : m (Except WriteFault WriteOutcome) := do
  match ← p.makeParent with
  | .error e => return .error e
  | .ok () =>
    if ← Disk.put p content then
      return .ok .written
    else
      return .error (.noFile p)

def write (p : Path) (rule : WriteRule) (content : String) :
    m (Except WriteFault WriteOutcome) := do
  match rule with
  | .always => p.putFile content
  | .ifMissing => if ← Disk.isTaken p then return .ok .skipped else p.putFile content
  | .ifChanged =>
    if (← Disk.read? p) == some content then return .ok .unchanged else p.putFile content

end Path

end Buildwright
