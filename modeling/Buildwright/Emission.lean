import Buildwright.Files.Writing
import Buildwright.Pipeline.Phase
import Buildwright.Source.BuildersFile

/-!
# Emission

The builders of a compilation become one file, which is written only if that changes it.
-/

namespace Buildwright

inductive EmissionFault where
  | collision (c : Source.Collision)
  | unwritten (e : WriteFault)
deriving Repr, DecidableEq, Inhabited

def EmissionFault.message : EmissionFault → String
  | .collision c => c.message
  | .unwritten e => e.message

structure Emission where
  /-- The file's path below the output directory. -/
  file : String
  /-- Whether the file had to be written. -/
  isWritten : Bool
  /-- The number of builders in it. -/
  builders : Nat
deriving Repr, DecidableEq, Inhabited

namespace Compilation

def preview (c : Compilation) : Except Source.Collision Source.Emitted :=
  Source.emit c.manifest.generator c.builders

def emitTo {m : Type → Type} [Monad m] [Disk m] (c : Compilation) (dir : Path) :
    m (Except EmissionFault Emission) := do
  match c.preview with
  | .error e => return .error (.collision e)
  | .ok file =>
    match ← (dir.join ⟨file.path⟩).write .ifChanged file.content with
    | .error e => return .error (.unwritten e)
    | .ok outcome => return .ok ⟨file.path, outcome != .unchanged, c.builders.length⟩

end Compilation

end Buildwright
