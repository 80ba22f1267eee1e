import Buildwright.Files.Disk
import Buildwright.Manifest.Reader

/-!
# Manifest files
-/

namespace Buildwright

structure ManifestFile where
  path : Path
  content : String
  manifest : Manifest

namespace ManifestFile

def load {m : Type → Type} [Monad m] [Disk m] (path : Path) :
    m (Except ManifestFault ManifestFile) := do
  match ← Disk.read? path with
  | none => return .error (.unreadable path.text)
  | some content => return (Manifest.read content).map fun manifest => ⟨path, content, manifest⟩

def dir (f : ManifestFile) : Path := f.path.parent?.getD ⟨"."⟩

end ManifestFile

end Buildwright
