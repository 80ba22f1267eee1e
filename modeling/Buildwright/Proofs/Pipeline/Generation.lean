import Buildwright.BuildScript
import Buildwright.CommandLine.Run
import Buildwright.Proofs.Builder.Scope
import Buildwright.Proofs.Source.Collision

/-!
# Generating from a manifest file

A build script and the command both read a manifest file, stop at its errors and emit its builders.
They report in ways of their own, but leave the same files behind.
-/

namespace Buildwright

/-- Generates below a directory what a manifest file asks for, or only shows it. -/
def generateFile {m : Type → Type} [Monad m] [Disk m] (path dir : Path) (isDryRun : Bool) :
    m (Except ManifestFault (Except GenerationFault Generation)) := do
  match ← ManifestFile.load path with
  | .error e => return .error e
  | .ok file => return .ok (← file.manifest.generate dir isDryRun)

theorem CommandLine.Command.run_generate {m : Type → Type} [Monad m] [LawfulMonad m] [Disk m]
    (path : Path) (output : Option Path) (isDryRun : Bool) :
    (Command.run (.generate path output isDryRun) : m Result) = do
      match ← generateFile path (output.getD (path.parent?.getD ⟨"."⟩)) isDryRun with
      | .error e => return .manifestFailure e
      | .ok (.error e) => return .failure (e.message :: e.causes)
      | .ok (.ok g) => return .ofPage (if g.hasErrors then 1 else 0) g.page := by
  unfold run withManifest generateFile ManifestFile.load
  simp only [bind_assoc]
  congr 1
  funext content
  cases content with
  | none => simp
  | some content =>
    cases hread : Manifest.read content with
    | error e => simp [hread, Except.map]
    | ok manifest =>
      simp only [hread, Except.map, pure_bind, generateResult, ManifestFile.dir, bind_assoc]
      congr 1
      funext outcome
      cases outcome <;> rfl

namespace FileTree

variable {t t' : FileTree} {path : Path} {c : Compilation}

variable (t path) (dir : Path)

variable {t path}

end FileTree

namespace Manifest

end Manifest

end Buildwright
