import Buildwright.Emission
import Buildwright.Manifest.ManifestFile
import Buildwright.Text.Join

/-!
# Build scripts

A build script generates the builders of a manifest file in one call. What it prints are directives
to the build tool; any error stops the build.
-/

namespace Buildwright

inductive ScriptFault where
  | manifest (e : ManifestFault)
  | declarations (path : Path) (errors : List Diagnostic)
  | emission (e : EmissionFault)
deriving Repr, DecidableEq

namespace ScriptFault

/-- The fault in words; a manifest's fault has its own. -/
def message : ScriptFault → String
  | .manifest e => e.message
  | .declarations path errors =>
    s!"{errors.length} declaration(s) in '{path.text}' could not be generated:\n" ++
      Text.joined "\n" (errors.map Diagnostic.toString)
  | .emission e => e.message

end ScriptFault

/-- What a build script printed, and how it ended. -/
structure ScriptRun where
  directives : List String
  outcome : Except ScriptFault Emission

namespace ScriptRun

def rerunDirective (manifest : Path) : String := s!"cargo:rerun-if-changed={manifest.text}"

def warningDirective (d : Diagnostic) : String := s!"cargo:warning={d.toString}"

end ScriptRun

/-- Reads the manifest file, generates all its builders and writes them below a directory. -/
def compileFile {m : Type → Type} [Monad m] [Disk m] (path dir : Path) : m ScriptRun := do
  let rerun := ScriptRun.rerunDirective path
  match ← ManifestFile.load path with
  | .error e => return ⟨[rerun], .error (.manifest e)⟩
  | .ok file =>
    let c := Compilation.ofManifest file.manifest
    let directives := rerun :: c.warnings.map ScriptRun.warningDirective
    if c.hasErrors then
      return ⟨directives, .error (.declarations path c.errors)⟩
    else
      match ← c.emitTo dir with
      | .error e => return ⟨directives, .error (.emission e)⟩
      | .ok emission => return ⟨directives, .ok emission⟩

end Buildwright
