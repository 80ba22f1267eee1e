import Buildwright.Emission
import Buildwright.Report.Verdict

/-!
# Generation reports

Nothing is emitted for a manifest with errors. A dry run shows the file instead of writing it.
-/

namespace Buildwright

inductive GenerationResult where
  | written (dir : Path) (emission : Emission)
  | preview (file : Source.Emitted)
deriving Repr, DecidableEq, Inhabited

structure Generation where
  diagnostics : List Diagnostic
  builders : List Builder
  /-- What was emitted, unless there were errors. -/
  result : Option GenerationResult

inductive GenerationFault where
  /-- A file that cannot be shown. -/
  | preview (c : Source.Collision)
  /-- A file that cannot be written. -/
  | emission (e : EmissionFault)
deriving Repr, DecidableEq, Inhabited

namespace GenerationFault

def message : GenerationFault → String
  | .preview c => c.message
  | .emission _ => "Failed to generate code"

def causes : GenerationFault → List String
  | .preview _ => []
  | .emission e => [e.message]

end GenerationFault

/-- Generates the builders of a manifest below a directory, or only shows them. -/
def Manifest.generate {m : Type → Type} [Monad m] [Disk m] (manifest : Manifest) (dir : Path)
    (isDryRun : Bool) : m (Except GenerationFault Generation) := do
  let c := Compilation.ofManifest manifest
  if c.hasErrors then
    return .ok ⟨c.diagnostics, c.builders, none⟩
  else if isDryRun then
    match c.preview with
    | .error e => return .error (.preview e)
    | .ok file => return .ok ⟨c.diagnostics, c.builders, some (.preview file)⟩
  else
    match ← c.emitTo dir with
    | .error e => return .error (.emission e)
    | .ok emission => return .ok ⟨c.diagnostics, c.builders, some (.written dir emission)⟩

namespace Generation

def hasErrors (g : Generation) : Bool := g.diagnostics.any fun d => d.severity == .error

def writtenPage (builders : List Builder) (dir : Path) (e : Emission) : Page :=
  let path := (dir.join ⟨e.file⟩).text
  Page.heading s!"Builders ({builders.length})" ++
    (builders.flatMap fun b => Page.item b.summary) ++ Page.blank ++
    if e.isWritten then Page.heading "Generated" ++ Page.addition path
    else Page.entry "Up to date" path

def previewPage (builders : List Builder) (file : Source.Emitted) : Page :=
  let count := Text.counted builders.length "builder"
  let files := Text.counted 1 "file"
  Page.divider file.path ++ Page.line file.content ++ Page.divider "Summary" ++
    Page.line s!"{count} would be generated into {files}"

def page (g : Generation) : Page :=
  Page.ofDiagnostics g.diagnostics ++
    match g.result with
    | some (.written dir e) => writtenPage g.builders dir e
    | some (.preview file) => previewPage g.builders file
    | none => []

end Generation

end Buildwright
