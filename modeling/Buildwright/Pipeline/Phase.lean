import Buildwright.Builder.Synthesis
import Buildwright.Declaration.Extraction
import Buildwright.Pipeline.Lint

/-!
# Phases

A manifest is compiled in phases that each add to what is known about it.
-/

namespace Buildwright

/-- A manifest and what the phases have made of it so far. -/
structure Compilation where
  manifest : Manifest
  callables : List Callable
  builders : List Builder
  diagnostics : List Diagnostic

namespace Compilation

def start (m : Manifest) : Compilation := ⟨m, [], [], []⟩

def errors (c : Compilation) : List Diagnostic := c.diagnostics.filter (·.severity == .error)

def warnings (c : Compilation) : List Diagnostic := c.diagnostics.filter (·.severity == .warning)

def hasErrors (c : Compilation) : Bool := !c.errors.isEmpty

def hasWarnings (c : Compilation) : Bool := !c.warnings.isEmpty

def report (c : Compilation) (d : Diagnostic) : Compilation :=
  { c with diagnostics := c.diagnostics ++ [d] }

def builder? (c : Compilation) (name : String) : Option Builder :=
  c.builders.find? (·.name == name)

end Compilation

/-! ## What the phases do -/

namespace Compilation

def extractPhase : String := "extract"

def synthesizePhase : String := "synthesize"

def repeatedMessage (s : SignatureKey) : String := s!"{s.text} is declared more than once"

/-- What becomes of declarations, given the signatures of earlier ones: callables, and diagnostics
for those that cannot be resolved or repeat an earlier signature. -/
def extractAll : List SignatureKey → List Declaration → List Callable × List Diagnostic
  | _, [] => ([], [])
  | seen, d :: rest =>
    match d.extract with
    | .error e =>
      let (cs, ds) := extractAll seen rest
      (cs, .ofFault extractPhase e :: ds)
    | .ok c =>
      if seen.contains c.signature then
        let (cs, ds) := extractAll seen rest
        (cs, ⟨.error, extractPhase, repeatedMessage c.signature, some c.signature.text⟩ :: ds)
      else
        let (cs, ds) := extractAll (c.signature :: seen) rest
        (c :: cs, ds)

def extract (c : Compilation) : Compilation :=
  let (callables, found) := extractAll [] c.manifest.annotated
  { c with callables, diagnostics := c.diagnostics ++ found }

def buildersOf (cs : List Callable) : List Builder :=
  cs.filterMap fun c => c.generate.toOption

def faultsOf (cs : List Callable) : List Diagnostic :=
  cs.filterMap fun c =>
    match c.generate with
    | .ok _ => none
    | .error e => some (.ofFault synthesizePhase e)

def synthesize (c : Compilation) : Compilation :=
  { c with
    builders := buildersOf c.callables
    diagnostics := c.diagnostics ++ faultsOf c.callables }

def validate (lints : List Lint) (c : Compilation) : Compilation :=
  { c with diagnostics := c.diagnostics ++ lints.flatMap fun l => l.check c.builders }

/-- What the phases make of a manifest, with all lints and nothing else. -/
def ofManifest (m : Manifest) : Compilation := ((start m).extract.synthesize).validate Lint.all

end Compilation

structure Phase where
  name : String
  description : String
  run : Compilation → Except String Compilation

namespace Phase

def extract : Phase where
  name := Compilation.extractPhase
  description := "Discover annotated declarations and resolve their types"
  run c := .ok c.extract

def synthesize : Phase where
  name := Compilation.synthesizePhase
  description := "Resolve type variables and synthesize builder descriptions"
  run c := .ok c.synthesize

def validate (lints : List Lint) : Phase where
  name := validatePhase
  description := "Check synthesized builders for name clashes"
  run c := .ok (c.validate lints)

def builtin (lints : List Lint) : List Phase := [extract, synthesize, validate lints]

end Phase

end Buildwright
