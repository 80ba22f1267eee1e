import Buildwright.Pipeline.Phase
import Buildwright.Report.Page

/-!
# Verdicts

A manifest is valid if compiling it gives no errors.
-/

namespace Buildwright

namespace Builder

def summary (b : Builder) : String :=
  let generics := match b.typeVars with
    | [] => ""
    | vars => "<" ++ Text.joined ", " (vars.map (·.name)) ++ ">"
  b.name ++ generics ++ "::" ++ b.terminalName ++ " -> " ++ b.source.text

end Builder

structure Verdict where
  /-- The manifest's path as it was given. -/
  path : String
  /-- The number of declarations that could be resolved. -/
  declarations : Nat
  diagnostics : List Diagnostic
  builders : List Builder

def Manifest.check (m : Manifest) (path : String) : Verdict :=
  let c := Compilation.ofManifest m
  ⟨path, c.callables.length, c.diagnostics, c.builders⟩

namespace Verdict

def isValid (v : Verdict) : Bool := !v.diagnostics.any fun d => d.severity == .error

def overview (v : Verdict) : Page :=
  let builders := Text.counted v.builders.length "builder"
  let declarations := Text.counted v.declarations "declaration"
  (if v.diagnostics.isEmpty then [] else Page.blank) ++
    Page.line s!"✓ {v.path} is valid" ++ Page.blank ++
    Page.heading s!"{builders} from {declarations}" ++
    v.builders.flatMap fun b => Page.item b.summary

def page (v : Verdict) : Page :=
  Page.ofDiagnostics v.diagnostics ++ if v.isValid then v.overview else []

end Verdict

end Buildwright
