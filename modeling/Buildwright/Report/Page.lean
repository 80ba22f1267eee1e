import Buildwright.Pipeline.Diagnostic
import Buildwright.Text.Join

/-!
# Pages

What a report prints, line by line, on two streams: results and problems.
-/

namespace Buildwright

inductive Channel where
  | results
  | problems
deriving Repr, DecidableEq, Inhabited

structure Line where
  channel : Channel
  text : String
deriving Repr, DecidableEq, Inhabited

abbrev Page := List Line

namespace Page

def line (s : String) : Page := [⟨.results, s⟩]

def blank : Page := line ""

/-- A title with a rule of its width under it. -/
def title (s : String) : Page := line s ++ line (Text.repeated s.length "=")

def heading (s : String) : Page := line (s ++ ":")

def entry (key value : String) : Page := line (key ++ ": " ++ value)

def item (s : String) : Page := line ("  - " ++ s)

def addition (s : String) : Page := line ("  + " ++ s)

def divider (label : String) : Page := line ("── " ++ label ++ " ──")

/-- Each diagnostic with the place that it is about; remarks are results. -/
def ofDiagnostic (d : Diagnostic) : Page :=
  let said := d.message ++
    match d.location with
    | some place => "\n  --> " ++ place
    | none => ""
  match d.severity with
  | .error => [⟨.problems, "error: " ++ said⟩]
  | .warning => [⟨.problems, "warning: " ++ said⟩]
  | .info => line ("info: " ++ said)

def ofDiagnostics (ds : List Diagnostic) : Page := ds.flatMap ofDiagnostic

def text (p : Page) (channel : Channel) : String :=
  Text.lines ((p.filter fun l => l.channel == channel).map (·.text))

end Page

end Buildwright
