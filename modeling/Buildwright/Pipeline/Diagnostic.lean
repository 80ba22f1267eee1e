import Buildwright.Callable.Fault

/-!
# Diagnostics
-/

namespace Buildwright

inductive Severity where
  | error
  | warning
  | info
deriving Repr, DecidableEq, Inhabited

def Severity.text : Severity → String
  | .error => "error"
  | .warning => "warning"
  | .info => "info"

/-- Something that a phase has to say, with the place it is about if there is one. -/
structure Diagnostic where
  severity : Severity
  phase : String
  message : String
  location : Option String
deriving Repr, DecidableEq, Inhabited

namespace Diagnostic

protected def toString (d : Diagnostic) : String :=
  d.severity.text ++ ": " ++ d.message ++
    match d.location with
    | some l => " (at " ++ l ++ ")"
    | none => ""

def ofFault (phase : String) (e : GenerateFault) : Diagnostic :=
  ⟨.error, phase, e.message, some e.signature.text⟩

end Diagnostic

end Buildwright
