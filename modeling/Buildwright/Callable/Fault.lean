import Buildwright.Callable

/-!
# Why a declaration gets no builder
-/

namespace Buildwright

inductive GenerateFault where
  | malformed (signature : SignatureKey) (reason : String)
  /-- A variable is mentioned that the builder cannot declare. -/
  | unresolved (signature : SignatureKey) (context : String) (name : String)
  /-- An owner variable that the builder does not declare has a bound that the unit type may not
  satisfy. -/
  | uninstantiable (signature : SignatureKey) (name : String) (bound : String)
deriving Repr, DecidableEq, Inhabited

namespace GenerateFault

def signature : GenerateFault → SignatureKey
  | .malformed s _ => s
  | .unresolved s _ _ => s
  | .uninstantiable s _ _ => s

def kind : GenerateFault → String
  | .malformed .. => "malformed-declaration"
  | .unresolved .. => "unresolved-bound"
  | .uninstantiable .. => "uninstantiable-owner"

def message : GenerateFault → String
  | .malformed s reason => s!"malformed declaration {s.text}: {reason}"
  | .unresolved s context name =>
    s!"unresolved bound in {s.text}: {context} references type variable '{name}', " ++
      "which the builder does not declare"
  | .uninstantiable s name bound =>
    s!"cannot instantiate owner of {s.text}: type variable '{name}' is bound by '{bound}', " ++
      "which `()` is not known to satisfy"

end GenerateFault

end Buildwright
