import Buildwright.Tree

/-!
# Resolved types

In a resolved type every type variable says which declaration it belongs to: the owner's or the
callable's own.
-/

namespace Buildwright

inductive Scope where
  | owner
  | callable
deriving Repr, DecidableEq, Inhabited

def Scope.text : Scope → String
  | .owner => "owner"
  | .callable => "callable"

structure VarRef where
  scope : Scope
  name : String
deriving Repr, DecidableEq, Inhabited

abbrev Ty := Tree VarRef

namespace Ty

protected def toString (t : Ty) : String := t.text VarRef.name

def hasVars (t : Ty) : Bool := !t.vars.isEmpty

/-- Every variable gets the name that `f` gives it and keeps its scope. -/
def rename (f : VarRef → String) (t : Ty) : Ty :=
  t.bind fun v => .var ⟨v.scope, f v⟩

end Ty

/-- New names of variables; a later entry counts before an earlier one. -/
abbrev Renames := List (VarRef × String)

namespace Renames

def nameOf (renames : Renames) (v : VarRef) : String :=
  (renames.reverse.lookup v).getD v.name

end Renames

end Buildwright
