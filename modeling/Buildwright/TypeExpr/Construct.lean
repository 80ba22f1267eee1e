/-!
# Constructs that trees leave out

A type is read in full even where it goes beyond what a tree can hold. Its value is the tree, or the
first construct that has none.
-/

namespace Buildwright.TypeExpr

/-- A construct of type text that trees leave out. -/
inductive Construct where
  | qualifiedSelf
  | arrayLength
  | reference
  | slice
  | pointer
  | functionPointer
  | traitObject
  | implTrait
  | inferred
  | never
  | otherType
  | parenthesizedArgs
  | lifetimeArg
  | constArg
  | otherArg
  | defaultParam
  | boundModifier
  | lifetimeBound
deriving Repr, DecidableEq

def Construct.words : Construct → String
  | .qualifiedSelf => "qualified self type"
  | .arrayLength => "non-literal array length"
  | .reference => "reference type"
  | .slice => "slice type"
  | .pointer => "raw pointer"
  | .functionPointer => "function pointer"
  | .traitObject => "trait object"
  | .implTrait => "impl trait"
  | .inferred => "inferred type"
  | .never => "never type"
  | .otherType => "type"
  | .parenthesizedArgs => "parenthesized arguments"
  | .lifetimeArg => "lifetime argument"
  | .constArg => "const argument"
  | .otherArg => "generic argument"
  | .defaultParam => "default type parameter"
  | .boundModifier => "bound modifier"
  | .lifetimeBound => "lifetime bound"

/-- A value in the supported part of the grammar, or the first construct outside of it. -/
abbrev Value (α : Type) := Except Construct α

def values : List (Value α) → Value (List α)
  | [] => .ok []
  | v :: rest => do return (← v) :: (← values rest)

end Buildwright.TypeExpr
