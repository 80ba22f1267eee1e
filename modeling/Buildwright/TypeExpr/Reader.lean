import Buildwright.Tree.Equality
import Buildwright.TypeExpr.Grammar
import Buildwright.TypeExpr.Lexer

/-!
# Reading types, generic parameters and parameters

The three texts of a manifest that hold types, and what can be wrong with them.
-/

namespace Buildwright

/-- Why a text is no type, generic parameter or parameter. The text is the one that was given to the
type grammar as a whole. -/
inductive TypeFault where
  | malformed (input : String)
  | unsupported (construct : TypeExpr.Construct) (input : String)
  | missingColon (input : String)
deriving Repr, DecidableEq

def TypeFault.message : TypeFault → String
  | .malformed input => s!"invalid type syntax '{input}'"
  | .unsupported construct input => s!"unsupported {construct.words} in '{input}'"
  | .missingColon input => s!"expected 'name: Type', found '{input}'"

def TypeExpr.readWith (p : TypeExpr.Nested → TypeExpr.Parse α) (input : String) :
    Except TypeFault α :=
  match (TypeExpr.tokens? input).bind (TypeExpr.Parse.whole? p) with
  | some x => .ok x
  | none => .error (.malformed input)

def TypeExpr.supported (input : String) : TypeExpr.Value α → Except TypeFault α :=
  Except.mapError fun construct => .unsupported construct input

def TypeExpr.read (input : String) : Except TypeFault TypeExpr := do
  let parsed ← TypeExpr.readWith (fun within => within.anyType true) input
  TypeExpr.supported input parsed.value

structure TypeParam where
  name : String
  bounds : List TypeExpr
deriving DecidableEq

namespace TypeParam

/-- Reads a generic parameter. A default is refused before any bound is looked at. -/
def read (input : String) : Except TypeFault TypeParam := do
  let (name, hasDefault, bounds) ← TypeExpr.readWith TypeExpr.Nested.typeParam input
  if hasDefault then
    throw (.unsupported .defaultParam input)
  let bounds ← TypeExpr.supported input (TypeExpr.values (bounds.map (·.value)))
  return ⟨name, bounds⟩

def textOf (name : String) (bounds : List String) : String :=
  match bounds with
  | [] => name
  | _ => name ++ ": " ++ Text.joined " + " bounds

protected def toString (p : TypeParam) : String :=
  textOf p.name (p.bounds.map TypeExpr.toString)

end TypeParam

structure Parameter where
  name : String
  type : TypeExpr
deriving DecidableEq

namespace Parameter

/-- Reads `name: Type`; the first colon ends the name. -/
def read (input : String) : Except TypeFault Parameter := do
  let cs := input.toList
  match cs.dropWhile (· != ':') with
  | [] => throw (.missingColon input)
  | _ :: rest =>
    let type ← TypeExpr.read (Text.trim (String.ofList rest))
    return ⟨Text.trim (String.ofList (cs.takeWhile (· != ':'))), type⟩

protected def toString (p : Parameter) : String := s!"{p.name}: {p.type.toString}"

end Parameter

end Buildwright
