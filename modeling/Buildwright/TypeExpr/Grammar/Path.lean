import Buildwright.TypeExpr.Parse
import Buildwright.TypeExpr.PathForm

/-!
# The grammar of paths

Every production is a function of the readers for what is nested in it.
-/

namespace Buildwright.TypeExpr

/-- What the text around a type may need to know of its form. -/
inductive Form where
  /-- A path; with its name if it has one segment and no `::` in front, and whether angle brackets
  follow that name. -/
  | path (lone : Option (String × Bool))
  /-- Bounds without `dyn` in front; `single` if there is one and no `+`. -/
  | bounds (single : Bool)
  | other
deriving Repr, DecidableEq

structure Parsed where
  form : Form
  value : Value TypeExpr

structure Nested where
  /-- A type; `plus` if bounds may be added to it by `+`. -/
  type (plus : Bool) : Parse Parsed
  /-- An expression; its digits if it is an integer literal alone. -/
  expr : Parse (Option Nat)
  /-- A bound of a parameter or trait object. -/
  bound : Parse BoundForm

open Parse

namespace Nested

variable (within : Nested)

def startsConst (ts : List Token) : Bool := startsLiteral ts || startsOpening .curly ts

/-- A constant: a literal, a name, or an expression in curly brackets. -/
def constArg : Parse Unit := do
  if ← peek startsLiteral then
    let _ ← eat ['-']
    skip 1
  else if ← peek (startsWord isName) then
    skip 1
  else
    let _ ← bracketed .curly within.expr

def returnType : Parse Unit := do
  if ← eat ['-', '>'] then
    let _ ← within.type false

def roundArgs : Parse Unit := do
  let _ ← bracketed .round (commaItems (within.type true))
  within.returnType

def stopsAngled (ts : List Token) : Bool := startsMarks ['>'] ts

def startsGenericArgs (inExpr : Bool) (ts : List Token) : Bool :=
  (!inExpr && startsMarks ['<'] ts && !startsMarks ['<', '='] ts &&
      !startsMarks ['<', '<', '='] ts) ||
    (startsMarks [':', ':'] ts && startsMarks ['<'] (ts.drop 2))

/-- Items between angle brackets, each but the last one before a comma. -/
def angled (item : Parse α) : Parse (List α) := do
  marks ['<']
  let items ←
    if ← peek stopsAngled then
      pure []
    else
      many do
        let x ← item
        if ← peek stopsAngled then
          return (x, false)
        else
          marks [',']
          return (x, !(← peek stopsAngled))
  marks ['>']
  return items

def arg : Parse (Value (Arg Empty)) := do
  if ← peek fun ts => startsLifetime ts && !startsMarks ['+'] (ts.drop 2) then
    lifetime
    return .error .lifetimeArg
  else if ← peek startsConst then
    within.constArg
    return .error .constArg
  else
    let t ← within.type true
    match t.form with
    | .path (some (name, generic)) =>
      if ← eat ['='] then
        if ← peek startsConst then
          within.constArg
          return .error .otherArg
        else
          let bound ← within.type true
          return if generic then .error .otherArg else bound.value.map (.binding name)
      else if ← eat [':'] then
        let _ ← plusItems within.bound fun ts => startsMarks [','] ts || startsMarks ['>'] ts
        return .error .otherArg
      else
        return t.value.map .type
    | _ => return t.value.map .type

def segment (inExpr : Bool) : Parse SegmentForm := do
  if ← peek (startsWord fun w => pathKeywords.contains w && w != "Self") then
    return ⟨← anyWord, .absent⟩
  else
    let ident ← if ← peek (startsWord (· == "Self")) then anyWord else nameToken
    if ← peek (startsGenericArgs inExpr) then
      let _ ← eat [':', ':']
      return ⟨ident, .angled (values (← angled within.arg))⟩
    else
      return ⟨ident, .absent⟩

/-- A path from its first name or leading `::` on. -/
def path (inExpr : Bool) : Parse PathForm := do
  let rooted ← eat [':', ':']
  let segments ← many do
    let s ← within.segment inExpr
    if ← peek fun ts => startsMarks [':', ':'] ts && !startsOpening .round (ts.drop 2) then
      skip 2
      return (s, true)
    else
      return (s, false)
  return ⟨rooted, segments⟩

/-- A path that starts at a type: `<T as Trait>::Item`. -/
def qualifiedPath (inExpr : Bool) : Parse Unit := do
  marks ['<']
  let _ ← within.type true
  if ← eatWord "as" then
    let _ ← within.path false
  marks ['>']
  marks [':', ':']
  let _ ← many do
    let _ ← within.segment inExpr
    return ((), ← eat [':', ':'])

end Nested

end Buildwright.TypeExpr
