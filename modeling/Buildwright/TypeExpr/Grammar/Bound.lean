import Buildwright.TypeExpr.Grammar.Attribute

/-!
# The grammar of bounds and generic parameters

Bounds stand behind parameters and in trait objects, and the binder in front of a bound declares
parameters in turn.
-/

namespace Buildwright.TypeExpr

open Parse

namespace Nested

variable (within : Nested)

def stopsBounds (ts : List Token) : Bool :=
  atEnd ts || startsMarks [','] ts || startsMarks ['>'] ts

def typeParam : Parse (String × Bool × List BoundForm) := do
  within.attributes
  let name ← nameToken
  let bounds ←
    if ← eat [':'] then
      plusItems within.bound fun ts => stopsBounds ts || startsMarks ['='] ts
    else
      pure []
  if ← eat ['='] then
    let _ ← within.type true
    return (name, true, bounds)
  else
    return (name, false, bounds)

def lifetimeParam : Parse Unit := do
  lifetime
  if ← eat [':'] then
    let _ ← plusItems lifetime stopsBounds

def constParam : Parse Unit := do
  word "const"
  let _ ← nameToken
  marks [':']
  let _ ← within.type true
  if ← eat ['='] then
    within.constArg

def param : Parse Unit := do
  within.attributes
  if ← peek startsLifetime then
    lifetimeParam
  else if ← peek (startsWord (· == "const")) then
    within.constParam
  else
    let _ ← within.typeParam

/-- A binder such as `for<'a>` in front of a bound or type, if there is one. -/
def binder : Parse Bool := do
  if ← eatWord "for" then
    let _ ← angled within.param
    return true
  else
    return false

/-- The round brackets that may follow a path in a bound. -/
def startsRoundArgs (ts : List Token) : Bool :=
  startsOpening .round ts || (startsMarks [':', ':'] ts && startsOpening .round (ts.drop 2))

/-- A trait; it is plain without a question mark and a binder, which exclude each other. -/
def traitBound : Parse BoundForm := do
  let bound ← within.binder
  let relaxed ← eat ['?']
  if relaxed then
    require fun ts => !bound && !startsWord (· == "for") ts
  let path ← within.path false
  let plain := !bound && !relaxed
  if path.endsEmpty && (← peek startsRoundArgs) then
    let _ ← eat [':', ':']
    within.roundArgs
    return .trait plain path.withRoundArgs
  else
    return .trait plain path

def anyBound : Parse BoundForm := do
  if ← peek startsLifetime then
    lifetime
    return .lifetime
  else if ← peek (startsOpening .round) then
    bracketed .round within.traitBound
  else
    within.traitBound

/-- What may follow a plus sign that continues bounds. -/
def startsBound : List Token → Bool
  | .word _ :: _ => true
  | .opening .round :: _ => true
  | .mark '?' _ :: _ => true
  | ts => startsLifetime ts || startsMarks [':', ':'] ts

/-- Further bounds behind plus signs; the last plus sign may stand alone. -/
def moreBounds : Parse Unit := do
  if ← peek (startsMarks ['+']) then
    let _ ← many do
      marks ['+']
      if ← peek startsBound then
        let _ ← within.anyBound
        return ((), ← peek (startsMarks ['+']))
      else
        return ((), false)

/-- The bounds of a trait object or `impl` type, one of which has to be a trait. -/
def objectBounds (plus : Bool) : Parse Unit := do
  let bounds ← many do
    let b ← within.anyBound
    if plus then
      if ← eat ['+'] then
        return (b, ← peek startsBound)
      else
        return (b, false)
    else
      return (b, false)
  require fun _ => bounds.any BoundForm.isTrait

end Nested

end Buildwright.TypeExpr
