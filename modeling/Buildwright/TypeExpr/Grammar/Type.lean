import Buildwright.TypeExpr.Grammar.Bound

/-!
# The grammar of types
-/

namespace Buildwright.TypeExpr

open Parse

namespace Nested

variable (within : Nested)

def outside (c : Construct) : Parsed := ⟨.other, .error c⟩

/-- A type that starts with a path, and what a path may turn out to be the start of. -/
def pathType (plus bound : Bool) : Parse Parsed := do
  if ← peek (startsMarks ['<']) then
    within.qualifiedPath false
    return outside .qualifiedSelf
  else
    let path ← within.path false
    if path.isPlain && (← peek fun ts => startsMarks ['!'] ts && !startsMarks ['!', '='] ts) then
      skip 1
      anyBrackets
      return outside .otherType
    else if bound || (plus && (← peek (startsMarks ['+']))) then
      let single := !(plus && (← peek (startsMarks ['+'])))
      if plus then
        within.moreBounds
      return ⟨.bounds single, .error .traitObject⟩
    else
      return ⟨.path path.lone, path.value⟩

/-- Bounds behind a type in round brackets; each plus sign has one. -/
def boundsAfter : Parse Unit := do
  if ← peek (startsMarks ['+']) then
    let _ ← many do
      marks ['+']
      let _ ← within.anyBound
      return ((), ← peek (startsMarks ['+']))

/-- A type in round brackets, a tuple, or bounds of which the first one is in brackets. -/
def roundType (plus : Bool) : Parse Parsed := do
  if ← peek fun ts => startsMarks ['?'] (ts.drop 1) then
    let _ ← bracketed .round within.anyBound
    let single := !(← peek (startsMarks ['+']))
    within.boundsAfter
    return ⟨.bounds single, .error .traitObject⟩
  else
    let inner ← bracketed .round do
      if ← peek atEnd then
        return ⟨.other, .ok .unit⟩
      else if ← peek startsLifetime then
        within.objectBounds true
        return outside .traitObject
      else
        let first ← within.type true
        if ← eat [','] then
          let rest ← commaItems (within.type true)
          return ⟨.other, (values ((first :: rest).map Parsed.value)).map .tuple⟩
        else
          return first
    if plus && (← peek (startsMarks ['+'])) then
      match inner.form with
      | .path _ | .bounds true =>
        within.boundsAfter
        return ⟨.bounds false, .error .traitObject⟩
      | _ => return ⟨.other, inner.value⟩
    else
      return ⟨.other, inner.value⟩

def squareType : Parse Parsed :=
  bracketed .square do
    let elem ← within.type true
    if ← eat [';'] then
      match ← within.expr with
      | some n => return ⟨.other, elem.value.map fun t => .array t (toString n)⟩
      | none => return outside .arrayLength
    else
      return outside .slice

def startsNamed (ts : List Token) : Bool :=
  startsWord (fun w => isName w || w == "_") ts

def startsMutSelf (ts : List Token) : Bool :=
  startsWord (· == "mut") ts && startsWord (· == "self") (ts.drop 1)

def startsLabel (first : Bool) (ts : List Token) : Bool :=
  (startsNamed ts || (first && startsWord (· == "self") ts)) &&
    startsMarks [':'] (ts.drop 1) && !startsMarks [':', ':'] (ts.drop 1)

/-- One parameter of a function pointer; the first one may be `mut self`, with a name in front or a
type behind. -/
def pointerParam (first : Bool) : Parse Unit := do
  if ← peek fun ts => first && startsMutSelf ts then
    skip 2
    if ← eat [':'] then
      let _ ← within.type true
  else
    let ofSelf ← peek (startsWord (· == "self"))
    if ← peek (startsLabel first) then
      skip 2
      if ← peek fun ts => first && !ofSelf && startsMutSelf ts then
        skip 2
      else
        let _ ← within.type true
    else
      let _ ← within.type true

/-- The dots that end the parameters of a function pointer, with or without a name. -/
def startsVariadic (ts : List Token) : Bool :=
  startsMarks ['.', '.', '.'] ts ||
    (startsNamed ts && startsMarks [':'] (ts.drop 1) && startsMarks ['.', '.', '.'] (ts.drop 2))

def variadic : Parse Unit := do
  if ← peek startsNamed then
    skip 2
  marks ['.', '.', '.']
  let _ ← eat [',']

def pointerParams (first : Bool) : Parse (Unit × Bool) := do
  within.attributes
  if ← peek startsVariadic then
    variadic
    return ((), false)
  else
    within.pointerParam first
    if ← peek atEnd then
      return ((), false)
    else
      marks [',']
      return ((), !(← peek atEnd))

def functionPointer : Parse Parsed := do
  let _ ← eatWord "unsafe"
  if ← eatWord "extern" then
    if ← peek fun ts => ts.head? == some (.literal .text) then
      skip 1
  word "fn"
  bracketed .round do
    if !(← peek atEnd) then
      let (_, more) ← within.pointerParams true
      if more then
        let _ ← many (within.pointerParams false)
  within.returnType
  return outside .functionPointer

/-- Any type; `plus` if bounds may be added to it. -/
def anyType (plus : Bool) : Parse Parsed := do
  let bound ← within.binder
  if bound then
    require (startsWord fun w =>
      isName w || ["fn", "unsafe", "extern", "super", "self", "Self", "crate"].contains w)
  if ← peek (startsOpening .round) then
    within.roundType plus
  else if ← peek (startsWord fun w => ["fn", "unsafe", "extern"].contains w) then
    within.functionPointer
  else if ← peek fun ts =>
      startsPathWord ts || startsMarks [':', ':'] ts || startsMarks ['<'] ts then
    within.pathType plus bound
  else if ← eatWord "dyn" then
    let starred ← eat ['*']
    within.objectBounds plus
    return outside (if starred then .otherType else .traitObject)
  else if ← peek (startsOpening .square) then
    within.squareType
  else if ← eat ['*'] then
    if !(← eatWord "const") then
      word "mut"
    let _ ← within.type false
    return outside .pointer
  else if ← eat ['&'] then
    if ← peek startsLifetime then
      lifetime
    let _ ← eatWord "mut"
    let _ ← within.type false
    return outside .reference
  else if ← eat ['!'] then
    return outside .never
  else if ← eatWord "impl" then
    within.objectBounds plus
    return outside .implTrait
  else if ← peek startsLifetime then
    within.objectBounds true
    return ⟨.bounds false, .error .traitObject⟩
  else
    word "_"
    return outside .inferred

end Nested

end Buildwright.TypeExpr
