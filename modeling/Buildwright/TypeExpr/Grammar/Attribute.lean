import Buildwright.TypeExpr.Grammar.Path

/-!
# The grammar of attributes

An attribute is read and then dropped: no tree has a place for it.
-/

namespace Buildwright.TypeExpr

open Parse

namespace Nested

variable (within : Nested)

/-- The path of an attribute: bare names, or the keyword `unsafe` alone. -/
def attributePath : Parse Unit := do
  if !(← eatWord "unsafe") then
    let _ ← eat [':', ':']
    let _ ← many do
      require startsPathWord
      skip 1
      return ((), ← eat [':', ':'])

def attributeBody : Parse Unit := do
  attributePath
  if ← peek startsAnyOpening then
    anyBrackets
  else if ← eat ['='] then
    let _ ← within.expr

def attributes : Parse Unit := do
  if ← peek (startsMarks ['#']) then
    let _ ← many do
      marks ['#']
      bracketed .square within.attributeBody
      return ((), ← peek (startsMarks ['#']))

end Nested

end Buildwright.TypeExpr
