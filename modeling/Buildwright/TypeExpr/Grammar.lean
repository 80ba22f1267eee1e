import Buildwright.TypeExpr.Grammar.Expression
import Buildwright.TypeExpr.Grammar.Type

/-!
# The grammar

`grammar` ties the knot of the productions, one level per call. What is nested stands
behind at least one token of its own, so the number of tokens bounds the levels.
-/

namespace Buildwright.TypeExpr

def grammar : Nat → Nested
  | 0 => ⟨fun _ => failure, failure, failure⟩
  | n + 1 => ⟨(grammar n).anyType, (grammar n).anyExpr, (grammar n).anyBound⟩

/-- A production that has to use up all tokens. -/
def Parse.whole? (p : Nested → Parse α) (ts : List Token) : Option α :=
  match p (grammar (ts.length + 1)) ts with
  | some (x, []) => some x
  | _ => none

end Buildwright.TypeExpr
