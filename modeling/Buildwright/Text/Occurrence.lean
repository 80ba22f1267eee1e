/-!
# Occurrences of a text in another
-/

namespace Buildwright.Text

/-- Where the pattern occurs, in bytes from `offset` on, after the next `skip` characters. Places
where it would overlap an earlier occurrence do not count. -/
def occurrencesFrom (pattern : List Char) (offset : Nat) : Nat → List Char → List Nat
  | _, [] => []
  | skip + 1, c :: rest => occurrencesFrom pattern (offset + c.utf8Size) skip rest
  | 0, c :: rest =>
    if pattern.isPrefixOf (c :: rest) then
      offset :: occurrencesFrom pattern (offset + c.utf8Size) (pattern.length - 1) rest
    else
      occurrencesFrom pattern (offset + c.utf8Size) 0 rest

/-- Where a pattern that is not empty occurs in a text, from left to right. -/
def occurrences (pattern source : String) : List Nat :=
  occurrencesFrom pattern.toList 0 0 source.toList

end Buildwright.Text
