/-!
# Free names

The first of a sequence of candidates that is not taken. Candidates that differ from each other
cannot all be taken, so the search needs no more steps than there are taken names.
-/

namespace Buildwright.Text

/-- The first candidate from the `i`-th on that is not taken, after at most `n` that are. -/
def firstFreeWithin (taken : List String) (candidate : Nat → String) : Nat → Nat → String
  | 0, i => candidate i
  | n + 1, i =>
    if taken.contains (candidate i) then
      firstFreeWithin taken candidate n (i + 1)
    else
      candidate i

def firstFree (taken : List String) (candidate : Nat → String) (i : Nat) : String :=
  firstFreeWithin taken candidate taken.length i

end Buildwright.Text
