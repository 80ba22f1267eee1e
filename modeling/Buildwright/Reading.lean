/-!
# Readers

A reader takes something off the front of a state, or does not apply.
-/

namespace Buildwright

abbrev Reading (σ α : Type) := StateT σ Option α

namespace Reading

/-- As many items as there are, at most `n`; each item tells whether another one follows. -/
def manyWithin (item : Reading σ (α × Bool)) : Nat → Reading σ (List α)
  | 0 => failure
  | n + 1 => do
    let (x, more) ← item
    if more then return x :: (← manyWithin item n) else return [x]

end Reading

end Buildwright
