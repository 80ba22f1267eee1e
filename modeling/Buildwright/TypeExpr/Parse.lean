import Buildwright.Reading
import Buildwright.TypeExpr.Token

/-!
# Productions over tokens

The words and marks that productions look for, brackets, and lists between separators.
-/

namespace Buildwright.TypeExpr

/-- A production of the grammar: it takes tokens off the front, or does not apply. -/
abbrev Parse := Reading (List Token)

namespace Parse

def peek (p : List Token → Bool) : Parse Bool := fun ts => some (p ts, ts)

/-- The tokens start with the marks `cs`, run together. -/
def startsMarks : List Char → List Token → Bool
  | [], _ => true
  | [c], .mark d _ :: _ => c == d
  | c :: cs, .mark d true :: ts => c == d && startsMarks cs ts
  | _, _ => false

def startsWord (p : String → Bool) : List Token → Bool
  | .word w :: _ => p w
  | _ => false

def startsOpening (b : Bracket) : List Token → Bool
  | .opening b' :: _ => b == b'
  | _ => false

def startsLifetime : List Token → Bool
  | .apostrophe :: .word _ :: _ => true
  | _ => false

def atEnd : List Token → Bool
  | [] => true
  | .closing _ :: _ => true
  | _ => false

def require (p : List Token → Bool) : Parse Unit := fun ts => if p ts then some ((), ts) else none

def skip (n : Nat) : Parse Unit := fun ts => some ((), ts.drop n)

/-- Takes the marks if they come next, and tells whether it did. -/
def eat (cs : List Char) : Parse Bool := fun ts =>
  if startsMarks cs ts then some (true, ts.drop cs.length) else some (false, ts)

def marks (cs : List Char) : Parse Unit := fun ts =>
  if startsMarks cs ts then some ((), ts.drop cs.length) else none

def word (w : String) : Parse Unit := fun ts =>
  if startsWord (· == w) ts then some ((), ts.drop 1) else none

def eatWord (w : String) : Parse Bool := fun ts =>
  if startsWord (· == w) ts then some (true, ts.drop 1) else some (false, ts)

def anyWord : Parse String
  | .word w :: ts => some (w, ts)
  | _ => none

def lifetime : Parse Unit
  | .apostrophe :: .word _ :: ts => some ((), ts)
  | _ => none

def bracketed (b : Bracket) (body : Parse α) : Parse α := do
  require (startsOpening b)
  skip 1
  let x ← body
  require fun ts => match ts with
    | .closing b' :: _ => b == b'
    | _ => false
  skip 1
  return x

/-- At least one item; every item takes a token, so the number of tokens is enough. -/
def many (item : Parse (α × Bool)) : Parse (List α) := fun ts =>
  Reading.manyWithin item (ts.length + 1) ts

end Parse

open Parse

def keywords : List String :=
  ["_", "abstract", "as", "async", "await", "become", "box", "break", "const", "continue",
    "crate", "do", "dyn", "else", "enum", "extern", "false", "final", "fn", "for", "if", "impl",
    "in", "let", "loop", "macro", "match", "mod", "move", "mut", "override", "priv", "pub", "ref",
    "return", "Self", "self", "static", "struct", "super", "trait", "true", "try", "type",
    "typeof", "unsafe", "unsized", "use", "virtual", "where", "while", "yield"]

def isName (w : String) : Bool := !keywords.contains w

def pathKeywords : List String := ["super", "self", "Self", "crate"]

def startsPathWord : List Token → Bool :=
  startsWord fun w => isName w || pathKeywords.contains w

def startsLiteral : List Token → Bool
  | .literal _ :: _ => true
  | .word w :: _ => w == "true" || w == "false"
  | .mark '-' _ :: .literal (.integer ..) :: _ => true
  | .mark '-' _ :: .literal (.decimal _) :: _ => true
  | _ => false

def nameToken : Parse String := do
  require (startsWord isName)
  anyWord

/-- Items between round brackets, each but the last one before a comma. -/
def commaItems (item : Parse α) : Parse (List α) := do
  if ← peek atEnd then
    return []
  else
    many do
      let x ← item
      if ← peek atEnd then
        return (x, false)
      else
        marks [',']
        return (x, !(← peek atEnd))

/-- Items up to a stop, each but the last one before a plus sign. -/
def plusItems (item : Parse α) (stop : List Token → Bool) : Parse (List α) := do
  if ← peek stop then
    return []
  else
    many do
      let x ← item
      if ← eat ['+'] then
        return (x, !(← peek stop))
      else
        return (x, false)

/-- The tokens after a balanced bracketed part, whatever it holds. -/
def afterBrackets : Nat → List Token → Option (List Token)
  | depth, .opening _ :: ts => afterBrackets (depth + 1) ts
  | 1, .closing _ :: ts => some ts
  | depth + 2, .closing _ :: ts => afterBrackets (depth + 1) ts
  | depth + 1, _ :: ts => afterBrackets (depth + 1) ts
  | _, _ => none

def anyBrackets : Parse Unit := fun ts => (afterBrackets 0 ts).map fun rest => ((), rest)

def startsAnyOpening : List Token → Bool
  | .opening _ :: _ => true
  | _ => false

end Buildwright.TypeExpr
