import Buildwright.TypeExpr.Grammar.Attribute

/-!
# The grammar of expressions

The expressions that array lengths, constants and attributes hold. Of an expression only the value
of a lone integer literal is kept.
-/

namespace Buildwright.TypeExpr

open Parse

def afterPrefixOps : List Token → List Token
  | .mark '&' _ :: .word "mut" :: ts => afterPrefixOps ts
  | .mark '&' _ :: ts => afterPrefixOps ts
  | .mark '*' _ :: ts => afterPrefixOps ts
  | .mark '!' _ :: ts => afterPrefixOps ts
  | .mark '-' _ :: ts => afterPrefixOps ts
  | ts => ts

/-- How a binary operator stands to comparisons, which cannot be chained. -/
inductive Binding where
  | tighter
  | comparison
  | looser
deriving DecidableEq

/-- The binary operators, longer ones before those that they start with. -/
def operators : List (String × Binding) :=
  [("+=", .looser), ("-=", .looser), ("*=", .looser), ("/=", .looser), ("%=", .looser),
    ("^=", .looser), ("&=", .looser), ("|=", .looser), ("<<=", .looser), (">>=", .looser),
    ("&&", .looser), ("||", .looser), ("<<", .tighter), (">>", .tighter), ("==", .comparison),
    ("<=", .comparison), ("!=", .comparison), (">=", .comparison), ("+", .tighter),
    ("-", .tighter), ("*", .tighter), ("/", .tighter), ("%", .tighter), ("^", .tighter),
    ("&", .tighter), ("|", .tighter), ("<", .comparison), (">", .comparison)]

def operator? : Parse (Option Binding) := fun ts =>
  match operators.find? fun (op, _) => startsMarks op.toList ts with
  | some (op, binding) => some (some binding, ts.drop op.length)
  | none => some (none, ts)

def isPlace (n : Nat) : Bool := n < Nat.pow 2 32

def isWrittenPlace (cs : List Char) : Bool :=
  cs.all (fun c => c.isDigit || c == '_') &&
    isPlace ((cs.filter Char.isDigit).foldl (fun n c => 10 * n + (c.toNat - 48)) 0)

/-- A number such as `0.1` behind a point gives places in nested tuples; tells whether it did, which
leaves out a number that ends in a point of its own. -/
def places : Parse Bool
  | .literal (.decimal written) :: ts =>
    let whole := written.toList.takeWhile (· != '.')
    let fraction := written.toList.drop (whole.length + 1)
    if isWrittenPlace whole && isWrittenPlace fraction then
      some (!fraction.isEmpty, ts)
    else
      none
  | ts => some (false, ts)

/-- A member by name or by place; tells whether it is a name. -/
def member : Parse Bool
  | .word w :: ts => if isName w then some (true, ts) else none
  | .literal (.integer n "") :: ts => if isPlace n then some (false, ts) else none
  | _ => none

namespace Nested

variable (within : Nested)

def field : Parse Unit := do
  within.attributes
  let named ← member
  if !named || (← peek (startsMarks [':'])) then
    marks [':']
    let _ ← within.expr

/-- The fields of a struct; two points, with or without the struct that the others are from, come
last. -/
def fields : Parse Unit := do
  if !(← peek atEnd) then
    let _ ← many do
      if ← eat ['.', '.'] then
        if !(← peek atEnd) then
          let _ ← within.expr
        return ((), false)
      else
        within.field
        if ← peek atEnd then
          return ((), false)
        else
          marks [',']
          return ((), !(← peek atEnd))

def structBody : Parse Unit := do
  if ← peek (startsOpening .curly) then
    bracketed .curly within.fields

def atom : Parse (Option Nat) := do
  match ← StateT.get with
  | .literal (.integer n _) :: _ =>
    skip 1
    return some n
  | .literal _ :: _ =>
    skip 1
    return none
  | .opening .round :: _ =>
    let _ ← bracketed .round (commaItems within.expr)
    return none
  | .opening .curly :: _ =>
    let _ ← bracketed .curly within.expr
    return none
  | ts =>
    if startsWord (fun w => w == "true" || w == "false") ts then
      skip 1
    else if startsMarks ['<'] ts then
      within.qualifiedPath true
      within.structBody
    else
      require fun ts => startsPathWord ts || startsMarks [':', ':'] ts
      let path ← within.path true
      if path.isPlain && (← peek fun ts => startsMarks ['!'] ts && !startsMarks ['!', '='] ts) then
        skip 1
        anyBrackets
      else
        within.structBody
    return none

/-- A call, an index or a member behind an expression, if there is one. -/
def trailer : Parse Bool := do
  if ← peek (startsOpening .round) then
    let _ ← bracketed .round (commaItems within.expr)
    return true
  else if ← peek (startsOpening .square) then
    let _ ← bracketed .square within.expr
    return true
  else if ← peek fun ts => startsMarks ['.'] ts && !startsMarks ['.', '.'] ts &&
      !startsWord (· == "await") (ts.drop 1) then
    skip 1
    if !(← places) then
      let named ← member
      if named then
        if ← eat [':', ':'] then
          let _ ← angled within.arg
          require (startsOpening .round)
    return true
  else
    return false

/-- An operand; its digits if it is an integer literal alone. -/
def operand : Parse (Option Nat) := do
  let before ← StateT.get
  StateT.set (afterPrefixOps before)
  let after ← StateT.get
  let value ← within.atom
  let trailers ← many do
    let more ← within.trailer
    return (more, more)
  return if after.length == before.length && trailers == [false] then value else none

/-- The operations behind an operand. A comparison of comparisons is refused. -/
def operationsWithin : Nat → Bool → Parse Bool
  | 0, _ => failure
  | n + 1, compared => do
    match ← operator? with
    | some binding =>
      require fun _ => !(compared && binding == .comparison)
      let _ ← within.operand
      let _ ← operationsWithin n (binding == .comparison || (compared && binding == .tighter))
      return true
    | none =>
      if ← eatWord "as" then
        let _ ← within.type false
        let _ ← operationsWithin n compared
        return true
      else
        return false

def anyExpr : Parse (Option Nat) := do
  let value ← within.operand
  let operated ← fun ts => operationsWithin within (ts.length + 1) false ts
  return if operated then none else value

end Nested

end Buildwright.TypeExpr
