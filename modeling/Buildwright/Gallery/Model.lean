/-!
# The gallery's model

Small types with functions of every kind, for builders to call. Integers have a width, and a sum
that does not fit panics.
-/

namespace Buildwright.Gallery

inductive Panic where
  | sum
deriving Repr, DecidableEq, Inhabited

def Panic.message : Panic → String
  | .sum => "attempt to add with overflow"

structure Width where
  low : Int
  high : Int
deriving Repr, DecidableEq, Inhabited

namespace Width

def i32 : Width := ⟨-Int.pow 2 31, Int.pow 2 31 - 1⟩

def u32 : Width := ⟨0, Int.pow 2 32 - 1⟩

def add (w : Width) (a b : Int) : Except Panic Int :=
  if w.low ≤ a + b ∧ a + b ≤ w.high then .ok (a + b) else .error .sum

end Width

structure ConfusingSignatures where
  addOffset : Int
deriving Repr, DecidableEq, Inhabited

namespace ConfusingSignatures

def add (s : ConfusingSignatures) (x y z : Int) : Except Panic Int := do
  let a ← Width.i32.add s.addOffset x
  let b ← Width.i32.add a y
  Width.i32.add b z

def concat (left right : String) : String := left ++ right

/-- Whether a map takes a key to a value. -/
def checkContains (map : List (String × Int)) (key : String) (value : Int) : Bool :=
  map.lookup key == some value

def singletonMap (key value : String) : List (String × String) := [(key, value)]

end ConfusingSignatures

structure HasGen where
  which : Nat
deriving Repr, DecidableEq, Inhabited

namespace HasGen

variable {α β : Type}

def pickSome (h : HasGen) (first second third : α) : α :=
  match h.which with
  | 0 => first
  | 1 => second
  | _ => third

def toIterable (into : α → β) (first second third : α) : List β :=
  [into first, into second, into third]

def describe (h : HasGen) (label : String) : String := s!"{label} #{h.which}"

def pickSecond (_first second _third : α) : α := second

def lazyAppend (allButLast : List α) (last : α) : List α := allButLast ++ [last]

end HasGen

structure Container (α : Type) where
  item : α
deriving Repr, DecidableEq, Inhabited

def Container.new {α : Type} (item : α) : Container α := ⟨item⟩

inductive NameFault where
  | missingFamily
  | missingGiven
deriving Repr, DecidableEq, Inhabited

namespace NameFault

def name : NameFault → String
  | .missingFamily => "MissingFamily"
  | .missingGiven => "MissingGiven"

def message : NameFault → String
  | .missingFamily => "family name is required"
  | .missingGiven => "given name is required"

end NameFault

structure Name where
  family : String
  given : String
deriving Repr, DecidableEq, Inhabited

/-- Both parts are required. -/
def Name.new (family given : Option String) : Except NameFault Name :=
  match family, given with
  | none, _ => .error .missingFamily
  | _, none => .error .missingGiven
  | some family, some given => .ok ⟨family, given⟩

structure Tally where
  total : Int
deriving Repr, DecidableEq, Inhabited

/-- Adds to the total, which is also the answer. -/
def Tally.record (t : Tally) (amount : Int) : Except Panic (Int × Tally) := do
  let total ← Width.u32.add t.total amount
  return (total, ⟨total⟩)

end Buildwright.Gallery
