import Buildwright.Callable

/-!
# Builders

A builder has a field and a setter for every parameter of its callable, and a terminal method that
calls it with what the fields hold. Names here are neutral; the emitter gives them their shape.
-/

namespace Buildwright

structure BuilderVar where
  name : String
  origin : Scope
  bounds : List Ty
deriving Inhabited

structure ReceiverSlot where
  mode : ReceiverMode
  ty : Ty
  /-- Variables of the receiver that the builder's own types mention. -/
  typeVars : List String
  /-- Variables that only the receiver mentions. -/
  erased : List BuilderVar
deriving Inhabited

/-- What a field holds before its setter is called. -/
inductive ZeroValue where
  | integer
  | float
  | bool
  | char
  | absent
  | default
deriving Repr, DecidableEq, Inhabited

namespace ZeroValue

def all : List ZeroValue := [.integer, .float, .bool, .char, .absent, .default]

def text : ZeroValue → String
  | .integer => "integer"
  | .float => "float"
  | .bool => "bool"
  | .char => "char"
  | .absent => "absent"
  | .default => "default"

def ofText? (s : String) : Option ZeroValue := all.find? (·.text == s)

def integerTypes : List String :=
  ["i8", "i16", "i32", "i64", "i128", "isize", "u8", "u16", "u32", "u64", "u128", "usize"]

/-- Numbers are zero, truth values false, characters NUL, options absent; every other type has to
have a default. -/
def ofType (t : Ty) : ZeroValue :=
  match t.name? with
  | some "f32" => .float
  | some "f64" => .float
  | some "bool" => .bool
  | some "char" => .char
  | some name =>
    if integerTypes.contains name then .integer else .default
  | none =>
    match t.lastSegment? with
    | some (.mk "Option" [_]) => .absent
    | _ => .default

def needsDefault (z : ZeroValue) : Bool := z == .default

end ZeroValue

structure Field where
  name : String
  ty : Ty
  zero : ZeroValue
deriving Inhabited

structure Setter where
  name : String
  field : String
deriving Inhabited

inductive Target where
  | method (name : String)
  | associated (owner : Ty) (function : String)
deriving Inhabited

/-- The call that ends the building: the target, the fields passed in order, and the result. -/
structure Terminal where
  target : Target
  args : List String
  result : Ty
deriving Inhabited

structure Builder where
  name : String
  source : SignatureKey
  typeVars : List BuilderVar
  receiver : Option ReceiverSlot
  fields : List Field
  setters : List Setter
  terminalName : String
  terminal : Terminal
  /-- Declared variables that no field and no receiver mentions. -/
  phantom : List String
deriving Inhabited

namespace Builder

/-- The field of a name, the first one if there are several. -/
def field? (b : Builder) (name : String) : Option Field :=
  b.fields.find? (·.name == name)

end Builder

end Buildwright
