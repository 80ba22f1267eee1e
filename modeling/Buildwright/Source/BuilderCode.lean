import Buildwright.Builder
import Buildwright.Source.Item
import Buildwright.Source.Names
import Buildwright.Text.Fresh

/-!
# Builders as source

The emitted builder is first laid out: which fields its struct has, what its constructor stores,
what each setter assigns and what the terminal method calls. The items are written from the layout.
-/

namespace Buildwright.Source

def zeroText : ZeroValue → String
  | .integer => "0"
  | .float => "0.0"
  | .bool => "false"
  | .char => "'\\0'"
  | .absent => "None"
  | .default => "Default::default()"

def markerText : String := "std::marker::PhantomData"

/-- A name with as few underscores behind it as keep it apart from the taken ones. -/
def unusedName (base : String) (taken : List String) : String :=
  Text.firstFree taken (fun n => base ++ Text.repeated n "_") 0

structure Slot where
  name : String
  ty : String
  zero : ZeroValue
deriving Inhabited

structure SetterCode where
  method : String
  field : String
  ty : String
deriving Inhabited

/-- The method that ends the building: what it calls, with which fields, and what it returns. -/
structure TerminalCode where
  method : String
  isMutable : Bool
  callee : Callee
  args : List String
  returns : Option String
deriving Inhabited

structure BuilderCode where
  source : String
  typeName : String
  generics : List Generic
  derives : List String
  /-- The field of the instance, with its type. -/
  receiver : Option (String × String)
  slots : List Slot
  /-- The field that mentions variables which no other field mentions, with its type. -/
  marker : Option (String × String)
  /-- What `new` demands of the types of fields. -/
  defaults : List String
  setters : List SetterCode
  terminal : TerminalCode
deriving Inhabited

def slotNames (b : Builder) : List String := b.fields.map fun f => fieldName f.name

def receiverName (b : Builder) : String := unusedName "receiver" (slotNames b)

def markerName (b : Builder) : String := unusedName "_marker" (slotNames b)

def genericOf (v : BuilderVar) : Generic := ⟨v.name, v.bounds.map Ty.toString⟩

/-- The generic parameters of the struct: the declared variables, then those of the receiver. -/
def genericsOf (b : Builder) : List Generic :=
  (b.typeVars ++ (b.receiver.map (·.erased)).getD []).map genericOf

def markerType (phantom : List String) : Option String :=
  match phantom with
  | [] => none
  | [name] => some ("std::marker::PhantomData<fn() -> " ++ name ++ ">")
  | names => some ("std::marker::PhantomData<fn() -> (" ++ Text.joined ", " names ++ ")>")

def distinct : List String → List String
  | [] => []
  | s :: rest => s :: (distinct rest).filter (· != s)

/-- The fields whose default value depends on type variables, as predicates on their types. -/
def defaultBounds (b : Builder) : List String :=
  distinct ((b.fields.filter fun f => f.zero.needsDefault && f.ty.hasVars).map fun f =>
    f.ty.toString ++ ": Default")

def calleeOf (b : Builder) : Callee :=
  match b.terminal.target with
  | .method name => .method (receiverName b) name
  | .associated owner function =>
    .function <|
      (if owner.hasArgs then "<" ++ owner.toString ++ ">" else owner.toString) ++ "::" ++ function

def setterCode? (b : Builder) (s : Setter) : Option SetterCode :=
  (b.field? s.field).map fun f => ⟨methodName s.name, fieldName f.name, f.ty.toString⟩

def terminalCode (b : Builder) : TerminalCode :=
  { method := methodName b.terminalName
    isMutable := b.receiver.map (·.mode) == some .refMut
    callee := calleeOf b
    args := b.terminal.args.map fieldName
    returns := if b.terminal.result.isUnit then none else some b.terminal.result.toString }

def layOut (b : Builder) (deriveDebug : Bool) : BuilderCode :=
  { source := b.source.text
    typeName := typeName b.name
    generics := genericsOf b
    derives := if deriveDebug then ["Debug"] else []
    receiver := b.receiver.map fun r => (receiverName b, r.ty.toString)
    slots := b.fields.map fun f => ⟨fieldName f.name, f.ty.toString, f.zero⟩
    marker := (markerType b.phantom).map fun ty => (markerName b, ty)
    defaults := defaultBounds b
    setters := b.setters.filterMap (setterCode? b)
    terminal := terminalCode b }

namespace BuilderCode

def structFields (c : BuilderCode) : List (String × String) :=
  c.receiver.toList ++ c.slots.map (fun s => (s.name, s.ty)) ++ c.marker.toList

def struct (c : BuilderCode) : Struct :=
  { name := c.typeName, generics := c.generics, doc := some ("Builder for `" ++ c.source ++ "`.")
    derives := c.derives, fields := c.structFields }

/-- What `new` writes for the fields; the instance is a parameter. -/
def inits (c : BuilderCode) : List (String × Option String) :=
  c.receiver.toList.map (fun (name, _) => (name, none)) ++
    c.slots.map (fun s => (s.name, some (zeroText s.zero))) ++
    c.marker.toList.map fun (name, _) => (name, some markerText)

def constructor (c : BuilderCode) : Function :=
  { name := "new"
    doc := some <|
      if c.receiver.isSome then
        "Starts a builder for the given instance with every argument at its zero value."
      else
        "Starts a builder with every argument at its zero value."
    isPublic := true
    params := c.receiver.toList.map fun (name, ty) => .named name ty
    returns := some "Self"
    wheres := c.defaults
    body := [.construct c.inits] }

def setter (s : SetterCode) : Function :=
  { name := s.method, doc := none, isPublic := true
    params := [.receiver true, .named s.field s.ty]
    returns := some "Self", wheres := []
    body := [.assign s.field s.field, .self] }

def terminalMethod (c : BuilderCode) : Function :=
  { name := c.terminal.method
    doc := some ("Calls `" ++ c.source ++ "` with the collected arguments.")
    isPublic := true
    params := [.receiver c.terminal.isMutable]
    returns := c.terminal.returns
    wheres := []
    body := [.call c.terminal.callee c.terminal.args] }

def methods (c : BuilderCode) : List Function :=
  [c.constructor] ++ c.setters.map setter ++ [c.terminalMethod]

def inherentImpl (c : BuilderCode) : Impl :=
  { name := c.typeName, generics := c.generics, trait := none, methods := c.methods }

/-- A builder that needs nothing to start has a default. -/
def hasDefault (c : BuilderCode) : Bool := c.receiver.isNone && c.defaults.isEmpty

def method? (c : BuilderCode) (name : String) : Option Function :=
  c.inherentImpl.methods.find? (·.name == name)

def defaultImpl (c : BuilderCode) : Impl :=
  { name := c.typeName, generics := c.generics, trait := some "Default"
    methods := [{
      name := "default", doc := none, isPublic := false, params := [], returns := some "Self"
      wheres := [], body := [.call (.function "Self::new") []] }] }

def fragments (c : BuilderCode) : List Fragment :=
  c.struct.fragments ++ .blank :: c.inherentImpl.fragments ++
    (if c.hasDefault then .blank :: c.defaultImpl.fragments else [])

end BuilderCode

end Buildwright.Source
