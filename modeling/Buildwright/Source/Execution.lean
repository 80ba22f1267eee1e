import Buildwright.Source.BuilderCode

/-!
# Running emitted code

What the functions of an emitted struct do, for values of any kind: their bodies are carried out
statement by statement. A builder is what the fields of its struct hold. A function gives a builder
back, or it ends in the call of a function that is not part of the emitted code.

Where the emitted code makes no sense there is no result: a parameter or field that does not exist,
an assignment to an instance that cannot be changed, or a wrong number of arguments.
-/

namespace Buildwright.Source

abbrev Store (α : Type) := List (String × α)

variable {α : Type}

namespace Store

def set (store : Store α) (field : String) (value : α) : Store α :=
  store.map fun (name, old) => (name, if name == field then value else old)

/-- Only a field that is there can be assigned to. -/
def set? (store : Store α) (field : String) (value : α) : Option (Store α) :=
  (store.lookup field).map fun _ => store.set field value

end Store

/-- How a function ends: with a builder, or with the call of a method or function. -/
inductive Outcome (α : Type) where
  | builder (store : Store α)
  | method (on : α) (name : String) (args : List α)
  | function (path : String) (args : List α)

def Outcome.builder? : Outcome α → Option (Store α)
  | .builder store => some store
  | _ => none

def Callee.call? (store : Store α) (args : List α) : Callee → Option (Outcome α)
  | .method field name => (store.lookup field).map fun on => .method on name args
  | .function path => some (.function path args)

/-- What a body can use: the instance, if there is one, and the parameters. -/
structure Frame (α : Type) where
  self : Option (Store α)
  isMutable : Bool
  locals : Store α

def bind? : List Formal → List α → Option (Store α)
  | [], [] => some []
  | .named name _ :: params, value :: args => (bind? params args).map ((name, value) :: ·)
  | _, _ => none

namespace Function

def enter? (f : Function) (self : Option (Store α)) (args : List α) : Option (Frame α) :=
  match self, f.params with
  | none, params => (bind? params args).map fun locals => ⟨none, false, locals⟩
  | some store, .receiver isMutable :: params =>
    (bind? params args).map fun locals => ⟨some store, isMutable, locals⟩
  | some _, _ => none

end Function

section Run

-- An expression has a value at the type of the field that it is written for.
variable (meaning : String → String → α) (s : Struct)

namespace Frame

/-- The value for a field of the struct, among those that are written. -/
def init? (frame : Frame α) (fields : List (String × Option String)) :
    String × String → Option (String × α)
  | (name, ty) =>
    match fields.lookup name with
    | some (some text) => some (name, meaning ty text)
    | some none => (frame.locals.lookup name).map (name, ·)
    | none => none

/-- Carries out assignments, and then the expression that the body ends with. -/
def run? : Frame α → List Statement → Option (Outcome α)
  | frame, [.construct fields] => do
    guard (fields.map (·.1) = s.fields.map (·.1))
    return .builder (← s.fields.mapM (frame.init? meaning fields))
  | frame, .assign field param :: rest => do
    guard frame.isMutable
    let store ← (← frame.self).set? field (← frame.locals.lookup param)
    run? { frame with self := some store } rest
  | frame, [.self] => frame.self.map .builder
  | frame, [.call callee args] => do
    let store ← frame.self
    callee.call? store (← args.mapM fun name => store.lookup name)
  | _, _ => none

end Frame

def Function.run? (f : Function) (self : Option (Store α)) (args : List α) : Option (Outcome α) := do
  (← f.enter? self args).run? meaning s f.body

/-- Calls methods one after the other, each on the builder that the one before gave back. -/
def chain? : Store α → List (Function × α) → Option (Store α)
  | store, [] => some store
  | store, (f, value) :: rest => do
    chain? (← (← f.run? meaning s (some store) [value]).builder?) rest

def built? (new : Function) (args : List α) (calls : List (Function × α)) : Option (Store α) := do
  chain? meaning s (← (← new.run? meaning s none args).builder?) calls

end Run

end Buildwright.Source
