import Buildwright.Gallery.Manifest
import Buildwright.Gallery.Model
import Buildwright.Pipeline.Phase
import Buildwright.Source.Execution

/-!
# Running the gallery's builders

For every builder of the gallery's manifest, the model function that it stands for. A builder is run
by carrying out what its emitted methods do, on values of the types that its fields are declared
with.
-/

namespace Buildwright.Gallery

/-- The types of parameters. A type parameter stands for one type `ε` at a time. -/
inductive Kind where
  | i32
  | u32
  | text
  | optionalText
  | entries
  | element
  | elements
deriving Repr, DecidableEq, Inhabited

namespace Kind

variable {ε : Type}

abbrev Carrier (ε : Type) : Kind → Type
  | .i32 | .u32 => Int
  | .text => String
  | .optionalText => Option String
  | .entries => List (String × Int)
  | .element => ε
  | .elements => List ε

/-- The type that a field is declared with. -/
def ofText? : String → Option Kind
  | "i32" => some .i32
  | "u32" => some .u32
  | "String" => some .text
  | "Option<String>" => some .optionalText
  | "HashMap<String, i32>" => some .entries
  | "E" | "F" | "I" => some .element
  | "Vec<F>" => some .elements
  | _ => none

def zero [Inhabited ε] : (k : Kind) → k.Carrier ε
  | .i32 | .u32 => (0 : Int)
  | .text => ""
  | .optionalText => none
  | .entries => []
  | .element => (default : ε)
  | .elements => []

/-- The value of an expression that a field of the type is initialized with. -/
def value? [Inhabited ε] : (k : Kind) → String → Option (k.Carrier ε)
  | .i32, "0" | .u32, "0" => some (0 : Int)
  | .optionalText, "None" => some none
  | k, "Default::default()" => some k.zero
  | _, _ => none

end Kind

structure Datum (ε : Type) where
  kind : Kind
  value : kind.Carrier ε

abbrev Params := List (String × Kind)

/-- Functions that take an argument for each parameter, one after the other. -/
abbrev Curried (ε ρ : Type) : Params → Type
  | [] => ρ
  | (_, k) :: rest => k.Carrier ε → Curried ε ρ rest

/-- The result for arguments of the right number and types. -/
def Curried.onData? {ε ρ : Type} :
    (params : Params) → Curried ε ρ params → List (Datum ε) → Option ρ
  | [], result, [] => some result
  | (_, k) :: rest, f, d :: data =>
    if h : d.kind = k then onData? rest (f (h ▸ d.value)) data else none
  | _, _, _ => none

structure SetterCall (ε : Type) (params : Params) where
  param : Fin params.length
  value : (params.get param).2.Carrier ε

namespace SetterCall

variable {ε : Type} {params : Params}

def method (call : SetterCall ε params) : String := "set_" ++ (params.get call.param).1

def datum (call : SetterCall ε params) : Datum ε := ⟨_, call.value⟩

end SetterCall

/-- A function as it is called: as a method of its instance, or by its path. -/
inductive Target where
  | method (name : String)
  | function (path : String)
deriving Repr, DecidableEq, Inhabited

/-- What callers know of a model function and of the builder that stands for it. -/
structure Interface where
  builder : String
  /-- The method that ends the building. -/
  terminal : String
  /-- The type of the instance that the function is called on. -/
  selfType : Option String
  target : Target
  /-- Whether the function changes the instance. -/
  isMutating : Bool
  params : Params
deriving Repr, DecidableEq, Inhabited

structure ModelFunction (ε : Type) extends Interface where
  Self : Type
  Result : Type
  call : Self → Curried ε (Except Panic Result) params

/-- What a field of a builder holds: an argument, the instance, or anything else. -/
inductive Content (ε σ : Type) where
  | datum (d : Datum ε)
  | self (s : σ)
  | other

namespace Content

variable {ε σ : Type}

/-- What an expression stands for in a field. -/
def ofText [Inhabited ε] (ty text : String) : Content ε σ :=
  match (Kind.ofText? ty).bind fun k => (k.value? text).map (Datum.mk k) with
  | some d => .datum d
  | none => .other

def datum? : Content ε σ → Option (Datum ε)
  | .datum d => some d
  | _ => none

def self? : Content ε σ → Option σ
  | .self s => some s
  | _ => none

end Content

def builder? (name : String) : Option Builder := (Compilation.ofManifest manifest).builder? name

/-- The types of the parameters that have names. -/
def inputTypes (f : Source.Function) : List String :=
  f.params.filterMap fun
    | .named _ ty => some ty
    | .receiver _ => none

namespace ModelFunction

variable {ε : Type} [Inhabited ε] (f : ModelFunction ε)

/-- The emitted setter that a call is one of, if it takes a value of the type. -/
def setter? (c : Source.BuilderCode) (call : SetterCall ε f.params) : Option Source.Function := do
  let setter ← c.method? call.method
  guard ((inputTypes setter).map Kind.ofText? = [some call.datum.kind])
  return setter

/-- What the fields of the builder hold after `new` and calls of setters. -/
def built? (c : Source.BuilderCode) (s : f.Self) (calls : List (SetterCall ε f.params)) :
    Option (Source.Store (Content ε f.Self)) := do
  let new ← c.method? "new"
  guard (inputTypes new = f.selfType.toList)
  let steps ← calls.mapM fun call => (f.setter? c call).map (·, .datum call.datum)
  Source.built? .ofText c.struct new (f.selfType.toList.map fun _ => .self s) steps

/-- What the call of a function comes to, if it is this one. -/
def answer? (s : f.Self) : Source.Outcome (Content ε f.Self) → Option (Except Panic f.Result)
  | .method on name args => do
    guard (f.target = .method name)
    Curried.onData? f.params (f.call (← on.self?)) (← args.mapM Content.datum?)
  | .function path args => do
    guard (f.target = .function path)
    Curried.onData? f.params (f.call s) (← args.mapM Content.datum?)
  | .builder _ => none

/-- What the terminal method returns after calls of setters. A function that changes its instance
needs one that can be changed. -/
def runOn? (c : Source.BuilderCode) (s : f.Self) (calls : List (SetterCall ε f.params)) :
    Option (Except Panic f.Result) := do
  let last ← c.method? f.terminal
  guard (f.isMutating = true → last.params = [.receiver true])
  f.answer? s (← last.run? .ofText c.struct (some (← f.built? c s calls)) [])

def code? (f : ModelFunction ε) : Option Source.BuilderCode :=
  (builder? f.builder).map fun b => Source.layOut b manifest.generator.deriveDebug

def run? (s : f.Self) (calls : List (SetterCall ε f.params)) : Option (Except Panic f.Result) := do
  f.runOn? (← f.code?) s calls

end ModelFunction

/-! ## The functions -/

section Functions

variable (ε : Type)

def addFunction : ModelFunction ε where
  builder := "NonStaticAdder"
  terminal := "build"
  selfType := some "ConfusingSignatures"
  target := .method "add"
  isMutating := false
  params := [("x", .i32), ("y", .i32), ("z", .i32)]
  Self := ConfusingSignatures
  Result := Int
  call := ConfusingSignatures.add

def concatFunction : ModelFunction ε where
  builder := "StaticConcater"
  terminal := "build"
  selfType := none
  target := .function "ConfusingSignatures::concat"
  isMutating := false
  params := [("left", .text), ("right", .text)]
  Self := Unit
  Result := String
  call _ left right := .ok (ConfusingSignatures.concat left right)

def checkContainsFunction : ModelFunction ε where
  builder := "HasGenericsContainsCheck"
  terminal := "build"
  selfType := none
  target := .function "ConfusingSignatures::check_contains"
  isMutating := false
  params := [("map", .entries), ("key", .text), ("value", .i32)]
  Self := Unit
  Result := Bool
  call _ map key value := .ok (ConfusingSignatures.checkContains map key value)

def singletonMapFunction : ModelFunction ε where
  builder := "SingletonMapBuilder"
  terminal := "build"
  selfType := none
  target := .function "ConfusingSignatures::singleton_map"
  isMutating := false
  params := [("key", .text), ("value", .text)]
  Self := Unit
  Result := List (String × String)
  call _ key value := .ok (ConfusingSignatures.singletonMap key value)

def pickSomeFunction : ModelFunction ε where
  builder := "PickSomeBuilder"
  terminal := "build"
  selfType := some "HasGen<E>"
  target := .method "pick_some"
  isMutating := false
  params := [("first", .element), ("second", .element), ("third", .element)]
  Self := HasGen
  Result := ε
  call h first second third := .ok (h.pickSome first second third)

def toIterableFunction {η : Type} (into : ε → η) : ModelFunction ε where
  builder := "ThreeInIterableBuilder"
  terminal := "build"
  selfType := some "HasGen<E>"
  target := .method "to_iterable"
  isMutating := false
  params := [("first", .element), ("second", .element), ("third", .element)]
  Self := HasGen
  Result := List η
  call _ first second third := .ok (HasGen.toIterable into first second third)

def describeFunction : ModelFunction ε where
  builder := "DescribeBuilder"
  terminal := "build"
  selfType := some "HasGen<E>"
  target := .method "describe"
  isMutating := false
  params := [("label", .text)]
  Self := HasGen
  Result := String
  call h label := .ok (h.describe label)

def pickSecondFunction : ModelFunction ε where
  builder := "PickSecondBuilder"
  terminal := "build"
  selfType := none
  target := .function "<HasGen<()>>::pick_second"
  isMutating := false
  params := [("first", .i32), ("second", .i32), ("third", .i32)]
  Self := Unit
  Result := Int
  call _ first second third := .ok (HasGen.pickSecond first second third)

def lazyAppendFunction : ModelFunction ε where
  builder := "LazyAppender"
  terminal := "append"
  selfType := none
  target := .function "<HasGen<()>>::lazy_append"
  isMutating := false
  params := [("all_but_last", .elements), ("last", .element)]
  Self := Unit
  Result := List ε
  call _ allButLast last := .ok (HasGen.lazyAppend allButLast last)

def containerFunction : ModelFunction ε where
  builder := "ContainerBuilder"
  terminal := "build"
  selfType := none
  target := .function "<Container<I>>::new"
  isMutating := false
  params := [("item", .element)]
  Self := Unit
  Result := Container ε
  call _ item := .ok (Container.new item)

def nameFunction : ModelFunction ε where
  builder := "NameBuilder"
  terminal := "build"
  selfType := none
  target := .function "Name::new"
  isMutating := false
  params := [("family", .optionalText), ("given", .optionalText)]
  Self := Unit
  Result := Except NameFault Name
  call _ family given := .ok (Name.new family given)

/-- The result holds what has become of the instance. -/
def recordFunction : ModelFunction ε where
  builder := "RecordBuilder"
  terminal := "commit"
  selfType := some "Tally"
  target := .method "record"
  isMutating := true
  params := [("amount", .u32)]
  Self := Tally
  Result := Int × Tally
  call := Tally.record

/-- The functions in the order of the manifest. Those with a type parameter are taken at `ε`, and
`into` is the conversion that one of them asks for. -/
def modelFunctions {η : Type} (into : ε → η) : List (ModelFunction ε) :=
  [addFunction ε, concatFunction ε, checkContainsFunction ε, singletonMapFunction ε,
    pickSomeFunction ε, toIterableFunction ε into, describeFunction ε, pickSecondFunction ε,
    lazyAppendFunction ε, containerFunction ε, nameFunction ε, recordFunction ε]

end Functions

end Buildwright.Gallery
