import Buildwright.Manifest.Fault
import Buildwright.Manifest.Identifier

/-!
# Validation of manifests

Checks what the types of a manifest leave open, in the order of the manifest: the first fault
counts.
-/

namespace Buildwright.Manifest

open Toml (Span)

/-- Where in a manifest a check takes place: the text, and the names of what it is in. -/
structure Context where
  source : String
  path : List String

namespace Context

def push (c : Context) (segment : String) : Context := { c with path := c.path ++ [segment] }

def pathText (c : Context) : String := Text.joined "::" c.path

/-- A kind of name, with what it is in. -/
def describe (c : Context) (kind : String) : String :=
  if c.path.isEmpty then kind else s!"{kind} in '{c.pathText}'"

def place (c : Context) (name : String) : Option Span := placeOfName c.source name

def checkName (c : Context) (name kind : String) : Except ManifestFault Unit :=
  match nameFault? name with
  | none => .ok ()
  | some .keyword => .error (.reservedKeyword name (c.describe kind) (c.place name))
  | some fault =>
    .error (.invalidIdentifier name (c.describe kind) fault.reason (c.place name))

def invalid (c : Context) (message name : String) : ManifestFault :=
  .invalid message (c.place name)

def duplicateArgument (c : Context) (name function : String) : ManifestFault :=
  let places := placesOfArgument c.source name
  .duplicateArgument name function places[0]? places[1]?

def shadowedGeneric (c : Context) (name function owner : String) : ManifestFault :=
  .shadowedGeneric name function owner (placesOfGeneric c.source name)[1]?

end Context

/-- Every name passes its check and differs from those before it. -/
def checkDistinct (check : String → Except ManifestFault Unit) (repeated : String → ManifestFault) :
    List String → List String → Except ManifestFault Unit
  | _, [] => .ok ()
  | seen, name :: rest => do
    check name
    if seen.contains name then
      throw (repeated name)
    checkDistinct check repeated (name :: seen) rest

def checkUses (c : Context) : Nat → List String → Except ManifestFault Unit
  | _, [] => .ok ()
  | i, use :: rest =>
    if Text.isAllBlank use then
      .error (c.invalid s!"generator.uses[{i}] is empty" use)
    else
      checkUses c (i + 1) rest

/-- The generic parameters of a function: usable, not those of the block, and different. -/
def checkFunctionGenerics (c : Context) (block : ImplBlock) (owner function : String)
    (generics : List TypeParam) : Except ManifestFault Unit :=
  checkDistinct
    (fun name => do
      c.checkName name "generic parameter"
      if block.generics.any (·.name == name) then
        throw (c.shadowedGeneric name function owner))
    (fun name => c.invalid s!"generic parameter '{name}' is declared twice on '{function}'" name)
    [] (generics.map (·.name))

def checkArguments (c : Context) (function : String) (args : List Parameter) :
    Except ManifestFault Unit :=
  checkDistinct (c.checkName · "argument") (c.duplicateArgument · function) [] (args.map (·.name))

def checkAnnotation (c : Context) (a : Annotation) : Except ManifestFault Unit := do
  if let some name := a.className then
    c.checkName name "builder type"
  if let some name := a.methodName then
    c.checkName name "terminal method"

def checkFunction (c : Context) (block : ImplBlock) (owner : String) (f : FunctionDecl) :
    Except ManifestFault Unit := do
  c.checkName f.name "function"
  let c := c.push f.name
  let function := c.pathText
  if f.isConstructor && f.receiver.isSome then
    throw (c.invalid s!"constructor '{function}' cannot take a receiver" f.name)
  checkFunctionGenerics c block owner function f.generics
  checkArguments c function f.args
  if let some a := f.annotation then
    checkAnnotation c a

def checkBlock (c : Context) (block : ImplBlock) : Except ManifestFault Unit := do
  if !block.selfTy.isPath then
    let found := TypeExpr.toString block.selfTy
    throw (c.invalid s!"impl self type must be a named type, found '{found}'" found)
  let owner := block.selfTy.simpleName
  let type := TypeExpr.toString block.selfTy
  let c := c.push owner
  checkDistinct (c.checkName · "generic parameter")
    (fun name => c.invalid s!"generic parameter '{name}' is declared twice on impl {type}" name)
    [] (block.generics.map (·.name))
  block.functions.forM (checkFunction c block owner)

def validate (source : String) (m : Manifest) : Except ManifestFault Unit := do
  let c : Context := ⟨source, []⟩
  checkUses c 0 m.generator.uses
  m.impls.forM (checkBlock c)

end Buildwright.Manifest
