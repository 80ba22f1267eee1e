import Buildwright.Callable.Fault
import Buildwright.Manifest

/-!
# From declarations to callables

A bare name in a declaration's types may stand for the type of its block or for a type variable.
Extraction gives all names their meaning. It fails at the first path that uses such a name in a way
that has no meaning.
-/

namespace Buildwright

structure Names where
  /-- The generic parameters of the block. -/
  owner : List String
  /-- The generic parameters of the function. -/
  callable : List String
  /-- What `Self` stands for, if it may be used. -/
  selfTy : Option Ty

namespace Names

/-- The variable of a name; the function's own ones hide those of the block. -/
def varOf? (n : Names) (name : String) : Option VarRef :=
  if n.callable.contains name then some ⟨.callable, name⟩
  else if n.owner.contains name then some ⟨.owner, name⟩
  else none

/-- What a bare name stands for, unless it is the name of a type. -/
def meaning? (n : Names) (name : String) : Option Ty :=
  if name == "Self" then n.selfTy else (n.varOf? name).map .var

def pathFault? (n : Names) (path : TypeExpr) : Option String :=
  match path.name? with
  | some name =>
    if name == "Self" && n.selfTy.isNone then
      some "'Self' cannot appear in an impl self type"
    else
      none
  | none =>
    match path with
    | .path _ (first :: others) =>
      if first.ident == "Self" then
        some s!"associated path '{TypeExpr.toString path}' is not supported"
      else if others.isEmpty && (n.varOf? first.ident).isSome then
        some s!"type variable '{first.ident}' cannot take generic arguments"
      else
        none
    | _ => none

mutual

/-- The type that is meant, unless one of its paths has no meaning. -/
def interpret (n : Names) : TypeExpr → Except String Ty
  | .path rooted segments =>
    match n.pathFault? (.path rooted segments) with
    | some reason => throw reason
    | none =>
      match (Tree.name? (.path rooted segments : TypeExpr)).bind n.meaning? with
      | some t => return t
      | none => return .path rooted (← interpretSegments n segments)
  | .tuple elems => return .tuple (← interpretTrees n elems)
  | .array elem len => return .array (← interpret n elem) len

def interpretTrees (n : Names) : List TypeExpr → Except String (List Ty)
  | [] => return []
  | t :: rest => return (← interpret n t) :: (← interpretTrees n rest)

def interpretSegment (n : Names) : Segment Empty → Except String (Segment VarRef)
  | .mk ident args => return .mk ident (← interpretArgs n args)

def interpretSegments (n : Names) : List (Segment Empty) → Except String (List (Segment VarRef))
  | [] => return []
  | s :: rest => return (← interpretSegment n s) :: (← interpretSegments n rest)

def interpretArg (n : Names) : Arg Empty → Except String (Arg VarRef)
  | .type t => return .type (← interpret n t)
  | .binding name t => return .binding name (← interpret n t)

def interpretArgs (n : Names) : List (Arg Empty) → Except String (List (Arg VarRef))
  | [] => return []
  | a :: rest => return (← interpretArg n a) :: (← interpretArgs n rest)

end

def interpretTypeParam (n : Names) (scope : Scope) (p : TypeParam) : Except String TypeVar :=
  return ⟨p.name, scope, ← p.bounds.mapM n.interpret⟩

def interpretParam (n : Names) (p : Parameter) : Except String Param :=
  return ⟨p.name, ← n.interpret p.type⟩

end Names

namespace Declaration

def ownerNames (d : Declaration) : Names := ⟨d.block.generics.map (·.name), [], none⟩

def namesWith (d : Declaration) (selfTy : Ty) : Names :=
  ⟨d.block.generics.map (·.name), d.function.generics.map (·.name), some selfTy⟩

def kind (d : Declaration) : CallableKind :=
  if d.function.isConstructor then .constructor
  else
    match d.function.receiver with
    | some mode => .instance mode
    | none => .static

/-- The callable, every name in it resolved, or why the declaration is none. -/
def interpret (d : Declaration) : Except String Callable := do
  if d.function.args.isEmpty then
    throw "a builder needs at least one parameter to set"
  let selfTy ← d.ownerNames.interpret d.block.selfTy
  let ownerVars ← d.block.generics.mapM (d.ownerNames.interpretTypeParam .owner)
  let names := d.namesWith selfTy
  let typeVars ← d.function.generics.mapM (names.interpretTypeParam .callable)
  let params ← d.function.args.mapM names.interpretParam
  let returns ← names.interpret d.function.returnType
  return {
    kind := d.kind
    name := d.function.name
    owner := ⟨selfTy, ownerVars⟩
    typeVars
    params
    returns
    className := d.function.annotation.bind (·.className)
    methodName := d.function.annotation.bind (·.methodName)
  }

def extract (d : Declaration) : Except GenerateFault Callable :=
  d.interpret.mapError (.malformed d.signature)

end Declaration

end Buildwright
