import Buildwright.Ty

/-!
# Callables

A callable is an annotated function with all its types resolved: what a builder is made for.
-/

namespace Buildwright

inductive ReceiverMode where
  | ref
  | refMut
  | owned
deriving Repr, DecidableEq, Inhabited

def ReceiverMode.text : ReceiverMode → String
  | .ref => "&self"
  | .refMut => "&mut self"
  | .owned => "self"

inductive CallableKind where
  | instance (receiver : ReceiverMode)
  | static
  | constructor
deriving Repr, DecidableEq, Inhabited

namespace CallableKind

def text : CallableKind → String
  | .instance _ => "instance method"
  | .static => "static method"
  | .constructor => "constructor"

def receiver? : CallableKind → Option ReceiverMode
  | .instance mode => some mode
  | _ => none

def isInstance (k : CallableKind) : Bool := k.receiver?.isSome

end CallableKind

structure TypeVar where
  name : String
  scope : Scope
  bounds : List Ty
deriving Inhabited

namespace TypeVar

def ref (v : TypeVar) : VarRef := ⟨v.scope, v.name⟩

/-- The variables in the bounds, in order, with repetitions. -/
def boundVars (v : TypeVar) : List VarRef := v.bounds.flatMap Tree.vars

end TypeVar

/-- The type that an `impl` block is for, with the variables that the block declares. -/
structure Owner where
  selfTy : Ty
  typeVars : List TypeVar
deriving Inhabited

structure Param where
  name : String
  ty : Ty
deriving Inhabited

/-- The text that tells a callable from all others: owner, name and parameter types. -/
structure SignatureKey where
  text : String
deriving Repr, DecidableEq, Inhabited

def SignatureKey.ofTexts (owner name : String) (params : List String) : SignatureKey :=
  ⟨owner ++ "::" ++ name ++ "(" ++ Text.joined ", " params ++ ")"⟩

structure Callable where
  kind : CallableKind
  name : String
  owner : Owner
  typeVars : List TypeVar
  params : List Param
  returns : Ty
  className : Option String
  methodName : Option String
deriving Inhabited

namespace Callable

def signature (c : Callable) : SignatureKey :=
  .ofTexts c.owner.selfTy.toString c.name (c.params.map (·.ty.toString))

def varsAt (c : Callable) : Scope → List TypeVar
  | .owner => c.owner.typeVars
  | .callable => c.typeVars

/-- The declaration of a variable: the first one of its name at its level. -/
def decl? (c : Callable) (v : VarRef) : Option TypeVar :=
  (c.varsAt v.scope).find? (·.name == v.name)

end Callable

end Buildwright
