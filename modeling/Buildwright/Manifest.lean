import Buildwright.Callable
import Buildwright.TypeExpr.Reader

/-!
# Manifests

A manifest describes `impl` blocks with their functions, and which of the functions get a builder.
-/

namespace Buildwright

structure GeneratorConfig where
  file : String
  uses : List String
  deriveDebug : Bool
deriving Repr, DecidableEq, Inhabited

def GeneratorConfig.default : GeneratorConfig := ⟨"builders.rs", [], false⟩

/-- The wish for a builder, with names for it if they are not the usual ones. -/
structure Annotation where
  className : Option String
  methodName : Option String
deriving Repr, DecidableEq, Inhabited

structure FunctionDecl where
  name : String
  receiver : Option ReceiverMode
  generics : List TypeParam
  args : List Parameter
  returns : Option TypeExpr
  isConstructor : Bool
  annotation : Option Annotation
deriving DecidableEq

namespace FunctionDecl

/-- The declared type; else a constructor returns its own type, and any other function nothing. -/
def returnType (f : FunctionDecl) : TypeExpr :=
  match f.returns with
  | some t => t
  | none => if f.isConstructor then .name "Self" else .unit

end FunctionDecl

structure ImplBlock where
  selfTy : TypeExpr
  generics : List TypeParam
  functions : List FunctionDecl
deriving DecidableEq

structure Declaration where
  block : ImplBlock
  function : FunctionDecl

/-- The signature as it is written, before names are resolved. -/
def Declaration.signature (d : Declaration) : SignatureKey :=
  .ofTexts (TypeExpr.toString d.block.selfTy) d.function.name
    (d.function.args.map fun p => p.type.toString)

structure Manifest where
  generator : GeneratorConfig
  impls : List ImplBlock
deriving DecidableEq

namespace Manifest

def annotated (m : Manifest) : List Declaration :=
  m.impls.flatMap fun block =>
    (block.functions.filter fun f => f.annotation.isSome).map fun f => ⟨block, f⟩

def functionCount (m : Manifest) : Nat := (m.impls.flatMap ImplBlock.functions).length

end Manifest

end Buildwright
