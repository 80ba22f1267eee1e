import Buildwright.Callable.Resolution
import Buildwright.Text.Casing

/-!
# From callables to builders
-/

namespace Buildwright

def builderSuffix : String := "Builder"

def defaultTerminalName : String := "build"

def setterName (field : String) : String := "set" ++ Text.capitalize field

namespace Callable

/-- The given name; else a constructor's builder is named after the type, any other one after the
function. -/
def builderName (c : Callable) : String :=
  match c.className with
  | some name => name
  | none =>
    match c.kind with
    | .constructor => c.owner.selfTy.simpleName ++ builderSuffix
    | _ => Text.pascal c.name ++ builderSuffix

def terminalName (c : Callable) : String := c.methodName.getD defaultTerminalName

def synthesize (c : Callable) (r : Resolution) : Builder :=
  let fields := c.params.map fun p =>
    let ty := r.substitute p.ty
    { name := p.name, ty, zero := .ofType ty }
  let receiver := c.kind.receiver?.map fun mode =>
    { mode, ty := r.substitute c.owner.selfTy, typeVars := r.receiverVars, erased := r.erased }
  let carried := (fields.map (·.ty) ++ (receiver.map (·.ty)).toList).flatMap Tree.vars
  { name := c.builderName
    source := c.signature
    typeVars := r.typeVars
    receiver
    fields
    setters := fields.map fun f => { name := setterName f.name, field := f.name }
    terminalName := c.terminalName
    terminal := {
      target :=
        if c.kind.isInstance then .method c.name
        else .associated (r.instantiate c.owner.selfTy) c.name
      args := fields.map (·.name)
      result := r.substitute c.returns }
    phantom := (r.typeVars.map (·.name)).filter fun name => !(carried.map (·.name)).contains name }

def generate (c : Callable) : Except GenerateFault Builder := do
  return c.synthesize (← c.resolve)

end Callable

end Buildwright
