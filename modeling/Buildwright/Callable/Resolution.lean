import Buildwright.Callable.Fault
import Buildwright.Builder
import Buildwright.Text.Fresh

/-!
# Resolution of type variables

Which variables a builder has to declare, and under which names. A variable is declared if a
parameter or the return type mentions it, or the bound of a declared variable does. The callable's
variables come first, then the owner's, each group in the order of declaration.
-/

namespace Buildwright

namespace Callable

def boundMentions (c : Callable) : List VarRef :=
  (c.typeVars ++ c.owner.typeVars).flatMap TypeVar.boundVars

theorem mem_boundMentions {c : Callable} {v w : VarRef} {d : TypeVar} (h : c.decl? v = some d)
    (hw : w ∈ d.boundVars) : w ∈ c.boundMentions := by
  have hd : d ∈ c.varsAt v.scope := List.mem_of_find?_eq_some h
  have : d ∈ c.typeVars ++ c.owner.typeVars := by
    cases hs : v.scope <;> rw [hs] at hd <;> simp_all [varsAt]
  exact List.mem_flatMap.2 ⟨d, this, hw⟩

/-- The first reference that a builder of the callable cannot declare: a static method has no
instance that would fix an owner variable. -/
def forbidden? (c : Callable) (refs : List VarRef) : Option VarRef :=
  if c.kind = .static then refs.find? (·.scope == .owner) else none

def mentioning (c : Callable) : List (String × Ty) :=
  c.params.map (fun p => (s!"parameter '{p.name}'", p.ty)) ++ [("return type", c.returns)]

/-- The references that are not in `known`, each once. -/
def fresh (known : List VarRef) : List VarRef → List VarRef
  | [] => []
  | v :: rest => if known.contains v then fresh known rest else v :: fresh (v :: known) rest

theorem fresh_spec {known refs : List VarRef} {v : VarRef} (h : v ∈ fresh known refs) :
    v ∈ refs ∧ v ∉ known := by
  induction refs generalizing known with
  | nil => simp [fresh] at h
  | cons w rest ih =>
    rw [fresh] at h
    split at h
    · obtain ⟨hr, hk⟩ := ih h
      exact ⟨List.mem_cons_of_mem _ hr, hk⟩
    · next hw =>
      rcases List.mem_cons.1 h with rfl | h
      · exact ⟨List.mem_cons_self, by simpa using hw⟩
      · obtain ⟨hr, hk⟩ := ih h
        exact ⟨List.mem_cons_of_mem _ hr, fun hv => hk (List.mem_cons_of_mem _ hv)⟩

def unknown (c : Callable) (known : List VarRef) : Nat :=
  (c.boundMentions.filter fun v => !known.contains v).length

theorem unknown_lt {c : Callable} {known new : List VarRef} {v : VarRef} (hnew : v ∈ new)
    (hv : v ∈ c.boundMentions) (hk : v ∉ known) : c.unknown (known ++ new) < c.unknown known := by
  have hsub : (c.boundMentions.filter fun v => !(known ++ new).contains v) =
      (c.boundMentions.filter fun v => !known.contains v).filter fun v => !new.contains v := by
    rw [List.filter_filter]
    congr 1
    funext w
    simp [Bool.and_comm]
  rw [unknown, unknown, hsub]
  apply List.length_filter_lt_length_iff_exists.2
  exact ⟨v, by simp [hv, hk], by simp [hnew]⟩

/-- Everything that the bounds of pending references lead to, added to what is known. The reference
pushed last is looked at first. -/
def closure (c : Callable) (known pending : List VarRef) : Except GenerateFault (List VarRef) :=
  match pending with
  | [] => .ok known
  | v :: pending =>
    match _hd : c.decl? v with
    | none => .error (.unresolved c.signature "type" v.name)
    | some d =>
      match c.forbidden? d.boundVars with
      | some w => .error (.unresolved c.signature s!"bound of '{v.name}'" w.name)
      | none =>
        c.closure (known ++ fresh known d.boundVars) ((fresh known d.boundVars).reverse ++ pending)
termination_by (c.unknown known, pending.length)
decreasing_by
  cases hf : fresh known d.boundVars with
  | nil => simp [Prod.lex_def]
  | cons w rest =>
    have hw : w ∈ fresh known d.boundVars := by simp [hf]
    obtain ⟨hb, hk⟩ := fresh_spec hw
    rw [← hf]
    exact Prod.Lex.left _ _ (unknown_lt hw (mem_boundMentions _hd hb) hk)

/-- The references in the parameters and the return type, each once, unless one is forbidden. -/
def mentioned (c : Callable) : Except GenerateFault (List VarRef) :=
  match c.mentioning.findSome? fun (context, t) =>
      (c.forbidden? t.vars).map fun v => (context, v) with
  | some (context, v) => .error (.unresolved c.signature context v.name)
  | none => .ok (fresh [] (c.mentioning.flatMap fun (_, t) => t.vars))

def admitted (c : Callable) : Except GenerateFault (List VarRef) := do
  let start ← c.mentioned
  c.closure start start.reverse

def unitTraits : List String :=
  ["Clone", "Copy", "Debug", "Default", "PartialEq", "Eq", "PartialOrd", "Ord", "Hash", "Send",
    "Sync", "Unpin", "Sized"]

/-- A bound by a trait of the unit type, without arguments. -/
def unitSatisfies (bound : Ty) : Bool :=
  match bound.lastSegment? with
  | some (.mk ident []) => unitTraits.contains ident
  | _ => false

/-- The first variable with a bound that the unit type may not satisfy, and that bound. -/
def uninstantiable? (vars : List TypeVar) : Option (String × Ty) :=
  vars.findSome? fun v => (v.bounds.find? fun b => !unitSatisfies b).map fun b => (v.name, b)

/-- The first of `name1`, `name2`, … that is not taken. -/
def freshName (taken : List String) (name : String) : String :=
  Text.firstFree taken (fun i => name ++ toString i) 1

/-- New names for the owner's variables whose names are taken, one variable after the other. -/
def ownerRenames (all : List String) : List String → List TypeVar → Renames
  | _, [] => []
  | taken, v :: rest =>
    if taken.contains v.name then
      let name := freshName (taken ++ all) v.name
      (v.ref, name) :: ownerRenames all (name :: taken) rest
    else
      ownerRenames all (v.name :: taken) rest

end Callable

structure Resolution where
  typeVars : List BuilderVar
  receiverVars : List String
  erased : List BuilderVar
  renames : Renames
  /-- Owner variables in whose place the unit type stands. -/
  instantiated : List VarRef

namespace Resolution

def nameOf (r : Resolution) (v : VarRef) : String := r.renames.nameOf v

def substitute (r : Resolution) (t : Ty) : Ty := t.rename r.nameOf

/-- The unit type stands for every variable that the builder does not declare. -/
def instantiate (r : Resolution) (t : Ty) : Ty :=
  r.substitute (t.substitute fun v => if r.instantiated.contains v then some .unit else none)

end Resolution

namespace Callable

def builderVar (renames : Renames) (v : TypeVar) : BuilderVar :=
  ⟨renames.nameOf v.ref, v.scope, v.bounds.map fun b => b.rename renames.nameOf⟩

def resolve (c : Callable) : Except GenerateFault Resolution := do
  let admitted ← c.admitted
  let isAdmitted (v : TypeVar) : Bool := admitted.contains v.ref
  let callable := c.typeVars.filter isAdmitted
  let owner := c.owner.typeVars.filter isAdmitted
  let others := c.owner.typeVars.filter fun v => !isAdmitted v
  let erased := if c.kind.isInstance then others else []
  if !c.kind.isInstance then
    if let some (name, bound) := uninstantiable? others then
      throw (.uninstantiable c.signature name bound.toString)
  let renames := ownerRenames ((c.typeVars ++ c.owner.typeVars).map (·.name))
    (callable.map (·.name)) (owner ++ erased)
  return {
    typeVars := (callable ++ owner).map (builderVar renames)
    receiverVars := if c.kind.isInstance then owner.map fun v => renames.nameOf v.ref else []
    erased := erased.map (builderVar renames)
    renames
    instantiated := if c.kind.isInstance then [] else others.map (·.ref)
  }

end Callable

end Buildwright
