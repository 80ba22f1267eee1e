import Buildwright.Proofs.Callable.Signature
import Buildwright.Proofs.Declaration.Extraction
import Buildwright.Proofs.Tree.Within

/-!
# Resolved types as they are written

A variable is written by its name, so a resolved type has the text of the type that it was resolved
from, except that the block's type stands in the place of `Self`.
-/

namespace Buildwright

namespace TypeExpr

def withSelf (t self : TypeExpr) : TypeExpr :=
  t.resolve fun s => if s = "Self" then some self else none

theorem withSelf_eq_self {t : TypeExpr} (h : "Self" ∉ t.bareNames) (self : TypeExpr) :
    t.withSelf self = t := by
  calc t.withSelf self
      = t.resolve fun _ => none := by
        refine Tree.resolve_congr fun s hs => ?_
        have hne : s ≠ "Self" := fun heq => h (heq ▸ hs)
        rw [if_neg hne]
    _ = t := Tree.resolve_none t

theorem self_not_mem_bareNames_iff {t : TypeExpr} :
    "Self" ∉ t.bareNames ↔ ¬ (Tree.name "Self" : TypeExpr).Within t := by
  rw [Tree.mem_bareNames, Tree.mem_paths_iff]
  exact not_congr (and_iff_right rfl)

end TypeExpr

namespace Names

/-- Without the difference between variables and names, resolving replaces `Self` alone. -/
theorem erased_lower {n : Names} {t self : TypeExpr} (hfault : n.fault? t = none)
    (hself : ∀ u, n.selfTy = some u → u.erased = self) : (n.lower t).erased = t.withSelf self := by
  rw [Ty.erased, Tree.spelled, lower, Tree.bind_resolve]
  refine Tree.resolve_congr fun s hs => ?_
  by_cases hname : s = "Self"
  · subst hname
    rw [meaning?_self, if_pos rfl]
    cases hty : n.selfTy with
    | none => exact absurd hs (self_not_mem_bareNames hfault hty)
    | some u => exact hself u hty
  · rw [meaning?_of_ne hname, if_neg hname]
    cases hvar : n.varOf? s with
    | none => rfl
    | some v => exact congrArg Tree.name (varOf?_eq_some.1 hvar).1

theorem map_bounds_typeVar {n : Names} {scope : Scope} {ps : List TypeParam} {f : TypeExpr → String}
    (h : ∀ p ∈ ps, ∀ t ∈ p.bounds, (n.lower t).toString = f t) :
    ((ps.map (n.typeVar scope)).map fun v => v.bounds.map Ty.toString) =
      ps.map fun p => p.bounds.map f := by
  rw [List.map_map]
  apply List.map_congr_left
  intro p hp
  show (p.bounds.map n.lower).map Ty.toString = _
  rw [List.map_map]
  exact List.map_congr_left (h p hp)

end Names

namespace Declaration

/-- The declaration with its block's type in the place of `Self` in its arguments. -/
def withSelf (d : Declaration) : Declaration :=
  { d with function := { d.function with
      args := d.function.args.map fun a => { a with type := a.type.withSelf d.block.selfTy } } }

variable {d : Declaration}

theorem erased_selfTy (h : d.fault? = none) : d.selfTy.erased = d.block.selfTy := by
  have hfault := fault?_selfTy h
  calc d.selfTy.erased
      = d.block.selfTy.withSelf d.block.selfTy := Names.erased_lower hfault nofun
    _ = d.block.selfTy :=
        TypeExpr.withSelf_eq_self (Names.self_not_mem_bareNames hfault rfl) d.block.selfTy

theorem erased_ownerNames {t : TypeExpr} (hfault : d.ownerNames.fault? t = none) :
    (d.ownerNames.lower t).erased = t.withSelf d.block.selfTy :=
  Names.erased_lower hfault nofun

theorem erased_names (h : d.fault? = none) {t : TypeExpr} (hfault : d.names.fault? t = none) :
    (d.names.lower t).erased = t.withSelf d.block.selfTy := by
  apply Names.erased_lower hfault
  intro u hu
  cases hu
  exact erased_selfTy h

theorem erasedParams_callable (h : d.fault? = none) :
    d.callable.erasedParams = d.withSelf.function.args.map (·.type) := by
  show (d.function.args.map _).map _ = (d.function.args.map _).map _
  rw [List.map_map, List.map_map]
  exact List.map_congr_left fun a ha => erased_names h (fault?_arg h ha)

theorem signature_callable (h : d.fault? = none) : d.callable.signature = d.withSelf.signature := by
  calc d.callable.signature
      = .ofTexts d.selfTy.erased.toString d.function.name
          (d.callable.erasedParams.map TypeExpr.toString) := d.callable.signature_eq_ofTexts
    _ = .ofTexts (TypeExpr.toString d.block.selfTy) d.function.name
          ((d.withSelf.function.args.map (·.type)).map TypeExpr.toString) := by
        rw [erased_selfTy h, erasedParams_callable h]
    _ = d.withSelf.signature := by
        rw [List.map_map]
        rfl

theorem withSelf_eq_self (h : ∀ a ∈ d.function.args, "Self" ∉ a.type.bareNames) :
    d.withSelf = d := by
  have hargs : (d.function.args.map fun a => { a with type := a.type.withSelf d.block.selfTy }) =
      d.function.args := by
    conv_rhs => rw [← List.map_id d.function.args]
    refine List.map_congr_left fun a ha => ?_
    rw [TypeExpr.withSelf_eq_self (h a ha)]
    rfl
  rw [withSelf, hargs]

/-- Each resolved type is written as the type that it was resolved from, with the block's type in
the place of `Self`, and so is the signature. Arguments without `Self` leave it as it is. -/
theorem extract_displays {c : Callable} (hextract : d.extract = .ok c) :
    c.owner.selfTy.toString = (d.block.selfTy.withSelf d.block.selfTy).toString ∧
      (c.owner.typeVars.map fun v => v.bounds.map Ty.toString) =
        (d.block.generics.map fun p =>
          p.bounds.map fun t => (t.withSelf d.block.selfTy).toString) ∧
      (c.typeVars.map fun v => v.bounds.map Ty.toString) =
        (d.function.generics.map fun p =>
          p.bounds.map fun t => (t.withSelf d.block.selfTy).toString) ∧
      (c.params.map fun p => p.ty.toString) =
        (d.function.args.map fun a => (a.type.withSelf d.block.selfTy).toString) ∧
      c.returns.toString = (d.function.returnType.withSelf d.block.selfTy).toString ∧
      c.signature = d.withSelf.signature ∧
      ((∀ a ∈ d.function.args, ¬ (Tree.name "Self" : TypeExpr).Within a.type) →
        c.signature = d.signature) := by
  obtain ⟨hfault, rfl⟩ := extract_eq_ok.1 hextract
  have howner {t : TypeExpr} (ht : d.ownerNames.fault? t = none) :
      (d.ownerNames.lower t).toString = (t.withSelf d.block.selfTy).toString := by
    rw [← Ty.toString_erased, erased_ownerNames ht]
  have hown {t : TypeExpr} (ht : d.names.fault? t = none) :
      (d.names.lower t).toString = (t.withSelf d.block.selfTy).toString := by
    rw [← Ty.toString_erased, erased_names hfault ht]
  refine ⟨howner (fault?_selfTy hfault),
    Names.map_bounds_typeVar fun p hp t ht => howner (fault?_blockBound hfault hp ht),
    Names.map_bounds_typeVar fun p hp t ht => hown (fault?_functionBound hfault hp ht),
    ?params, hown (fault?_returnType hfault), signature_callable hfault, ?unchanged⟩
  case params =>
    show (d.function.args.map _).map _ = _
    rw [List.map_map]
    exact List.map_congr_left fun a ha => hown (fault?_arg hfault ha)
  case unchanged =>
    intro hfree
    have hbare : ∀ a ∈ d.function.args, "Self" ∉ a.type.bareNames :=
      fun a ha => TypeExpr.self_not_mem_bareNames_iff.2 (hfree a ha)
    rw [signature_callable hfault, withSelf_eq_self hbare]

end Declaration

/-! ## Two methods of one name -/

namespace Manifest

def queueMethod (arg : String) (type : TypeExpr) : FunctionDecl where
  name := "join"
  receiver := some .owned
  generics := []
  args := [⟨arg, type⟩]
  returns := none
  isConstructor := false
  annotation := some ⟨none, none⟩

def queueBlock : ImplBlock where
  selfTy := .path false [.mk "Queue" [.type (.name "T")]]
  generics := [⟨"T", []⟩]
  functions :=
    [queueMethod "parts" (.tuple [.name "Self"]), queueMethod "part" (.name "T")]

def joinDeclaration : Declaration := ⟨queueBlock, queueMethod "parts" (.tuple [.name "Self"])⟩

def pushDeclaration : Declaration := ⟨queueBlock, queueMethod "part" (.name "T")⟩

theorem extract_joinDeclaration : joinDeclaration.extract = .ok joinDeclaration.callable :=
  Declaration.extract_eq_ok.2 ⟨by decide, rfl⟩

theorem extract_pushDeclaration : pushDeclaration.extract = .ok pushDeclaration.callable :=
  Declaration.extract_eq_ok.2 ⟨by decide, rfl⟩

/-- The signature as it is written says `Self`, the resolved one `Queue<T>`. -/
theorem joinDeclaration_displays :
    joinDeclaration.extract = .ok joinDeclaration.callable ∧
      joinDeclaration.signature = ⟨"Queue<T>::join((Self,))"⟩ ∧
      joinDeclaration.callable.signature = ⟨"Queue<T>::join((Queue<T>,))"⟩ := by
  obtain ⟨-, -, -, -, -, hsignature, -⟩ :=
    Declaration.extract_displays extract_joinDeclaration
  refine ⟨extract_joinDeclaration, by decide, ?_⟩
  rw [hsignature]
  decide

end Manifest

end Buildwright
