import Buildwright.Callable
import Mathlib.Data.List.Basic
import Mathlib.Data.List.Nodup

/-!
# Levels of declaration

In a callable as extraction makes it, every variable is declared at the level that it says, and its
name is the only one of its kind there. A reference then has one declaration.
-/

namespace Buildwright

namespace Callable

/-- Every variable stands at its own level, under a name that no other one of the level has. -/
structure Levelled (c : Callable) : Prop where
  scope_eq : ∀ s, ∀ v ∈ c.varsAt s, v.scope = s
  nodup : ∀ s, ((c.varsAt s).map (·.name)).Nodup

/-- The callable's own variables have other names than the owner's. -/
def Unshadowed (c : Callable) : Prop :=
  ∀ v ∈ c.varsAt .owner, ∀ w ∈ c.varsAt .callable, w.name ≠ v.name

/-- The owner's types mention declared variables of the owner alone. -/
structure OwnerClosed (c : Callable) : Prop where
  selfTy : ∀ v ∈ c.owner.selfTy.vars, ∃ d ∈ c.varsAt .owner, d.ref = v
  bound : ∀ w ∈ c.varsAt .owner, ∀ v ∈ w.boundVars, ∃ d ∈ c.varsAt .owner, d.ref = v

theorem mem_of_decl? {c : Callable} {v : VarRef} {d : TypeVar} (h : c.decl? v = some d) :
    d ∈ c.varsAt v.scope ∧ d.name = v.name := by
  refine ⟨List.mem_of_find?_eq_some h, ?_⟩
  have hname := List.find?_some h
  simpa using hname

theorem exists_decl? {c : Callable} {v : VarRef} :
    (∃ d, c.decl? v = some d) ↔ ∃ d ∈ c.varsAt v.scope, d.name = v.name := by
  rw [← Option.isSome_iff_exists, decl?, List.find?_isSome]
  simp only [beq_iff_eq]

theorem Levelled.ref_eq {c : Callable} (hlevels : c.Levelled) {v : VarRef} {d : TypeVar}
    (h : c.decl? v = some d) : d.ref = v := by
  obtain ⟨hmem, hname⟩ := mem_of_decl? h
  rw [TypeVar.ref, hlevels.scope_eq _ d hmem, hname]

theorem Levelled.decl?_ref {c : Callable} (hlevels : c.Levelled) {s : Scope} {v : TypeVar}
    (hv : v ∈ c.varsAt s) : c.decl? v.ref = some v := by
  have hscope : v.scope = s := hlevels.scope_eq s v hv
  obtain ⟨d, hd⟩ : ∃ d, c.decl? v.ref = some d :=
    exists_decl?.2 ⟨v, by rw [TypeVar.ref, hscope]; exact hv, rfl⟩
  obtain ⟨hmem, hname⟩ := mem_of_decl? hd
  rw [TypeVar.ref, hscope] at hmem
  have hdv : d = v := List.inj_on_of_nodup_map (hlevels.nodup s) hmem hv hname
  rw [hd, hdv]

end Callable

end Buildwright
