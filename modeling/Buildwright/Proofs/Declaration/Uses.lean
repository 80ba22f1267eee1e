import Buildwright.Proofs.Builder.Scope

/-!
# What a declaration uses

A builder has the generic parameters that the declaration uses by their bare names: in its
parameters, its return type and, step by step, in the bounds of the parameters in use. A name at the
start of a longer path, as in `I::Item`, is no use of the parameter.
-/

namespace Buildwright

namespace Tree

/-- The first name of a path of several segments that does not start with `::`. -/
def head? : Tree ν → Option String
  | .path false (first :: _ :: _) => some first.ident
  | _ => none

def heads (t : Tree ν) : List String := t.paths.filterMap head?

end Tree

namespace Declaration

/-- A variable is used by a parameter, the return type, or a bound of a parameter in use. -/
inductive Uses (d : Declaration) : VarRef → Prop where
  | arg {a : Parameter} {v : VarRef} (ha : a ∈ d.function.args)
      (hv : d.names.Mentions a.type v) : Uses d v
  | returns {v : VarRef} (hv : d.names.Mentions d.function.returnType v) : Uses d v
  | functionBound {p : TypeParam} {t : TypeExpr} {v : VarRef} (hp : p ∈ d.function.generics)
      (hu : Uses d ⟨.callable, p.name⟩) (ht : t ∈ p.bounds) (hv : d.names.Mentions t v) : Uses d v
  | blockBound {p : TypeParam} {t : TypeExpr} {v : VarRef} (hp : p ∈ d.block.generics)
      (hu : Uses d ⟨.owner, p.name⟩) (ht : t ∈ p.bounds)
      (hv : d.ownerNames.Mentions t v) : Uses d v

/-- A generic parameter stands at the start of a longer path: in a parameter's type, in the return
type, or in a bound of a variable that the builder has. -/
def Projects (d : Declaration) (b : Builder) (v : VarRef) : Prop :=
  d.names.varOf? v.name = some v ∧
    ((∃ a ∈ d.function.args, v.name ∈ a.type.heads) ∨ v.name ∈ d.function.returnType.heads ∨
      (∃ p ∈ d.function.generics, (b.Declares ⟨.callable, p.name⟩ ∨ b.Erases ⟨.callable, p.name⟩) ∧
        ∃ t ∈ p.bounds, v.name ∈ t.heads) ∨
      ∃ p ∈ d.block.generics, (b.Declares ⟨.owner, p.name⟩ ∨ b.Erases ⟨.owner, p.name⟩) ∧
        ∃ t ∈ p.bounds, v.name ∈ t.heads)

/-- The variable is the block's, and the builder has an instance to take it along for. -/
def TakesAlong (d : Declaration) (v : VarRef) : Prop :=
  d.kind.isInstance = true ∧ ∃ p ∈ d.block.generics, v = ⟨.owner, p.name⟩

variable {d : Declaration}

/-- The bounds of a declared variable mention what the parameter's bounds mention as written. -/
theorem mem_boundVars_typeVar {n : Names} {s : Scope} {p : TypeParam} {v : VarRef} :
    v ∈ (n.typeVar s p).boundVars ↔ ∃ t ∈ p.bounds, n.Mentions t v := by
  rw [TypeVar.boundVars, Names.typeVar, List.mem_flatMap]
  constructor
  · rintro ⟨bound, hbound, hv⟩
    obtain ⟨t, ht, rfl⟩ := List.mem_map.1 hbound
    exact ⟨t, ht, Names.mem_vars_lower.1 hv⟩
  · rintro ⟨t, ht, hv⟩
    exact ⟨n.lower t, List.mem_map_of_mem ht, Names.mem_vars_lower.2 hv⟩

/-- What the resolved types lead to is what the declaration uses as it is written. -/
theorem Accepted.reached_iff_uses (haccepted : d.Accepted) {v : VarRef} :
    d.callable.Reached v ↔ d.Uses v := by
  have hlevels := haccepted.levelled
  constructor
  · intro h
    induction h with
    | param hp hv =>
      obtain ⟨a, ha, rfl⟩ := List.mem_map.1 hp
      exact .arg ha (Names.mem_vars_lower.1 hv)
    | returns hv => exact .returns (Names.mem_vars_lower.1 hv)
    | @bound v w w' _ hdecl hw ih =>
      have href := hlevels.ref_eq hdecl
      obtain ⟨hmem, _⟩ := Callable.mem_of_decl? hdecl
      cases hscope : v.scope with
      | owner =>
        rw [hscope] at hmem
        obtain ⟨p, hp, rfl⟩ := mem_varsAt_owner.1 hmem
        obtain ⟨t, ht, hmention⟩ := mem_boundVars_typeVar.1 hw
        rw [← href] at ih
        exact .blockBound hp ih ht hmention
      | callable =>
        rw [hscope] at hmem
        obtain ⟨p, hp, rfl⟩ := mem_varsAt_callable.1 hmem
        obtain ⟨t, ht, hmention⟩ := mem_boundVars_typeVar.1 hw
        rw [← href] at ih
        exact .functionBound hp ih ht hmention
  · intro h
    induction h with
    | arg ha hv => exact .param (List.mem_map_of_mem ha) (Names.mem_vars_lower.2 hv)
    | returns hv => exact .returns (Names.mem_vars_lower.2 hv)
    | functionBound hp _ ht hv ih =>
      have hdecl := hlevels.decl?_ref (mem_varsAt_callable.2 ⟨_, hp, rfl⟩)
      exact .bound ih hdecl (mem_boundVars_typeVar.2 ⟨_, ht, hv⟩)
    | blockBound hp _ ht hv ih =>
      have hdecl := hlevels.decl?_ref (mem_varsAt_owner.2 ⟨_, hp, rfl⟩)
      exact .bound ih hdecl (mem_boundVars_typeVar.2 ⟨_, ht, hv⟩)

/-- A builder has the variables in use, and those that its receiver takes along. -/
theorem Accepted.declares_or_erases_iff (haccepted : d.Accepted)
    (hwell : d.callable.WellReached) {v : VarRef} :
    ((d.callable.synthesize d.callable.resolution).Declares v ∨
        (d.callable.synthesize d.callable.resolution).Erases v) ↔
      d.Uses v ∨ d.TakesAlong v := by
  have hlevels := haccepted.levelled
  have hnames := haccepted.callable_unshadowed
  rw [Callable.declares_iff hlevels hnames hwell, Callable.erases_iff hlevels hnames,
    ← haccepted.reached_iff_uses]
  constructor
  · intro hcases
    rcases hcases with hreached | ⟨w, hw, rfl⟩
    · exact .inl hreached
    · obtain ⟨hkind, hmem, _⟩ := Callable.mem_erasedVars.1 hw
      obtain ⟨p, hp, rfl⟩ := mem_varsAt_owner.1 hmem
      exact .inr ⟨hkind, p, hp, rfl⟩
  · intro hcases
    rcases hcases with hreached | ⟨hkind, p, hp, rfl⟩
    · exact .inl hreached
    · by_cases hreached : d.callable.Reached ⟨.owner, p.name⟩
      · exact .inl hreached
      · have hmem := mem_varsAt_owner.2 ⟨p, hp, rfl⟩
        exact .inr ⟨_, Callable.mem_erasedVars.2 ⟨hkind, hmem, hreached⟩, rfl⟩

end Declaration

namespace Manifest

/-- A builder of an accepted manifest has a generic parameter if and only if the declaration uses
its bare name or the receiver takes it along. So the parameters that longer paths start with are all
there if and only if each of them is there for such a reason. -/
theorem builder_has_iff_uses {source : String} {m : Manifest} (hread : read source = .ok m)
    {d : Declaration} (hd : d ∈ m.annotated) {c : Callable} (hextract : d.extract = .ok c)
    {b : Builder} (hgenerate : c.generate = .ok b) :
    (∀ v, (b.Declares v ∨ b.Erases v) ↔ d.Uses v ∨ d.TakesAlong v) ∧
      ((∀ v, d.Projects b v → b.Declares v ∨ b.Erases v) ↔
        ∀ v, d.Projects b v → d.Uses v ∨ d.TakesAlong v) := by
  have haccepted := accepted_of_read hread hd
  obtain ⟨_, rfl⟩ := Declaration.extract_eq_ok.1 hextract
  obtain ⟨r, hres, rfl⟩ := Callable.generate_eq_ok.1 hgenerate
  obtain ⟨hwell, _, rfl⟩ := Callable.resolve_eq_ok.1 hres
  have hiff := fun v => haccepted.declares_or_erases_iff hwell (v := v)
  exact ⟨hiff, forall_congr' fun v => imp_congr_right fun _ => hiff v⟩

/-- The function of `Bag<T, K>` uses `T` alone. -/
theorem bagBuilder_has_iff :
    read bagText = .ok bagManifest ∧ bagDeclaration ∈ bagManifest.annotated ∧
      bagDeclaration.extract = .ok bagDeclaration.callable ∧
      bagDeclaration.callable.generate = .ok bagBuilder ∧
      bagDeclaration.Uses ⟨.callable, "T"⟩ ∧ ¬ bagDeclaration.Uses ⟨.callable, "I"⟩ := by
  obtain ⟨hiff, _⟩ := builder_has_iff_uses read_bagText bagDeclaration_mem extract_bagDeclaration
    generate_bagDeclaration
  have hreceiver : ∀ v, ¬ bagBuilder.Erases v := by
    rintro v ⟨s, hs, _⟩
    cases hs
  have hkind : ∀ v, ¬ bagDeclaration.TakesAlong v := by
    rintro v ⟨hkind, _⟩
    cases hkind
  refine ⟨read_bagText, bagDeclaration_mem, extract_bagDeclaration, generate_bagDeclaration,
    ?_, ?_⟩
  · have hT : bagBuilder.Declares ⟨.callable, "T"⟩ := by decide +kernel
    exact ((hiff _).1 (.inl hT)).resolve_right (hkind _)
  · have hI : ¬ bagBuilder.Declares ⟨.callable, "I"⟩ := by decide +kernel
    exact fun huse => ((hiff _).2 (.inl huse)).elim hI (hreceiver _)

/-- It writes `I::Item`, and its builder has no `I`. -/
theorem bagBuilder_projects :
    read bagText = .ok bagManifest ∧ bagDeclaration ∈ bagManifest.annotated ∧
      bagDeclaration.extract = .ok bagDeclaration.callable ∧
      bagDeclaration.callable.generate = .ok bagBuilder ∧
      bagDeclaration.Projects bagBuilder ⟨.callable, "I"⟩ ∧
      ¬ (bagBuilder.Declares ⟨.callable, "I"⟩ ∨ bagBuilder.Erases ⟨.callable, "I"⟩) := by
  refine ⟨read_bagText, bagDeclaration_mem, extract_bagDeclaration, generate_bagDeclaration,
    ⟨by decide +kernel, .inl ⟨_, List.mem_cons_of_mem _ List.mem_cons_self, by decide +kernel⟩⟩, ?_⟩
  intro hcases
  rcases hcases with hdeclares | ⟨s, hs, _⟩
  · exact absurd hdeclares (by decide +kernel)
  · cases hs

end Manifest

end Buildwright
