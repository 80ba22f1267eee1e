import Buildwright.Builder.Synthesis
import Buildwright.Proofs.Builder.Scope
import Buildwright.Proofs.Callable.Unresolved

/-!
# Well-formed callables

What resolution and synthesis rely on: names are distinct, and every reference has a declaration at
the level that it says. The callables of an accepted manifest are like that, so resolution takes
their types as they are, and only ever refuses an owner variable in a static method.
-/

namespace Buildwright

namespace Callable

def Declares (c : Callable) (v : VarRef) : Prop := v.name ∈ (c.varsAt v.scope).map (·.name)

structure WellFormed (c : Callable) : Prop where
  hasParam : c.params ≠ []
  paramNodup : (c.params.map (·.name)).Nodup
  scope : ∀ s, ∀ u ∈ c.varsAt s, u.scope = s
  /-- No two variables have one name, be it at one level or at both. -/
  varNodup : ((c.typeVars ++ c.owner.typeVars).map (·.name)).Nodup
  selfTy : ∀ v ∈ c.owner.selfTy.vars, v.scope = .owner ∧ c.Declares v
  ownerBound : ∀ u ∈ c.owner.typeVars, ∀ v ∈ u.boundVars, v.scope = .owner ∧ c.Declares v
  param : ∀ p ∈ c.params, ∀ v ∈ p.ty.vars, c.Declares v
  returns : ∀ v ∈ c.returns.vars, c.Declares v
  bound : ∀ u ∈ c.typeVars, ∀ v ∈ u.boundVars, c.Declares v

variable {c : Callable}

theorem declares_iff_decl? {v : VarRef} : c.Declares v ↔ ∃ d, c.decl? v = some d := by
  rw [exists_decl?, Declares, List.mem_map]

namespace WellFormed

theorem levelled (h : c.WellFormed) : c.Levelled where
  scope_eq := h.scope
  nodup s := by
    have hnames := h.varNodup
    rw [List.map_append, List.nodup_append] at hnames
    cases s with
    | owner => exact hnames.2.1
    | callable => exact hnames.1

theorem unshadowed (h : c.WellFormed) : c.Unshadowed := by
  intro v hv w hw
  have hnames := h.varNodup
  rw [List.map_append, List.nodup_append] at hnames
  exact hnames.2.2 _ (List.mem_map_of_mem hw) _ (List.mem_map_of_mem hv)

/-- All that the types lead to is declared, as bounds refer to declared variables again. -/
theorem declared_of_reached (h : c.WellFormed) {v : VarRef} (hv : c.Reached v) : c.Declares v := by
  cases hv with
  | param hp hv => exact h.param _ hp v hv
  | returns hv => exact h.returns v hv
  | @bound u _ d _ hd hv =>
    obtain ⟨hmem, _⟩ := mem_of_decl? hd
    cases hscope : u.scope with
    | owner =>
      rw [hscope] at hmem
      exact (h.ownerBound d hmem v hv).2
    | callable =>
      rw [hscope] at hmem
      exact h.bound d hmem v hv

theorem renames_eq_nil (h : c.WellFormed) : c.renames = [] := by
  refine ownerRenames_eq_nil h.levelled.nodup_named fun v hv hmem => ?_
  obtain ⟨w, hw, hname⟩ := List.mem_map.1 hmem
  exact h.unshadowed v (mem_owner_of_mem_named hv) w (mem_reachedAt.1 hw).1 hname

theorem substitute_eq (h : c.WellFormed) (t : Ty) : c.resolution.substitute t = t := by
  refine Ty.rename_eq_self fun v _ => ?_
  show c.renames.nameOf v = v.name
  rw [h.renames_eq_nil]
  rfl

theorem builderVar_eq (h : c.WellFormed) (v : TypeVar) :
    builderVar c.renames v = ⟨v.name, v.scope, v.bounds⟩ := by
  have hname : c.renames.nameOf v.ref = v.name := by
    rw [h.renames_eq_nil]
    rfl
  have hbounds : v.bounds.map (fun b => b.rename c.renames.nameOf) = v.bounds :=
    (List.map_congr_left fun b _ => h.substitute_eq b).trans (List.map_id _)
  rw [builderVar, hname, hbounds]

theorem of_resolve (h : c.WellFormed) {r : Resolution} (hres : c.resolve = .ok r) :
    r.renames = [] ∧
      (∀ b ∈ r.typeVars ++ r.erased, ∃ v ∈ c.typeVars ++ c.owner.typeVars,
        b = ⟨v.name, v.scope, v.bounds⟩) ∧
      (c.synthesize r).fields.map (·.ty) = c.params.map (·.ty) ∧
      (c.synthesize r).terminal.result = c.returns := by
  obtain ⟨_, _, rfl⟩ := resolve_eq_ok.1 hres
  refine ⟨h.renames_eq_nil, fun b hb => ?vars, ?fields, h.substitute_eq _⟩
  case vars =>
    have hmem : ∃ v ∈ c.typeVars ++ c.owner.typeVars, builderVar c.renames v = b := by
      rcases List.mem_append.1 hb with hb | hb
      · obtain ⟨v, hv, rfl⟩ := List.mem_map.1 hb
        rcases List.mem_append.1 hv with hv | hv
        · exact ⟨v, List.mem_append_left _ (mem_reachedAt.1 hv).1, rfl⟩
        · exact ⟨v, List.mem_append_right _ (mem_reachedAt.1 hv).1, rfl⟩
      · obtain ⟨v, hv, rfl⟩ := List.mem_map.1 hb
        exact ⟨v, List.mem_append_right _ (mem_erasedVars.1 hv).2.1, rfl⟩
    obtain ⟨v, hv, rfl⟩ := hmem
    exact ⟨v, hv, h.builderVar_eq v⟩
  case fields =>
    show (c.params.map _).map _ = _
    rw [List.map_map]
    exact List.map_congr_left fun p _ => h.substitute_eq p.ty

/-- The only references that are refused are those of a static method to its owner's variables. -/
theorem of_resolve_eq_unresolved (h : c.WellFormed) {signature : SignatureKey}
    {place name : String} (hres : c.resolve = .error (.unresolved signature place name)) :
    c.kind = .static ∧ signature = c.signature ∧
      ∃ v, v.scope = .owner ∧ v.name = name ∧ c.Declares v ∧ c.Cites place v := by
  obtain hrefuses | ⟨_, _, hunit⟩ := resolve_eq_error hres
  · cases hrefuses with
    | @forbidden _ v hcites hallows =>
      rw [Allows, Classical.not_imp, not_not] at hallows
      exact ⟨hallows.1, rfl, v, hallows.2, rfl, h.declared_of_reached hcites.reached, hcites⟩
    | @undeclared v hv hd =>
      obtain ⟨d, hd'⟩ := declares_iff_decl?.1 (h.declared_of_reached hv)
      rw [hd] at hd'
      cases hd'
  · cases hunit

end WellFormed

end Callable

namespace Declaration

variable {d : Declaration}

theorem declares_of_owner {v : VarRef} (h : ∃ u ∈ d.callable.varsAt .owner, u.ref = v) :
    v.scope = .owner ∧ d.callable.Declares v := by
  obtain ⟨u, hu, rfl⟩ := h
  obtain ⟨p, _, rfl⟩ := List.mem_map.1 hu
  exact ⟨rfl, List.mem_map_of_mem hu⟩

theorem names_mentions {t : TypeExpr} {v : VarRef} (h : d.names.Mentions t v) :
    d.callable.Declares v := by
  rcases h with ⟨_, _, hmeaning⟩ | ⟨_, self, hself, hv⟩
  · obtain ⟨_, ⟨hscope, hname⟩ | ⟨hscope, _, hname⟩⟩ := Names.varOf?_eq_some.1 hmeaning
    · rw [Callable.Declares, hscope, varsAt_callable, List.map_map]
      exact hname
    · rw [Callable.Declares, hscope, varsAt_owner, List.map_map]
      exact hname
  · cases hself
    exact (declares_of_owner (d.callable_ownerClosed.selfTy v hv)).2

theorem wellFormed (haccepted : d.Accepted) (hnamed : d.Named) (hfault : d.fault? = none) :
    d.callable.WellFormed where
  hasParam hnone := by
    have hargs : d.function.args = [] := List.map_eq_nil_iff.1 hnone
    rw [fault?, hargs] at hfault
    cases hfault
  paramNodup := by
    show ((d.function.args.map _).map _).Nodup
    rw [List.map_map]
    exact hnamed.argNodup
  scope := haccepted.levelled.scope_eq
  varNodup := by
    rw [List.map_append, List.nodup_append]
    refine ⟨haccepted.levelled.nodup .callable, haccepted.levelled.nodup .owner, ?_⟩
    intro s hs s' hs'
    obtain ⟨w, hw, rfl⟩ := List.mem_map.1 hs
    obtain ⟨v, hv, rfl⟩ := List.mem_map.1 hs'
    exact haccepted.callable_unshadowed v hv w hw
  selfTy v hv := declares_of_owner (d.callable_ownerClosed.selfTy v hv)
  ownerBound u hu v hv := declares_of_owner (d.callable_ownerClosed.bound u hu v hv)
  param p hp v hv := by
    obtain ⟨a, _, rfl⟩ := List.mem_map.1 hp
    exact names_mentions (Names.mem_vars_lower.1 hv)
  returns v hv := names_mentions (Names.mem_vars_lower.1 hv)
  bound u hu v hv := by
    obtain ⟨p, _, rfl⟩ := List.mem_map.1 hu
    obtain ⟨b, hb, hv⟩ := List.mem_flatMap.1 hv
    obtain ⟨t, _, rfl⟩ := List.mem_map.1 hb
    exact names_mentions (Names.mem_vars_lower.1 hv)

end Declaration

namespace Manifest

/-- Extraction makes well-formed callables of an accepted manifest. So the builder of one has its
types as they are, and the only references that are refused are those of a static method to its
owner's variables. -/
theorem extract_wellFormed {source : String} {m : Manifest} (hread : read source = .ok m)
    {d : Declaration} (hd : d ∈ m.annotated) {c : Callable} (hextract : d.extract = .ok c) :
    c.WellFormed ∧
      (∀ r, c.resolve = .ok r →
        r.renames = [] ∧
          (∀ b ∈ r.typeVars ++ r.erased, ∃ v ∈ c.typeVars ++ c.owner.typeVars,
            b = ⟨v.name, v.scope, v.bounds⟩) ∧
          (c.synthesize r).fields.map (·.ty) = c.params.map (·.ty) ∧
          (c.synthesize r).terminal.result = c.returns) ∧
      ∀ signature place name, c.resolve = .error (.unresolved signature place name) →
        c.kind = .static ∧ signature = c.signature ∧
          ∃ v, v.scope = .owner ∧ v.name = name ∧ c.Declares v ∧ c.Cites place v := by
  obtain ⟨hfault, rfl⟩ := Declaration.extract_eq_ok.1 hextract
  have hwell := Declaration.wellFormed (accepted_of_read hread hd) (named_of_read hread hd) hfault
  exact ⟨hwell, fun _ hres => hwell.of_resolve hres,
    fun _ _ _ hres => hwell.of_resolve_eq_unresolved hres⟩

theorem bagDeclaration_wellFormed :
    read bagText = .ok bagManifest ∧ bagDeclaration ∈ bagManifest.annotated ∧
      bagDeclaration.extract = .ok bagDeclaration.callable ∧
      bagDeclaration.callable.WellFormed :=
  ⟨read_bagText, bagDeclaration_mem, extract_bagDeclaration,
    (extract_wellFormed read_bagText bagDeclaration_mem extract_bagDeclaration).1⟩

end Manifest

end Buildwright
