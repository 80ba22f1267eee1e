import Buildwright.Proofs.Builder.Synthesis
import Buildwright.Proofs.Callable.Resolution
import Buildwright.Proofs.Declaration.Extraction

/-!
# Builders are closed

Every variable that a builder's types refer to is declared by the builder, or, in a receiver, kept
for the receiver. An associated call has the unit type in the place of the owner's other variables.
-/

namespace Buildwright

namespace Builder

def Declares (b : Builder) (v : VarRef) : Prop :=
  ∃ w ∈ b.typeVars, w.origin = v.scope ∧ w.name = v.name

instance (b : Builder) (v : VarRef) : Decidable (b.Declares v) :=
  inferInstanceAs (Decidable (∃ w ∈ b.typeVars, w.origin = v.scope ∧ w.name = v.name))

/-- The builder keeps such a variable for its receiver. -/
def Erases (b : Builder) (v : VarRef) : Prop :=
  ∃ s, b.receiver = some s ∧ ∃ w ∈ s.erased, w.origin = v.scope ∧ w.name = v.name

/-- Every reference in a builder's types has its declaration. -/
structure Closed (b : Builder) : Prop where
  field : ∀ f ∈ b.fields, ∀ v ∈ f.ty.vars, b.Declares v
  result : ∀ v ∈ b.terminal.result.vars, b.Declares v
  owner : ∀ o f, b.terminal.target = .associated o f → ∀ v ∈ o.vars, b.Declares v
  bound : ∀ w ∈ b.typeVars, ∀ t ∈ w.bounds, ∀ v ∈ t.vars, b.Declares v
  receiver : ∀ s, b.receiver = some s → ∀ v ∈ s.ty.vars, b.Declares v ∨ b.Erases v
  erasedBound : ∀ s, b.receiver = some s → ∀ w ∈ s.erased, ∀ t ∈ w.bounds, ∀ v ∈ t.vars,
    b.Declares v ∨ b.Erases v

end Builder

namespace Callable

/-! ## What the builder of a callable declares -/

theorem mem_declared {c : Callable} (hlevels : c.Levelled) {w : TypeVar} :
    w ∈ c.reachedAt .callable ++ c.reachedAt .owner ↔ w ∈ c.varsAt w.scope ∧ c.Reached w.ref := by
  rw [List.mem_append, mem_reachedAt, mem_reachedAt]
  constructor
  · intro hcases
    rcases hcases with ⟨hw, hreached⟩ | ⟨hw, hreached⟩
    · exact ⟨(hlevels.scope_eq _ w hw).symm ▸ hw, hreached⟩
    · exact ⟨(hlevels.scope_eq _ w hw).symm ▸ hw, hreached⟩
  · rintro ⟨hw, hreached⟩
    cases hscope : w.scope with
    | owner => exact .inr ⟨hscope ▸ hw, hreached⟩
    | callable => exact .inl ⟨hscope ▸ hw, hreached⟩

variable {c : Callable}

theorem declares_of_reached (hlevels : c.Levelled) (hwell : c.WellReached) {v : VarRef}
    (hv : c.Reached v) :
    (c.synthesize c.resolution).Declares ⟨v.scope, c.renames.nameOf v⟩ := by
  obtain ⟨d, hd⟩ := (hwell v hv).1
  have href : d.ref = v := hlevels.ref_eq hd
  have hmem : d ∈ c.varsAt d.scope := by
    have hd' := (mem_of_decl? hd).1
    rwa [← href] at hd'
  have hreached : c.Reached d.ref := href.symm ▸ hv
  refine ⟨_, List.mem_map_of_mem ((mem_declared hlevels).2 ⟨hmem, hreached⟩), ?_⟩
  rw [← href]
  exact ⟨rfl, rfl⟩

/-- A builder for an instance declares all variables of the owner or keeps them for the receiver. -/
theorem declares_or_erases_of_owner (hlevels : c.Levelled) (hwell : c.WellReached)
    (hkind : c.kind.isInstance = true) {d : TypeVar} (hd : d ∈ c.varsAt .owner) :
    (c.synthesize c.resolution).Declares ⟨d.scope, c.renames.nameOf d.ref⟩ ∨
      (c.synthesize c.resolution).Erases ⟨d.scope, c.renames.nameOf d.ref⟩ := by
  by_cases hreached : c.Reached d.ref
  · exact .inl (declares_of_reached hlevels hwell hreached)
  · right
    obtain ⟨mode, hmode⟩ := Option.isSome_iff_exists.1 hkind
    refine ⟨_, by rw [synthesize, hmode]; rfl, builderVar c.renames d, ?_, rfl, rfl⟩
    exact List.mem_map_of_mem (mem_erasedVars.2 ⟨hkind, hd, hreached⟩)

theorem ref_eq_of_builderVar (hlevels : c.Levelled) (hnames : c.Unshadowed) {d : TypeVar}
    {v : VarRef} (hscope : (builderVar c.renames d).origin = v.scope)
    (hname : (builderVar c.renames d).name = v.name) : d.ref = v := by
  obtain ⟨scope, name⟩ := v
  have hown : c.renames.nameOf d.ref = d.name := hlevels.nameOf_unshadowed hnames d.ref
  cases hscope
  cases hname
  exact congrArg (VarRef.mk d.scope) hown.symm

/-- Without shadowing, a builder declares what is reached, under its own name. -/
theorem declares_iff (hlevels : c.Levelled) (hnames : c.Unshadowed) (hwell : c.WellReached)
    {v : VarRef} : (c.synthesize c.resolution).Declares v ↔ c.Reached v := by
  constructor
  · rintro ⟨_, hw, hscope, hname⟩
    obtain ⟨d, hd, rfl⟩ := List.mem_map.1 hw
    rw [← ref_eq_of_builderVar hlevels hnames hscope hname]
    exact ((mem_declared hlevels).1 hd).2
  · intro hv
    have hdeclares := declares_of_reached hlevels hwell hv
    rwa [hlevels.nameOf_unshadowed hnames] at hdeclares

/-- Without shadowing, a builder keeps the owner's other variables for a receiver. -/
theorem erases_iff (hlevels : c.Levelled) (hnames : c.Unshadowed) {v : VarRef} :
    (c.synthesize c.resolution).Erases v ↔ ∃ w ∈ c.erasedVars, w.ref = v := by
  constructor
  · rintro ⟨s, hs, w, hw, hscope, hname⟩
    obtain ⟨_, _, herased⟩ := receiver_eq_some hs
    rw [herased] at hw
    obtain ⟨d, hd, rfl⟩ := List.mem_map.1 hw
    exact ⟨d, hd, ref_eq_of_builderVar hlevels hnames hscope hname⟩
  · rintro ⟨w, hw, rfl⟩
    obtain ⟨hkind, _, _⟩ := mem_erasedVars.1 hw
    obtain ⟨mode, hmode⟩ := Option.isSome_iff_exists.1 hkind
    refine ⟨_, by rw [synthesize, hmode]; rfl, builderVar c.renames w, ?_, rfl, ?_⟩
    · exact List.mem_map_of_mem hw
    · exact hlevels.nameOf_unshadowed hnames w.ref

/-- In an associated call the unit type stands for the owner variables that are not reached. -/
theorem mem_instantiated (hkind : c.kind.isInstance = false) {d : TypeVar}
    (hd : d ∈ c.varsAt .owner) : d.ref ∈ c.resolution.instantiated ↔ ¬ c.Reached d.ref := by
  have hinst : c.resolution.instantiated = (c.unreachedAt .owner).map (·.ref) :=
    if_neg (by simp [hkind])
  rw [hinst, List.mem_map]
  constructor
  · rintro ⟨w, hw, href⟩
    rw [← href]
    exact (mem_unreachedAt.1 hw).2
  · intro hreached
    exact ⟨d, mem_unreachedAt.2 ⟨hd, hreached⟩, rfl⟩

/-! ## Closedness -/

/-- Bounds of the builder's variables are the bounds of declarations under the builder's names. -/
theorem mem_vars_bound {r : Renames} {d : TypeVar} {t : Ty} (ht : t ∈ (builderVar r d).bounds)
    {v : VarRef} (hv : v ∈ t.vars) : ∃ w ∈ d.boundVars, v = ⟨w.scope, r.nameOf w⟩ := by
  obtain ⟨bound, hbound, rfl⟩ := List.mem_map.1 ht
  rw [Ty.vars_rename, List.mem_map] at hv
  obtain ⟨w, hw, rfl⟩ := hv
  exact ⟨w, List.mem_flatMap.2 ⟨bound, hbound, hw⟩, rfl⟩

theorem synthesize_closed (hlevels : c.Levelled) (howner : c.OwnerClosed) (hwell : c.WellReached) :
    (c.synthesize c.resolution).Closed where
  field f hf v hv := by
    obtain ⟨p, hp, hty⟩ := exists_param_of_field hf
    rw [hty] at hv
    obtain ⟨w, hw, rfl⟩ := Resolution.mem_vars_substitute.1 hv
    exact declares_of_reached hlevels hwell (.param hp hw)
  result v hv := by
    obtain ⟨w, hw, rfl⟩ := Resolution.mem_vars_substitute.1 hv
    exact declares_of_reached hlevels hwell (.returns hw)
  owner o f htarget v hv := by
    obtain ⟨hkind, rfl⟩ := target_eq_associated htarget
    rw [Resolution.vars_instantiate, List.mem_map] at hv
    obtain ⟨w, hw, rfl⟩ := hv
    obtain ⟨hmem, hkept⟩ := List.mem_filter.1 hw
    obtain ⟨d, hd, rfl⟩ := howner.selfTy w hmem
    have hkept : d.ref ∉ c.resolution.instantiated := by simpa using hkept
    rw [mem_instantiated hkind hd, not_not] at hkept
    exact declares_of_reached hlevels hwell hkept
  bound w hw t ht v hv := by
    obtain ⟨d, hd, rfl⟩ := List.mem_map.1 hw
    obtain ⟨u, hu, rfl⟩ := mem_vars_bound ht hv
    obtain ⟨hmem, hreached⟩ := (mem_declared hlevels).1 hd
    exact declares_of_reached hlevels hwell (.bound hreached (hlevels.decl?_ref hmem) hu)
  receiver s hs v hv := by
    obtain ⟨hkind, hty, _⟩ := receiver_eq_some hs
    rw [hty] at hv
    obtain ⟨w, hw, rfl⟩ := Resolution.mem_vars_substitute.1 hv
    obtain ⟨d, hd, rfl⟩ := howner.selfTy w hw
    exact declares_or_erases_of_owner hlevels hwell hkind hd
  erasedBound s hs w hw t ht v hv := by
    obtain ⟨hkind, _, herased⟩ := receiver_eq_some hs
    rw [herased] at hw
    obtain ⟨d, hd, rfl⟩ := List.mem_map.1 hw
    obtain ⟨u, hu, rfl⟩ := mem_vars_bound ht hv
    obtain ⟨d', hd', rfl⟩ := howner.bound d (mem_erasedVars.1 hd).2.1 u hu
    exact declares_or_erases_of_owner hlevels hwell hkind hd'

/-- Without shadowing, an associated call is made through the owner's type with the unit type for
each variable of the owner that the builder does not declare. -/
theorem instantiate_selfTy (hlevels : c.Levelled) (hnames : c.Unshadowed) (howner : c.OwnerClosed)
    (hwell : c.WellReached) (hkind : c.kind.isInstance = false) :
    c.resolution.instantiate c.owner.selfTy =
      (c.resolution.substitute c.owner.selfTy).substitute fun v =>
        if v.scope = .owner ∧ ¬ (c.synthesize c.resolution).Declares v then some .unit
        else none := by
  have hrename : ∀ t : Ty, c.resolution.substitute t = t := fun t =>
    Ty.rename_eq_self fun v _ => hlevels.nameOf_unshadowed hnames v
  rw [Resolution.instantiate, hrename, hrename]
  refine Tree.bind_congr fun v hv => ?_
  obtain ⟨d, hd, rfl⟩ := howner.selfTy v hv
  have hscope : d.ref.scope = .owner := hlevels.scope_eq .owner d hd
  have hunit := mem_instantiated hkind hd
  rw [← declares_iff hlevels hnames hwell] at hunit
  congr 1
  beta_reduce
  by_cases hdeclares : (c.synthesize c.resolution).Declares d.ref
  · have hkept : d.ref ∉ c.resolution.instantiated := fun h => hunit.1 h hdeclares
    rw [if_neg (by simpa using hkept), if_neg fun h => h.2 hdeclares]
  · have hgone : d.ref ∈ c.resolution.instantiated := hunit.2 hdeclares
    rw [if_pos (by simpa using hgone), if_pos ⟨hscope, hdeclares⟩]

end Callable

namespace Manifest

/-- Every builder of an accepted manifest is closed, and the owner of an associated call is the self
type under the builder's names, with the unit type for exactly the owner's undeclared variables. -/
theorem builder_closed_of_read {source : String} {m : Manifest} (hread : read source = .ok m)
    {d : Declaration} (hd : d ∈ m.annotated) {c : Callable} (hextract : d.extract = .ok c)
    {b : Builder} (hgenerate : c.generate = .ok b) :
    b.Closed ∧
      ∃ r, c.resolve = .ok r ∧ ∀ o f, b.terminal.target = .associated o f →
        o = (r.substitute c.owner.selfTy).substitute fun v =>
          if v.scope = .owner ∧ ¬ b.Declares v then some .unit else none := by
  have haccepted := accepted_of_read hread hd
  obtain ⟨_, rfl⟩ := Declaration.extract_eq_ok.1 hextract
  obtain ⟨r, hres, rfl⟩ := Callable.generate_eq_ok.1 hgenerate
  obtain ⟨hwell, _, rfl⟩ := Callable.resolve_eq_ok.1 hres
  have howner := d.callable_ownerClosed
  refine ⟨Callable.synthesize_closed haccepted.levelled howner hwell, _, hres, ?_⟩
  intro o f htarget
  obtain ⟨hkind, rfl⟩ := Callable.target_eq_associated htarget
  exact Callable.instantiate_selfTy haccepted.levelled haccepted.callable_unshadowed howner hwell
    hkind

theorem extract_bagDeclaration :
    bagDeclaration.extract = .ok bagDeclaration.callable :=
  Declaration.extract_eq_ok.2 ⟨by decide +kernel, rfl⟩

def bagBuilder : Builder where
  name := "OfBuilder"
  source := ⟨"Bag<T, K>::of(T, Vec<I::Item>)"⟩
  typeVars := [⟨"T", .callable, []⟩]
  receiver := none
  fields :=
    [⟨"item", .var ⟨.callable, "T"⟩, .default⟩,
      ⟨"rest", .path false [.mk "Vec" [.type (.path false [.mk "I" [], .mk "Item" []])]],
        .default⟩]
  setters := [⟨"setItem", "item"⟩, ⟨"setRest", "rest"⟩]
  terminalName := "build"
  terminal :=
    { target :=
        .associated (.path false [.mk "Bag" [.type (.name "T"), .type .unit]]) "of"
      args := ["item", "rest"]
      result := .unit }
  phantom := []

theorem generate_bagDeclaration :
    bagDeclaration.callable.generate = .ok bagBuilder := by
  cbv

/-- The undeclared `K` of the owner gives way to the unit type, its `T` stays. -/
theorem bagBuilder_closed :
    read bagText = .ok bagManifest ∧ bagDeclaration ∈ bagManifest.annotated ∧
      bagDeclaration.extract = .ok bagDeclaration.callable ∧
      bagDeclaration.callable.generate = .ok bagBuilder ∧ bagBuilder.Closed ∧
      ∃ r, bagDeclaration.callable.resolve = .ok r ∧
        Tree.path false [.mk "Bag" [.type (.name "T"), .type .unit]] =
          (r.substitute bagDeclaration.selfTy).substitute fun v =>
            if v.scope = .owner ∧ ¬ bagBuilder.Declares v then some .unit else none := by
  obtain ⟨hclosed, r, hres, howner⟩ := builder_closed_of_read read_bagText bagDeclaration_mem
    extract_bagDeclaration generate_bagDeclaration
  exact ⟨read_bagText, bagDeclaration_mem, extract_bagDeclaration, generate_bagDeclaration,
    hclosed, r, hres, howner _ _ rfl⟩

end Manifest

end Buildwright
