import Buildwright.Proofs.Builder.Scope
import Buildwright.Proofs.Callable.Names
import Buildwright.Source.BuilderCode

/-!
# Names that a builder's parameters capture

Variables and concrete types are written alike, so a parameter of a builder captures a concrete type
of the same name. The parameter has its name from the source, or it was given a fresh one, for which
only names of variables are avoided. In a builder of an accepted manifest there are no fresh names:
a captured type comes from the block, and the parameter is the function's own.
-/

namespace Buildwright

namespace Builder

/-- The generic parameters: the declared variables and those that the receiver keeps. -/
def parameters (b : Builder) : List BuilderVar :=
  b.typeVars ++ (b.receiver.map (·.erased)).getD []

def callOwner? (b : Builder) : Option Ty :=
  match b.terminal.target with
  | .associated o _ => some o
  | .method _ => none

def types (b : Builder) : List Ty :=
  b.fields.map (·.ty) ++ (b.receiver.map (·.ty)).toList ++ b.callOwner?.toList ++
    [b.terminal.result] ++ b.parameters.flatMap (·.bounds)

/-- A generic parameter has the name of a concrete type that is a path of one segment. -/
def Captures (b : Builder) (s : String) : Prop :=
  (∃ v ∈ b.parameters, v.name = s) ∧ ∃ t ∈ b.types, s ∈ t.loneNames

instance (b : Builder) (s : String) : Decidable (b.Captures s) :=
  inferInstanceAs (Decidable ((∃ v ∈ b.parameters, v.name = s) ∧ ∃ t ∈ b.types, s ∈ t.loneNames))

end Builder

namespace Resolution

theorem mem_loneNames_substitute {r : Resolution} {t : Ty} {s : String} :
    s ∈ (r.substitute t).loneNames ↔ s ∈ t.loneNames :=
  Tree.mem_loneNames_bind_iff fun _ => rfl

theorem mem_loneNames_instantiate {r : Resolution} {t : Ty} {s : String} :
    s ∈ (r.instantiate t).loneNames ↔ s ∈ t.loneNames := by
  rw [instantiate, mem_loneNames_substitute]
  refine Tree.mem_loneNames_bind_iff fun v => ?_
  beta_reduce
  split <;> rfl

end Resolution

namespace Callable

/-- A concrete type of this name stands in the callable's types or in a bound of such a variable. -/
def HasConcrete (c : Callable) (s : String) : Prop :=
  (∃ p ∈ c.params, s ∈ p.ty.loneNames) ∨ s ∈ c.owner.selfTy.loneNames ∨
    s ∈ c.returns.loneNames ∨ ∃ d ∈ c.keptVars, ∃ t ∈ d.bounds, s ∈ t.loneNames

/-- A variable of the builder has this name from the source. -/
def HasWritten (c : Callable) (s : String) : Prop :=
  ∃ v ∈ c.keptVars, v.name = s ∧ c.renames.nameOf v.ref = s

/-- A variable of the builder is given this name in place of its own. -/
def HasFresh (c : Callable) (s : String) : Prop :=
  ∃ v ∈ c.keptVars, v.name ≠ s ∧ c.renames.nameOf v.ref = s

theorem mem_of_kept {c : Callable} {w : TypeVar} (h : w ∈ c.keptVars) :
    w ∈ c.varsAt .owner ∨ w ∈ c.reachedAt .callable := by
  rcases List.mem_append.1 h with h | h
  · exact .inr h
  · exact .inl (mem_owner_of_mem_named h)

/-- Without shadowing, an owner variable is kept if the builder declares or erases it. -/
theorem mem_keptVars_owner {c : Callable} (hlevels : c.Levelled) (hnames : c.Unshadowed)
    (hwell : c.WellReached) {w : TypeVar} (hw : w ∈ c.varsAt .owner) :
    w ∈ c.keptVars ↔
      (c.synthesize c.resolution).Declares w.ref ∨ (c.synthesize c.resolution).Erases w.ref := by
  rw [declares_iff hlevels hnames hwell, erases_iff hlevels hnames, keptVars, List.mem_append,
    List.mem_append]
  constructor
  · intro hcases
    rcases hcases with h | h | h
    · exact .inl (mem_reachedAt.1 h).2
    · exact .inl (mem_reachedAt.1 h).2
    · exact .inr ⟨w, h, rfl⟩
  · intro hcases
    rcases hcases with h | ⟨u, hu, href⟩
    · exact .inr (.inl (mem_reachedAt.2 ⟨hw, h⟩))
    · have hdecl := hlevels.decl?_ref (mem_erasedVars.1 hu).2.1
      rw [href, hlevels.decl?_ref hw] at hdecl
      cases hdecl
      exact .inr (.inr hu)

theorem parameters_synthesize (c : Callable) :
    (c.synthesize c.resolution).parameters = c.keptVars.map (builderVar c.renames) := by
  have hreceiver : ((c.synthesize c.resolution).receiver.map (·.erased)).getD [] =
      c.erasedVars.map (builderVar c.renames) := by
    cases hkind : c.kind.receiver? with
    | none =>
      have herased : c.erasedVars = [] :=
        if_neg (by simp [CallableKind.isInstance, hkind])
      simp [synthesize, hkind, herased]
    | some mode => simp [synthesize, hkind, resolution]
  rw [Builder.parameters, hreceiver, keptVars, ← List.append_assoc, List.map_append]
  rfl

theorem mem_selfTypes {c : Callable} {s : String} :
    (∃ t ∈ ((c.synthesize c.resolution).receiver.map (·.ty)).toList ++
        (c.synthesize c.resolution).callOwner?.toList, s ∈ t.loneNames) ↔
      s ∈ c.owner.selfTy.loneNames := by
  cases hkind : c.kind.receiver? with
  | none =>
    have howner : (c.synthesize c.resolution).callOwner? =
        some (c.resolution.instantiate c.owner.selfTy) := by
      simp [Builder.callOwner?, synthesize, CallableKind.isInstance, hkind]
    have hreceiver : (c.synthesize c.resolution).receiver = none := by simp [synthesize, hkind]
    rw [howner, hreceiver]
    simpa using Resolution.mem_loneNames_instantiate
  | some mode =>
    have howner : (c.synthesize c.resolution).callOwner? = none := by
      simp [Builder.callOwner?, synthesize, CallableKind.isInstance, hkind]
    have hreceiver : (c.synthesize c.resolution).receiver.map (·.ty) =
        some (c.resolution.substitute c.owner.selfTy) := by
      simp [synthesize, hkind]
    rw [howner, hreceiver]
    simpa using Resolution.mem_loneNames_substitute

theorem mem_fieldTypes {c : Callable} {s : String} :
    (∃ t ∈ (c.synthesize c.resolution).fields.map (·.ty), s ∈ t.loneNames) ↔
      ∃ p ∈ c.params, s ∈ p.ty.loneNames := by
  constructor
  · rintro ⟨t, ht, hs⟩
    obtain ⟨f, hf, rfl⟩ := List.mem_map.1 ht
    obtain ⟨p, hp, hty⟩ := exists_param_of_field hf
    rw [hty, Resolution.mem_loneNames_substitute] at hs
    exact ⟨p, hp, hs⟩
  · rintro ⟨p, hp, hs⟩
    obtain ⟨f, hf, hty⟩ := exists_field_of_param c.resolution hp
    refine ⟨f.ty, List.mem_map_of_mem hf, ?_⟩
    rw [hty, Resolution.mem_loneNames_substitute]
    exact hs

theorem mem_boundTypes {c : Callable} {s : String} :
    (∃ t ∈ (c.synthesize c.resolution).parameters.flatMap (·.bounds), s ∈ t.loneNames) ↔
      ∃ d ∈ c.keptVars, ∃ t ∈ d.bounds, s ∈ t.loneNames := by
  have hrename : ∀ t : Ty, s ∈ (t.rename c.renames.nameOf).loneNames ↔ s ∈ t.loneNames :=
    fun t => Tree.mem_loneNames_bind_iff fun _ => rfl
  simp only [parameters_synthesize, List.mem_flatMap, List.mem_map, exists_exists_and_eq_and,
    builderVar]
  constructor
  · rintro ⟨_, ⟨d, hd, t, ht, rfl⟩, hs⟩
    exact ⟨d, hd, t, ht, (hrename t).1 hs⟩
  · rintro ⟨d, hd, t, ht, hs⟩
    exact ⟨_, ⟨d, hd, t, ht, rfl⟩, (hrename t).2 hs⟩

/-- Generation takes over the names of the callable's concrete types and brings in no others. -/
theorem exists_loneName_types {c : Callable} {s : String} :
    (∃ t ∈ (c.synthesize c.resolution).types, s ∈ t.loneNames) ↔ c.HasConcrete s := by
  have hresult : s ∈ (c.synthesize c.resolution).terminal.result.loneNames ↔
      s ∈ c.returns.loneNames := Resolution.mem_loneNames_substitute
  rw [HasConcrete, ← mem_fieldTypes, ← mem_selfTypes, ← hresult, ← mem_boundTypes]
  simp only [Builder.types, List.mem_append, List.mem_singleton, or_and_right, exists_or,
    exists_eq_left, or_assoc]

theorem exists_parameter_name {c : Callable} {s : String} :
    (∃ v ∈ (c.synthesize c.resolution).parameters, v.name = s) ↔ c.HasWritten s ∨ c.HasFresh s := by
  rw [parameters_synthesize]
  constructor
  · rintro ⟨_, hv, hs⟩
    obtain ⟨w, hw, rfl⟩ := List.mem_map.1 hv
    by_cases hname : w.name = s
    · exact .inl ⟨w, hw, hname, hs⟩
    · exact .inr ⟨w, hw, hname, hs⟩
  · rintro (⟨w, hw, -, hs⟩ | ⟨w, hw, -, hs⟩) <;> exact ⟨_, List.mem_map_of_mem hw, hs⟩

/-- A concrete type is captured if and only if the callable has it already and a variable of the
builder has or gets its name. -/
theorem captures_iff {c : Callable} {b : Builder} (h : c.generate = .ok b) {s : String} :
    b.Captures s ↔ (c.HasWritten s ∨ c.HasFresh s) ∧ c.HasConcrete s := by
  obtain ⟨r, hres, rfl⟩ := generate_eq_ok.1 h
  obtain ⟨_, _, rfl⟩ := resolve_eq_ok.1 hres
  rw [Builder.Captures, exists_loneName_types, exists_parameter_name]

end Callable

namespace Declaration

/-! ## Builders of accepted manifests -/

/-- A concrete type of this name stands in the block's type, or in a bound of a generic parameter of
the block that the builder has. -/
def BlockNames (d : Declaration) (b : Builder) (s : String) : Prop :=
  s ∈ d.block.selfTy.loneNames ∨
    ∃ p ∈ d.block.generics, (b.Declares ⟨.owner, p.name⟩ ∨ b.Erases ⟨.owner, p.name⟩) ∧
      ∃ t ∈ p.bounds, s ∈ t.loneNames

variable {d : Declaration} {s : String}

theorem mem_loneNames_ownerNames {t : TypeExpr} (hfault : d.ownerNames.fault? t = none) :
    s ∈ (d.ownerNames.lower t).loneNames ↔
      s ∈ t.loneNames ∧ s ≠ "Self" ∧ s ∉ d.block.generics.map (·.name) := by
  rw [Names.mem_loneNames_lower hfault, Names.varOf?_eq_none]
  constructor
  · intro hcases
    rcases hcases with ⟨hs, hself, _, howner⟩ | ⟨_, self, hself, _⟩
    · exact ⟨hs, hself, howner⟩
    · cases hself
  · rintro ⟨hs, hself, howner⟩
    exact .inl ⟨hs, hself, List.not_mem_nil, howner⟩

/-- What the function itself writes and what is no variable has no variable's name. -/
theorem mem_loneNames_names {t : TypeExpr} (hfault : d.names.fault? t = none)
    (hs : s ∈ (d.names.lower t).loneNames) :
    s ∈ d.selfTy.loneNames ∨
      s ∉ d.function.generics.map (·.name) ∧ s ∉ d.block.generics.map (·.name) := by
  rcases (Names.mem_loneNames_lower hfault).1 hs with ⟨_, _, hvar⟩ | ⟨_, self, hself, hs⟩
  · exact .inr (Names.varOf?_eq_none.1 hvar)
  · cases hself
    exact .inl hs

theorem mem_generics_of_kept {w : TypeVar} (h : w ∈ d.callable.keptVars) :
    w.name ∈ d.function.generics.map (·.name) ∨ w.name ∈ d.block.generics.map (·.name) := by
  rcases Callable.mem_of_kept h with howner | hcallable
  · obtain ⟨p, hp, rfl⟩ := mem_varsAt_owner.1 howner
    exact .inr (List.mem_map_of_mem hp)
  · obtain ⟨p, hp, rfl⟩ := mem_varsAt_callable.1 (Callable.mem_reachedAt.1 hcallable).1
    exact .inl (List.mem_map_of_mem hp)

/-- Where a variable's name meets a concrete type, that type comes from the block. -/
theorem hasConcrete_of_named (hfault : d.fault? = none)
    (hnamed : s ∈ d.function.generics.map (·.name) ∨ s ∈ d.block.generics.map (·.name))
    (h : d.callable.HasConcrete s) :
    s ∈ d.selfTy.loneNames ∨
      ∃ w ∈ d.callable.keptVars, w ∈ d.callable.varsAt .owner ∧
        ∃ t ∈ w.bounds, s ∈ t.loneNames := by
  have hown : ∀ t, d.names.fault? t = none → s ∈ (d.names.lower t).loneNames →
      s ∈ d.selfTy.loneNames := by
    intro t ht hs
    rcases mem_loneNames_names ht hs with hself | ⟨hfunction, hblock⟩
    · exact hself
    · rcases hnamed with hnamed | hnamed
      · exact absurd hnamed hfunction
      · exact absurd hnamed hblock
  rcases h with ⟨p, hp, hs⟩ | hs | hs | ⟨w, hw, t, ht, hs⟩
  · obtain ⟨a, ha, rfl⟩ := List.mem_map.1 hp
    exact .inl (hown a.type (fault?_arg hfault ha) hs)
  · exact .inl hs
  · exact .inl (hown _ (fault?_returnType hfault) hs)
  · rcases Callable.mem_of_kept hw with howner | hcallable
    · exact .inr ⟨w, hw, howner, t, ht, hs⟩
    · obtain ⟨p, hp, rfl⟩ := mem_varsAt_callable.1 (Callable.mem_reachedAt.1 hcallable).1
      obtain ⟨bound, hbound, rfl⟩ := List.mem_map.1 ht
      exact .inl (hown bound (fault?_functionBound hfault hp hbound) hs)

/-- What a parameter captures comes from the block, and the parameter is one of the function. -/
theorem Accepted.blockNames_of_captured (haccepted : d.Accepted) (hfault : d.fault? = none)
    (hwell : d.callable.WellReached) {v : BuilderVar}
    (hv : v ∈ (d.callable.synthesize d.callable.resolution).parameters)
    (hconcrete : d.callable.HasConcrete v.name) :
    (d.callable.synthesize d.callable.resolution).Declares ⟨.callable, v.name⟩ ∧
      d.BlockNames (d.callable.synthesize d.callable.resolution) v.name := by
  have hlevels := haccepted.levelled
  have hnames := haccepted.callable_unshadowed
  rw [Callable.parameters_synthesize] at hv
  obtain ⟨w, hw, rfl⟩ := List.mem_map.1 hv
  have hname : (Callable.builderVar d.callable.renames w).name = w.name :=
    hlevels.nameOf_unshadowed hnames w.ref
  rw [hname] at hconcrete ⊢
  have hfrom := hasConcrete_of_named hfault (mem_generics_of_kept hw) hconcrete
  -- The names of the block's own variables are resolved away in the block's types.
  have hother : w.name ∉ d.block.generics.map (·.name) := by
    rcases hfrom with hself | ⟨u, _, hu, t, ht, hs⟩
    · exact ((mem_loneNames_ownerNames (fault?_selfTy hfault)).1 hself).2.2
    · obtain ⟨p, hp, rfl⟩ := mem_varsAt_owner.1 hu
      obtain ⟨bound, hbound, rfl⟩ := List.mem_map.1 ht
      exact ((mem_loneNames_ownerNames (fault?_blockBound hfault hp hbound)).1 hs).2.2
  constructor
  · rcases Callable.mem_of_kept hw with howner | hcallable
    · obtain ⟨p, hp, rfl⟩ := mem_varsAt_owner.1 howner
      exact absurd (List.mem_map_of_mem hp) hother
    · obtain ⟨hmem, hreached⟩ := Callable.mem_reachedAt.1 hcallable
      obtain ⟨p, _, rfl⟩ := mem_varsAt_callable.1 hmem
      exact (Callable.declares_iff hlevels hnames hwell).2 hreached
  · rcases hfrom with hself | ⟨u, hkept, hu, t, ht, hs⟩
    · exact .inl ((mem_loneNames_ownerNames (fault?_selfTy hfault)).1 hself).1
    · have hholds := (Callable.mem_keptVars_owner hlevels hnames hwell hu).1 hkept
      obtain ⟨p, hp, rfl⟩ := mem_varsAt_owner.1 hu
      obtain ⟨bound, hbound, rfl⟩ := List.mem_map.1 ht
      have hs' := (mem_loneNames_ownerNames (fault?_blockBound hfault hp hbound)).1 hs
      exact .inr ⟨p, hp, hholds, bound, hbound, hs'.1⟩

/-- A variable that is reached at the function's level is one of its parameters, so its name is no
keyword and no name of the block's parameters. -/
theorem Accepted.name_of_reached (haccepted : d.Accepted) (hwell : d.callable.WellReached)
    (hreached : d.callable.Reached ⟨.callable, s⟩) :
    s ≠ "Self" ∧ s ∉ d.block.generics.map (·.name) := by
  obtain ⟨w, hdecl⟩ := (hwell _ hreached).1
  obtain ⟨hw, hname⟩ := Callable.mem_of_decl? hdecl
  obtain ⟨q, hq, rfl⟩ := mem_varsAt_callable.1 hw
  have hqs : q.name = s := hname
  rw [← hqs]
  refine ⟨Manifest.ne_of_isName (haccepted.functionName q hq) (by decide), fun hmem => ?_⟩
  obtain ⟨p, hp, hpq⟩ := List.mem_map.1 hmem
  exact haccepted.unshadowed p hp q hq hpq.symm

/-- What the block names as a type under the name of a variable of the function is captured. -/
theorem Accepted.hasConcrete_of_blockNames (haccepted : d.Accepted) (hfault : d.fault? = none)
    (hwell : d.callable.WellReached) (hreached : d.callable.Reached ⟨.callable, s⟩)
    (hblock : d.BlockNames (d.callable.synthesize d.callable.resolution) s) :
    d.callable.HasConcrete s := by
  obtain ⟨hself, hother⟩ := haccepted.name_of_reached hwell hreached
  rcases hblock with hs | ⟨p, hp, hholds, t, ht, hs⟩
  · have hlone := (mem_loneNames_ownerNames (fault?_selfTy hfault)).2 ⟨hs, hself, hother⟩
    exact .inr (.inl hlone)
  · have hlone := (mem_loneNames_ownerNames (fault?_blockBound hfault hp ht)).2
      ⟨hs, hself, hother⟩
    have hkept := (Callable.mem_keptVars_owner haccepted.levelled
      haccepted.callable_unshadowed hwell (mem_varsAt_owner.2 ⟨p, hp, rfl⟩)).2 hholds
    exact .inr (.inr (.inr ⟨_, hkept, _, List.mem_map_of_mem ht, hlone⟩))

/-- In a builder of an accepted declaration a parameter captures a type if and only if it is one of
the function's own and the block has a concrete type of its name. -/
theorem Accepted.captures_iff (haccepted : d.Accepted) (hfault : d.fault? = none)
    (hwell : d.callable.WellReached) :
    (d.callable.synthesize d.callable.resolution).Captures s ↔
      (d.callable.synthesize d.callable.resolution).Declares ⟨.callable, s⟩ ∧
        d.BlockNames (d.callable.synthesize d.callable.resolution) s := by
  rw [Builder.Captures, Callable.exists_loneName_types]
  constructor
  · rintro ⟨⟨v, hv, rfl⟩, hconcrete⟩
    exact haccepted.blockNames_of_captured hfault hwell hv hconcrete
  · rintro ⟨hdeclares, hblock⟩
    have hreached := (Callable.declares_iff haccepted.levelled haccepted.callable_unshadowed
      hwell).1 hdeclares
    obtain ⟨v, hv, _, hvs⟩ := hdeclares
    exact ⟨⟨v, List.mem_append_left _ hv, hvs⟩,
      haccepted.hasConcrete_of_blockNames hfault hwell hreached hblock⟩

theorem Accepted.not_hasFresh (haccepted : d.Accepted) : ¬ d.callable.HasFresh s := by
  rintro ⟨v, _, hne, hs⟩
  exact hne ((haccepted.levelled.nameOf_unshadowed haccepted.callable_unshadowed v.ref).symm.trans
    hs)

end Declaration

namespace Manifest

/-- What a parameter captures is a concrete type that the callable has, for generation brings in
none; the parameter has its name from the source or was given a fresh one. In a builder of an
accepted manifest no name is fresh. The parameter is one of the function's own, and the type stands
in the block's type or in a bound of the block's parameters. -/
theorem builder_captures_iff {c : Callable} {b : Builder} (hgenerate : c.generate = .ok b)
    (s : String) :
    (b.Captures s ↔ (c.HasWritten s ∨ c.HasFresh s) ∧ c.HasConcrete s) ∧
      ∀ (source : String) (m : Manifest), read source = .ok m →
        ∀ d ∈ m.annotated, d.extract = .ok c →
          ¬ c.HasFresh s ∧ (b.Captures s ↔ b.Declares ⟨.callable, s⟩ ∧ d.BlockNames b s) := by
  refine ⟨Callable.captures_iff hgenerate, ?_⟩
  intro source m hread d hd hextract
  obtain ⟨hfault, rfl⟩ := Declaration.extract_eq_ok.1 hextract
  obtain ⟨r, hres, rfl⟩ := Callable.generate_eq_ok.1 hgenerate
  obtain ⟨hwell, _, rfl⟩ := Callable.resolve_eq_ok.1 hres
  have haccepted := accepted_of_read hread hd
  exact ⟨haccepted.not_hasFresh, haccepted.captures_iff hfault hwell⟩

/-- A method of `Cage<E, E1>` with a variable `E` of its own. The owner's `E` has to give way, and
`E1` is a type. -/
def cageCallable : Callable where
  kind := .instance .ref
  name := "swap"
  owner :=
    { selfTy := .path false [.mk "Cage" [.type (.var ⟨.owner, "E"⟩), .type (.name "E1")]]
      typeVars := [⟨"E", .owner, []⟩] }
  typeVars := [⟨"E", .callable, []⟩]
  params := [⟨"item", .var ⟨.callable, "E"⟩⟩]
  returns := .unit
  className := none
  methodName := none

def cageBuilder : Builder where
  name := "SwapBuilder"
  source := ⟨"Cage<E, E1>::swap(E)"⟩
  typeVars := [⟨"E", .callable, []⟩]
  receiver := some
    { mode := .ref
      ty := .path false [.mk "Cage" [.type (.var ⟨.owner, "E1"⟩), .type (.name "E1")]]
      typeVars := []
      erased := [⟨"E1", .owner, []⟩] }
  fields := [⟨"item", .var ⟨.callable, "E"⟩, .default⟩]
  setters := [⟨"setItem", "item"⟩]
  terminalName := "build"
  terminal := { target := .method "swap", args := ["item"], result := .unit }
  phantom := []

theorem generate_cageCallable : cageCallable.generate = .ok cageBuilder := by cbv

/-- The type `T` of the block becomes the function's variable of that name, also where the emitted
call names the block's type. A fresh name becomes that of a type. -/
theorem builders_capture :
    (read bagText = .ok bagManifest ∧ bagDeclaration ∈ bagManifest.annotated ∧
        bagDeclaration.extract = .ok bagDeclaration.callable ∧
        bagDeclaration.callable.generate = .ok bagBuilder ∧ bagBuilder.Captures "T" ∧
        (Source.genericsOf bagBuilder).map (·.name) = ["T"] ∧
        Source.calleeOf bagBuilder = .function "<Bag<T, ()>>::of") ∧
      cageCallable.generate = .ok cageBuilder ∧ cageBuilder.Captures "E1" :=
  ⟨⟨read_bagText, bagDeclaration_mem, extract_bagDeclaration, generate_bagDeclaration,
      by decide +kernel, by decide +kernel, by decide +kernel⟩,
    generate_cageCallable, by decide +kernel⟩

theorem bagBuilder_captures_iff :
    read bagText = .ok bagManifest ∧ bagDeclaration ∈ bagManifest.annotated ∧
      bagDeclaration.extract = .ok bagDeclaration.callable ∧
      bagDeclaration.callable.generate = .ok bagBuilder ∧
      ¬ bagDeclaration.callable.HasFresh "T" ∧
      (bagBuilder.Captures "T" ↔
        bagBuilder.Declares ⟨.callable, "T"⟩ ∧ bagDeclaration.BlockNames bagBuilder "T") ∧
      cageCallable.generate = .ok cageBuilder ∧
      (cageBuilder.Captures "E1" ↔
        (cageCallable.HasWritten "E1" ∨ cageCallable.HasFresh "E1") ∧
          cageCallable.HasConcrete "E1") := by
  obtain ⟨hfresh, hcaptures⟩ := (builder_captures_iff generate_bagDeclaration "T").2 _ _
    read_bagText _ bagDeclaration_mem extract_bagDeclaration
  exact ⟨read_bagText, bagDeclaration_mem, extract_bagDeclaration, generate_bagDeclaration, hfresh,
    hcaptures, generate_cageCallable, (builder_captures_iff generate_cageCallable "E1").1⟩

end Manifest

end Buildwright
