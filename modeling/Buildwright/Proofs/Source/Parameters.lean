import Buildwright.Proofs.Builder.Capture
import Buildwright.Proofs.Pipeline.Builders
import Buildwright.Source.BuilderCode

/-!
# Generic parameters in the types of fields

Which generic parameters of an emitted struct its fields mention. The declared variables are all
mentioned, by the marker if by no other field. A variable that only the receiver is to keep is
mentioned if the block's type or an argument's type has a path that starts with its name.
-/

namespace Buildwright

/-- A name that the text of a type has: a variable's, or the first one of a path. -/
def Ty.Writes (t : Ty) (s : String) : Prop := (∃ v ∈ t.vars, v.name = s) ∨ s ∈ t.leadNames

instance (t : Ty) (s : String) : Decidable (t.Writes s) :=
  inferInstanceAs (Decidable ((∃ v ∈ t.vars, v.name = s) ∨ s ∈ t.leadNames))

namespace Names

/-- A resolved type writes the names that it wrote before, and what `Self` stands for. -/
theorem writes_lower {n : Names} {t : TypeExpr} {s : String} (hs : s ≠ "Self") :
    (n.lower t).Writes s ↔
      s ∈ t.leadNames ∨ ("Self" ∈ t.bareNames ∧ ∃ self, n.selfTy = some self ∧ self.Writes s) := by
  rw [Ty.Writes, Tree.mem_leadNames_iff, lower, Tree.mem_leadNames_resolve, ← lower]
  constructor
  · intro hcases
    rcases hcases with ⟨v, hv, rfl⟩ | hpath | ⟨k, hk, hlead⟩
    · rcases mem_vars_lower.1 hv with ⟨hbare, _, _⟩ | ⟨hbare, self, hself, hv⟩
      · exact .inl (.inr hbare)
      · exact .inr ⟨hbare, self, hself, .inl ⟨v, hv, rfl⟩⟩
    · exact .inl (.inl hpath)
    · by_cases hself : k = "Self"
      · subst hself
        rw [meaning?_self] at hlead
        cases hty : n.selfTy with
        | none =>
          rw [hty, Option.getD_none, Tree.leadNames_name, List.mem_singleton] at hlead
          exact absurd hlead hs
        | some self =>
          rw [hty, Option.getD_some] at hlead
          exact .inr ⟨hk, self, rfl, .inr hlead⟩
      · rw [meaning?_of_ne hself] at hlead
        cases hvar : n.varOf? k with
        | none =>
          rw [hvar, Option.map_none, Option.getD_none, Tree.leadNames_name,
            List.mem_singleton] at hlead
          exact .inl (.inr (hlead ▸ hk))
        | some v =>
          rw [hvar, Option.map_some, Option.getD_some, Tree.leadNames_var] at hlead
          cases hlead
  · intro hcases
    rcases hcases with (hpath | hbare) | ⟨hbare, self, hself, hwrites⟩
    · exact .inr (.inl hpath)
    · cases hvar : n.varOf? s with
      | none =>
        refine .inr (.inr ⟨s, hbare, ?_⟩)
        rw [meaning?_of_ne hs, hvar, Option.map_none, Option.getD_none, Tree.leadNames_name]
        exact List.mem_singleton_self s
      | some v =>
        obtain ⟨rfl, _⟩ := varOf?_eq_some.1 hvar
        exact .inl ⟨v, mem_vars_lower.2 (.inl ⟨hbare, hs, hvar⟩), rfl⟩
    · rcases hwrites with ⟨v, hv, hname⟩ | hlead
      · exact .inl ⟨v, mem_vars_lower.2 (.inr ⟨hbare, self, hself, hv⟩), hname⟩
      · refine .inr (.inr ⟨"Self", hbare, ?_⟩)
        rw [meaning?_self, hself, Option.getD_some]
        exact hlead

end Names

namespace Source

/-- What the type of an emitted field is made of: a type of the builder, or the variables that the
marker mentions. -/
inductive FieldType where
  | type (t : Ty)
  | marker (names : List String)

namespace FieldType

def text : FieldType → String
  | .type t => t.toString
  | .marker names => (markerType names).getD ""

def Writes : FieldType → String → Prop
  | .type t, s => t.Writes s
  | .marker names, s => s ∈ names

instance : (t : FieldType) → (s : String) → Decidable (t.Writes s)
  | .type t, s => inferInstanceAs (Decidable (t.Writes s))
  | .marker names, s => inferInstanceAs (Decidable (s ∈ names))

end FieldType

def fieldTypes (b : Builder) : List FieldType :=
  (b.receiver.map fun r => .type r.ty).toList ++ b.fields.map (fun f => .type f.ty) ++
    if b.phantom.isEmpty then [] else [.marker b.phantom]

theorem structFields_types (b : Builder) (deriveDebug : Bool) :
    (layOut b deriveDebug).structFields.map (·.2) = (fieldTypes b).map FieldType.text := by
  have hmarker : ((markerType b.phantom).map fun ty => (markerName b, ty)).toList.map (·.2) =
      (if b.phantom.isEmpty then [] else [FieldType.marker b.phantom]).map FieldType.text := by
    rcases b.phantom with _ | ⟨s, _ | ⟨t, rest⟩⟩ <;> rfl
  simp only [BuilderCode.structFields, layOut, fieldTypes, List.map_append, hmarker, List.map_map]
  congr 2
  cases b.receiver <;> rfl

theorem struct_generics (b : Builder) (deriveDebug : Bool) :
    (layOut b deriveDebug).struct.generics.map (·.name) = b.parameters.map (·.name) := by
  show (genericsOf b).map (·.name) = _
  rw [genericsOf, List.map_map]
  rfl

theorem exists_writes_iff {b : Builder} {s : String} :
    (∃ t ∈ fieldTypes b, t.Writes s) ↔
      (∃ r, b.receiver = some r ∧ r.ty.Writes s) ∨ (∃ f ∈ b.fields, f.ty.Writes s) ∨
        s ∈ b.phantom := by
  have hmarker : (∃ t ∈ if b.phantom.isEmpty then [] else [FieldType.marker b.phantom],
      t.Writes s) ↔ s ∈ b.phantom := by
    cases b.phantom <;> simp [FieldType.Writes]
  simp only [fieldTypes, List.mem_append, or_and_right, exists_or, hmarker, or_assoc,
    Option.mem_toList, Option.map_eq_some_iff, List.mem_map, exists_exists_and_eq_and]
  rfl

end Source

namespace Callable

/-- A declared variable is in the type of a field or of the receiver, or the marker has it. -/
theorem exists_writes_of_typeVar {c : Callable} {r : Resolution} {v : BuilderVar}
    (hv : v ∈ (c.synthesize r).typeVars) :
    ∃ t ∈ Source.fieldTypes (c.synthesize r), t.Writes v.name := by
  rw [Source.exists_writes_iff]
  let b := c.synthesize r
  let carried := (b.fields.map (·.ty) ++ (b.receiver.map (·.ty)).toList).flatMap Tree.vars
  by_cases hcarried : v.name ∈ carried.map (·.name)
  · obtain ⟨w, hw, hname⟩ := List.mem_map.1 hcarried
    obtain ⟨t, ht, hw⟩ := List.mem_flatMap.1 hw
    rcases List.mem_append.1 ht with ht | ht
    · obtain ⟨f, hf, rfl⟩ := List.mem_map.1 ht
      exact .inr (.inl ⟨f, hf, .inl ⟨w, hw, hname⟩⟩)
    · obtain ⟨s, hs, rfl⟩ := Option.map_eq_some_iff.1 (Option.mem_toList.1 ht)
      exact .inl ⟨s, hs, .inl ⟨w, hw, hname⟩⟩
  · have habsent : (carried.map (·.name)).contains v.name = false := by
      rwa [Bool.eq_false_iff, ne_eq, List.contains_iff_mem]
    have hmarked : (!(carried.map (·.name)).contains v.name) = true := by rw [habsent]; rfl
    exact .inr (.inr (List.mem_filter.2 ⟨List.mem_map_of_mem hv, hmarked⟩))

theorem exists_typeVar_of_phantom {c : Callable} {r : Resolution} {s : String}
    (hs : s ∈ (c.synthesize r).phantom) : ∃ v ∈ (c.synthesize r).typeVars, v.name = s :=
  List.mem_map.1 (List.mem_filter.1 hs).1

theorem mem_typeVars_or_receiver {c : Callable} {r : Resolution} {v : BuilderVar}
    (hv : v ∈ (c.synthesize r).parameters) :
    v ∈ (c.synthesize r).typeVars ∨ ∃ s, (c.synthesize r).receiver = some s := by
  rcases List.mem_append.1 hv with hv | hv
  · exact .inl hv
  · cases hreceiver : (c.synthesize r).receiver with
    | none =>
      rw [hreceiver] at hv
      cases hv
    | some s => exact .inr ⟨s, rfl⟩

end Callable

namespace Declaration

variable {d : Declaration}

/-- The builder of an accepted declaration has its types as they are resolved. -/
theorem Accepted.substitute_eq (haccepted : d.Accepted) (t : Ty) :
    d.callable.resolution.substitute t = t :=
  Ty.rename_eq_self fun v _ => haccepted.levelled.nameOf_unshadowed haccepted.callable_unshadowed v

/-- Parameters of the builder are called like generic parameters of the declaration. -/
theorem Accepted.isName_of_parameter (haccepted : d.Accepted) {v : BuilderVar}
    (hv : v ∈ (d.callable.synthesize d.callable.resolution).parameters) :
    Manifest.isName v.name = true := by
  rw [Callable.parameters_synthesize] at hv
  obtain ⟨w, hw, rfl⟩ := List.mem_map.1 hv
  have hname : (Callable.builderVar d.callable.renames w).name = w.name :=
    haccepted.levelled.nameOf_unshadowed haccepted.callable_unshadowed w.ref
  rw [hname]
  rcases mem_generics_of_kept hw with hmem | hmem
  · obtain ⟨p, hp, hpw⟩ := List.mem_map.1 hmem
    exact hpw ▸ haccepted.functionName p hp
  · obtain ⟨p, hp, hpw⟩ := List.mem_map.1 hmem
    exact hpw ▸ haccepted.blockName p hp

theorem writes_selfTy {s : String} (hs : s ≠ "Self") :
    d.selfTy.Writes s ↔ s ∈ d.block.selfTy.leadNames := by
  rw [selfTy, Names.writes_lower hs]
  constructor
  · rintro (hlead | ⟨_, self, hself, _⟩)
    · exact hlead
    · cases hself
  · exact .inl

/-- What the declaration's types write, for parameters that the builder does not declare. -/
theorem Accepted.writes_iff (haccepted : d.Accepted) {v : BuilderVar}
    (hv : v ∈ (d.callable.synthesize d.callable.resolution).parameters) :
    (∃ t ∈ Source.fieldTypes (d.callable.synthesize d.callable.resolution), t.Writes v.name) ↔
      (∃ u ∈ (d.callable.synthesize d.callable.resolution).typeVars, u.name = v.name) ∨
        v.name ∈ d.block.selfTy.leadNames ∨ ∃ a ∈ d.function.args, v.name ∈ a.type.leadNames := by
  have hself : v.name ≠ "Self" :=
    Manifest.ne_of_isName (haccepted.isName_of_parameter hv) (by decide)
  constructor
  · intro h
    rw [Source.exists_writes_iff] at h
    rcases h with ⟨s, hs, hwrites⟩ | ⟨f, hf, hwrites⟩ | hphantom
    · obtain ⟨_, hty, _⟩ := Callable.receiver_eq_some hs
      rw [hty, haccepted.substitute_eq] at hwrites
      exact .inr (.inl ((writes_selfTy hself).1 hwrites))
    · obtain ⟨p, hp, hty⟩ := Callable.exists_param_of_field hf
      obtain ⟨a, ha, rfl⟩ := List.mem_map.1 hp
      rw [hty, haccepted.substitute_eq] at hwrites
      rcases (Names.writes_lower hself).1 hwrites with hlead | ⟨_, self, hselfTy, hwrites⟩
      · exact .inr (.inr ⟨a, ha, hlead⟩)
      · cases hselfTy
        exact .inr (.inl ((writes_selfTy hself).1 hwrites))
    · exact .inl (Callable.exists_typeVar_of_phantom hphantom)
  · intro h
    rcases h with ⟨u, hu, hname⟩ | hlead | ⟨a, ha, hlead⟩
    · rw [← hname]
      exact Callable.exists_writes_of_typeVar hu
    · rcases Callable.mem_typeVars_or_receiver hv with hdeclared | ⟨s, hs⟩
      · exact Callable.exists_writes_of_typeVar hdeclared
      · obtain ⟨_, hty, _⟩ := Callable.receiver_eq_some hs
        refine Source.exists_writes_iff.2 (.inl ⟨s, hs, ?_⟩)
        rw [hty, haccepted.substitute_eq]
        exact (writes_selfTy hself).2 hlead
    · have hp : (⟨a.name, d.names.lower a.type⟩ : Param) ∈ d.callable.params :=
        List.mem_map.2 ⟨a, ha, rfl⟩
      obtain ⟨f, hf, hty⟩ := Callable.exists_field_of_param d.callable.resolution hp
      refine Source.exists_writes_iff.2 (.inr (.inl ⟨f, hf, ?_⟩))
      rw [hty, haccepted.substitute_eq]
      exact (Names.writes_lower hself).2 (.inl hlead)

end Declaration

namespace Manifest

open Source

/-- A generic parameter of an emitted struct is in the type of a field if and only if the builder
declares it, or the block's type or an argument's type writes its name. So the struct has a
parameter that it does not use where the receiver keeps one that these types do not write, such as a
parameter that a bound alone determines. -/
theorem parameter_used_iff {source : String} {m : Manifest} (hread : read source = .ok m)
    {d : Declaration} (hd : d ∈ m.annotated) {c : Callable} (hextract : d.extract = .ok c)
    {b : Builder} (hgenerate : c.generate = .ok b) (deriveDebug : Bool) :
    (layOut b deriveDebug).struct.generics.map (·.name) = b.parameters.map (·.name) ∧
      (layOut b deriveDebug).struct.fields.map (·.2) = (fieldTypes b).map FieldType.text ∧
      ∀ v ∈ b.parameters, (∃ t ∈ fieldTypes b, t.Writes v.name) ↔
        (∃ u ∈ b.typeVars, u.name = v.name) ∨ v.name ∈ d.block.selfTy.leadNames ∨
          ∃ a ∈ d.function.args, v.name ∈ a.type.leadNames := by
  have haccepted := accepted_of_read hread hd
  obtain ⟨_, rfl⟩ := Declaration.extract_eq_ok.1 hextract
  obtain ⟨r, hres, rfl⟩ := Callable.generate_eq_ok.1 hgenerate
  obtain ⟨_, _, rfl⟩ := Callable.resolve_eq_ok.1 hres
  exact ⟨struct_generics _ _, structFields_types _ _, fun v hv => haccepted.writes_iff hv⟩

theorem fillDeclaration_mem : fillDeclaration ∈ shelfManifest.annotated := by
  rw [annotated_shelfManifest]
  exact List.mem_cons_self

/-- The parameter `I` is in the instance's type. -/
theorem fillBuilder_uses :
    read shelfText = .ok shelfManifest ∧ fillDeclaration ∈ shelfManifest.annotated ∧
      fillDeclaration.extract = .ok fillDeclaration.callable ∧
      fillDeclaration.callable.generate = .ok fillBuilder ∧
      ∀ v ∈ fillBuilder.parameters, v.name = "I" → ∃ t ∈ fieldTypes fillBuilder, t.Writes "I" := by
  obtain ⟨_, _, hiff⟩ := parameter_used_iff read_shelfText fillDeclaration_mem
    extract_fillDeclaration generate_fillDeclaration false
  refine ⟨read_shelfText, fillDeclaration_mem, extract_fillDeclaration, generate_fillDeclaration,
    fun v hv hname => ?_⟩
  rw [← hname]
  exact (hiff v hv).2 (.inr (.inl (hname ▸ by decide)))

/-- The parameter `T` is in a bound of `I` alone. -/
theorem fillBuilder_unused :
    read shelfText = .ok shelfManifest ∧ fillDeclaration ∈ shelfManifest.annotated ∧
      fillDeclaration.extract = .ok fillDeclaration.callable ∧
      fillDeclaration.callable.generate = .ok fillBuilder ∧
      (layOut fillBuilder false).struct.generics.map (·.name) = ["I", "T"] ∧
      (layOut fillBuilder false).struct.fields.map (·.2) = ["Shelf<I>", "u8", "u8", "u8"] ∧
      ¬ ∀ v ∈ fillBuilder.parameters, ∃ t ∈ fieldTypes fillBuilder, t.Writes v.name :=
  ⟨read_shelfText, fillDeclaration_mem, extract_fillDeclaration, generate_fillDeclaration,
    by decide, by decide, by decide⟩

end Manifest

end Buildwright
