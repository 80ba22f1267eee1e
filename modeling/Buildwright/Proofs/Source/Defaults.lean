import Buildwright.Proofs.Source.Parameters

/-!
# What the constructor demands

A new builder stores the default value of a type in each field for which it knows nothing better.
The constructor demands that the type has one if a type variable stands in it. A type that writes
the name of a generic parameter only at the start of a longer path has no variable, so nothing is
demanded of it.
-/

namespace Buildwright

/-- The constructor stores the default value of the field's type. -/
def Field.StartsAsDefault (f : Field) : Prop := Source.zeroText f.zero = "Default::default()"

instance (f : Field) : Decidable f.StartsAsDefault := inferInstanceAs (Decidable (_ = _))

theorem Field.startsAsDefault_iff {f : Field} :
    f.StartsAsDefault ↔ f.zero.needsDefault = true := by
  unfold StartsAsDefault
  cases f.zero <;> decide

namespace Source

theorem mem_distinct {s : String} {items : List String} : s ∈ distinct items ↔ s ∈ items := by
  induction items with
  | nil => rfl
  | cons t rest ih =>
    rw [distinct, List.mem_cons, List.mem_cons, List.mem_filter, ih, bne_iff_ne]
    by_cases hs : s = t
    · simp only [hs, true_or]
    · simp only [hs, false_or, ne_eq, not_false_eq_true, and_true]

theorem nodup_distinct (items : List String) : (distinct items).Nodup := by
  induction items with
  | nil => exact List.nodup_nil
  | cons t rest ih =>
    rw [distinct, List.nodup_cons]
    refine ⟨fun hmem => ?_, ih.filter _⟩
    exact bne_iff_ne.1 (List.mem_filter.1 hmem).2 rfl

/-- What is demanded of a type that has to have a default value. -/
def defaultBound (t : Ty) : String := t.toString ++ ": Default"

theorem defaultBound_inj {t u : Ty} :
    defaultBound t = defaultBound u ↔ t.toString = u.toString := by
  rw [defaultBound, defaultBound, ← String.toList_inj, String.toList_append, String.toList_append,
    List.append_left_inj, String.toList_inj]

section Bounds

variable (b : Builder) (deriveDebug : Bool)

theorem mem_wheres {p : String} :
    p ∈ (layOut b deriveDebug).constructor.wheres ↔
      ∃ f ∈ b.fields, f.StartsAsDefault ∧ f.ty.vars ≠ [] ∧ p = defaultBound f.ty := by
  have hbounds : (layOut b deriveDebug).constructor.wheres = defaultBounds b := rfl
  rw [hbounds, defaultBounds, mem_distinct, List.mem_map]
  refine exists_congr fun f => ?_
  rw [List.mem_filter, Bool.and_eq_true, ← Field.startsAsDefault_iff, and_assoc, and_assoc]
  refine and_congr_right fun _ => and_congr_right fun _ => and_congr ?_ eq_comm
  rw [Ty.hasVars, Bool.not_eq_true', List.isEmpty_eq_false_iff]

theorem nodup_wheres : (layOut b deriveDebug).constructor.wheres.Nodup := nodup_distinct _

theorem count_wheres_eq_one {p : String} :
    (layOut b deriveDebug).constructor.wheres.count p = 1 ↔
      ∃ f ∈ b.fields, f.StartsAsDefault ∧ f.ty.vars ≠ [] ∧ p = defaultBound f.ty := by
  rw [← mem_wheres b deriveDebug]
  constructor
  · intro hcount
    exact List.count_pos_iff.1 (by omega)
  · exact List.count_eq_one_of_mem (nodup_wheres b deriveDebug)

end Bounds

/-! ## The implementation of `Default` -/

namespace BuilderCode

variable {c : BuilderCode} {header : String} {body : List Fragment} {close : Option String}

theorem header_defaultImpl_ne : c.defaultImpl.header ≠ c.inherentImpl.header := by
  -- The two headers differ by the name of the trait, so in their lengths.
  intro heq
  have hlength := congrArg String.length heq
  simp only [Impl.header, defaultImpl, inherentImpl, String.length_append] at hlength
  have hdefault : ("Default" : String).length = 7 := rfl
  have hempty : ("" : String).length = 0 := rfl
  omega

theorem head?_header_defaultImpl : c.defaultImpl.header.toList.head? = some 'i' := by
  simp [Impl.header, String.toList_append]

theorem head?_of_mem_struct {s : Struct} (h : .block header body close ∈ s.fragments) :
    header.toList.head? = some 'p' := by
  rw [Struct.fragments, List.mem_append, List.mem_append, List.mem_singleton] at h
  rcases h with (hdoc | hderives) | hstruct
  · obtain ⟨_, _, hdoc⟩ := Option.map_eq_some_iff.1 (Option.mem_toList.1 hdoc)
    cases hdoc
  · split at hderives
    · cases hderives
    · cases List.mem_singleton.1 hderives
  · split at hstruct
    · cases hstruct
    · obtain ⟨rfl, -, -⟩ := Fragment.block.inj hstruct
      simp [String.toList_append]

/-- A default is implemented for a builder that needs no instance and demands nothing. -/
theorem exists_defaultImpl_iff :
    (∃ body close, .block c.defaultImpl.header body close ∈ c.fragments) ↔
      c.receiver = none ∧ c.constructor.wheres = [] := by
  have hcond : c.hasDefault = true ↔ c.receiver = none ∧ c.constructor.wheres = [] := by
    rw [hasDefault, Bool.and_eq_true, Option.isNone_iff_eq_none, List.isEmpty_iff]
    rfl
  rw [← hcond, fragments]
  constructor
  · rintro ⟨body, close, hmem⟩
    by_contra hnone
    rw [if_neg hnone, List.append_nil, List.mem_append, List.mem_cons] at hmem
    rcases hmem with hstruct | hblank | hinherent
    · have hhead := head?_of_mem_struct hstruct
      rw [head?_header_defaultImpl] at hhead
      cases hhead
    · cases hblank
    · have hinherent' := Fragment.block.inj (List.mem_singleton.1 hinherent)
      exact header_defaultImpl_ne hinherent'.1
  · intro hdefault
    rw [if_pos hdefault]
    exact ⟨_, _, List.mem_append_right _ (List.mem_cons_of_mem _ List.mem_cons_self)⟩

end BuilderCode

end Source

/-! ## The bounds of an accepted declaration -/

theorem Declaration.Accepted.exists_parameter {d : Declaration} (haccepted : d.Accepted)
    {c : Callable} (hextract : d.extract = .ok c) {b : Builder} (hgenerate : c.generate = .ok b)
    {f : Field} (hf : f ∈ b.fields) {v : VarRef} (hv : v ∈ f.ty.vars) :
    ∃ w ∈ b.parameters, w.origin = v.scope ∧ w.name = v.name := by
  obtain ⟨_, rfl⟩ := extract_eq_ok.1 hextract
  obtain ⟨r, hres, rfl⟩ := Callable.generate_eq_ok.1 hgenerate
  obtain ⟨hwell, _, rfl⟩ := Callable.resolve_eq_ok.1 hres
  have hclosed := Callable.synthesize_closed haccepted.levelled d.callable_ownerClosed hwell
  obtain ⟨w, hw, horigin, hname⟩ := hclosed.field f hf v hv
  exact ⟨w, List.mem_append_left _ hw, horigin, hname⟩

/-! ## A builder with a projection -/

namespace Manifest

open Source

def feedText : String :=
  Text.lines
    ["[[impl]]", "self = \"Feed\"",
      "[[impl.fn]]", "name = \"of\"", "generics = [\"I: Iterator\"]",
      "args = [\"all: I\", \"rest: I\", \"first: I::Item\"]", "call_builder = \x7b\x7d"]

def feedFunction : FunctionDecl where
  name := "of"
  receiver := none
  generics := [⟨"I", [.name "Iterator"]⟩]
  args :=
    [⟨"all", .name "I"⟩, ⟨"rest", .name "I"⟩,
      ⟨"first", .path false [.mk "I" [], .mk "Item" []]⟩]
  returns := none
  isConstructor := false
  annotation := some ⟨none, none⟩

def feedBlock : ImplBlock := ⟨.name "Feed", [], [feedFunction]⟩

def feedManifest : Manifest := ⟨.default, [feedBlock]⟩

def feedDeclaration : Declaration := ⟨feedBlock, feedFunction⟩

set_option maxRecDepth 10000 in
theorem read_feedText : read feedText = .ok feedManifest :=
  read_eq_ok (by decide +kernel) (by decide +kernel)

theorem feedDeclaration_mem : feedDeclaration ∈ feedManifest.annotated := List.mem_cons_self

def feedBuilder : Builder where
  name := "OfBuilder"
  source := ⟨"Feed::of(I, I, I::Item)"⟩
  typeVars := [⟨"I", .callable, [.name "Iterator"]⟩]
  receiver := none
  fields :=
    [⟨"all", .var ⟨.callable, "I"⟩, .default⟩, ⟨"rest", .var ⟨.callable, "I"⟩, .default⟩,
      ⟨"first", .path false [.mk "I" [], .mk "Item" []], .default⟩]
  setters := [⟨"setAll", "all"⟩, ⟨"setRest", "rest"⟩, ⟨"setFirst", "first"⟩]
  terminalName := "build"
  terminal :=
    { target := .associated (.name "Feed") "of"
      args := ["all", "rest", "first"]
      result := .unit }
  phantom := []

theorem extract_feedDeclaration : feedDeclaration.extract = .ok feedDeclaration.callable :=
  Declaration.extract_eq_ok.2 ⟨by decide, rfl⟩

theorem generate_feedDeclaration : feedDeclaration.callable.generate = .ok feedBuilder := by cbv

/-! ## Complete demands -/

/-- The constructor demands a default, once each, of the types in which a parameter stands as a
variable, and of no others. A type that has its name at the start of a path alone is missed, unless
one with a variable has the same text. A default is implemented for a builder that needs no instance
and demands nothing. -/
theorem default_bounds_iff {source : String} {m : Manifest} (hread : read source = .ok m)
    {d : Declaration} (hd : d ∈ m.annotated) {c : Callable} (hextract : d.extract = .ok c)
    {b : Builder} (hgenerate : c.generate = .ok b) (deriveDebug : Bool) :
    (layOut b deriveDebug).constructor.wheres.Nodup ∧
      (∀ p, p ∈ (layOut b deriveDebug).constructor.wheres ↔
        ∃ f ∈ b.fields, f.StartsAsDefault ∧
          (∃ w ∈ b.parameters, ⟨w.origin, w.name⟩ ∈ f.ty.vars) ∧ p = defaultBound f.ty) ∧
      ((∀ f ∈ b.fields, f.StartsAsDefault → (∃ w ∈ b.parameters, f.ty.Writes w.name) →
          (layOut b deriveDebug).constructor.wheres.count (defaultBound f.ty) = 1) ↔
        ∀ f ∈ b.fields, f.StartsAsDefault →
          (∃ w ∈ b.parameters, w.name ∈ f.ty.leadNames) →
            ∃ g ∈ b.fields, g.StartsAsDefault ∧ g.ty.vars ≠ [] ∧
              g.ty.toString = f.ty.toString) ∧
      ((∃ body close, .block (layOut b deriveDebug).defaultImpl.header body close ∈
          (layOut b deriveDebug).fragments) ↔
        b.receiver = none ∧ (layOut b deriveDebug).constructor.wheres = []) := by
  have haccepted := accepted_of_read hread hd
  refine ⟨nodup_wheres b deriveDebug, fun p => ?members, ⟨fun hall => ?shared, fun h => ?all⟩,
    ?impl⟩
  case members =>
    rw [mem_wheres]
    refine exists_congr fun f => and_congr_right fun hf => and_congr_right fun _ =>
      and_congr_left fun _ => ?_
    constructor
    · intro hvars
      obtain ⟨v, hv⟩ := List.exists_mem_of_ne_nil _ hvars
      obtain ⟨w, hw, horigin, hname⟩ := haccepted.exists_parameter hextract hgenerate hf hv
      exact ⟨w, hw, by rwa [horigin, hname]⟩
    · rintro ⟨w, _, hvar⟩
      exact List.ne_nil_of_mem hvar
  case shared =>
    rintro f hf hdefault ⟨w, hw, hlead⟩
    have hcount := hall f hf hdefault ⟨w, hw, .inr hlead⟩
    obtain ⟨g, hg, hdefault', hvars, hbound⟩ := (count_wheres_eq_one b deriveDebug).1 hcount
    exact ⟨g, hg, hdefault', hvars, (defaultBound_inj.1 hbound).symm⟩
  case all =>
    rintro f hf hdefault ⟨w, hw, hwrites⟩
    rw [count_wheres_eq_one]
    rcases hwrites with ⟨v, hv, _⟩ | hlead
    · exact ⟨f, hf, hdefault, List.ne_nil_of_mem hv, rfl⟩
    · obtain ⟨g, hg, hdefault', hvars, htext⟩ := h f hf hdefault ⟨w, hw, hlead⟩
      exact ⟨g, hg, hdefault', hvars, defaultBound_inj.2 htext.symm⟩
  case impl =>
    rw [BuilderCode.exists_defaultImpl_iff]
    exact and_congr_left fun _ => Option.map_eq_none_iff

/-- Both fields of the type `I` share one demand, and no default is implemented. -/
theorem feedBuilder_bounds :
    read feedText = .ok feedManifest ∧ feedDeclaration ∈ feedManifest.annotated ∧
      feedDeclaration.extract = .ok feedDeclaration.callable ∧
      feedDeclaration.callable.generate = .ok feedBuilder ∧
      (layOut feedBuilder false).constructor.wheres.count "I: Default" = 1 ∧
      ∀ body close, .block (layOut feedBuilder false).defaultImpl.header body close ∉
        (layOut feedBuilder false).fragments := by
  obtain ⟨hnodup, hmembers, -, himpl⟩ := default_bounds_iff read_feedText feedDeclaration_mem
    extract_feedDeclaration generate_feedDeclaration false
  have hmem : "I: Default" ∈ (layOut feedBuilder false).constructor.wheres :=
    (hmembers "I: Default").2
      ⟨⟨"all", .var ⟨.callable, "I"⟩, .default⟩, List.mem_cons_self, by decide,
        ⟨_, List.mem_cons_self, List.mem_singleton_self _⟩, by decide⟩
  refine ⟨read_feedText, feedDeclaration_mem, extract_feedDeclaration, generate_feedDeclaration,
    List.count_eq_one_of_mem hnodup hmem, fun body close hblock => ?_⟩
  rw [(himpl.1 ⟨body, close, hblock⟩).2] at hmem
  cases hmem

/-- The item starts out as a default and writes the parameter `I`, and nothing is demanded of it. -/
theorem feedBuilder_undemanded :
    read feedText = .ok feedManifest ∧ feedDeclaration ∈ feedManifest.annotated ∧
      feedDeclaration.extract = .ok feedDeclaration.callable ∧
      feedDeclaration.callable.generate = .ok feedBuilder ∧
      (layOut feedBuilder false).constructor.wheres = ["I: Default"] ∧
      ¬ ∀ f ∈ feedBuilder.fields, f.StartsAsDefault →
        (∃ w ∈ feedBuilder.parameters, f.ty.Writes w.name) →
          (layOut feedBuilder false).constructor.wheres.count (defaultBound f.ty) = 1 :=
  ⟨read_feedText, feedDeclaration_mem, extract_feedDeclaration, generate_feedDeclaration,
    by decide, by decide⟩

end Manifest

end Buildwright
