import Mathlib
import Buildwright.Proofs.Builder.Scope
import Buildwright.Proofs.Declaration.Extraction
import Buildwright.Proofs.Tree.Within

/-!
# When extraction fails

A declaration is no callable if it has no arguments, or if one of the paths in its types uses `Self`
or the name of a generic parameter in a way that has no meaning. It does not matter how deep the path
stands. Otherwise its callable has the kind, the names and the order of the declaration.
-/

namespace Buildwright

namespace Names

variable {n : Names}

theorem pathFault?_name_ne_none {s : String} :
    n.pathFault? (.name s) ≠ none ↔ s = "Self" ∧ n.selfTy = none := by
  have hfault : n.pathFault? (.name s) =
      if s == "Self" && n.selfTy.isNone then some "'Self' cannot appear in an impl self type"
      else none := rfl
  rw [hfault]
  split
  · next h => simpa using h
  · next h => simpa using h

/-- What has no meaning: `Self` where it is not allowed or at the start of a longer path, and the
adorned name of a generic parameter. -/
theorem pathFault?_ne_none {p : TypeExpr} :
    n.pathFault? p ≠ none ↔
      (p.StartsWith "Self" ∧ (n.selfTy = none ∨ p ≠ Tree.name "Self")) ∨
        ∃ s, p.Adorns s ∧ (s ∈ n.callable ∨ s ∈ n.owner) := by
  cases hbare : p.name? with
  | some s =>
    obtain rfl := Tree.eq_name_of_name? hbare
    have hname : (Tree.name s : TypeExpr) = Tree.name "Self" ↔ s = "Self" := by simp [Tree.name]
    rw [pathFault?_name_ne_none, Ne, hname]
    simp only [Tree.startsWith_name, Tree.not_adorns_name, false_and, exists_false, or_false]
    tauto
  | none =>
    have hself : p ≠ Tree.name "Self" := by
      rintro rfl
      cases hbare
    cases p with
    | var v => exact v.elim
    | path rooted segments =>
      cases segments with
      | nil => simp [pathFault?, hbare, Tree.StartsWith, Tree.Adorns]
      | cons first others =>
        rw [Ne, pathFault?_path_eq_none hbare, Tree.startsWith_path, varOf?_eq_none]
        simp only [Tree.adorns_path hbare]
        constructor
        · intro hfault
          by_cases hfirst : first.ident = "Self"
          · exact .inl ⟨hfirst, .inr hself⟩
          · right
            by_contra hnone
            push Not at hnone
            exact hfault ⟨hfirst, fun hothers => hnone first.ident ⟨hothers, rfl⟩⟩
        · rintro (⟨hfirst, _⟩ | ⟨_, ⟨hothers, rfl⟩, hvisible⟩) ⟨hne, hnone⟩
          · exact hne hfirst
          · rcases hvisible with hvisible | hvisible
            · exact (hnone hothers).1 hvisible
            · exact (hnone hothers).2 hvisible
    | tuple elems => simp [pathFault?, hbare, Tree.StartsWith, Tree.Adorns]
    | array elem len => simp [pathFault?, hbare, Tree.StartsWith, Tree.Adorns]

theorem fault?_ne_none {t : TypeExpr} :
    n.fault? t ≠ none ↔ ∃ p : TypeExpr, p.Within t ∧
      ((p.StartsWith "Self" ∧ (n.selfTy = none ∨ p ≠ Tree.name "Self")) ∨
        ∃ s, p.Adorns s ∧ (s ∈ n.callable ∨ s ∈ n.owner)) := by
  have hpaths : n.fault? t ≠ none ↔ ∃ p ∈ t.paths, n.pathFault? p ≠ none := by
    rw [Ne, fault?_eq_none]
    push Not
    rfl
  rw [hpaths]
  constructor
  · rintro ⟨p, hp, hfault⟩
    exact ⟨p, (Tree.mem_paths_iff.1 hp).2, pathFault?_ne_none.1 hfault⟩
  · rintro ⟨p, hwithin, hfault⟩
    refine ⟨p, Tree.mem_paths_iff.2 ⟨?_, hwithin⟩, pathFault?_ne_none.2 hfault⟩
    rcases hfault with ⟨hself, _⟩ | ⟨s, hadorns, _⟩
    · exact hself.isPath
    · exact hadorns.isPath

end Names

namespace Declaration

variable {d : Declaration}

theorem fault?_ne_none :
    d.fault? ≠ none ↔ d.function.args = [] ∨ (∃ t ∈ d.ownerTypes, d.ownerNames.fault? t ≠ none) ∨
      ∃ t ∈ d.ownTypes, d.names.fault? t ≠ none := by
  unfold fault?
  split
  · next h =>
    have hargs : d.function.args = [] := by simpa using h
    simp [hargs]
  · next h =>
    have hargs : d.function.args ≠ [] := by simpa using h
    rw [Ne, Option.or_eq_none_iff, List.findSome?_eq_none_iff, List.findSome?_eq_none_iff,
      Classical.not_and_iff_not_or_not]
    push Not
    simp [hargs]

theorem ownerNames_fault?_ne_none {t : TypeExpr} :
    d.ownerNames.fault? t ≠ none ↔ ∃ p : TypeExpr, p.Within t ∧
      (p.StartsWith "Self" ∨ ∃ s ∈ d.block.generics.map (·.name), p.Adorns s) := by
  rw [Names.fault?_ne_none]
  simp [ownerNames, and_comm]

theorem names_fault?_ne_none {t : TypeExpr} :
    d.names.fault? t ≠ none ↔ ∃ p : TypeExpr, p.Within t ∧
      ((p.StartsWith "Self" ∧ p ≠ Tree.name "Self") ∨
        ∃ s ∈ (d.function.generics ++ d.block.generics).map (·.name), p.Adorns s) := by
  rw [Names.fault?_ne_none]
  simp only [names, namesWith, reduceCtorEq, false_or, List.map_append, List.mem_append, and_comm]

theorem kind_eq (hfree : ¬ (d.function.isConstructor = true ∧ d.function.receiver.isSome = true)) :
    (d.kind = .constructor ↔ d.function.isConstructor = true) ∧
      (d.kind = .static ↔ d.function.isConstructor = false ∧ d.function.receiver = none) ∧
      d.kind.receiver? = d.function.receiver := by
  unfold kind
  by_cases hconstructor : d.function.isConstructor = true
  · have hreceiver : d.function.receiver = none := by simpa [hconstructor] using hfree
    simp [hconstructor, hreceiver, CallableKind.receiver?]
  · cases hreceiver : d.function.receiver <;> simp [hconstructor, CallableKind.receiver?]

end Declaration

namespace Manifest

/-- Extraction of a declaration of an accepted manifest fails if and only if it has no arguments or
one of its types holds a path without a meaning. Otherwise the callable has the kind, the receiver,
the names and the order of arguments that are declared. -/
theorem extract_fails_iff {source : String} {m : Manifest} (hread : read source = .ok m)
    {d : Declaration} (hd : d ∈ m.annotated) :
    ((∃ e, d.extract = .error e) ↔
      d.function.args = [] ∨
        (∃ t ∈ d.ownerTypes, ∃ p : TypeExpr, p.Within t ∧
          (p.StartsWith "Self" ∨ ∃ s ∈ d.block.generics.map (·.name), p.Adorns s)) ∨
        ∃ t ∈ d.ownTypes, ∃ p : TypeExpr, p.Within t ∧
          ((p.StartsWith "Self" ∧ p ≠ Tree.name "Self") ∨
            ∃ s ∈ (d.function.generics ++ d.block.generics).map (·.name), p.Adorns s)) ∧
      (∀ e, d.extract = .error e → ∃ reason, e = .malformed d.signature reason) ∧
      ∀ c, d.extract = .ok c →
        (c.kind = .constructor ↔ d.function.isConstructor = true) ∧
          (c.kind = .static ↔ d.function.isConstructor = false ∧ d.function.receiver = none) ∧
          c.kind.receiver? = d.function.receiver ∧
          c.name = d.function.name ∧
          c.params.map (·.name) = d.function.args.map (·.name) ∧
          ∃ a, d.function.annotation = some a ∧
            c.className = a.className ∧ c.methodName = a.methodName := by
  refine ⟨?fails, ?malformed, ?declared⟩
  case fails =>
    have herror : (∃ e, d.extract = .error e) ↔ d.fault? ≠ none := by
      simp only [Declaration.extract_eq_error, Option.ne_none_iff_exists']
      constructor
      · rintro ⟨_, reason, hreason, _⟩
        exact ⟨reason, hreason⟩
      · rintro ⟨reason, hreason⟩
        exact ⟨_, reason, hreason, rfl⟩
    rw [herror, Declaration.fault?_ne_none]
    simp only [Declaration.ownerNames_fault?_ne_none, Declaration.names_fault?_ne_none]
  case malformed =>
    intro e he
    obtain ⟨reason, _, rfl⟩ := Declaration.extract_eq_error.1 he
    exact ⟨reason, rfl⟩
  case declared =>
    intro c hc
    obtain ⟨_, rfl⟩ := Declaration.extract_eq_ok.1 hc
    obtain ⟨hblock, hfunction, hannotated⟩ := mem_annotated.1 hd
    -- A constructor of an accepted manifest takes no receiver.
    have hfree := (((valid_of_read hread).block _ hblock).function _ hfunction).free
    obtain ⟨a, ha⟩ := Option.isSome_iff_exists.1 hannotated
    obtain ⟨hconstructor, hstatic, hreceiver⟩ := Declaration.kind_eq hfree
    refine ⟨hconstructor, hstatic, hreceiver, rfl, ?_, a, ha, ?_, ?_⟩
    · simp [Declaration.callable]
    · simp [Declaration.callable, ha]
    · simp [Declaration.callable, ha]

/-- The path `I::Item` starts with a generic parameter and is not made of it alone. -/
theorem bagDeclaration_extracts :
    read bagText = .ok bagManifest ∧ bagDeclaration ∈ bagManifest.annotated ∧
      (¬ ∃ t ∈ bagDeclaration.ownTypes, ∃ p : TypeExpr, p.Within t ∧ p.Adorns "I") ∧
      bagDeclaration.callable.kind = .static ∧
      bagDeclaration.callable.params.map (·.name) = ["item", "rest"] := by
  obtain ⟨hfails, _, hdeclared⟩ := extract_fails_iff read_bagText bagDeclaration_mem
  obtain ⟨_, hstatic, _, _, hparams, _⟩ := hdeclared _ extract_bagDeclaration
  refine ⟨read_bagText, bagDeclaration_mem, ?_, hstatic.2 ⟨rfl, rfl⟩, hparams⟩
  rintro ⟨t, ht, p, hwithin, hadorns⟩
  obtain ⟨e, he⟩ := hfails.2 (.inr (.inr ⟨t, ht, p, hwithin, .inr ⟨"I", by decide, hadorns⟩⟩))
  rw [extract_bagDeclaration] at he
  cases he

end Manifest

end Buildwright
