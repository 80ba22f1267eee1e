import Buildwright.Proofs.Tree.Structure
import Buildwright.Ty
import Mathlib.Data.List.Basic

/-!
# Substitution in types

What a substitution does to the variables and to the paths of a type. Renaming the variables of a
resolved type is the special case that the builders rest on: it touches no path.
-/

namespace Buildwright

namespace Tree

/-! ## Variables under substitution -/

theorem vars_bind (f : ν → Tree μ) (t : Tree ν) :
    (t.bind f).vars = t.vars.flatMap fun v => (f v).vars := by
  induction t with
  | var v => simp
  | path rooted segments ih =>
    simp only [bind_path, vars_path, List.flatMap_map, Segment.types_map, List.flatMap_assoc]
    exact List.flatMap_congr fun s hs => List.flatMap_congr fun u hu => ih s hs u hu
  | tuple elems ih =>
    simp only [bind_tuple, vars_tuple, List.flatMap_map, List.flatMap_assoc]
    exact List.flatMap_congr ih
  | array elem len ih => simp [ih]

/-- Two substitutions do the same to a type if and only if they agree on its variables. -/
theorem bind_eq_bind_iff {f g : ν → Tree μ} {t : Tree ν} :
    t.bind f = t.bind g ↔ ∀ v ∈ t.vars, f v = g v := by
  induction t with
  | var v => simp
  | path rooted segments ih =>
    calc (path rooted segments).bind f = (path rooted segments).bind g
        ↔ ∀ s ∈ segments, ∀ u ∈ s.types, u.bind f = u.bind g := by
          simp only [bind_path, path.injEq, true_and, List.map_inj_left, Segment.map_eq_map_iff]
      _ ↔ ∀ s ∈ segments, ∀ u ∈ s.types, ∀ v ∈ u.vars, f v = g v :=
          forall₂_congr fun s hs => forall₂_congr fun u hu => ih s hs u hu
      _ ↔ ∀ v ∈ (path rooted segments).vars, f v = g v := by
          simp only [vars_path, List.forall_mem_flatMap]
  | tuple elems ih =>
    calc (tuple elems).bind f = (tuple elems).bind g
        ↔ ∀ u ∈ elems, u.bind f = u.bind g := by
          simp only [bind_tuple, tuple.injEq, List.map_inj_left]
      _ ↔ ∀ u ∈ elems, ∀ v ∈ u.vars, f v = g v := forall₂_congr ih
      _ ↔ ∀ v ∈ (tuple elems).vars, f v = g v := by
          simp only [vars_tuple, List.forall_mem_flatMap]
  | array elem len ih => simpa using ih

theorem bind_congr {f g : ν → Tree μ} {t : Tree ν} (h : ∀ v ∈ t.vars, f v = g v) :
    t.bind f = t.bind g :=
  bind_eq_bind_iff.2 h

theorem bind_bind (f : ν → Tree μ) (g : μ → Tree ξ) (t : Tree ν) :
    (t.bind f).bind g = t.bind fun v => (f v).bind g := by
  induction t with
  | var v => simp
  | path rooted segments ih =>
    have hseg : ∀ s ∈ segments, (s.map (bind f)).map (bind g) =
        s.map (bind fun v => (f v).bind g) := fun s hs =>
      (s.map_map _ _).trans (Segment.map_congr (ih s hs))
    rw [bind_path, bind_path, bind_path, List.map_map]
    exact congrArg _ (List.map_congr_left hseg)
  | tuple elems ih =>
    rw [bind_tuple, bind_tuple, bind_tuple, List.map_map]
    exact congrArg tuple (List.map_congr_left ih)
  | array elem len ih => rw [bind_array, bind_array, bind_array, ih]

theorem bind_self (t : Tree ν) : t.bind var = t := by
  induction t with
  | var v => simp
  | path rooted segments ih =>
    have hseg : ∀ s ∈ segments, s.map (bind var) = s := fun s hs =>
      (Segment.map_congr (ih s hs)).trans s.map_id
    rw [bind_path, List.map_congr_left hseg, List.map_id']
  | tuple elems ih => rw [bind_tuple, List.map_congr_left ih, List.map_id']
  | array elem len ih => rw [bind_array, ih]

/-- A substitution that keeps every variable of the type keeps the type, and no other does. -/
theorem bind_eq_self_iff {f : ν → Tree ν} {t : Tree ν} :
    t.bind f = t ↔ ∀ v ∈ t.vars, f v = .var v := by
  conv_lhs => rhs; rw [← bind_self t]
  exact bind_eq_bind_iff

/-! ## Paths under substitution -/

/-- Every path of the result is one of the type, with its arguments substituted, or stands in what
replaces a variable. -/
theorem mem_paths_bind {f : ν → Tree μ} {t : Tree ν} {p : Tree μ} :
    p ∈ (t.bind f).paths ↔
      (∃ q ∈ t.paths, p = q.bind f) ∨ ∃ v ∈ t.vars, p ∈ (f v).paths := by
  induction t with
  | var v => simp
  | path rooted segments ih =>
    simp only [bind_path, paths_path, vars_path, List.mem_cons, List.mem_flatMap, List.mem_map,
      exists_exists_and_eq_and, Segment.types_map]
    constructor
    · intro hcases
      rcases hcases with rfl | ⟨_, ⟨s, hs, u, hu, rfl⟩, hp⟩
      · exact .inl ⟨_, .inl rfl, bind_path f rooted segments ▸ rfl⟩
      · rcases (ih s hs u hu).1 hp with ⟨q, hq, rfl⟩ | ⟨v, hv, hp⟩
        · exact .inl ⟨q, .inr ⟨u, ⟨s, hs, hu⟩, hq⟩, rfl⟩
        · exact .inr ⟨v, ⟨u, ⟨s, hs, hu⟩, hv⟩, hp⟩
    · intro hcases
      rcases hcases with ⟨q, rfl | ⟨u, ⟨s, hs, hu⟩, hq⟩, rfl⟩ | ⟨v, ⟨u, ⟨s, hs, hu⟩, hv⟩, hp⟩
      · exact .inl (bind_path f rooted segments)
      · exact .inr ⟨_, ⟨s, hs, u, hu, rfl⟩, (ih s hs u hu).2 (.inl ⟨q, hq, rfl⟩)⟩
      · exact .inr ⟨_, ⟨s, hs, u, hu, rfl⟩, (ih s hs u hu).2 (.inr ⟨v, hv, hp⟩)⟩
  | tuple elems ih =>
    simp only [bind_tuple, paths_tuple, vars_tuple, List.mem_flatMap, List.mem_map,
      exists_exists_and_eq_and]
    constructor
    · rintro ⟨u, hu, hp⟩
      rcases (ih u hu).1 hp with ⟨q, hq, rfl⟩ | ⟨v, hv, hp⟩
      · exact .inl ⟨q, ⟨u, hu, hq⟩, rfl⟩
      · exact .inr ⟨v, ⟨u, hu, hv⟩, hp⟩
    · intro hcases
      rcases hcases with ⟨q, ⟨u, hu, hq⟩, rfl⟩ | ⟨v, ⟨u, hu, hv⟩, hp⟩
      · exact ⟨u, hu, (ih u hu).2 (.inl ⟨q, hq, rfl⟩)⟩
      · exact ⟨u, hu, (ih u hu).2 (.inr ⟨v, hv, hp⟩)⟩
  | array elem len ih => simpa using ih

end Tree

namespace Ty

/-! ## Renaming -/

@[simp] theorem vars_rename (f : VarRef → String) (t : Ty) :
    (t.rename f).vars = t.vars.map fun v => ⟨v.scope, f v⟩ := by
  rw [rename, Tree.vars_bind, List.map_eq_flatMap]
  simp only [Tree.vars_var]

theorem rename_rename (f g : VarRef → String) (t : Ty) :
    (t.rename f).rename g = t.rename fun v => g ⟨v.scope, f v⟩ := by
  rw [rename, rename, Tree.bind_bind]
  simp only [Tree.bind_var]
  rfl

theorem rename_eq_self_iff {f : VarRef → String} {t : Ty} :
    t.rename f = t ↔ ∀ v ∈ t.vars, f v = v.name := by
  rw [rename, Tree.bind_eq_self_iff]
  refine forall₂_congr fun v _ => ?_
  rw [Tree.var.injEq, VarRef.mk.injEq]
  exact and_iff_right rfl

theorem rename_eq_self {f : VarRef → String} {t : Ty} (h : ∀ v ∈ t.vars, f v = v.name) :
    t.rename f = t :=
  rename_eq_self_iff.2 h

end Ty

end Buildwright
