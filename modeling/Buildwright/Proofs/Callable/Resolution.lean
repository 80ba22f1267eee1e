import Mathlib
import Buildwright.Proofs.Callable.Levels
import Buildwright.Proofs.Callable.Reach
import Buildwright.Proofs.Callable.Renames

/-!
# What resolution decides

The result of resolution in terms of what a callable's types lead to: the variables that are reached
are declared, level by level and in order, and a receiver takes the owner's others along.
-/

namespace Buildwright

namespace Callable

open Classical in
noncomputable def reachedAt (c : Callable) (s : Scope) : List TypeVar :=
  (c.varsAt s).filter fun v => decide (c.Reached v.ref)

open Classical in
noncomputable def unreachedAt (c : Callable) (s : Scope) : List TypeVar :=
  (c.varsAt s).filter fun v => !decide (c.Reached v.ref)

/-- Everything that is reached is declared, and nothing is forbidden. -/
def WellReached (c : Callable) : Prop :=
  ∀ v, c.Reached v → (∃ d, c.decl? v = some d) ∧ c.Allows v

/-- The owner variables that a builder of an instance keeps for its receiver alone. -/
noncomputable def erasedVars (c : Callable) : List TypeVar :=
  if c.kind.isInstance then c.unreachedAt .owner else []

noncomputable def renames (c : Callable) : Renames :=
  ownerRenames ((c.typeVars ++ c.owner.typeVars).map (·.name))
    ((c.reachedAt .callable).map (·.name)) (c.reachedAt .owner ++ c.erasedVars)

noncomputable def resolution (c : Callable) : Resolution where
  typeVars := (c.reachedAt .callable ++ c.reachedAt .owner).map (builderVar c.renames)
  receiverVars :=
    if c.kind.isInstance then (c.reachedAt .owner).map fun v => c.renames.nameOf v.ref else []
  erased := c.erasedVars.map (builderVar c.renames)
  renames := c.renames
  instantiated := if c.kind.isInstance then [] else (c.unreachedAt .owner).map (·.ref)

open Classical in
theorem filter_contains_eq_reachedAt {c : Callable} {refs : List VarRef}
    (h : c.admitted = .ok refs) (s : Scope) :
    (c.varsAt s).filter (fun v => refs.contains v.ref) = c.reachedAt s := by
  unfold reachedAt
  apply List.filter_congr
  intro v _
  rw [Bool.eq_iff_iff, List.contains_iff_mem, decide_eq_true_iff]
  exact (admitted_spec h v.ref).1

open Classical in
theorem filter_not_contains_eq_unreachedAt {c : Callable} {refs : List VarRef}
    (h : c.admitted = .ok refs) (s : Scope) :
    (c.varsAt s).filter (fun v => !refs.contains v.ref) = c.unreachedAt s := by
  unfold unreachedAt
  apply List.filter_congr
  intro v _
  rw [Bool.not_inj_iff, Bool.eq_iff_iff, List.contains_iff_mem, decide_eq_true_iff]
  exact (admitted_spec h v.ref).1

/-- Once the references are known, only the unit type can still be in the way. -/
theorem resolve_of_admitted {c : Callable} {refs : List VarRef} (h : c.admitted = .ok refs) :
    c.resolve =
      if c.kind.isInstance then .ok c.resolution
      else
        match uninstantiable? (c.unreachedAt .owner) with
        | some (name, bound) => .error (.uninstantiable c.signature name bound.toString)
        | none => .ok c.resolution := by
  have hcallable := filter_contains_eq_reachedAt h .callable
  have howner := filter_contains_eq_reachedAt h .owner
  have hothers := filter_not_contains_eq_unreachedAt h .owner
  simp only [varsAt] at hcallable howner hothers
  unfold resolve
  rw [h]
  simp only [bind, Except.bind, hcallable, howner, hothers]
  cases hkind : c.kind.isInstance with
  | true => simp only [resolution, renames, erasedVars, hkind]; rfl
  | false =>
    simp only [resolution, renames, erasedVars, hkind]
    cases uninstantiable? (c.unreachedAt .owner) <;> rfl

/-- Resolution succeeds if and only if everything reached can be declared and the unit type can
stand for what an associated call leaves undeclared. What is reached decides its result. -/
theorem resolve_eq_ok {c : Callable} {r : Resolution} :
    c.resolve = .ok r ↔
      c.WellReached ∧
        (c.kind.isInstance = false → uninstantiable? (c.unreachedAt .owner) = none) ∧
          r = c.resolution := by
  rw [WellReached, ← exists_admitted_iff]
  cases hrefs : c.admitted with
  | error e =>
    have hres : c.resolve = .error e := by
      unfold resolve
      rw [hrefs]
      rfl
    simp [hres]
  | ok refs =>
    rw [resolve_of_admitted hrefs]
    cases c.kind.isInstance with
    | true => simp [eq_comm]
    | false => cases uninstantiable? (c.unreachedAt .owner) <;> simp [eq_comm]

/-! ## Names in the builder -/

theorem mem_reachedAt {c : Callable} {s : Scope} {v : TypeVar} :
    v ∈ c.reachedAt s ↔ v ∈ c.varsAt s ∧ c.Reached v.ref := by
  simp [reachedAt]

theorem mem_unreachedAt {c : Callable} {s : Scope} {v : TypeVar} :
    v ∈ c.unreachedAt s ↔ v ∈ c.varsAt s ∧ ¬ c.Reached v.ref := by
  simp [unreachedAt]

theorem mem_erasedVars {c : Callable} {v : TypeVar} :
    v ∈ c.erasedVars ↔ c.kind.isInstance ∧ v ∈ c.varsAt .owner ∧ ¬ c.Reached v.ref := by
  unfold erasedVars
  split
  · next h => simp [h, mem_unreachedAt]
  · next h => simp [h]

theorem reachedAt_sublist (c : Callable) (s : Scope) : (c.reachedAt s).Sublist (c.varsAt s) :=
  List.filter_sublist

theorem mem_owner_of_mem_named {c : Callable} {v : TypeVar}
    (h : v ∈ c.reachedAt .owner ++ c.erasedVars) : v ∈ c.varsAt .owner := by
  rcases List.mem_append.1 h with h | h
  · exact (mem_reachedAt.1 h).1
  · exact (mem_erasedVars.1 h).2.1

theorem Levelled.nodup_named {c : Callable} (hlevels : c.Levelled) :
    ((c.reachedAt .owner ++ c.erasedVars).map (·.name)).Nodup := by
  unfold erasedVars
  split
  · have hperm : (c.reachedAt .owner ++ c.unreachedAt .owner).Perm (c.varsAt .owner) := by
      exact List.filter_append_perm _ _
    exact (hperm.map _).nodup_iff.2 (hlevels.nodup .owner)
  · rw [List.append_nil]
    exact (hlevels.nodup .owner).sublist ((c.reachedAt_sublist .owner).map _)

theorem name_mem_of_named {c : Callable} :
    ∀ v ∈ c.reachedAt .owner ++ c.erasedVars,
      v.name ∈ (c.typeVars ++ c.owner.typeVars).map (·.name) := fun _ hv =>
  List.mem_map_of_mem (List.mem_append_right _ (mem_owner_of_mem_named hv))

theorem Levelled.nameOf_not_mem {c : Callable} (hlevels : c.Levelled) {v : TypeVar}
    (hv : v ∈ c.reachedAt .owner ++ c.erasedVars) :
    c.renames.nameOf v.ref ∉ (c.reachedAt .callable).map (·.name) :=
  ((ownerRenames_spec _ name_mem_of_named hlevels.nodup_named).2 v hv).1

theorem Levelled.nameOf_callable {c : Callable} (hlevels : c.Levelled) {v : VarRef}
    (hv : v.scope = .callable) : c.renames.nameOf v = v.name := by
  apply nameOf_ownerRenames_of_not_mem
  intro hmem
  obtain ⟨w, hw, rfl⟩ := List.mem_map.1 hmem
  have hscope := hlevels.scope_eq .owner w (mem_owner_of_mem_named hw)
  rw [TypeVar.ref, hscope] at hv
  cases hv

theorem Levelled.nameOf_owner {c : Callable} (hlevels : c.Levelled) {v : TypeVar}
    (hfree : ∀ w ∈ c.reachedAt .callable, w.name ≠ v.name) :
    c.renames.nameOf v.ref = v.name := by
  by_cases hmem : v.ref ∈ (c.reachedAt .owner ++ c.erasedVars).map TypeVar.ref
  · obtain ⟨w, hw, href⟩ := List.mem_map.1 hmem
    have hname : w.name = v.name := congrArg VarRef.name href
    have hspec := (ownerRenames_spec ((c.reachedAt .callable).map (·.name)) name_mem_of_named
      hlevels.nodup_named).2 w hw
    rw [← href, ← hname]
    apply hspec.2
    intro htaken
    obtain ⟨u, hu, heq⟩ := List.mem_map.1 htaken
    exact hfree u hu (heq.trans hname)
  · exact nameOf_ownerRenames_of_not_mem hmem

theorem Levelled.nameOf_unshadowed {c : Callable} (hlevels : c.Levelled) (hnames : c.Unshadowed)
    (v : VarRef) : c.renames.nameOf v = v.name := by
  by_cases hmem : v ∈ (c.reachedAt .owner ++ c.erasedVars).map TypeVar.ref
  · obtain ⟨w, hw, rfl⟩ := List.mem_map.1 hmem
    exact hlevels.nameOf_owner fun u hu =>
      hnames w (mem_owner_of_mem_named hw) u (mem_reachedAt.1 hu).1
  · exact nameOf_ownerRenames_of_not_mem hmem

theorem Levelled.nodup_names {c : Callable} (hlevels : c.Levelled) :
    ((c.resolution.typeVars ++ c.resolution.erased).map (·.name)).Nodup := by
  have hdistinct := (ownerRenames_spec ((c.reachedAt .callable).map (·.name)) name_mem_of_named
    hlevels.nodup_named).1
  have hcallable : (c.reachedAt .callable).map (fun v => c.renames.nameOf v.ref) =
      (c.reachedAt .callable).map (·.name) := by
    refine List.map_congr_left fun v hv => ?_
    exact hlevels.nameOf_callable (hlevels.scope_eq .callable v (mem_reachedAt.1 hv).1)
  have hnames : (c.resolution.typeVars ++ c.resolution.erased).map (·.name) =
      (c.reachedAt .callable).map (·.name) ++
        (c.reachedAt .owner ++ c.erasedVars).map fun v => c.renames.nameOf v.ref := by
    rw [← hcallable]
    simp [resolution, builderVar, Function.comp_def]
  rw [hnames, List.nodup_append]
  refine ⟨?_, hdistinct, ?_⟩
  · exact (hlevels.nodup .callable).sublist ((c.reachedAt_sublist .callable).map _)
  · rintro s hs _ hs' rfl
    obtain ⟨v, hv, rfl⟩ := List.mem_map.1 hs'
    exact hlevels.nameOf_not_mem hv hs

/-! ## The order of the parameters -/

theorem Reached.of_params_subset {c : Callable} {v : VarRef} (hv : c.Reached v)
    {ps : List Param} (h : ∀ p ∈ c.params, p ∈ ps) :
    ({ c with params := ps } : Callable).Reached v := by
  induction hv with
  | param hp hv => exact .param (h _ hp) hv
  | returns hv => exact .returns hv
  | bound _ hd hw ih => exact .bound ih hd hw

theorem reached_of_perm {c : Callable} {ps : List Param} (h : ps.Perm c.params) {v : VarRef} :
    ({ c with params := ps } : Callable).Reached v ↔ c.Reached v := by
  constructor
  · intro hv
    have hback := hv.of_params_subset fun p hp => h.mem_iff.1 hp
    exact hback
  · intro hv
    exact hv.of_params_subset fun p hp => h.mem_iff.2 hp

theorem resolve_of_perm {c : Callable} {ps : List Param} (h : ps.Perm c.params) {r : Resolution}
    (hres : c.resolve = .ok r) : ({ c with params := ps } : Callable).resolve = .ok r := by
  have hreached : ∀ s, ({ c with params := ps } : Callable).reachedAt s = c.reachedAt s := by
    intro s
    refine List.filter_congr fun v _ => ?_
    rw [decide_eq_decide]
    exact reached_of_perm h
  have hunreached : ∀ s, ({ c with params := ps } : Callable).unreachedAt s =
      c.unreachedAt s := by
    intro s
    refine List.filter_congr fun v _ => ?_
    rw [Bool.not_inj_iff, decide_eq_decide]
    exact reached_of_perm h
  obtain ⟨hwell, hunit, rfl⟩ := resolve_eq_ok.1 hres
  rw [resolve_eq_ok]
  refine ⟨?_, ?_, ?_⟩
  · intro v hv
    exact hwell v ((reached_of_perm h).1 hv)
  · rw [hunreached]
    exact hunit
  · simp only [resolution, renames, erasedVars, hreached, hunreached]

/-! ## The least closure -/

/-- A builder declares the variables that its callable's types lead to and no others, those of the
callable before those of the owner, each level in its order and all under different names. -/
theorem resolve_declares_reached {c : Callable} {r : Resolution} (hres : c.resolve = .ok r) :
    r.typeVars = (c.reachedAt .callable ++ c.reachedAt .owner).map (builderVar r.renames) ∧
      (c.Levelled →
        ((r.typeVars ++ r.erased).map (·.name)).Nodup ∧
          (∀ v ∈ c.varsAt .callable, r.nameOf v.ref = v.name) ∧
          ∀ v ∈ c.varsAt .owner, (∀ w ∈ c.reachedAt .callable, w.name ≠ v.name) →
            r.nameOf v.ref = v.name) ∧
      (c.kind.isInstance = true →
        r.receiverVars = (c.reachedAt .owner).map (fun v => r.nameOf v.ref) ∧
          r.erased = (c.unreachedAt .owner).map (builderVar r.renames)) ∧
      (c.kind.isInstance = false → r.receiverVars = [] ∧ r.erased = []) ∧
      (c.kind = .static → ∀ b ∈ r.typeVars, b.origin ≠ .owner) ∧
      ∀ ps : List Param, ps.Perm c.params →
        ({ c with params := ps } : Callable).resolve = .ok r := by
  have hperm : ∀ ps : List Param, ps.Perm c.params →
      ({ c with params := ps } : Callable).resolve = .ok r := fun ps hps =>
    resolve_of_perm hps hres
  obtain ⟨hwell, _, rfl⟩ := resolve_eq_ok.1 hres
  refine ⟨rfl, ?names, ?receiver, ?associated, ?static, hperm⟩
  case names =>
    intro hlevels
    refine ⟨hlevels.nodup_names, fun v hv => ?_, fun v _ hfree => hlevels.nameOf_owner hfree⟩
    exact hlevels.nameOf_callable (hlevels.scope_eq .callable v hv)
  case receiver =>
    intro hkind
    have herased : c.erasedVars = c.unreachedAt .owner := if_pos hkind
    refine ⟨if_pos hkind, ?_⟩
    rw [← herased]
    rfl
  case associated =>
    intro hkind
    simp [resolution, erasedVars, hkind]
  case static =>
    intro hkind b hb
    obtain ⟨v, hv, rfl⟩ := List.mem_map.1 hb
    have hreached : c.Reached v.ref := by
      rcases List.mem_append.1 hv with hv | hv <;> exact (mem_reachedAt.1 hv).2
    exact (hwell v.ref hreached).2 hkind

/-- A method of `Store<A, B, F>` whose bounds lead from `F` to `A` and in a circle from there. The
owner's `F` is not reached and gives way to the method's own. -/
def circular : Callable where
  kind := .instance .ref
  name := "put"
  owner :=
    { selfTy := .path false [.mk "Store"
        [.type (.var ⟨.owner, "A"⟩), .type (.var ⟨.owner, "B"⟩), .type (.var ⟨.owner, "F"⟩)]]
      typeVars :=
        [⟨"A", .owner, [.path false [.mk "Into" [.type (.var ⟨.owner, "B"⟩)]]]⟩,
          ⟨"B", .owner, [.path false [.mk "From" [.type (.var ⟨.owner, "A"⟩)]]]⟩,
          ⟨"F", .owner, []⟩] }
  typeVars := [⟨"F", .callable, [.path false [.mk "Into" [.type (.var ⟨.owner, "A"⟩)]]]⟩]
  params := [⟨"item", .var ⟨.callable, "F"⟩⟩, ⟨"times", .name "u32"⟩]
  returns := .unit
  className := none
  methodName := none

theorem resolve_circular :
    ∃ r, circular.Levelled ∧ circular.resolve = .ok r ∧
      r.typeVars.map (·.name) = ["F", "A", "B"] ∧ r.receiverVars = ["A", "B"] ∧
      r.erased.map (·.name) = ["F1"] ∧ ((r.typeVars ++ r.erased).map (·.name)).Nodup ∧
      ({ circular with params := circular.params.reverse } : Callable).resolve = .ok r := by
  have hlevels : circular.Levelled :=
    ⟨fun s => by cases s <;> decide, fun s => by cases s <;> decide⟩
  have hvalue : circular.resolve.toOption.map (fun r =>
      (r.typeVars.map (·.name), r.receiverVars, r.erased.map (·.name))) =
      some (["F", "A", "B"], ["A", "B"], ["F1"]) := by
    cbv
  cases hres : circular.resolve with
  | error e =>
    rw [hres] at hvalue
    cases hvalue
  | ok r =>
    rw [hres] at hvalue
    simp only [Except.toOption, Option.map_some, Option.some.injEq, Prod.mk.injEq] at hvalue
    obtain ⟨_, hnames, _, _, _, hperm⟩ := resolve_declares_reached hres
    exact ⟨r, hlevels, rfl, hvalue.1, hvalue.2.1, hvalue.2.2, (hnames hlevels).1,
      hperm _ (List.reverse_perm _)⟩

end Callable

end Buildwright
