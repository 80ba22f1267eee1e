import Mathlib
import Buildwright.Proofs.Callable.Resolution
import Buildwright.Proofs.Tree.Substitution

/-!
# Names that keep variables apart

An owner variable that has to give way gets the first numbered form of its name that no variable of
the source has and that no variable before it was given. So names tell the variables of a builder
apart, and a type under the new names mentions the same variables at the same places.
-/

namespace Buildwright

namespace Callable

def sourceNames (c : Callable) : List String := (c.typeVars ++ c.owner.typeVars).map (·.name)

/-- The variables that a builder declares, and those that it keeps for its receiver. -/
noncomputable def keptVars (c : Callable) : List TypeVar :=
  c.reachedAt .callable ++ (c.reachedAt .owner ++ c.erasedVars)

variable {c : Callable}

theorem resolution_vars (c : Callable) :
    c.resolution.typeVars ++ c.resolution.erased = c.keptVars.map (builderVar c.renames) := by
  simp only [resolution, keptVars, List.map_append, List.append_assoc]

theorem Levelled.nameOf_inj (hlevels : c.Levelled) {v w : TypeVar} (hv : v ∈ c.keptVars)
    (hw : w ∈ c.keptVars) (heq : c.renames.nameOf v.ref = c.renames.nameOf w.ref) : v = w := by
  have hnames := hlevels.nodup_names
  rw [resolution_vars, List.map_map] at hnames
  exact List.inj_on_of_nodup_map hnames hv hw heq

theorem Levelled.mem_of_renamed (hlevels : c.Levelled) {v : TypeVar} (hv : v ∈ c.varsAt .owner)
    (hne : c.renames.nameOf v.ref ≠ v.name) : v ∈ c.reachedAt .owner ++ c.erasedVars := by
  by_contra hmem
  apply hne
  apply nameOf_ownerRenames_of_not_mem
  intro href
  obtain ⟨w, hw, heq⟩ := List.mem_map.1 href
  have hwv : w = v := List.inj_on_of_nodup_map (hlevels.nodup .owner) (mem_owner_of_mem_named hw)
    hv (congrArg VarRef.name heq)
  exact hmem (hwv ▸ hw)

/-- An owner variable of the builder is renamed if and only if a declared variable of the callable
has its name. -/
theorem Levelled.renamed_iff (hlevels : c.Levelled) {v : TypeVar}
    (hv : v ∈ c.reachedAt .owner ++ c.erasedVars) :
    c.renames.nameOf v.ref ≠ v.name ↔ ∃ w ∈ c.reachedAt .callable, w.name = v.name := by
  constructor
  · intro hne
    by_contra hfree
    push Not at hfree
    exact hne (hlevels.nameOf_owner hfree)
  · rintro ⟨w, hw, hname⟩ heq
    apply hlevels.nameOf_not_mem hv
    exact List.mem_map.2 ⟨w, hw, hname.trans heq.symm⟩

/-- A new name is the first numbered form of the old one that is neither in the source nor given to
a variable before. -/
theorem Levelled.nameOf_renamed (hlevels : c.Levelled) {before after : List TypeVar} {v : TypeVar}
    (hvars : c.reachedAt .owner ++ c.erasedVars = before ++ v :: after)
    (hne : c.renames.nameOf v.ref ≠ v.name) :
    ∃ i, FirstFree (c.sourceNames ++ before.map fun u => c.renames.nameOf u.ref) v.name i ∧
      c.renames.nameOf v.ref = v.name ++ toString i := by
  have hv : v ∈ c.reachedAt .owner ++ c.erasedVars := by
    rw [hvars]
    simp
  have htaken : v.name ∈ (c.reachedAt .callable).map (·.name) :=
    List.mem_map.2 ((hlevels.renamed_iff hv).1 hne)
  have hnodup := hlevels.nodup_named
  rw [hvars] at hnodup
  have hname : (ownerRenames c.sourceNames _ (before ++ v :: after)).nameOf v.ref = _ :=
    nameOf_ownerRenames hnodup htaken
  rw [← hvars] at hname
  obtain ⟨i, _, hfirst, hi⟩ := exists_freshName_eq ((before.map fun u =>
    c.renames.nameOf u.ref).reverse ++ (c.reachedAt .callable).map (·.name) ++ c.sourceNames) v.name
  refine ⟨i, hfirst.congr fun s => ?_, hname.trans hi⟩
  -- The declared names of the callable are among those of the source.
  have hsource : s ∈ (c.reachedAt .callable).map (·.name) → s ∈ c.sourceNames := by
    intro hs
    obtain ⟨u, hu, rfl⟩ := List.mem_map.1 hs
    exact List.mem_map_of_mem (List.mem_append_left _ (mem_reachedAt.1 hu).1)
  simp only [List.mem_append, List.mem_reverse]
  tauto

/-- Resolution gives the variables of a builder names that tell them apart. The callable's variables
keep their names, and so do the owner's unless a declared one of the callable has the same. Such a
variable gets the first numbered name that the source does not have and no variable before it was
given; the search for it always ends. A type under the new names has the variables that it had. -/
theorem resolve_keeps_variables_apart (hlevels : c.Levelled) {r : Resolution}
    (hres : c.resolve = .ok r) :
    r.typeVars ++ r.erased = c.keptVars.map (builderVar r.renames) ∧
      ((r.typeVars ++ r.erased).map (·.name)).Nodup ∧
      (∀ v ∈ c.keptVars, ∀ w ∈ c.keptVars, r.nameOf v.ref = r.nameOf w.ref → v = w) ∧
      (∀ v : VarRef, v.scope = .callable → r.nameOf v = v.name) ∧
      (∀ v ∈ c.owner.typeVars, r.nameOf v.ref ≠ v.name →
        (∃ w ∈ c.reachedAt .callable, w.name = v.name) ∧ r.nameOf v.ref ∉ c.sourceNames) ∧
      (∀ before v after, c.reachedAt .owner ++ c.erasedVars = before ++ v :: after →
        r.nameOf v.ref ≠ v.name →
          ∃ i, FirstFree (c.sourceNames ++ before.map fun u => r.nameOf u.ref) v.name i ∧
            r.nameOf v.ref = v.name ++ toString i) ∧
      (∀ t : Ty, (r.substitute t).vars = t.vars.map fun v => ⟨v.scope, r.nameOf v⟩) ∧
      ∀ taken name, ∃ i ≤ taken.length + 1, FirstFree taken name i ∧
        freshName taken name = name ++ toString i := by
  obtain ⟨_, _, rfl⟩ := resolve_eq_ok.1 hres
  refine ⟨resolution_vars c, hlevels.nodup_names, ?injective, ?callable, ?owner, ?fresh, ?types,
    exists_freshName_eq⟩
  case injective => exact fun v hv w hw heq => hlevels.nameOf_inj hv hw heq
  case callable => exact fun v hv => hlevels.nameOf_callable hv
  case owner =>
    intro v hv hne
    have hmem := hlevels.mem_of_renamed hv hne
    obtain ⟨before, after, hvars⟩ := List.append_of_mem hmem
    obtain ⟨i, hfirst, hi⟩ := hlevels.nameOf_renamed hvars hne
    refine ⟨(hlevels.renamed_iff hmem).1 hne, fun hsource => hfirst.free ?_⟩
    rw [← hi]
    exact List.mem_append_left _ hsource
  case fresh => exact fun before v after hvars hne => hlevels.nameOf_renamed hvars hne
  case types => exact fun t => Ty.vars_rename _ t

/-- A method of `Echo<E, E1, E11>` with variables `E` and `E1` of its own. The owner's `E` cannot
become `E1`, nor its `E1` become `E11`. -/
def echoing : Callable where
  kind := .instance .ref
  name := "answer"
  owner :=
    { selfTy := .path false [.mk "Echo"
        [.type (.var ⟨.owner, "E"⟩), .type (.var ⟨.owner, "E1"⟩), .type (.var ⟨.owner, "E11"⟩)]]
      typeVars := [⟨"E", .owner, []⟩, ⟨"E1", .owner, []⟩, ⟨"E11", .owner, []⟩] }
  typeVars := [⟨"E", .callable, []⟩, ⟨"E1", .callable, []⟩]
  params := [⟨"first", .var ⟨.callable, "E"⟩⟩, ⟨"second", .var ⟨.callable, "E1"⟩⟩,
    ⟨"third", .var ⟨.owner, "E1"⟩⟩]
  returns := .unit
  className := none
  methodName := none

theorem resolve_echoing :
    ∃ r, echoing.Levelled ∧ echoing.resolve = .ok r ∧
      r.typeVars.map (·.name) = ["E", "E1", "E12"] ∧ r.erased.map (·.name) = ["E2", "E11"] ∧
      ((r.typeVars ++ r.erased).map (·.name)).Nodup ∧
      (r.substitute (.tuple [.var ⟨.callable, "E1"⟩, .var ⟨.owner, "E1"⟩])).vars =
        [⟨.callable, "E1"⟩, ⟨.owner, "E12"⟩] := by
  have hlevels : echoing.Levelled :=
    ⟨fun s => by cases s <;> decide, fun s => by cases s <;> decide⟩
  have hvalue : echoing.resolve.toOption.map (fun r =>
      (r.typeVars.map (·.name), r.erased.map (·.name), r.nameOf ⟨.owner, "E1"⟩)) =
      some (["E", "E1", "E12"], ["E2", "E11"], "E12") := by
    cbv
  cases hres : echoing.resolve with
  | error e =>
    rw [hres] at hvalue
    cases hvalue
  | ok r =>
    rw [hres] at hvalue
    simp only [Except.toOption, Option.map_some, Option.some.injEq, Prod.mk.injEq] at hvalue
    obtain ⟨_, hnames, _, hcallable, _, _, hvars, _⟩ :=
      resolve_keeps_variables_apart hlevels hres
    refine ⟨r, hlevels, rfl, hvalue.1, hvalue.2.1, hnames, ?_⟩
    rw [hvars]
    simp [hcallable, hvalue.2.2]

end Callable

end Buildwright
