import Mathlib
import Buildwright.Proofs.Callable.Unresolved
import Buildwright.Proofs.Declaration.WellFormed
import Buildwright.Proofs.Pipeline.Builders

/-!
# When resolution fails

There are two ways for a callable to have no builder: its types lead to a reference that the builder
cannot declare, or the unit type cannot stand for an owner variable that the builder leaves out. The
first is looked for first, and which of the two it is does not depend on the order of the search.
-/

namespace Buildwright

namespace Callable

/-- A path that ends in a trait of the unit type, without arguments. -/
def IsUnitBound (t : Ty) : Prop :=
  ∃ rooted front ident, t = .path rooted (front ++ [.mk ident []]) ∧ ident ∈ unitTraits

/-- The types lead to a reference that a builder cannot declare. -/
def Strays (c : Callable) : Prop :=
  ∃ v, c.Reached v ∧ (¬ c.Declares v ∨ c.kind = .static ∧ v.scope = .owner)

/-- The first owner variable for which the unit type cannot stand, and the first of its bounds that
is in the way. -/
structure Obstructed (c : Callable) (v : TypeVar) (bound : Ty) : Prop where
  first : ∃ before after, c.owner.typeVars = before ++ v :: after ∧
    ∀ u ∈ before, c.Reached u.ref ∨ ∀ b ∈ u.bounds, IsUnitBound b
  unreached : ¬ c.Reached v.ref
  firstBound : ∃ before after, v.bounds = before ++ bound :: after ∧ ∀ b ∈ before, IsUnitBound b
  not_isUnitBound : ¬ IsUnitBound bound

theorem unitSatisfies_iff {t : Ty} : unitSatisfies t = true ↔ IsUnitBound t := by
  unfold unitSatisfies IsUnitBound
  cases t with
  | var v => simp [Tree.lastSegment?]
  | tuple elems => simp [Tree.lastSegment?]
  | array elem len => simp [Tree.lastSegment?]
  | path rooted segments =>
    constructor
    · intro h
      split at h
      · next ident hlast =>
        obtain ⟨front, rfl⟩ := List.getLast?_eq_some_iff.1 hlast
        exact ⟨rooted, front, ident, rfl, by simpa using h⟩
      · cases h
    · rintro ⟨rooted', front, ident, heq, hident⟩
      cases heq
      simpa [Tree.lastSegment?] using hident

variable {c : Callable}

/-! ## References -/

theorem wellReached_iff : c.WellReached ↔ ¬ c.Strays := by
  simp only [WellReached, Strays, Allows, ← declares_iff_decl?, not_exists, not_and, not_or,
    not_not]

theorem resolve_of_strays (h : c.Strays) :
    ∃ place name, c.resolve = .error (.unresolved c.signature place name) := by
  cases hrefs : c.admitted with
  | ok refs => exact absurd (exists_admitted_iff.1 ⟨refs, hrefs⟩) (mt wellReached_iff.1 (not_not.2 h))
  | error e =>
    have hres : c.resolve = .error e := by
      rw [resolve, hrefs]
      rfl
    rw [hres]
    cases refuses_of_admitted hrefs with
    | forbidden _ _ => exact ⟨_, _, rfl⟩
    | undeclared _ _ => exact ⟨_, _, rfl⟩

/-! ## The unit type -/

theorem find?_bounds_eq_none {v : TypeVar} :
    (v.bounds.find? fun b => !unitSatisfies b) = none ↔ ∀ b ∈ v.bounds, IsUnitBound b := by
  simp [← unitSatisfies_iff]

theorem find?_bounds_eq_some {v : TypeVar} {bound : Ty} :
    (v.bounds.find? fun b => !unitSatisfies b) = some bound ↔
      ¬ IsUnitBound bound ∧
        ∃ before after, v.bounds = before ++ bound :: after ∧ ∀ b ∈ before, IsUnitBound b := by
  simp [List.find?_eq_some_iff_append, ← unitSatisfies_iff]

theorem uninstantiable?_eq_none :
    uninstantiable? (c.unreachedAt .owner) = none ↔
      ∀ v ∈ c.owner.typeVars, ¬ c.Reached v.ref → ∀ b ∈ v.bounds, IsUnitBound b := by
  simp only [uninstantiable?, List.findSome?_eq_none_iff, Option.map_eq_none_iff,
    find?_bounds_eq_none, mem_unreachedAt, and_imp]
  rfl

/-- The search for what is in the way takes variables and bounds in their order. -/
theorem obstructed_of_uninstantiable? {name : String} {bound : Ty}
    (h : uninstantiable? (c.unreachedAt .owner) = some (name, bound)) :
    ∃ v, c.Obstructed v bound ∧ v.name = name := by
  obtain ⟨passed, v, rest, hothers, hv, hpassed⟩ := List.findSome?_eq_some_iff.1 h
  obtain ⟨b, hbound, heq⟩ := Option.map_eq_some_iff.1 hv
  cases heq
  obtain ⟨hunit, hfirstBound⟩ := find?_bounds_eq_some.1 hbound
  have hmem : v ∈ c.unreachedAt .owner := by
    rw [hothers]
    exact List.mem_append_right _ List.mem_cons_self
  -- The variables before `v` are those that were passed, with reached ones among them.
  obtain ⟨front, back, hvars, hfront, hback⟩ := List.filter_eq_append_iff.1 hothers
  obtain ⟨gap, after, rfl, hgap, _, _⟩ := List.filter_eq_cons_iff.1 hback
  refine ⟨v, ⟨⟨front ++ gap, after, ?_, ?_⟩, (mem_unreachedAt.1 hmem).2, hfirstBound, hunit⟩, rfl⟩
  · rw [List.append_assoc]
    exact hvars
  · intro u hu
    by_cases hreached : c.Reached u.ref
    · exact .inl hreached
    · right
      rcases List.mem_append.1 hu with hu | hu
      · have hu' : u ∈ passed := by
          rw [← hfront, List.mem_filter]
          exact ⟨hu, by simpa using hreached⟩
        exact find?_bounds_eq_none.1 (Option.map_eq_none_iff.1 (hpassed u hu'))
      · exact absurd hreached (by simpa using hgap u hu)

theorem Obstructed.mem {v : TypeVar} {bound : Ty} (h : c.Obstructed v bound) :
    v ∈ c.owner.typeVars ∧ bound ∈ v.bounds := by
  obtain ⟨_, _, hvars, _⟩ := h.first
  obtain ⟨_, _, hbounds, _⟩ := h.firstBound
  rw [hvars, hbounds]
  exact ⟨by simp, by simp⟩

/-! ## All outcomes -/

theorem resolve_of_not_strays (h : ¬ c.Strays) :
    (∃ r, c.resolve = .ok r) ∨
      c.kind.isInstance = false ∧ ∃ v b, c.Obstructed v b ∧
        c.resolve = .error (.uninstantiable c.signature v.name b.toString) := by
  obtain ⟨refs, hrefs⟩ := exists_admitted_iff.2 (wellReached_iff.2 h)
  rw [resolve_of_admitted hrefs]
  cases c.kind.isInstance with
  | true => exact .inl ⟨_, rfl⟩
  | false =>
    cases hunit : uninstantiable? (c.unreachedAt .owner) with
    | none => exact .inl ⟨_, rfl⟩
    | some obstacle =>
      obtain ⟨name, bound⟩ := obstacle
      obtain ⟨v, hobstructed, rfl⟩ := obstructed_of_uninstantiable? hunit
      exact .inr ⟨rfl, v, bound, hobstructed, rfl⟩

theorem exists_resolve_eq_ok_iff :
    (∃ r, c.resolve = .ok r) ↔
      ¬ c.Strays ∧ (c.kind.isInstance = false →
        ∀ v ∈ c.owner.typeVars, ¬ c.Reached v.ref → ∀ b ∈ v.bounds, IsUnitBound b) := by
  simp only [resolve_eq_ok, wellReached_iff, uninstantiable?_eq_none, exists_and_left, exists_eq,
    and_true]

end Callable

/-- Resolution always gives an instance method of an accepted declaration its variables. -/
theorem Declaration.exists_resolve_eq_ok {d : Declaration} (hwell : d.callable.WellFormed)
    (hkind : d.callable.kind.isInstance = true) : ∃ r, d.callable.resolve = .ok r := by
  refine Callable.exists_resolve_eq_ok_iff.2 ⟨?_, fun h => absurd (hkind.symm.trans h) (by decide)⟩
  rintro ⟨v, hv, hdeclares | ⟨hstatic, _⟩⟩
  · exact hdeclares (hwell.declared_of_reached hv)
  · rw [hstatic] at hkind
    cases hkind

namespace Callable

/-- Resolution reports a reference exactly if the types lead to one that cannot be declared. Else it
reports an owner variable exactly if an associated function leaves one out for which the unit type
cannot stand, and then the first of these with the first bound that is in the way. Else it succeeds,
as it does for every instance method of an accepted manifest. -/
theorem resolve_fails_iff (c : Callable) :
    ((∃ signature place name, c.resolve = .error (.unresolved signature place name)) ↔
        c.Strays) ∧
      ((∃ signature name bound, c.resolve = .error (.uninstantiable signature name bound)) ↔
        ¬ c.Strays ∧ c.kind.isInstance = false ∧
          ∃ v ∈ c.owner.typeVars, ¬ c.Reached v.ref ∧ ∃ b ∈ v.bounds, ¬ IsUnitBound b) ∧
      (∀ signature name bound, c.resolve = .error (.uninstantiable signature name bound) →
        signature = c.signature ∧
          ∃ v b, c.Obstructed v b ∧ name = v.name ∧ bound = b.toString) ∧
      ((∃ r, c.resolve = .ok r) ↔
        ¬ c.Strays ∧ (c.kind.isInstance = false →
          ∀ v ∈ c.owner.typeVars, ¬ c.Reached v.ref → ∀ b ∈ v.bounds, IsUnitBound b)) ∧
      ∀ source m d, Manifest.read source = .ok m → d ∈ m.annotated → d.extract = .ok c →
        c.kind.isInstance = true → ∃ b, c.generate = .ok b := by
  have huninstantiable : ∀ signature name bound,
      c.resolve = .error (.uninstantiable signature name bound) →
        ¬ c.Strays ∧ c.kind.isInstance = false ∧ signature = c.signature ∧
          ∃ v b, c.Obstructed v b ∧ name = v.name ∧ bound = b.toString := by
    intro signature name bound hres
    have hstrays : ¬ c.Strays := by
      intro h
      obtain ⟨_, _, hres'⟩ := resolve_of_strays h
      rw [hres] at hres'
      cases hres'
    rcases resolve_of_not_strays hstrays with ⟨r, hok⟩ | ⟨hkind, v, b, hobstructed, herror⟩
    · rw [hres] at hok
      cases hok
    · rw [hres] at herror
      cases herror
      exact ⟨hstrays, hkind, rfl, v, b, hobstructed, rfl, rfl⟩
  refine ⟨⟨?strays, ?unresolved⟩, ⟨?obstructed, ?uninstantiable⟩, ?first, exists_resolve_eq_ok_iff,
    ?generates⟩
  case strays =>
    rintro ⟨_, _, _, hres⟩
    by_contra hstrays
    rcases resolve_of_not_strays hstrays with ⟨r, hok⟩ | ⟨_, v, b, _, herror⟩
    · rw [hres] at hok
      cases hok
    · rw [hres] at herror
      cases herror
  case unresolved =>
    intro hstrays
    obtain ⟨place, name, hres⟩ := resolve_of_strays hstrays
    exact ⟨_, place, name, hres⟩
  case obstructed =>
    rintro ⟨signature, name, bound, hres⟩
    obtain ⟨hstrays, hkind, _, v, b, hobstructed, _⟩ := huninstantiable signature name bound hres
    obtain ⟨hv, hb⟩ := hobstructed.mem
    exact ⟨hstrays, hkind, v, hv, hobstructed.unreached, b, hb, hobstructed.not_isUnitBound⟩
  case uninstantiable =>
    rintro ⟨hstrays, hkind, v, hv, hreached, b, hb, hunit⟩
    rcases resolve_of_not_strays hstrays with hok | ⟨_, u, b', _, herror⟩
    · exact absurd ((exists_resolve_eq_ok_iff.1 hok).2 hkind v hv hreached b hb) hunit
    · exact ⟨_, _, _, herror⟩
  case first =>
    intro signature name bound hres
    exact (huninstantiable signature name bound hres).2.2
  case generates =>
    intro source m d hread hd hextract hkind
    obtain ⟨hfault, rfl⟩ := Declaration.extract_eq_ok.1 hextract
    have hwell := Declaration.wellFormed (Manifest.accepted_of_read hread hd)
      (Manifest.named_of_read hread hd) hfault
    obtain ⟨r, hres⟩ := Declaration.exists_resolve_eq_ok hwell hkind
    exact ⟨_, generate_eq_ok.2 ⟨r, hres, rfl⟩⟩

/-- An associated function of `Cache<K, S>` that leaves both variables of its owner out. The unit
type can be ordered and cannot be serialized. -/
def cacheOf : Callable where
  kind := .static
  name := "of"
  owner :=
    { selfTy := .path false [.mk "Cache" [.type (.var ⟨.owner, "K"⟩), .type (.var ⟨.owner, "S"⟩)]]
      typeVars := [⟨"K", .owner, [.name "Ord"]⟩,
        ⟨"S", .owner, [.name "Clone", .path false [.mk "serde" [], .mk "Serialize" []]]⟩] }
  typeVars := []
  params := [⟨"size", .name "usize"⟩]
  returns := .unit
  className := none
  methodName := none

open Manifest in
theorem cacheOf_obstructed :
    (∃ v b, cacheOf.Obstructed v b ∧ "S" = v.name ∧ "serde::Serialize" = b.toString) ∧
      read shelfText = .ok shelfManifest ∧ fillDeclaration ∈ shelfManifest.annotated ∧
      ∃ b, fillDeclaration.callable.generate = .ok b := by
  have hresolve : cacheOf.resolve =
      .error (.uninstantiable cacheOf.signature "S" "serde::Serialize") := by
    cbv
  have hmem : fillDeclaration ∈ shelfManifest.annotated := by
    rw [annotated_shelfManifest]
    exact List.mem_cons_self
  obtain ⟨_, _, hfirst, _, _⟩ := resolve_fails_iff cacheOf
  obtain ⟨_, _, _, _, hgenerates⟩ := resolve_fails_iff fillDeclaration.callable
  exact ⟨(hfirst _ _ _ hresolve).2, read_shelfText, hmem,
    hgenerates _ _ _ read_shelfText hmem extract_fillDeclaration rfl⟩

end Callable

end Buildwright
