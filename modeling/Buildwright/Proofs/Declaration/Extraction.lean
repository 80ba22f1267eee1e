import Buildwright.Proofs.Callable.Levels
import Buildwright.Proofs.Declaration.Lowering
import Buildwright.Proofs.Manifest.Acceptance

/-!
# Extracted callables

What the callable of an accepted declaration is like: its variables are declared level by level
under different names, and the block's types know the block's variables only.
-/

namespace Buildwright

namespace Declaration

theorem extract_eq (d : Declaration) :
    d.extract = barring (d.fault?.map (.malformed d.signature)) d.callable := by
  rw [extract, interpret_eq, mapError_barring]

theorem extract_eq_ok {d : Declaration} {c : Callable} :
    d.extract = .ok c ↔ d.fault? = none ∧ c = d.callable := by
  rw [extract_eq, barring_eq_ok, Option.map_eq_none_iff]

theorem extract_eq_error {d : Declaration} {e : GenerateFault} :
    d.extract = .error e ↔ ∃ reason, d.fault? = some reason ∧ e = .malformed d.signature reason := by
  rw [extract_eq, barring_eq_error, Option.map_eq_some_iff]
  simp only [eq_comm]

theorem fault?_eq_none {d : Declaration} (h : d.fault? = none) :
    (∀ t ∈ d.ownerTypes, d.ownerNames.fault? t = none) ∧
      ∀ t ∈ d.ownTypes, d.names.fault? t = none := by
  unfold fault? at h
  split at h
  · cases h
  · rw [Option.or_eq_none_iff, List.findSome?_eq_none_iff, List.findSome?_eq_none_iff] at h
    exact h

theorem fault?_selfTy {d : Declaration} (h : d.fault? = none) :
    d.ownerNames.fault? d.block.selfTy = none :=
  (fault?_eq_none h).1 _ List.mem_cons_self

theorem fault?_blockBound {d : Declaration} (h : d.fault? = none) {p : TypeParam}
    (hp : p ∈ d.block.generics) {t : TypeExpr} (ht : t ∈ p.bounds) :
    d.ownerNames.fault? t = none :=
  (fault?_eq_none h).1 t (List.mem_cons_of_mem _ (List.mem_flatMap.2 ⟨p, hp, ht⟩))

theorem fault?_functionBound {d : Declaration} (h : d.fault? = none) {p : TypeParam}
    (hp : p ∈ d.function.generics) {t : TypeExpr} (ht : t ∈ p.bounds) :
    d.names.fault? t = none := by
  apply (fault?_eq_none h).2
  rw [ownTypes, List.mem_append, List.mem_append]
  exact .inl (.inl (List.mem_flatMap.2 ⟨p, hp, ht⟩))

theorem fault?_arg {d : Declaration} (h : d.fault? = none) {a : Parameter}
    (ha : a ∈ d.function.args) : d.names.fault? a.type = none := by
  apply (fault?_eq_none h).2
  rw [ownTypes, List.mem_append, List.mem_append]
  exact .inl (.inr (List.mem_map_of_mem ha))

theorem fault?_returnType {d : Declaration} (h : d.fault? = none) :
    d.names.fault? d.function.returnType = none := by
  apply (fault?_eq_none h).2
  rw [ownTypes, List.mem_append]
  exact .inr (List.mem_singleton_self _)

/-! ## Variables -/

theorem varsAt_owner (d : Declaration) :
    d.callable.varsAt .owner = d.block.generics.map (d.ownerNames.typeVar .owner) := rfl

theorem varsAt_callable (d : Declaration) :
    d.callable.varsAt .callable = d.function.generics.map (d.names.typeVar .callable) := rfl

theorem mem_varsAt_owner {d : Declaration} {w : TypeVar} :
    w ∈ d.callable.varsAt .owner ↔ ∃ p ∈ d.block.generics, d.ownerNames.typeVar .owner p = w := by
  rw [varsAt_owner, List.mem_map]

theorem mem_varsAt_callable {d : Declaration} {w : TypeVar} :
    w ∈ d.callable.varsAt .callable ↔
      ∃ p ∈ d.function.generics, d.names.typeVar .callable p = w := by
  rw [varsAt_callable, List.mem_map]

theorem mem_ownerNames {d : Declaration} {s : String} :
    s ∈ d.ownerNames.owner ↔ ∃ v ∈ d.callable.varsAt .owner, v.name = s := by
  simp [ownerNames, varsAt_owner, Names.typeVar]

theorem ownerNames_mentions {d : Declaration} {t : TypeExpr} {v : VarRef}
    (h : d.ownerNames.Mentions t v) : ∃ w ∈ d.callable.varsAt .owner, w.ref = v := by
  rcases h with ⟨_, _, hvar⟩ | ⟨_, self, hself, _⟩
  · obtain ⟨_, ⟨_, hcallable⟩ | ⟨hscope, _, howner⟩⟩ := Names.varOf?_eq_some.1 hvar
    · cases hcallable
    · obtain ⟨w, hw, hname⟩ := mem_ownerNames.1 howner
      refine ⟨w, hw, ?_⟩
      obtain ⟨p, _, rfl⟩ := List.mem_map.1 hw
      obtain ⟨scope, name⟩ := v
      cases hscope
      cases hname
      rfl
  · cases hself

theorem callable_ownerClosed (d : Declaration) : d.callable.OwnerClosed where
  selfTy _ hv := ownerNames_mentions (Names.mem_vars_lower.1 hv)
  bound w hw v hv := by
    obtain ⟨p, _, rfl⟩ := List.mem_map.1 hw
    obtain ⟨bound, hbound, hv⟩ := List.mem_flatMap.1 hv
    obtain ⟨t, _, rfl⟩ := List.mem_map.1 hbound
    exact ownerNames_mentions (Names.mem_vars_lower.1 hv)

theorem Accepted.levelled {d : Declaration} (h : d.Accepted) : d.callable.Levelled where
  scope_eq s v hv := by
    cases s with
    | owner =>
      obtain ⟨p, _, rfl⟩ := List.mem_map.1 hv
      rfl
    | callable =>
      obtain ⟨p, _, rfl⟩ := List.mem_map.1 hv
      rfl
  nodup s := by
    cases s with
    | owner =>
      rw [varsAt_owner, List.map_map]
      exact h.blockNodup
    | callable =>
      rw [varsAt_callable, List.map_map]
      exact h.functionNodup

theorem Accepted.callable_unshadowed {d : Declaration} (h : d.Accepted) :
    d.callable.Unshadowed := by
  intro v hv w hw
  obtain ⟨p, hp, rfl⟩ := List.mem_map.1 hv
  obtain ⟨q, hq, rfl⟩ := List.mem_map.1 hw
  exact h.unshadowed p hp q hq

end Declaration

end Buildwright
