import Buildwright.Proofs.Callable.Resolution

/-!
# References that a builder cannot declare

When resolution reports a reference, then one that it has to declare: either a static method cannot
fix it, and the report says where it stands, or nothing declares it.
-/

namespace Buildwright.Callable

/-- Where a reference stands that a builder has to declare, in the words for the place. -/
inductive Cites (c : Callable) : String → VarRef → Prop where
  | param {p : Param} {v : VarRef} (hp : p ∈ c.params) (hv : v ∈ p.ty.vars) :
      Cites c s!"parameter '{p.name}'" v
  | returns {v : VarRef} (hv : v ∈ c.returns.vars) : Cites c "return type" v
  | bound {w v : VarRef} {d : TypeVar} (hw : c.Reached w) (hd : c.decl? w = some d)
      (hv : v ∈ d.boundVars) : Cites c s!"bound of '{w.name}'" v

theorem Cites.reached {c : Callable} {place : String} {v : VarRef} (h : c.Cites place v) :
    c.Reached v := by
  cases h with
  | param hp hv => exact .param hp hv
  | returns hv => exact .returns hv
  | bound hw hd hv => exact .bound hw hd hv

/-- The reports of references that cannot be declared. -/
inductive Refuses (c : Callable) : GenerateFault → Prop where
  | forbidden {place : String} {v : VarRef} (hv : c.Cites place v) (hallows : ¬ c.Allows v) :
      Refuses c (.unresolved c.signature place v.name)
  | undeclared {v : VarRef} (hv : c.Reached v) (hd : c.decl? v = none) :
      Refuses c (.unresolved c.signature "type" v.name)

variable {c : Callable}

theorem forbidden?_eq_some {refs : List VarRef} {v : VarRef} (h : c.forbidden? refs = some v) :
    v ∈ refs ∧ ¬ c.Allows v := by
  unfold forbidden? at h
  split at h
  · next hstatic =>
    have hfound := List.find?_some h
    have hscope : v.scope = .owner := beq_iff_eq.1 hfound
    exact ⟨List.mem_of_find?_eq_some h, fun hallows => hallows hstatic hscope⟩
  · cases h

theorem refuses_of_mentioned {e : GenerateFault} (h : c.mentioned = .error e) : c.Refuses e := by
  unfold mentioned at h
  split at h
  · next place v hfound =>
    cases h
    obtain ⟨⟨_, t⟩, hmem, hmap⟩ := List.exists_of_findSome?_eq_some hfound
    obtain ⟨w, hforbidden, hpair⟩ := Option.map_eq_some_iff.1 hmap
    cases hpair
    obtain ⟨hv, hallows⟩ := forbidden?_eq_some hforbidden
    refine .forbidden ?_ hallows
    rcases List.mem_append.1 hmem with hparam | hreturns
    · obtain ⟨p, hp, heq⟩ := List.mem_map.1 hparam
      cases heq
      exact .param hp hv
    · cases List.mem_singleton.1 hreturns
      exact .returns hv
  · cases h

theorem Searching.refuses {known pending : List VarRef} {e : GenerateFault}
    (h : c.Searching known pending) (hrun : c.closure known pending = .error e) : c.Refuses e := by
  induction known, pending using closure.induct c with
  | case1 known =>
    rw [closure_nil] at hrun
    cases hrun
  | case2 known v pending hd =>
    rw [closure_undeclared hd] at hrun
    cases hrun
    exact .undeclared (h.reached v (h.pending_known v List.mem_cons_self)) hd
  | case3 known v pending d hd w hw =>
    rw [closure_forbidden hd hw] at hrun
    cases hrun
    obtain ⟨hmem, hallows⟩ := forbidden?_eq_some hw
    exact .forbidden (.bound (h.reached v (h.pending_known v List.mem_cons_self)) hd hmem) hallows
  | case4 known v pending d hd hnone ih =>
    rw [closure_cons hd hnone] at hrun
    exact ih (h.step hd (forbidden?_eq_none.1 hnone)) hrun

theorem refuses_of_admitted {e : GenerateFault} (h : c.admitted = .error e) : c.Refuses e := by
  unfold admitted at h
  cases hstart : c.mentioned with
  | error e' =>
    rw [hstart] at h
    cases h
    exact refuses_of_mentioned hstart
  | ok start =>
    rw [hstart] at h
    obtain ⟨_, rfl⟩ := mentioned_eq_ok.1 hstart
    exact (Searching.start c).refuses h

/-- Resolution fails over a reference that cannot be declared, or over the unit type. -/
theorem resolve_eq_error {e : GenerateFault} (h : c.resolve = .error e) :
    c.Refuses e ∨ ∃ name bound, e = .uninstantiable c.signature name bound := by
  cases hrefs : c.admitted with
  | error e' =>
    have hres : c.resolve = .error e' := by
      unfold resolve
      rw [hrefs]
      rfl
    rw [hres] at h
    cases h
    exact .inl (refuses_of_admitted hrefs)
  | ok refs =>
    rw [resolve_of_admitted hrefs] at h
    split at h
    · cases h
    · split at h
      · cases h
        exact .inr ⟨_, _, rfl⟩
      · cases h

end Buildwright.Callable
