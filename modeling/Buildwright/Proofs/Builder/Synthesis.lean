import Buildwright.Builder.Synthesis
import Buildwright.Proofs.Checked
import Buildwright.Proofs.Tree.Renaming

/-!
# The parts of a builder

Where the types of a builder come from: each is a type of the callable under the builder's names.
-/

namespace Buildwright

namespace Callable

theorem generate_eq_ok {c : Callable} {b : Builder} :
    c.generate = .ok b ↔ ∃ r, c.resolve = .ok r ∧ c.synthesize r = b := by
  rw [generate, bind_eq_ok]
  constructor
  · rintro ⟨r, hres, h⟩
    cases h
    exact ⟨r, hres, rfl⟩
  · rintro ⟨r, hres, rfl⟩
    exact ⟨r, hres, rfl⟩

theorem exists_param_of_field {c : Callable} {r : Resolution} {f : Field}
    (h : f ∈ (c.synthesize r).fields) : ∃ p ∈ c.params, f.ty = r.substitute p.ty := by
  obtain ⟨p, hp, rfl⟩ := List.mem_map.1 h
  exact ⟨p, hp, rfl⟩

theorem exists_field_of_param {c : Callable} (r : Resolution) {p : Param} (h : p ∈ c.params) :
    ∃ f ∈ (c.synthesize r).fields, f.ty = r.substitute p.ty :=
  ⟨_, List.mem_map_of_mem h, rfl⟩

theorem receiver_eq_some {c : Callable} {r : Resolution} {s : ReceiverSlot}
    (h : (c.synthesize r).receiver = some s) :
    c.kind.isInstance = true ∧ s.ty = r.substitute c.owner.selfTy ∧ s.erased = r.erased := by
  obtain ⟨mode, hmode, rfl⟩ := Option.map_eq_some_iff.1 h
  refine ⟨?_, rfl, rfl⟩
  rw [CallableKind.isInstance, hmode]
  rfl

theorem target_eq_associated {c : Callable} {r : Resolution} {o : Ty} {f : String}
    (h : (c.synthesize r).terminal.target = .associated o f) :
    c.kind.isInstance = false ∧ o = r.instantiate c.owner.selfTy := by
  have htarget : (c.synthesize r).terminal.target =
      if c.kind.isInstance then .method c.name
      else .associated (r.instantiate c.owner.selfTy) c.name := rfl
  rw [htarget] at h
  split at h
  · cases h
  · next hkind =>
    cases h
    exact ⟨by simpa using hkind, rfl⟩

end Callable

namespace Resolution

theorem mem_vars_substitute {r : Resolution} {t : Ty} {v : VarRef} :
    v ∈ (r.substitute t).vars ↔ ∃ w ∈ t.vars, v = ⟨w.scope, r.nameOf w⟩ := by
  rw [substitute, Ty.vars_rename, List.mem_map]
  simp only [eq_comm]

theorem vars_instantiate (r : Resolution) (t : Ty) :
    (r.instantiate t).vars =
      (t.vars.filter fun v => !r.instantiated.contains v).map fun v => ⟨v.scope, r.nameOf v⟩ := by
  have hkept : (t.substitute fun v =>
      if r.instantiated.contains v then some .unit else none).vars =
        t.vars.filter fun v => !r.instantiated.contains v := by
    rw [Tree.vars_substitute]
    induction t.vars with
    | nil => rfl
    | cons v rest ih =>
      rw [List.flatMap_cons, ih, List.filter_cons]
      cases r.instantiated.contains v <;> simp [Tree.unit]
  rw [instantiate, substitute, Ty.vars_rename, hkept]

end Resolution

end Buildwright
