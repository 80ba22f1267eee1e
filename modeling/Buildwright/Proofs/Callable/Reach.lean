import Buildwright.Callable.Resolution
import Buildwright.Proofs.Checked

/-!
# The references that a builder needs

The references that a callable's parameters and return type lead to, over any number of bounds, are
the least set that holds those types' variables and is closed under the bounds of its members. The
search finds exactly this set, and it succeeds if and only if all members are declared and none is
forbidden.
-/

namespace Buildwright

namespace Callable

/-- What the parameters and the return type lead to. -/
inductive Reached (c : Callable) : VarRef → Prop where
  | param {p : Param} {v : VarRef} (hp : p ∈ c.params) (hv : v ∈ p.ty.vars) : Reached c v
  | returns {v : VarRef} (hv : v ∈ c.returns.vars) : Reached c v
  | bound {v w : VarRef} {d : TypeVar} (hv : Reached c v) (hd : c.decl? v = some d)
      (hw : w ∈ d.boundVars) : Reached c w

/-- A static method has no instance that would fix an owner variable. -/
def Allows (c : Callable) (v : VarRef) : Prop := c.kind = .static → v.scope ≠ .owner

theorem forbidden?_eq_none {c : Callable} {refs : List VarRef} :
    c.forbidden? refs = none ↔ ∀ v ∈ refs, c.Allows v := by
  unfold forbidden? Allows
  split
  · next hstatic => simp [hstatic]
  · next hother => simp [hother]

theorem mem_fresh {known refs : List VarRef} {v : VarRef} :
    v ∈ fresh known refs ↔ v ∈ refs ∧ v ∉ known := by
  refine ⟨fresh_spec, ?_⟩
  rintro ⟨hv, hknown⟩
  induction refs generalizing known with
  | nil => cases hv
  | cons w rest ih =>
    rw [fresh]
    rcases List.mem_cons.1 hv with rfl | hrest
    · rw [if_neg (by simpa using hknown)]
      exact List.mem_cons_self
    · split
      · exact ih hrest hknown
      · by_cases hvw : v = w
        · exact hvw ▸ List.mem_cons_self
        · refine List.mem_cons_of_mem _ (ih hrest ?_)
          simp [hvw, hknown]

/-! ## The start of the search -/

def startVars (c : Callable) : List VarRef := c.mentioning.flatMap fun (_, t) => t.vars

theorem mem_startVars {c : Callable} {v : VarRef} :
    v ∈ c.startVars ↔ (∃ p ∈ c.params, v ∈ p.ty.vars) ∨ v ∈ c.returns.vars := by
  simp only [startVars, mentioning, List.mem_flatMap, List.mem_append, List.mem_map,
    List.mem_singleton]
  constructor
  · rintro ⟨_, ⟨p, hp, rfl⟩ | rfl, hv⟩
    · exact .inl ⟨p, hp, hv⟩
    · exact .inr hv
  · intro hcases
    rcases hcases with ⟨p, hp, hv⟩ | hv
    · exact ⟨_, .inl ⟨p, hp, rfl⟩, hv⟩
    · exact ⟨_, .inr rfl, hv⟩

theorem mentioned_eq_ok {c : Callable} {start : List VarRef} :
    c.mentioned = .ok start ↔ (∀ v ∈ c.startVars, c.Allows v) ∧ start = fresh [] c.startVars := by
  have hnone : (c.mentioning.findSome? fun (context, t) =>
      (c.forbidden? t.vars).map fun v => (context, v)) = none ↔
        ∀ v ∈ c.startVars, c.Allows v := by
    simp only [List.findSome?_eq_none_iff, Option.map_eq_none_iff, forbidden?_eq_none, startVars,
      List.mem_flatMap]
    constructor
    · rintro h v ⟨m, hm, hv⟩
      exact h m hm v hv
    · intro h m hm v hv
      exact h v ⟨m, hm, hv⟩
  unfold mentioned
  split
  · next hsome =>
    rw [← hnone, hsome]
    simp
  · next h =>
    rw [← hnone]
    simp [h, startVars, eq_comm]

theorem reached_of_mem_startVars {c : Callable} {v : VarRef} (h : v ∈ c.startVars) :
    c.Reached v := by
  rcases mem_startVars.1 h with ⟨p, hp, hv⟩ | hv
  · exact .param hp hv
  · exact .returns hv

/-! ## The search -/

/-- The bounds of a known reference have been looked at. -/
def Expanded (c : Callable) (known : List VarRef) (v : VarRef) : Prop :=
  ∃ d, c.decl? v = some d ∧ ∀ w ∈ d.boundVars, w ∈ known ∧ c.Allows w

/-- What holds between any two steps of the search. -/
structure Searching (c : Callable) (known pending : List VarRef) : Prop where
  reached : ∀ v ∈ known, c.Reached v
  pending_known : ∀ v ∈ pending, v ∈ known
  expanded : ∀ v ∈ known, v ∈ pending ∨ c.Expanded known v

theorem Expanded.mono {c : Callable} {known new : List VarRef} {v : VarRef}
    (h : c.Expanded known v) : c.Expanded (known ++ new) v := by
  obtain ⟨d, hd, hw⟩ := h
  exact ⟨d, hd, fun w hmem => ⟨List.mem_append_left _ (hw w hmem).1, (hw w hmem).2⟩⟩

theorem Searching.start (c : Callable) :
    c.Searching (fresh [] c.startVars) (fresh [] c.startVars).reverse where
  reached _ hv := reached_of_mem_startVars (mem_fresh.1 hv).1
  pending_known _ hv := List.mem_reverse.1 hv
  expanded _ hv := .inl (List.mem_reverse.2 hv)

/-- One step: the bounds of a pending reference are looked at. -/
theorem Searching.step {c : Callable} {known pending : List VarRef} {v : VarRef} {d : TypeVar}
    (h : c.Searching known (v :: pending)) (hd : c.decl? v = some d)
    (hallowed : ∀ w ∈ d.boundVars, c.Allows w) :
    c.Searching (known ++ fresh known d.boundVars)
      ((fresh known d.boundVars).reverse ++ pending) where
  reached w hw := by
    rcases List.mem_append.1 hw with hknown | hnew
    · exact h.reached w hknown
    · have hv := h.reached v (h.pending_known v List.mem_cons_self)
      exact .bound hv hd (mem_fresh.1 hnew).1
  pending_known w hw := by
    rcases List.mem_append.1 hw with hnew | hpending
    · exact List.mem_append_right _ (List.mem_reverse.1 hnew)
    · exact List.mem_append_left _ (h.pending_known w (List.mem_cons_of_mem _ hpending))
  expanded w hw := by
    rcases List.mem_append.1 hw with hknown | hnew
    · rcases h.expanded w hknown with hpending | hexp
      · rcases List.mem_cons.1 hpending with rfl | hpending
        · refine .inr ⟨d, hd, fun u hu => ⟨?_, hallowed u hu⟩⟩
          by_cases hu' : u ∈ known
          · exact List.mem_append_left _ hu'
          · exact List.mem_append_right _ (mem_fresh.2 ⟨hu, hu'⟩)
        · exact .inl (List.mem_append_right _ hpending)
      · exact .inr hexp.mono
    · exact .inl (List.mem_append_left _ (List.mem_reverse.2 hnew))

theorem closure_nil (c : Callable) (known : List VarRef) : c.closure known [] = .ok known := by
  rw [closure]

theorem closure_cons {c : Callable} {v : VarRef} {d : TypeVar} (hd : c.decl? v = some d)
    (hnone : c.forbidden? d.boundVars = none) (known pending : List VarRef) :
    c.closure known (v :: pending) =
      c.closure (known ++ fresh known d.boundVars)
        ((fresh known d.boundVars).reverse ++ pending) := by
  conv => lhs; rw [closure]
  split
  · next hd' =>
    rw [hd] at hd'
    cases hd'
  · next d' hd' =>
    rw [hd] at hd'
    cases hd'
    rw [hnone]

theorem closure_undeclared {c : Callable} {v : VarRef} (hd : c.decl? v = none)
    (known pending : List VarRef) :
    c.closure known (v :: pending) = .error (.unresolved c.signature "type" v.name) := by
  rw [closure]
  split
  · rfl
  · next d' hd' =>
    rw [hd] at hd'
    cases hd'

theorem closure_forbidden {c : Callable} {v w : VarRef} {d : TypeVar} (hd : c.decl? v = some d)
    (hw : c.forbidden? d.boundVars = some w) (known pending : List VarRef) :
    c.closure known (v :: pending) =
      .error (.unresolved c.signature s!"bound of '{v.name}'" w.name) := by
  rw [closure]
  split
  · next hd' =>
    rw [hd] at hd'
    cases hd'
  · next d' hd' =>
    rw [hd] at hd'
    cases hd'
    rw [hw]

theorem Searching.run {c : Callable} {known pending result : List VarRef}
    (h : c.Searching known pending) (hrun : c.closure known pending = .ok result) :
    c.Searching result [] ∧ ∀ v ∈ known, v ∈ result := by
  induction known, pending using closure.induct c with
  | case1 known =>
    rw [closure_nil] at hrun
    cases hrun
    exact ⟨h, fun _ hv => hv⟩
  | case2 known v pending hd =>
    rw [closure_undeclared hd] at hrun
    cases hrun
  | case3 known v pending d hd w hw =>
    rw [closure_forbidden hd hw] at hrun
    cases hrun
  | case4 known v pending d hd hnone ih =>
    rw [closure_cons hd hnone] at hrun
    obtain ⟨hdone, hmono⟩ := ih (h.step hd (forbidden?_eq_none.1 hnone)) hrun
    exact ⟨hdone, fun w hw => hmono w (List.mem_append_left _ hw)⟩

/-- A search in which nothing that is reached is undeclared or forbidden ends. -/
theorem Searching.ends {c : Callable} {known pending : List VarRef} (h : c.Searching known pending)
    (hdecl : ∀ v, c.Reached v → ∃ d, c.decl? v = some d) (hallows : ∀ v, c.Reached v → c.Allows v) :
    ∃ result, c.closure known pending = .ok result := by
  induction known, pending using closure.induct c with
  | case1 known => exact ⟨known, closure_nil c known⟩
  | case2 known v pending hd =>
    obtain ⟨d, hd'⟩ := hdecl v (h.reached v (h.pending_known v List.mem_cons_self))
    rw [hd] at hd'
    cases hd'
  | case3 known v pending d hd w hw =>
    have hv : c.Reached v := h.reached v (h.pending_known v List.mem_cons_self)
    have hnone : c.forbidden? d.boundVars = none :=
      forbidden?_eq_none.2 fun u hu => hallows u (.bound hv hd hu)
    rw [hw] at hnone
    cases hnone
  | case4 known v pending d hd hnone ih =>
    rw [closure_cons hd hnone]
    exact ih (h.step hd (forbidden?_eq_none.1 hnone))

theorem Searching.complete {c : Callable} {known : List VarRef} (h : c.Searching known [])
    (hstart : ∀ v ∈ c.startVars, v ∈ known) {v : VarRef} (hv : c.Reached v) : v ∈ known := by
  induction hv with
  | param hp hv => exact hstart _ (mem_startVars.2 (.inl ⟨_, hp, hv⟩))
  | returns hv => exact hstart _ (mem_startVars.2 (.inr hv))
  | bound hv hd hw ih =>
    rcases h.expanded _ ih with hpending | ⟨d, hd', hknown⟩
    · cases hpending
    · rw [hd] at hd'
      cases hd'
      exact (hknown _ hw).1

/-! ## What is admitted -/

/-- The builder's references are those that are reached. All of them are declared and allowed. -/
theorem admitted_spec {c : Callable} {refs : List VarRef} (h : c.admitted = .ok refs) (v : VarRef) :
    (v ∈ refs ↔ c.Reached v) ∧ (c.Reached v → (∃ d, c.decl? v = some d) ∧ c.Allows v) := by
  obtain ⟨start, hstart, hrun⟩ := bind_eq_ok.1 h
  obtain ⟨hallows, rfl⟩ := mentioned_eq_ok.1 hstart
  obtain ⟨hdone, hmono⟩ := (Searching.start c).run hrun
  have hknown : ∀ w ∈ c.startVars, w ∈ refs := fun w hw => hmono w (mem_fresh.2 ⟨hw, by simp⟩)
  refine ⟨⟨hdone.reached v, hdone.complete hknown⟩, fun hv => ⟨?_, ?_⟩⟩
  · rcases hdone.expanded v (hdone.complete hknown hv) with hpending | ⟨d, hd, _⟩
    · cases hpending
    · exact ⟨d, hd⟩
  · cases hv with
    | param hp hv => exact hallows v (mem_startVars.2 (.inl ⟨_, hp, hv⟩))
    | returns hv => exact hallows v (mem_startVars.2 (.inr hv))
    | bound hv hd hw =>
      rcases hdone.expanded _ (hdone.complete hknown hv) with hpending | ⟨d, hd', hexp⟩
      · cases hpending
      · rw [hd] at hd'
        cases hd'
        exact (hexp v hw).2

/-- The search succeeds if and only if everything reached is declared and allowed. -/
theorem exists_admitted_iff {c : Callable} :
    (∃ refs, c.admitted = .ok refs) ↔
      ∀ v, c.Reached v → (∃ d, c.decl? v = some d) ∧ c.Allows v := by
  constructor
  · rintro ⟨refs, h⟩ v hv
    exact (admitted_spec h v).2 hv
  · intro h
    have hstart : c.mentioned = .ok (fresh [] c.startVars) :=
      mentioned_eq_ok.2 ⟨fun v hv => (h v (reached_of_mem_startVars hv)).2, rfl⟩
    obtain ⟨refs, hrun⟩ :=
      (Searching.start c).ends (fun v hv => (h v hv).1) (fun v hv => (h v hv).2)
    exact ⟨refs, bind_eq_ok.2 ⟨_, hstart, hrun⟩⟩

theorem closure_eq_ok {c : Callable} {known pending : List VarRef}
    (h : ∀ v ∈ pending, ∃ d, c.decl? v = some d ∧ c.forbidden? d.boundVars = none ∧
      d.boundVars ⊆ known) : c.closure known pending = .ok known := by
  induction pending with
  | nil => exact closure_nil c known
  | cons v rest ih =>
    obtain ⟨d, hd, hallowed, hbounds⟩ := h v List.mem_cons_self
    have hfresh : fresh known d.boundVars = [] :=
      List.eq_nil_iff_forall_not_mem.2 fun w hw => (mem_fresh.1 hw).2 (hbounds (mem_fresh.1 hw).1)
    rw [closure_cons hd hallowed, hfresh, List.append_nil]
    exact ih fun w hw => h w (List.mem_cons_of_mem _ hw)

/-- The mentioned variables are declared, and their bounds mention no others. -/
def isClosed (c : Callable) : Bool :=
  match c.mentioned with
  | .ok refs => refs.all fun v => (c.decl? v).any fun d =>
      (c.forbidden? d.boundVars).isNone && decide (d.boundVars ⊆ refs)
  | .error _ => true

theorem admitted_eq_mentioned {c : Callable} (h : c.isClosed = true) :
    c.admitted = c.mentioned := by
  unfold isClosed at h
  cases hrefs : c.mentioned with
  | error e =>
    rw [admitted, hrefs]
    rfl
  | ok refs =>
    have hclosed : ∀ v ∈ refs.reverse, ∃ d, c.decl? v = some d ∧ c.forbidden? d.boundVars = none ∧
        d.boundVars ⊆ refs := by
      simpa [hrefs, Option.any_eq_true] using h
    rw [admitted, hrefs]
    exact closure_eq_ok hclosed

end Callable

end Buildwright
