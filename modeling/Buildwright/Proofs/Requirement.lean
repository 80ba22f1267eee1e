/-!
# Requirements

What a check demands, one requirement after the other. A check is right for a list of requirements
if it passes when all of them are met, and reports the first of them that is not.
-/

namespace Buildwright

/-- What must hold, and the fault to report where it does not. -/
structure Requirement (ε : Type) where
  Met : Prop
  fault : ε

/-- The outcome of checking requirements in their order. -/
inductive Checks {ε : Type} : List (Requirement ε) → Except ε Unit → Prop where
  | passed : Checks [] (.ok ())
  | met {r : Requirement ε} {rs : List (Requirement ε)} {x : Except ε Unit} :
      r.Met → Checks rs x → Checks (r :: rs) x
  | unmet {r : Requirement ε} {rs : List (Requirement ε)} :
      ¬ r.Met → Checks (r :: rs) (.error r.fault)

namespace Checks

variable {ε α : Type} {rs rs' : List (Requirement ε)} {x y : Except ε Unit}

theorem eq_ok_iff (h : Checks rs x) : x = .ok () ↔ ∀ r ∈ rs, r.Met := by
  induction h with
  | passed => simp
  | met hmet _ ih => rw [ih, List.forall_mem_cons, and_iff_right hmet]
  | unmet hunmet =>
    constructor
    · rintro ⟨⟩
    · intro hall
      exact absurd (hall _ List.mem_cons_self) hunmet

theorem eq_error_iff (h : Checks rs x) {e : ε} :
    x = .error e ↔ ∃ before r after, rs = before ++ r :: after ∧ (∀ q ∈ before, q.Met) ∧
      ¬ r.Met ∧ r.fault = e := by
  induction h with
  | passed => simp
  | @met r rs x hmet _ ih =>
    rw [ih]
    constructor
    · rintro ⟨before, r', after, rfl, hbefore, hunmet, hfault⟩
      exact ⟨r :: before, r', after, rfl, List.forall_mem_cons.2 ⟨hmet, hbefore⟩, hunmet, hfault⟩
    · rintro ⟨before, r', after, hrs, hbefore, hunmet, hfault⟩
      rcases List.cons_eq_append_iff.1 hrs with ⟨_, hfirst⟩ | ⟨before', rfl, hrest⟩
      · cases hfirst
        exact absurd hmet hunmet
      · exact ⟨before', r', after, hrest,
          fun q hq => hbefore q (List.mem_cons_of_mem _ hq), hunmet, hfault⟩
  | @unmet r rs hunmet =>
    constructor
    · rintro ⟨⟩
      exact ⟨[], r, rs, rfl, List.forall_mem_nil _, hunmet, rfl⟩
    · rintro ⟨before, r', after, hrs, hbefore, _, hfault⟩
      rcases List.cons_eq_append_iff.1 hrs with ⟨_, hfirst⟩ | ⟨before', rfl, _⟩
      · cases hfirst
        rw [hfault]
      · exact absurd (hbefore r List.mem_cons_self) hunmet

theorem bind (h : Checks rs x) (h' : (∀ r ∈ rs, r.Met) → Checks rs' y) :
    Checks (rs ++ rs') (x >>= fun _ => y) := by
  induction h with
  | passed => exact h' (List.forall_mem_nil _)
  | met hmet _ ih => exact .met hmet (ih fun hall => h' (List.forall_mem_cons.2 ⟨hmet, hall⟩))
  | unmet hunmet => exact .unmet hunmet

theorem guard {p : Prop} {c : Prop} [Decidable c] {e : ε} (hc : c ↔ ¬ p) (h : p → Checks rs x) :
    Checks (⟨p, e⟩ :: rs) (if c then .error e else x) := by
  by_cases hp : p
  · rw [if_neg fun h => hc.1 h hp]
    exact .met hp (h hp)
  · rw [if_pos (hc.2 hp)]
    exact .unmet hp

theorem forM {f : α → Except ε Unit} {demands : α → List (Requirement ε)} {xs : List α}
    (h : ∀ a ∈ xs, Checks (demands a) (f a)) : Checks (xs.flatMap demands) (xs.forM f) := by
  induction xs with
  | nil => exact .passed
  | cons a rest ih =>
    rw [List.flatMap_cons]
    exact bind (h a List.mem_cons_self) fun _ =>
      ih fun b hb => h b (List.mem_cons_of_mem _ hb)

end Checks

end Buildwright
