import Buildwright.Proofs.Declaration.Interpretation
import Buildwright.Proofs.Tree.Naming

/-!
# What names become

A bare name in a declaration becomes a variable, the block's type, or stays the name of a type. So
the variables and the names of concrete types in a resolved type can be read off the bare names of
the type as it is written.
-/

namespace Buildwright

namespace Names

theorem varOf?_eq_some {n : Names} {s : String} {v : VarRef} :
    n.varOf? s = some v ↔
      v.name = s ∧ (v.scope = .callable ∧ s ∈ n.callable ∨
        v.scope = .owner ∧ s ∉ n.callable ∧ s ∈ n.owner) := by
  obtain ⟨scope, name⟩ := v
  unfold varOf?
  by_cases hcallable : s ∈ n.callable
  · simp [hcallable, and_comm, eq_comm]
  · by_cases howner : s ∈ n.owner
    · simp [hcallable, howner, and_comm, eq_comm]
    · simp [hcallable, howner]

theorem varOf?_eq_none {n : Names} {s : String} :
    n.varOf? s = none ↔ s ∉ n.callable ∧ s ∉ n.owner := by
  unfold varOf?
  by_cases hcallable : s ∈ n.callable
  · simp [hcallable]
  · by_cases howner : s ∈ n.owner <;> simp [hcallable, howner]

/-- A type as it is written mentions a variable: by its name, or by `Self` if the block's type
does. -/
def Mentions (n : Names) (t : TypeExpr) (v : VarRef) : Prop :=
  (v.name ∈ t.bareNames ∧ v.name ≠ "Self" ∧ n.varOf? v.name = some v) ∨
    ("Self" ∈ t.bareNames ∧ ∃ self, n.selfTy = some self ∧ v ∈ self.vars)

theorem meaning?_self (n : Names) : n.meaning? "Self" = n.selfTy := rfl

theorem meaning?_of_ne {n : Names} {s : String} (h : s ≠ "Self") :
    n.meaning? s = (n.varOf? s).map .var := by
  rw [meaning?, if_neg (by simpa using h)]

/-- The variables of a resolved type are those that it mentions as it is written. -/
theorem mem_vars_lower {n : Names} {t : TypeExpr} {v : VarRef} :
    v ∈ (n.lower t).vars ↔ n.Mentions t v := by
  rw [lower, Tree.vars_resolve, List.mem_flatMap, Mentions]
  constructor
  · rintro ⟨s, hs, hv⟩
    by_cases hself : s = "Self"
    · subst hself
      rw [meaning?_self] at hv
      cases hty : n.selfTy with
      | none => simp [hty] at hv
      | some self => exact .inr ⟨hs, self, rfl, by simpa [hty] using hv⟩
    · rw [meaning?_of_ne hself] at hv
      cases hvar : n.varOf? s with
      | none => simp [hvar] at hv
      | some w =>
        have hvw : v = w := by simpa [hvar] using hv
        have hname : w.name = s := (varOf?_eq_some.1 hvar).1
        rw [← hvw] at hname hvar
        exact .inl ⟨hname ▸ hs, hname ▸ hself, hname ▸ hvar⟩
  · intro hcases
    rcases hcases with ⟨hs, hself, hvar⟩ | ⟨hs, self, hty, hv⟩
    · refine ⟨v.name, hs, ?_⟩
      rw [meaning?_of_ne hself, hvar]
      simp
    · refine ⟨"Self", hs, ?_⟩
      rw [meaning?_self, hty]
      simpa using hv

/-! ## Types without faults -/

theorem fault?_eq_none {n : Names} {t : TypeExpr} :
    n.fault? t = none ↔ ∀ p ∈ t.paths, n.pathFault? p = none := by
  rw [fault?, List.findSome?_eq_none_iff]

theorem self_not_mem_bareNames {n : Names} {t : TypeExpr} (h : n.fault? t = none)
    (hself : n.selfTy = none) : "Self" ∉ t.bareNames := by
  intro hmem
  have hpath := fault?_eq_none.1 h _ (Tree.mem_bareNames.1 hmem)
  simp [pathFault?, hself] at hpath

/-- A path that is more than a bare name has no fault if it neither starts with `Self` nor gives
arguments to a variable. -/
theorem pathFault?_path_eq_none {n : Names} {rooted : Bool} {first : Segment Empty}
    {others : List (Segment Empty)}
    (hbare : (Tree.path rooted (first :: others)).name? = none) :
    n.pathFault? (.path rooted (first :: others)) = none ↔
      first.ident ≠ "Self" ∧ (others = [] → n.varOf? first.ident = none) := by
  rw [pathFault?, hbare]
  by_cases hself : first.ident = "Self"
  · rw [if_pos (beq_iff_eq.2 hself)]
    exact ⟨fun h => absurd h (Option.some_ne_none _), fun h => absurd hself h.1⟩
  · rw [if_neg (fun h => hself (beq_iff_eq.1 h))]
    by_cases hvar : others.isEmpty && (n.varOf? first.ident).isSome
    · rw [if_pos hvar]
      rw [Bool.and_eq_true, List.isEmpty_iff, Option.isSome_iff_ne_none] at hvar
      exact ⟨fun h => absurd h (Option.some_ne_none _), fun h => absurd (h.2 hvar.1) hvar.2⟩
    · rw [if_neg hvar]
      rw [Bool.and_eq_true, List.isEmpty_iff, not_and, Option.not_isSome_iff_eq_none] at hvar
      exact ⟨fun _ => ⟨hself, hvar⟩, fun _ => rfl⟩

/-- In a type without faults, a name with arguments is neither `Self` nor a variable. -/
theorem varOf?_eq_none_of_args {n : Names} {t p : TypeExpr} {s : String} (h : n.fault? t = none)
    (hp : p ∈ t.paths) (hbare : p.name? = none) (hlone : p.loneName? = some s) :
    s ≠ "Self" ∧ n.varOf? s = none := by
  obtain ⟨args, rfl⟩ := Tree.eq_path_of_loneName? hlone
  have hpath := (pathFault?_path_eq_none hbare).1 (fault?_eq_none.1 h _ hp)
  exact ⟨hpath.1, hpath.2 rfl⟩

/-- The names of concrete types in a resolved type are those that the type says and that are no
variables, and those of the block's type if it says `Self`. -/
theorem mem_loneNames_lower {n : Names} {t : TypeExpr} (h : n.fault? t = none) {s : String} :
    s ∈ (n.lower t).loneNames ↔
      (s ∈ t.loneNames ∧ s ≠ "Self" ∧ n.varOf? s = none) ∨
        ("Self" ∈ t.bareNames ∧ ∃ self, n.selfTy = some self ∧ s ∈ self.loneNames) := by
  rw [lower, Tree.mem_loneNames_resolve]
  constructor
  · intro hcases
    rcases hcases with ⟨q, hq, hbare, hlone⟩ | ⟨m, hm, hs⟩
    · exact .inl ⟨Tree.mem_loneNames.2 ⟨q, hq, hlone⟩, varOf?_eq_none_of_args h hq hbare hlone⟩
    · by_cases hself : m = "Self"
      · subst hself
        rw [meaning?_self] at hs
        cases hty : n.selfTy with
        | none => exact absurd hm (self_not_mem_bareNames h hty)
        | some self => exact .inr ⟨hm, self, rfl, by simpa [hty] using hs⟩
      · rw [meaning?_of_ne hself] at hs
        cases hvar : n.varOf? m with
        | some v => simp [hvar, Tree.loneNames] at hs
        | none =>
          have hsm : s = m := by simpa [hvar, Tree.loneNames_name] using hs
          subst hsm
          have hlone : (Tree.name s : TypeExpr).loneName? = some s := rfl
          exact .inl ⟨Tree.mem_loneNames.2 ⟨_, Tree.mem_bareNames.1 hm, hlone⟩, hself, hvar⟩
  · intro hcases
    rcases hcases with ⟨hs, hself, hvar⟩ | ⟨hm, self, hty, hs⟩
    · obtain ⟨q, hq, hlone⟩ := Tree.mem_loneNames.1 hs
      cases hbare : q.name? with
      | none => exact .inl ⟨q, hq, hbare, hlone⟩
      | some m =>
        have hms : m = s :=
          Option.some.inj ((Tree.loneName?_eq_some_of_name? hbare).symm.trans hlone)
        subst hms
        rw [Tree.eq_name_of_name? hbare] at hq
        refine .inr ⟨m, Tree.mem_bareNames.2 hq, ?_⟩
        rw [meaning?_of_ne hself, hvar]
        simp [Tree.loneNames_name]
    · refine .inr ⟨"Self", hm, ?_⟩
      rw [meaning?_self, hty]
      simpa using hs

end Names

end Buildwright
