import Buildwright.Callable.Resolution
import Buildwright.Proofs.Text.Fresh

/-!
# New names for owner variables

The owner's variables get their names one after the other. Each name differs from all that are taken
by then, and a variable whose own name is free keeps it.
-/

namespace Buildwright

namespace Renames

theorem lookup_reverse_of_not_mem {r : Renames} {v : VarRef} (h : v ∉ r.map Prod.fst) :
    r.reverse.lookup v = none := by
  rw [List.lookup_eq_none_iff]
  rintro ⟨w, n⟩ hmem
  rw [bne_iff_ne]
  rintro rfl
  exact h (List.mem_map.2 ⟨_, List.mem_reverse.1 hmem, rfl⟩)

theorem nameOf_of_not_mem {r : Renames} {v : VarRef} (h : v ∉ r.map Prod.fst) :
    r.nameOf v = v.name := by
  rw [nameOf, lookup_reverse_of_not_mem h]
  rfl

theorem nameOf_cons_of_ne {v w : VarRef} (h : w ≠ v) (n : String) (r : Renames) :
    nameOf ((v, n) :: r) w = r.nameOf w := by
  have hlast : List.lookup w [(v, n)] = none := by
    rw [List.lookup_cons, beq_eq_false_iff_ne.2 h]
    rfl
  rw [nameOf, List.reverse_cons, List.lookup_append, hlast, Option.or_none, nameOf]

theorem nameOf_cons_self {v : VarRef} {r : Renames} (h : v ∉ r.map Prod.fst) (n : String) :
    nameOf ((v, n) :: r) v = n := by
  rw [nameOf, List.reverse_cons, List.lookup_append, lookup_reverse_of_not_mem h,
    List.lookup_cons_self]
  rfl

end Renames

namespace Callable

theorem freshName_not_mem (taken : List String) (name : String) : freshName taken name ∉ taken :=
  Text.firstFree_not_mem (Text.numbered_injective name) 1

/-- The `i`-th numbered form of a name is free, and the forms before it are not. -/
structure FirstFree (taken : List String) (name : String) (i : Nat) : Prop where
  pos : 1 ≤ i
  free : name ++ toString i ∉ taken
  least : ∀ j, 1 ≤ j → j < i → name ++ toString j ∈ taken

theorem FirstFree.congr {taken taken' : List String} {name : String} {i : Nat}
    (h : FirstFree taken name i) (hmem : ∀ s, s ∈ taken ↔ s ∈ taken') :
    FirstFree taken' name i where
  pos := h.pos
  free := mt (hmem _).2 h.free
  least j hpos hj := (hmem _).1 (h.least j hpos hj)

/-- The search for a free name ends, after no more steps than there are names in its way. -/
theorem exists_freshName_eq (taken : List String) (name : String) :
    ∃ i ≤ taken.length + 1, FirstFree taken name i ∧ freshName taken name = name ++ toString i := by
  obtain ⟨k, hk, heq, hfree, hleast⟩ :=
    Text.firstFree_least taken (Text.numbered_injective name) 1
  refine ⟨1 + k, by omega, ⟨by omega, hfree, fun j hpos hj => ?_⟩, heq⟩
  have htaken := hleast (j - 1) (by omega)
  rwa [Nat.add_sub_cancel' hpos] at htaken

theorem ownerRenames_fst_subset (all taken : List String) (vars : List TypeVar) :
    ∀ v ∈ (ownerRenames all taken vars).map Prod.fst, v ∈ vars.map TypeVar.ref := by
  induction vars generalizing taken with
  | nil => simp [ownerRenames]
  | cons v rest ih =>
    intro w hw
    rw [ownerRenames] at hw
    rw [List.map_cons, List.mem_cons]
    split at hw
    · rcases List.mem_cons.1 hw with rfl | hw
      · exact .inl rfl
      · exact .inr (ih _ w hw)
    · exact .inr (ih _ w hw)

theorem nameOf_ownerRenames_of_not_mem {all taken : List String} {vars : List TypeVar} {v : VarRef}
    (h : v ∉ vars.map TypeVar.ref) : (ownerRenames all taken vars).nameOf v = v.name :=
  Renames.nameOf_of_not_mem fun hv => h (ownerRenames_fst_subset all taken vars v hv)

/-- One step: the first variable gets a name that is not taken, its own one if it can. -/
theorem ownerRenames_cons (all taken : List String) {v : TypeVar} {rest : List TypeVar}
    (hv : v.ref ∉ rest.map TypeVar.ref) :
    ∃ n, n ∉ taken ∧ (v.name ∉ taken → n = v.name) ∧ (v.name ∈ taken → n ∉ all) ∧
      (ownerRenames all taken (v :: rest)).nameOf v.ref = n ∧
      ∀ w, w ≠ v.ref → (ownerRenames all taken (v :: rest)).nameOf w =
        (ownerRenames all (n :: taken) rest).nameOf w := by
  rw [ownerRenames]
  split
  · next htaken =>
    have hfresh := freshName_not_mem (taken ++ all) v.name
    rw [List.mem_append, not_or] at hfresh
    have hkey : v.ref ∉ (ownerRenames all (freshName (taken ++ all) v.name :: taken) rest).map
        Prod.fst := fun h => hv (ownerRenames_fst_subset _ _ _ _ h)
    refine ⟨_, hfresh.1, fun h => ?_, fun _ => hfresh.2, Renames.nameOf_cons_self hkey _, ?_⟩
    · exact absurd (by simpa using htaken) h
    · exact fun w hw => Renames.nameOf_cons_of_ne hw _ _
  · next htaken =>
    refine ⟨v.name, by simpa using htaken, fun _ => rfl, fun h => ?_, ?_, fun _ _ => rfl⟩
    · exact absurd h (by simpa using htaken)
    · exact nameOf_ownerRenames_of_not_mem hv

theorem ref_not_mem_of_nodup {v : TypeVar} {rest : List TypeVar}
    (h : ((v :: rest).map (·.name)).Nodup) : v.ref ∉ rest.map TypeVar.ref := by
  intro hmem
  obtain ⟨w, hw, href⟩ := List.mem_map.1 hmem
  rw [List.map_cons, List.nodup_cons] at h
  exact h.1 (List.mem_map.2 ⟨w, hw, congrArg VarRef.name href⟩)

/-- All names assigned are different, and none was taken before. Names that are free are kept. -/
theorem ownerRenames_spec {all : List String} (taken : List String) {vars : List TypeVar}
    (hall : ∀ v ∈ vars, v.name ∈ all) (hnodup : (vars.map (·.name)).Nodup) :
    (vars.map fun v => (ownerRenames all taken vars).nameOf v.ref).Nodup ∧
      ∀ v ∈ vars, (ownerRenames all taken vars).nameOf v.ref ∉ taken ∧
        (v.name ∉ taken → (ownerRenames all taken vars).nameOf v.ref = v.name) := by
  induction vars generalizing taken with
  | nil => simp
  | cons v rest ih =>
    obtain ⟨hname, hrest⟩ := List.nodup_cons.1 hnodup
    have hne : ∀ w ∈ rest, w.name ≠ v.name := fun w hw h =>
      hname (List.mem_map.2 ⟨w, hw, h⟩)
    have href : ∀ w ∈ rest, w.ref ≠ v.ref := fun w hw h => hne w hw (congrArg VarRef.name h)
    have hv := ref_not_mem_of_nodup hnodup
    obtain ⟨n, hn, hkeep, hnew, hself, hothers⟩ := ownerRenames_cons all taken hv
    obtain ⟨hdistinct, hspec⟩ := ih (n :: taken)
      (fun w hw => hall w (List.mem_cons_of_mem _ hw)) hrest
    have hmap : rest.map (fun w => (ownerRenames all taken (v :: rest)).nameOf w.ref) =
        rest.map fun w => (ownerRenames all (n :: taken) rest).nameOf w.ref :=
      List.map_congr_left fun w hw => hothers _ (href w hw)
    constructor
    · rw [List.map_cons, List.nodup_cons, hself, hmap]
      refine ⟨?_, hdistinct⟩
      intro h
      obtain ⟨w, hw, heq⟩ := List.mem_map.1 h
      have hw' := (hspec w hw).1
      rw [heq] at hw'
      exact hw' List.mem_cons_self
    · intro w hw
      rcases List.mem_cons.1 hw with rfl | hw
      · rw [hself]
        exact ⟨hn, hkeep⟩
      · rw [hothers _ (href w hw)]
        obtain ⟨hfree, hown⟩ := hspec w hw
        refine ⟨fun h => hfree (List.mem_cons_of_mem _ h), fun h => hown ?_⟩
        -- The name given to `v` is its own or that of no variable.
        rw [List.mem_cons, not_or]
        refine ⟨?_, h⟩
        by_cases htaken : v.name ∈ taken
        · rintro rfl
          exact hnew htaken (hall w (List.mem_cons_of_mem _ hw))
        · rw [hkeep htaken]
          exact hne w hw

/-- A variable whose name is taken from the start gets the name that is free once all variables
before it have theirs. -/
theorem nameOf_ownerRenames {all taken : List String} {before after : List TypeVar} {v : TypeVar}
    (hnodup : ((before ++ v :: after).map (·.name)).Nodup) (htaken : v.name ∈ taken) :
    (ownerRenames all taken (before ++ v :: after)).nameOf v.ref =
      freshName ((before.map fun u =>
        (ownerRenames all taken (before ++ v :: after)).nameOf u.ref).reverse ++ taken ++ all)
        v.name := by
  induction before generalizing taken with
  | nil =>
    have hkey : v.ref ∉ (ownerRenames all (freshName (taken ++ all) v.name :: taken) after).map
        Prod.fst := fun h => ref_not_mem_of_nodup hnodup (ownerRenames_fst_subset _ _ _ _ h)
    rw [List.nil_append, ownerRenames, if_pos (by simpa using htaken)]
    exact Renames.nameOf_cons_self hkey _
  | cons u before ih =>
    rw [List.cons_append] at hnodup ⊢
    have hu := ref_not_mem_of_nodup hnodup
    have hne : ∀ w ∈ before ++ v :: after, w.ref ≠ u.ref := fun w hw href =>
      hu (href ▸ List.mem_map_of_mem hw)
    obtain ⟨n, _, _, _, hself, hothers⟩ := ownerRenames_cons all taken hu
    have hmap : (before.map fun w =>
        (ownerRenames all taken (u :: (before ++ v :: after))).nameOf w.ref) =
        before.map fun w => (ownerRenames all (n :: taken) (before ++ v :: after)).nameOf w.ref :=
      List.map_congr_left fun w hw => hothers _ (hne w (List.mem_append_left _ hw))
    have hnext := ih (List.nodup_cons.1 hnodup).2 (List.mem_cons_of_mem n htaken)
    rw [hothers _ (hne v (by simp)), hnext, List.map_cons, hself, hmap]
    simp only [List.reverse_cons, List.append_assoc, List.cons_append, List.nil_append]

theorem ownerRenames_eq_nil {all taken : List String} {vars : List TypeVar}
    (hnodup : (vars.map (·.name)).Nodup) (hfree : ∀ v ∈ vars, v.name ∉ taken) :
    ownerRenames all taken vars = [] := by
  induction vars generalizing taken with
  | nil => rfl
  | cons v rest ih =>
    rw [List.map_cons, List.nodup_cons] at hnodup
    obtain ⟨hv, hrest⟩ := List.forall_mem_cons.1 hfree
    rw [ownerRenames, if_neg (by simpa using hv)]
    refine ih hnodup.2 fun w hw => ?_
    rw [List.mem_cons, not_or]
    exact ⟨fun heq => hnodup.1 (heq ▸ List.mem_map_of_mem hw), hrest w hw⟩

end Callable

end Buildwright
