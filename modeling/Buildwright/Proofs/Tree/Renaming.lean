import Buildwright.Proofs.Tree.Substitution

/-!
# Laws of substitution and renaming

A substitution replaces some variables of a type and keeps the others. Here stand the variables of
the result, two substitutions as one, and when two substitutions do the same. A renaming can be
undone if and only if it tells the variables of the type apart.
-/

namespace Buildwright

namespace Tree

theorem vars_substitute (f : ν → Option (Tree ν)) (t : Tree ν) :
    (t.substitute f).vars = t.vars.flatMap fun v => (f v).elim [v] vars := by
  rw [substitute, vars_bind]
  refine List.flatMap_congr fun v _ => ?_
  cases f v with
  | some u => rfl
  | none => exact vars_var v

/-- First `f`, then `g`: what `f` puts in for a variable is substituted as well, and the variables
that `f` keeps are left to `g`. -/
def andThen (f g : ν → Option (Tree ν)) (v : ν) : Option (Tree ν) :=
  match f v with
  | some u => some (u.substitute g)
  | none => g v

theorem substitute_substitute (f g : ν → Option (Tree ν)) (t : Tree ν) :
    (t.substitute f).substitute g = t.substitute (andThen f g) := by
  rw [substitute, substitute, bind_bind]
  refine bind_congr fun v _ => ?_
  unfold andThen
  cases f v with
  | some u => rfl
  | none => exact bind_var _ v

/-- Substitution looks at what stands for the variables of the type, and at nothing else. -/
theorem substitute_eq_iff {f g : ν → Option (Tree ν)} {t : Tree ν} :
    t.substitute f = t.substitute g ↔
      ∀ v ∈ t.vars, (f v).getD (.var v) = (g v).getD (.var v) :=
  bind_eq_bind_iff

end Tree

namespace Renames

/-- A variable under its new name, at its own level. -/
def image (r : Renames) (v : VarRef) : VarRef := ⟨v.scope, r.nameOf v⟩

/-- The way back from the new names of some variables to those that they had. -/
def inverse (r : Renames) (vars : List VarRef) : Renames :=
  vars.map fun v => (r.image v, v.name)

/-- Of several entries for a variable none counts more than the others if they agree. -/
theorem nameOf_of_mem {r : Renames} {v : VarRef} {n : String} (hmem : (v, n) ∈ r)
    (hagree : ∀ m, (v, m) ∈ r → m = n) : r.nameOf v = n := by
  unfold nameOf
  cases hfound : r.reverse.lookup v with
  | none =>
    have hne := List.lookup_eq_none_iff.1 hfound (v, n) (List.mem_reverse.2 hmem)
    simp at hne
  | some m =>
    obtain ⟨before, after, hsplit, _⟩ := List.lookup_eq_some_iff.1 hfound
    have hm : (v, m) ∈ r.reverse := by simp [hsplit]
    exact hagree m (List.mem_reverse.1 hm)

theorem nameOf_inverse {r : Renames} {vars : List VarRef}
    (hinj : ∀ v ∈ vars, ∀ w ∈ vars, r.image v = r.image w → v = w) {v : VarRef} (hv : v ∈ vars) :
    (r.inverse vars).nameOf (r.image v) = v.name := by
  refine nameOf_of_mem (List.mem_map_of_mem hv) fun m hm => ?_
  obtain ⟨w, hw, hentry⟩ := List.mem_map.1 hm
  obtain ⟨himage, rfl⟩ := Prod.mk.inj hentry
  rw [hinj w hw v hv himage]

end Renames

namespace Ty

/-- Renaming is the substitution of renamed variables for those that have an entry. -/
theorem rename_eq_substitute (r : Renames) (t : Ty) :
    t.rename r.nameOf =
      t.substitute fun v => (r.reverse.lookup v).map fun n => .var ⟨v.scope, n⟩ := by
  refine Tree.bind_congr fun v _ => ?_
  beta_reduce
  rw [Renames.nameOf]
  cases r.reverse.lookup v <;> rfl

/-- One renaming undoes another on the types whose variables it gives their names back, and on no
others. -/
theorem rename_rename_eq_self_iff {r back : Renames} {t : Ty} :
    (t.rename r.nameOf).rename back.nameOf = t ↔
      ∀ v ∈ t.vars, back.nameOf (r.image v) = v.name := by
  rw [rename_rename]
  exact rename_eq_self_iff

theorem rename_inverse_iff {r : Renames} {t : Ty} :
    (t.rename r.nameOf).rename (r.inverse t.vars).nameOf = t ↔
      ∀ v ∈ t.vars, ∀ w ∈ t.vars, r.image v = r.image w → v = w := by
  rw [rename_rename_eq_self_iff]
  constructor
  · intro hback v hv w hw himage
    have hname : v.name = w.name := by rw [← hback v hv, himage, hback w hw]
    exact congrArg₂ VarRef.mk (VarRef.mk.inj himage).1 hname
  · exact fun hinj v hv => Renames.nameOf_inverse hinj hv

/-- The laws of substitution. The variables of the result are those of what stands for the variables
of the type, in order. One substitution after another is one substitution, and what it does depends
on the variables of the type alone. Renaming is a substitution, and the way back from the new names
undoes it if and only if it gives no two variables of the type one name at one level. -/
theorem substitution_laws (t : Ty) (f : VarRef → Option Ty) :
    (t.substitute f).vars = (t.vars.flatMap fun v => (f v).elim [v] Tree.vars) ∧
      (∀ g : VarRef → Option Ty, (t.substitute f).substitute g = t.substitute (Tree.andThen f g)) ∧
      (∀ g : VarRef → Option Ty, t.substitute f = t.substitute g ↔
        ∀ v ∈ t.vars, (f v).getD (.var v) = (g v).getD (.var v)) ∧
      ∀ r : Renames,
        t.rename r.nameOf =
            (t.substitute fun v => (r.reverse.lookup v).map fun n => .var ⟨v.scope, n⟩) ∧
          ((t.rename r.nameOf).rename (r.inverse t.vars).nameOf = t ↔
            ∀ v ∈ t.vars, ∀ w ∈ t.vars, r.image v = r.image w → v = w) :=
  ⟨Tree.vars_substitute f t, fun g => Tree.substitute_substitute f g t,
    fun _ => Tree.substitute_eq_iff, fun r => ⟨rename_eq_substitute r t, rename_inverse_iff⟩⟩

end Ty

end Buildwright
