import Buildwright.Text.Fresh
import Buildwright.Text.Join
import Mathlib.Data.List.Nodup
import Mathlib.Data.List.Perm.Subperm

/-!
# The free name is free

A search through as many candidates as there are taken names can only end at a taken one if more
than these are taken. Candidates that differ from each other rule this out.
-/

namespace Buildwright.Text

theorem mem_taken_of_firstFreeWithin_mem {taken : List String} {candidate : Nat → String}
    {n i : Nat} (h : firstFreeWithin taken candidate n i ∈ taken) :
    ∀ j ≤ n, candidate (i + j) ∈ taken := by
  induction n generalizing i with
  | zero =>
    intro j hj
    have hj0 : j = 0 := by omega
    rw [hj0, Nat.add_zero]
    exact h
  | succ n ih =>
    intro j hj
    rw [firstFreeWithin] at h
    split at h
    · next hi =>
      cases j with
      | zero => simpa using hi
      | succ j =>
        have hnext := ih h j (by omega)
        rwa [Nat.add_right_comm, Nat.add_assoc] at hnext
    · next hi => exact absurd h (by simpa using hi)

theorem firstFree_not_mem {taken : List String} {candidate : Nat → String}
    (hinj : Function.Injective candidate) (i : Nat) :
    firstFree taken candidate i ∉ taken := by
  intro h
  have hall := mem_taken_of_firstFreeWithin_mem h
  let met := (List.range (taken.length + 1)).map fun j => candidate (i + j)
  have hnodup : met.Nodup := by
    refine List.nodup_range.map fun j k hjk => ?_
    exact Nat.add_left_cancel (hinj hjk)
  have hsub : met ⊆ taken := by
    intro name hname
    obtain ⟨j, hj, rfl⟩ := List.mem_map.1 hname
    exact hall j (Nat.lt_succ_iff.1 (List.mem_range.1 hj))
  have hlen : met.length ≤ taken.length := (List.subperm_of_subset hnodup hsub).length_le
  have hmet : met.length = taken.length + 1 := by simp [met]
  omega

theorem firstFreeWithin_least (taken : List String) (candidate : Nat → String) (n i : Nat) :
    ∃ k ≤ n, firstFreeWithin taken candidate n i = candidate (i + k) ∧
      ∀ j < k, candidate (i + j) ∈ taken := by
  induction n generalizing i with
  | zero => exact ⟨0, Nat.le_refl 0, rfl, fun j hj => absurd hj (Nat.not_lt_zero j)⟩
  | succ n ih =>
    rw [firstFreeWithin]
    split
    · next hi =>
      obtain ⟨k, hk, heq, hleast⟩ := ih (i + 1)
      refine ⟨k + 1, by omega, ?_, fun j hj => ?_⟩
      · rw [heq, Nat.add_right_comm, Nat.add_assoc]
      · cases j with
        | zero => simpa using hi
        | succ j =>
          have hj' := hleast j (by omega)
          rwa [Nat.add_right_comm, Nat.add_assoc] at hj'
    · exact ⟨0, Nat.zero_le _, rfl, fun j hj => absurd hj (Nat.not_lt_zero j)⟩

/-- Among candidates that differ from each other the search ends at the first free one. -/
theorem firstFree_least (taken : List String) {candidate : Nat → String}
    (hinj : Function.Injective candidate) (i : Nat) :
    ∃ k ≤ taken.length, firstFree taken candidate i = candidate (i + k) ∧
      candidate (i + k) ∉ taken ∧ ∀ j < k, candidate (i + j) ∈ taken := by
  obtain ⟨k, hk, heq, hleast⟩ := firstFreeWithin_least taken candidate taken.length i
  have hfree : firstFree taken candidate i ∉ taken := firstFree_not_mem hinj i
  rw [firstFree, heq] at hfree
  exact ⟨k, hk, heq, hfree, hleast⟩

/-! ## Numbered names -/

theorem natToString_injective : Function.Injective (fun i : Nat => toString i) := by
  intro i j hij
  have hdigits : Nat.toDigits 10 i = Nat.toDigits 10 j := String.ofList_injective hij
  have hvalue := congrArg (fun ds => Nat.ofDigitChars 10 ds 0) hdigits
  simpa only [Nat.ofDigitChars_ten_toDigits] using hvalue

theorem numbered_injective (name : String) :
    Function.Injective fun i : Nat => name ++ toString i := by
  intro i j hij
  exact natToString_injective ((String.append_right_inj name).1 hij)

/-! ## Names with underscores behind them -/

theorem toList_underscores (n : Nat) : (repeated n "_").toList = List.replicate n '_' := by
  unfold repeated
  induction n with
  | zero => rfl
  | succ n ih =>
    rw [List.replicate_succ, List.foldr_cons, String.toList_append, ih, List.replicate_succ]
    rfl

theorem underscored_injective (name : String) :
    Function.Injective fun n : Nat => name ++ repeated n "_" := by
  intro i j hij
  have hchars := congrArg String.toList ((String.append_right_inj name).1 hij)
  rw [toList_underscores, toList_underscores] at hchars
  simpa using congrArg List.length hchars

end Buildwright.Text
