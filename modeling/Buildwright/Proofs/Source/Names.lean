import Mathlib.Data.List.Nodup
import Buildwright.Builder.Synthesis
import Buildwright.Proofs.Text.Fresh
import Buildwright.Proofs.Text.Snake
import Buildwright.Source.BuilderCode

/-!
# How emitted names tell names apart

Names are emitted in snake case, raw if they are reserved. Writing a name raw keeps names apart;
snake case does not. A setter's name in snake case is read off its field's.
-/

namespace Buildwright

open Manifest (isName isNameChar isKeyword keywords)

namespace Source

/-! ## Raw names -/

theorem hash_not_mem_snake {s : String} (hs : isName s = true) : '#' ∉ (Text.snake s).toList :=
  fun hmem => absurd (Text.of_mem_snake hs hmem).1 (by decide)

theorem ne_raw_of_hash_not_mem {s t : String} (hs : '#' ∉ s.toList) : s ≠ "r#" ++ t := by
  rintro rfl
  exact hs (by simp)

theorem safeName_inj {s t : String} (hs : '#' ∉ s.toList) (ht : '#' ∉ t.toList) :
    safeName s = safeName t ↔ s = t := by
  refine ⟨fun h => ?_, congrArg safeName⟩
  unfold safeName at h
  split at h <;> split at h
  · exact (String.append_right_inj "r#").1 h
  · exact absurd h.symm (ne_raw_of_hash_not_mem ht)
  · exact absurd h (ne_raw_of_hash_not_mem hs)
  · exact h

/-- Fields of two names are the same if and only if the names are spelled alike. -/
theorem fieldName_eq_iff {s t : String} (hs : isName s = true) (ht : isName t = true) :
    fieldName s = fieldName t ↔ Text.SpelledAlike s t := by
  rw [fieldName, fieldName, safeName_inj (hash_not_mem_snake hs) (hash_not_mem_snake ht),
    Text.snake_eq_iff hs ht]

/-! ## Names that keep out of the way -/

theorem unusedName_not_mem (base : String) (taken : List String) :
    unusedName base taken ∉ taken :=
  Text.firstFree_not_mem (Text.underscored_injective base) 0

theorem exists_unusedName_eq (base : String) (taken : List String) :
    ∃ n, (unusedName base taken).toList = base.toList ++ List.replicate n '_' := by
  obtain ⟨n, _, hname, _⟩ := Text.firstFree_least taken (Text.underscored_injective base) 0
  exact ⟨n, by rw [unusedName, hname, Nat.zero_add, String.toList_append, Text.toList_underscores]⟩

/-! ## Setters -/

theorem capitalizeChars_of_isName {s : String} (hs : isName s = true) :
    ∃ c rest, s.toList = c :: rest ∧ Text.capitalizeChars s.toList = c.toUpper :: rest ∧
      ∀ x ∈ c.toUpper :: rest, isNameChar x = true := by
  obtain ⟨c, rest, hchars, _, hall⟩ := Text.exists_chars_of_isName hs
  obtain ⟨hc, hrest⟩ := List.forall_mem_cons.1 hall
  refine ⟨c, rest, hchars, ?_, List.forall_mem_cons.2 ⟨?_, hrest⟩⟩
  · rw [hchars, Text.capitalizeChars, Text.upper_of_ascii (Text.toNat_lt_of_isNameChar hc)]
    rfl
  · exact Text.forall_isNameChar (p := fun c => isNameChar c.toUpper = true) (by decide) hc

theorem toList_setterName (field : String) :
    (setterName field).toList = ['s', 'e', 't'] ++ Text.capitalizeChars field.toList := by
  simp [setterName, Text.capitalize]

theorem isName_setterName {s : String} (hs : isName s = true) : isName (setterName s) = true := by
  obtain ⟨c, rest, _, hcapital, hall⟩ := capitalizeChars_of_isName hs
  have hchars := toList_setterName s
  rw [hcapital] at hchars
  refine Text.isName_iff.2 ⟨?_, ?_, 's', 'e' :: 't' :: c.toUpper :: rest, hchars, by decide, ?_⟩
  · rw [Bool.eq_false_iff]
    intro hkeyword
    have hset : ∀ k ∈ keywords, k.toList.take 3 ≠ ['s', 'e', 't'] := by decide
    refine hset _ (List.contains_iff_mem.1 (by rwa [isKeyword] at hkeyword)) ?_
    rw [hchars]
    rfl
  · intro hlone
    rw [hlone] at hchars
    cases hchars
  · exact List.forall_mem_cons.2 ⟨by decide, List.forall_mem_cons.2 ⟨by decide, hall⟩⟩

/-- What follows `set` in the setter of a field: the field in snake case, after an underscore. -/
def setterStem (field : String) : String :=
  if field.toList.head? = some '_' then Text.snake field else "_" ++ Text.snake field

theorem snake_setterName {s : String} (hs : isName s = true) :
    Text.snake (setterName s) = "set" ++ setterStem s := by
  obtain ⟨c, rest, hchars, hstart, _, hsnake⟩ := Text.exists_snake_of_isName hs
  obtain ⟨d, rest', hchars', hcapital, _⟩ := capitalizeChars_of_isName hs
  obtain ⟨s', r, hset, _, _, hsetter⟩ := Text.exists_snake_of_isName (isName_setterName hs)
  rw [hchars, List.cons_eq_cons] at hchars'
  obtain ⟨rfl, rfl⟩ := hchars'
  rw [toList_setterName, hcapital] at hset
  obtain ⟨rfl, rfl⟩ := List.cons_eq_cons.1 hset
  have hfirst : Text.snakeWord c.toUpper = (if c = '_' then [] else ['_']) ++ [c.toLower] :=
    Text.forall_ascii (p := fun c => Manifest.isNameStart c = true →
      Text.snakeWord c.toUpper = (if c = '_' then [] else ['_']) ++ [c.toLower]) (by decide)
      (Text.toNat_lt_of_isNameStart hstart) hstart
  have hword : (c.toUpper :: rest).flatMap Text.snakeWord =
      (if c = '_' then [] else ['_']) ++ (Text.snake s).toList := by
    rw [List.flatMap_cons, hfirst, List.append_assoc, hsnake]
    rfl
  have hstem :
      (setterStem s).toList = (if c = '_' then [] else ['_']) ++ (Text.snake s).toList := by
    rw [setterStem, hchars, List.head?_cons]
    by_cases hc : c = '_' <;> simp [hc]
  rw [← String.toList_inj, hsetter, String.toList_append, hstem, ← hword]
  rfl

end Source

end Buildwright
