import Mathlib.Data.String.Basic
import Buildwright.Text.Occurrence

/-!
# Where a pattern stands

The occurrences of a pattern are places where it stands in the text, from left to right and without
overlap. No other place is left out but those that overlap an occurrence before them, so the first
occurrence is the leftmost place.
-/

namespace Buildwright.Text

open String (utf8Len)

/-- The pattern stands in the text, with `start` bytes before it. -/
def StandsAt (pattern source : String) (start : Nat) : Prop :=
  ∃ before after, source = before ++ pattern ++ after ∧ before.utf8ByteSize = start

/-! ## Lists of characters -/

section Chars

variable {pattern : List Char}

theorem exists_of_mem_occurrencesFrom {offset skip p : Nat} {cs : List Char}
    (h : p ∈ occurrencesFrom pattern offset skip cs) :
    ∃ before after, cs = before ++ pattern ++ after ∧ p = offset + utf8Len before ∧
      skip ≤ before.length := by
  fun_induction occurrencesFrom pattern offset skip cs with
  | case1 => cases h
  | case2 offset skip c rest ih =>
    obtain ⟨before, after, rfl, rfl, hskip⟩ := ih h
    refine ⟨c :: before, after, rfl, ?_, Nat.succ_le_succ hskip⟩
    rw [String.utf8Len_cons]
    omega
  | case3 offset c rest hprefix ih =>
    rcases List.mem_cons.1 h with rfl | h
    · obtain ⟨after, hafter⟩ := List.isPrefixOf_iff_prefix.1 hprefix
      exact ⟨[], after, hafter.symm, rfl, Nat.le_refl 0⟩
    · obtain ⟨before, after, rfl, rfl, -⟩ := ih h
      refine ⟨c :: before, after, rfl, ?_, Nat.zero_le _⟩
      rw [String.utf8Len_cons]
      omega
  | case4 offset c rest hprefix ih =>
    obtain ⟨before, after, rfl, rfl, -⟩ := ih h
    refine ⟨c :: before, after, rfl, ?_, Nat.zero_le _⟩
    rw [String.utf8Len_cons]
    omega

theorem pairwise_occurrencesFrom (pattern : List Char) (offset skip : Nat) (cs : List Char) :
    (occurrencesFrom pattern offset skip cs).Pairwise fun p q => p + utf8Len pattern ≤ q := by
  fun_induction occurrencesFrom pattern offset skip cs with
  | case1 => exact .nil
  | case2 offset skip c rest ih => exact ih
  | case3 offset c rest hprefix ih =>
    refine List.pairwise_cons.2 ⟨fun q hq => ?_, ih⟩
    obtain ⟨before, after, hrest, rfl, hskip⟩ := exists_of_mem_occurrencesFrom hq
    have hcovers : pattern <+: c :: before := by
      refine List.prefix_of_prefix_length_le (List.isPrefixOf_iff_prefix.1 hprefix) ?_ ?_
      · exact ⟨pattern ++ after, by rw [hrest, List.cons_append, List.append_assoc]⟩
      · rw [List.length_cons]
        omega
    have hsize := String.utf8Len_le_of_prefix hcovers
    rw [String.utf8Len_cons] at hsize
    omega
  | case4 offset c rest hprefix ih => exact ih

/-- Wherever the pattern stands there is an occurrence, or one that began earlier is not yet over. -/
theorem exists_occurrence_around (hpattern : pattern ≠ []) (offset : Nat) {skip : Nat}
    {cs before after : List Char} (hcs : cs = before ++ pattern ++ after)
    (hskip : skip ≤ before.length) :
    ∃ p ∈ occurrencesFrom pattern offset skip cs,
      p ≤ offset + utf8Len before ∧ offset + utf8Len before < p + utf8Len pattern := by
  have hsize : 0 < utf8Len pattern :=
    Nat.pos_of_ne_zero fun h => hpattern (String.utf8Len_eq_zero.1 h)
  fun_induction occurrencesFrom pattern offset skip cs generalizing before with
  | case1 => simp [hpattern] at hcs
  | case2 offset skip c rest ih =>
    cases before with
    | nil => cases hskip
    | cons d before =>
      obtain ⟨rfl, hrest⟩ := List.cons_eq_cons.1 hcs
      obtain ⟨p, hp, hle, hlt⟩ := ih hrest (Nat.le_of_succ_le_succ hskip)
      refine ⟨p, hp, ?_, ?_⟩ <;> rw [String.utf8Len_cons] <;> omega
  | case3 offset c rest hprefix ih =>
    by_cases hbefore : before.length < pattern.length
    · refine ⟨offset, List.mem_cons_self, Nat.le_add_right _ _, Nat.add_lt_add_left ?_ _⟩
      have hbegins : before <+: c :: rest := ⟨pattern ++ after, by rw [hcs, List.append_assoc]⟩
      obtain ⟨tail, rfl⟩ : before <+: pattern :=
        List.prefix_of_prefix_length_le hbegins (List.isPrefixOf_iff_prefix.1 hprefix) hbefore.le
      have htail : tail ≠ [] := by
        rintro rfl
        simp at hbefore
      have htailSize : 0 < utf8Len tail :=
        Nat.pos_of_ne_zero fun h => htail (String.utf8Len_eq_zero.1 h)
      rw [String.utf8Len_append]
      omega
    · cases before with
      | nil => exact absurd (List.length_pos_iff.2 hpattern) hbefore
      | cons d before =>
        obtain ⟨rfl, hrest⟩ := List.cons_eq_cons.1 hcs
        rw [List.length_cons] at hbefore
        obtain ⟨p, hp, hle, hlt⟩ := ih hrest (by omega)
        refine ⟨p, List.mem_cons_of_mem _ hp, ?_, ?_⟩ <;> rw [String.utf8Len_cons] <;> omega
  | case4 offset c rest hprefix ih =>
    cases before with
    | nil => exact absurd (List.isPrefixOf_iff_prefix.2 ⟨after, hcs.symm⟩) hprefix
    | cons d before =>
      obtain ⟨rfl, hrest⟩ := List.cons_eq_cons.1 hcs
      obtain ⟨p, hp, hle, hlt⟩ := ih hrest (Nat.zero_le _)
      refine ⟨p, hp, ?_, ?_⟩ <;> rw [String.utf8Len_cons] <;> omega

/-- Two places of a pattern are one if they overlap, unless its first character comes again in it. -/
theorem utf8Len_eq_of_overlap {c : Char} {rest before after before' after' : List Char}
    (hpattern : pattern = c :: rest) (hc : c ∉ rest)
    (hsame : before ++ pattern ++ after = before' ++ pattern ++ after')
    (hle : utf8Len before ≤ utf8Len before')
    (hlt : utf8Len before' < utf8Len before + utf8Len pattern) :
    utf8Len before = utf8Len before' := by
  rw [List.append_assoc, List.append_assoc, List.append_eq_append_iff] at hsame
  obtain ⟨shift, rfl, hshift⟩ | ⟨shift, rfl, -⟩ := hsame
  · rw [String.utf8Len_append] at hlt
    cases shift with
    | nil => rw [List.append_nil]
    | cons d ds =>
      -- the second place begins inside the first, so the rest of the pattern holds `c`
      exfalso
      obtain ⟨tail, hd, -⟩ | ⟨tail, htail, hafter⟩ := List.append_eq_append_iff.1 hshift
      · rw [hd, String.utf8Len_append] at hlt
        omega
      · cases tail with
        | nil =>
          rw [htail, List.append_nil] at hlt
          omega
        | cons t ts =>
          rw [hpattern] at htail hafter
          obtain ⟨-, rfl⟩ := List.cons_eq_cons.1 htail
          obtain ⟨rfl, -⟩ := List.cons_eq_cons.1 hafter
          exact hc (List.mem_append_right _ List.mem_cons_self)
  · rw [String.utf8Len_append] at hle ⊢
    omega

end Chars

/-! ## Texts -/

variable {pattern source : String}

theorem standsAt_iff {start : Nat} :
    StandsAt pattern source start ↔
      ∃ before after, source.toList = before ++ pattern.toList ++ after ∧
        utf8Len before = start := by
  constructor
  · rintro ⟨before, after, rfl, rfl⟩
    exact ⟨before.toList, after.toList, by simp, String.utf8Len_toList before⟩
  · rintro ⟨before, after, hsource, rfl⟩
    refine ⟨String.ofList before, String.ofList after, ?_, String.utf8ByteSize_ofList before⟩
    rw [← String.toList_inj, hsource]
    simp

theorem standsAt_of_mem_occurrences {p : Nat} (h : p ∈ occurrences pattern source) :
    StandsAt pattern source p := by
  obtain ⟨before, after, hsource, hp, -⟩ := exists_of_mem_occurrencesFrom h
  exact standsAt_iff.2 ⟨before, after, hsource, by rw [hp, Nat.zero_add]⟩

theorem pairwise_occurrences (pattern source : String) :
    (occurrences pattern source).Pairwise fun p q => p + pattern.utf8ByteSize ≤ q := by
  have hpairwise := pairwise_occurrencesFrom pattern.toList 0 0 source.toList
  rwa [String.utf8Len_toList] at hpairwise

theorem exists_occurrence_of_standsAt (hpattern : pattern ≠ "") {start : Nat}
    (h : StandsAt pattern source start) :
    ∃ p ∈ occurrences pattern source, p ≤ start ∧ start < p + pattern.utf8ByteSize := by
  have hchars : pattern.toList ≠ [] := by simpa using hpattern
  obtain ⟨before, after, hsource, rfl⟩ := standsAt_iff.1 h
  obtain ⟨p, hp, hle, hlt⟩ :=
    exists_occurrence_around hchars 0 hsource (Nat.zero_le _)
  rw [Nat.zero_add] at hle hlt
  rw [String.utf8Len_toList] at hlt
  exact ⟨p, hp, hle, hlt⟩

theorem pairwise_lt_occurrences (hpattern : pattern ≠ "") :
    (occurrences pattern source).Pairwise (· < ·) := by
  have hsize : 0 < pattern.utf8ByteSize :=
    Nat.pos_of_ne_zero fun h => hpattern (String.utf8ByteSize_eq_zero_iff.1 h)
  exact (pairwise_occurrences pattern source).imp fun h => by omega

/-- A pattern whose first character does not come again in it cannot overlap itself, so it occurs
wherever it stands. -/
theorem mem_occurrences_iff {c : Char} {rest : List Char} (hpattern : pattern.toList = c :: rest)
    (hc : c ∉ rest) {p : Nat} : p ∈ occurrences pattern source ↔ StandsAt pattern source p := by
  refine ⟨standsAt_of_mem_occurrences, fun h => ?_⟩
  have hne : pattern ≠ "" := by
    rintro rfl
    cases hpattern
  obtain ⟨q, hq, hle, hlt⟩ := exists_occurrence_of_standsAt hne h
  obtain ⟨before, after, hsource, rfl⟩ := standsAt_iff.1 h
  obtain ⟨before', after', hsource', rfl⟩ := standsAt_iff.1 (standsAt_of_mem_occurrences hq)
  rw [← String.utf8Len_toList] at hlt
  rwa [← utf8Len_eq_of_overlap hpattern hc (hsource'.symm.trans hsource) hle hlt]

theorem head?_occurrences_eq_some (hpattern : pattern ≠ "") {p : Nat} :
    (occurrences pattern source).head? = some p ↔
      StandsAt pattern source p ∧ ∀ q, StandsAt pattern source q → p ≤ q := by
  have hpairwise := pairwise_occurrences pattern source
  constructor
  · intro h
    obtain ⟨rest, hoccurrences⟩ := List.head?_eq_some_iff.1 h
    refine ⟨standsAt_of_mem_occurrences (List.mem_of_mem_head? h), fun q hq => ?_⟩
    obtain ⟨r, hr, hle, -⟩ := exists_occurrence_of_standsAt hpattern hq
    rw [hoccurrences] at hr hpairwise
    rcases List.mem_cons.1 hr with rfl | hr
    · exact hle
    · have := (List.pairwise_cons.1 hpairwise).1 r hr
      omega
  · rintro ⟨hp, hleast⟩
    obtain ⟨r, hr, hle, -⟩ := exists_occurrence_of_standsAt hpattern hp
    obtain rfl : r = p :=
      Nat.le_antisymm hle (hleast r (standsAt_of_mem_occurrences hr))
    cases hoccurrences : occurrences pattern source with
    | nil =>
      rw [hoccurrences] at hr
      cases hr
    | cons s rest =>
      have hs : s ∈ occurrences pattern source := by
        rw [hoccurrences]
        exact List.mem_cons_self
      have hrs := hleast s (standsAt_of_mem_occurrences hs)
      rw [hoccurrences] at hr hpairwise
      rcases List.mem_cons.1 hr with rfl | hr
      · rfl
      · have hsize : 0 < pattern.utf8ByteSize :=
          Nat.pos_of_ne_zero fun h => hpattern (String.utf8ByteSize_eq_zero_iff.1 h)
        have := (List.pairwise_cons.1 hpairwise).1 r hr
        omega

theorem head?_occurrences_eq_none (hpattern : pattern ≠ "") :
    (occurrences pattern source).head? = none ↔ ∀ p, ¬ StandsAt pattern source p := by
  rw [List.head?_eq_none_iff]
  constructor
  · intro h p hp
    obtain ⟨q, hq, -⟩ := exists_occurrence_of_standsAt hpattern hp
    rw [h] at hq
    cases hq
  · intro h
    rw [List.eq_nil_iff_forall_not_mem]
    exact fun p hp => h p (standsAt_of_mem_occurrences hp)

end Buildwright.Text
