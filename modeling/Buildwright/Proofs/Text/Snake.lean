import Mathlib.Data.List.Basic
import Buildwright.Manifest.Identifier
import Buildwright.Proofs.Text.UpperCase

/-!
# Names in snake case

Snake case forgets how a name is spelled: a capital letter inside of it and the small letter after
an underscore come out the same. Main statement: two names have one snake case if and only if they
are spelled alike in this sense.
-/

namespace Buildwright.Text

open Manifest (isName isNameStart isNameChar isKeyword nameFault?)

/-! ## Characters of names -/

/-- A name starts with a letter or underscore, goes on with letters, digits and underscores, and is
neither the lone underscore nor a keyword. -/
theorem isName_iff {name : String} :
    isName name = true ↔ isKeyword name = false ∧ name ≠ "_" ∧
      ∃ c rest, name.toList = c :: rest ∧ isNameStart c = true ∧
        ∀ x ∈ rest, isNameChar x = true := by
  rw [isName, nameFault?]
  cases hkeyword : isKeyword name with
  | true => simp
  | false =>
    cases hchars : name.toList with
    | nil => simp
    | cons c rest =>
      by_cases hstart : isNameStart c = true
      · by_cases hlone : name = "_"
        · simp [hstart, hlone]
        · by_cases hrest : rest.all isNameChar = true
          · simpa [hstart, hlone, hrest] using List.all_eq_true.1 hrest
          · have hsome : ¬ ∀ x ∈ rest, isNameChar x = true := fun h =>
              hrest (List.all_eq_true.2 h)
            simp [hstart, hlone, hrest, hsome]
      · simp [hstart]

theorem isNameChar_of_isNameStart {c : Char} (h : isNameStart c = true) : isNameChar c = true := by
  rw [isNameStart, Bool.or_eq_true] at h
  rw [isNameChar, Char.isAlphanum, Bool.or_eq_true, Bool.or_eq_true]
  rcases h with h | h
  · exact .inl (.inl h)
  · exact .inr h

theorem exists_chars_of_isName {name : String} (h : isName name = true) :
    ∃ c rest, name.toList = c :: rest ∧ isNameStart c = true ∧
      ∀ x ∈ c :: rest, isNameChar x = true := by
  obtain ⟨_, _, c, rest, hchars, hstart, hrest⟩ := isName_iff.1 h
  exact ⟨c, rest, hchars, hstart,
    List.forall_mem_cons.2 ⟨isNameChar_of_isNameStart hstart, hrest⟩⟩

theorem toNat_lt_of_isNameChar {c : Char} (h : isNameChar c = true) : c.toNat < 128 := by
  rw [isNameChar, Bool.or_eq_true, beq_iff_eq] at h
  rcases h with h | rfl
  · exact toNat_lt_of_isAlphanum h
  · decide

theorem toNat_lt_of_isNameStart {c : Char} (h : isNameStart c = true) : c.toNat < 128 :=
  toNat_lt_of_isNameChar (isNameChar_of_isNameStart h)

/-- What holds of all ASCII characters that names have holds of the characters of names. -/
theorem forall_isNameChar {p : Char → Prop}
    (h : ∀ n < 128, isNameChar (Char.ofNat n) = true → p (Char.ofNat n)) {c : Char}
    (hc : isNameChar c = true) : p c :=
  forall_ascii (p := fun c => isNameChar c = true → p c) h (toNat_lt_of_isNameChar hc) hc

theorem isIdentContinue_of_isNameChar {c : Char} (h : isNameChar c = true) :
    isIdentContinue c = true :=
  forall_isNameChar (p := fun c => isIdentContinue c = true) (by decide) h

theorem lower_of_isNameChar {c : Char} (h : isNameChar c = true) : lower c = [c.toLower] :=
  if_pos (toNat_lt_of_isNameChar h)

/-! ## Snake case -/

def snakeWord (c : Char) : List Char := if c.isUpper then ['_', c.toLower] else [c]

theorem snakeWord_of_isUpper {c : Char} (h : c.isUpper = true) : snakeWord c = ['_', c.toLower] :=
  if_pos h

theorem snakeWord_of_not_isUpper {c : Char} (h : c.isUpper = false) : snakeWord c = [c] :=
  if_neg (by simp [h])

theorem snakeInner_of_isNameChar {c : Char} (h : isNameChar c = true) :
    (snakeInner c).map hyphenToUnderscore = snakeWord c := by
  rw [snakeInner, lower_of_isNameChar h, isUpper, if_pos (toNat_lt_of_isNameChar h)]
  exact forall_isNameChar
    (p := fun c => (if c.isUpper = true then '_' :: [c.toLower] else [c.toLower]).map
      hyphenToUnderscore = snakeWord c) (by decide) h

theorem snakeChars_cons {c : Char} {rest : List Char} (h : ∀ x ∈ c :: rest, isNameChar x = true) :
    snakeChars (c :: rest) = c.toLower :: rest.flatMap snakeWord := by
  obtain ⟨hc, hrest⟩ := List.forall_mem_cons.1 h
  have hfirst : hyphenToUnderscore c.toLower = c.toLower :=
    forall_isNameChar (p := fun c => hyphenToUnderscore c.toLower = c.toLower) (by decide) hc
  rw [snakeChars, lower_of_isNameChar hc, List.singleton_append, List.map_cons, hfirst,
    List.map_flatMap]
  congr 1
  exact List.flatMap_congr fun x hx => snakeInner_of_isNameChar (hrest x hx)

/-! ## Spelling -/

/-- A capital letter in the one text stands for an underscore and the small letter in the other. -/
inductive Respelled : List Char → List Char → Prop where
  | nil : Respelled [] []
  | same (c : Char) {s t : List Char} : Respelled s t → Respelled (c :: s) (c :: t)
  | left {c : Char} {s t : List Char} (h : c.isUpper = true) :
      Respelled s t → Respelled (c :: s) ('_' :: c.toLower :: t)
  | right {c : Char} {s t : List Char} (h : c.isUpper = true) :
      Respelled s t → Respelled ('_' :: c.toLower :: s) (c :: t)

/-- Names that differ in how their first letter is written and in capitals for underscores. -/
def SpelledAlike (s t : String) : Prop :=
  ∃ c d rest rest', s.toList = c :: rest ∧ t.toList = d :: rest' ∧ c.toLower = d.toLower ∧
    Respelled rest rest'

theorem toLower_of_isUpper {c : Char} (h : c.isUpper = true) :
    c.toLower.isUpper = false ∧ c.toLower ≠ '_' :=
  forall_ascii (p := fun c => c.isUpper = true → c.toLower.isUpper = false ∧ c.toLower ≠ '_')
    (by decide) (toNat_lt_of_isUpper h) h

theorem toUpper_toLower {c : Char} (h : c.isUpper = true) : c.toLower.toUpper = c :=
  forall_ascii (p := fun c => c.isUpper = true → c.toLower.toUpper = c) (by decide)
    (toNat_lt_of_isUpper h) h

theorem Respelled.flatMap_eq {s t : List Char} (h : Respelled s t) :
    s.flatMap snakeWord = t.flatMap snakeWord := by
  have hunderscore : snakeWord '_' = ['_'] := rfl
  induction h with
  | nil => rfl
  | same c _ ih => rw [List.flatMap_cons, List.flatMap_cons, ih]
  | left hc _ ih =>
    simp only [List.flatMap_cons, snakeWord_of_isUpper hc, hunderscore,
      snakeWord_of_not_isUpper (toLower_of_isUpper hc).1, ih, List.cons_append, List.nil_append]
  | right hc _ ih =>
    simp only [List.flatMap_cons, snakeWord_of_isUpper hc, hunderscore,
      snakeWord_of_not_isUpper (toLower_of_isUpper hc).1, ih, List.cons_append, List.nil_append]

/-- What a capital letter comes out as can be read back as an underscore and a small letter only. -/
theorem eq_cons_of_capital {c d : Char} {s t : List Char} (hc : c.isUpper = true)
    (hd : d.isUpper = false)
    (h : (c :: s).flatMap snakeWord = (d :: t).flatMap snakeWord) :
    d = '_' ∧ ∃ t', t = c.toLower :: t' ∧ s.flatMap snakeWord = t'.flatMap snakeWord := by
  rw [List.flatMap_cons, List.flatMap_cons, snakeWord_of_isUpper hc,
    snakeWord_of_not_isUpper hd] at h
  obtain ⟨hunderscore, hrest⟩ := List.cons_eq_cons.1 h
  refine ⟨hunderscore.symm, ?_⟩
  cases t with
  | nil => cases hrest
  | cons e t' =>
    rw [List.flatMap_cons] at hrest
    cases he : e.isUpper with
    | true =>
      rw [snakeWord_of_isUpper he] at hrest
      exact absurd (List.cons_eq_cons.1 hrest).1 (toLower_of_isUpper hc).2
    | false =>
      rw [snakeWord_of_not_isUpper he] at hrest
      obtain ⟨hletter, hrest⟩ := List.cons_eq_cons.1 hrest
      exact ⟨t', by rw [hletter], hrest⟩

theorem respelled_of_flatMap_eq : ∀ {s t : List Char},
    s.flatMap snakeWord = t.flatMap snakeWord → Respelled s t
  | [], [], _ => .nil
  | [], d :: t, h => by
    cases hd : d.isUpper <;> simp [snakeWord, hd] at h
  | c :: s, [], h => by
    cases hc : c.isUpper <;> simp [snakeWord, hc] at h
  | c :: s, d :: t, h => by
    cases hc : c.isUpper with
    | true =>
      cases hd : d.isUpper with
      | true =>
        rw [List.flatMap_cons, List.flatMap_cons, snakeWord_of_isUpper hc,
          snakeWord_of_isUpper hd] at h
        obtain ⟨hletter, hrest⟩ : c.toLower = d.toLower ∧
            s.flatMap snakeWord = t.flatMap snakeWord := by simpa using h
        have hcd : c = d := by rw [← toUpper_toLower hc, hletter, toUpper_toLower hd]
        rw [hcd]
        exact .same d (respelled_of_flatMap_eq hrest)
      | false =>
        obtain ⟨rfl, t', rfl, hrest⟩ := eq_cons_of_capital hc hd h
        exact .left hc (respelled_of_flatMap_eq hrest)
    | false =>
      cases hd : d.isUpper with
      | true =>
        obtain ⟨rfl, s', rfl, hrest⟩ := eq_cons_of_capital hd hc h.symm
        exact .right hd (respelled_of_flatMap_eq hrest.symm)
      | false =>
        rw [List.flatMap_cons, List.flatMap_cons, snakeWord_of_not_isUpper hc,
          snakeWord_of_not_isUpper hd] at h
        obtain ⟨rfl, hrest⟩ := List.cons_eq_cons.1 h
        exact .same c (respelled_of_flatMap_eq hrest)
termination_by s t => s.length + t.length

theorem flatMap_snakeWord_eq_iff {s t : List Char} :
    s.flatMap snakeWord = t.flatMap snakeWord ↔ Respelled s t :=
  ⟨respelled_of_flatMap_eq, Respelled.flatMap_eq⟩

theorem Respelled.eq_of_isLower {s t : List Char} (h : Respelled s t)
    (ht : ∀ c ∈ t, c.isLower = true) : s = t := by
  induction h with
  | nil => rfl
  | same c _ ih => rw [ih fun x hx => ht x (List.mem_cons_of_mem _ hx)]
  | left _ _ _ => exact absurd (ht '_' List.mem_cons_self) (by decide)
  | @right c s t hc _ _ =>
    have hlower := ht c List.mem_cons_self
    rw [isLower_of_isUpper hc] at hlower
    cases hlower

/-! ## The snake case of a name -/

theorem exists_snake_of_isName {s : String} (h : isName s = true) :
    ∃ c rest, s.toList = c :: rest ∧ isNameStart c = true ∧ (∀ x ∈ rest, isNameChar x = true) ∧
      (snake s).toList = c.toLower :: rest.flatMap snakeWord := by
  obtain ⟨c, rest, hchars, hstart, hall⟩ := exists_chars_of_isName h
  refine ⟨c, rest, hchars, hstart, (List.forall_mem_cons.1 hall).2, ?_⟩
  rw [snake, String.toList_ofList, hchars, snakeChars_cons hall]

theorem snake_eq_iff {s t : String} (hs : isName s = true) (ht : isName t = true) :
    snake s = snake t ↔ SpelledAlike s t := by
  obtain ⟨c, rest, hschars, _, _, hssnake⟩ := exists_snake_of_isName hs
  obtain ⟨d, rest', htchars, _, _, htsnake⟩ := exists_snake_of_isName ht
  rw [← String.toList_inj, hssnake, htsnake, List.cons_eq_cons, flatMap_snakeWord_eq_iff]
  constructor
  · rintro ⟨hfirst, hrest⟩
    exact ⟨c, d, rest, rest', hschars, htchars, hfirst, hrest⟩
  · rintro ⟨c', d', r, r', hs', ht', hfirst, hrest⟩
    rw [hschars, List.cons_eq_cons] at hs'
    rw [htchars, List.cons_eq_cons] at ht'
    obtain ⟨rfl, rfl⟩ := hs'
    obtain ⟨rfl, rfl⟩ := ht'
    exact ⟨hfirst, hrest⟩

theorem of_mem_snakeWord {c x : Char} (hc : isNameChar c = true) (hx : x ∈ snakeWord c) :
    isNameChar x = true ∧ x.isUpper = false := by
  have hall : (snakeWord c).all (fun x => isNameChar x && !x.isUpper) = true :=
    forall_isNameChar (p := fun c => (snakeWord c).all (fun x => isNameChar x && !x.isUpper) = true)
      (by decide) hc
  simpa using List.all_eq_true.1 hall x hx

/-- The snake case of a name is made of the same characters as names, but has no capital letters. -/
theorem of_mem_snake {s : String} (hs : isName s = true) {x : Char} (hx : x ∈ (snake s).toList) :
    isNameChar x = true ∧ x.isUpper = false := by
  obtain ⟨c, rest, _, hstart, hrest, hsnake⟩ := exists_snake_of_isName hs
  rw [hsnake, List.mem_cons, List.mem_flatMap] at hx
  rcases hx with rfl | ⟨y, hy, hx⟩
  · exact forall_isNameChar (p := fun c => isNameChar c.toLower = true ∧ c.toLower.isUpper = false)
      (by decide) (isNameChar_of_isNameStart hstart)
  · exact of_mem_snakeWord (hrest y hy) hx

/-- A word of small letters is the snake case of itself and of its capitalization. -/
theorem snake_eq_of_isLower {s w : String} (hs : isName s = true)
    (hlower : ∀ x ∈ w.toList, x.isLower = true) : snake s = w ↔ s = w ∨ s = capitalize w := by
  obtain ⟨c, rest, hchars, hstart, _, hsnake⟩ := exists_snake_of_isName hs
  have hascii := toNat_lt_of_isNameStart hstart
  rw [← String.toList_inj, ← String.toList_inj, ← String.toList_inj, hsnake, hchars, capitalize,
    String.toList_ofList]
  cases hw : w.toList with
  | nil => simp [capitalizeChars]
  | cons d ds =>
    rw [hw] at hlower
    obtain ⟨hd, hds⟩ := List.forall_mem_cons.1 hlower
    have hword : ds.flatMap snakeWord = ds := by
      rw [List.flatMap_congr (g := fun x => [x]), List.flatMap_singleton']
      intro x hx
      refine snakeWord_of_not_isUpper (Bool.eq_false_iff.2 fun hupper => ?_)
      have hlower := hds x hx
      rw [isLower_of_isUpper hupper] at hlower
      cases hlower
    have hrest : rest.flatMap snakeWord = ds ↔ rest = ds := by
      constructor
      · intro h
        exact (respelled_of_flatMap_eq (h.trans hword.symm)).eq_of_isLower hds
      · rintro rfl
        exact hword
    have hfirst : c.toLower = d ↔ c = d ∨ c = d.toUpper := by
      constructor
      · rintro rfl
        exact forall_ascii (p := fun c => c.toLower.isLower = true →
          c = c.toLower ∨ c = c.toLower.toUpper) (by decide) hascii hd
      · intro hcases
        have hback := forall_ascii (p := fun d => d.isLower = true →
          d.toLower = d ∧ d.toUpper.toLower = d) (by decide) (toNat_lt_of_isLower hd) hd
        rcases hcases with rfl | rfl
        · exact hback.1
        · exact hback.2
    rw [capitalizeChars, upper_of_ascii (toNat_lt_of_isLower hd), List.singleton_append,
      List.cons_eq_cons, List.cons_eq_cons, List.cons_eq_cons, hrest, hfirst, or_and_right]

end Buildwright.Text
