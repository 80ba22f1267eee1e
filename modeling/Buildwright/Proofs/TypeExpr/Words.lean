import Buildwright.Proofs.Text.UpperCase
import Buildwright.Proofs.TypeExpr.Yields

/-!
# Names and what delimits them

A name that was read from text is read again from its own text, if a delimiter follows it.
-/

namespace Buildwright.TypeExpr.Lexer

open Text (isIdentStart isIdentContinue isBlank CodeRanges)

/-! ## Character classes -/

theorem ne_of_isIdentStart {c d : Char} (hc : isIdentStart c = true) (hd : isIdentStart d = false) :
    c ≠ d := by
  rintro rfl
  rw [hc] at hd
  cases hd

theorem ne_of_isIdentContinue {c d : Char} (hc : isIdentContinue c = true)
    (hd : isIdentContinue d = false) : c ≠ d := by
  rintro rfl
  rw [hc] at hd
  cases hd

theorem isDigit_of_isIdentStart {c : Char} (hc : isIdentStart c = true) : c.isDigit = false := by
  rw [Bool.eq_false_iff]
  intro hdigit
  have hascii : c.toNat < 128 := Text.toNat_lt_of_isAlphanum (by simp [Char.isAlphanum, hdigit])
  have hnone : c.isDigit = false := Text.forall_ascii
    (p := fun c => isIdentStart c = true → c.isDigit = false) (by decide) hascii hc
  rw [hdigit] at hnone
  cases hnone

def wideBlanks : List (Nat × Nat) :=
  [(0x85, 0x85), (0xa0, 0xa0), (0x1680, 0x1680), (0x2000, 0x200a), (0x200e, 0x200f),
    (0x2028, 0x2029), (0x202f, 0x202f), (0x205f, 0x205f), (0x3000, 0x3000)]

theorem not_isSpace_of_ascii {c : Char} (hascii : c.toNat < 128)
    (hc : isIdentStart c = true ∨ isIdentContinue c = true) : isSpace c = false :=
  Text.forall_ascii
    (p := fun c => isIdentStart c = true ∨ isIdentContinue c = true → isSpace c = false)
    (by decide) hascii hc

theorem exists_wideBlanks_of_isSpace {c : Char} (hwide : 128 ≤ c.toNat) (hc : isSpace c = true) :
    ∃ r ∈ wideBlanks, r.1 ≤ c.toNat ∧ c.toNat ≤ r.2 := by
  simp only [isSpace, isBlank, Bool.or_eq_true, Bool.and_eq_true, decide_eq_true_eq,
    beq_iff_eq] at hc
  simp only [wideBlanks, List.mem_cons, List.not_mem_nil, or_false, exists_eq_or_imp,
    exists_eq_left]
  omega

theorem not_isSpace {c : Char} (hc : isIdentStart c = true ∨ isIdentContinue c = true) :
    isSpace c = false := by
  by_cases hascii : c.toNat < 128
  · exact not_isSpace_of_ascii hascii hc
  rw [Bool.eq_false_iff]
  intro hspace
  have hwide : 128 ≤ c.toNat := by omega
  obtain ⟨r, hr, hlow, hhigh⟩ := exists_wideBlanks_of_isSpace hwide hspace
  have havoids : ∀ r ∈ wideBlanks, Text.nonAsciiStarts.avoids r.1 r.2 = true ∧
      Text.nonAsciiContinues.avoids r.1 r.2 = true := by decide +kernel
  have hstart : isIdentStart c = false :=
    (if_neg hascii).trans (CodeRanges.has_of_avoids (havoids r hr).1 hlow hhigh)
  have hcontinue : isIdentContinue c = false :=
    (if_neg hascii).trans (CodeRanges.has_of_avoids (havoids r hr).2 hlow hhigh)
  rw [hstart, hcontinue] at hc
  simp at hc

/-! ## Delimiters -/

/-- The characters that types are written with besides names and numbers. -/
def delimiters : List Char := [' ', ':', '<', '>', ',', ';', '=', '+', '(', ')', '[', ']']

/-- The text is at its end or goes on with a delimiter. -/
def Delimited (cs : List Char) : Prop := ∀ c ∈ cs.head?, c ∈ delimiters

theorem delimited_cons {c : Char} (hc : c ∈ delimiters) (cs : List Char) : Delimited (c :: cs) := by
  intro d hd
  obtain rfl : c = d := by simpa using hd
  exact hc

theorem false_of_mem_delimiters {p : Char → Bool} (h : delimiters.any p = false) {c : Char}
    (hc : c ∈ delimiters) : p c = false := by
  simpa using List.any_eq_false.1 h c hc

theorem not_isIdentContinue_of_mem {c : Char} (hc : c ∈ delimiters) : isIdentContinue c = false :=
  false_of_mem_delimiters rfl hc

theorem Delimited.breaks {cs : List Char} (h : Delimited cs) :
    ∀ c ∈ cs.head?, isIdentContinue c = false := fun c hc => not_isIdentContinue_of_mem (h c hc)

/-! ## Names -/

def IsPlain (cs : List Char) : Prop :=
  ∃ c tail, cs = c :: tail ∧ isIdentStart c = true ∧ ∀ d ∈ tail, isIdentContinue d = true

theorem takeWhile_append_of_stops {p : Char → Bool} {w rest : List Char}
    (hw : ∀ c ∈ w, p c = true) (hrest : ∀ c ∈ rest.head?, p c = false) :
    (w ++ rest).takeWhile p = w ∧ (w ++ rest).dropWhile p = rest := by
  rw [List.takeWhile_append_of_pos hw, List.dropWhile_append_of_pos hw]
  cases rest with
  | nil => simp
  | cons c rest =>
    have hc : ¬p c = true := by simp [hrest c rfl]
    rw [List.takeWhile_cons_of_neg hc, List.dropWhile_cons_of_neg hc, List.append_nil]
    exact ⟨rfl, rfl⟩

theorem plainName?_append {w rest : List Char} (hw : IsPlain w)
    (hrest : ∀ c ∈ rest.head?, isIdentContinue c = false) :
    plainName? (w ++ rest) = some (String.ofList w, rest) := by
  obtain ⟨c, tail, rfl, hc, htail⟩ := hw
  obtain ⟨htake, hdrop⟩ := takeWhile_append_of_stops htail hrest
  rw [List.cons_append, plainName?, if_pos hc, htake, hdrop]

theorem isPlain_of_plainName? {cs rest : List Char} {name : String}
    (h : plainName? cs = some (name, rest)) : IsPlain name.toList := by
  cases cs with
  | nil => cases h
  | cons c cs =>
    rw [plainName?] at h
    split at h
    · next hc =>
      cases h
      exact ⟨c, _, String.toList_ofList, hc, fun d hd => List.mem_takeWhile_imp hd⟩
    · cases h

theorem name?_of_isPlain {w rest : List Char} (hw : IsPlain w)
    (hrest : ∀ c ∈ rest.head?, isIdentContinue c = false) (hhash : rest.head? ≠ some '#') :
    name? (w ++ rest) = some (String.ofList w, rest) := by
  have hplain := plainName?_append hw hrest
  obtain ⟨c, tail, rfl, hc, htail⟩ := hw
  unfold name?
  split
  · next rest' heq =>
    -- No number sign stands behind the first character.
    obtain ⟨-, heq⟩ := List.cons.inj heq
    cases tail with
    | nil =>
      obtain rfl : rest = '#' :: rest' := heq
      exact absurd rfl hhash
    | cons d tail =>
      have hd : isIdentContinue d = true := htail d List.mem_cons_self
      exact absurd (List.cons.inj heq).1 (ne_of_isIdentContinue hd (by decide))
  · exact hplain

theorem isWord_iff {w : String} :
    IsWord w ↔ IsPlain w.toList ∨ ∃ name : String, w = "r#" ++ name ∧ IsPlain name.toList ∧
      ["_", "super", "self", "Self", "crate"].contains name = false := by
  constructor
  · intro h
    unfold IsWord name? at h
    split at h
    · next rest heq =>
      split at h
      · next name rest' hname =>
        split at h
        · cases h
        · next hcontains =>
          obtain ⟨rfl, rfl⟩ := Prod.mk.inj (Option.some.inj h)
          exact .inr ⟨name, rfl, isPlain_of_plainName? hname, by simpa using hcontains⟩
      · cases h
    · exact .inl (isPlain_of_plainName? h)
  · rintro (h | ⟨name, rfl, hname, hcontains⟩)
    · have hread : name? (w.toList ++ []) = _ := name?_of_isPlain h (by simp) (by simp)
      rwa [List.append_nil, String.ofList_toList] at hread
    · have hread : plainName? (name.toList ++ []) = _ := plainName?_append hname (by simp)
      rw [List.append_nil, String.ofList_toList] at hread
      rw [IsWord, String.toList_append]
      show name? ('r' :: '#' :: name.toList) = _
      simp only [name?, hread, hcontains]
      rfl

theorem isWord_of_name? {cs rest : List Char} {name : String}
    (h : name? cs = some (name, rest)) : IsWord name := by
  rw [isWord_iff]
  unfold name? at h
  split at h
  · split at h
    · next plain rest' hplain =>
      split at h
      · cases h
      · next hcontains =>
        cases h
        exact .inr ⟨plain, rfl, isPlain_of_plainName? hplain, by simpa using hcontains⟩
    · cases h
  · exact .inl (isPlain_of_plainName? h)

end Buildwright.TypeExpr.Lexer
