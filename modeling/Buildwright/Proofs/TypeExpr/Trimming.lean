import Buildwright.Proofs.TypeExpr.Tokens

/-!
# Texts without blanks at their ends

Trimming a text twice is trimming it once, and no blank stands at an end of a type's text.
-/

namespace Buildwright

namespace Text

def Trimmed (cs : List Char) : Prop :=
  (∀ c ∈ cs.head?, isBlank c = false) ∧ ∀ c ∈ cs.getLast?, isBlank c = false

theorem toList_trim (s : String) :
    (trim s).toList = (s.toList.dropWhile isBlank).rdropWhile isBlank := by
  rw [trim, String.toList_ofList]
  rfl

theorem trimmed_trim (s : String) : Trimmed (trim s).toList := by
  rw [toList_trim]
  constructor
  · intro c hc
    obtain ⟨rest, hrest⟩ := List.rdropWhile_prefix isBlank (s.toList.dropWhile isBlank)
    have hhead : (s.toList.dropWhile isBlank).head? = some c := by
      rw [← hrest, List.head?_append, hc]
      rfl
    simpa [hhead] using List.head?_dropWhile_not isBlank s.toList
  · intro c hc
    obtain ⟨hne, rfl⟩ := List.mem_getLast?_eq_getLast hc
    simpa using List.rdropWhile_last_not isBlank (s.toList.dropWhile isBlank) hne

theorem trim_append {blanks cs : List Char} (hblanks : ∀ c ∈ blanks, isBlank c = true)
    (hcs : Trimmed cs) : trim (String.ofList (blanks ++ cs)) = String.ofList cs := by
  have hdrop : cs.dropWhile isBlank = cs := by
    cases cs with
    | nil => rfl
    | cons c cs =>
      have hc : ¬isBlank c = true := by simp [hcs.1 c rfl]
      exact List.dropWhile_cons_of_neg hc
  have hlast : cs.rdropWhile isBlank = cs := by
    rw [List.rdropWhile_eq_self_iff]
    intro hne
    simp [hcs.2 _ (List.getLast?_eq_some_getLast hne)]
  apply String.toList_inj.1
  rw [toList_trim, String.toList_ofList, String.toList_ofList,
    List.dropWhile_append_of_pos hblanks, hdrop, hlast]

theorem trim_eq_self {s : String} (hs : Trimmed s.toList) : trim s = s := by
  have htrim : trim (String.ofList ([] ++ s.toList)) = _ := trim_append (by simp) hs
  rwa [List.nil_append, String.ofList_toList] at htrim

theorem mem_of_mem_trim {s : String} {c : Char} (hc : c ∈ (trim s).toList) : c ∈ s.toList := by
  rw [toList_trim] at hc
  exact (List.dropWhile_suffix isBlank).subset
    ((List.rdropWhile_prefix isBlank _).subset hc)

end Text

namespace TypeExpr

namespace Piece

theorem not_isSpace_of_mem_word {name : String} (h : Lexer.IsWord name) :
    ∀ c ∈ name.toList, Lexer.isSpace c = false := by
  have hplain {cs : List Char} (hcs : Lexer.IsPlain cs) : ∀ c ∈ cs, Lexer.isSpace c = false := by
    obtain ⟨d, tail, rfl, hd, htail⟩ := hcs
    exact List.forall_mem_cons.2
      ⟨Lexer.not_isSpace (.inl hd), fun c hc => Lexer.not_isSpace (.inr (htail c hc))⟩
  rcases Lexer.isWord_iff.1 h with hname | ⟨name, rfl, hname, -⟩
  · exact hplain hname
  · rw [String.toList_append]
    exact List.forall_mem_cons.2 ⟨by decide, List.forall_mem_cons.2 ⟨by decide, hplain hname⟩⟩

theorem not_isSpace_of_mem_chars {p : Piece} (hp : p.Valid) (hne : p ≠ blank) :
    ∀ c ∈ p.chars, Lexer.isSpace c = false := by
  cases p with
  | word name => exact not_isSpace_of_mem_word hp
  | number digits =>
    obtain ⟨n, rfl⟩ := hp
    exact fun c hc => Lexer.not_isSpace_of_isDigit ((digits_of_number n).2 c hc)
  | mark c =>
    have hmarks : (Lexer.typeMarks.all fun c => !Lexer.isSpace c) = true := rfl
    simpa [chars] using List.all_eq_true.1 hmarks c hp
  | opening b => cases b <;> exact List.forall_mem_singleton.2 rfl
  | closing b => cases b <;> exact List.forall_mem_singleton.2 rfl
  | blank => exact absurd rfl hne

theorem valid_of_lexable {ps : List Piece} (h : Lexable ps) : ∀ p ∈ ps, p.Valid := by
  induction ps with
  | nil => simp
  | cons p ps ih => exact List.forall_mem_cons.2 ⟨h.1, ih h.2.2⟩

/-- The row starts and ends with pieces that are no blanks. -/
structure Solid (ps : List Piece) : Prop where
  first : ∃ p qs, ps = p :: qs ∧ p ≠ blank
  last : ∃ qs p, ps = qs ++ [p] ∧ p ≠ blank

section Solid

variable {ps qs : List Piece}

theorem Solid.singleton {p : Piece} (hp : p ≠ blank) : Solid [p] :=
  ⟨⟨p, [], rfl, hp⟩, [], p, rfl, hp⟩

theorem Solid.append (hps : Solid ps) (hqs : Solid qs) : Solid (ps ++ qs) := by
  obtain ⟨⟨p, _, rfl, hp⟩, -⟩ := hps
  obtain ⟨-, _, q, rfl, hq⟩ := hqs
  exact ⟨⟨p, _, rfl, hp⟩, _, q, (List.append_assoc _ _ _).symm, hq⟩

theorem Solid.enclosed {p q : Piece} (hp : p ≠ blank) (hq : q ≠ blank) : Solid (p :: (ps ++ [q])) :=
  ⟨⟨p, _, rfl, hp⟩, p :: ps, q, rfl, hq⟩

theorem Solid.separated {α : Type} {sep : List Piece} {f : α → List Piece} {items : List α}
    (hps : Solid ps) (hsep : Solid sep) (hitems : ∀ a ∈ items, Solid (f a)) :
    Solid (ps ++ items.flatMap fun a => sep ++ f a) := by
  induction items generalizing ps with
  | nil => simpa using hps
  | cons a items ih =>
    rw [List.forall_mem_cons] at hitems
    rw [List.flatMap_cons, ← List.append_assoc]
    exact ih (hps.append (hsep.append hitems.1)) hitems.2

theorem Solid.trimmed (hps : Solid ps) (hvalid : ∀ p ∈ ps, p.Valid) :
    Text.Trimmed (ps.flatMap chars) := by
  have hblank {p : Piece} (hp : p ∈ ps) (hne : p ≠ blank) :
      ∀ c ∈ p.chars, Text.isBlank c = false := by
    intro c hc
    have hspace := not_isSpace_of_mem_chars (hvalid p hp) hne c hc
    simp only [Lexer.isSpace, Bool.or_eq_false_iff] at hspace
    exact hspace.1.1
  have hchars {p : Piece} (hp : p ∈ ps) : p.chars ≠ [] := by
    obtain ⟨c, cs, heq, -⟩ := exists_cons (hvalid p hp)
    simp [heq]
  constructor
  · obtain ⟨⟨p, qs, rfl, hp⟩, -⟩ := hps
    have hne := hchars List.mem_cons_self
    intro c hc
    rw [List.flatMap_cons, List.head?_append_of_ne_nil _ hne] at hc
    exact hblank List.mem_cons_self hp c (List.mem_of_mem_head? hc)
  · obtain ⟨-, qs, p, rfl, hp⟩ := hps
    have hmem : p ∈ qs ++ [p] := by simp
    have hne := hchars hmem
    intro c hc
    rw [List.flatMap_append, List.flatMap_singleton, List.getLast?_append_of_ne_nil _ hne] at hc
    exact hblank hmem hp c (List.mem_of_mem_getLast? hc)

end Solid

end Piece

end TypeExpr

namespace Tree

open TypeExpr
open TypeExpr.Piece (Solid)

theorem solid_piecesOfSegment (s : Segment Empty) : Solid (piecesOfSegment s) := by
  obtain ⟨ident, args⟩ := s
  cases args with
  | nil =>
    rw [piecesOfSegment_bare]
    exact .singleton (by simp)
  | cons a rest =>
    rw [piecesOfSegment_mk, ← List.append_assoc, ← List.cons_append]
    exact .enclosed (by simp) (by simp)

theorem solid_pieces {t : TypeExpr} (ht : t.Readable) : Solid t.pieces := by
  cases ht with
  | @path rooted segments hne _ _ =>
    obtain ⟨s, rest, rfl⟩ := List.exists_cons_of_ne_nil hne
    have hcolons : Solid Piece.colons := .append (.singleton (by simp)) (.singleton (by simp))
    have hnames : Solid (piecesOfSegment s ++ rest.flatMap fun u =>
        Piece.colons ++ piecesOfSegment u) :=
      (solid_piecesOfSegment s).separated hcolons fun u _ => solid_piecesOfSegment u
    rw [pieces_path]
    cases rooted with
    | false => exact hnames
    | true => exact hcolons.append hnames
  | @tuple elems _ =>
    cases elems with
    | nil =>
      show Solid (.opening .round :: ([] ++ [.closing .round]))
      exact .enclosed (by simp) (by simp)
    | cons u rest =>
      rw [pieces_tuple, ← List.append_assoc, ← List.append_assoc]
      exact .enclosed (by simp) (by simp)
  | @array elem len _ _ =>
    have hpieces : (array elem len).pieces = .opening .square ::
        ((elem.pieces ++ [.mark ';', .blank, .number len]) ++ [.closing .square]) := by
      rw [pieces_array, List.append_assoc]
      rfl
    rw [hpieces]
    exact .enclosed (by simp) (by simp)

theorem trimmed_chars {t : TypeExpr} (ht : t.Readable) : Text.Trimmed t.chars := by
  have hlexable := (row_pieces ht).lexable [] trivial (by simp)
  rw [List.append_nil] at hlexable
  have htrimmed := (solid_pieces ht).trimmed (Piece.valid_of_lexable hlexable)
  rwa [chars_pieces ht] at htrimmed

end Tree

end Buildwright
