import Buildwright.Proofs.TypeExpr.Pieces
import Buildwright.Proofs.TypeExpr.Words

/-!
# Tokens of the text of a type

The text made of pieces is read as the tokens that the pieces stand for, if no name or number
follows another one at once.
-/

namespace Buildwright.TypeExpr

namespace Lexer

open Text (isIdentStart isIdentContinue)

/-! ## Lexemes by their first characters -/

theorem blank?_cons {c : Char} (hc : c ≠ '/') (rest : List Char) :
    blank? (c :: rest) = if isSpace c then some rest else none := by
  unfold blank?
  split
  · next heq => exact absurd (List.cons.inj heq).1 hc
  · next heq => exact absurd (List.cons.inj heq).1 hc
  · next heq =>
    obtain ⟨rfl, rfl⟩ := List.cons.inj heq
    rfl
  · next heq => cases heq

theorem startsWith_cons_of_ne {a c : Char} (h : c ≠ a) (start rest : List Char) :
    startsWith (a :: start) (c :: rest) = false := by
  have hbeq : (a == c) = false := by simpa using h.symm
  simp only [startsWith, List.isPrefixOf, hbeq, Bool.false_and]

theorem doc?_cons {c : Char} (hc : c ≠ '/') (rest : List Char) : doc? (c :: rest) = none := by
  have hline : isLineDoc (c :: rest) = false := by
    change (startsWith ['/', '/', '!'] _ || (startsWith ['/', '/', '/'] _ && _)) = false
    rw [startsWith_cons_of_ne hc, startsWith_cons_of_ne hc]
    rfl
  have hblock : isBlockDoc (c :: rest) = false := by
    change (startsWith ['/', '*', '!'] _ || (startsWith ['/', '*', '*'] _ && _ && _)) = false
    rw [startsWith_cons_of_ne hc, startsWith_cons_of_ne hc]
    rfl
  simp only [doc?, hline, hblock, Bool.false_eq_true, if_false]

theorem startsWith_errorMark_cons {c : Char} {rest : List Char} (hrest : rest.head? ≠ some '/') :
    startsWith errorMark (c :: rest) = false := by
  have hmark : errorMark = '(' :: '/' :: "*ERROR*/)".toList := rfl
  rw [hmark, startsWith, List.isPrefixOf]
  cases rest with
  | nil => exact Bool.and_false _
  | cons d rest =>
    have hd : d ≠ '/' := by simpa using hrest
    have htail := startsWith_cons_of_ne hd "*ERROR*/)".toList rest
    rw [startsWith] at htail
    rw [htail, Bool.and_false]

theorem lexeme?_bracket {c : Char} {token : Token} (hc : c ≠ '/') (htoken : bracket? c = some token)
    {rest : List Char} (hrest : rest.head? ≠ some '/') :
    lexeme? (c :: rest) = some ([token], rest) := by
  simp only [lexeme?, doc?_cons hc, startsWith_errorMark_cons hrest, htoken, Bool.false_eq_true,
    if_false]

def typeMarks : List Char := [':', '<', '>', ',', ';', '=', '+']

theorem startsMark_cons {c : Char} (hc : c ≠ '/') (rest : List Char) :
    startsMark (c :: rest) = markChars.contains c := by
  unfold startsMark
  split
  · next heq => exact absurd (List.cons.inj heq).1 hc
  · next heq => exact absurd (List.cons.inj heq).1 hc
  · next heq =>
    obtain ⟨rfl, -⟩ := List.cons.inj heq
    rfl
  · next heq => cases heq

theorem not_contains_markChars {c : Char} (hc : (isIdentStart c || c.isDigit) = true) :
    markChars.contains c = false := by
  have hmarks : (markChars.all fun d => !(isIdentStart d || d.isDigit)) = true := rfl
  rw [Bool.eq_false_iff, ne_eq, List.contains_iff_mem]
  intro hmem
  have hnot := List.all_eq_true.1 hmarks c hmem
  rw [hc] at hnot
  cases hnot

theorem lexeme?_mark {c : Char} (hc : c ∈ typeMarks) (rest : List Char) :
    lexeme? (c :: rest) = some ([.mark c (startsMark rest)], rest) := by
  simp only [typeMarks, List.mem_cons, List.not_mem_nil, or_false] at hc
  rcases hc with rfl | rfl | rfl | rfl | rfl | rfl | rfl <;> rfl

/-! ## Names -/

theorem decimal?_cons {c : Char} (hc : c.isDigit = false) (rest : List Char) :
    decimal? (c :: rest) = none := by
  simp [decimal?, decimalDigits?, hc]

theorem integer?_cons {c : Char} (hc : c.isDigit = false) (rest : List Char) :
    integer? (c :: rest) = none := by
  have hzero : c ≠ '0' := by
    rintro rfl
    exact absurd hc (by decide)
  unfold integer?
  split
  · next heq => exact absurd (List.cons.inj heq).1 hzero
  · next heq => exact absurd (List.cons.inj heq).1 hzero
  · next heq => exact absurd (List.cons.inj heq).1 hzero
  · next heq =>
    obtain ⟨rfl, -⟩ := List.cons.inj heq
    rw [hc]
    rfl
  · rfl

/-- The text does not start with a character that makes a literal of a letter before it. -/
def Unquoted (cs : List Char) : Prop := ∀ c ∈ cs.head?, c ≠ '"' ∧ c ≠ '\'' ∧ c ≠ '#'

theorem unquoted_append {tail rest : List Char} (htail : ∀ d ∈ tail, isIdentContinue d = true)
    (hrest : Delimited rest) : Unquoted (tail ++ rest) := by
  intro c hc
  cases tail with
  | nil =>
    have hquotes := false_of_mem_delimiters (p := fun c => c == '"' || c == '\'' || c == '#') rfl
      (hrest c hc)
    simpa [and_assoc] using hquotes
  | cons d tail =>
    obtain rfl : d = c := by simpa using hc
    have hd := htail d List.mem_cons_self
    exact ⟨ne_of_isIdentContinue hd (by decide), ne_of_isIdentContinue hd (by decide),
      ne_of_isIdentContinue hd (by decide)⟩

theorem Unquoted.ne {cs rest : List Char} {c : Char} (h : Unquoted cs)
    (hc : c = '"' ∨ c = '\'' ∨ c = '#') : cs ≠ c :: rest := by
  rintro rfl
  obtain ⟨hquote, hapostrophe, hhash⟩ := h c rfl
  rcases hc with rfl | rfl | rfl <;> contradiction

theorem exists_eq_append_of_letter {tail rest cs : List Char} {d : Char}
    (htail : ∀ d ∈ tail, isIdentContinue d = true) (hrest : Delimited rest)
    (hd : isIdentContinue d = true) (h : tail ++ rest = d :: cs) : Unquoted cs := by
  cases tail with
  | nil =>
    have hmem : d ∈ delimiters := hrest d (by rw [← List.nil_append rest, h]; rfl)
    rw [not_isIdentContinue_of_mem hmem] at hd
    cases hd
  | cons d' tail =>
    obtain rfl : tail ++ rest = cs := (List.cons.inj h).2
    exact unquoted_append (fun x hx => htail x (List.mem_cons_of_mem _ hx)) hrest

theorem rawString?_eq_none {content : Content} {cs : List Char}
    (h : ∀ c ∈ (cs.dropWhile (· == '#')).head?, c ≠ '"') : rawString? content cs = none := by
  have hdrop : cs.drop (cs.takeWhile (· == '#')).length = cs.dropWhile (· == '#') := by
    calc cs.drop (cs.takeWhile (· == '#')).length
        = (cs.takeWhile (· == '#') ++ cs.dropWhile (· == '#')).drop
            (cs.takeWhile (· == '#')).length := by rw [List.takeWhile_append_dropWhile]
      _ = cs.dropWhile (· == '#') := List.drop_left
  unfold rawString?
  dsimp only
  rw [hdrop]
  split
  · next heq => exact absurd rfl (h '"' (by rw [heq]; rfl))
  · rfl

theorem Unquoted.rawString? {cs : List Char} (h : Unquoted cs) (content : Content) :
    Lexer.rawString? content cs = none := by
  refine rawString?_eq_none fun c hc => ?_
  cases cs with
  | nil => cases hc
  | cons d cs =>
    have hd : ¬(d == '#') = true := by simpa using (h d rfl).2.2
    rw [List.dropWhile_cons_of_neg (p := (· == '#')) hd] at hc
    obtain rfl : d = c := by simpa using hc
    exact (h d rfl).1

/-- What literals start with that a name could start with, too. -/
def stringStarts : List (List Char) :=
  [['r', '"'], ['r', '#', '"'], ['r', '#', '#'], ['b', '"'], ['b', '\''], ['b', 'r', '"'],
    ['b', 'r', '#'], ['c', '"'], ['c', 'r', '"'], ['c', 'r', '#']]

theorem startsStringLiteral_eq (cs : List Char) :
    startsStringLiteral cs = stringStarts.any fun s => startsWith s cs := rfl

structure Letters (cs : List Char) : Prop where
  literal : textLiteral? cs = none
  prefix_ : startsStringLiteral cs = false

theorem letters_of_isPlain {w rest : List Char} (hw : IsPlain w) (hrest : Delimited rest) :
    Letters (w ++ rest) := by
  obtain ⟨c, tail, rfl, hc, htail⟩ := hw
  have hunquoted : Unquoted (tail ++ rest) := unquoted_append htail hrest
  have hletter {cs : List Char} (h : tail ++ rest = 'r' :: cs) : Unquoted cs :=
    exists_eq_append_of_letter htail hrest (by decide) h
  rw [List.cons_append]
  constructor
  · unfold textLiteral?
    dsimp only
    split
    · next heq => exact absurd (List.cons.inj heq).1 (ne_of_isIdentStart hc (by decide))
    · next heq =>
      obtain ⟨-, rfl⟩ := List.cons.inj heq
      rw [hunquoted.rawString?]
      rfl
    · next heq => exact absurd (List.cons.inj heq).2 (hunquoted.ne (by simp))
    · next heq =>
      rw [(hletter (List.cons.inj heq).2).rawString?]
      rfl
    · next heq => exact absurd (List.cons.inj heq).2 (hunquoted.ne (by simp))
    · next heq => exact absurd (List.cons.inj heq).2 (hunquoted.ne (by simp))
    · next heq =>
      rw [(hletter (List.cons.inj heq).2).rawString?]
      rfl
    · next heq => exact absurd (List.cons.inj heq).1 (ne_of_isIdentStart hc (by decide))
    · rfl
  · rw [startsStringLiteral_eq, List.any_eq_false]
    intro s hs hstart
    obtain ⟨y, hy⟩ := List.isPrefixOf_iff_prefix.1 hstart
    simp only [stringStarts, List.mem_cons, List.not_mem_nil, or_false] at hs
    rcases hs with rfl | rfl | rfl | rfl | rfl | rfl | rfl | rfl | rfl | rfl
    all_goals have hsecond := (List.cons.inj hy).2.symm
    · exact hunquoted.ne (by simp) hsecond
    · exact hunquoted.ne (by simp) hsecond
    · exact hunquoted.ne (by simp) hsecond
    · exact hunquoted.ne (by simp) hsecond
    · exact hunquoted.ne (by simp) hsecond
    · exact (hletter hsecond).ne (by simp) rfl
    · exact (hletter hsecond).ne (by simp) rfl
    · exact hunquoted.ne (by simp) hsecond
    · exact (hletter hsecond).ne (by simp) rfl
    · exact (hletter hsecond).ne (by simp) rfl

theorem letters_of_raw {name rest : List Char} (hname : IsPlain name) :
    Letters ('r' :: '#' :: (name ++ rest)) := by
  obtain ⟨c, tail, rfl, hc, -⟩ := hname
  have hhash : c ≠ '#' := ne_of_isIdentStart hc (by decide)
  have hquote : c ≠ '"' := ne_of_isIdentStart hc (by decide)
  constructor
  · have hnone : Lexer.rawString? .text ('#' :: (c :: tail ++ rest)) = none := by
      refine rawString?_eq_none fun d hd => ?_
      rw [List.dropWhile_cons_of_pos (by decide), List.cons_append,
        List.dropWhile_cons_of_neg (by simpa using hhash)] at hd
      obtain rfl : c = d := by simpa using hd
      exact hquote
    change (Lexer.rawString? .text ('#' :: (c :: tail ++ rest))).map _ = none
    rw [hnone]
    rfl
  · rw [startsStringLiteral_eq, List.any_eq_false]
    intro s hs hstart
    obtain ⟨y, hy⟩ := List.isPrefixOf_iff_prefix.1 hstart
    simp only [stringStarts, List.mem_cons, List.not_mem_nil, or_false] at hs
    rcases hs with rfl | rfl | rfl | rfl | rfl | rfl | rfl | rfl | rfl | rfl <;>
      simp only [List.cons_append, List.nil_append, List.cons.injEq, Char.reduceEq, true_and,
        false_and] at hy
    · exact hquote hy.1.symm
    · exact hhash hy.1.symm

theorem lexeme?_letter {c : Char} {cs : List Char} (hc : isIdentStart c = true)
    (hletters : Letters (c :: cs)) :
    blank? (c :: cs) = none ∧
      lexeme? (c :: cs) = (name? (c :: cs)).map fun r => ([.word r.1], r.2) := by
  have hslash : c ≠ '/' := ne_of_isIdentStart hc (by decide)
  have hdigit : c.isDigit = false := isDigit_of_isIdentStart hc
  have hspace : isSpace c = false := not_isSpace (.inl hc)
  have hbracket : bracket? c = none := by
    unfold bracket?
    split <;> first | rfl | exact absurd hc (by decide)
  have herror : startsWith errorMark (c :: cs) = false :=
    startsWith_cons_of_ne (ne_of_isIdentStart hc (by decide)) _ _
  have hliteral : literal? (c :: cs) = none := by
    rw [literal?, hletters.literal, decimal?_cons hdigit, integer?_cons hdigit]
    rfl
  have hmark : mark? (c :: cs) = none := by
    have hstart : startsMark (c :: cs) = false := by
      rw [startsMark_cons hslash, not_contains_markChars (by rw [hc, Bool.true_or])]
    unfold mark?
    split
    · next heq => exact absurd (List.cons.inj heq).1 (ne_of_isIdentStart hc (by decide))
    · next heq =>
      obtain ⟨rfl, rfl⟩ := List.cons.inj heq
      rw [hstart]
      rfl
    · rfl
  constructor
  · rw [blank?_cons hslash, hspace]
    rfl
  · simp only [lexeme?, doc?_cons hslash, herror, hbracket, hliteral, hmark, hletters.prefix_,
      Bool.false_eq_true, if_false]

theorem lexeme?_word {w : String} (hw : IsWord w) {rest : List Char} (hrest : Delimited rest) :
    blank? (w.toList ++ rest) = none ∧
      lexeme? (w.toList ++ rest) = some ([.word w], rest) := by
  have hhash : rest.head? ≠ some '#' := by
    intro h
    exact absurd (hrest '#' h) (by decide)
  rcases isWord_iff.1 hw with hplain | ⟨name, rfl, hname, hcontains⟩
  · have hletters := letters_of_isPlain hplain hrest
    have hread := name?_of_isPlain hplain hrest.breaks hhash
    rw [String.ofList_toList] at hread
    obtain ⟨c, tail, heq, hc, -⟩ := hplain
    rw [heq, List.cons_append] at hletters hread ⊢
    obtain ⟨hblank, hlexeme⟩ := lexeme?_letter hc hletters
    exact ⟨hblank, by rw [hlexeme, hread]; rfl⟩
  · have hletters : Letters ('r' :: '#' :: (name.toList ++ rest)) := letters_of_raw hname
    have hread : name? ('r' :: '#' :: (name.toList ++ rest)) = some ("r#" ++ name, rest) := by
      have hplain := plainName?_append hname hrest.breaks
      rw [String.ofList_toList] at hplain
      simp only [name?, hplain, hcontains]
      rfl
    have heq : ("r#" ++ name).toList ++ rest = 'r' :: '#' :: (name.toList ++ rest) := by
      rw [String.toList_append]
      rfl
    rw [heq]
    obtain ⟨hblank, hlexeme⟩ := lexeme?_letter (by decide) hletters
    exact ⟨hblank, by rw [hlexeme, hread]; rfl⟩

/-! ## Numbers -/

section Numbers

theorem not_isIdentStart_of_mem {c : Char} (hc : c ∈ delimiters) : isIdentStart c = false :=
  false_of_mem_delimiters rfl hc

theorem not_isHexDigit_of_mem {c : Char} (hc : c ∈ delimiters) :
    c.isDigit = false ∧ isHexDigit c = false :=
  ⟨false_of_mem_delimiters rfl hc, false_of_mem_delimiters rfl hc⟩

theorem not_isSpace_of_isDigit {c : Char} (hc : c.isDigit = true) : isSpace c = false := by
  refine not_isSpace (.inr ?_)
  have hword : c.isAlphanum = true := by simp [Char.isAlphanum, hc]
  rw [isIdentContinue, if_pos (Text.toNat_lt_of_isAlphanum hword), hword]
  rfl

theorem withSuffix_of_delimited {rest : List Char} (hrest : Delimited rest) :
    withSuffix rest = some ("", rest) := by
  cases rest with
  | nil => rfl
  | cons c rest =>
    have hstart : isIdentStart c = false := not_isIdentStart_of_mem (hrest c rfl)
    have hcontinue : isIdentContinue c = false := not_isIdentContinue_of_mem (hrest c rfl)
    simp [withSuffix, plainName?, atWordBreak, hstart, hcontinue]

variable {ds rest : List Char}

theorem integerDigits_append (hds : ∀ c ∈ ds, c.isDigit = true)
    (hrest : Delimited rest) : integerDigits 10 (ds ++ rest) = some (ds, rest) := by
  induction ds with
  | nil =>
    cases rest with
    | nil => rfl
    | cons c rest =>
      obtain ⟨hdigit, hhex⟩ := not_isHexDigit_of_mem (hrest c rfl)
      have hunderscore : c ≠ '_' := by
        rintro rfl
        exact absurd (hrest '_' rfl) (by decide)
      simp [integerDigits, hdigit, hhex, hunderscore]
  | cons c ds ih =>
    rw [List.forall_mem_cons] at hds
    have hunderscore : c ≠ '_' := by
      rintro rfl
      exact absurd hds.1 (by decide)
    have hvalue : digitValue c < 10 := by
      have hbounds := hds.1
      simp only [Char.isDigit, Bool.and_eq_true, decide_eq_true_eq] at hbounds
      rw [digitValue, if_pos hds.1]
      have : c.toNat ≤ 57 := hbounds.2
      omega
    rw [List.cons_append, integerDigits]
    simp [hunderscore, hds.1, hvalue, ih hds.2]

theorem decimalDigits?_append (hds : ∀ c ∈ ds, c.isDigit = true)
    (hrest : Delimited rest) : decimalDigits? (ds ++ rest) = none := by
  have hstops : ∀ c ∈ rest.head?, (c.isDigit || c == '_') = false := fun c hc =>
    false_of_mem_delimiters (p := fun c => c.isDigit || c == '_') rfl (hrest c hc)
  have htake : (ds ++ rest).takeWhile (fun c => c.isDigit || c == '_') = ds :=
    (takeWhile_append_of_stops (fun c hc => by simp [hds c hc]) hstops).1
  unfold decimalDigits?
  dsimp only
  rw [htake, List.drop_left]
  split
  · rfl
  split
  · exact absurd (hrest '.' rfl) (by decide)
  · next e _ _ _ =>
    have hexponent := false_of_mem_delimiters (p := fun c => c == 'e' || c == 'E') rfl
      (hrest e rfl)
    exact if_neg (by rw [hexponent]; decide)
  · rfl

theorem append_ne_cons_cons (hne : ds ≠ []) (hds : ∀ c ∈ ds, c.isDigit = true)
    (hrest : Delimited rest) {a c : Char} (hdigit : c.isDigit = false) (hmem : c ∉ delimiters)
    (cs : List Char) : ds ++ rest ≠ a :: c :: cs := by
  intro heq
  cases ds with
  | nil => exact hne rfl
  | cons d tail =>
    have htail : tail ++ rest = c :: cs := (List.cons.inj heq).2
    cases tail with
    | nil => exact hmem (hrest c (by rw [show rest = c :: cs from htail]; rfl))
    | cons d' tail =>
      obtain rfl : d' = c := (List.cons.inj htail).1
      rw [hds d' (by simp)] at hdigit
      cases hdigit

theorem integer?_append (hne : ds ≠ []) (hds : ∀ c ∈ ds, c.isDigit = true)
    (hrest : Delimited rest) :
    integer? (ds ++ rest) =
      some (.integer (ds.foldl (fun n c => 10 * n + digitValue c) 0) "", rest) := by
  have hbase : ∀ c ∈ ['x', 'o', 'b'], ∀ cs, ds ++ rest ≠ '0' :: c :: cs := by
    intro c hc
    simp only [List.mem_cons, List.not_mem_nil, or_false] at hc
    rcases hc with rfl | rfl | rfl <;>
      exact append_ne_cons_cons hne hds hrest (by decide) (by decide)
  have hdigits := integerDigits_append hds hrest
  unfold integer?
  split
  · next heq => exact absurd heq (hbase 'x' (by simp) _)
  · next heq => exact absurd heq (hbase 'o' (by simp) _)
  · next heq => exact absurd heq (hbase 'b' (by simp) _)
  · next c cs _ _ _ heq =>
    obtain ⟨d, tail, rfl⟩ := List.exists_cons_of_ne_nil hne
    have hc : c.isDigit = true := by
      rw [← (List.cons.inj heq).1]
      exact hds d List.mem_cons_self
    rw [if_pos hc]
    dsimp only
    rw [hdigits]
    simp [withSuffix_of_delimited hrest]
  · next heq => exact absurd heq (by simp [hne])

theorem lexeme?_number (hne : ds ≠ []) (hds : ∀ c ∈ ds, c.isDigit = true)
    (hrest : Delimited rest) :
    blank? (ds ++ rest) = none ∧
      lexeme? (ds ++ rest) =
        some ([.literal (.integer (ds.foldl (fun n c => 10 * n + digitValue c) 0) "")], rest) := by
  have hinteger := integer?_append hne hds hrest
  have hdecimal : decimal? (ds ++ rest) = none := by
    rw [decimal?, decimalDigits?_append hds hrest]
    rfl
  obtain ⟨d, tail, rfl⟩ := List.exists_cons_of_ne_nil hne
  have hd : d.isDigit = true := hds d List.mem_cons_self
  have hother : ∀ c : Char, c.isDigit = false → d ≠ c := by
    rintro c hc rfl
    rw [hd] at hc
    cases hc
  have htext : textLiteral? (d :: tail ++ rest) = none := by
    unfold textLiteral?
    dsimp only
    split <;> first
      | rfl
      | next heq => exact absurd (List.cons.inj heq).1 (hother _ (by decide))
  have hbracket : bracket? d = none := by
    unfold bracket?
    split <;> first
      | rfl
      | exact absurd hd (by decide)
  rw [List.cons_append] at hinteger hdecimal htext ⊢
  constructor
  · rw [blank?_cons (hother '/' (by decide)), not_isSpace_of_isDigit hd]
    rfl
  · have herror : startsWith errorMark (d :: (tail ++ rest)) = false :=
      startsWith_cons_of_ne (hother '(' (by decide)) _ _
    have hliteral : literal? (d :: (tail ++ rest)) = _ :=
      (congrArg₂ Option.or htext (congrArg₂ Option.or hdecimal hinteger))
    simp only [lexeme?, doc?_cons (hother '/' (by decide)), herror, hbracket, hliteral,
      Bool.false_eq_true, if_false]
    rfl

end Numbers

end Lexer

end Buildwright.TypeExpr
