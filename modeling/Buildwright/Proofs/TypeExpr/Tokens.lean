import Buildwright.Proofs.TypeExpr.Lexing

/-!
# Rows of pieces

A row of pieces in which no two names or numbers stand side by side is read as the tokens that the
pieces stand for. The pieces of a type are such a row, and its brackets match.
-/

namespace Buildwright

namespace TypeExpr

/-! ## Valid tokens -/

namespace Lexer

theorem valid_of_lexeme? {cs rest : List Char} {ts : List Token}
    (h : lexeme? cs = some (ts, rest)) : ∀ t ∈ ts, t.Valid := by
  have hdoc : IsWord "doc" := rfl
  unfold lexeme? at h
  split at h
  · cases h
  split at h
  · next hresult =>
    cases h
    -- The attribute that a documentation comment stands for has one word.
    have htokens : ∃ inner, ts = docTokens inner := by
      unfold doc? at hresult
      dsimp only at hresult
      split at hresult
      · split at hresult <;> cases hresult
        exact ⟨_, rfl⟩
      · split at hresult
        · obtain ⟨_, -, hresult⟩ := Option.bind_eq_some_iff.1 hresult
          split at hresult <;> cases hresult
          exact ⟨_, rfl⟩
        · cases hresult
    obtain ⟨inner, rfl⟩ := htokens
    cases inner <;> simp [docTokens, Token.Valid, hdoc]
  split at h
  · cases h
    simp [Token.Valid]
  split at h
  · next hbracket =>
    cases h
    unfold bracket? at hbracket
    split at hbracket <;> cases hbracket <;> simp [Token.Valid]
  split at h
  · cases h
    simp [Token.Valid]
  split at h
  · next hmark =>
    cases h
    unfold mark? at hmark
    split at hmark
    · split at hmark <;> cases hmark
      simp [Token.Valid]
    · split at hmark <;> cases hmark
      simp [Token.Valid]
    · cases hmark
  split at h
  · cases h
  · obtain ⟨⟨name, rest'⟩, hname, h⟩ := Option.map_eq_some_iff.1 h
    cases h
    simpa [Token.Valid] using isWord_of_name? hname

theorem valid_of_tokensWithin {n : Nat} {cs : List Char} {ts : List Token}
    (h : tokensWithin n cs = some ts) : ∀ t ∈ ts, t.Valid := by
  fun_induction tokensWithin n cs generalizing ts with
  | case1 =>
    cases h
    simp
  | case2 => cases h
  | case3 n c cs rest hblank ih => exact ih h
  | case4 n c cs hblank tokens rest hlexeme ih =>
    obtain ⟨ts', hts', rfl⟩ := Option.map_eq_some_iff.1 h
    simp only [List.mem_append]
    rintro t (ht | ht)
    · exact valid_of_lexeme? hlexeme t ht
    · exact ih hts' t ht
  | case5 => cases h

end Lexer

theorem valid_of_tokens? {s : String} {ts : List Token} (h : tokens? s = some ts) :
    ∀ t ∈ ts, t.Valid := by
  unfold tokens? at h
  exact Lexer.valid_of_tokensWithin (Option.filter_eq_some_iff.1 h).1

/-! ## Rows of pieces -/

namespace Piece

/-- The piece is a lexeme of types. -/
def Valid : Piece → Prop
  | .word name => Lexer.IsWord name
  | .number digits => ∃ n : Nat, digits = toString n
  | .mark c => c ∈ Lexer.typeMarks
  | .opening b => b ≠ .curly
  | .closing b => b ≠ .curly
  | .blank => True

/-- A name or a number, which would run into another one. -/
def isLong : Piece → Bool
  | .word _ => true
  | .number _ => true
  | _ => false

/-- Every piece ends where the next one begins. -/
def Lexable : List Piece → Prop
  | [] => True
  | p :: ps => p.Valid ∧ (p.isLong = true → ∀ q ∈ ps.head?, q.isLong = false) ∧ Lexable ps

theorem exists_cons_of_not_isLong {p : Piece} (hp : p.Valid) (hlong : p.isLong = false) :
    ∃ c ∈ Lexer.delimiters, p.chars = [c] ∧ c ≠ '/' := by
  cases p with
  | word name => cases hlong
  | number digits => cases hlong
  | mark c =>
    have hmarks : (Lexer.typeMarks.all fun c => Lexer.delimiters.contains c && c != '/') = true :=
      rfl
    have hc := List.all_eq_true.1 hmarks c hp
    rw [Bool.and_eq_true, List.contains_iff_mem, bne_iff_ne] at hc
    exact ⟨c, hc.1, rfl, hc.2⟩
  | opening b => cases b <;> first | exact absurd rfl hp | exact ⟨_, by decide, rfl, by decide⟩
  | closing b => cases b <;> first | exact absurd rfl hp | exact ⟨_, by decide, rfl, by decide⟩
  | blank => exact ⟨' ', by decide, rfl, by decide⟩

theorem exists_cons_of_word {name : String} (h : Lexer.IsWord name) :
    ∃ c cs, name.toList = c :: cs ∧ Text.isIdentStart c = true := by
  rcases Lexer.isWord_iff.1 h with ⟨c, tail, heq, hc, -⟩ | ⟨plain, rfl, -, -⟩
  · exact ⟨c, tail, heq, hc⟩
  · exact ⟨'r', '#' :: plain.toList, by rw [String.toList_append]; rfl, by decide⟩

theorem digits_of_number (n : Nat) :
    (toString n).toList ≠ [] ∧ ∀ c ∈ (toString n).toList, c.isDigit = true := by
  rw [Nat.toString_eq_ofList_toDigits, String.toList_ofList]
  exact ⟨Nat.toDigits_ne_nil, fun c hc => Nat.isDigit_of_mem_toDigits (by omega) (by omega) hc⟩

theorem exists_cons {p : Piece} (hp : p.Valid) :
    ∃ c cs, p.chars = c :: cs ∧ c ≠ '/' ∧ c ≠ '\ufeff' ∧
      Lexer.markChars.contains c = startsMark [p] := by
  cases p with
  | word name =>
    obtain ⟨c, cs, heq, hc⟩ := exists_cons_of_word hp
    exact ⟨c, cs, heq, Lexer.ne_of_isIdentStart hc (by decide),
      Lexer.ne_of_isIdentStart hc (by decide +kernel),
      Lexer.not_contains_markChars (by rw [hc, Bool.true_or])⟩
  | number digits =>
    obtain ⟨n, rfl⟩ := hp
    obtain ⟨hne, hdigits⟩ := digits_of_number n
    obtain ⟨c, cs, heq⟩ := List.exists_cons_of_ne_nil hne
    have hc : c.isDigit = true := hdigits c (by rw [heq]; exact List.mem_cons_self)
    refine ⟨c, cs, heq, ?_, ?_, Lexer.not_contains_markChars (by rw [hc, Bool.or_true])⟩
    · rintro rfl
      cases hc
    · rintro rfl
      cases hc
  | mark c =>
    have hmarks : (Lexer.typeMarks.all fun c =>
        c != '/' && c != '\ufeff' && Lexer.markChars.contains c) = true := rfl
    have hc := List.all_eq_true.1 hmarks c hp
    simp only [Bool.and_eq_true, bne_iff_ne] at hc
    exact ⟨c, [], rfl, hc.1.1, hc.1.2, hc.2⟩
  | opening b => cases b <;> exact ⟨_, [], rfl, by decide, by decide, rfl⟩
  | closing b => cases b <;> exact ⟨_, [], rfl, by decide, by decide, rfl⟩
  | blank => exact ⟨' ', [], rfl, by decide, by decide, rfl⟩

section Rows

variable {ps : List Piece}

theorem startsMark_chars (h : Lexable ps) :
    Lexer.startsMark (ps.flatMap chars) = startsMark ps := by
  cases ps with
  | nil => rfl
  | cons p ps =>
    obtain ⟨c, cs, heq, hslash, -, hmark⟩ := exists_cons h.1
    rw [List.flatMap_cons, heq, List.cons_append, Lexer.startsMark_cons hslash, hmark]
    cases p <;> rfl

theorem head?_ne_slash (h : Lexable ps) : (ps.flatMap chars).head? ≠ some '/' := by
  cases ps with
  | nil => simp
  | cons p ps =>
    obtain ⟨c, cs, heq, hslash, -⟩ := exists_cons h.1
    simpa [heq] using hslash

theorem delimited_chars (h : Lexable ps) (hlong : ∀ q ∈ ps.head?, q.isLong = false) :
    Lexer.Delimited (ps.flatMap chars) := by
  cases ps with
  | nil => simp [Lexer.Delimited]
  | cons p ps =>
    obtain ⟨c, hc, heq, -⟩ := exists_cons_of_not_isLong h.1 (hlong p rfl)
    rw [List.flatMap_cons, heq]
    exact Lexer.delimited_cons hc _

theorem lexeme?_piece {p : Piece} (h : Lexable (p :: ps)) (hblank : p ≠ blank) :
    Lexer.blank? (p.chars ++ ps.flatMap chars) = none ∧
      ∃ token, Lexer.lexeme? (p.chars ++ ps.flatMap chars) = some ([token], ps.flatMap chars) ∧
        tokens (p :: ps) = token :: tokens ps := by
  obtain ⟨hp, hlong, hps⟩ := h
  cases p with
  | word name =>
    have hrest := delimited_chars hps (hlong rfl)
    obtain ⟨hnone, hlexeme⟩ := Lexer.lexeme?_word hp hrest
    exact ⟨hnone, _, hlexeme, rfl⟩
  | number digits =>
    obtain ⟨n, rfl⟩ := hp
    obtain ⟨hne, hdigits⟩ := digits_of_number n
    have hrest := delimited_chars hps (hlong rfl)
    obtain ⟨hnone, hlexeme⟩ := Lexer.lexeme?_number hne hdigits hrest
    exact ⟨hnone, _, hlexeme, rfl⟩
  | mark c =>
    have hc : c ≠ '/' ∧ Lexer.isSpace c = false := by
      have hmarks : (Lexer.typeMarks.all fun c => c != '/' && !Lexer.isSpace c) = true := rfl
      simpa using List.all_eq_true.1 hmarks c hp
    have hlexeme := Lexer.lexeme?_mark hp (ps.flatMap chars)
    rw [startsMark_chars hps] at hlexeme
    refine ⟨?_, _, hlexeme, rfl⟩
    rw [chars, List.singleton_append, Lexer.blank?_cons hc.1, hc.2]
    rfl
  | opening b =>
    have hrest := head?_ne_slash hps
    cases b <;>
      exact ⟨rfl, _, Lexer.lexeme?_bracket (by decide) rfl hrest, rfl⟩
  | closing b =>
    have hrest := head?_ne_slash hps
    cases b <;>
      exact ⟨rfl, _, Lexer.lexeme?_bracket (by decide) rfl hrest, rfl⟩
  | blank => exact absurd rfl hblank

theorem tokensWithin_chars (h : Lexable ps) {n : Nat} (hn : (ps.flatMap chars).length ≤ n) :
    Lexer.tokensWithin n (ps.flatMap chars) = some (tokens ps) := by
  induction ps generalizing n with
  | nil => cases n <;> rfl
  | cons p ps ih =>
    obtain ⟨c, cs, heq, -⟩ := exists_cons h.1
    rw [List.flatMap_cons, List.length_append, heq, List.length_cons] at hn
    obtain ⟨n, rfl⟩ : ∃ m, n = m + 1 := ⟨n - 1, by omega⟩
    have hps := ih h.2.2 (n := n) (by omega)
    have hcons : (p :: ps).flatMap chars = c :: (cs ++ ps.flatMap chars) := by
      rw [List.flatMap_cons, heq, List.cons_append]
    by_cases hblank : p = blank
    · subst hblank
      exact hps
    obtain ⟨hnone, token, hlexeme, htokens⟩ := lexeme?_piece h hblank
    rw [heq, List.cons_append] at hnone hlexeme
    rw [hcons, Lexer.tokensWithin]
    simp only [hnone, hlexeme, hps, htokens]
    rfl

theorem tokens?_of_lexable {s : String} (h : Lexable ps) (hs : s.toList = ps.flatMap chars)
    (hbalanced : Lexer.balanced [] (tokens ps) = true) : tokens? s = some (tokens ps) := by
  have hmark : ∀ cs, s.toList ≠ '\ufeff' :: cs := by
    intro cs hcs
    cases ps with
    | nil => simp [hs] at hcs
    | cons p ps =>
      obtain ⟨c, tail, heq, -, hc, -⟩ := exists_cons h.1
      rw [hs, List.flatMap_cons, heq] at hcs
      exact hc (List.cons.inj hcs).1
  unfold tokens?
  split
  · next heq => exact absurd heq (hmark _)
  · dsimp only
    rw [hs, tokensWithin_chars h le_rfl]
    simp [hbalanced]

end Rows

/-! ## Composition -/

/-- The pieces can be put in front of what no name or number starts, and close their brackets. -/
structure Row (ps : List Piece) : Prop where
  lexable : ∀ rest, Lexable rest → (∀ q ∈ rest.head?, q.isLong = false) → Lexable (ps ++ rest)
  balanced : ∀ opened rest,
    Lexer.balanced opened (tokens (ps ++ rest)) = Lexer.balanced opened (tokens rest)

/-- A row that can be put behind a name. -/
structure Tail (ps : List Piece) : Prop extends Row ps where
  separate : ∀ q ∈ ps.head?, q.isLong = false

theorem Tail.nil : Tail [] := ⟨⟨fun _ h _ => h, fun _ _ => rfl⟩, by simp⟩

section Composition

variable {ps qs : List Piece}

theorem Row.append (hps : Row ps) (hqs : Tail qs) : Row (ps ++ qs) := by
  constructor
  · intro rest hrest hlong
    rw [List.append_assoc]
    refine hps.lexable _ (hqs.lexable rest hrest hlong) fun q hq => ?_
    cases qs with
    | nil => exact hlong q hq
    | cons p qs => exact hqs.separate q hq
  · intro opened rest
    rw [List.append_assoc, hps.balanced, hqs.balanced]

theorem Tail.append (hps : Tail ps) (hqs : Tail qs) : Tail (ps ++ qs) := by
  refine ⟨hps.toRow.append hqs, fun q hq => ?_⟩
  cases ps with
  | nil => exact hqs.separate q hq
  | cons p ps => exact hps.separate q hq

theorem Row.word {name : String} (hname : Lexer.IsWord name) (hps : Tail ps) :
    Row (.word name :: ps) := by
  constructor
  · intro rest hrest hlong
    refine ⟨hname, fun _ q hq => ?_, hps.lexable rest hrest hlong⟩
    cases ps with
    | nil => exact hlong q hq
    | cons p ps => exact hps.separate q hq
  · intro opened rest
    cases opened <;> exact hps.balanced _ rest

theorem Row.number (n : Nat) : Row [.number (toString n)] :=
  ⟨fun _ hrest hlong => ⟨⟨n, rfl⟩, fun _ => hlong, hrest⟩, fun opened _ => by cases opened <;> rfl⟩

theorem Row.mark {c : Char} (hc : c ∈ Lexer.typeMarks) (hps : Row ps) : Tail (.mark c :: ps) := by
  refine ⟨⟨fun rest hrest hlong => ⟨hc, by simp [isLong], hps.lexable rest hrest hlong⟩, ?_⟩, ?_⟩
  · intro opened rest
    cases opened <;> exact hps.balanced _ rest
  · simp [isLong]

theorem Row.blank (hps : Row ps) : Tail (.blank :: ps) :=
  ⟨⟨fun rest hrest hlong => ⟨trivial, by simp [isLong], hps.lexable rest hrest hlong⟩,
    hps.balanced⟩, by simp [isLong]⟩

theorem Row.bracketed {b : Bracket} (hb : b ≠ .curly) (hps : Row ps) :
    Tail (.opening b :: (ps ++ [.closing b])) := by
  refine ⟨⟨fun rest hrest hlong => ⟨hb, by simp [isLong], ?_⟩, fun opened rest => ?_⟩,
    by simp [isLong]⟩
  · show Lexable ((ps ++ [.closing b]) ++ rest)
    rw [List.append_assoc]
    exact hps.lexable _ ⟨hb, by simp [isLong], hrest⟩ (by simp [isLong])
  · have hclose : Lexer.balanced (b :: opened) (tokens (.closing b :: rest)) =
        Lexer.balanced opened (tokens rest) := by
      simp [tokens, Lexer.balanced]
    calc Lexer.balanced opened (tokens (.opening b :: (ps ++ [.closing b]) ++ rest))
        = Lexer.balanced (b :: opened) (tokens (ps ++ .closing b :: rest)) := by
          cases opened <;> simp [tokens, Lexer.balanced]
      _ = Lexer.balanced opened (tokens rest) := by rw [hps.balanced, hclose]

theorem Tail.separated {α : Type} {sep : List Piece} {f : α → List Piece} {items : List α}
    (hsep : ∀ ps, Row ps → Tail (sep ++ ps)) (hitems : ∀ a ∈ items, Row (f a)) :
    Tail (items.flatMap fun a => sep ++ f a) := by
  induction items with
  | nil => exact Tail.nil
  | cons a items ih =>
    rw [List.forall_mem_cons] at hitems
    exact (hsep _ hitems.1).append (ih hitems.2)

end Composition

theorem Row.colons (hps : Row ps) : Tail (colons ++ ps) :=
  ((hps.mark (c := ':') (by decide)).toRow).mark (by decide)

theorem Row.comma (hps : Row ps) : Tail (comma ++ ps) := hps.blank.toRow.mark (by decide)

end Piece

end TypeExpr

/-! ## Types -/

namespace Tree

open TypeExpr
open TypeExpr.Piece (Row Tail)

theorem row_piecesOfArg {a : Arg Empty} (hname : ∀ name t, a = .binding name t → PathWord name)
    (h : Row a.ty.pieces) : Row (piecesOfArg a) := by
  cases a with
  | type t => exact piecesOfArg_type t ▸ h
  | binding name t =>
    rw [piecesOfArg_binding]
    exact .word (hname name t rfl).1 (h.blank.toRow.mark (by decide)).toRow.blank

theorem row_piecesOfSegment {s : Segment Empty} (hs : s.Readable)
    (h : ∀ t ∈ s.types, Row t.pieces) : Row (piecesOfSegment s) := by
  obtain ⟨ident, args⟩ := s
  obtain ⟨hident, -, hnames⟩ := hs
  cases args with
  | nil =>
    rw [piecesOfSegment_bare]
    exact .word hident.1 .nil
  | cons a rest =>
    have hargs : ∀ b ∈ a :: rest, Row (piecesOfArg b) := fun b hb =>
      row_piecesOfArg (fun name t heq => hnames name t (heq ▸ hb))
        (h b.ty (List.mem_map_of_mem hb))
    rw [List.forall_mem_cons] at hargs
    have hclose : Tail [.mark '>'] := Row.mark (by decide) Tail.nil.toRow
    have hrest := (Tail.separated (fun _ => Row.comma) hargs.2).append hclose
    rw [piecesOfSegment_mk]
    exact .word hident.1 ((hargs.1.append hrest).mark (by decide))

theorem row_pieces {t : TypeExpr} (ht : t.Readable) : Row t.pieces := by
  induction t using Tree.inductionOn with
  | var v => exact v.elim
  | path rooted segments ih =>
    cases ht with
    | path hne hsegments htypes =>
      have hrows : ∀ s ∈ segments, Row (piecesOfSegment s) := fun s hs =>
        row_piecesOfSegment (hsegments s hs) fun t ht => ih s hs t ht (htypes s hs t ht)
      obtain ⟨s, rest, rfl⟩ := List.exists_cons_of_ne_nil hne
      rw [List.forall_mem_cons] at hrows
      have hnames := hrows.1.append (Tail.separated (fun _ => Row.colons) hrows.2)
      rw [pieces_path]
      cases rooted with
      | false => exact hnames
      | true => exact hnames.colons.toRow
  | tuple elems ih =>
    cases ht with
    | tuple helems =>
      have hrows : ∀ u ∈ elems, Row u.pieces := fun u hu => ih u hu (helems u hu)
      cases elems with
      | nil =>
        have hempty : Row [] := Tail.nil.toRow
        exact (hempty.bracketed (b := .round) (by decide)).toRow
      | cons u rest =>
        rw [List.forall_mem_cons] at hrows
        have hcomma : Tail (if rest = [] then [.mark ','] else []) := by
          split
          · exact Row.mark (by decide) Tail.nil.toRow
          · exact .nil
        have hbody := hrows.1.append ((Tail.separated (fun _ => Row.comma) hrows.2).append hcomma)
        rw [pieces_tuple]
        simpa only [List.append_assoc] using (hbody.bracketed (b := .round) (by decide)).toRow
  | array elem len ih =>
    cases ht with
    | array helem hlen =>
      obtain ⟨n, rfl⟩ := hlen
      have hlength : Tail [.mark ';', .blank, .number (toString n)] :=
        (Row.number n).blank.toRow.mark (by decide)
      have hbody := (ih helem).append hlength
      rw [pieces_array]
      simpa only [List.append_assoc, List.cons_append, List.nil_append] using
        (hbody.bracketed (b := .square) (by decide)).toRow

end Tree

theorem TypeExpr.Piece.Row.tokens? {ps : List Piece} (h : Row ps) {s : String}
    (hs : s.toList = ps.flatMap Piece.chars) : TypeExpr.tokens? s = some (Piece.tokens ps) := by
  have hlexable := h.lexable [] trivial (by simp)
  have hbalanced := h.balanced [] []
  rw [List.append_nil] at hlexable hbalanced
  exact Piece.tokens?_of_lexable hlexable hs hbalanced

end Buildwright
