import Buildwright.Proofs.TypeExpr.Productions

/-!
# The pieces of a type's text

The text of a type is a row of names, numbers, marks, brackets and blanks. Each of them but a blank
is one token, so that the tokens of the text can be told without reading it.
-/

namespace Buildwright

namespace TypeExpr

/-- A piece of text that stands for one token, or a blank. -/
inductive Piece where
  | word (name : String)
  | number (digits : String)
  | mark (c : Char)
  | opening (b : Bracket)
  | closing (b : Bracket)
  | blank
deriving DecidableEq

def Bracket.openChar : Bracket → Char
  | .round => '('
  | .square => '['
  | .curly => '\x7b'

def Bracket.closeChar : Bracket → Char
  | .round => ')'
  | .square => ']'
  | .curly => '\x7d'

namespace Piece

def chars : Piece → List Char
  | .word name => name.toList
  | .number digits => digits.toList
  | .mark c => [c]
  | .opening b => [b.openChar]
  | .closing b => [b.closeChar]
  | .blank => [' ']

/-- The pieces start with a mark, which a mark before them is joint with. -/
def startsMark : List Piece → Bool
  | .mark _ :: _ => true
  | _ => false

def value (digits : String) : Nat :=
  digits.toList.foldl (fun n c => 10 * n + Lexer.digitValue c) 0

def tokens : List Piece → List Token
  | [] => []
  | .word name :: ps => .word name :: tokens ps
  | .number digits :: ps => .literal (.integer (value digits) "") :: tokens ps
  | .mark c :: ps => .mark c (startsMark ps) :: tokens ps
  | .opening b :: ps => .opening b :: tokens ps
  | .closing b :: ps => .closing b :: tokens ps
  | .blank :: ps => tokens ps

def joined (sep : List Piece) : List (List Piece) → List Piece
  | [] => []
  | ps :: rest => ps ++ rest.flatMap fun qs => sep ++ qs

def colons : List Piece := [.mark ':', .mark ':']

def comma : List Piece := [.mark ',', .blank]

end Piece

end TypeExpr

open TypeExpr (Piece)

namespace Tree

mutual

def pieces : TypeExpr → List Piece
  | .var v => v.elim
  | .path rooted segments =>
    (if rooted then Piece.colons else []) ++ Piece.joined Piece.colons (piecesOfSegments segments)
  | .tuple elems =>
    .opening .round :: (Piece.joined Piece.comma (piecesOfTrees elems) ++
      ((if elems.length = 1 then [.mark ','] else []) ++ [.closing .round]))
  | .array elem len =>
    .opening .square :: (pieces elem ++ [.mark ';', .blank, .number len, .closing .square])

def piecesOfTrees : List TypeExpr → List (List Piece)
  | [] => []
  | t :: rest => pieces t :: piecesOfTrees rest

def piecesOfSegment : Segment Empty → List Piece
  | .mk ident [] => [.word ident]
  | .mk ident args =>
    .word ident :: .mark '<' :: (Piece.joined Piece.comma (piecesOfArgs args) ++ [.mark '>'])

def piecesOfSegments : List (Segment Empty) → List (List Piece)
  | [] => []
  | s :: rest => piecesOfSegment s :: piecesOfSegments rest

def piecesOfArg : Arg Empty → List Piece
  | .type t => pieces t
  | .binding name t => [.word name, .blank, .mark '=', .blank] ++ pieces t

def piecesOfArgs : List (Arg Empty) → List (List Piece)
  | [] => []
  | a :: rest => piecesOfArg a :: piecesOfArgs rest

end

/-! ## Equations -/

private theorem piecesOfTrees_eq (ts : List TypeExpr) : piecesOfTrees ts = ts.map pieces := by
  induction ts with
  | nil => rfl
  | cons t ts ih => rw [piecesOfTrees, ih, List.map_cons]

private theorem piecesOfArgs_eq (as : List (Arg Empty)) : piecesOfArgs as = as.map piecesOfArg := by
  induction as with
  | nil => rfl
  | cons a as ih => rw [piecesOfArgs, ih, List.map_cons]

private theorem piecesOfSegments_eq (ss : List (Segment Empty)) :
    piecesOfSegments ss = ss.map piecesOfSegment := by
  induction ss with
  | nil => rfl
  | cons s ss ih => rw [piecesOfSegments, ih, List.map_cons]

theorem pieces_path (rooted : Bool) (s : Segment Empty) (rest : List (Segment Empty)) :
    (path rooted (s :: rest)).pieces =
      (if rooted then Piece.colons else []) ++
        (piecesOfSegment s ++ rest.flatMap fun u => Piece.colons ++ piecesOfSegment u) := by
  rw [pieces, piecesOfSegments_eq, List.map_cons, Piece.joined, List.flatMap_map]

theorem pieces_tuple (t : TypeExpr) (rest : List TypeExpr) :
    (tuple (t :: rest)).pieces =
      .opening .round :: (t.pieces ++ ((rest.flatMap fun u => Piece.comma ++ u.pieces) ++
        ((if rest = [] then [.mark ','] else []) ++ [.closing .round]))) := by
  rw [pieces, piecesOfTrees_eq, List.map_cons, Piece.joined, List.flatMap_map, List.append_assoc]
  cases rest with
  | nil => rfl
  | cons u rest =>
    rw [if_neg (List.cons_ne_nil u rest), if_neg (by simp)]

theorem pieces_array (elem : TypeExpr) (len : String) :
    (array elem len).pieces =
      .opening .square ::
        (elem.pieces ++ [.mark ';', .blank, .number len, .closing .square]) := by
  rw [pieces]

theorem piecesOfSegment_bare (ident : String) :
    piecesOfSegment (.mk ident []) = [.word ident] := by
  rw [piecesOfSegment]

theorem piecesOfSegment_mk (ident : String) (a : Arg Empty) (rest : List (Arg Empty)) :
    piecesOfSegment (.mk ident (a :: rest)) =
      .word ident :: .mark '<' :: (piecesOfArg a ++
        ((rest.flatMap fun b => Piece.comma ++ piecesOfArg b) ++ [.mark '>'])) := by
  rw [piecesOfSegment, piecesOfArgs_eq, List.map_cons, Piece.joined, List.flatMap_map,
    List.append_assoc]
  simp

theorem piecesOfArg_type (t : TypeExpr) : piecesOfArg (.type t) = t.pieces := by rw [piecesOfArg]

theorem piecesOfArg_binding (name : String) (t : TypeExpr) :
    piecesOfArg (.binding name t) = [.word name, .blank, .mark '=', .blank] ++ t.pieces := by
  rw [piecesOfArg]

/-! ## The text of the pieces -/

theorem chars_separated {α : Type} {sep : List Piece} {f : α → List Piece}
    {g : α → List Char} {items : List α}
    (h : ∀ a ∈ items, (f a).flatMap Piece.chars = g a) :
    (items.flatMap fun a => sep ++ f a).flatMap Piece.chars =
      items.flatMap fun a => sep.flatMap Piece.chars ++ g a := by
  induction items with
  | nil => rfl
  | cons a items ih =>
    rw [List.forall_mem_cons] at h
    rw [List.flatMap_cons, List.flatMap_append, List.flatMap_append, ih h.2, h.1,
      List.flatMap_cons]

theorem chars_piecesOfArg {a : Arg Empty} (h : a.ty.pieces.flatMap Piece.chars = a.ty.chars) :
    (piecesOfArg a).flatMap Piece.chars = a.chars := by
  cases a with
  | type t => exact (piecesOfArg_type t).symm ▸ h
  | binding name t =>
    have ht : t.pieces.flatMap Piece.chars = t.chars := h
    rw [piecesOfArg_binding, List.flatMap_append, ht]
    simp [Piece.chars, Arg.chars]

theorem chars_piecesOfSegment {s : Segment Empty}
    (h : ∀ t ∈ s.types, t.pieces.flatMap Piece.chars = t.chars) :
    (piecesOfSegment s).flatMap Piece.chars = s.chars := by
  cases s with
  | mk ident args =>
    cases args with
    | nil => simp [piecesOfSegment_bare, Piece.chars, Segment.chars, Segment.argChars]
    | cons a rest =>
      have hargs : ∀ b ∈ a :: rest, (piecesOfArg b).flatMap Piece.chars = b.chars :=
        fun b hb => chars_piecesOfArg (h b.ty (List.mem_map_of_mem hb))
      rw [List.forall_mem_cons] at hargs
      simp only [piecesOfSegment_mk, List.flatMap_cons, List.flatMap_append, hargs.1,
        chars_separated hargs.2]
      simp [Piece.chars, Piece.comma, Segment.chars, Segment.argChars]

theorem chars_pieces {t : TypeExpr} (ht : t.Readable) : t.pieces.flatMap Piece.chars = t.chars := by
  induction t using Tree.inductionOn with
  | var v => exact v.elim
  | path rooted segments ih =>
    cases ht with
    | path hne _ htypes =>
      have hsegments : ∀ s ∈ segments, (piecesOfSegment s).flatMap Piece.chars = s.chars :=
        fun s hs => chars_piecesOfSegment fun t ht => ih s hs t ht (htypes s hs t ht)
      obtain ⟨s, rest, rfl⟩ := List.exists_cons_of_ne_nil hne
      rw [List.forall_mem_cons] at hsegments
      rw [pieces_path, chars_path, List.flatMap_append, List.flatMap_append, hsegments.1,
        chars_separated hsegments.2]
      cases rooted <;> rfl
  | tuple elems ih =>
    cases ht with
    | tuple helems =>
      cases elems with
      | nil => rfl
      | cons t rest =>
        have hchars : ∀ u ∈ t :: rest, u.pieces.flatMap Piece.chars = u.chars :=
          fun u hu => ih u hu (helems u hu)
        rw [List.forall_mem_cons] at hchars
        rw [pieces_tuple, chars_tuple, List.flatMap_cons, List.flatMap_append,
          List.flatMap_append, List.flatMap_append, chars_separated hchars.2, hchars.1]
        cases rest <;> simp [Piece.chars, Piece.comma, TypeExpr.Bracket.openChar,
          TypeExpr.Bracket.closeChar]
  | array elem len ih =>
    cases ht with
    | array helem _ =>
      rw [pieces_array, chars_array]
      simp [Piece.chars, TypeExpr.Bracket.openChar, TypeExpr.Bracket.closeChar, ih helem]

end Tree

end Buildwright
