import Buildwright.Proofs.Checked
import Buildwright.Proofs.TypeExpr.Rereading
import Buildwright.Proofs.TypeExpr.Trimming
import Buildwright.TypeExpr.Reader

/-!
# Reading what was written

The text of a type that was read is read as the same type, and so are the texts of generic
parameters and of parameters.
-/

namespace Buildwright

open TypeExpr TypeExpr.Parse
open TypeExpr.Piece (tokens Row)

/-! ## Types -/

namespace TypeExpr

theorem of_readWith {α : Type} {Q : α → Prop} {p : Nested → Parse α} {s : String} {x : α}
    (hp : ∀ within, within.Sound → Yields Q (p within)) (h : readWith p s = .ok x) : Q x := by
  unfold readWith at h
  split at h
  · next hx =>
    cases h
    obtain ⟨ts, hts, hx⟩ := Option.bind_eq_some_iff.1 hx
    exact of_whole? hp (valid_of_tokens? hts) hx
  · cases h

/-- A row of pieces that a production takes up is the text of what it gives. -/
theorem readWith_eq_ok {α : Type} {p : Nested → Parse α} {s : String} {ps : List Piece} {x : α}
    (hps : Row ps) (hs : s.toList = ps.flatMap Piece.chars)
    (h : p (grammar ((tokens ps).length + 1)) (tokens ps) = some (x, [])) :
    readWith p s = .ok x := by
  unfold readWith
  rw [hps.tokens? hs, Option.bind_some, whole?, h]

theorem readable_of_read {s : String} {t : TypeExpr} (h : TypeExpr.read s = .ok t) :
    t.Readable := by
  obtain ⟨parsed, hparsed, h⟩ := bind_eq_ok.1 h
  have hreadable : parsed.Readable :=
    of_readWith (fun within hwithin => Nested.yields_anyType hwithin true) hparsed
  exact hreadable.value t (mapError_eq_ok.1 h)

theorem read_toString {t : TypeExpr} (ht : t.Readable) : TypeExpr.read t.toString = .ok t := by
  have hread : (grammar ((tokens t.pieces).length + 1)).anyType true (tokens t.pieces) =
      some (⟨t.form, .ok t⟩, []) := by
    have hreads := Nested.reads_of_readable ht
      (n := (tokens t.pieces).length + 1 + 1) (by omega) [] .nil
    rwa [List.append_nil] at hreads
  have hwith := readWith_eq_ok (p := fun within => within.anyType true) (Tree.row_pieces ht)
    (Tree.chars_pieces ht).symm hread
  unfold TypeExpr.read
  rw [hwith]
  rfl

end TypeExpr

/-! ## Generic parameters -/

namespace TypeExpr.Nested

variable {within : Nested} {segments : List (Segment Empty)}

def boundEnds : List Char := ['+', '=', ',', '>']

theorem traitBound_path (rooted : Bool) (hne : segments ≠ [])
    (hnames : ∀ s ∈ segments, PathWord s.ident)
    (hsegments : ∀ s ∈ segments, within.ReadsSegment s) {ps : List Piece}
    (hps : Ends boundEnds (tokens ps)) :
    within.traitBound (tokens ((Tree.path rooted segments).pieces ++ ps)) =
      some (.trait true ⟨rooted, segments.map Segment.form⟩, tokens ps) := by
  have hstarts := Starts.path (starts_path rooted hne hnames ps)
  have hpath := path_apply rooted hne hsegments (by decide) (by decide) hps
  have hround : startsRoundArgs (tokens ps) = false := by
    rw [startsRoundArgs, hps.startsOpening, hps.startsMarks (by decide)]
    rfl
  unfold traitBound
  rw [bind_apply (binder_apply hstarts), eat_bind_of_not (hstarts.startsMarks (by decide) _),
    if_neg Bool.false_ne_true]
  beta_reduce
  rw [bind_apply hpath, peek_bind, hround, Bool.and_false]
  rfl

theorem anyBound_path (rooted : Bool) (hne : segments ≠ [])
    (hnames : ∀ s ∈ segments, PathWord s.ident)
    (hsegments : ∀ s ∈ segments, within.ReadsSegment s) {ps : List Piece}
    (hps : Ends boundEnds (tokens ps)) :
    within.anyBound (tokens ((Tree.path rooted segments).pieces ++ ps)) =
      some (.trait true ⟨rooted, segments.map Segment.form⟩, tokens ps) := by
  have hstarts := starts_path rooted hne hnames ps
  have hlifetime := (Starts.path hstarts).startsLifetime
  rw [anyBound, peek_bind, hlifetime, if_neg Bool.false_ne_true, peek_bind,
    hstarts.startsOpening, if_neg Bool.false_ne_true]
  exact traitBound_path rooted hne hnames hsegments hps

def boundForm : TypeExpr → BoundForm
  | .path rooted segments => .trait true ⟨rooted, segments.map Segment.form⟩
  | _ => .lifetime

theorem value_boundForm {t : TypeExpr} (hpath : t.isPath = true) : (boundForm t).value = .ok t := by
  cases t <;> first
    | exact value_pathForm _ _
    | cases hpath

theorem bound_of_readable {t : TypeExpr} (ht : t.Readable) (hpath : t.isPath = true) {n : Nat}
    (hn : (tokens t.pieces).length ≤ n + 1) {ps : List Piece} (hps : Ends boundEnds (tokens ps)) :
    (grammar (n + 1)).bound (tokens (t.pieces ++ ps)) = some (boundForm t, tokens ps) := by
  cases ht with
  | @path rooted segments hne hsegments htypes =>
    have hreads : ∀ s ∈ segments, ∀ t ∈ s.types, (grammar n).Reads t := by
      intro s hs t ht
      have hshorter := length_tokens_lt_of_path rooted hs ht
      exact reads_of_readable (htypes s hs t ht) (by omega)
    exact anyBound_path rooted hne (fun s hs => (hsegments s hs).1)
      (reads_segments hsegments htypes hreads) hps
  | tuple _ => cases hpath
  | array _ _ => cases hpath

def plus : List Piece := [.blank, .mark '+', .blank]

theorem plusItems_apply {α β : Type} {item : Parse β} (stop : List Token → Bool)
    {f : α → List Piece} {g : α → β} {a : α} {rest : List α}
    (hitem : ∀ b ∈ a :: rest, ∀ ps, Ends boundEnds (tokens ps) →
      item (tokens (f b ++ ps)) = some (g b, tokens ps))
    (hstart : ∀ b ∈ a :: rest, ∀ ps, stop (tokens (f b ++ ps)) = false) :
    plusItems item stop (tokens (f a ++ rest.flatMap fun b => plus ++ f b)) =
      some (g a :: rest.map g, []) := by
  have hmany : many (do
      let x ← item
      if ← eat ['+'] then
        return (x, !(← peek stop))
      else
        return (x, false))
      (tokens (f a ++ ((rest.flatMap fun b => plus ++ f b) ++ []))) =
      some (g a :: rest.map g, tokens []) := by
    refine many_separated (fun b hb c hc ps => ?_) (fun b hb => ?_) (by decide)
    · have hx := hitem b hb (plus ++ (f c ++ ps)) (.mark (by decide) _ _)
      have hsep : tokens (plus ++ (f c ++ ps)) = .mark '+' false :: tokens (f c ++ ps) := rfl
      rw [bind_apply hx, hsep, eat_mark_bind, if_pos rfl, peek_bind,
        hstart c (List.mem_cons_of_mem _ hc)]
      rfl
    · rw [bind_apply (hitem b hb [] .nil)]
      rfl
  rw [List.append_nil] at hmany
  rw [plusItems, peek_bind, hstart a List.mem_cons_self, if_neg Bool.false_ne_true]
  exact hmany

end TypeExpr.Nested

namespace TypeParam

open TypeExpr.Nested

def pieces (p : TypeParam) : List Piece :=
  .word p.name ::
    match p.bounds with
    | [] => []
    | b :: rest => [.mark ':', .blank] ++ (b.pieces ++ rest.flatMap fun c => plus ++ c.pieces)

def Readable (p : TypeParam) : Prop :=
  (Lexer.IsWord p.name ∧ isName p.name = true) ∧ ∀ b ∈ p.bounds, b.Readable ∧ b.isPath = true

theorem chars_pieces {p : TypeParam} (hp : p.Readable) :
    p.pieces.flatMap Piece.chars = p.toString.toList := by
  obtain ⟨name, bounds⟩ := p
  cases bounds with
  | nil => simp [pieces, Piece.chars, TypeParam.toString, textOf]
  | cons b rest =>
    have hbounds : ∀ c ∈ b :: rest, c.pieces.flatMap Piece.chars = c.chars :=
      fun c hc => Tree.chars_pieces (hp.2 c hc).1
    rw [List.forall_mem_cons] at hbounds
    have htext : (TypeParam.mk name (b :: rest)).toString =
        name ++ ": " ++ Text.joined " + " (b.toString :: rest.map TypeExpr.toString) := rfl
    rw [htext, String.toList_append, String.toList_append, Text.toList_joined_cons,
      List.flatMap_map]
    simp only [pieces, List.flatMap_cons, List.flatMap_append, hbounds.1,
      Tree.chars_separated hbounds.2]
    simp [Piece.chars, plus, Tree.chars]

theorem row_plus {ps : List Piece} (hps : Row ps) : Piece.Tail (plus ++ ps) :=
  (hps.blank.toRow.mark (c := '+') (by decide)).toRow.blank

theorem row_pieces {p : TypeParam} (hp : p.Readable) : Row p.pieces := by
  obtain ⟨name, bounds⟩ := p
  cases bounds with
  | nil => exact .word hp.1.1 .nil
  | cons b rest =>
    have hbounds : ∀ c ∈ b :: rest, Row c.pieces := fun c hc => Tree.row_pieces (hp.2 c hc).1
    rw [List.forall_mem_cons] at hbounds
    have hrow := hbounds.1.append (Piece.Tail.separated (fun _ => row_plus) hbounds.2)
    exact .word hp.1.1 (hrow.blank.toRow.mark (by decide))

theorem typeParam_apply {p : TypeParam} (hp : p.Readable) {n : Nat}
    (hn : (tokens p.pieces).length ≤ n) :
    (grammar n).typeParam (tokens p.pieces) =
      some ((p.name, false, p.bounds.map boundForm), []) := by
  obtain ⟨name, bounds⟩ := p
  have hattributes (ts : List Token) : (grammar n).attributes (.word name :: ts) =
      some ((), .word name :: ts) := rfl
  have hname : isName name = true := hp.1.2
  cases bounds with
  | nil =>
    have htokens : tokens (TypeParam.mk name []).pieces = [.word name] := rfl
    rw [htokens, typeParam, bind_apply (hattributes _), bind_apply (nameToken_apply hname _)]
    rfl
  | cons b rest =>
    have htokens : tokens (TypeParam.mk name (b :: rest)).pieces = .word name :: .mark ':' false ::
        tokens (b.pieces ++ rest.flatMap fun c => plus ++ c.pieces) := rfl
    rw [htokens, List.length_cons, List.length_cons] at hn
    obtain ⟨m, rfl⟩ : ∃ m, n = m + 1 := ⟨n - 1, by omega⟩
    have hbound : ∀ c ∈ b :: rest, ∀ ps, Ends boundEnds (tokens ps) →
        (grammar (m + 1)).bound (tokens (c.pieces ++ ps)) = some (boundForm c, tokens ps) := by
      intro c hc ps hps
      have hmem := length_tokens_le_of_mem plus Tree.pieces hc []
      rw [List.append_nil] at hmem
      exact bound_of_readable (hp.2 c hc).1 (hp.2 c hc).2 (by omega) hps
    have hstop : ∀ c ∈ b :: rest, ∀ ps, (stopsBounds (tokens (c.pieces ++ ps)) ||
        startsMarks ['='] (tokens (c.pieces ++ ps))) = false := by
      intro c hc ps
      have hstarts := starts_pieces (hp.2 c hc).1 ps
      rw [stopsBounds, hstarts.atEnd, hstarts.startsMarks (by decide),
        hstarts.startsMarks (by decide), hstarts.startsMarks (by decide)]
      rfl
    have hbounds := plusItems_apply (fun ts => stopsBounds ts || startsMarks ['='] ts) hbound
      hstop
    rw [htokens, typeParam, bind_apply (hattributes _), bind_apply (nameToken_apply hname _),
      eat_mark_bind, if_pos rfl, bind_apply hbounds]
    rfl

theorem readable_of_read {s : String} {p : TypeParam} (h : TypeParam.read s = .ok p) :
    p.Readable := by
  obtain ⟨⟨name, hasDefault, bounds⟩, hparam, h⟩ := bind_eq_ok.1 h
  have hreadable : ReadableParam (name, hasDefault, bounds) :=
    of_readWith (fun _ hwithin => yields_typeParam hwithin) hparam
  cases hasDefault with
  | true => cases h
  | false =>
    obtain ⟨types, htypes, h⟩ := bind_eq_ok.1 h
    cases h
    have hvalues : ∀ v ∈ bounds.map BoundForm.value,
        v.Holds fun t => t.Readable ∧ t.isPath = true := List.forall_mem_map.2 hreadable.2
    exact ⟨hreadable.1, (Value.holds_values hvalues types (mapError_eq_ok.1 htypes)).2⟩

theorem read_toString {p : TypeParam} (hp : p.Readable) : TypeParam.read p.toString = .ok p := by
  have hparam := readWith_eq_ok (p := typeParam) (row_pieces hp) (chars_pieces hp).symm
    (typeParam_apply hp (by omega))
  have hvalues : values ((p.bounds.map boundForm).map BoundForm.value) = .ok p.bounds := by
    rw [List.map_map]
    exact values_map_ok fun b hb => value_boundForm (hp.2 b hb).2
  unfold TypeParam.read
  rw [hparam]
  show (do
    let bounds ← supported p.toString (values ((p.bounds.map boundForm).map BoundForm.value))
    return ⟨p.name, bounds⟩ : Except TypeFault TypeParam) = .ok p
  rw [hvalues]
  rfl

end TypeParam

/-! ## Parameters -/

namespace Parameter

theorem of_read {s : String} {p : Parameter} (h : Parameter.read s = .ok p) :
    p.type.Readable ∧ Text.trim p.name = p.name ∧ ∀ c ∈ p.name.toList, (c != ':') = true := by
  unfold Parameter.read at h
  dsimp only at h
  split at h
  · cases h
  · obtain ⟨type, htype, h⟩ := bind_eq_ok.1 h
    obtain rfl := Except.ok.inj h
    refine ⟨readable_of_read htype, Text.trim_eq_self (Text.trimmed_trim _), fun c hc => ?_⟩
    have hmem := Text.mem_of_mem_trim hc
    rw [String.toList_ofList] at hmem
    exact List.mem_takeWhile_imp (p := (· != ':')) hmem

theorem read_toString {p : Parameter} (htype : p.type.Readable) (hname : Text.trim p.name = p.name)
    (hcolon : ∀ c ∈ p.name.toList, (c != ':') = true) : Parameter.read p.toString = .ok p := by
  have htext : p.toString.toList = p.name.toList ++ ':' :: ' ' :: p.type.chars := by
    have hstring : p.toString = p.name ++ ": " ++ p.type.toString := rfl
    rw [hstring, String.toList_append, String.toList_append, List.append_assoc]
    rfl
  have hstops : ∀ c ∈ (':' :: ' ' :: p.type.chars).head?, (c != ':') = false := by simp
  have hsplit := Lexer.takeWhile_append_of_stops hcolon hstops
  have htrim : Text.trim (String.ofList (' ' :: p.type.chars)) = p.type.toString := by
    have htrimmed : Text.trim (String.ofList ([' '] ++ p.type.chars)) =
        String.ofList p.type.chars :=
      Text.trim_append (List.forall_mem_singleton.2 rfl) (Tree.trimmed_chars htype)
    rwa [Tree.chars, String.ofList_toList] at htrimmed
  unfold Parameter.read
  dsimp only
  rw [htext, hsplit.1, hsplit.2]
  dsimp only
  rw [htrim, TypeExpr.read_toString htype, String.ofList_toList, hname]
  rfl

end Parameter

/-! ## All three -/

namespace TypeExpr

/-- What was read from a text is read again from the text that it is written as. -/
theorem text_reads_back (s : String) :
    (∀ t, TypeExpr.read s = .ok t → TypeExpr.read t.toString = .ok t) ∧
      (∀ p, TypeParam.read s = .ok p → TypeParam.read p.toString = .ok p) ∧
      ∀ p, Parameter.read s = .ok p → Parameter.read p.toString = .ok p := by
  refine ⟨fun t h => ?_, fun p h => ?_, fun p h => ?_⟩
  · exact TypeExpr.read_toString (readable_of_read h)
  · exact TypeParam.read_toString (TypeParam.readable_of_read h)
  · obtain ⟨htype, hname, hcolon⟩ := Parameter.of_read h
    exact Parameter.read_toString htype hname hcolon

/-- A tuple of one array of rooted paths with a raw name in their arguments. -/
def rowsType : TypeExpr :=
  .tuple [.array (.path true [.mk "V" [.type (.name "r#fn")]]) "16"]

private theorem read_rowsType : TypeExpr.read "( [::V<r#fn>;0x10u8], )" = .ok rowsType := by
  have htokens : tokens? "( [::V<r#fn>;0x10u8], )" =
      some [.opening .round, .opening .square, .mark ':' true, .mark ':' false, .word "V",
        .mark '<' false, .word "r#fn", .mark '>' true, .mark ';' false,
        .literal (.integer 16 "u8"), .closing .square, .mark ',' false, .closing .round] := by
    decide +kernel
  rw [TypeExpr.read, readWith, htokens]
  cbv

def keyParam : TypeParam :=
  ⟨"K", [.path false [.mk "Iterator" [.binding "Item" (.name "T")]], .path true [.mk "Ord" []]]⟩

private theorem read_keyParam : TypeParam.read "K:Iterator<Item=T>+::Ord+" = .ok keyParam := by
  have htokens : tokens? "K:Iterator<Item=T>+::Ord+" =
      some [.word "K", .mark ':' false, .word "Iterator", .mark '<' false, .word "Item",
        .mark '=' false, .word "T", .mark '>' true, .mark '+' true, .mark ':' true,
        .mark ':' false, .word "Ord", .mark '+' false] := by
    decide +kernel
  rw [TypeParam.read, readWith, htokens]
  cbv

private theorem read_at : Parameter.read " at :::V " = .ok ⟨"at", .path true [.mk "V" []]⟩ := by
  have htext : Text.trim (String.ofList "::V ".toList) = "::V" := by decide
  have hname : Text.trim (String.ofList (" at :::V ".toList.takeWhile (· != ':'))) = "at" := by
    decide
  have hrest : " at :::V ".toList.dropWhile (· != ':') = ':' :: "::V ".toList := by decide
  have htokens : tokens? "::V" = some [.mark ':' true, .mark ':' false, .word "V"] := by
    decide +kernel
  have htype : TypeExpr.read "::V" = .ok (.path true [.mk "V" []]) := by
    rw [TypeExpr.read, readWith, htokens]
    cbv
  unfold Parameter.read
  dsimp only
  rw [hrest]
  dsimp only
  rw [htext, htype, hname]
  rfl

/-- A type, a generic parameter and a parameter, each read from another text than its own. -/
theorem rowsType_keyParam_read_back :
    TypeExpr.read "( [::V<r#fn>;0x10u8], )" = .ok rowsType ∧
      TypeExpr.read "([::V<r#fn>; 16],)" = .ok rowsType ∧
      TypeParam.read "K:Iterator<Item=T>+::Ord+" = .ok keyParam ∧
      TypeParam.read "K: Iterator<Item = T> + ::Ord" = .ok keyParam ∧
      Parameter.read " at :::V " = .ok ⟨"at", .path true [.mk "V" []]⟩ ∧
      Parameter.read "at: ::V" = .ok ⟨"at", .path true [.mk "V" []]⟩ := by
  have hrows : rowsType.toString = "([::V<r#fn>; 16],)" := by decide
  have hkey : keyParam.toString = "K: Iterator<Item = T> + ::Ord" := by decide
  have hat : (⟨"at", .path true [.mk "V" []]⟩ : Parameter).toString = "at: ::V" := by decide
  refine ⟨read_rowsType, ?_, read_keyParam, ?_, read_at, ?_⟩
  · exact hrows ▸ (text_reads_back _).1 rowsType read_rowsType
  · exact hkey ▸ (text_reads_back _).2.1 keyParam read_keyParam
  · exact hat ▸ (text_reads_back _).2.2 _ read_at

end TypeExpr

end Buildwright
