import Buildwright.Proofs.TypeExpr.Running

/-!
# Types are read from their own tokens

The grammar takes the tokens of a type off the front and gives the type, if what follows ends it.
Every name comes back as it was, and so does how its arguments were written.
-/

namespace Buildwright

open TypeExpr TypeExpr.Parse
open TypeExpr.Piece (tokens)

def Segment.form (s : Segment Empty) : SegmentForm :=
  ⟨s.ident, if s.args = [] then .absent else .angled (.ok s.args)⟩

def Tree.form : TypeExpr → Form
  | .path rooted segments => .path (PathForm.lone ⟨rooted, segments.map Segment.form⟩)
  | _ => .other

theorem Segment.value_form (s : Segment Empty) : s.form.value = .ok s := by
  obtain ⟨ident, args⟩ := s
  cases args <;> rfl

namespace TypeExpr

theorem values_map_ok {α : Type} {f : α → Value α} {xs : List α} (h : ∀ x ∈ xs, f x = .ok x) :
    values (xs.map f) = .ok xs := by
  induction xs with
  | nil => rfl
  | cons x xs ih =>
    rw [List.forall_mem_cons] at h
    rw [List.map_cons, values, h.1, ih h.2]
    rfl

theorem value_pathForm (rooted : Bool) (segments : List (Segment Empty)) :
    PathForm.value ⟨rooted, segments.map Segment.form⟩ = .ok (.path rooted segments) := by
  have hvalues : values ((segments.map Segment.form).map SegmentForm.value) = .ok segments := by
    rw [List.map_map]
    exact values_map_ok fun s _ => s.value_form
  rw [PathForm.value, hvalues]
  rfl

namespace Nested

def typeEnds : List Char := [',', '>', ';', '=']

/-- The type is read from its tokens. -/
def Reads (within : Nested) (t : TypeExpr) : Prop :=
  ∀ ps, Ends typeEnds (tokens ps) →
    within.type true (tokens (t.pieces ++ ps)) = some (⟨t.form, .ok t⟩, tokens ps)

/-- The segment is read from its tokens, if no further arguments follow. -/
def ReadsSegment (within : Nested) (s : Segment Empty) : Prop :=
  ∀ ps, startsGenericArgs false (tokens ps) = false →
    within.segment false (tokens (Tree.piecesOfSegment s ++ ps)) = some (s.form, tokens ps)

variable {within : Nested}

/-! ## Segments without arguments -/

theorem keyword_iff {w : String} : (pathKeywords.contains w && w != "Self") = true ↔
    w ∈ bareKeywords := by
  simp [pathKeywords, bareKeywords]
  grind

theorem nameToken_apply {w : String} (hw : isName w = true) (ts : List Token) :
    nameToken (.word w :: ts) = some (w, ts) := by
  unfold nameToken
  rw [bind_apply (x := ()) (r := .word w :: ts) (by simp [require, startsWord, hw])]
  rfl

theorem segment_word {w : String} (hw : PathWord w) (hbare : w ∉ bareKeywords) (ts : List Token) :
    within.segment false (.word w :: ts) =
      (do
        if ← peek (startsGenericArgs false) then
          let _ ← eat [':', ':']
          return ⟨w, .angled (values (← angled within.arg))⟩
        else
          return ⟨w, .absent⟩ : Parse SegmentForm) ts := by
  have hkeyword : startsWord (fun w => pathKeywords.contains w && w != "Self") (.word w :: ts) =
      false := by
    rw [startsWord, Bool.eq_false_iff, ne_eq, keyword_iff]
    exact hbare
  rw [segment, peek_bind, hkeyword, if_neg Bool.false_ne_true, peek_bind]
  by_cases hself : w = "Self"
  · subst hself
    rfl
  · have hname : isName w = true := hw.2.resolve_right fun hmem =>
      hbare (keyword_iff.1 (by simpa [hself] using hmem))
    have hnot : startsWord (· == "Self") (.word w :: ts) = false := by
      simpa [startsWord] using hself
    rw [hnot, if_neg Bool.false_ne_true, bind_apply (nameToken_apply hname ts)]

theorem reads_bareSegment {w : String} (hw : PathWord w) : within.ReadsSegment (.mk w []) := by
  intro ps hps
  rw [Tree.piecesOfSegment_bare, List.singleton_append]
  show within.segment false (.word w :: tokens ps) = _
  by_cases hbare : w ∈ bareKeywords
  · have hkeyword : startsWord (fun w => pathKeywords.contains w && w != "Self")
        (.word w :: tokens ps) = true := keyword_iff.2 hbare
    rw [segment, peek_bind, hkeyword]
    rfl
  · rw [segment_word hw hbare, peek_bind, hps]
    rfl

/-! ## Paths -/

theorem exists_word_of_segment (s : Segment Empty) (ps : List Piece) :
    ∃ ts, tokens (Tree.piecesOfSegment s ++ ps) = .word s.ident :: ts := by
  obtain ⟨ident, args⟩ := s
  cases args with
  | nil =>
    rw [Tree.piecesOfSegment_bare]
    exact ⟨_, rfl⟩
  | cons a rest =>
    rw [Tree.piecesOfSegment_mk]
    exact ⟨_, rfl⟩

variable {segments : List (Segment Empty)}

theorem path_apply (rooted : Bool) (hne : segments ≠ [])
    (hsegments : ∀ s ∈ segments, within.ReadsSegment s) {cs : List Char} (hroot : ':' ∉ cs)
    (hangle : '<' ∉ cs) {ps : List Piece} (hps : Ends cs (tokens ps)) :
    within.path false (tokens ((Tree.path rooted segments).pieces ++ ps)) =
      some (⟨rooted, segments.map Segment.form⟩, tokens ps) := by
  obtain ⟨s, rest, rfl⟩ := List.exists_cons_of_ne_nil hne
  have hmany : many (do
      let s ← within.segment false
      if ← peek fun ts => startsMarks [':', ':'] ts && !startsOpening .round (ts.drop 2) then
        skip 2
        return (s, true)
      else
        return (s, false))
      (tokens (Tree.piecesOfSegment s ++
        ((rest.flatMap fun u => Piece.colons ++ Tree.piecesOfSegment u) ++ ps))) =
      some (s.form :: rest.map Segment.form, tokens ps) := by
    refine many_separated (fun b hb c _ qs => ?_) (fun b hb => ?_) (by decide)
    · obtain ⟨ts, hts⟩ := exists_word_of_segment c qs
      have hnext : tokens (Piece.colons ++ (Tree.piecesOfSegment c ++ qs)) =
          .mark ':' true :: .mark ':' (Piece.startsMark (Tree.piecesOfSegment c ++ qs)) ::
            .word c.ident :: ts := by
        rw [← hts]
        rfl
      have hread := hsegments b hb (Piece.colons ++ (Tree.piecesOfSegment c ++ qs))
        (by rw [hnext]; rfl)
      rw [bind_apply hread, peek_bind, hnext, hts]
      rfl
    · have hread := hsegments b hb ps (by
        simp [startsGenericArgs, hps.startsMarks hroot, hps.startsMarks hangle])
      rw [bind_apply hread, peek_bind, hps.startsMarks hroot]
      rfl
  unfold path
  rw [Tree.pieces_path, List.append_assoc, List.append_assoc]
  cases rooted with
  | true =>
    rw [eat_bind rfl]
    show (many _ >>= fun segments => pure ⟨true, segments⟩ : Parse PathForm) _ = _
    exact bind_apply hmany
  | false =>
    obtain ⟨ts, hts⟩ := exists_word_of_segment s
      ((rest.flatMap fun u => Piece.colons ++ Tree.piecesOfSegment u) ++ ps)
    rw [if_neg Bool.false_ne_true, List.nil_append]
    rw [eat_bind_of_not (by rw [hts]; rfl)]
    exact bind_apply hmany

theorem starts_path (rooted : Bool) (hne : segments ≠ [])
    (hnames : ∀ s ∈ segments, PathWord s.ident) (ps : List Piece) :
    StartsPath (tokens ((Tree.path rooted segments).pieces ++ ps)) := by
  obtain ⟨s, rest, rfl⟩ := List.exists_cons_of_ne_nil hne
  have hident : PathWord s.ident := hnames s List.mem_cons_self
  obtain ⟨ts, hts⟩ := exists_word_of_segment s
    ((rest.flatMap fun u => Piece.colons ++ Tree.piecesOfSegment u) ++ ps)
  rw [Tree.pieces_path, List.append_assoc, List.append_assoc]
  cases rooted with
  | true =>
    show StartsPath (.mark ':' true :: .mark ':' (Piece.startsMark _) :: tokens (_ ++ (_ ++ ps)))
    rw [hts]
    exact .rooted hident
  | false =>
    rw [if_neg Bool.false_ne_true, List.nil_append, hts]
    exact .word hident

theorem starts_pieces {t : TypeExpr} (ht : t.Readable) (ps : List Piece) :
    Starts (tokens (t.pieces ++ ps)) := by
  cases ht with
  | path hne hsegments _ => exact .path (starts_path _ hne (fun s hs => (hsegments s hs).1) ps)
  | @tuple elems _ => cases elems <;> exact .round
  | array _ _ => exact .square

theorem binder_apply {ts : List Token} (h : Starts ts) : within.binder ts = some (false, ts) := by
  unfold binder
  rw [eatWord_bind_of_not (h.startsKeyword (by decide) (by decide))]
  rfl

theorem anyType_of_startsPath {ts : List Token} (h : StartsPath ts) :
    within.anyType true ts = within.pathType true false ts := by
  have hstarts : Starts ts := .path h
  have hfunction : startsWord (fun w => ["fn", "unsafe", "extern"].contains w) ts = false := by
    refine hstarts.startsWord fun w hw => ?_
    have hfn : w ≠ "fn" := hw.ne (by decide) (by decide)
    have hunsafe : w ≠ "unsafe" := hw.ne (by decide) (by decide)
    have hextern : w ≠ "extern" := hw.ne (by decide) (by decide)
    simp [hfn, hunsafe, hextern]
  unfold anyType
  rw [bind_apply (binder_apply hstarts), if_neg Bool.false_ne_true]
  beta_reduce
  rw [peek_bind, h.startsOpening, if_neg Bool.false_ne_true, peek_bind, hfunction,
    if_neg Bool.false_ne_true, peek_bind, h.startsPath, Bool.true_or, if_pos rfl]

theorem anyType_path (rooted : Bool) (hne : segments ≠ [])
    (hnames : ∀ s ∈ segments, PathWord s.ident)
    (hsegments : ∀ s ∈ segments, within.ReadsSegment s) {ps : List Piece}
    (hps : Ends typeEnds (tokens ps)) :
    within.anyType true (tokens ((Tree.path rooted segments).pieces ++ ps)) =
      some (⟨(Tree.path rooted segments).form, .ok (.path rooted segments)⟩, tokens ps) := by
  have hstarts := starts_path rooted hne hnames ps
  have hangle := (Starts.path hstarts).startsMarks (c := '<') (by decide) []
  have hpath := path_apply rooted hne hsegments (by decide) (by decide) hps
  have hplus : startsMarks ['+'] (tokens ps) = false := hps.startsMarks (by decide) _
  rw [anyType_of_startsPath hstarts, pathType, peek_bind, hangle, if_neg Bool.false_ne_true,
    bind_apply hpath, peek_bind, hps.startsMarks (by decide), Bool.false_and, Bool.and_false,
    if_neg Bool.false_ne_true, peek_bind, hplus, value_pathForm]
  rfl

theorem Reads.of_grammar {n : Nat} {t : TypeExpr} (h : (grammar n).Reads t) :
    ∃ m, n = m + 1 := by
  cases n with
  | zero =>
    have hnone : (grammar 0).type true (tokens (t.pieces ++ [])) = none := rfl
    rw [h [] .nil] at hnone
    cases hnone
  | succ m => exact ⟨m, rfl⟩

theorem reads_name {w : String} (hw : PathWord w) (n : Nat) :
    (grammar (n + 1)).Reads (Tree.name w) := fun _ hps =>
  anyType_path false (by simp) (by simpa [Segment.ident] using hw)
    (by simpa using reads_bareSegment hw) hps

/-! ## Arguments -/

def ReadsArg (within : Nested) (a : Arg Empty) : Prop :=
  ∀ ps, Ends [',', '>'] (tokens ps) →
    within.arg (tokens (Tree.piecesOfArg a ++ ps)) = some (.ok a, tokens ps)

theorem arg_of_starts {ts rest : List Token} {p : Parsed} (h : Starts ts)
    (htype : within.type true ts = some (p, rest)) :
    within.arg ts =
      (match p.form with
        | .path (some (name, generic)) => do
          if ← eat ['='] then
            if ← peek startsConst then
              within.constArg
              return .error .otherArg
            else
              let bound ← within.type true
              return if generic then .error .otherArg else bound.value.map (.binding name)
          else if ← eat [':'] then
            let _ ← plusItems within.bound fun ts => startsMarks [','] ts || startsMarks ['>'] ts
            return .error .otherArg
          else
            return p.value.map .type
        | _ => return p.value.map .type : Parse (Value (Arg Empty))) rest := by
  rw [arg, peek_bind, h.startsLifetime, Bool.false_and, if_neg Bool.false_ne_true, peek_bind,
    h.startsConst, if_neg Bool.false_ne_true]
  exact bind_apply htype

theorem reads_typeArg {t : TypeExpr} (ht : t.Readable) (h : within.Reads t) :
    within.ReadsArg (.type t) := by
  intro ps hps
  have hread := h ps (hps.mono (by decide))
  rw [Tree.piecesOfArg_type, arg_of_starts (starts_pieces ht ps) hread]
  -- Only a name could go on with an equality sign or a colon.
  rcases t.form with (_ | ⟨name, generic⟩) | _ | _
  case path.some =>
    dsimp only
    rw [eat_bind_of_not (hps.startsMarks (by decide) _), if_neg Bool.false_ne_true,
      eat_bind_of_not (hps.startsMarks (by decide) _)]
    rfl
  all_goals rfl

theorem reads_bindingArg {name : String} (hname : PathWord name) {t : TypeExpr}
    (ht : t.Readable) (hread : within.Reads (Tree.name name)) (h : within.Reads t) :
    within.ReadsArg (.binding name t) := by
  intro ps hps
  have hfirst : within.type true (.word name :: .mark '=' false :: tokens (t.pieces ++ ps)) =
      some (⟨.path (some (name, false)), .ok (.name name)⟩,
        .mark '=' false :: tokens (t.pieces ++ ps)) :=
    hread (.blank :: .mark '=' :: .blank :: (t.pieces ++ ps)) (.mark (by decide) _ _)
  have hsecond := h ps (hps.mono (by decide))
  have hstarts := starts_pieces ht ps
  have htokens : tokens (Tree.piecesOfArg (.binding name t) ++ ps) =
      .word name :: .mark '=' false :: tokens (t.pieces ++ ps) := by
    rw [Tree.piecesOfArg_binding]
    rfl
  rw [htokens, arg_of_starts (.path (.word hname)) hfirst]
  dsimp only
  rw [eat_mark_bind, if_pos rfl, peek_bind, hstarts.startsConst, if_neg Bool.false_ne_true,
    bind_apply hsecond]
  rfl

theorem angled_apply {α β : Type} {item : Parse β} {f : α → List Piece} {g : α → β} {a : α}
    {rest : List α} (hitem : ∀ b ∈ a :: rest, ∀ ps, Ends [',', '>'] (tokens ps) →
      item (tokens (f b ++ ps)) = some (g b, tokens ps))
    (hstart : ∀ b ∈ a :: rest, ∀ ps, Starts (tokens (f b ++ ps))) (ps : List Piece) :
    angled item (tokens (.mark '<' ::
      (f a ++ ((rest.flatMap fun b => Piece.comma ++ f b) ++ .mark '>' :: ps)))) =
      some (g a :: rest.map g, tokens ps) := by
  have hmany := many_commas stopsAngled (.mark '>' :: ps) hitem
    (fun b hb ps => (hstart b hb ps).startsMarks (by decide) _) (fun _ _ => rfl)
    rfl (.mark (by decide) _ _)
  have hfirst := hstart a List.mem_cons_self
    ((rest.flatMap fun b => Piece.comma ++ f b) ++ .mark '>' :: ps)
  have hstop := hfirst.startsMarks (c := '>') (by decide) []
  unfold angled
  rw [tokens, marks_mark_bind, peek_bind, stopsAngled, hstop, if_neg Bool.false_ne_true,
    bind_apply hmany]
  rfl

theorem starts_arg {a : Arg Empty} (ha : a.Readable) (ps : List Piece) :
    Starts (tokens (Tree.piecesOfArg a ++ ps)) := by
  cases a with
  | type t =>
    rw [Tree.piecesOfArg_type]
    exact starts_pieces ha ps
  | binding name t =>
    rw [Tree.piecesOfArg_binding]
    exact .path (.word ha.1)

theorem startsGenericArgs_of_starts {ts : List Token} (h : Starts ts) (joint : Bool) :
    startsGenericArgs false (.mark '<' joint :: ts) = true := by
  have hequal : startsMarks ['='] ts = false := h.startsMarks (by decide) _
  have hangle : startsMarks ['<', '='] ts = false := h.startsMarks (by decide) _
  cases joint <;> simp [startsGenericArgs, startsMarks, hequal, hangle]

theorem reads_segment {s : Segment Empty} (hs : s.Readable) (hreadable : ∀ a ∈ s.args, a.Readable)
    (hargs : ∀ a ∈ s.args, within.ReadsArg a) : within.ReadsSegment s := by
  obtain ⟨ident, args⟩ := s
  cases args with
  | nil => exact reads_bareSegment hs.1
  | cons a rest =>
    intro ps _
    have hident : PathWord ident := hs.1
    have hbare : ident ∉ bareKeywords := hs.2.1 (by simp [Segment.args])
    have hstart := starts_arg (hreadable a List.mem_cons_self)
      ((rest.flatMap fun b => Piece.comma ++ Tree.piecesOfArg b) ++ .mark '>' :: ps)
    have hangled := angled_apply (g := Except.ok) hargs (fun b hb => starts_arg (hreadable b hb)) ps
    have hvalues : values ((a :: rest).map Except.ok) = .ok (a :: rest) :=
      values_map_ok fun _ _ => rfl
    have htokens : tokens (Tree.piecesOfSegment (.mk ident (a :: rest)) ++ ps) =
        .word ident :: tokens (.mark '<' :: (Tree.piecesOfArg a ++
          ((rest.flatMap fun b => Piece.comma ++ Tree.piecesOfArg b) ++ .mark '>' :: ps))) := by
      rw [Tree.piecesOfSegment_mk]
      simp [tokens]
    rw [htokens, segment_word hident hbare, peek_bind, tokens,
      startsGenericArgs_of_starts hstart, if_pos rfl,
      eat_bind_of_not (startsMarks_eq_false (by simp) _)]
    rw [tokens] at hangled
    rw [bind_apply hangled, ← List.map_cons, hvalues]
    rfl

/-! ## Tuples and arrays -/

theorem anyType_round (ts : List Token) :
    within.anyType true (.opening .round :: ts) =
      within.roundType true (.opening .round :: ts) := by
  unfold anyType
  rw [bind_apply (binder_apply .round)]
  rfl

theorem anyType_square (ts : List Token) :
    within.anyType true (.opening .square :: ts) = within.squareType (.opening .square :: ts) := by
  unfold anyType
  rw [bind_apply (binder_apply .square)]
  rfl

theorem anyType_unit {ps : List Piece} (hps : Ends typeEnds (tokens ps)) :
    within.anyType true (tokens ((Tree.tuple [] : TypeExpr).pieces ++ ps)) =
      some (⟨.other, .ok (.tuple [])⟩, tokens ps) := by
  have htokens : tokens ((Tree.tuple [] : TypeExpr).pieces ++ ps) =
      .opening .round :: .closing .round :: tokens ps := rfl
  have hmark : startsMarks ['?'] ((.opening .round :: .closing .round :: tokens ps).drop 1) =
      false := rfl
  have hplus : startsMarks ['+'] (tokens ps) = false := hps.startsMarks (by decide) _
  rw [htokens, anyType_round, roundType, peek_bind, hmark, if_neg Bool.false_ne_true,
    bind_apply (bracketed_apply (x := ⟨.other, .ok .unit⟩) (r := tokens ps) rfl), peek_bind, hplus]
  rfl

theorem commaItems_apply {α β : Type} {item : Parse β} {f : α → List Piece} {g : α → β} {a : α}
    {rest : List α} (hitem : ∀ b ∈ a :: rest, ∀ ps, Ends [',', '>'] (tokens ps) →
      item (tokens (f b ++ ps)) = some (g b, tokens ps))
    (hstart : ∀ b ∈ a :: rest, ∀ ps, Starts (tokens (f b ++ ps))) (b : Bracket) (ps : List Piece) :
    commaItems item (tokens (f a ++ ((rest.flatMap fun b => Piece.comma ++ f b) ++
      .closing b :: ps))) = some (g a :: rest.map g, .closing b :: tokens ps) := by
  have hmany := many_commas atEnd (.closing b :: ps) hitem
    (fun b hb ps => (hstart b hb ps).atEnd) (fun _ _ => rfl) rfl (.closing _ _)
  rw [commaItems, peek_bind, (hstart a List.mem_cons_self _).atEnd, if_neg Bool.false_ne_true]
  exact hmany

theorem anyType_tuple {t : TypeExpr} {rest : List TypeExpr}
    (hreadable : ∀ u ∈ t :: rest, u.Readable) (h : ∀ u ∈ t :: rest, within.Reads u)
    {ps : List Piece} (hps : Ends typeEnds (tokens ps)) :
    within.anyType true (tokens ((Tree.tuple (t :: rest)).pieces ++ ps)) =
      some (⟨.other, .ok (.tuple (t :: rest))⟩, tokens ps) := by
  have hplus : startsMarks ['+'] (tokens ps) = false := hps.startsMarks (by decide) _
  let others : List Piece := (rest.flatMap fun u => Piece.comma ++ u.pieces) ++
    ((if rest = [] then [.mark ','] else []) ++ .closing .round :: ps)
  have hstarts : Starts (tokens (t.pieces ++ others)) :=
    starts_pieces (hreadable t List.mem_cons_self) others
  have hothers : ∃ ts, tokens others = .mark ',' false :: ts ∧
      commaItems (within.type true) ts =
        some (rest.map fun u => ⟨u.form, .ok u⟩, .closing .round :: tokens ps) := by
    cases rest with
    | nil => exact ⟨_, rfl, rfl⟩
    | cons u rest =>
      rw [List.forall_mem_cons] at hreadable h
      refine ⟨tokens (u.pieces ++ ((rest.flatMap fun u => Piece.comma ++ u.pieces) ++
        .closing .round :: ps)), by simp [others, Piece.comma, tokens, Piece.startsMark], ?_⟩
      have hitem : ∀ v ∈ u :: rest, ∀ qs, Ends [',', '>'] (tokens qs) →
          within.type true (tokens (v.pieces ++ qs)) = some (⟨v.form, .ok v⟩, tokens qs) :=
        fun v hv qs hqs => h.2 v hv qs (hqs.mono (by decide))
      exact commaItems_apply hitem (fun v hv => starts_pieces (hreadable.2 v hv)) .round ps
  have hvalues : values ((t :: rest).map Except.ok) = .ok (t :: rest) :=
    values_map_ok fun _ _ => rfl
  obtain ⟨ts, hcomma, hitems⟩ := hothers
  have hfirst := h t List.mem_cons_self others (hcomma ▸ .mark (by decide) _ _)
  have htokens : tokens ((Tree.tuple (t :: rest)).pieces ++ ps) =
      .opening .round :: tokens (t.pieces ++ others) := by
    rw [Tree.pieces_tuple]
    simp [tokens, others]
  have hmark : startsMarks ['?'] ((.opening .round :: tokens (t.pieces ++ others)).drop 1) =
      false := hstarts.startsMarks (by decide) _
  rw [htokens, anyType_round, roundType, peek_bind, hmark, if_neg Bool.false_ne_true,
    bind_apply (bracketed_apply (x := ⟨.other, .ok (.tuple (t :: rest))⟩) (r := tokens ps) ?_),
    peek_bind, hplus]
  · rfl
  · rw [peek_bind, hstarts.atEnd, if_neg Bool.false_ne_true, peek_bind, hstarts.startsLifetime,
      if_neg Bool.false_ne_true, bind_apply hfirst, hcomma, eat_mark_bind, if_pos rfl,
      bind_apply hitems]
    simp only [List.map_cons, List.map_map, Function.comp_def] at hvalues ⊢
    rw [hvalues]
    rfl

theorem anyExpr_number (n : Nat) (b : Bracket) (ts : List Token) :
    within.anyExpr (.literal (.integer n "") :: .closing b :: ts) =
      some (some n, .closing b :: ts) := by
  have hatom : within.atom (.literal (.integer n "") :: .closing b :: ts) =
      some (some n, .closing b :: ts) := rfl
  have htrailers : many (do
      let more ← within.trailer
      return (more, more)) (.closing b :: ts) = some ([false], .closing b :: ts) := rfl
  have hprefix : afterPrefixOps (.literal (.integer n "") :: .closing b :: ts) =
      .literal (.integer n "") :: .closing b :: ts := rfl
  have hoperand : within.operand (.literal (.integer n "") :: .closing b :: ts) =
      some (some n, .closing b :: ts) := by
    unfold operand
    rw [bind_apply (x := .literal (.integer n "") :: .closing b :: ts) rfl, bind_apply rfl,
      bind_apply rfl, hprefix, bind_apply hatom, bind_apply htrailers]
    simp [pure_apply]
  have hoperator : operator? (.closing b :: ts) = some (none, .closing b :: ts) := rfl
  have hoperations : within.operationsWithin (ts.length + 1 + 1) false (.closing b :: ts) =
      some (false, .closing b :: ts) := by
    rw [operationsWithin, bind_apply hoperator]
    rfl
  rw [anyExpr, bind_apply hoperand]
  exact bind_apply (p := fun ts => within.operationsWithin (ts.length + 1) false ts) hoperations

theorem value_toString (n : Nat) : Piece.value (toString n) = n := by
  have hdigits : ∀ c ∈ Nat.toDigits 10 n, Lexer.digitValue c = c.toNat - '0'.toNat := by
    intro c hc
    have hc : c.isDigit = true := Nat.isDigit_of_mem_toDigits (by omega) (by omega) hc
    rw [Lexer.digitValue, if_pos hc]
    rfl
  calc Piece.value (toString n)
      = (Nat.toDigits 10 n).foldl (fun n c => 10 * n + Lexer.digitValue c) 0 := by
        rw [Piece.value, Nat.toString_eq_ofList_toDigits, String.toList_ofList]
    _ = (Nat.toDigits 10 n).foldl (fun n c => 10 * n + (c.toNat - '0'.toNat)) 0 :=
        List.foldl_ext _ _ _ fun m c hc => by rw [hdigits c hc]
    _ = n := by rw [← Nat.ofDigitChars_eq_foldl, Nat.ofDigitChars_toDigits (by omega) (by omega)]

theorem anyType_array {elem : TypeExpr} (h : within.Reads elem)
    (hexpr : ∀ n b ts, within.expr (.literal (.integer n "") :: .closing b :: ts) =
      some (some n, .closing b :: ts)) (n : Nat) (ps : List Piece) :
    within.anyType true (tokens ((Tree.array elem (toString n)).pieces ++ ps)) =
      some (⟨.other, .ok (.array elem (toString n))⟩, tokens ps) := by
  let length : List Piece := [.mark ';', .blank, .number (toString n), .closing .square] ++ ps
  have hlength : tokens length =
      .mark ';' false :: .literal (.integer n "") :: .closing .square :: tokens ps := by
    have hvalue : tokens length = .mark ';' false ::
      .literal (.integer (Piece.value (toString n)) "") :: .closing .square :: tokens ps := rfl
    rw [hvalue, value_toString]
  have hfirst := h length (hlength ▸ .mark (by decide) _ _)
  have htokens : tokens ((Tree.array elem (toString n)).pieces ++ ps) =
      .opening .square :: tokens (elem.pieces ++ length) := by
    rw [Tree.pieces_array, List.cons_append, List.append_assoc]
    rfl
  rw [htokens, anyType_square, squareType]
  refine bracketed_apply ?_
  rw [bind_apply hfirst, hlength, eat_mark_bind, if_pos rfl, bind_apply (hexpr _ _ _)]
  rfl

/-! ## All types -/

theorem length_tokens_le_of_mem {α : Type} (sep : List Piece) (f : α → List Piece) {a b : α}
    {rest : List α} (hb : b ∈ a :: rest) (last : List Piece) :
    (tokens (f b)).length ≤
      (tokens (f a ++ ((rest.flatMap fun b => sep ++ f b) ++ last))).length := by
  rw [length_tokens_append, length_tokens_append]
  rcases List.mem_cons.1 hb with rfl | hb
  · omega
  · obtain ⟨before, after, rfl⟩ := List.append_of_mem hb
    rw [List.flatMap_append, List.flatMap_cons, length_tokens_append, length_tokens_append,
      length_tokens_append]
    omega

theorem length_tokens_arg_le (a : Arg Empty) :
    (tokens a.ty.pieces).length ≤ (tokens (Tree.piecesOfArg a)).length := by
  cases a with
  | type t =>
    rw [Tree.piecesOfArg_type]
    exact le_rfl
  | binding name t =>
    rw [Tree.piecesOfArg_binding, length_tokens_append]
    exact Nat.le_add_left _ _

theorem length_tokens_lt_of_mem_types {s : Segment Empty} {t : TypeExpr} (ht : t ∈ s.types) :
    (tokens t.pieces).length < (tokens (Tree.piecesOfSegment s)).length := by
  obtain ⟨ident, args⟩ := s
  obtain ⟨a, ha, rfl⟩ := List.mem_map.1 ht
  cases args with
  | nil => cases ha
  | cons b rest =>
    have harg := length_tokens_arg_le a
    have hmem := length_tokens_le_of_mem Piece.comma Tree.piecesOfArg ha [.mark '>']
    rw [Tree.piecesOfSegment_mk, tokens, tokens, List.length_cons, List.length_cons]
    omega

theorem length_tokens_lt_of_path (rooted : Bool) {s : Segment Empty} (hs : s ∈ segments)
    {t : TypeExpr} (ht : t ∈ s.types) :
    (tokens t.pieces).length < (tokens (Tree.path rooted segments).pieces).length := by
  obtain ⟨first, rest, rfl⟩ := List.exists_cons_of_ne_nil (List.ne_nil_of_mem hs)
  have hsegment := length_tokens_lt_of_mem_types ht
  have hmem := length_tokens_le_of_mem Piece.colons Tree.piecesOfSegment hs []
  rw [List.append_nil] at hmem
  rw [Tree.pieces_path, length_tokens_append]
  omega

theorem length_tokens_pos {t : TypeExpr} (ht : t.Readable) : 0 < (tokens t.pieces).length := by
  have hstarts := starts_pieces ht []
  rw [List.append_nil] at hstarts
  refine List.length_pos_iff.2 fun hnil => ?_
  rw [hnil] at hstarts
  rcases hstarts with ⟨⟨⟩⟩

theorem reads_segments {m : Nat} (hsegments : ∀ s ∈ segments, s.Readable)
    (hreadable : ∀ s ∈ segments, ∀ t ∈ s.types, t.Readable)
    (hreads : ∀ s ∈ segments, ∀ t ∈ s.types, (grammar m).Reads t) :
    ∀ s ∈ segments, (grammar m).ReadsSegment s := by
  intro s hs
  have hnames := (hsegments s hs).2.2
  have htypes : ∀ a ∈ s.args, a.ty.Readable ∧ (grammar m).Reads a.ty := fun a ha =>
    have hmem : a.ty ∈ s.types := List.mem_map_of_mem ha
    ⟨hreadable s hs _ hmem, hreads s hs _ hmem⟩
  refine reads_segment (hsegments s hs) (fun a ha => ?_) fun a ha => ?_
  · cases a with
    | type t => exact (htypes _ ha).1
    | binding name t => exact ⟨hnames name t ha, (htypes _ ha).1⟩
  · obtain ⟨ht, hread⟩ := htypes a ha
    cases a with
    | type t => exact reads_typeArg ht hread
    | binding name t =>
      obtain ⟨k, rfl⟩ := hread.of_grammar
      have hname : PathWord name := hnames name t ha
      exact reads_bindingArg hname ht (reads_name hname k) hread

theorem reads_of_readable {t : TypeExpr} (ht : t.Readable) {n : Nat}
    (hn : (tokens t.pieces).length ≤ n) : (grammar n).Reads t := by
  have hpos := length_tokens_pos ht
  induction t using Tree.inductionOn generalizing n with
  | var v => exact v.elim
  | path rooted segments ih =>
    obtain ⟨m, rfl⟩ : ∃ m, n = m + 1 := ⟨n - 1, by omega⟩
    cases ht with
    | path hne hsegments htypes =>
      have hreads : ∀ s ∈ segments, ∀ t ∈ s.types, (grammar m).Reads t := by
        intro s hs t ht
        have hshorter := length_tokens_lt_of_path rooted hs ht
        exact ih s hs t ht (htypes s hs t ht) (by omega) (length_tokens_pos (htypes s hs t ht))
      intro ps hps
      exact anyType_path rooted hne (fun s hs => (hsegments s hs).1)
        (reads_segments hsegments htypes hreads) hps
  | tuple elems ih =>
    obtain ⟨m, rfl⟩ : ∃ m, n = m + 1 := ⟨n - 1, by omega⟩
    cases ht with
    | tuple helems =>
      intro ps hps
      cases elems with
      | nil => exact anyType_unit hps
      | cons t rest =>
        refine anyType_tuple helems (fun u hu => ?_) hps
        have hmem := length_tokens_le_of_mem Piece.comma Tree.pieces hu
          ((if rest = [] then [.mark ','] else []) ++ [.closing .round])
        rw [Tree.pieces_tuple, tokens, List.length_cons] at hn
        exact ih u hu (helems u hu) (by omega) (length_tokens_pos (helems u hu))
  | array elem len ih =>
    obtain ⟨m, rfl⟩ : ∃ m, n = m + 1 := ⟨n - 1, by omega⟩
    cases ht with
    | array helem hlen =>
      obtain ⟨k, rfl⟩ := hlen
      intro ps _
      rw [Tree.pieces_array, tokens, List.length_cons, length_tokens_append] at hn
      have hread : (grammar m).Reads elem := ih helem (by omega) (length_tokens_pos helem)
      obtain ⟨l, rfl⟩ := hread.of_grammar
      exact anyType_array hread anyExpr_number k ps

end Nested

end TypeExpr

end Buildwright
