import Buildwright.Proofs.Tree.Text
import Buildwright.Proofs.TypeExpr.Yields

/-!
# What the grammar accepts

The trees that the grammar yields have names that are words of the text they were read from. Every
production takes tokens off the front, and those with a value give well-formed ones.
-/

namespace Buildwright

open TypeExpr

namespace TypeExpr

def PathWord (w : String) : Prop := Lexer.IsWord w ∧ (isName w = true ∨ w ∈ pathKeywords)

/-- The words of paths that take no arguments. -/
def bareKeywords : List String := ["super", "self", "crate"]

end TypeExpr

def Segment.Readable (s : Segment Empty) : Prop :=
  PathWord s.ident ∧ (s.args ≠ [] → s.ident ∉ bareKeywords) ∧
    ∀ name t, .binding name t ∈ s.args → PathWord name

abbrev Tree.Readable : TypeExpr → Prop :=
  Tree.Formed Segment.Readable fun len => ∃ n : Nat, len = toString n

def Arg.Readable : Arg Empty → Prop
  | .type t => t.Readable
  | .binding name t => PathWord name ∧ t.Readable

namespace TypeExpr

/-! ## Values -/

theorem mem_of_values {vs : List (Value α)} {xs : List α} (h : values vs = .ok xs) :
    (vs ≠ [] → xs ≠ []) ∧ ∀ x ∈ xs, .ok x ∈ vs := by
  induction vs generalizing xs with
  | nil =>
    cases h
    simp
  | cons v rest ih =>
    cases v with
    | error e => cases h
    | ok x =>
      cases hrest : values rest with
      | error e =>
        rw [values, hrest] at h
        cases h
      | ok ys =>
        rw [values, hrest] at h
        cases h
        obtain ⟨-, hmem⟩ := ih hrest
        refine ⟨by simp, ?_⟩
        simpa using fun y hy => .inr (hmem y hy)

/-- What holds of a value, if it is in the supported part of the grammar. -/
def Value.Holds (Q : α → Prop) (v : Value α) : Prop := ∀ x, v = .ok x → Q x

theorem Value.Holds.error {Q : α → Prop} {c : Construct} : Value.Holds Q (.error c) := by
  rintro x ⟨⟩

theorem Value.Holds.map {Q : α → Prop} {R : β → Prop} {f : α → β} {v : Value α}
    (hv : v.Holds Q) (hf : ∀ x, Q x → R (f x)) : Value.Holds R (v.map f) := by
  rintro y hy
  cases v with
  | error c => cases hy
  | ok x =>
    cases hy
    exact hf x (hv x rfl)

theorem Value.holds_values {Q : α → Prop} {vs : List (Value α)} (h : ∀ v ∈ vs, v.Holds Q) :
    Value.Holds (fun xs => (vs ≠ [] → xs ≠ []) ∧ ∀ x ∈ xs, Q x) (values vs) := by
  intro xs hxs
  obtain ⟨hne, hmem⟩ := mem_of_values hxs
  exact ⟨hne, fun x hx => h _ (hmem x hx) x rfl⟩

/-- The segment's names can be read again, and so can its arguments if they are supported. -/
structure SegmentForm.Readable (s : SegmentForm) : Prop where
  ident : PathWord s.ident
  bare : ∀ args, s.args = .angled args → s.ident ∉ bareKeywords
  args : ∀ args, s.args = .angled args → args.Holds fun as => ∀ a ∈ as, a.Readable

structure PathForm.Readable (p : PathForm) : Prop where
  ne_nil : p.segments ≠ []
  segments : ∀ s ∈ p.segments, s.Readable

structure Parsed.Readable (p : Parsed) : Prop where
  value : p.value.Holds Tree.Readable
  name : ∀ name, p.form = .path (some (name, false)) → PathWord name

def BoundForm.Readable (b : BoundForm) : Prop :=
  b.value.Holds fun t => t.Readable ∧ t.isPath = true

theorem SegmentForm.Readable.value {s : SegmentForm} (hs : s.Readable) :
    s.value.Holds fun seg => seg.Readable ∧ ∀ t ∈ seg.types, t.Readable := by
  intro seg hseg
  unfold SegmentForm.value at hseg
  split at hseg
  · cases hseg
    exact ⟨⟨hs.ident, by simp, by simp⟩, by simp [Segment.types]⟩
  · next args hargs =>
    have hall : Value.Holds (fun seg => seg.Readable ∧ ∀ t ∈ seg.types, t.Readable)
        (args.map (Segment.mk s.ident)) := by
      refine (hs.args args hargs).map fun as has => ?_
      refine ⟨⟨hs.ident, fun _ => hs.bare args hargs, fun name t ht => (has _ ht).1⟩, ?_⟩
      simp only [Segment.types, Segment.args_mk, List.forall_mem_map]
      intro a ha
      have hread := has a ha
      cases a with
      | type t => exact hread
      | binding name t => exact hread.2
    exact hall seg hseg
  · cases hseg

theorem PathForm.Readable.value {p : PathForm} (hp : p.Readable) :
    p.value.Holds fun t => t.Readable ∧ t.isPath = true := by
  have hsegments : ∀ v ∈ p.segments.map SegmentForm.value,
      v.Holds fun seg => seg.Readable ∧ ∀ t ∈ seg.types, t.Readable := by
    simpa using fun s hs => (hp.segments s hs).value
  refine (Value.holds_values hsegments).map fun segs hsegs => ⟨?_, rfl⟩
  exact .path (hsegs.1 (by simpa using hp.ne_nil)) (fun s hs => (hsegs.2 s hs).1)
    fun s hs => (hsegs.2 s hs).2

theorem PathForm.Readable.lone {p : PathForm} (hp : p.Readable) {name : String} {generic : Bool}
    (h : p.lone = some (name, generic)) : PathWord name := by
  unfold PathForm.lone at h
  split at h
  · next s =>
    cases h
    exact (hp.segments s List.mem_cons_self).ident
  · cases h

theorem PathForm.Readable.withRoundArgs {p : PathForm} (hp : p.Readable) :
    p.withRoundArgs.Readable := by
  obtain ⟨rooted, segments⟩ := p
  obtain ⟨s, hs⟩ : ∃ s, segments.getLast? = some s := ⟨_, List.getLast?_eq_some_getLast hp.ne_nil⟩
  have hlast : s.Readable := hp.segments s (List.mem_of_getLast? hs)
  refine ⟨by simp [PathForm.withRoundArgs, hs], fun u hu => ?_⟩
  simp only [PathForm.withRoundArgs, hs, Option.map_some, Option.toList_some, List.mem_append,
    List.mem_singleton] at hu
  rcases hu with hu | rfl
  · exact hp.segments u (List.dropLast_subset _ hu)
  · exact ⟨hlast.ident, by simp, by simp⟩

theorem Parsed.Readable.error {form : Form} {c : Construct}
    (h : ∀ lone, form ≠ .path lone) : Parsed.Readable ⟨form, .error c⟩ :=
  ⟨.error, fun _ hname => absurd hname (h _)⟩

/-! ## Lists -/

namespace Parse

theorem yields_nameToken : Yields (fun w => Lexer.IsWord w ∧ isName w = true) nameToken := by
  intro ts w rest hts h
  unfold nameToken at h
  obtain ⟨⟨_, ts'⟩, hrequire, h⟩ := Option.bind_eq_some_iff.1 h
  unfold require at hrequire
  split at hrequire
  · next hname =>
    cases hrequire
    obtain ⟨hword, hrest⟩ := yields_anyWord ts w rest hts h
    cases ts with
    | nil => cases h
    | cons t ts =>
      cases t <;> cases h
      exact ⟨⟨hword, hname⟩, hrest⟩
  · cases hrequire

theorem not_mem_bareKeywords {w : String} (hw : isName w = true) : w ∉ bareKeywords := by
  have hbare : ∀ k ∈ bareKeywords, isName k = false := by decide
  intro hmem
  rw [hbare w hmem] at hw
  cases hw

theorem yields_peekWord {f : String → Bool} {g : String → Parse β} {q : Parse β} {Q : β → Prop}
    (hg : ∀ w, Lexer.IsWord w → f w = true → Yields Q (g w)) (hq : Yields Q q) :
    Yields Q (peek (startsWord f) >>= fun b => if b = true then anyWord >>= g else q) := by
  intro ts y rest hts h
  change (if startsWord f ts = true then anyWord >>= g else q) ts = some (y, rest) at h
  split at h
  · next hf =>
    obtain ⟨⟨w, ts'⟩, hw, h⟩ := Option.bind_eq_some_iff.1 h
    obtain ⟨hword, hts'⟩ := yields_anyWord ts w ts' hts hw
    cases ts with
    | nil => cases hw
    | cons t ts =>
      cases t <;> cases hw
      exact hg _ hword hf ts' y rest hts' h
  · exact hq ts y rest hts h

theorem yields_commaItems {Q : α → Prop} {item : Parse α} (hitem : Yields Q item) :
    Yields (fun xs => ∀ x ∈ xs, Q x) (commaItems item) := by
  refine (keeps_peek _).then_ fun _ => .ite (.pure (by simp)) ?_
  refine (yields_many (Q := Q) ?_).mono fun _ h => h.2
  exact hitem.bind fun x hx => (keeps_peek _).then_ fun _ => .ite (.pure hx)
    ((keeps_marks _).then_ fun _ => (keeps_peek _).then_ fun _ => .pure hx)

theorem yields_plusItems {Q : α → Prop} {item : Parse α} (hitem : Yields Q item)
    (stop : List Token → Bool) : Yields (fun xs => ∀ x ∈ xs, Q x) (plusItems item stop) := by
  refine (keeps_peek _).then_ fun _ => .ite (.pure (by simp)) ?_
  refine (yields_many (Q := Q) ?_).mono fun _ h => h.2
  exact hitem.bind fun x hx => (keeps_eat _).then_ fun _ =>
    .ite ((keeps_peek _).then_ fun _ => .pure hx) (.pure hx)

theorem yields_angled {Q : α → Prop} {item : Parse α} (hitem : Yields Q item) :
    Yields (fun xs => ∀ x ∈ xs, Q x) (Nested.angled item) := by
  refine (keeps_marks _).then_ fun _ => (keeps_peek _).then_ fun _ => .ite ?_ ?_
  · exact (keeps_marks _).then_ fun _ => .pure (by simp)
  · refine (yields_many (Q := Q) ?_).bind fun xs hxs => (keeps_marks _).then_ fun _ => .pure hxs.2
    exact hitem.bind fun x hx => (keeps_peek _).then_ fun _ => .ite (.pure hx)
      ((keeps_marks _).then_ fun _ => (keeps_peek _).then_ fun _ => .pure hx)

end Parse

/-! ## Productions -/

open Parse

/-- The readers for what is nested give well-formed results. -/
structure Nested.Sound (within : Nested) : Prop where
  type : ∀ plus, Yields Parsed.Readable (within.type plus)
  expr : Keeps within.expr
  bound : Yields BoundForm.Readable within.bound

namespace Nested

variable {within : Nested} (h : within.Sound)

include h

theorem keeps_constArg : Keeps within.constArg :=
  (keeps_peek _).then_ fun _ => .ite ((keeps_eat _).then_ fun _ => keeps_skip 1) <|
    (keeps_peek _).then_ fun _ => .ite (keeps_skip 1) <|
      (yields_bracketed _ h.expr).then_ fun _ => .pure trivial

theorem keeps_returnType : Keeps within.returnType :=
  (keeps_eat _).then_ fun _ =>
    .ite ((h.type _).keeps.then_ fun _ => .pure trivial) (.pure trivial)

theorem keeps_roundArgs : Keeps within.roundArgs :=
  (yields_bracketed _ (yields_commaItems (h.type true))).keeps.then_ fun _ => keeps_returnType h

theorem yields_arg : Yields (Value.Holds Arg.Readable) within.arg := by
  refine (keeps_peek _).then_ fun _ => .ite (keeps_lifetime.then_ fun _ => .pure .error) ?_
  refine (keeps_peek _).then_ fun _ => .ite ((keeps_constArg h).then_ fun _ => .pure .error) ?_
  refine (h.type true).bind fun t ht => ?_
  have htype : Value.Holds Arg.Readable (t.value.map .type) := ht.value.map fun _ hx => hx
  split
  · next name generic hform =>
    refine (keeps_eat _).then_ fun _ => .ite ?_ <|
      (keeps_eat _).then_ fun _ => .ite ?_ (.pure htype)
    · refine (keeps_peek _).then_ fun _ =>
        .ite ((keeps_constArg h).then_ fun _ => .pure .error) ?_
      refine (h.type true).bind fun bound hbound => .pure ?_
      cases generic with
      | true => exact .error
      | false => exact hbound.value.map fun _ hx => ⟨ht.name name hform, hx⟩
    · exact (yields_plusItems h.bound _).keeps.then_ fun _ => .pure .error
  · exact .pure htype

theorem yields_segmentArgs (inExpr : Bool) {ident : String} (hident : PathWord ident)
    (hbare : ident ∉ bareKeywords) :
    Yields SegmentForm.Readable (do
      if ← peek (startsGenericArgs inExpr) then
        let _ ← eat [':', ':']
        return ⟨ident, .angled (values (← angled within.arg))⟩
      else
        return ⟨ident, .absent⟩) := by
  refine (keeps_peek _).then_ fun _ => .ite ?_ (.pure ⟨hident, by simp, by simp⟩)
  refine (keeps_eat _).then_ fun _ => (yields_angled (yields_arg h)).bind fun args hargs => .pure ?_
  refine ⟨hident, fun _ _ => hbare, ?_⟩
  rintro _ ⟨⟩
  exact fun as has => (Value.holds_values hargs as has).2

theorem yields_segment (inExpr : Bool) : Yields SegmentForm.Readable (within.segment inExpr) := by
  refine yields_peekWord (fun w hw hkeyword => .pure ?_) <|
    yields_peekWord (fun w hw hself => yields_segmentArgs h inExpr ⟨hw, ?_⟩ ?_) <|
    yields_nameToken.bind fun w hw => yields_segmentArgs h inExpr ⟨hw.1, .inl hw.2⟩ ?_
  · rw [Bool.and_eq_true, List.contains_iff_mem] at hkeyword
    exact ⟨⟨hw, .inr hkeyword.1⟩, by simp, by simp⟩
  · rw [beq_iff_eq] at hself
    exact .inr (hself ▸ by decide)
  · rw [beq_iff_eq] at hself
    exact hself ▸ by decide
  · exact not_mem_bareKeywords hw.2

theorem yields_path (inExpr : Bool) : Yields PathForm.Readable (within.path inExpr) := by
  refine (keeps_eat _).then_ fun rooted => ?_
  refine (yields_many (Q := SegmentForm.Readable) ?_).bind fun ss hss => .pure ⟨hss.1, hss.2⟩
  exact (yields_segment h inExpr).bind fun s hs => (keeps_peek _).then_ fun _ =>
    .ite ((keeps_skip 2).then_ fun _ => .pure hs) (.pure hs)

theorem keeps_qualifiedPath (inExpr : Bool) : Keeps (within.qualifiedPath inExpr) := by
  have hsegments : Keeps (do
      marks ['>']
      marks [':', ':']
      let _ ← many do
        let _ ← within.segment inExpr
        return ((), ← eat [':', ':'])) :=
    (keeps_marks _).then_ fun _ => (keeps_marks _).then_ fun _ =>
      (keeps_many ((yields_segment h inExpr).keeps.then_ fun _ =>
        (keeps_eat _).then_ fun _ => .pure trivial)).then_ fun _ => .pure trivial
  exact (keeps_marks _).then_ fun _ => (h.type true).keeps.then_ fun _ =>
    (keeps_eatWord _).then_ fun _ =>
      .ite ((yields_path h false).keeps.then_ fun _ => hsegments) hsegments

/-! ### Attributes -/

omit h in
theorem keeps_attributePath : Keeps attributePath := by
  refine (keeps_eatWord _).then_ fun _ => .ite ?_ (.pure trivial)
  refine (keeps_eat _).then_ fun _ => (keeps_many ?_).then_ fun _ => .pure trivial
  exact (keeps_require _).then_ fun _ => (keeps_skip 1).then_ fun _ =>
    (keeps_eat _).then_ fun _ => .pure trivial

theorem keeps_attributeBody : Keeps within.attributeBody :=
  keeps_attributePath.then_ fun _ => (keeps_peek _).then_ fun _ => .ite keeps_anyBrackets <|
    (keeps_eat _).then_ fun _ => .ite (h.expr.then_ fun _ => .pure trivial) (.pure trivial)

theorem keeps_attributes : Keeps within.attributes := by
  refine (keeps_peek _).then_ fun _ => .ite ((keeps_many ?_).then_ fun _ => .pure trivial)
    (.pure trivial)
  exact (keeps_marks _).then_ fun _ => (yields_bracketed _ (keeps_attributeBody h)).then_ fun _ =>
    (keeps_peek _).then_ fun _ => .pure trivial

/-! ### Bounds and generic parameters -/

def ReadableParam (p : String × Bool × List BoundForm) : Prop :=
  (Lexer.IsWord p.1 ∧ isName p.1 = true) ∧ ∀ b ∈ p.2.2, b.Readable

theorem yields_typeParam : Yields ReadableParam within.typeParam := by
  refine (keeps_attributes h).then_ fun _ => yields_nameToken.bind fun name hname => ?_
  have hrest {bounds : List BoundForm} (hbounds : ∀ b ∈ bounds, b.Readable) :
      Yields ReadableParam (do
        if ← eat ['='] then
          let _ ← within.type true
          return (name, true, bounds)
        else
          return (name, false, bounds)) :=
    (keeps_eat _).then_ fun _ =>
      .ite ((h.type true).keeps.then_ fun _ => .pure ⟨hname, hbounds⟩) (.pure ⟨hname, hbounds⟩)
  refine (keeps_eat _).then_ fun _ => .ite ?_ (hrest (by simp))
  exact (yields_plusItems h.bound _).bind fun bounds hbounds => hrest hbounds

omit h in
theorem keeps_lifetimeParam : Keeps lifetimeParam :=
  keeps_lifetime.then_ fun _ => (keeps_eat _).then_ fun _ =>
    .ite ((yields_plusItems keeps_lifetime _).keeps.then_ fun _ => .pure trivial) (.pure trivial)

theorem keeps_constParam : Keeps within.constParam :=
  (keeps_word _).then_ fun _ => yields_nameToken.keeps.then_ fun _ => (keeps_marks _).then_ fun _ =>
    (h.type true).keeps.then_ fun _ => (keeps_eat _).then_ fun _ =>
      .ite (keeps_constArg h) (.pure trivial)

theorem keeps_param : Keeps within.param :=
  (keeps_attributes h).then_ fun _ => (keeps_peek _).then_ fun _ => .ite keeps_lifetimeParam <|
    (keeps_peek _).then_ fun _ => .ite (keeps_constParam h)
      ((yields_typeParam h).keeps.then_ fun _ => .pure trivial)

theorem keeps_binder : Keeps within.binder :=
  (keeps_eatWord _).then_ fun _ =>
    .ite ((yields_angled (keeps_param h)).keeps.then_ fun _ => .pure trivial) (.pure trivial)

theorem yields_traitBound : Yields BoundForm.Readable within.traitBound := by
  have hplain (plain : Bool) {path : PathForm} (hpath : path.Readable) :
      BoundForm.Readable (.trait plain path) := by
    cases plain with
    | true => exact hpath.value
    | false => exact Value.Holds.error
  have hpath (plain : Bool) : Yields BoundForm.Readable (do
      let path ← within.path false
      if path.endsEmpty && (← peek startsRoundArgs) then
        let _ ← eat [':', ':']
        within.roundArgs
        return .trait plain path.withRoundArgs
      else
        return .trait plain path) := by
    refine (yields_path h false).bind fun path hpath => (keeps_peek _).then_ fun _ => .ite ?_ ?_
    · exact (keeps_eat _).then_ fun _ => (keeps_roundArgs h).then_ fun _ =>
        .pure (hplain plain hpath.withRoundArgs)
    · exact .pure (hplain plain hpath)
  exact (keeps_binder h).then_ fun bound => (keeps_eat _).then_ fun relaxed =>
    .ite ((keeps_require _).then_ fun _ => hpath _) (hpath _)

theorem yields_anyBound : Yields BoundForm.Readable within.anyBound := by
  refine (keeps_peek _).then_ fun _ => .ite (keeps_lifetime.then_ fun _ => .pure .error) ?_
  exact (keeps_peek _).then_ fun _ =>
    .ite (yields_bracketed _ (yields_traitBound h)) (yields_traitBound h)

theorem keeps_moreBounds : Keeps within.moreBounds := by
  refine (keeps_peek _).then_ fun _ => .ite ((keeps_many ?_).then_ fun _ => .pure trivial)
    (.pure trivial)
  exact (keeps_marks _).then_ fun _ => (keeps_peek _).then_ fun _ =>
    .ite ((yields_anyBound h).keeps.then_ fun _ => (keeps_peek _).then_ fun _ => .pure trivial)
      (.pure trivial)

theorem keeps_objectBounds (plus : Bool) : Keeps (within.objectBounds plus) := by
  refine (keeps_many ?_).then_ fun _ => keeps_require _
  exact (yields_anyBound h).keeps.then_ fun _ =>
    .ite ((keeps_eat _).then_ fun _ =>
      .ite ((keeps_peek _).then_ fun _ => .pure trivial) (.pure trivial)) (.pure trivial)

/-! ### Expressions -/

omit h in
theorem keeps_operator? : Keeps operator? := by
  refine keeps_of_drop fun ts _ _ hx => ?_
  unfold operator? at hx
  split at hx <;> cases hx
  · exact ⟨_, rfl⟩
  · exact ⟨0, rfl⟩

omit h in
theorem keeps_places : Keeps places := by
  refine keeps_of_drop fun ts _ _ hx => ?_
  unfold places at hx
  split at hx
  · dsimp only at hx
    split at hx <;> cases hx
    exact ⟨1, rfl⟩
  · cases hx
    exact ⟨0, rfl⟩

omit h in
theorem keeps_member : Keeps member := by
  refine keeps_of_drop fun ts _ _ hx => ⟨1, ?_⟩
  unfold member at hx
  split at hx
  · split at hx <;> cases hx
    rfl
  · split at hx <;> cases hx
    rfl
  · cases hx

omit h in
theorem exists_afterPrefixOps (ts : List Token) : ∃ n, afterPrefixOps ts = ts.drop n := by
  fun_induction afterPrefixOps ts with
  | case1 _ ts ih =>
    obtain ⟨n, hn⟩ := ih
    exact ⟨n + 2, hn⟩
  | case6 ts => exact ⟨0, rfl⟩
  | _ _ ts _ =>
    rename_i ih
    obtain ⟨n, hn⟩ := ih
    exact ⟨n + 1, hn⟩

theorem keeps_field : Keeps within.field :=
  (keeps_attributes h).then_ fun _ => keeps_member.then_ fun _ => (keeps_peek _).then_ fun _ =>
    .ite ((keeps_marks _).then_ fun _ => h.expr.then_ fun _ => .pure trivial) (.pure trivial)

theorem keeps_fields : Keeps within.fields := by
  refine (keeps_peek _).then_ fun _ => .ite ((keeps_many ?_).then_ fun _ => .pure trivial)
    (.pure trivial)
  refine (keeps_eat _).then_ fun _ => .ite ((keeps_peek _).then_ fun _ => .ite ?_ ?_) ?_
  · exact h.expr.then_ fun _ => .pure trivial
  · exact .pure trivial
  · exact (keeps_field h).then_ fun _ => (keeps_peek _).then_ fun _ => .ite (.pure trivial) <|
      (keeps_marks _).then_ fun _ => (keeps_peek _).then_ fun _ => .pure trivial

theorem keeps_structBody : Keeps within.structBody :=
  (keeps_peek _).then_ fun _ => .ite (yields_bracketed _ (keeps_fields h)) (.pure trivial)

theorem keeps_atom : Keeps within.atom := by
  refine Yields.then_ (keeps_of_drop fun ts _ _ hx => ⟨0, by cases hx; rfl⟩) fun ts => ?_
  split
  · exact (keeps_skip 1).then_ fun _ => .pure trivial
  · exact (keeps_skip 1).then_ fun _ => .pure trivial
  · exact (yields_bracketed _ (yields_commaItems h.expr)).keeps.then_ fun _ => .pure trivial
  · exact (yields_bracketed _ h.expr).then_ fun _ => .pure trivial
  · refine .ite ((keeps_skip 1).then_ fun _ => .pure trivial) <| .ite ?_ ?_
    · exact (keeps_qualifiedPath h true).then_ fun _ =>
        (keeps_structBody h).then_ fun _ => .pure trivial
    · refine (keeps_require _).then_ fun _ => (yields_path h true).keeps.then_ fun _ =>
        (keeps_peek _).then_ fun _ => .ite ?_ ?_
      · exact (keeps_skip 1).then_ fun _ => keeps_anyBrackets.then_ fun _ => .pure trivial
      · exact (keeps_structBody h).then_ fun _ => .pure trivial

theorem keeps_trailer : Keeps within.trailer := by
  refine (keeps_peek _).then_ fun _ => .ite ?_ <| (keeps_peek _).then_ fun _ => .ite ?_ <|
    (keeps_peek _).then_ fun _ => .ite ?_ (.pure trivial)
  · exact (yields_bracketed _ (yields_commaItems h.expr)).keeps.then_ fun _ => .pure trivial
  · exact (yields_bracketed _ h.expr).then_ fun _ => .pure trivial
  · refine (keeps_skip 1).then_ fun _ => keeps_places.then_ fun _ => .ite ?_ (.pure trivial)
    refine keeps_member.then_ fun _ => .ite ?_ (.pure trivial)
    refine (keeps_eat _).then_ fun _ => .ite ?_ (.pure trivial)
    exact (yields_angled (yields_arg h)).keeps.then_ fun _ =>
      (keeps_require _).then_ fun _ => .pure trivial

theorem keeps_operand : Keeps within.operand := by
  intro ts x rest hts hx
  obtain ⟨n, hn⟩ := exists_afterPrefixOps ts
  have hvalid : ∀ t ∈ afterPrefixOps ts, t.Valid :=
    fun t ht => hts t (List.mem_of_mem_drop (hn ▸ ht))
  have hrest : Keeps (do
      let value ← within.atom
      let trailers ← many do
        let more ← within.trailer
        return (more, more)
      return if (afterPrefixOps ts).length == ts.length && trailers == [false] then value
        else none) :=
    (keeps_atom h).then_ fun _ => (keeps_many ((keeps_trailer h).then_ fun _ =>
      .pure trivial)).then_ fun _ => .pure trivial
  exact hrest _ x rest hvalid hx

theorem keeps_operationsWithin (n : Nat) (compared : Bool) :
    Keeps (within.operationsWithin n compared) := by
  induction n generalizing compared with
  | zero => exact .failure
  | succ n ih =>
    refine keeps_operator?.then_ fun binding? => ?_
    split
    · exact (keeps_require _).then_ fun _ => (keeps_operand h).then_ fun _ =>
        (ih _).then_ fun _ => .pure trivial
    · refine (keeps_eatWord _).then_ fun _ => .ite ?_ (.pure trivial)
      exact (h.type false).keeps.then_ fun _ => (ih _).then_ fun _ => .pure trivial

theorem keeps_anyExpr : Keeps within.anyExpr := by
  have hoperations : Keeps fun ts => within.operationsWithin (ts.length + 1) false ts :=
    fun ts => keeps_operationsWithin h (ts.length + 1) false ts
  exact (keeps_operand h).then_ fun _ => hoperations.then_ fun _ => .pure trivial

/-! ### Types -/

omit h in
theorem readable_outside (c : Construct) : (outside c).Readable := .error (by simp)

omit h in
theorem readable_bounds (single : Bool) (c : Construct) :
    Parsed.Readable ⟨.bounds single, .error c⟩ := .error (by simp)

omit h in
theorem readable_other {v : Value TypeExpr} (hv : v.Holds Tree.Readable) :
    Parsed.Readable ⟨.other, v⟩ := ⟨hv, by simp⟩

theorem yields_pathType (plus bound : Bool) :
    Yields Parsed.Readable (within.pathType plus bound) := by
  refine (keeps_peek _).then_ fun _ => .ite ?_ <| (yields_path h false).bind fun path hpath => ?_
  · exact (keeps_qualifiedPath h false).then_ fun _ => .pure (readable_outside _)
  refine (keeps_peek _).then_ fun _ => .ite ?_ <| (keeps_peek _).then_ fun _ => .ite ?_ ?_
  · exact (keeps_skip 1).then_ fun _ => keeps_anyBrackets.then_ fun _ =>
      .pure (readable_outside _)
  · exact (keeps_peek _).then_ fun _ =>
      .ite ((keeps_moreBounds h).then_ fun _ => .pure (readable_bounds _ _))
        (.pure (readable_bounds _ _))
  · refine .pure ⟨fun t ht => (hpath.value t ht).1, fun name hname => ?_⟩
    exact hpath.lone (Form.path.inj hname)

theorem keeps_boundsAfter : Keeps within.boundsAfter := by
  refine (keeps_peek _).then_ fun _ => .ite ((keeps_many ?_).then_ fun _ => .pure trivial)
    (.pure trivial)
  exact (keeps_marks _).then_ fun _ => (yields_anyBound h).keeps.then_ fun _ =>
    (keeps_peek _).then_ fun _ => .pure trivial

/-- What stands between round brackets: nothing, a type, or the types of a tuple. -/
theorem yields_roundBody : Yields Parsed.Readable (do
    if ← peek atEnd then
      return ⟨.other, .ok .unit⟩
    else if ← peek startsLifetime then
      within.objectBounds true
      return outside .traitObject
    else
      let first ← within.type true
      if ← eat [','] then
        let rest ← commaItems (within.type true)
        return ⟨.other, (values ((first :: rest).map Parsed.value)).map .tuple⟩
      else
        return first) := by
  refine (keeps_peek _).then_ fun _ => .ite (.pure (readable_other ?_)) <|
    (keeps_peek _).then_ fun _ => .ite ?_ <| (h.type true).bind fun first hfirst => ?_
  · rintro _ ⟨⟩
    exact .tuple (by simp)
  · exact (keeps_objectBounds h true).then_ fun _ => .pure (readable_outside _)
  refine (keeps_eat _).then_ fun _ => .ite ?_ (.pure hfirst)
  refine (yields_commaItems (h.type true)).bind fun rest hrest => .pure (readable_other ?_)
  have hvalues : ∀ v ∈ (first :: rest).map Parsed.value, v.Holds Tree.Readable := by
    simpa using ⟨hfirst.value, fun p hp => (hrest p hp).value⟩
  exact (Value.holds_values hvalues).map fun ts hts => .tuple hts.2

theorem yields_roundType (plus : Bool) : Yields Parsed.Readable (within.roundType plus) := by
  refine (keeps_peek _).then_ fun _ => .ite ?_ <|
    (yields_bracketed _ (yields_roundBody h)).bind fun inner hinner => ?_
  · exact (yields_bracketed _ (yields_anyBound h)).keeps.then_ fun _ =>
      (keeps_peek _).then_ fun _ => (keeps_boundsAfter h).then_ fun _ => .pure (readable_bounds _ _)
  have hbounds : Yields Parsed.Readable (do
      within.boundsAfter
      return ⟨.bounds false, .error .traitObject⟩) :=
    (keeps_boundsAfter h).then_ fun _ => .pure (readable_bounds _ _)
  have hother : Yields Parsed.Readable (pure ⟨.other, inner.value⟩ : Parse Parsed) :=
    .pure (readable_other hinner.value)
  refine (keeps_peek _).then_ fun _ => .ite ?_ hother
  split
  · exact hbounds
  · exact hbounds
  · exact hother

theorem yields_squareType : Yields Parsed.Readable within.squareType := by
  refine yields_bracketed _ <| (h.type true).bind fun elem helem => (keeps_eat _).then_ fun _ =>
    .ite (h.expr.then_ fun len => ?_) (.pure (readable_outside _))
  cases len with
  | none => exact .pure (readable_outside _)
  | some n => exact .pure (readable_other (helem.value.map fun t ht => .array ht ⟨n, rfl⟩))

theorem keeps_pointerParam (first : Bool) : Keeps (within.pointerParam first) := by
  have htype : Keeps (do
      let _ ← within.type true) := (h.type true).keeps.then_ fun _ => .pure trivial
  refine (keeps_peek _).then_ fun _ => .ite ?_ <| (keeps_peek _).then_ fun _ =>
    (keeps_peek _).then_ fun _ => .ite ?_ htype
  · exact (keeps_skip 2).then_ fun _ => (keeps_eat _).then_ fun _ => .ite htype (.pure trivial)
  · exact (keeps_skip 2).then_ fun _ => (keeps_peek _).then_ fun _ => .ite (keeps_skip 2) htype

omit h in
theorem keeps_variadic : Keeps variadic := by
  have hdots : Keeps (do
      marks ['.', '.', '.']
      let _ ← eat [',']) :=
    (keeps_marks _).then_ fun _ => (keeps_eat _).then_ fun _ => .pure trivial
  exact (keeps_peek _).then_ fun _ => .ite ((keeps_skip 2).then_ fun _ => hdots) hdots

theorem keeps_pointerParams (first : Bool) : Keeps (within.pointerParams first) := by
  refine (keeps_attributes h).then_ fun _ => (keeps_peek _).then_ fun _ =>
    .ite (keeps_variadic.then_ fun _ => .pure trivial) ?_
  exact (keeps_pointerParam h first).then_ fun _ => (keeps_peek _).then_ fun _ =>
    .ite (.pure trivial) ((keeps_marks _).then_ fun _ => (keeps_peek _).then_ fun _ =>
      .pure trivial)

theorem yields_functionPointer : Yields Parsed.Readable within.functionPointer := by
  have hparams : Keeps (do
      if !(← peek atEnd) then
        let first ← within.pointerParams true
        if first.2 then
          let _ ← many (within.pointerParams false)) := by
    refine (keeps_peek _).then_ fun _ => .ite ((keeps_pointerParams h true).then_ fun _ => ?_)
      (.pure trivial)
    exact .ite ((keeps_many (keeps_pointerParams h false)).then_ fun _ => .pure trivial)
      (.pure trivial)
  have hrest : Yields Parsed.Readable (do
      word "fn"
      bracketed .round do
        if !(← peek atEnd) then
          let first ← within.pointerParams true
          if first.2 then
            let _ ← many (within.pointerParams false)
      within.returnType
      return outside .functionPointer) :=
    (keeps_word _).then_ fun _ => (yields_bracketed _ hparams).then_ fun _ =>
      (keeps_returnType h).then_ fun _ => .pure (readable_outside _)
  refine (keeps_eatWord _).then_ fun _ => (keeps_eatWord _).then_ fun _ => .ite ?_ hrest
  exact (keeps_peek _).then_ fun _ => .ite ((keeps_skip 1).then_ fun _ => hrest) hrest

theorem yields_anyType (plus : Bool) : Yields Parsed.Readable (within.anyType plus) := by
  refine (keeps_binder h).then_ fun bound => ?_
  -- With a binder or without, the type itself comes next.
  refine (fun hrest : Yields Parsed.Readable _ =>
    .ite ((keeps_require _).then_ fun _ => hrest) hrest) ?_
  refine (keeps_peek _).then_ fun _ => .ite (yields_roundType h plus) ?_
  refine (keeps_peek _).then_ fun _ => .ite (yields_functionPointer h) ?_
  refine (keeps_peek _).then_ fun _ => .ite (yields_pathType h plus bound) ?_
  refine (keeps_eatWord _).then_ fun _ => .ite ?dyn ?_
  case dyn =>
    exact (keeps_eat _).then_ fun _ => (keeps_objectBounds h plus).then_ fun _ =>
      .pure (readable_outside _)
  refine (keeps_peek _).then_ fun _ => .ite (yields_squareType h) ?_
  refine (keeps_eat _).then_ fun _ => .ite ?pointer ?_
  case pointer =>
    refine (keeps_eatWord _).then_ fun _ => (fun htarget : Yields Parsed.Readable _ =>
      .ite ((keeps_word _).then_ fun _ => htarget) htarget) ?_
    exact (h.type false).keeps.then_ fun _ => .pure (readable_outside _)
  refine (keeps_eat _).then_ fun _ => .ite ?reference ?_
  case reference =>
    refine (keeps_peek _).then_ fun _ => (fun htarget : Yields Parsed.Readable _ =>
      .ite (keeps_lifetime.then_ fun _ => htarget) htarget) ?_
    exact (keeps_eatWord _).then_ fun _ => (h.type false).keeps.then_ fun _ =>
      .pure (readable_outside _)
  refine (keeps_eat _).then_ fun _ => .ite (.pure (readable_outside _)) ?_
  refine (keeps_eatWord _).then_ fun _ => .ite ?impl ?_
  case impl =>
    exact (keeps_objectBounds h plus).then_ fun _ => .pure (readable_outside _)
  refine (keeps_peek _).then_ fun _ => .ite ?lifetime ?_
  case lifetime =>
    exact (keeps_objectBounds h true).then_ fun _ => .pure (readable_bounds _ _)
  exact (keeps_word _).then_ fun _ => .pure (readable_outside _)

end Nested

theorem sound_grammar (n : Nat) : (grammar n).Sound := by
  induction n with
  | zero => exact ⟨fun _ => .failure, .failure, .failure⟩
  | succ n ih =>
    exact ⟨Nested.yields_anyType ih, Nested.keeps_anyExpr ih, Nested.yields_anyBound ih⟩

theorem of_whole? {Q : α → Prop} {p : Nested → Parse α} {ts : List Token} {x : α}
    (hp : ∀ within, within.Sound → Yields Q (p within)) (hts : ∀ t ∈ ts, t.Valid)
    (h : whole? p ts = some x) : Q x := by
  unfold whole? at h
  split at h
  · next y hy =>
    cases h
    exact (hp _ (sound_grammar _) ts x [] hts hy).1
  · cases h

end TypeExpr

end Buildwright
