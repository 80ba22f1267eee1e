import Buildwright.Proofs.Text.Pascal
import Buildwright.Proofs.Tree.Text

/-!
# Types by their texts

The text of a type tells the type from all others, whatever follows the text, as long as it does
not go on with a name, arguments or a binding.
-/

namespace Buildwright

namespace Text

/-- A word of identifier characters, with `r#` in front or without. -/
def isIdentifier (s : String) : Bool :=
  match s.toList with
  | 'r' :: '#' :: word => isWord word
  | word => isWord word

def isDigits (s : String) : Bool := s.toList.all Char.isDigit

def isWordMark (c : Char) : Bool := isIdentContinue c || c == '#'

theorem all_isWordMark_of_isWord {cs : List Char} (h : isWord cs = true) :
    ∀ c ∈ cs, isWordMark c = true := by
  intro c hc
  rw [isWord, Bool.and_eq_true, List.all_eq_true] at h
  rw [isWordMark, h.2 c hc, Bool.true_or]

theorem all_isWordMark {s : String} (h : isIdentifier s = true) :
    ∀ c ∈ s.toList, isWordMark c = true := by
  unfold isIdentifier at h
  split at h
  · next word heq =>
    intro c hc
    rw [heq, List.mem_cons, List.mem_cons] at hc
    rcases hc with rfl | rfl | hc
    · decide
    · decide
    · exact all_isWordMark_of_isWord h c hc
  · exact all_isWordMark_of_isWord h

theorem toList_ne_nil {s : String} (h : isIdentifier s = true) : s.toList ≠ [] := by
  intro hnil
  rw [isIdentifier, hnil] at h
  cases h

theorem append_inj_of_all {p : Char → Bool} {u u' r r' : List Char} (hu : ∀ c ∈ u, p c = true)
    (hu' : ∀ c ∈ u', p c = true) (hr : ∀ c ∈ r.head?, p c = false)
    (hr' : ∀ c ∈ r'.head?, p c = false) (h : u ++ r = u' ++ r') : u = u' ∧ r = r' := by
  have hstop {x : List Char} (hx : ∀ c ∈ x.head?, p c = false) : x.takeWhile p = [] := by
    cases x with
    | nil => rfl
    | cons c x => rw [List.takeWhile_cons_of_neg (by simp [hx c rfl])]
  have htake := congrArg (List.takeWhile p) h
  rw [List.takeWhile_append_of_pos hu, List.takeWhile_append_of_pos hu', hstop hr, hstop hr',
    List.append_nil, List.append_nil] at htake
  subst htake
  exact ⟨rfl, List.append_cancel_left h⟩

/-- Items behind separators are told apart if each of them is, and if what follows the last one
does not start with the separator. -/
theorem separated_inj {α : Type} {cs : α → List Char} {sep : List Char}
    {ends : List Char → Prop} {ok : α → Prop} {items : List α}
    (hitem : ∀ a ∈ items, ∀ a' r r', ok a' → ends r → ends r' → cs a ++ r = cs a' ++ r' →
      a = a' ∧ r = r')
    (hsep : ∀ r, ends (sep ++ r)) {items' : List α} (hok : ∀ a ∈ items', ok a)
    {r r' : List Char} (hr : ends r) (hr' : ends r') (hlast : ¬sep <+: r) (hlast' : ¬sep <+: r')
    (h : (items.flatMap fun a => sep ++ cs a) ++ r = (items'.flatMap fun a => sep ++ cs a) ++ r') :
    items = items' ∧ r = r' := by
  have hends (l : List α) {x : List Char} (hx : ends x) :
      ends ((l.flatMap fun a => sep ++ cs a) ++ x) := by
    cases l with
    | nil => exact hx
    | cons a l =>
      rw [List.flatMap_cons, List.append_assoc, List.append_assoc]
      exact hsep _
  induction items generalizing items' with
  | nil =>
    cases items' with
    | nil => exact ⟨rfl, h⟩
    | cons a' items' =>
      have hprefix : sep <+: r := ⟨_, by simpa using h.symm⟩
      exact absurd hprefix hlast
  | cons a items ih =>
    cases items' with
    | nil =>
      have hprefix : sep <+: r' := ⟨_, by simpa using h⟩
      exact absurd hprefix hlast'
    | cons a' items' =>
      simp only [List.flatMap_cons, List.append_assoc] at h
      obtain ⟨rfl, hrest⟩ := hitem a List.mem_cons_self a' _ _ (hok a' List.mem_cons_self)
        (hends items hr) (hends items' hr') (List.append_cancel_left h)
      obtain ⟨rfl, rfl⟩ := ih (fun b hb => hitem b (List.mem_cons_of_mem _ hb))
        (fun b hb => hok b (List.mem_cons_of_mem _ hb)) hrest
      exact ⟨rfl, rfl⟩

end Text

/-! ## Types of well-formed names -/

def Segment.Named (s : Segment Empty) : Prop :=
  Text.isIdentifier s.ident = true ∧
    ∀ name t, .binding name t ∈ s.args → Text.isIdentifier name = true

namespace Tree

/-- All paths of the type have names, all of them identifiers, and array lengths are digits. -/
abbrev Named : TypeExpr → Prop := Formed Segment.Named fun len => Text.isDigits len = true

theorem named_name {s : String} (h : Text.isIdentifier s = true) : (name s : TypeExpr).Named :=
  .path (by simp) (by simpa [Segment.Named] using h) (by simp [Segment.types])

/-- The text does not go on as part of the type in front of it. -/
def Ends (r : List Char) : Prop :=
  ∀ c ∈ r.head?, Text.isWordMark c = false ∧ c ≠ ':' ∧ c ≠ '<' ∧ c ≠ ' '

/-- The text of the type is told from that of any other one, whatever follows. -/
def Determined (t : TypeExpr) : Prop :=
  ∀ t' r r', t'.Named → Ends r → Ends r' → t.chars ++ r = t'.chars ++ r' → t = t' ∧ r = r'

/-- The text of the type says where it ends, too. -/
def Closed (t : TypeExpr) : Prop :=
  ∀ t' r r', t'.Named → t.chars ++ r = t'.chars ++ r' → t = t' ∧ r = r'

theorem Closed.determined {t : TypeExpr} (ht : Closed t) : Determined t :=
  fun t' r r' ht' _ _ h => ht t' r r' ht' h

theorem Ends.head_eq_false {r : List Char} (hr : Ends r) :
    ∀ c ∈ r.head?, Text.isWordMark c = false := fun c hc => (hr c hc).1

theorem ends_cons {c : Char} (hc : c ∈ ['>', ')', ']', ',', ';', '(']) (r : List Char) :
    Ends (c :: r) := by
  intro d hd
  obtain rfl : c = d := by simpa using hd
  simp only [List.mem_cons, List.not_mem_nil, or_false] at hc
  rcases hc with rfl | rfl | rfl | rfl | rfl | rfl <;> decide

theorem ends_comma (r : List Char) : Ends ([',', ' '] ++ r) := ends_cons (by decide) _

/-! ## Heads -/

theorem exists_chars_path {rooted : Bool} {segments : List (Segment Empty)}
    (h : (path rooted segments).Named) :
    ∃ c rest, (path rooted segments).chars = c :: rest ∧
      if rooted then c = ':' else Text.isWordMark c = true := by
  cases h with
  | path hne hsegments _ =>
    obtain ⟨s, others, rfl⟩ := List.exists_cons_of_ne_nil hne
    rw [chars_path]
    cases rooted with
    | true => exact ⟨':', _, rfl, rfl⟩
    | false =>
      have hident := (hsegments s List.mem_cons_self).1
      obtain ⟨c, rest, hc⟩ := List.exists_cons_of_ne_nil (Text.toList_ne_nil hident)
      have hmark : Text.isWordMark c = true :=
        Text.all_isWordMark hident c (hc ▸ List.mem_cons_self)
      rw [Segment.chars, hc]
      exact ⟨c, _, rfl, hmark⟩

theorem exists_chars_tuple (elems : List TypeExpr) : ∃ rest, (tuple elems).chars = '(' :: rest := by
  cases elems with
  | nil => exact ⟨_, chars_unit⟩
  | cons t rest => exact ⟨_, chars_tuple t rest⟩

theorem chars_path_append_ne {rooted : Bool} {segments : List (Segment Empty)}
    (h : (path rooted segments).Named) {b : Char} (hb : b ∈ ['(', '[', ')']) (x y : List Char) :
    (path rooted segments).chars ++ x ≠ b :: y := by
  intro heq
  obtain ⟨c, rest, hc, hhead⟩ := exists_chars_path h
  rw [hc] at heq
  obtain rfl : c = b := (List.cons.inj heq).1
  have hmark : Text.isWordMark c = false ∧ c ≠ ':' := by
    simp only [List.mem_cons, List.not_mem_nil, or_false] at hb
    rcases hb with rfl | rfl | rfl <;> decide
  cases rooted with
  | true => exact hmark.2 hhead
  | false => exact absurd hhead (by simp [hmark.1])

theorem chars_append_ne {t : TypeExpr} (ht : t.Named) {r : List Char} (hr : Ends r)
    {name : String} (hname : Text.isIdentifier name = true) (rest : List Char) :
    t.chars ++ r ≠ name.toList ++ ' ' :: rest := by
  intro h
  have hmarks := Text.all_isWordMark hname
  obtain ⟨c, cs, hcs⟩ := List.exists_cons_of_ne_nil (Text.toList_ne_nil hname)
  have hc : Text.isWordMark c = true := hmarks c (hcs ▸ List.mem_cons_self)
  have hspace : ∀ d ∈ (' ' :: rest).head?, Text.isWordMark d = false := by
    intro d hd
    obtain rfl : ' ' = d := by simpa using hd
    decide
  cases ht with
  | @path rooted segments hne hsegments htypes =>
    obtain ⟨s, others, rfl⟩ := List.exists_cons_of_ne_nil hne
    rw [chars_path] at h
    cases rooted with
    | true =>
      rw [hcs] at h
      obtain rfl : ':' = c := (List.cons.inj h).1
      exact absurd hc (by decide)
    | false =>
      have hident := Text.all_isWordMark (hsegments s List.mem_cons_self).1
      rw [Segment.chars] at h
      simp only [Bool.false_eq_true, if_false, List.nil_append, List.append_assoc] at h
      -- What follows the first name is no blank.
      have hnext : ∀ d ∈ (s.argChars ++
          ((others.flatMap fun u => [':', ':'] ++ u.chars) ++ r)).head?,
          Text.isWordMark d = false ∧ d ≠ ' ' := by
        intro d hd
        cases hargs : s.args with
        | cons a as =>
          obtain rfl : '<' = d := by simpa [Segment.argChars, hargs] using hd
          decide
        | nil =>
          cases others with
          | cons u us =>
            obtain rfl : ':' = d := by simpa [Segment.argChars, hargs] using hd
            decide
          | nil =>
            have hd' : d ∈ r.head? := by simpa [Segment.argChars, hargs] using hd
            exact ⟨(hr d hd').1, (hr d hd').2.2.2⟩
      obtain ⟨-, hrest⟩ := Text.append_inj_of_all hident hmarks (fun d hd => (hnext d hd).1)
        hspace h
      exact (hnext ' ' (by rw [hrest]; rfl)).2 rfl
  | @tuple elems _ =>
    obtain ⟨tail, htail⟩ := exists_chars_tuple elems
    rw [htail, hcs] at h
    obtain rfl : '(' = c := (List.cons.inj h).1
    exact absurd hc (by decide)
  | array _ _ =>
    rw [chars_array, hcs] at h
    obtain rfl : '[' = c := (List.cons.inj h).1
    exact absurd hc (by decide)

/-! ## Arguments and segments -/

def NamedArg : Arg Empty → Prop
  | .type t => t.Named
  | .binding name t => Text.isIdentifier name = true ∧ t.Named

def NamedSegment (s : Segment Empty) : Prop := s.Named ∧ ∀ t ∈ s.types, t.Named

theorem NamedSegment.arg {s : Segment Empty} (hs : NamedSegment s) {a : Arg Empty}
    (ha : a ∈ s.args) : NamedArg a := by
  have hty : a.ty.Named := hs.2 a.ty (List.mem_map_of_mem ha)
  cases a with
  | type t => exact hty
  | binding name t => exact ⟨hs.1.2 name t ha, hty⟩

theorem argChars_append_inj {a a' : Arg Empty} (hdet : Determined a.ty) (ha : NamedArg a)
    (ha' : NamedArg a') {r r' : List Char} (hr : Ends r) (hr' : Ends r')
    (h : a.chars ++ r = a'.chars ++ r') : a = a' ∧ r = r' := by
  cases a with
  | type t =>
    cases a' with
    | type t' =>
      obtain ⟨rfl, rfl⟩ := hdet t' r r' ha' hr hr' h
      exact ⟨rfl, rfl⟩
    | binding name t' =>
      rw [Arg.chars, Arg.chars, List.append_assoc, List.append_assoc] at h
      exact absurd h (chars_append_ne ha hr ha'.1 _)
  | binding name t =>
    cases a' with
    | type t' =>
      rw [Arg.chars, Arg.chars, List.append_assoc, List.append_assoc] at h
      exact absurd h.symm (chars_append_ne ha' hr' ha.1 _)
    | binding name' t' =>
      have hspace (x : List Char) : ∀ d ∈ ([' ', '=', ' '] ++ x).head?,
          Text.isWordMark d = false := by
        intro d hd
        obtain rfl : ' ' = d := by simpa using hd
        decide
      rw [Arg.chars, Arg.chars, List.append_assoc, List.append_assoc, List.append_assoc,
        List.append_assoc] at h
      obtain ⟨hname, hrest⟩ := Text.append_inj_of_all (Text.all_isWordMark ha.1)
        (Text.all_isWordMark ha'.1) (hspace _) (hspace _) h
      obtain rfl : name = name' := String.toList_inj.1 hname
      obtain ⟨rfl, rfl⟩ := hdet t' r r' ha'.2 hr hr' (List.append_cancel_left hrest)
      exact ⟨rfl, rfl⟩

def EndsSegment (r : List Char) : Prop :=
  ∀ c ∈ r.head?, Text.isWordMark c = false ∧ c ≠ '<'

theorem Ends.segment {r : List Char} (hr : Ends r) : EndsSegment r :=
  fun c hc => ⟨(hr c hc).1, (hr c hc).2.2.1⟩

theorem endsSegment_colons (r : List Char) : EndsSegment ([':', ':'] ++ r) := by
  intro c hc
  obtain rfl : ':' = c := by simpa using hc
  decide

theorem argChars_append_head {s : Segment Empty} {r : List Char} (hr : EndsSegment r) :
    ∀ c ∈ (s.argChars ++ r).head?, Text.isWordMark c = false := by
  intro c hc
  cases hargs : s.args with
  | nil => exact (hr c (by simpa [Segment.argChars, hargs] using hc)).1
  | cons a rest =>
    obtain rfl : '<' = c := by simpa [Segment.argChars, hargs] using hc
    decide

theorem segmentArgs_append_inj {s s' : Segment Empty} (hdet : ∀ t ∈ s.types, Determined t)
    (hs : NamedSegment s) (hs' : NamedSegment s') {r r' : List Char} (hr : EndsSegment r)
    (hr' : EndsSegment r') (h : s.argChars ++ r = s'.argChars ++ r') :
    s.args = s'.args ∧ r = r' := by
  have hopen {x y : List Char} (hx : EndsSegment x) : x ≠ '<' :: y := by
    rintro rfl
    exact (hx '<' rfl).2 rfl
  have hclose (x : List Char) : ¬[',', ' '] <+: '>' :: x := by simp
  cases hargs : s.args with
  | nil =>
    cases hargs' : s'.args with
    | nil => exact ⟨rfl, by simpa [Segment.argChars, hargs, hargs'] using h⟩
    | cons a' rest' =>
      rw [Segment.argChars, Segment.argChars, hargs, hargs'] at h
      exact absurd h (hopen hr)
  | cons a rest =>
    cases hargs' : s'.args with
    | nil =>
      rw [Segment.argChars, Segment.argChars, hargs, hargs'] at h
      exact absurd h.symm (hopen hr')
    | cons a' rest' =>
      have hall : ∀ b ∈ a :: rest, ∀ b' x x', NamedArg b' → Ends x → Ends x' →
          b.chars ++ x = b'.chars ++ x' → b = b' ∧ x = x' := by
        intro b hb b' x x' hb' hx hx' hbb
        rw [← hargs] at hb
        exact argChars_append_inj (hdet b.ty (List.mem_map_of_mem hb)) (hs.arg hb) hb' hx hx' hbb
      have hnamed : ∀ b ∈ a' :: rest', NamedArg b := fun b hb => hs'.arg (hargs' ▸ hb)
      have hends (l : List (Arg Empty)) (x : List Char) :
          Ends ((l.flatMap fun b => [',', ' '] ++ b.chars) ++ '>' :: x) := by
        cases l with
        | nil => exact ends_cons (by decide) x
        | cons b l => exact ends_comma _
      simp only [Segment.argChars, hargs, hargs', List.cons_append, List.append_assoc,
        List.nil_append] at h
      obtain ⟨rfl, hrest⟩ := hall a List.mem_cons_self a' _ _ (hnamed a' List.mem_cons_self)
        (hends rest r) (hends rest' r') (List.cons.inj h).2
      obtain ⟨rfl, hr⟩ := Text.separated_inj
        (fun b hb => hall b (List.mem_cons_of_mem _ hb)) ends_comma
        (fun b hb => hnamed b (List.mem_cons_of_mem _ hb)) (ends_cons (by decide) r)
        (ends_cons (by decide) r') (hclose r) (hclose r') hrest
      exact ⟨rfl, (List.cons.inj hr).2⟩

theorem segmentChars_append_inj {s s' : Segment Empty} (hdet : ∀ t ∈ s.types, Determined t)
    (hs : NamedSegment s) (hs' : NamedSegment s') {r r' : List Char} (hr : EndsSegment r)
    (hr' : EndsSegment r') (h : s.chars ++ r = s'.chars ++ r') : s = s' ∧ r = r' := by
  rw [Segment.chars, Segment.chars, List.append_assoc, List.append_assoc] at h
  obtain ⟨hident, hrest⟩ := Text.append_inj_of_all (Text.all_isWordMark hs.1.1)
    (Text.all_isWordMark hs'.1.1) (argChars_append_head hr) (argChars_append_head hr') h
  obtain ⟨hargs, rfl⟩ := segmentArgs_append_inj hdet hs hs' hr hr' hrest
  cases s
  cases s'
  obtain rfl := String.toList_inj.1 hident
  obtain rfl := hargs
  exact ⟨rfl, rfl⟩

/-! ## Types -/

theorem not_starts_colons {r : List Char} (hr : Ends r) : ¬[':', ':'] <+: r := by
  rintro ⟨x, rfl⟩
  exact (hr ':' rfl).2.1 rfl

theorem segments_append_inj {segments segments' : List (Segment Empty)}
    (hdet : ∀ s ∈ segments, ∀ t ∈ s.types, Determined t)
    (hnamed : ∀ s ∈ segments, NamedSegment s) (hnamed' : ∀ s ∈ segments', NamedSegment s)
    {s s' : Segment Empty} (hs : ∀ t ∈ s.types, Determined t) (hsn : NamedSegment s)
    (hsn' : NamedSegment s') {r r' : List Char} (hr : Ends r) (hr' : Ends r')
    (h : s.chars ++ ((segments.flatMap fun u => [':', ':'] ++ u.chars) ++ r) =
      s'.chars ++ ((segments'.flatMap fun u => [':', ':'] ++ u.chars) ++ r')) :
    s :: segments = s' :: segments' ∧ r = r' := by
  have hends (l : List (Segment Empty)) {x : List Char} (hx : Ends x) :
      EndsSegment ((l.flatMap fun u => [':', ':'] ++ u.chars) ++ x) := by
    cases l with
    | nil => exact hx.segment
    | cons u l => exact endsSegment_colons _
  obtain ⟨rfl, hrest⟩ := segmentChars_append_inj hs hsn hsn' (hends segments hr)
    (hends segments' hr') h
  obtain ⟨rfl, rfl⟩ := Text.separated_inj
    (fun u hu u' x x' hu' hx hx' => segmentChars_append_inj (hdet u hu) (hnamed u hu) hu' hx hx')
    endsSegment_colons hnamed' hr.segment hr'.segment (not_starts_colons hr)
    (not_starts_colons hr') hrest
  exact ⟨rfl, rfl⟩

theorem determined_path {rooted : Bool} {segments : List (Segment Empty)}
    (hnamed : (path rooted segments).Named)
    (hdet : ∀ s ∈ segments, ∀ t ∈ s.types, Determined t) : Determined (path rooted segments) := by
  intro t' r r' ht' hr hr' h
  obtain ⟨c, cs, hc, hhead⟩ := exists_chars_path hnamed
  cases ht' with
  | @path rooted' segments' hne' hsegments' htypes' =>
    obtain ⟨c', cs', hc', hhead'⟩ := exists_chars_path (.path hne' hsegments' htypes')
    obtain rfl : c = c' := by
      rw [hc, hc'] at h
      exact (List.cons.inj h).1
    have hcolon : Text.isWordMark ':' = false := by decide
    obtain rfl : rooted = rooted' := by
      cases rooted <;> cases rooted' <;> simp_all
    cases hnamed with
    | path hne hsegments htypes =>
      obtain ⟨s, rest, rfl⟩ := List.exists_cons_of_ne_nil hne
      obtain ⟨s', rest', rfl⟩ := List.exists_cons_of_ne_nil hne'
      rw [List.forall_mem_cons] at hsegments hsegments' htypes htypes' hdet
      simp only [chars_path, List.append_assoc] at h
      obtain ⟨hsegments, rfl⟩ := segments_append_inj hdet.2
        (fun u hu => ⟨hsegments.2 u hu, htypes.2 u hu⟩)
        (fun u hu => ⟨hsegments'.2 u hu, htypes'.2 u hu⟩) hdet.1 ⟨hsegments.1, htypes.1⟩
        ⟨hsegments'.1, htypes'.1⟩ hr hr' (List.append_cancel_left h)
      exact ⟨congrArg _ hsegments, rfl⟩
  | @tuple elems _ =>
    obtain ⟨tail, htail⟩ := exists_chars_tuple elems
    rw [htail] at h
    exact absurd h (chars_path_append_ne hnamed (by decide) r _)
  | array _ _ =>
    rw [chars_array] at h
    exact absurd h (chars_path_append_ne hnamed (by decide) r _)

theorem chars_append_ne_close {t : TypeExpr} (ht : t.Named) (x y : List Char) :
    t.chars ++ x ≠ ')' :: y := by
  cases ht with
  | path hne hsegments htypes =>
    exact chars_path_append_ne (.path hne hsegments htypes) (by decide) x y
  | @tuple elems _ =>
    obtain ⟨tail, htail⟩ := exists_chars_tuple elems
    simp [htail]
  | array _ _ => simp [chars_array]

theorem closed_tuple {elems : List TypeExpr} (hnamed : ∀ t ∈ elems, t.Named)
    (hdet : ∀ t ∈ elems, Determined t) : Closed (tuple elems) := by
  intro t' r r' ht' h
  cases ht' with
  | path hne' hsegments' htypes' =>
    obtain ⟨tail, htail⟩ := exists_chars_tuple elems
    rw [htail] at h
    exact absurd h.symm (chars_path_append_ne (.path hne' hsegments' htypes') (by decide) r' _)
  | @tuple elems' hnamed' =>
    cases elems with
    | nil =>
      cases elems' with
      | nil => exact ⟨rfl, List.append_cancel_left h⟩
      | cons u' rest' =>
        simp only [chars_unit, chars_tuple, List.cons_append, List.append_assoc,
          List.nil_append, List.cons.injEq, true_and] at h
        exact absurd h.symm (chars_append_ne_close (hnamed' u' List.mem_cons_self) _ _)
    | cons u rest =>
      cases elems' with
      | nil =>
        simp only [chars_unit, chars_tuple, List.cons_append, List.append_assoc,
          List.nil_append, List.cons.injEq, true_and] at h
        exact absurd h (chars_append_ne_close (hnamed u List.mem_cons_self) _ _)
      | cons u' rest' =>
        have hends (l : List TypeExpr) (x : List Char) :
            Ends ((l.flatMap fun v => [',', ' '] ++ v.chars) ++
              ((if l = [] then [',', ')'] else [')']) ++ x)) := by
          cases l with
          | nil => exact ends_cons (by decide) _
          | cons v l => exact ends_comma _
        have hclose (x : List Char) : ¬[',', ' '] <+: ')' :: x := by simp
        simp only [chars_tuple, List.cons_append, List.append_assoc, List.cons.injEq,
          true_and] at h
        rw [List.forall_mem_cons] at hdet hnamed'
        obtain ⟨rfl, hrest⟩ := hdet.1 u' _ _ hnamed'.1 (hends rest r) (hends rest' r') h
        cases rest with
        | nil =>
          cases rest' with
          | nil => exact ⟨rfl, by simpa using hrest⟩
          | cons v' rest' => simp at hrest
        | cons v rest =>
          cases rest' with
          | nil => simp at hrest
          | cons v' rest' =>
            rw [if_neg (List.cons_ne_nil v rest), if_neg (List.cons_ne_nil v' rest')] at hrest
            obtain ⟨hvs, hr⟩ := Text.separated_inj hdet.2 ends_comma hnamed'.2
              (ends_cons (by decide) r) (ends_cons (by decide) r') (hclose r) (hclose r') hrest
            exact ⟨by rw [hvs], (List.cons.inj hr).2⟩
  | array _ _ =>
    obtain ⟨tail, htail⟩ := exists_chars_tuple elems
    simp [htail, chars_array] at h

theorem closed_array {elem : TypeExpr} {len : String} (hdet : Determined elem)
    (hlen : Text.isDigits len = true) : Closed (array elem len) := by
  intro t' r r' ht' h
  cases ht' with
  | path hne' hsegments' htypes' =>
    rw [chars_array] at h
    exact absurd h.symm (chars_path_append_ne (.path hne' hsegments' htypes') (by decide) r' _)
  | @tuple elems' _ =>
    obtain ⟨tail, htail⟩ := exists_chars_tuple elems'
    simp [htail, chars_array] at h
  | @array elem' len' helem' hlen' =>
    have hclose (x : List Char) : ∀ c ∈ (']' :: x).head?, c.isDigit = false := by
      intro c hc
      obtain rfl : ']' = c := by simpa using hc
      decide
    simp only [chars_array, List.cons_append, List.append_assoc, List.nil_append,
      List.cons.injEq, true_and] at h
    obtain ⟨rfl, hrest⟩ := hdet elem' _ _ helem' (ends_cons (by decide) _)
      (ends_cons (by decide) _) h
    simp only [List.cons.injEq, true_and] at hrest
    obtain ⟨hlens, hr⟩ := Text.append_inj_of_all (List.all_eq_true.1 hlen)
      (List.all_eq_true.1 hlen') (hclose r) (hclose r') hrest
    obtain rfl := String.toList_inj.1 hlens
    exact ⟨rfl, (List.cons.inj hr).2⟩

theorem determined {t : TypeExpr} (ht : t.Named) : Determined t := by
  induction t using Tree.inductionOn with
  | var v => exact v.elim
  | path rooted segments ih =>
    have htypes : ∀ s ∈ segments, ∀ t ∈ s.types, t.Named := by
      cases ht with
      | path _ _ htypes => exact htypes
    exact determined_path ht fun s hs u hu => ih s hs u hu (htypes s hs u hu)
  | tuple elems ih =>
    have helems : ∀ t ∈ elems, t.Named := by
      cases ht with
      | tuple helems => exact helems
    exact (closed_tuple helems fun u hu => ih u hu (helems u hu)).determined
  | array elem len ih =>
    cases ht with
    | array helem hlen => exact (closed_array (ih helem) hlen).determined

end Tree

end Buildwright
