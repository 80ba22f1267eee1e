import Buildwright.Callable
import Buildwright.Proofs.Tree.Readability

/-!
# Signatures

A signature is one text put together from the texts of its parts. It still tells the parts, up to
the difference between a type variable and a type of the same name.
-/

namespace Buildwright

/-- The type with every variable replaced by the bare path of its name. -/
def Ty.erased (t : Ty) : TypeExpr := t.spelled VarRef.name

theorem Ty.toString_erased (t : Ty) : t.erased.toString = t.toString :=
  Tree.toString_spelled VarRef.name t

namespace Tree

theorem closed_of_not_isPath {t : TypeExpr} (ht : t.Named) (hpath : t.isPath = false) :
    Closed t := by
  cases ht with
  | path _ _ _ => cases hpath
  | tuple helems => exact closed_tuple helems fun u hu => determined (helems u hu)
  | array helem hlen => exact closed_array (determined helem) hlen

theorem chars_path_snoc {rooted : Bool} {segments : List (Segment Empty)} (hne : segments ≠ [])
    (name : String) :
    (path rooted (segments ++ [.mk name []])).chars =
      (path rooted segments).chars ++ [':', ':'] ++ name.toList := by
  obtain ⟨s, rest, rfl⟩ := List.exists_cons_of_ne_nil hne
  rw [List.cons_append, chars_path, chars_path]
  simp [Segment.chars, Segment.argChars]

theorem named_path_snoc {rooted : Bool} {segments : List (Segment Empty)}
    (h : (path rooted segments).Named) {name : String} (hname : Text.isIdentifier name = true) :
    (path rooted (segments ++ [.mk name []])).Named := by
  have hlast : (Segment.mk name [] : Segment Empty).Named := ⟨hname, by simp⟩
  cases h with
  | path hne hsegments htypes =>
    refine .path (by simp) ?_ ?_
    · simpa [or_imp, forall_and] using ⟨hsegments, hlast⟩
    · simpa [or_imp, forall_and, Segment.types] using htypes

/-- The text of a type and a name between `::` and a round bracket tells both. -/
theorem chars_name_inj {t t' : TypeExpr} (ht : t.Named) (ht' : t'.Named) {name name' : String}
    (hname : Text.isIdentifier name = true) (hname' : Text.isIdentifier name' = true)
    {r r' : List Char}
    (h : t.chars ++ ([':', ':'] ++ (name.toList ++ '(' :: r)) =
      t'.chars ++ ([':', ':'] ++ (name'.toList ++ '(' :: r'))) :
    t = t' ∧ name = name' ∧ r = r' := by
  have hopen (x : List Char) : Ends ('(' :: x) := ends_cons (by decide) x
  by_cases hpath : t.isPath = true
  · by_cases hpath' : t'.isPath = true
    · obtain ⟨rooted, segments, rfl⟩ : ∃ rooted segments, t = path rooted segments := by
        cases t <;> cases hpath
        exact ⟨_, _, rfl⟩
      obtain ⟨rooted', segments', rfl⟩ :
          ∃ rooted segments, t' = path rooted segments := by
        cases t' <;> cases hpath'
        exact ⟨_, _, rfl⟩
      have hne : segments ≠ [] := by cases ht with | path hne _ _ => exact hne
      have hne' : segments' ≠ [] := by cases ht' with | path hne _ _ => exact hne
      have hlong : (path rooted (segments ++ [.mk name []])).chars ++ '(' :: r =
          (path rooted' (segments' ++ [.mk name' []])).chars ++ '(' :: r' := by
        simpa [chars_path_snoc hne, chars_path_snoc hne'] using h
      obtain ⟨hpaths, hrest⟩ := determined (named_path_snoc ht hname) _ _ _
        (named_path_snoc ht' hname') (hopen r) (hopen r') hlong
      obtain ⟨rfl, hsegments⟩ := Tree.path.inj hpaths
      obtain ⟨rfl, hlast⟩ := List.append_inj' hsegments rfl
      simp only [List.cons.injEq, Segment.mk.injEq, and_true] at hlast
      exact ⟨rfl, hlast, (List.cons.inj hrest).2⟩
    · have hclosed := closed_of_not_isPath ht' (Bool.not_eq_true _ ▸ hpath')
      obtain ⟨rfl, -⟩ := hclosed t _ _ ht h.symm
      exact absurd hpath hpath'
  · have hclosed := closed_of_not_isPath ht (Bool.not_eq_true _ ▸ hpath)
    obtain ⟨rfl, hrest⟩ := hclosed t' _ _ ht' h
    obtain ⟨hnames, hrest⟩ := Text.append_inj_of_all (Text.all_isWordMark hname)
      (Text.all_isWordMark hname') (hopen r).head_eq_false (hopen r').head_eq_false
      (List.append_cancel_left hrest)
    exact ⟨rfl, String.toList_inj.1 hnames, (List.cons.inj hrest).2⟩

def listChars : List TypeExpr → List Char
  | [] => []
  | t :: rest => t.chars ++ rest.flatMap fun u => [',', ' '] ++ u.chars

theorem listChars_inj {ts ts' : List TypeExpr} (hts : ∀ t ∈ ts, t.Named)
    (hts' : ∀ t ∈ ts', t.Named) (h : listChars ts ++ [')'] = listChars ts' ++ [')']) :
    ts = ts' := by
  have hends (l : List TypeExpr) :
      Ends ((l.flatMap fun u => [',', ' '] ++ u.chars) ++ [')']) := by
    cases l with
    | nil => exact ends_cons (by decide) _
    | cons u l => exact ends_comma _
  cases ts with
  | nil =>
    cases ts' with
    | nil => rfl
    | cons t' rest' =>
      rw [listChars, listChars, List.append_assoc] at h
      exact absurd h.symm (chars_append_ne_close (hts' t' List.mem_cons_self) _ _)
  | cons t rest =>
    cases ts' with
    | nil =>
      rw [listChars, listChars, List.append_assoc] at h
      exact absurd h (chars_append_ne_close (hts t List.mem_cons_self) _ _)
    | cons t' rest' =>
      rw [List.forall_mem_cons] at hts hts'
      rw [listChars, listChars, List.append_assoc, List.append_assoc] at h
      obtain ⟨rfl, hrest⟩ := determined hts.1 t' _ _ hts'.1 (hends rest) (hends rest') h
      obtain ⟨rfl, -⟩ := Text.separated_inj (fun u hu => determined (hts.2 u hu)) ends_comma
        hts'.2 (ends_cons (by decide) []) (ends_cons (by decide) []) (by simp) (by simp) hrest
      rfl

theorem toList_joined_toString (ts : List TypeExpr) :
    (Text.joined ", " (ts.map TypeExpr.toString)).toList = listChars ts := by
  cases ts with
  | nil => rfl
  | cons t rest =>
    rw [List.map_cons, Text.toList_joined_cons, List.flatMap_map]
    rfl

end Tree

/-! ## Signatures of callables -/

theorem SignatureKey.toList_text_ofTexts (owner : TypeExpr) (name : String)
    (params : List TypeExpr) :
    (ofTexts owner.toString name (params.map TypeExpr.toString)).text.toList =
      owner.chars ++ ([':', ':'] ++ (name.toList ++ '(' :: (Tree.listChars params ++ [')']))) := by
  simp only [ofTexts, String.toList_append, Tree.toList_joined_toString, List.append_assoc]
  rfl

namespace Callable

/-- The parameter types in order, without the difference between variables and names. -/
def erasedParams (c : Callable) : List TypeExpr := c.params.map fun p => p.ty.erased

/-- The names in the signature are identifiers, its paths have names, and array lengths are
digits. -/
structure Named (c : Callable) : Prop where
  name : Text.isIdentifier c.name = true
  owner : c.owner.selfTy.erased.Named
  params : ∀ t ∈ c.erasedParams, t.Named

theorem signature_eq_ofTexts (c : Callable) :
    c.signature = .ofTexts c.owner.selfTy.erased.toString c.name
      (c.erasedParams.map TypeExpr.toString) := by
  simp only [signature, erasedParams, List.map_map, Function.comp_def, Ty.toString_erased]

/-- The signature tells the owner, the name and the parameter types, up to the difference between
a variable and a type of its name. -/
theorem signature_eq_iff {c c' : Callable} (hc : c.Named) (hc' : c'.Named) :
    c.signature = c'.signature ↔
      c.name = c'.name ∧ c.owner.selfTy.erased = c'.owner.selfTy.erased ∧
        c.erasedParams = c'.erasedParams := by
  constructor
  · intro h
    rw [signature_eq_ofTexts, signature_eq_ofTexts] at h
    have hchars := congrArg (fun s => s.text.toList) h
    simp only [SignatureKey.toList_text_ofTexts] at hchars
    obtain ⟨howner, hname, hparams⟩ :=
      Tree.chars_name_inj hc.owner hc'.owner hc.name hc'.name hchars
    exact ⟨hname, howner, Tree.listChars_inj hc.params hc'.params hparams⟩
  · rintro ⟨hname, howner, hparams⟩
    rw [signature_eq_ofTexts, signature_eq_ofTexts, hname, howner, hparams]

def putMethod (ty : Ty) : Callable where
  kind := .static
  name := "put"
  owner := ⟨.path false [.mk "Bag" [.type (.var ⟨.owner, "T"⟩)]], [⟨"T", .owner, []⟩]⟩
  typeVars := []
  params := [⟨"item", ty⟩]
  returns := .unit
  className := none
  methodName := none

theorem named_putMethod {ty : Ty} (hty : ty.erased.Named) : (putMethod ty).Named := by
  have hitem : (Tree.name "T" : TypeExpr).Named := Tree.named_name (by decide)
  have hbag : (Segment.mk "Bag" [.type (Tree.name "T")] : Segment Empty).Named :=
    ⟨by decide, by simp⟩
  have howner : (Tree.path false [.mk "Bag" [.type (Tree.name "T")]] : TypeExpr).Named :=
    .path (by simp) (by simpa using hbag) (by simpa [Segment.types, Arg.ty] using hitem)
  have hput : Text.isIdentifier "put" = true := by decide
  exact ⟨hput, howner, by simpa [erasedParams, putMethod] using hty⟩

/-- The variable `T` is not told from a type of that name, and is told from the tuple of one. -/
theorem putMethod_signature_eq_iff :
    (putMethod (.var ⟨.owner, "T"⟩)).signature = (putMethod (.name "T")).signature ∧
      (putMethod (.var ⟨.owner, "T"⟩)).signature ≠
        (putMethod (.tuple [.var ⟨.owner, "T"⟩])).signature := by
  have hname : (Tree.name "T" : TypeExpr).Named := Tree.named_name (by decide)
  have hsingle : (Tree.tuple [Tree.name "T"] : TypeExpr).Named := .tuple (by simpa using hname)
  have hvar : (putMethod (.var ⟨.owner, "T"⟩)).Named := named_putMethod hname
  have hpath : (putMethod (.name "T")).Named := named_putMethod hname
  have htuple : (putMethod (.tuple [.var ⟨.owner, "T"⟩])).Named := named_putMethod hsingle
  refine ⟨(signature_eq_iff hvar hpath).2 ⟨rfl, rfl, rfl⟩, fun h => ?_⟩
  obtain ⟨-, -, hparams⟩ := (signature_eq_iff hvar htuple).1 h
  cases hparams

end Callable

end Buildwright
