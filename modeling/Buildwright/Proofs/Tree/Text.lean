import Buildwright.Proofs.Tree.Structure

/-!
# The text of a type

Equations for the text of a type, constructor by constructor, and for its characters. A list of
items is written as its first one and then every other one behind a separator.
-/

namespace Buildwright

namespace Text

theorem toList_joined_cons (sep s : String) (rest : List String) :
    (joined sep (s :: rest)).toList =
      s.toList ++ rest.flatMap fun t => sep.toList ++ t.toList := by
  induction rest generalizing s with
  | nil => simp
  | cons t rest ih =>
    rw [joined_cons_cons, String.toList_append, String.toList_append, ih t, List.flatMap_cons,
      List.append_assoc, List.append_assoc]

end Text

namespace Tree

/-! ## Texts -/

section Texts

variable (f : ν → String)

private theorem texts_eq (ts : List (Tree ν)) : texts f ts = ts.map (text f) := by
  induction ts with
  | nil => rfl
  | cons t ts ih => rw [texts, ih, List.map_cons]

private theorem argTexts_eq (as : List (Arg ν)) : argTexts f as = as.map (argText f) := by
  induction as with
  | nil => rfl
  | cons a as ih => rw [argTexts, ih, List.map_cons]

private theorem segmentTexts_eq (ss : List (Segment ν)) :
    segmentTexts f ss = ss.map (segmentText f) := by
  induction ss with
  | nil => rfl
  | cons s ss ih => rw [segmentTexts, ih, List.map_cons]

theorem text_var (v : ν) : (var v).text f = f v := by rw [text]

theorem text_path (rooted : Bool) (segments : List (Segment ν)) :
    (path rooted segments).text f =
      (if rooted then "::" else "") ++ Text.joined "::" (segments.map (segmentText f)) := by
  rw [text, segmentTexts_eq]

theorem text_tuple (elems : List (Tree ν)) :
    (tuple elems).text f =
      "(" ++ Text.joined ", " (elems.map (text f)) ++ (if elems.length = 1 then ",)" else ")") := by
  rcases elems with _ | ⟨t, _ | ⟨u, rest⟩⟩
  · rfl
  · rw [text]
    rfl
  · rw [text, texts_eq]
    · simp
    · intro elem h
      cases h

theorem text_array (elem : Tree ν) (len : String) :
    (array elem len).text f = "[" ++ elem.text f ++ "; " ++ len ++ "]" := by
  rw [text]

theorem segmentText_mk (ident : String) (args : List (Arg ν)) :
    segmentText f (.mk ident args) =
      ident ++ if args = [] then "" else "<" ++ Text.joined ", " (args.map (argText f)) ++ ">" := by
  cases args with
  | nil => rw [segmentText]; simp
  | cons a as =>
    rw [segmentText, argTexts_eq]
    · simp [String.append_assoc]
    · simp

end Texts

/-- Every path of the type has names, all segments are as `segment` says, and all array lengths as
`length` says. -/
inductive Formed (segment : Segment Empty → Prop) (length : String → Prop) : TypeExpr → Prop
  | path {rooted : Bool} {segments : List (Segment Empty)} (hne : segments ≠ [])
    (hsegments : ∀ s ∈ segments, segment s)
    (htypes : ∀ s ∈ segments, ∀ t ∈ s.types, Formed segment length t) :
    Formed segment length (.path rooted segments)
  | tuple {elems : List TypeExpr} (helems : ∀ t ∈ elems, Formed segment length t) :
    Formed segment length (.tuple elems)
  | array {elem : TypeExpr} {len : String} (helem : Formed segment length elem)
    (hlen : length len) : Formed segment length (.array elem len)

theorem Formed.imp {segment segment' : Segment Empty → Prop} {length length' : String → Prop}
    (hsegment : ∀ s, segment s → segment' s) (hlength : ∀ len, length len → length' len)
    {t : TypeExpr} (h : Formed segment length t) : Formed segment' length' t := by
  induction h with
  | path hne hsegments _ ih => exact .path hne (fun s hs => hsegment s (hsegments s hs)) ih
  | tuple _ ih => exact .tuple ih
  | array _ hlen ih => exact .array ih (hlength _ hlen)

/-- Each variable becomes the bare path of its name. -/
def spelled (f : ν → String) (t : Tree ν) : TypeExpr := t.bind fun v => name (f v)

theorem spelled_var (f : ν → String) (v : ν) : (var v).spelled f = name (f v) := bind_var _ v

private theorem argText_map {f : ν → String} {a : Arg ν}
    (h : (a.ty.spelled f).text Empty.elim = a.ty.text f) :
    argText Empty.elim (a.map (spelled f)) = argText f a := by
  cases a with
  | type t => exact h
  | binding n t =>
    rw [Arg.map, argText, argText]
    exact congrArg _ h

private theorem segmentText_map {f : ν → String} {s : Segment ν}
    (h : ∀ t ∈ s.types, (t.spelled f).text Empty.elim = t.text f) :
    segmentText Empty.elim (s.map (spelled f)) = segmentText f s := by
  cases s with
  | mk ident args =>
    have hargs : (args.map (Arg.map (spelled f))).map (argText Empty.elim) =
        args.map (argText f) := by
      rw [List.map_map]
      exact List.map_congr_left fun a ha => argText_map (h a.ty (List.mem_map_of_mem ha))
    simp only [Segment.map, Segment.ident_mk, Segment.args_mk, segmentText_mk, hargs,
      List.map_eq_nil_iff]

theorem toString_spelled (f : ν → String) (t : Tree ν) : (t.spelled f).toString = t.text f := by
  show (t.spelled f).text Empty.elim = t.text f
  induction t with
  | var v => simp [spelled_var, name, text_path, text_var, segmentText_mk]
  | path rooted segments ih =>
    have hsegments : (segments.map (Segment.map (spelled f))).map (segmentText Empty.elim) =
        segments.map (segmentText f) := by
      rw [List.map_map]
      exact List.map_congr_left fun s hs => segmentText_map (ih s hs)
    rw [spelled, bind_path, text_path, text_path, ← hsegments]
    rfl
  | tuple elems ih =>
    have helems : (elems.map (spelled f)).map (text Empty.elim) = elems.map (text f) := by
      rw [List.map_map]
      exact List.map_congr_left ih
    rw [spelled, bind_tuple, text_tuple, text_tuple, ← helems, List.length_map]
    rfl
  | array elem len ih => rw [spelled, bind_array, text_array, text_array, ← ih, spelled]

/-! ## Characters -/

def chars (t : TypeExpr) : List Char := t.toString.toList

end Tree

namespace Arg

def chars : Arg Empty → List Char
  | .type t => t.chars
  | .binding name t => name.toList ++ [' ', '=', ' '] ++ t.chars

end Arg

namespace Segment

def argChars (s : Segment Empty) : List Char :=
  match s.args with
  | [] => []
  | a :: rest => '<' :: a.chars ++ (rest.flatMap fun b => [',', ' '] ++ b.chars) ++ ['>']

def chars (s : Segment Empty) : List Char := s.ident.toList ++ s.argChars

end Segment

namespace Tree

theorem toList_argText (a : Arg Empty) : (argText Empty.elim a).toList = a.chars := by
  cases a with
  | type t => rfl
  | binding name t =>
    rw [argText, String.toList_append, String.toList_append]
    rfl

theorem toList_segmentText (s : Segment Empty) :
    (segmentText Empty.elim s).toList = s.chars := by
  cases s with
  | mk ident args =>
    rw [segmentText_mk, String.toList_append]
    refine congrArg (ident.toList ++ ·) ?_
    cases args with
    | nil => rfl
    | cons a rest =>
      simp only [reduceCtorEq, if_false, String.toList_append, List.map_cons,
        Text.toList_joined_cons, List.flatMap_map, toList_argText]
      rfl

theorem chars_path (rooted : Bool) (s : Segment Empty) (rest : List (Segment Empty)) :
    (path rooted (s :: rest)).chars =
      (if rooted then [':', ':'] else []) ++
        (s.chars ++ rest.flatMap fun u => [':', ':'] ++ u.chars) := by
  have hrooted : (if rooted then "::" else "").toList = if rooted then [':', ':'] else [] := by
    cases rooted <;> rfl
  rw [chars, TypeExpr.toString, text_path, String.toList_append, hrooted]
  simp only [List.map_cons, Text.toList_joined_cons, List.flatMap_map, toList_segmentText]
  rfl

theorem chars_unit : (tuple [] : TypeExpr).chars = ['(', ')'] := rfl

theorem chars_tuple (t : TypeExpr) (rest : List TypeExpr) :
    (tuple (t :: rest)).chars =
      '(' :: (t.chars ++ (rest.flatMap fun u => [',', ' '] ++ u.chars)) ++
        if rest = [] then [',', ')'] else [')'] := by
  rw [chars, TypeExpr.toString, text_tuple, String.toList_append, String.toList_append,
    List.map_cons, Text.toList_joined_cons, List.flatMap_map]
  cases rest with
  | nil =>
    rw [if_pos List.length_singleton, if_pos rfl]
    rfl
  | cons u rest =>
    rw [if_neg (by simp), if_neg (List.cons_ne_nil u rest)]
    rfl

theorem chars_array (elem : TypeExpr) (len : String) :
    (array elem len).chars = '[' :: elem.chars ++ [';', ' '] ++ len.toList ++ [']'] := by
  rw [chars, TypeExpr.toString, text_array]
  simp only [String.toList_append]
  rfl

end Tree

end Buildwright
