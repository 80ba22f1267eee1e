import Mathlib
import Buildwright.Source.Fragment

/-!
# What the writer adds

Writing a fragment adds text at the end and comes back to the level it began at. The text depends on
the fragment and the level alone, and a deeper level only moves the lines to the right.
-/

namespace Buildwright

namespace Text

@[simp] theorem lines_nil : lines [] = "" := rfl

theorem lines_cons (s : String) (rest : List String) :
    lines (s :: rest) = s ++ "\n" ++ lines rest :=
  rfl

theorem lines_append (left right : List String) :
    lines (left ++ right) = lines left ++ lines right := by
  induction left with
  | nil => simp
  | cons s left ih =>
    rw [List.cons_append, lines_cons, lines_cons, ih]
    simp only [String.append_assoc]

def linesOf (s : String) : List String := (s.toList.splitOn '\n').dropLast.map String.ofList

theorem splitOn_lines {items : List String} (h : ∀ s ∈ items, '\n' ∉ s.toList) :
    (lines items).toList.splitOn '\n' = items.map String.toList ++ [[]] := by
  induction items with
  | nil => rfl
  | cons s rest ih =>
    obtain ⟨hs, hrest⟩ := List.forall_mem_cons.1 h
    have hbreak : ∀ c ∈ s.toList, (c == '\n') = false := fun c hc =>
      beq_false_of_ne fun heq => hs (heq ▸ hc)
    have hchars : (lines (s :: rest)).toList = s.toList ++ '\n' :: (lines rest).toList := by
      rw [lines_cons, String.toList_append, String.toList_append, List.append_assoc]
      rfl
    rw [List.splitOn] at ih ⊢
    rw [hchars, List.splitOnP_append_cons _ _ rfl, List.splitOnP_eq_singleton hbreak, ih hrest]
    rfl

theorem linesOf_lines {items : List String} (h : ∀ s ∈ items, '\n' ∉ s.toList) :
    linesOf (lines items) = items := by
  rw [linesOf, splitOn_lines h, List.dropLast_concat, List.map_map]
  simp

end Text

namespace Source

open Text

namespace Fragment

/-- Induction over fragments. In the case of a block the hypothesis is there for all of its body. -/
@[elab_as_elim, induction_eliminator]
theorem inductionOn {motive : Fragment → Prop} (f : Fragment) (line : ∀ s, motive (.line s))
    (doc : ∀ s, motive (.doc s)) (blank : motive .blank)
    (block : ∀ header body close, (∀ g ∈ body, motive g) → motive (.block header body close)) :
    motive f := by
  refine Fragment.rec (motive_1 := motive) (motive_2 := fun fs => ∀ g ∈ fs, motive g)
    line doc blank block ?none ?some f
  case none => simp
  case some => exact fun _ _ hf hfs => List.forall_mem_cons.2 ⟨hf, hfs⟩

/-- What a writer adds for the fragment at a level. -/
def textAt (level : Nat) (f : Fragment) : String := ((⟨"", level⟩ : Writer).apply f).text

end Fragment

namespace Writer

open Fragment

@[simp] theorem indent_zero : indent 0 = "" := rfl

theorem indent_add (m n : Nat) : indent (m + n) = indent m ++ indent n := repeated_add m n _

theorem applyAll_of_forall {fs : List Fragment}
    (h : ∀ f ∈ fs, ∀ w : Writer, w.apply f = ⟨w.text ++ f.textAt w.level, w.level⟩) (w : Writer) :
    w.applyAll fs = ⟨w.text ++ String.join (fs.map (textAt w.level)), w.level⟩ := by
  induction fs generalizing w with
  | nil => simp [applyAll]
  | cons f rest ih =>
    obtain ⟨hf, hrest⟩ := List.forall_mem_cons.1 h
    rw [applyAll, hf w, ih hrest, List.map_cons, String.join_cons, String.append_assoc]

theorem apply_eq (w : Writer) (f : Fragment) :
    w.apply f = ⟨w.text ++ f.textAt w.level, w.level⟩ := by
  induction f generalizing w with
  | line s => simp [textAt, apply, pushLine, String.append_assoc]
  | doc s => simp [textAt, apply, pushLine, String.append_assoc]
  | blank => simp [textAt, apply, pushBlank]
  | block header body close ih =>
    rw [textAt]
    cases close <;>
      simp [apply, applyAll_of_forall ih, pushLine, deeper, shallower, String.append_assoc]

theorem applyAll_eq (w : Writer) (fs : List Fragment) :
    w.applyAll fs = ⟨w.text ++ String.join (fs.map (textAt w.level)), w.level⟩ :=
  applyAll_of_forall (fun f _ w => apply_eq w f) w

end Writer

namespace Fragment

open Writer

/-! ## The lines of a fragment -/

theorem textAt_line (n : Nat) (s : String) : (line s).textAt n = indent n ++ s ++ "\n" := by
  simp [textAt, apply, pushLine]

theorem textAt_doc (n : Nat) (s : String) :
    (doc s).textAt n = indent n ++ ("/// " ++ s) ++ "\n" := by
  simp [textAt, apply, pushLine]

theorem textAt_blank (n : Nat) : blank.textAt n = "\n" := by
  simp [textAt, apply, pushBlank]

theorem textAt_block (n : Nat) (header : String) (body : List Fragment) (close : Option String) :
    (block header body close).textAt n =
      indent n ++ header ++ "\n" ++ String.join (body.map (textAt (n + 1))) ++
        String.join (close.toList.map fun s => indent n ++ s ++ "\n") := by
  rw [textAt]
  cases close <;> simp [apply, applyAll_eq, pushLine, deeper, shallower, String.append_assoc]

mutual

/-- What stands behind each line of a fragment: a text of the fragment, or nothing where the line is
that of a blank fragment. -/
def origins : Fragment → List (Option String)
  | .line s => [some s]
  | .doc s => [some s]
  | .blank => [none]
  | .block header body close => some header :: originsOfAll body ++ close.toList.map some

def originsOfAll : List Fragment → List (Option String)
  | [] => []
  | f :: rest => f.origins ++ originsOfAll rest

end

/-- A line with `n` indents in front, unless it is that of a blank fragment. -/
def indented (n : Nat) (origin : Option String) (line : String) : String :=
  if origin.isNone then line else indent n ++ line

theorem zipWith_indented_zero {origins : List (Option String)} {items : List String}
    (h : items.length = origins.length) : List.zipWith (indented 0) origins items = items := by
  apply List.ext_getElem
  · simp [h]
  · intro i _ _
    simp [indented]

/-- A text at each level that has one line for each origin, and at all levels the same lines but for
the indents. -/
def Laid (origins : List (Option String)) (text : Nat → String) : Prop :=
  ∃ items : List String, items.length = origins.length ∧ (∀ s ∈ items, '\n' ∉ s.toList) ∧
    ∀ n, text n = lines (List.zipWith (indented n) origins items)

theorem Laid.nil : Laid [] fun _ => "" := ⟨[], rfl, by simp, fun _ => rfl⟩

theorem Laid.append {left right : List (Option String)} {leftText rightText : Nat → String}
    (hleft : Laid left leftText) (hright : Laid right rightText) :
    Laid (left ++ right) fun n => leftText n ++ rightText n := by
  obtain ⟨items, hlength, hunbroken, htext⟩ := hleft
  obtain ⟨items', hlength', hunbroken', htext'⟩ := hright
  refine ⟨items ++ items', ?_, List.forall_mem_append.2 ⟨hunbroken, hunbroken'⟩, fun n => ?_⟩
  · rw [List.length_append, List.length_append, hlength, hlength']
  · rw [List.zipWith_append hlength.symm, lines_append, ← htext, ← htext']

theorem indent_unbroken (n : Nat) : '\n' ∉ (indent n).toList := by
  induction n with
  | zero => simp
  | succ n ih => simpa [indent, repeated_succ] using ih

theorem Laid.line (origin : String) {s : String} (h : '\n' ∉ s.toList) (depth : Nat) :
    Laid [some origin] fun n => indent (n + depth) ++ s ++ "\n" := by
  refine ⟨[indent depth ++ s], rfl, ?_, fun n => ?_⟩
  · simp [indent_unbroken, h]
  · simp [indented, lines_cons, indent_add, String.append_assoc]

theorem Laid.blank : Laid [none] fun _ => "\n" :=
  ⟨[""], rfl, by simp, fun n => by simp [indented, lines_cons]⟩

theorem laid_all {fs : List Fragment} {depth : Nat}
    (h : ∀ f ∈ fs, Laid f.origins fun n => f.textAt (n + depth)) :
    Laid (originsOfAll fs) fun n => String.join (fs.map (textAt (n + depth))) := by
  induction fs with
  | nil => exact .nil
  | cons f rest ih =>
    obtain ⟨hf, hrest⟩ := List.forall_mem_cons.1 h
    simp only [originsOfAll, List.map_cons, String.join_cons]
    exact hf.append (ih hrest)

theorem some_mem_originsOfAll {fs : List Fragment} {s : String} :
    some s ∈ originsOfAll fs ↔ ∃ f ∈ fs, some s ∈ f.origins := by
  induction fs with
  | nil => simp [originsOfAll]
  | cons f rest ih => simp [originsOfAll, ih]

theorem laid {f : Fragment} (h : ∀ s, some s ∈ f.origins → '\n' ∉ s.toList) (depth : Nat) :
    Laid f.origins fun n => f.textAt (n + depth) := by
  induction f generalizing depth with
  | line s =>
    simp only [textAt_line]
    exact .line s (h s (by simp [origins])) depth
  | doc s =>
    simp only [textAt_doc]
    have hs := h s (by simp [origins])
    exact .line s (by simpa using hs) depth
  | blank =>
    simp only [textAt_blank]
    exact .blank
  | block header body close ih =>
    have hheader := h header (by simp [origins])
    -- The body stands one block deeper, at every level at which the fragment may be written.
    have hbody : Laid (originsOfAll body) fun n =>
        String.join (body.map (textAt (n + (depth + 1)))) := by
      apply laid_all
      intro g hg
      apply ih g hg
      intro s hs
      apply h s
      simp only [origins, List.mem_append, List.mem_cons, some_mem_originsOfAll]
      exact .inl (.inr ⟨g, hg, hs⟩)
    have hclose : Laid (close.toList.map some) fun n =>
        String.join (close.toList.map fun s => indent (n + depth) ++ s ++ "\n") := by
      cases close with
      | none => exact .nil
      | some s => simpa using Laid.line s (h s (by simp [origins])) depth
    have hblock := ((Laid.line header hheader depth).append hbody).append hclose
    simpa only [textAt_block, origins, Nat.add_assoc, List.singleton_append] using hblock

end Fragment

namespace Writer

open Fragment

/-- Writing adds text at the end and comes back to the level it began at. What it adds depends on
the fragment and the level alone, a list adds the texts of its fragments one after the other, and
where no text of the fragment holds a line break, a deeper level only puts its indents in front of
each line that is not the line of a blank fragment. -/
theorem apply_indents :
    (∀ (w : Writer) (f : Fragment), w.apply f = ⟨w.text ++ f.textAt w.level, w.level⟩) ∧
      (∀ (w : Writer) (fs : List Fragment),
        w.applyAll fs = ⟨w.text ++ String.join (fs.map (textAt w.level)), w.level⟩) ∧
      ∀ f : Fragment, (∀ s, some s ∈ f.origins → '\n' ∉ s.toList) →
        (linesOf (f.textAt 0)).length = f.origins.length ∧
          ∀ n, f.textAt n = lines (List.zipWith (indented n) f.origins (linesOf (f.textAt 0))) := by
  refine ⟨apply_eq, applyAll_eq, fun f hunbroken => ?_⟩
  obtain ⟨items, hlength, hitems, htext⟩ := laid hunbroken 0
  have hzero : f.textAt 0 = lines items := by
    rw [← zipWith_indented_zero hlength]
    exact htext 0
  rw [hzero, linesOf_lines hitems]
  exact ⟨hlength, htext⟩

/-- A block with a blank fragment in it, one level deeper. -/
theorem apply_indents_module :
    let f : Fragment := .braced "mod a \x7b" [.line "use std::fmt;", .blank, .line "struct A;"]
    (∀ s, some s ∈ f.origins → '\n' ∉ s.toList) ∧
      f.textAt 1 =
        "    mod a \x7b\n        use std::fmt;\n\n        struct A;\n    \x7d\n" := by
  intro f
  have hunbroken : ∀ s, some s ∈ f.origins → '\n' ∉ s.toList := by
    have horigins : f.origins =
        [some "mod a \x7b", some "use std::fmt;", none, some "struct A;", some "\x7d"] := rfl
    simp [horigins]
  refine ⟨hunbroken, ?_⟩
  rw [(apply_indents.2.2 f hunbroken).2 1]
  decide

end Writer

end Source

end Buildwright
