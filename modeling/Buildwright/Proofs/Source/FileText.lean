import Buildwright.Proofs.Source.Writing
import Buildwright.Source.BuildersFile

/-!
# The text of a file

One writer writes the header's uses and all builders in a row. It is at the outermost level between
any two of them, so that the file is the texts of its parts, each as if it stood alone.
-/

namespace Buildwright

namespace Text

theorem joined_cons (sep s : String) (rest : List String) :
    joined sep (s :: rest) = s ++ String.join (rest.map (sep ++ ·)) := by
  induction rest generalizing s with
  | nil => simp
  | cons t rest ih =>
    rw [joined_cons_cons, ih t, List.map_cons, String.join_cons]
    simp only [String.append_assoc]

theorem joined_append_cons (sep s : String) (before after : List String) :
    joined sep (before ++ s :: after) =
      String.join (before.map (· ++ sep)) ++ joined sep (s :: after) := by
  induction before with
  | nil => simp
  | cons t before ih =>
    rw [List.map_cons, String.join_cons, String.append_assoc, ← ih]
    cases before <;> simp [joined_cons_cons]

end Text

namespace Source

open Text Fragment

theorem render_eq (fs : List Fragment) : render fs = String.join (fs.map (textAt 0)) := by
  rw [render, Writer.applyAll_eq]
  simp [Writer.empty]

@[simp] theorem render_nil : render [] = "" := rfl

theorem render_append (left right : List Fragment) :
    render (left ++ right) = render left ++ render right := by
  rw [render_eq, render_eq, render_eq, List.map_append, String.join_append]

theorem render_cons (f : Fragment) (rest : List Fragment) :
    render (f :: rest) = f.textAt 0 ++ render rest := by
  rw [render_eq, render_eq, List.map_cons, String.join_cons]

theorem render_spaced (items : List (List Fragment)) :
    render (Impl.spaced items) = joined "\n" (items.map render) := by
  induction items with
  | nil => rfl
  | cons fs rest ih =>
    cases rest with
    | nil => rfl
    | cons gs rest =>
      rw [Impl.spaced, render_append, render_cons, ih, textAt_blank, ← String.append_assoc]
      · rfl
      · simp

/-! ## Uses -/

def useLine (path : String) : String :=
  "use " ++ String.ofList (path.toList.rdropWhile (· == ';')) ++ ";"

theorem render_uses (uses : List String) :
    render (uses.flatMap useFragments) = lines (uses.map useLine) := by
  induction uses with
  | nil => rfl
  | cons path rest ih =>
    have hline : render (useFragments path) = useLine path ++ "\n" := by
      rw [useFragments, render_cons, textAt_line]
      simp [useLine, List.rdropWhile]
    rw [List.flatMap_cons, render_append, hline, ih, List.map_cons, lines_cons]

/-! ## Builders -/

def builderText (deriveDebug : Bool) (b : Builder) : String :=
  render (layOut b deriveDebug).fragments

theorem render_impl (i : Impl) :
    render i.fragments =
      i.header ++ "\n" ++
        String.join ((Impl.spaced (i.methods.map Function.fragments)).map (textAt 1)) ++
        "\x7d\n" := by
  simp [Impl.fragments, render_cons, Fragment.braced, textAt_block, String.append_assoc]

theorem exists_render_struct (c : BuilderCode) :
    ∃ rest, render c.struct.fragments = "/// Builder for `" ++ rest := by
  obtain ⟨fs, hfs⟩ : ∃ fs, c.struct.fragments = .doc ("Builder for `" ++ c.source ++ "`.") :: fs :=
    ⟨_, rfl⟩
  have hopening : "/// " ++ "Builder for `" = "/// Builder for `" := by decide
  refine ⟨c.source ++ "`." ++ "\n" ++ render fs, ?_⟩
  rw [hfs, render_cons, textAt_doc, Writer.indent_zero, String.empty_append, ← hopening]
  simp only [String.append_assoc]

theorem exists_render_impls (c : BuilderCode) :
    ∃ front, render (c.inherentImpl.fragments ++
      if c.hasDefault then .blank :: c.defaultImpl.fragments else []) = front ++ "\x7d\n" := by
  rw [render_append, render_impl]
  by_cases h : c.hasDefault = true
  · rw [if_pos h, render_cons, render_impl]
    rw [← String.append_assoc, ← String.append_assoc]
    exact ⟨_, rfl⟩
  · rw [if_neg h, render_nil, String.append_empty]
    exact ⟨_, rfl⟩

theorem exists_builderText_eq (deriveDebug : Bool) (b : Builder) :
    ∃ middle, builderText deriveDebug b = "/// Builder for `" ++ middle ++ "\x7d\n" := by
  obtain ⟨rest, hstruct⟩ := exists_render_struct (layOut b deriveDebug)
  obtain ⟨front, himpls⟩ := exists_render_impls (layOut b deriveDebug)
  refine ⟨rest ++ "\n" ++ front, ?_⟩
  rw [builderText, BuilderCode.fragments, List.append_assoc, List.cons_append, render_append,
    render_cons, textAt_blank, hstruct, himpls]
  simp only [String.append_assoc]

theorem builderText_ne_empty (deriveDebug : Bool) (b : Builder) :
    builderText deriveDebug b ≠ "" := by
  obtain ⟨middle, h⟩ := exists_builderText_eq deriveDebug b
  rw [h]
  simp

/-! ## The file -/

theorem render_file (f : File) :
    f.render =
      lines (f.uses.map useLine) ++ (if f.uses = [] ∨ f.items = [] then "" else "\n") ++
        joined "\n" (f.items.map render) := by
  rw [File.render, File.fragments, render_append, render_append, render_uses, render_spaced]
  by_cases h : f.uses = [] ∨ f.items = []
  · simp [h]
  · simp [h, render_cons, textAt_blank]

theorem render_file_eq_empty {f : File} (hitems : ∀ fs ∈ f.items, render fs ≠ "") :
    f.render = "" ↔ f.uses = [] ∧ f.items = [] := by
  rw [render_file]
  constructor
  · intro h
    constructor
    · cases huses : f.uses with
      | nil => rfl
      | cons path rest => simp [huses, lines_cons] at h
    · cases hfile : f.items with
      | nil => rfl
      | cons fs rest =>
        have hfs : render fs ≠ "" := hitems fs (hfile ▸ List.mem_cons_self)
        simp [hfile, joined_cons, hfs] at h
  · rintro ⟨huses, hfile⟩
    simp [huses, hfile]

def fileOf (config : GeneratorConfig) (builders : List Builder) : File where
  uses := config.uses
  items := builders.map fun b => (layOut b config.deriveDebug).fragments

theorem render_fileOf (config : GeneratorConfig) (builders : List Builder) :
    (fileOf config builders).render =
      lines (config.uses.map useLine) ++
        (if config.uses = [] ∨ builders = [] then "" else "\n") ++
        joined "\n" (builders.map (builderText config.deriveDebug)) := by
  rw [render_file, fileOf, List.map_map]
  simp only [List.map_eq_nil_iff]
  rfl

theorem render_fileOf_eq_empty (config : GeneratorConfig) (builders : List Builder) :
    (fileOf config builders).render = "" ↔ config.uses = [] ∧ builders = [] := by
  rw [render_file_eq_empty]
  · simp [fileOf]
  · intro fs hfs
    obtain ⟨b, _, rfl⟩ := List.mem_map.1 hfs
    exact builderText_ne_empty config.deriveDebug b

theorem render_fileOf_append_cons (config : GeneratorConfig) (before after : List Builder)
    (b : Builder) :
    (fileOf config (before ++ b :: after)).render =
      lines (config.uses.map useLine) ++ (if config.uses = [] then "" else "\n") ++
        String.join (before.map fun b => builderText config.deriveDebug b ++ "\n") ++
        builderText config.deriveDebug b ++
        String.join (after.map fun b => "\n" ++ builderText config.deriveDebug b) := by
  rw [render_fileOf, List.map_append, List.map_cons, joined_append_cons, joined_cons, List.map_map,
    List.map_map]
  simp only [List.append_eq_nil_iff, reduceCtorEq, and_false, or_false, String.append_assoc]
  rfl

theorem fileText_eq_under (config : GeneratorConfig) (builders : List Builder) :
    fileText config builders =
      header ++ "\n" ++
        if config.uses = [] ∧ builders = [] then ""
        else "\n" ++ (fileOf config builders).render := by
  show (fileOf config builders).renderUnder header = _
  rw [File.renderUnder]
  by_cases h : config.uses = [] ∧ builders = []
  · rw [if_pos h, (render_fileOf_eq_empty config builders).2 h]
    rfl
  · have hempty : (fileOf config builders).render.isEmpty = false := by
      rw [← Bool.not_eq_true, String.isEmpty_iff]
      exact mt (render_fileOf_eq_empty config builders).1 h
    have hbreaks : "\n\n" = "\n" ++ "\n" := by decide
    rw [if_neg h, hempty, hbreaks]
    simp only [Bool.false_eq_true, if_false, String.append_assoc]

/-- A file has the header, and unless it is empty a blank line and its parts: a line for each use, a
blank line if there are both uses and builders, and the builders' own texts with one blank line
between two neighbours. No builder's text starts or ends with a blank line. What stands before and
behind a builder does not depend on it. -/
theorem fileText_eq (config : GeneratorConfig) :
    (∀ builders, fileText config builders =
      header ++ "\n" ++
        if config.uses = [] ∧ builders = [] then ""
        else
          "\n" ++ lines (config.uses.map useLine) ++
            (if config.uses = [] ∨ builders = [] then "" else "\n") ++
            joined "\n" (builders.map (builderText config.deriveDebug))) ∧
      (∀ b, ∃ middle,
        builderText config.deriveDebug b = "/// Builder for `" ++ middle ++ "\x7d\n") ∧
      ∀ before after, ∃ front back, ∀ b,
        fileText config (before ++ b :: after) =
          front ++ builderText config.deriveDebug b ++ back := by
  refine ⟨?parts, exists_builderText_eq config.deriveDebug, ?independent⟩
  case parts =>
    intro builders
    rw [fileText_eq_under, render_fileOf]
    simp only [String.append_assoc]
  case independent =>
    intro before after
    refine ⟨header ++ "\n" ++ "\n" ++ lines (config.uses.map useLine) ++
        (if config.uses = [] then "" else "\n") ++
        String.join (before.map fun b => builderText config.deriveDebug b ++ "\n"),
      String.join (after.map fun b => "\n" ++ builderText config.deriveDebug b), fun b => ?_⟩
    rw [fileText_eq_under, if_neg (by simp), render_fileOf_append_cons]
    simp only [← String.append_assoc]

end Source

end Buildwright
