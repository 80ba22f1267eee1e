import Buildwright.Proofs.Manifest.Decoding
import Buildwright.Proofs.Pipeline.Builders
import Buildwright.Proofs.Pipeline.Duplicates
import Buildwright.Proofs.Pipeline.Emission
import Buildwright.Proofs.Text.Pascal

/-!
# Builders of one type name

The lint compares the names of builders as they are given, the emission compares them in pascal
case. So whatever the lint finds stops the emission, and the emission is stopped by more.
-/

namespace Buildwright

/-! ## Names that the lint finds twice -/

namespace Lint

/-- The lint has an error to report if and only if two builders have one name. -/
theorem exists_duplicate_iff (builders : List Builder) :
    (∃ d ∈ duplicateBuilder.check builders, d.severity = .error) ↔
      ¬ (builders.map (·.name)).Nodup := by
  have hnodup : (builders.map (·.name)).Nodup ↔
      ∀ first other : Fin builders.length, first < other →
        builders[first].name ≠ builders[other].name := by
    rw [List.Nodup, List.pairwise_map, List.pairwise_iff_getElem]
    exact ⟨fun h i j hij => h i j i.2 j.2 hij, fun h i j hi hj hij => h ⟨i, hi⟩ ⟨j, hj⟩ hij⟩
  rw [hnodup, check_eq_map_pairs]
  constructor
  · rintro ⟨d, hd, _⟩ hdistinct
    obtain ⟨⟨first, other⟩, hpair, _⟩ := List.mem_map.1 hd
    obtain ⟨hlt, hname, _⟩ := (mem_pairs_positions builders).1 hpair
    exact hdistinct first other hlt hname
  · intro h
    push Not at h
    obtain ⟨earlier, other, hlt, hname⟩ := h
    obtain ⟨first, hfilter⟩ := exists_filter_pairs builders ⟨earlier, hlt, hname⟩
    have hpair : (first, other) ∈ (positions builders).pairs :=
      List.mem_of_mem_filter (hfilter ▸ List.mem_singleton_self (first, other))
    exact ⟨clash builders (first, other), List.mem_map_of_mem hpair, rfl⟩

end Lint

/-! ## Names that stop the emission -/

namespace Source

/-- Every reserved word starts with a small letter, so no type is written raw. -/
theorem typeName_eq_pascal (s : String) : typeName s = Text.pascal s := by
  have hsmall : ∀ w ∈ reservedWords, w.toList.head?.any Char.isLower = true := by decide
  have hplain : isReserved (Text.pascal s) = false := by
    rw [Bool.eq_false_iff]
    intro hreserved
    obtain ⟨x, hx, hlower⟩ :=
      (Option.any_eq_true _ _).1 (hsmall _ (List.contains_iff_mem.1 hreserved))
    rw [Text.toList_pascal] at hx
    rw [Text.isLower_of_head?_pascalFrom hx] at hlower
    cases hlower
  rw [typeName, safeName, hplain]
  rfl

/-- The scan finds nothing if and only if the type names are distinct and none of them is known
before it. -/
theorem collisionAfter_eq_none_iff (seen : List (String × SignatureKey))
    (builders : List Builder) :
    collisionAfter seen builders = none ↔
      (builders.map fun b => typeName b.name).Nodup ∧
        ∀ b ∈ builders, typeName b.name ∉ seen.map (·.1) := by
  induction builders generalizing seen with
  | nil => simp [collisionAfter]
  | cons b rest ih =>
    rw [collisionAfter, List.map_cons, List.nodup_cons, List.forall_mem_cons]
    cases hfound : seen.lookup (typeName b.name) with
    | some first =>
      have hmem : typeName b.name ∈ seen.map (·.1) := by
        obtain ⟨before, after, rfl, _⟩ := List.lookup_eq_some_iff.1 hfound
        simp
      exact iff_of_false nofun fun h => h.2.1 hmem
    | none =>
      have hnew : typeName b.name ∉ seen.map (·.1) := by
        rintro hmem
        obtain ⟨entry, hentry, hname⟩ := List.mem_map.1 hmem
        have hne := List.lookup_eq_none_iff.1 hfound entry hentry
        simp [hname] at hne
      have hrest : (∀ b' ∈ rest, typeName b'.name ∉
            ((typeName b.name, b.source) :: seen).map (·.1)) ↔
          typeName b.name ∉ rest.map (fun b' => typeName b'.name) ∧
            ∀ b' ∈ rest, typeName b'.name ∉ seen.map (·.1) := by
        simp only [List.map_cons, List.mem_cons, not_or, List.mem_map (f := fun b' => _),
          not_exists, not_and]
        exact ⟨fun h => ⟨fun b' hb' => (h b' hb').1, fun b' hb' => (h b' hb').2⟩,
          fun h b' hb' => ⟨h.1 b' hb', h.2 b' hb'⟩⟩
      rw [ih, hrest, and_iff_right hnew, ← and_assoc, and_comm (a := List.Nodup _)]

/-- The emission is stopped if and only if two builders have one name in pascal case. -/
theorem isSome_collision?_iff (builders : List Builder) :
    (collision? builders).isSome = true ↔
      ¬ (builders.map fun b => Text.pascal b.name).Nodup := by
  rw [← Option.ne_none_iff_isSome, collision?, ne_eq, collisionAfter_eq_none_iff]
  simp only [typeName_eq_pascal, List.map_nil, List.not_mem_nil, not_false_eq_true, implies_true,
    and_true]

end Source

/-! ## Checking and generating -/

namespace Compilation

/-- Nothing is said of a collision but where there is one, whatever happens to the file. -/
theorem perform_emitTo_eq_collision {c : Compilation} (t : FileTree) (dir : Path)
    (e : Source.Collision) :
    (t.perform (c.emitTo dir)).1 = .error (.collision e) ↔
      Source.collision? c.builders = some e := by
  rw [← preview_eq_error]
  cases hpreview : c.preview with
  | error e' =>
    rw [perform_emitTo_of_error t dir hpreview]
    simp
  | ok file =>
    rw [perform_emitTo_of_ok t dir hpreview]
    cases (t.perform ((dir.join ⟨file.path⟩).write .ifChanged file.content)).1 <;>
      simp [Except.mapError, Except.map]

end Compilation

def GenerationFault.collision? : GenerationFault → Option Source.Collision
  | .preview c => some c
  | .emission (.collision c) => some c
  | .emission (.unwritten _) => none

namespace Manifest

theorem hasErrors_eq_false_of_isValid {m : Manifest} {path : String}
    (h : (m.check path).isValid = true) : (Compilation.ofManifest m).hasErrors = false := by
  rw [Verdict.isValid, Bool.not_eq_true', List.any_eq_false] at h
  rw [Compilation.hasErrors, Bool.not_eq_false', List.isEmpty_iff, Compilation.errors,
    List.filter_eq_nil_iff]
  exact h

theorem nodup_names_of_not_hasErrors {m : Manifest}
    (herrors : (Compilation.ofManifest m).hasErrors = false) :
    ((Compilation.ofManifest m).builders.map (·.name)).Nodup := by
  by_contra hnames
  obtain ⟨d, hd, herror⟩ := (Lint.exists_duplicate_iff _).2 hnames
  refine Compilation.not_mem_of_not_hasErrors herrors herror (List.mem_append_right _ ?_)
  exact List.mem_flatMap.2 ⟨Lint.duplicateBuilder, List.mem_cons_self, hd⟩

/-- A manifest without errors is not shown or not written for a collision if and only if there is
one. -/
theorem generate_collision?_iff {m : Manifest}
    (herrors : (Compilation.ofManifest m).hasErrors = false) (t : FileTree) (dir : Path)
    (isDryRun : Bool) (e : Source.Collision) :
    (∃ fault, (t.perform (m.generate dir isDryRun)).1 = .error fault ∧
        fault.collision? = some e) ↔
      Source.collision? (Compilation.ofManifest m).builders = some e := by
  rw [perform_generate]
  simp only [herrors, Bool.false_eq_true, if_false]
  cases isDryRun with
  | true =>
    rw [← Compilation.preview_eq_error]
    cases (Compilation.ofManifest m).preview <;>
      simp [GenerationFault.collision?, Except.mapError, Except.map]
  | false =>
    rw [← Compilation.perform_emitTo_eq_collision t dir]
    cases (t.perform ((Compilation.ofManifest m).emitTo dir)).1 with
    | error e => cases e <;> simp [GenerationFault.collision?, Except.mapError, Except.map]
    | ok emission => simp [Except.mapError, Except.map]

/-- The lint has an error if and only if two builders have one name, and the emission fails if and
only if two have one name in pascal case. So they agree on a list of builders unless all names are
distinct and two of them are one in pascal case, and a valid manifest is refused for a collision if
and only if it has two such builders. -/
theorem lint_agrees_iff (builders : List Builder) :
    ((∃ d ∈ Lint.duplicateBuilder.check builders, d.severity = .error) ↔
        ¬ (builders.map (·.name)).Nodup) ∧
      ((Source.collision? builders).isSome = true ↔
        ¬ (builders.map fun b => Text.pascal b.name).Nodup) ∧
      (((∃ d ∈ Lint.duplicateBuilder.check builders, d.severity = .error) ↔
          (Source.collision? builders).isSome = true) ↔
        ((builders.map (·.name)).Nodup → (builders.map fun b => Text.pascal b.name).Nodup)) ∧
      ∀ (m : Manifest) (path : String), (m.check path).isValid = true →
        ∀ (t : FileTree) (dir : Path) (isDryRun : Bool),
          (∃ fault e, (t.perform (m.generate dir isDryRun)).1 = .error fault ∧
              fault.collision? = some e) ↔
            ∃ b ∈ (Compilation.ofManifest m).builders, ∃ b' ∈ (Compilation.ofManifest m).builders,
              b.name ≠ b'.name ∧ Text.pascal b.name = Text.pascal b'.name := by
  have hcase (bs : List Builder) : (bs.map fun b => Text.pascal b.name) =
      (bs.map (·.name)).map Text.pascal := by
    rw [List.map_map]
    rfl
  have hlint := Lint.exists_duplicate_iff builders
  have hemission := Source.isSome_collision?_iff builders
  refine ⟨hlint, hemission, ?_, fun m path hvalid t dir isDryRun => ?_⟩
  · rw [hlint, hemission, not_iff_not]
    refine ⟨fun h => h.1, fun h => ⟨h, fun hpascal => ?_⟩⟩
    rw [hcase] at hpascal
    exact hpascal.of_map
  · have herrors := hasErrors_eq_false_of_isValid hvalid
    have hnames := nodup_names_of_not_hasErrors herrors
    rw [exists_comm]
    simp only [generate_collision?_iff herrors, ← Option.isSome_iff_exists,
      Source.isSome_collision?_iff, hcase, List.nodup_map_iff_inj_on hnames]
    simp only [List.forall_mem_map, not_forall, exists_prop, and_comm (a := _ ≠ _)]

/-! ## A manifest that is valid and collides -/

/-- Two functions of `Pile`. The name that the second one gives to its builder is the name of the
first one's builder in snake case. -/
def pileText : String :=
  Text.lines
    ["[[impl]]", "self = \"Pile\"",
      "[[impl.fn]]", "name = \"add\"", "args = [\"x: u8\"]", "call_builder = \x7b\x7d",
      "[[impl.fn]]", "name = \"add_one\"", "args = [\"x: u8\"]",
      "call_builder = \x7b class_name = \"add_builder\" \x7d"]

def pileFunction (name : String) (className : Option String) : FunctionDecl where
  name := name
  receiver := none
  generics := []
  args := [⟨"x", .name "u8"⟩]
  returns := none
  isConstructor := false
  annotation := some ⟨className, none⟩

def pileBlock : ImplBlock where
  selfTy := .name "Pile"
  generics := []
  functions := [pileFunction "add" none, pileFunction "add_one" (some "add_builder")]

def pileManifest : Manifest := ⟨.default, [pileBlock]⟩

set_option maxRecDepth 10000 in
theorem read_pileText : read pileText = .ok pileManifest :=
  read_eq_ok (by decide +kernel) (by decide +kernel)

def pileDeclaration (name : String) (className : Option String) : Declaration :=
  ⟨pileBlock, pileFunction name className⟩

def pileBuilder (name function source : String) : Builder where
  name := name
  source := ⟨source⟩
  typeVars := []
  receiver := none
  fields := [⟨"x", .name "u8", .integer⟩]
  setters := [⟨"setX", "x"⟩]
  terminalName := "build"
  terminal := { target := .associated (.name "Pile") function, args := ["x"], result := .unit }
  phantom := []

def pileBuilders : List Builder :=
  [pileBuilder "AddBuilder" "add" "Pile::add(u8)",
    pileBuilder "add_builder" "add_one" "Pile::add_one(u8)"]

theorem ofManifest_pileManifest :
    (Compilation.ofManifest pileManifest).builders = pileBuilders ∧
      (Compilation.ofManifest pileManifest).diagnostics = [] := by
  have hadd : (pileDeclaration "add" none).callable.generate =
      .ok (pileBuilder "AddBuilder" "add" "Pile::add(u8)") := by
    cbv
  have haddOne : (pileDeclaration "add_one" (some "add_builder")).callable.generate =
      .ok (pileBuilder "add_builder" "add_one" "Pile::add_one(u8)") := by
    cbv
  have hextract : Compilation.extractAll [] pileManifest.annotated =
      ([(pileDeclaration "add" none).callable,
        (pileDeclaration "add_one" (some "add_builder")).callable], []) := rfl
  have hlints : (Lint.all.flatMap fun l => l.check pileBuilders) = [] := by decide
  have hbuilders : Compilation.buildersOf [(pileDeclaration "add" none).callable,
      (pileDeclaration "add_one" (some "add_builder")).callable] = pileBuilders := by
    simp only [Compilation.buildersOf, List.filterMap_cons, hadd, haddOne]
    rfl
  have hfaults : Compilation.faultsOf [(pileDeclaration "add" none).callable,
      (pileDeclaration "add_one" (some "add_builder")).callable] = [] := by
    simp only [Compilation.faultsOf, List.filterMap_cons, hadd, haddOne]
    rfl
  simp only [Compilation.ofManifest, Compilation.validate, Compilation.synthesize,
    Compilation.extract, Compilation.start, hextract, hbuilders, hfaults, hlints,
    List.append_nil, and_self]

theorem isValid_pileManifest (path : String) : (pileManifest.check path).isValid = true := by
  show (!(Compilation.ofManifest pileManifest).diagnostics.any _) = true
  rw [ofManifest_pileManifest.2]
  rfl

theorem pileManifest_agreement :
    read pileText = .ok pileManifest ∧ (pileManifest.check "callbuilder.toml").isValid = true ∧
      ∃ fault e, (FileTree.empty.perform (pileManifest.generate ⟨"out"⟩ true)).1 = .error fault ∧
        fault.collision? = some e := by
  have hvalid := isValid_pileManifest "callbuilder.toml"
  obtain ⟨_, _, _, hmanifest⟩ := lint_agrees_iff pileBuilders
  refine ⟨read_pileText, hvalid, (hmanifest pileManifest _ hvalid .empty ⟨"out"⟩ true).2 ?_⟩
  rw [ofManifest_pileManifest.1]
  decide

/-- The lint lets the two names pass, and the emission writes both as `AddBuilder`. -/
theorem pileManifest_collides :
    read pileText = .ok pileManifest ∧ (pileManifest.check "callbuilder.toml").isValid = true ∧
      Lint.duplicateBuilder.check (Compilation.ofManifest pileManifest).builders = [] ∧
      Source.collision? (Compilation.ofManifest pileManifest).builders =
        some ⟨"AddBuilder", ⟨"Pile::add(u8)"⟩, ⟨"Pile::add_one(u8)"⟩⟩ ∧
      ∀ (t : FileTree) dir isDryRun, ∃ fault, (t.perform (pileManifest.generate dir isDryRun)).1 =
          .error fault ∧
        fault.collision? = some ⟨"AddBuilder", ⟨"Pile::add(u8)"⟩, ⟨"Pile::add_one(u8)"⟩⟩ := by
  have hcollision : Source.collision? (Compilation.ofManifest pileManifest).builders =
      some ⟨"AddBuilder", ⟨"Pile::add(u8)"⟩, ⟨"Pile::add_one(u8)"⟩⟩ := by
    rw [ofManifest_pileManifest.1]
    decide
  have herrors := hasErrors_eq_false_of_isValid (isValid_pileManifest "callbuilder.toml")
  refine ⟨read_pileText, isValid_pileManifest _, ?_, hcollision, fun t dir isDryRun =>
    (generate_collision?_iff herrors t dir isDryRun _).2 hcollision⟩
  rw [ofManifest_pileManifest.1]
  decide

end Manifest

end Buildwright
