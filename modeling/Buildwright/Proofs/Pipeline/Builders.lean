import Buildwright.Pipeline.Phase
import Buildwright.Proofs.Builder.Synthesis
import Buildwright.Proofs.Declaration.Extraction
import Buildwright.Proofs.Manifest.Acceptance

/-!
# The builders of a manifest

Where the builders of a compilation come from, and what it means for them that there are no errors.
-/

namespace Buildwright

namespace Compilation

theorem exists_declaration_of_mem_extractAll {seen : List SignatureKey} {ds : List Declaration}
    {c : Callable} (h : c ∈ (extractAll seen ds).1) : ∃ d ∈ ds, d.extract = .ok c := by
  induction ds generalizing seen with
  | nil => cases h
  | cons d rest ih =>
    rw [extractAll] at h
    split at h
    · obtain ⟨d', hd', hextract⟩ := ih h
      exact ⟨d', List.mem_cons_of_mem _ hd', hextract⟩
    · next c' hc' =>
      split at h
      · obtain ⟨d', hd', hextract⟩ := ih h
        exact ⟨d', List.mem_cons_of_mem _ hd', hextract⟩
      · rcases List.mem_cons.1 h with rfl | h
        · exact ⟨d, List.mem_cons_self, hc'⟩
        · obtain ⟨d', hd', hextract⟩ := ih h
          exact ⟨d', List.mem_cons_of_mem _ hd', hextract⟩

theorem mem_buildersOf {cs : List Callable} {b : Builder} :
    b ∈ buildersOf cs ↔ ∃ c ∈ cs, c.generate = .ok b := by
  rw [buildersOf, List.mem_filterMap]
  refine exists_congr fun c => and_congr_right fun _ => ?_
  cases c.generate <;> simp [Except.toOption]

theorem exists_declaration_of_mem_builders {m : Manifest} {b : Builder}
    (hb : b ∈ (ofManifest m).builders) :
    ∃ d ∈ m.annotated, ∃ c, d.extract = .ok c ∧ c.generate = .ok b := by
  obtain ⟨c, hc, hgenerate⟩ := mem_buildersOf.1 hb
  obtain ⟨d, hd, hextract⟩ := exists_declaration_of_mem_extractAll hc
  exact ⟨d, hd, c, hextract, hgenerate⟩

theorem not_mem_of_not_hasErrors {c : Compilation} (h : c.hasErrors = false) {d : Diagnostic}
    (hd : d.severity = .error) : d ∉ c.diagnostics := by
  intro hmem
  have herror : d ∈ c.errors := List.mem_filter.2 ⟨hmem, by simp [hd]⟩
  have hempty : c.errors = [] := by simpa [hasErrors] using h
  rw [hempty] at herror
  cases herror

theorem terminalClash?_eq_none {m : Manifest} (herrors : (ofManifest m).hasErrors = false)
    {b : Builder} (hb : b ∈ (ofManifest m).builders) : Lint.terminalClash? b = none := by
  rw [Option.eq_none_iff_forall_ne_some]
  intro what hclash
  refine not_mem_of_not_hasErrors herrors (d := ⟨.error, validatePhase,
    Lint.clashMessage b what, some b.source.text⟩) rfl ?_
  have hlint : Lint.terminalName ∈ Lint.all := List.mem_cons_of_mem _ List.mem_cons_self
  refine List.mem_append_right _ (List.mem_flatMap.2 ⟨Lint.terminalName, hlint, ?_⟩)
  exact List.mem_filterMap.2 ⟨b, hb, by rw [hclash]; rfl⟩

end Compilation

/-! ## The names in a builder -/

/-- What the names in a builder are, before the emitter gives them their shape. -/
structure Builder.Named (b : Builder) : Prop where
  field : ∀ f ∈ b.fields, Manifest.isName f.name = true
  fieldNodup : (b.fields.map (·.name)).Nodup
  setters : b.setters = b.fields.map fun f => ⟨setterName f.name, f.name⟩
  terminalName : Manifest.isName b.terminalName = true
  name : Manifest.isName b.name = true ∨ ∃ stem, b.name = stem ++ builderSuffix

theorem Declaration.Named.synthesize {d : Declaration} (hnamed : d.Named) (r : Resolution) :
    (d.callable.synthesize r).Named := by
  have hfields : (d.callable.synthesize r).fields.map (·.name) =
      d.function.args.map (·.name) := by
    simp [Callable.synthesize, callable]
  refine
    { field := fun f hf => ?_
      fieldNodup := hfields ▸ hnamed.argNodup
      setters := rfl
      terminalName := ?_
      name := ?_ }
  · obtain ⟨a, ha, hname⟩ := List.mem_map.1 (hfields ▸ List.mem_map_of_mem hf)
    rw [← hname]
    exact hnamed.arg a ha
  · show Manifest.isName
      ((d.function.annotation.bind (·.methodName)).getD defaultTerminalName) = true
    cases hmethod : d.function.annotation.bind (·.methodName) with
    | none => decide
    | some name =>
      obtain ⟨a, ha, hname⟩ := Option.bind_eq_some_iff.1 hmethod
      exact hnamed.methodName a ha name hname
  · show Manifest.isName d.callable.builderName = true ∨
      ∃ stem, d.callable.builderName = stem ++ builderSuffix
    unfold Callable.builderName
    split
    · next name hclass =>
      obtain ⟨a, ha, hname⟩ := Option.bind_eq_some_iff.1 hclass
      exact .inl (hnamed.className a ha name hname)
    · refine .inr ?_
      split <;> exact ⟨_, rfl⟩

theorem Manifest.named_of_mem_builders {source : String} {m : Manifest}
    (hread : read source = .ok m) {b : Builder} (hb : b ∈ (Compilation.ofManifest m).builders) :
    b.Named := by
  obtain ⟨d, hd, c, hextract, hgenerate⟩ := Compilation.exists_declaration_of_mem_builders hb
  obtain ⟨_, rfl⟩ := Declaration.extract_eq_ok.1 hextract
  obtain ⟨r, _, rfl⟩ := Callable.generate_eq_ok.1 hgenerate
  exact (named_of_read hread hd).synthesize r

/-! ## A compilation without errors -/

namespace Manifest

/-- Two methods of `Shelf<I>`. The type does not mention the block's `T`, and the methods have
arguments of which the names come close to each other. -/
def shelfText : String :=
  Text.lines
    ["[[impl]]", "self = \"Shelf<I>\"", "generics = [\"I: Iterator<Item = T>\", \"T\"]",
      "[[impl.fn]]", "name = \"fill\"", "receiver = \"&self\"",
      "args = [\"x: u8\", \"_x: u8\", \"Crate: u8\"]", "call_builder = \x7b\x7d",
      "[[impl.fn]]", "name = \"load\"", "receiver = \"&self\"",
      "args = [\"rowCount: u8\", \"row_count: u8\"]", "call_builder = \x7b\x7d"]

def shelfMethod (name : String) (args : List String) : FunctionDecl where
  name := name
  receiver := some .ref
  generics := []
  args := args.map fun a => ⟨a, .name "u8"⟩
  returns := none
  isConstructor := false
  annotation := some ⟨none, none⟩

def shelfBlock : ImplBlock where
  selfTy := .path false [.mk "Shelf" [.type (.name "I")]]
  generics := [⟨"I", [.path false [.mk "Iterator" [.binding "Item" (.name "T")]]]⟩, ⟨"T", []⟩]
  functions := [shelfMethod "fill" ["x", "_x", "Crate"],
    shelfMethod "load" ["rowCount", "row_count"]]

def shelfManifest : Manifest := ⟨.default, [shelfBlock]⟩

set_option maxRecDepth 10000 in
theorem read_shelfText : read shelfText = .ok shelfManifest :=
  read_eq_ok (by decide +kernel) (by decide +kernel)

def fillDeclaration : Declaration := ⟨shelfBlock, shelfMethod "fill" ["x", "_x", "Crate"]⟩

def loadDeclaration : Declaration := ⟨shelfBlock, shelfMethod "load" ["rowCount", "row_count"]⟩

/-- The instance in the builders of both methods. -/
def shelfReceiver : ReceiverSlot where
  mode := .ref
  ty := .path false [.mk "Shelf" [.type (.var ⟨.owner, "I"⟩)]]
  typeVars := []
  erased :=
    [⟨"I", .owner, [.path false [.mk "Iterator" [.binding "Item" (.var ⟨.owner, "T"⟩)]]]⟩,
      ⟨"T", .owner, []⟩]

/-- The builder of a method whose arguments are bytes. -/
def shelfBuilder (name function : String) (source : String) (args : List String) : Builder where
  name := name
  source := ⟨source⟩
  typeVars := []
  receiver := some shelfReceiver
  fields := args.map fun a => ⟨a, .name "u8", .integer⟩
  setters := args.map fun a => ⟨setterName a, a⟩
  terminalName := "build"
  terminal := { target := .method function, args := args, result := .unit }
  phantom := []

def fillBuilder : Builder :=
  shelfBuilder "FillBuilder" "fill" "Shelf<I>::fill(u8, u8, u8)" ["x", "_x", "Crate"]

def loadBuilder : Builder :=
  shelfBuilder "LoadBuilder" "load" "Shelf<I>::load(u8, u8)" ["rowCount", "row_count"]

theorem extract_fillDeclaration : fillDeclaration.extract = .ok fillDeclaration.callable :=
  Declaration.extract_eq_ok.2 ⟨by decide, rfl⟩

theorem extract_loadDeclaration : loadDeclaration.extract = .ok loadDeclaration.callable :=
  Declaration.extract_eq_ok.2 ⟨by decide, rfl⟩

theorem generate_fillDeclaration : fillDeclaration.callable.generate = .ok fillBuilder := by cbv

theorem generate_loadDeclaration : loadDeclaration.callable.generate = .ok loadBuilder := by cbv

theorem annotated_shelfManifest :
    shelfManifest.annotated = [fillDeclaration, loadDeclaration] := rfl

theorem ofManifest_shelfManifest :
    fillBuilder ∈ (Compilation.ofManifest shelfManifest).builders ∧
      loadBuilder ∈ (Compilation.ofManifest shelfManifest).builders ∧
        (Compilation.ofManifest shelfManifest).hasErrors = false := by
  have hsignatures :
      [fillDeclaration.callable.signature].contains loadDeclaration.callable.signature = false := by
    decide
  have hextract : Compilation.extractAll [] shelfManifest.annotated =
      ([fillDeclaration.callable, loadDeclaration.callable], []) := by
    simp only [annotated_shelfManifest, Compilation.extractAll, extract_fillDeclaration,
      extract_loadDeclaration, hsignatures]
    rfl
  have hbuilders : Compilation.buildersOf [fillDeclaration.callable, loadDeclaration.callable] =
      [fillBuilder, loadBuilder] := by
    simp only [Compilation.buildersOf, List.filterMap_cons, generate_fillDeclaration,
      generate_loadDeclaration]
    rfl
  have hfaults :
      Compilation.faultsOf [fillDeclaration.callable, loadDeclaration.callable] = [] := by
    simp only [Compilation.faultsOf, List.filterMap_cons, generate_fillDeclaration,
      generate_loadDeclaration]
    rfl
  have hlints : (Lint.all.flatMap fun l => l.check [fillBuilder, loadBuilder]) = [] := by
    decide
  simp only [Compilation.ofManifest, Compilation.validate, Compilation.synthesize,
    Compilation.extract, Compilation.start, Compilation.hasErrors, Compilation.errors, hextract,
    hbuilders, hfaults, hlints]
  exact ⟨List.mem_cons_self, List.mem_cons_of_mem _ List.mem_cons_self, rfl⟩

end Manifest

end Buildwright
