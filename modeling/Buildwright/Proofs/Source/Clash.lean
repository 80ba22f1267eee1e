import Buildwright.Proofs.Source.Distinct

/-!
# Terminal methods whose name is taken

The lint compares the names of methods in snake case, and the emitted names are raw where they are
reserved. The builders of accepted manifests have names without a hash, so both tell the same names
apart: the lint reports the builders in whose emitted source two methods would get in each other's
way.
-/

namespace Buildwright

/-- The builder is made from an annotated declaration of an accepted manifest. -/
def Builder.Made (b : Builder) : Prop :=
  ∃ source m, Manifest.read source = .ok m ∧
    ∃ d ∈ m.annotated, ∃ c, d.extract = .ok c ∧ c.generate = .ok b

theorem Builder.Made.named {b : Builder} (h : b.Made) : b.Named := by
  obtain ⟨source, m, hread, d, hd, c, hextract, hgenerate⟩ := h
  obtain ⟨_, rfl⟩ := Declaration.extract_eq_ok.1 hextract
  obtain ⟨r, _, rfl⟩ := Callable.generate_eq_ok.1 hgenerate
  exact (Manifest.named_of_read hread hd).synthesize r

namespace Source

/-- An emitted method that has the name of the terminal method. -/
inductive Occupant where
  | constructor
  | setter
deriving Repr, DecidableEq

def Occupant.words : Occupant → String
  | .constructor => "the constructor"
  | .setter => "a setter"

namespace BuilderCode

/-- What the name of the emitted terminal method is taken by. -/
def occupant? (c : BuilderCode) : Option Occupant :=
  if c.terminalMethod.name = c.constructor.name then some .constructor
  else if ∃ s ∈ c.setters, c.terminalMethod.name = (setter s).name then some .setter
  else none

theorem occupant?_eq_constructor {c : BuilderCode} :
    c.occupant? = some .constructor ↔ c.terminalMethod.name = "new" := by
  have hnew : c.constructor.name = "new" := rfl
  rw [occupant?, hnew]
  split
  · next h => simp [h]
  · next h => split <;> simp [h]

/-- No setter is called like the constructor, so the constructor hides no clash with a setter. -/
theorem occupant?_eq_setter {c : BuilderCode} (hnew : ∀ s ∈ c.setters, s.method ≠ "new") :
    c.occupant? = some .setter ↔ ∃ s ∈ c.setters, c.terminalMethod.name = (setter s).name := by
  rw [occupant?]
  split
  · next h =>
    refine iff_of_false (by simp) ?_
    rintro ⟨s, hs, heq⟩
    exact hnew s hs (heq.symm.trans h)
  · split
    · next h => exact iff_of_true rfl h
    · next h => exact iff_of_false (by simp) h

end BuilderCode

variable {b : Builder}

theorem hash_not_mem_setter (hnamed : b.Named) {f : Field} (hf : f ∈ b.fields) :
    '#' ∉ (Text.snake (setterName f.name)).toList :=
  hash_not_mem_snake (isName_setterName (hnamed.field f hf))

theorem methodName_eq_new (hnamed : b.Named) :
    methodName b.terminalName = "new" ↔ Text.snake b.terminalName = "new" := by
  have hnew : safeName "new" = "new" := by decide
  rw [methodName, ← hnew]
  exact (safeName_inj (hash_not_mem_snake hnamed.terminalName) (by decide)).trans (by rw [hnew])

theorem methodName_eq_setter (hnamed : b.Named) {f : Field} (hf : f ∈ b.fields) :
    methodName (setterName f.name) = methodName b.terminalName ↔
      Text.snake (setterName f.name) = Text.snake b.terminalName :=
  safeName_inj (hash_not_mem_setter hnamed hf) (hash_not_mem_snake hnamed.terminalName)

theorem setter_ne_new (hnamed : b.Named) (deriveDebug : Bool) :
    ∀ s ∈ (layOut b deriveDebug).setters, s.method ≠ "new" := by
  intro s hs hnew
  have hmem : s.method ∈ (layOut b deriveDebug).setters.map (·.method) := List.mem_map_of_mem hs
  rw [setters_layOut hnamed, hnew] at hmem
  obtain ⟨f, hf, heq⟩ := List.mem_map.1 hmem
  have hplain : safeName "new" = "new" := by decide
  rw [← hplain] at heq
  have hsnake := (safeName_inj (hash_not_mem_setter hnamed hf) (by decide)).1 heq
  rw [snake_setterName (hnamed.field f hf)] at hsnake
  have hhead := congrArg (fun s : String => s.toList.head?) hsnake
  rw [String.toList_append] at hhead
  cases hhead

theorem terminalClash?_eq (hnamed : b.Named) (deriveDebug : Bool) :
    Lint.terminalClash? b = ((layOut b deriveDebug).occupant?).map Occupant.words := by
  have hterminal : (layOut b deriveDebug).terminalMethod.name = methodName b.terminalName := rfl
  have hconstructor : (layOut b deriveDebug).constructor.name = "new" := rfl
  have hsetters : (∃ s ∈ (layOut b deriveDebug).setters,
        methodName b.terminalName = (BuilderCode.setter s).name) ↔
      ∃ f ∈ b.fields, Text.snake (setterName f.name) = Text.snake b.terminalName := by
    have hmem : (∃ s ∈ (layOut b deriveDebug).setters,
          methodName b.terminalName = (BuilderCode.setter s).name) ↔
        methodName b.terminalName ∈ (layOut b deriveDebug).setters.map (·.method) := by
      simp only [List.mem_map, eq_comm (a := methodName b.terminalName)]
      rfl
    rw [hmem, setters_layOut hnamed, List.mem_map]
    exact exists_congr fun f => and_congr_right fun hf => methodName_eq_setter hnamed hf
  have hlint : (b.setters.any fun s => Text.snake s.name == Text.snake b.terminalName) = true ↔
      ∃ f ∈ b.fields, Text.snake (setterName f.name) = Text.snake b.terminalName := by
    rw [hnamed.setters, List.any_eq_true]
    simp
  rw [Lint.terminalClash?, BuilderCode.occupant?, hterminal, hconstructor]
  simp only [methodName_eq_new hnamed, hsetters, hlint, beq_iff_eq]
  split
  · rfl
  · split <;> rfl

end Source

namespace Lint

open Source

/-- The lint adds one error, in order, for each builder whose emitted terminal method is called `new`
or like an emitted setter. The error says which of the two it is, and is located at the builder's
source. -/
theorem terminalName_check_eq {builders : List Builder} (hmade : ∀ b ∈ builders, b.Made)
    (deriveDebug : Bool) :
    terminalName.check builders =
        builders.filterMap (fun b => ((layOut b deriveDebug).occupant?).map fun occupant =>
          ⟨.error, "validate",
            s!"terminal method '{b.terminalName}' of {b.name} clashes with {occupant.words}",
            some b.source.text⟩) ∧
      ∀ b ∈ builders,
        ((layOut b deriveDebug).occupant? = some .constructor ↔
          (layOut b deriveDebug).terminalMethod.name = "new") ∧
        ((layOut b deriveDebug).occupant? = some .setter ↔
          ∃ s ∈ (layOut b deriveDebug).setters,
            (layOut b deriveDebug).terminalMethod.name = (BuilderCode.setter s).name) := by
  refine ⟨List.filterMap_congr fun b hb => ?_, fun b hb => ?_⟩
  · rw [terminalClash?_eq (hmade b hb).named deriveDebug, Option.map_map]
    rfl
  · have hnew := setter_ne_new (hmade b hb).named deriveDebug
    exact ⟨BuilderCode.occupant?_eq_constructor, BuilderCode.occupant?_eq_setter hnew⟩

end Lint

/-! ## A manifest with two clashes -/

namespace Manifest

/-- Two functions of `Heap`. The names that they give to their terminal methods become those of a
setter and of the constructor. -/
def heapText : String :=
  Text.lines
    ["[[impl]]", "self = \"Heap\"",
      "[[impl.fn]]", "name = \"push\"", "args = [\"item: u8\"]",
      "call_builder = \x7b method_name = \"setItem\" \x7d",
      "[[impl.fn]]", "name = \"pop\"", "args = [\"item: u8\"]",
      "call_builder = \x7b method_name = \"New\" \x7d"]

def heapFunction (name methodName : String) : FunctionDecl where
  name := name
  receiver := none
  generics := []
  args := [⟨"item", .name "u8"⟩]
  returns := none
  isConstructor := false
  annotation := some ⟨none, some methodName⟩

def heapBlock : ImplBlock where
  selfTy := .name "Heap"
  generics := []
  functions := [heapFunction "push" "setItem", heapFunction "pop" "New"]

def heapManifest : Manifest := ⟨.default, [heapBlock]⟩

set_option maxRecDepth 10000 in
theorem read_heapText : read heapText = .ok heapManifest :=
  read_eq_ok (by decide +kernel) (by decide +kernel)

def heapBuilder (name function methodName source : String) : Builder where
  name := name
  source := ⟨source⟩
  typeVars := []
  receiver := none
  fields := [⟨"item", .name "u8", .integer⟩]
  setters := [⟨"setItem", "item"⟩]
  terminalName := methodName
  terminal := { target := .associated (.name "Heap") function, args := ["item"], result := .unit }
  phantom := []

def heapBuilders : List Builder :=
  [heapBuilder "PushBuilder" "push" "setItem" "Heap::push(u8)",
    heapBuilder "PopBuilder" "pop" "New" "Heap::pop(u8)"]

theorem made_heapBuilders : ∀ b ∈ heapBuilders, b.Made := by
  have hpush : (Declaration.mk heapBlock (heapFunction "push" "setItem")).callable.generate =
      .ok (heapBuilder "PushBuilder" "push" "setItem" "Heap::push(u8)") := by
    cbv
  have hpop : (Declaration.mk heapBlock (heapFunction "pop" "New")).callable.generate =
      .ok (heapBuilder "PopBuilder" "pop" "New" "Heap::pop(u8)") := by
    cbv
  refine List.forall_mem_cons.2 ⟨?_, List.forall_mem_singleton.2 ?_⟩
  · refine ⟨_, _, read_heapText, _, List.mem_cons_self, _, ?_, hpush⟩
    exact Declaration.extract_eq_ok.2 ⟨by decide, rfl⟩
  · refine ⟨_, _, read_heapText, _, List.mem_cons_of_mem _ List.mem_cons_self, _, ?_, hpop⟩
    exact Declaration.extract_eq_ok.2 ⟨by decide, rfl⟩

/-- Two builders, and an error of either kind. -/
theorem heapBuilders_check :
    (∀ b ∈ heapBuilders, b.Made) ∧
      Lint.terminalName.check heapBuilders =
        [⟨.error, "validate", "terminal method 'setItem' of PushBuilder clashes with a setter",
            some "Heap::push(u8)"⟩,
          ⟨.error, "validate", "terminal method 'New' of PopBuilder clashes with the constructor",
            some "Heap::pop(u8)"⟩] := by
  refine ⟨made_heapBuilders, ?_⟩
  rw [(Lint.terminalName_check_eq made_heapBuilders false).1]
  decide

end Manifest

end Buildwright
