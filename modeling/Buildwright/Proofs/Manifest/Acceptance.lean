import Mathlib
import Buildwright.Manifest.Reader
import Buildwright.Proofs.Checked
import Buildwright.Proofs.Manifest.Decoding
import Buildwright.Proofs.Manifest.Validation
import Buildwright.Proofs.Manifest.WrittenOut

/-!
# What an accepted manifest ensures

A manifest that is read without a fault names its generic parameters well: usable names, each one
once in its block or function, and none of a function's names hides one of its block. The names of
functions, of their arguments and those that an annotation gives are usable, too.
-/

namespace Buildwright

/-- What validation ensures of a declaration's names. -/
structure Declaration.Accepted (d : Declaration) : Prop where
  selfTy : d.block.selfTy.isPath = true
  blockName : ∀ p ∈ d.block.generics, Manifest.isName p.name = true
  functionName : ∀ p ∈ d.function.generics, Manifest.isName p.name = true
  blockNodup : (d.block.generics.map (·.name)).Nodup
  functionNodup : (d.function.generics.map (·.name)).Nodup
  unshadowed : ∀ p ∈ d.block.generics, ∀ q ∈ d.function.generics, q.name ≠ p.name

/-- What validation ensures of the names that a builder's own names are made from. -/
structure Declaration.Named (d : Declaration) : Prop where
  function : Manifest.isName d.function.name = true
  arg : ∀ a ∈ d.function.args, Manifest.isName a.name = true
  argNodup : (d.function.args.map (·.name)).Nodup
  className : ∀ a ∈ d.function.annotation, ∀ name ∈ a.className, Manifest.isName name = true
  methodName : ∀ a ∈ d.function.annotation, ∀ name ∈ a.methodName, Manifest.isName name = true

namespace Manifest

theorem ne_of_isName {name keyword : String} (h : isName name = true)
    (hkeyword : isKeyword keyword = true) : name ≠ keyword := by
  rintro rfl
  simp [isName, nameFault?, hkeyword] at h

theorem validate_of_read {source : String} {m : Manifest} (h : read source = .ok m) :
    validate source m = .ok () := by
  unfold read at h
  split at h
  · cases h
  · obtain ⟨m', _, h⟩ := bind_eq_ok.1 h
    obtain ⟨⟨⟩, hvalid, h⟩ := bind_eq_ok.1 h
    cases h
    exact hvalid

theorem mem_annotated {m : Manifest} {d : Declaration} :
    d ∈ m.annotated ↔
      d.block ∈ m.impls ∧ d.function ∈ d.block.functions ∧ d.function.annotation.isSome := by
  unfold annotated
  simp only [List.mem_flatMap, List.mem_map, List.mem_filter]
  constructor
  · rintro ⟨block, hblock, f, ⟨hf, hannotation⟩, rfl⟩
    exact ⟨hblock, hf, hannotation⟩
  · rintro ⟨hblock, hf, hannotation⟩
    exact ⟨d.block, hblock, d.function, ⟨hf, hannotation⟩, rfl⟩

theorem valid_of_read {source : String} {m : Manifest} (h : read source = .ok m) : m.Valid :=
  (forall_demands source m).1 ((checks_validate source m).eq_ok_iff.1 (validate_of_read h))

/-- Every declaration of an accepted manifest names its generic parameters well. -/
theorem accepted_of_read {source : String} {m : Manifest} (hread : read source = .ok m)
    {d : Declaration} (hd : d ∈ m.annotated) : d.Accepted := by
  obtain ⟨hmem, hmem', _⟩ := mem_annotated.1 hd
  have hblock := (valid_of_read hread).block _ hmem
  have hfunction := hblock.function _ hmem'
  exact
    { selfTy := hblock.selfTy
      blockName := fun p hp => usable_iff.1 (hblock.generic p hp)
      functionName := fun q hq => usable_iff.1 (hfunction.generic q hq)
      blockNodup := hblock.genericNodup
      functionNodup := hfunction.genericNodup
      unshadowed := fun p hp q hq heq =>
        hfunction.unshadowed q hq (List.mem_map.2 ⟨p, hp, heq.symm⟩) }

/-- The other names in a declaration of an accepted manifest are usable as well. -/
theorem named_of_read {source : String} {m : Manifest} (hread : read source = .ok m)
    {d : Declaration} (hd : d ∈ m.annotated) : d.Named := by
  obtain ⟨hmem, hmem', _⟩ := mem_annotated.1 hd
  have hfunction := ((valid_of_read hread).block _ hmem).function _ hmem'
  exact
    { function := usable_iff.1 hfunction.name
      arg := fun a ha => usable_iff.1 (hfunction.arg a ha)
      argNodup := hfunction.argNodup
      className := fun a ha name hname => usable_iff.1 (hfunction.className a ha name hname)
      methodName := fun a ha name hname => usable_iff.1 (hfunction.methodName a ha name hname) }

/-! ## A manifest that is accepted -/

/-- An associated function of `Bag<T, K>`. The block declares `K` alone, so its `T` is a type and
not the function's variable of that name; `I` stands at the start of a longer path only. -/
def bagText : String :=
  Text.lines
    ["[[impl]]", "self = \"Bag<T, K>\"", "generics = [\"K: Ord\"]",
      "[[impl.fn]]", "name = \"of\"", "generics = [\"T\", \"I: Iterator\"]",
      "args = [\"item: T\", \"rest: Vec<I::Item>\"]", "call_builder = \x7b\x7d"]

def bagFunction : FunctionDecl where
  name := "of"
  receiver := none
  generics := [⟨"T", []⟩, ⟨"I", [.name "Iterator"]⟩]
  args :=
    [⟨"item", .name "T"⟩,
      ⟨"rest", .path false [.mk "Vec" [.type (.path false [.mk "I" [], .mk "Item" []])]]⟩]
  returns := none
  isConstructor := false
  annotation := some ⟨none, none⟩

def bagBlock : ImplBlock where
  selfTy := .path false [.mk "Bag" [.type (.name "T"), .type (.name "K")]]
  generics := [⟨"K", [.name "Ord"]⟩]
  functions := [bagFunction]

def bagDeclaration : Declaration := ⟨bagBlock, bagFunction⟩

def bagManifest : Manifest := ⟨.default, [bagBlock]⟩

set_option maxRecDepth 10000 in
theorem read_bagText : read bagText = .ok bagManifest :=
  read_eq_ok (by decide +kernel) (by decide +kernel)

theorem bagDeclaration_mem : bagDeclaration ∈ bagManifest.annotated :=
  mem_annotated.2 ⟨List.mem_singleton_self _, List.mem_singleton_self _, rfl⟩

end Manifest

end Buildwright
