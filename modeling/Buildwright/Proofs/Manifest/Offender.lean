import Buildwright.Proofs.Manifest.Origin
import Buildwright.Proofs.Manifest.Rejection

/-!
# The function that a clash is reported for

A clash is reported for the first function that is not valid. It comes with the value that declares
it, and with the items that declare the names which clash.
-/

namespace Buildwright.Manifest

open Toml

/-- The first function that is not valid: function `j` of block `i`. -/
structure FirstInvalid (m : Manifest) (i j : Nat) (block : ImplBlock) (f : FunctionDecl) :
    Prop where
  block_eq : m.impls[i]? = some block
  function_eq : block.functions[j]? = some f
  earlierBlock : ∀ b ∈ m.impls.take i, b.Valid
  earlierFunction : ∀ g ∈ block.functions.take j, g.Valid block
  invalid : ¬ f.Valid block

/-- The configuration declares function `j` of block `i` with the value `node`. -/
def DeclaredAt (root : Span × Value) (i j : Nat) (node : Span × Value) : Prop :=
  ∃ place blocks block place' functions,
    Holds (manifestFields.map (·.name)) "impl" (place, .array blocks) root.2 ∧
    blocks[i]? = some block ∧
    Holds (blockFields.map (·.name)) "fn" (place', .array functions) block.2 ∧
    functions[j]? = some node

/-- The function for which a text is rejected, and the value that declares it. -/
structure Offender (source : String) where
  root : Span × Value
  manifest : Manifest
  i : Nat
  j : Nat
  block : ImplBlock
  function : FunctionDecl
  node : Span × Value
  read_eq : Toml.read source = some root
  decode_eq : decode root = .ok manifest
  firstInvalid : manifest.FirstInvalid i j block function
  declaredAt : DeclaredAt root i j node
  decode_node : functionDecl node = .ok function

namespace Offender

variable {source : String} (o : Offender source) (name : String)

def title : String := o.block.selfTy.simpleName ++ "::" ++ o.function.name

/-- Two arguments of the function have the name, and no two before the second have one name. -/
structure Repetition where
  place : Span
  args : List (Span × Value)
  i : Nat
  j : Nat
  first : Span × Value
  second : Span × Value
  holds : Holds (functionFields.map (·.name)) "args" (place, .array args) o.node.2
  lt : i < j
  firstName : (o.function.args.map (·.name))[i]? = some name
  secondName : (o.function.args.map (·.name))[j]? = some name
  nodup : ((o.function.args.map (·.name)).take j).Nodup
  firstArg : args[i]? = some first
  secondArg : args[j]? = some second

/-- A generic parameter of the function has the name of one of the block. -/
structure Shadowing where
  place : Span
  params : List (Span × Value)
  holds : Holds (functionFields.map (·.name)) "generics" (place, .array params) o.node.2
  declared : name ∈ o.function.generics.map (·.name)
  hidden : name ∈ o.block.generics.map (·.name)

end Offender

variable {source : String} {e : ManifestFault}

theorem exists_getElem?_of_forall₂ {R : α → β → Prop} {xs : List α} {ys : List β} {i : Nat} {y : β}
    (h : List.Forall₂ R xs ys) (hy : ys[i]? = some y) : ∃ x, xs[i]? = some x ∧ R x y := by
  induction h generalizing i with
  | nil => cases hy
  | @cons x y' xs ys hxy _ ih =>
    cases i with
    | zero =>
      cases hy
      exact ⟨x, rfl, hxy⟩
    | succ i => exact ih hy

theorem exists_offender (h : read source = .error e) (he : e.isClash = true) :
    ∃ o : Offender source,
      checkFunction (Context.push ⟨source, []⟩ o.block.selfTy.simpleName) o.block
        o.block.selfTy.simpleName o.function = .error e := by
  obtain ⟨root, m, hroot, hm, hvalidate⟩ := clash_of_read h he
  obtain ⟨blocks, block, laterBlocks, himpls, hblocks, hblock⟩ := clash_of_validate hvalidate he
  obtain ⟨functions, f, laterFunctions, hfs, hfunctions, hinvalid, hf⟩ :=
    clash_of_checkBlock hblock he
  have hblockAt : m.impls[blocks.length]? = some block := by simp [himpls]
  have hfunctionAt : block.functions[functions.length]? = some f := by simp [hfs]
  obtain ⟨place, items, hitems, hdecode⟩ := impls_origin hm (by simp [himpls])
  obtain ⟨blockNode, hblockNode, hblockDecode⟩ := exists_getElem?_of_forall₂ hdecode hblockAt
  obtain ⟨place', items', hitems', hdecode'⟩ := functions_origin hblockDecode (by simp [hfs])
  obtain ⟨node, hnode, hfunctionDecode⟩ := exists_getElem?_of_forall₂ hdecode' hfunctionAt
  have hfirst : m.FirstInvalid blocks.length functions.length block f :=
    { block_eq := hblockAt
      function_eq := hfunctionAt
      earlierBlock := by simpa [himpls] using hblocks
      earlierFunction := by simpa [hfs] using hfunctions
      invalid := hinvalid }
  exact ⟨⟨root, m, _, _, block, f, node, hroot, hm, hfirst,
    ⟨place, items, blockNode, place', items', hitems, hblockNode, hitems', hnode⟩,
    hfunctionDecode⟩, hf⟩

theorem exists_getElem?_of_map {R : α → β → Prop} {xs : List α} {ys : List β} {i : Nat} {c : γ}
    {f : β → γ} (h : List.Forall₂ R xs ys) (hc : (ys.map f)[i]? = some c) :
    ∃ x, xs[i]? = some x := by
  rw [List.getElem?_map] at hc
  obtain ⟨y, hy, -⟩ := Option.map_eq_some_iff.1 hc
  obtain ⟨x, hx, -⟩ := exists_getElem?_of_forall₂ h hy
  exact ⟨x, hx⟩

theorem exists_repetition {name function : String} {first second : Option Span}
    (h : read source = .error (.duplicateArgument name function first second)) :
    Usable name ∧ first = (placesOfArgument source name)[0]? ∧
      second = (placesOfArgument source name)[1]? ∧
      ∃ o : Offender source, o.title = function ∧ Nonempty (o.Repetition name) := by
  obtain ⟨o, ho⟩ := exists_offender h rfl
  obtain ⟨_, -, -, hfault⟩ | ⟨before, other, after, hnames, hnodup, hmem, husable, hfault⟩ :=
    clash_of_checkFunction ho rfl
  · cases hfault
  · obtain ⟨rfl, rfl, rfl, rfl⟩ := ManifestFault.duplicateArgument.inj hfault
    refine ⟨husable, rfl, rfl, o, rfl, ?_⟩
    obtain ⟨i, hi, hfirst⟩ := List.getElem_of_mem hmem
    have hfirstName : (o.function.args.map (·.name))[i]? = some name := by
      rw [hnames, List.getElem?_append_left hi, List.getElem?_eq_getElem hi, hfirst]
    have hsecondName : (o.function.args.map (·.name))[before.length]? = some name := by
      simp [hnames]
    have hne : o.function.args ≠ [] := by
      rintro hnil
      simp [hnil] at hnames
    obtain ⟨place, args, hholds, hargs⟩ := args_origin o.decode_node hne
    obtain ⟨firstArg, hfirstArg⟩ := exists_getElem?_of_map hargs hfirstName
    obtain ⟨secondArg, hsecondArg⟩ := exists_getElem?_of_map hargs hsecondName
    exact ⟨⟨place, args, i, before.length, firstArg, secondArg, hholds, hi, hfirstName, hsecondName,
      by simpa [hnames] using hnodup, hfirstArg, hsecondArg⟩⟩

theorem exists_shadowing {name function owner : String} {label : Option Span}
    (h : read source = .error (.shadowedGeneric name function owner label)) :
    label = (placesOfGeneric source name)[1]? ∧
      ∃ o : Offender source, o.title = function ∧ Nonempty (o.Shadowing name) := by
  obtain ⟨o, ho⟩ := exists_offender h rfl
  obtain ⟨other, hdeclared, hhidden, hfault⟩ | ⟨_, _, _, -, -, -, -, hfault⟩ :=
    clash_of_checkFunction ho rfl
  · obtain ⟨rfl, rfl, -, rfl⟩ := ManifestFault.shadowedGeneric.inj hfault
    have hne : o.function.generics ≠ [] := by
      rintro hnil
      simp [hnil] at hdeclared
    obtain ⟨place, params, hholds, -⟩ := generics_origin o.decode_node hne
    exact ⟨rfl, o, rfl, ⟨⟨place, params, hholds, hdeclared, hhidden⟩⟩⟩
  · cases hfault

end Buildwright.Manifest
