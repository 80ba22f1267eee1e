import Mathlib
import Buildwright.Proofs.Callable.Reach
import Buildwright.Proofs.Declaration.Interpretation
import Buildwright.Proofs.Gallery.Calls
import Buildwright.Proofs.Manifest.Acceptance

/-!
# The gallery's builders simulate their functions

The gallery's manifest gives twelve builders. Each of them fits a function of the model, so that
whatever is set, how often and in which order, the terminal method does what a direct call does.
-/

namespace Buildwright

namespace Compilation

theorem builder?_of_mem {c : Compilation} (h : (c.builders.map (·.name)).Nodup) {b : Builder}
    (hb : b ∈ c.builders) : c.builder? b.name = some b :=
  Source.find?_of_nodup_map h hb

/-- Callables that are resolved have the builders that their resolutions give. -/
theorem buildersOf_eq_zipWith {cs : List Callable} {rs : List Resolution}
    (h : List.Forall₂ (fun c r => c.resolve = .ok r) cs rs) :
    buildersOf cs = List.zipWith Callable.synthesize cs rs := by
  induction h with
  | nil => rfl
  | cons hres _ ih =>
    rw [List.zipWith_cons_cons, ← ih, buildersOf, List.filterMap_cons, Callable.generate, hres]
    rfl

theorem faultsOf_eq_nil {cs : List Callable} {rs : List Resolution}
    (h : List.Forall₂ (fun c r => c.resolve = .ok r) cs rs) : faultsOf cs = [] := by
  induction h with
  | nil => rfl
  | cons hres _ ih =>
    rw [faultsOf, List.filterMap_cons, Callable.generate, hres]
    exact ih

end Compilation

namespace Gallery

theorem exists_mem_of_forall₂ {α β : Type} {R : α → β → Prop} {xs : List α} {ys : List β}
    (h : List.Forall₂ R xs ys) {x : α} (hx : x ∈ xs) : ∃ y ∈ ys, R x y := by
  induction h with
  | nil => cases hx
  | cons hhead _ ih =>
    rcases List.mem_cons.1 hx with rfl | hx
    · exact ⟨_, List.mem_cons_self, hhead⟩
    · obtain ⟨y, hy, hrel⟩ := ih hx
      exact ⟨y, List.mem_cons_of_mem _ hy, hrel⟩

/-! ## The builders -/

set_option maxRecDepth 100000 in
theorem read_manifestText : Manifest.read manifestText = .ok manifest :=
  Manifest.read_eq_ok (by decide +kernel) (by decide +kernel)

def callables : List Callable := manifest.annotated.map (·.callable)

def plainResolution : Resolution :=
  { typeVars := [], receiverVars := [], erased := [], renames := [], instantiated := [] }

def resolutions : List Resolution :=
  let e : BuilderVar := ⟨"E", .owner, []⟩
  let intoE : Ty := .path false [.mk "Into" [.type (.var ⟨.owner, "E"⟩)]]
  [plainResolution, plainResolution, plainResolution, plainResolution,
    { plainResolution with typeVars := [e], receiverVars := ["E"] },
    { plainResolution with typeVars := [⟨"F", .callable, [intoE]⟩, e], receiverVars := ["E"] },
    { plainResolution with erased := [e] },
    { plainResolution with instantiated := [⟨.owner, "E"⟩] },
    { plainResolution with
      typeVars := [⟨"F", .callable, []⟩], instantiated := [⟨.owner, "E"⟩] },
    { plainResolution with typeVars := [⟨"I", .owner, []⟩] }, plainResolution, plainResolution]

/-- No bound mentions a variable that nothing else does, so that no search is needed. -/
theorem resolve_callables :
    List.Forall₂ (fun c r => c.resolve = .ok r) callables resolutions := by
  repeat' first | exact List.Forall₂.nil | apply List.Forall₂.cons
  all_goals
    unfold Callable.resolve
    rw [Callable.admitted_eq_mentioned rfl]
    rfl

theorem extractAll_annotated :
    Compilation.extractAll [] manifest.annotated = (callables, []) := rfl

theorem builders_ofManifest_manifest :
    (Compilation.ofManifest manifest).builders =
      List.zipWith Callable.synthesize callables resolutions := by
  rw [← Compilation.buildersOf_eq_zipWith resolve_callables]
  show Compilation.buildersOf (Compilation.extractAll [] manifest.annotated).1 = _
  rw [extractAll_annotated]

theorem hasErrors_ofManifest_manifest : (Compilation.ofManifest manifest).hasErrors = false := by
  have hlints : (Lint.all.flatMap fun l =>
      l.check (List.zipWith Callable.synthesize callables resolutions)) = [] := by
    decide +kernel
  simp only [Compilation.ofManifest, Compilation.validate, Compilation.synthesize,
    Compilation.extract, Compilation.start, Compilation.hasErrors, Compilation.errors,
    extractAll_annotated, Compilation.faultsOf_eq_nil resolve_callables,
    Compilation.buildersOf_eq_zipWith resolve_callables, hlints]
  rfl

/-! ## The functions -/

def interfaces : List Interface := (modelFunctions Unit id).map (·.toInterface)

theorem fits_interfaces :
    List.Forall₂ (fun i p => i.Fits p.1 p.2) interfaces (callables.zip resolutions) := by
  decide +kernel

theorem names_builders :
    (Compilation.ofManifest manifest).builders.map (·.name) = interfaces.map (·.builder) := by
  rw [builders_ofManifest_manifest, ← List.map_uncurry_zip_eq_zipWith, List.map_map, eq_comm,
    ← List.forall₂_eq_eq_eq, List.forall₂_map_left_iff, List.forall₂_map_right_iff]
  exact fits_interfaces.imp fun _ _ hfits => hfits.builder.symm

section Functions

variable {ε η : Type} {into : ε → η}

theorem map_toInterface_modelFunctions :
    (modelFunctions ε into).map (·.toInterface) = interfaces := rfl

theorem exists_fits {f : ModelFunction ε} (hf : f ∈ modelFunctions ε into) :
    ∃ c r, builder? f.builder = some (c.synthesize r) ∧ f.Fits c r := by
  have hinterface : f.toInterface ∈ interfaces := by
    rw [← map_toInterface_modelFunctions]
    exact List.mem_map_of_mem hf
  obtain ⟨⟨c, r⟩, hmem, hfits⟩ := exists_mem_of_forall₂ fits_interfaces hinterface
  refine ⟨c, r, ?_, hfits⟩
  have hbuilder : c.synthesize r ∈ (Compilation.ofManifest manifest).builders := by
    rw [builders_ofManifest_manifest, ← List.map_uncurry_zip_eq_zipWith]
    exact List.mem_map_of_mem hmem
  have hnodup : ((Compilation.ofManifest manifest).builders.map (·.name)).Nodup := by
    rw [names_builders]
    decide
  have hname : (c.synthesize r).name = f.builder := hfits.builder
  rw [builder?, ← hname]
  exact Compilation.builder?_of_mem hnodup hbuilder

/-- The manifest is read without a fault and has no errors, and each function has its builder.
Whatever instance a builder is started on and whatever setters are called, the terminal method ends
as the function does when it is called on the instance with what each parameter was set to last, or
else with the zero value of its type: with the same value, the same error or the same panic, and
with the same total left behind. The order in which different setters are called makes no
difference. -/
theorem builders_simulate [Inhabited ε] (into : ε → η) :
    Manifest.read manifestText = .ok manifest ∧
      (Compilation.ofManifest manifest).hasErrors = false ∧
      (Compilation.ofManifest manifest).builders.map (·.name) =
        (modelFunctions ε into).map (·.builder) ∧
      ∀ f ∈ modelFunctions ε into, ∀ (s : f.Self) (calls : List (SetterCall ε f.params)),
        f.run? s calls = some (f.direct s calls) ∧
          ∀ calls', (∀ i, calls.filter (·.param = i) = calls'.filter (·.param = i)) →
            f.run? s calls' = f.run? s calls := by
  refine ⟨read_manifestText, hasErrors_ofManifest_manifest, names_builders, fun f hf s => ?_⟩
  have hrun : ∀ calls, f.run? s calls = some (f.direct s calls) := by
    intro calls
    obtain ⟨c, r, hbuilder, hfits⟩ := exists_fits hf
    rw [ModelFunction.run?, ModelFunction.code?, hbuilder, Option.map_some, Option.bind_eq_bind,
      Option.bind_some]
    exact ModelFunction.runOn?_eq hfits s calls
  refine fun calls => ⟨hrun calls, fun calls' hsame => ?_⟩
  rw [hrun, hrun, ModelFunction.direct, ModelFunction.direct, SetterCall.arguments_congr hsame]

def setSummand (i : Fin 3) (value : Int) : SetterCall Unit (addFunction Unit).params :=
  match i with
  | 0 => ⟨⟨0, by decide⟩, value⟩
  | 1 => ⟨⟨1, by decide⟩, value⟩
  | 2 => ⟨⟨2, by decide⟩, value⟩

/-- The sum would fit if the first summand had stayed what it was set to before. -/
theorem builders_simulate_add :
    addFunction Unit ∈ modelFunctions Unit id ∧
      (addFunction Unit).run? ⟨2147483640⟩ [setSummand 0 0, setSummand 1 7, setSummand 0 3] =
        some (.error .sum) ∧
      (addFunction Unit).run? ⟨2147483640⟩ [setSummand 1 7, setSummand 0 0, setSummand 0 3] =
        some (.error .sum) := by
  have hmem : addFunction Unit ∈ modelFunctions Unit id := List.mem_cons_self
  obtain ⟨_, _, _, hruns⟩ := builders_simulate (id : Unit → Unit)
  obtain ⟨hrun, horder⟩ :=
    hruns _ hmem ⟨2147483640⟩ [setSummand 0 0, setSummand 1 7, setSummand 0 3]
  have hdirect : (addFunction Unit).direct ⟨2147483640⟩
      [setSummand 0 0, setSummand 1 7, setSummand 0 3] = .error .sum := rfl
  rw [hdirect] at hrun
  refine ⟨hmem, hrun, (horder _ fun i => ?_).trans hrun⟩
  change Fin 3 at i
  fin_cases i <;> rfl

end Functions

end Gallery

end Buildwright
