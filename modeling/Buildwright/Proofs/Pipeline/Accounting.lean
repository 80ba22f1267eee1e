import Buildwright.Proofs.Pipeline.Builders
import Mathlib.Data.List.ReduceOption

/-!
# What becomes of every declaration

Each annotated declaration ends as a builder or as one diagnostic. Which of the two it is depends
on the declaration and on the signatures of those before it alone, so a declaration that shares its
signature with no other one can be left out without consequences for the others.
-/

namespace Buildwright

namespace Declaration

/-- The signature that the declaration is resolved to, if it can be resolved. -/
def key? (d : Declaration) : Option SignatureKey := d.extract.toOption.map Callable.signature

/-- An earlier declaration is resolved to the same signature. -/
def Repeats (earlier : List Declaration) (c : Callable) : Prop :=
  ∃ d ∈ earlier, d.key? = some c.signature

instance (earlier : List Declaration) (c : Callable) : Decidable (Repeats earlier c) :=
  inferInstanceAs (Decidable (∃ d ∈ earlier, _ = _))

/-- The callable of a declaration that comes after others: the first one of its signature. -/
def callable? (earlier : List Declaration) (d : Declaration) : Option Callable :=
  d.extract.toOption.filter fun c => !decide (Repeats earlier c)

/-- What becomes of a declaration that comes after others. -/
def result (earlier : List Declaration) (d : Declaration) : Except Diagnostic Builder :=
  match d.extract with
  | .error e => .error (.ofFault Compilation.extractPhase e)
  | .ok c =>
    if Repeats earlier c then
      .error ⟨.error, Compilation.extractPhase, Compilation.repeatedMessage c.signature,
        some c.signature.text⟩
    else
      c.generate.mapError (.ofFault Compilation.synthesizePhase)

theorem key?_eq_some {d : Declaration} {s : SignatureKey} :
    d.key? = some s ↔ ∃ c, d.extract = .ok c ∧ c.signature = s := by
  rw [key?, Option.map_eq_some_iff]
  cases d.extract <;> simp [Except.toOption]

theorem result_congr {earlier earlier' : List Declaration} {d : Declaration}
    (h : ∀ s, d.key? = some s →
      ((∃ d' ∈ earlier, d'.key? = some s) ↔ ∃ d' ∈ earlier', d'.key? = some s)) :
    d.result earlier = d.result earlier' := by
  unfold result
  cases hextract : d.extract with
  | error e => rfl
  | ok c =>
    have hrepeats : Repeats earlier c ↔ Repeats earlier' c :=
      h c.signature (key?_eq_some.2 ⟨c, hextract, rfl⟩)
    simp only [hrepeats]

theorem phase_of_result_eq_error {earlier : List Declaration} {d : Declaration} {e : Diagnostic}
    (h : d.result earlier = .error e) :
    e.severity = .error ∧
      (e.phase = Compilation.extractPhase ∨ e.phase = Compilation.synthesizePhase) := by
  unfold result at h
  split at h
  · cases h
    exact ⟨rfl, .inl rfl⟩
  · next c _ =>
    split at h
    · cases h
      exact ⟨rfl, .inl rfl⟩
    · cases hgenerate : c.generate <;> rw [hgenerate] at h <;> cases h
      exact ⟨rfl, .inr rfl⟩

end Declaration

namespace Compilation

/-- The callables of declarations that come after others, each the first one of its signature. -/
def callablesAfter (earlier ds : List Declaration) : List Callable :=
  (ds.mapIdx fun i d => d.callable? (earlier ++ ds.take i)).reduceOption

/-- What becomes of declarations that come after others, one by one. -/
def resultsAfter (earlier ds : List Declaration) : List (Except Diagnostic Builder) :=
  ds.mapIdx fun i d => d.result (earlier ++ ds.take i)

/-- The diagnostics of a phase among the results. -/
def failures (phase : String) (rs : List (Except Diagnostic Builder)) : List Diagnostic :=
  rs.filterMap fun
    | .error e => if e.phase = phase then some e else none
    | .ok _ => none

section Equations

variable (earlier : List Declaration) (d : Declaration) (rest : List Declaration)

private theorem append_take_cons (i : Nat) :
    earlier ++ (d :: rest).take (i + 1) = (earlier ++ [d]) ++ rest.take i := by
  simp

theorem callablesAfter_cons :
    callablesAfter earlier (d :: rest) =
      (d.callable? earlier).toList ++ callablesAfter (earlier ++ [d]) rest := by
  rw [callablesAfter, List.mapIdx_cons, List.take_zero, List.append_nil]
  simp only [append_take_cons]
  cases d.callable? earlier <;> rfl

theorem resultsAfter_cons :
    resultsAfter earlier (d :: rest) =
      d.result earlier :: resultsAfter (earlier ++ [d]) rest := by
  rw [resultsAfter, List.mapIdx_cons, List.take_zero, List.append_nil]
  simp only [append_take_cons]
  rfl

end Equations

theorem resultsAfter_append (earlier ds rest : List Declaration) :
    resultsAfter earlier (ds ++ rest) =
      resultsAfter earlier ds ++ resultsAfter (earlier ++ ds) rest := by
  induction ds generalizing earlier with
  | nil => simp [resultsAfter]
  | cons d ds ih =>
    rw [List.cons_append, resultsAfter_cons, resultsAfter_cons, ih, List.append_assoc]
    rfl

@[simp] theorem length_resultsAfter (earlier ds : List Declaration) :
    (resultsAfter earlier ds).length = ds.length :=
  List.length_mapIdx

theorem failures_cons (phase : String) (r : Except Diagnostic Builder)
    (rs : List (Except Diagnostic Builder)) :
    failures phase (r :: rs) = failures phase [r] ++ failures phase rs :=
  List.filterMap_append (l := [r])

/-! ## The phases, declaration by declaration -/

section Step

variable {d : Declaration} {c : Callable} {earlier : List Declaration}

/-- The signatures in `seen` are those of the earlier declarations. -/
def Seen (seen : List SignatureKey) (earlier : List Declaration) : Prop :=
  ∀ s, s ∈ seen ↔ ∃ d ∈ earlier, d.key? = some s

theorem exists_key?_append_singleton {s : SignatureKey} :
    (∃ d' ∈ earlier ++ [d], d'.key? = some s) ↔
      (∃ d' ∈ earlier, d'.key? = some s) ∨ d.key? = some s := by
  simp only [List.mem_append, List.mem_singleton, or_and_right, exists_or, exists_eq_left]

theorem Seen.append {seen : List SignatureKey} (hseen : Seen seen earlier)
    (hkey : ∀ s, d.key? = some s → s ∈ seen) : Seen seen (earlier ++ [d]) := by
  intro s
  rw [exists_key?_append_singleton, ← hseen s]
  exact (or_iff_left_of_imp (hkey s)).symm

theorem Seen.cons {seen : List SignatureKey} (hseen : Seen seen earlier)
    (hextract : d.extract = .ok c) : Seen (c.signature :: seen) (earlier ++ [d]) := by
  have hkey : d.key? = some c.signature := Declaration.key?_eq_some.2 ⟨c, hextract, rfl⟩
  intro s
  rw [exists_key?_append_singleton, ← hseen s, List.mem_cons, hkey, Option.some_inj, or_comm,
    eq_comm]

theorem callable?_of_error {e : GenerateFault} (earlier : List Declaration)
    (hextract : d.extract = .error e) :
    d.callable? earlier = none ∧ d.result earlier = .error (.ofFault extractPhase e) := by
  simp [Declaration.callable?, Declaration.result, hextract, Except.toOption]

theorem callable?_of_repeats (hextract : d.extract = .ok c)
    (hrepeats : Declaration.Repeats earlier c) :
    d.callable? earlier = none ∧
      d.result earlier = .error
        ⟨.error, extractPhase, repeatedMessage c.signature, some c.signature.text⟩ := by
  simp [Declaration.callable?, Declaration.result, hextract, Except.toOption, hrepeats]

theorem callable?_of_first (hextract : d.extract = .ok c)
    (hfirst : ¬Declaration.Repeats earlier c) :
    d.callable? earlier = some c ∧
      d.result earlier = c.generate.mapError (.ofFault synthesizePhase) := by
  simp [Declaration.callable?, Declaration.result, hextract, Except.toOption, hfirst]

/-- The builders and diagnostics that a declaration's callable gives, if it has one. -/
theorem synthesize_callable? (d : Declaration) (earlier : List Declaration) :
    buildersOf (d.callable? earlier).toList = [d.result earlier].filterMap Except.toOption ∧
      faultsOf (d.callable? earlier).toList = failures synthesizePhase [d.result earlier] := by
  have hphase : extractPhase ≠ synthesizePhase := by decide
  cases hextract : d.extract with
  | error e =>
    obtain ⟨hcallable, hresult⟩ := callable?_of_error earlier hextract
    simp [hcallable, hresult, buildersOf, faultsOf, failures, Except.toOption,
      Diagnostic.ofFault, hphase]
  | ok c =>
    by_cases hrepeats : Declaration.Repeats earlier c
    · obtain ⟨hcallable, hresult⟩ := callable?_of_repeats hextract hrepeats
      simp [hcallable, hresult, buildersOf, faultsOf, failures, Except.toOption, hphase]
    · obtain ⟨hcallable, hresult⟩ := callable?_of_first hextract hrepeats
      cases hgenerate : c.generate <;>
        simp [hcallable, hresult, hgenerate, buildersOf, faultsOf, failures, Except.toOption,
          Except.mapError, Diagnostic.ofFault]

end Step

theorem synthesize_callablesAfter (earlier ds : List Declaration) :
    buildersOf (callablesAfter earlier ds) =
        (resultsAfter earlier ds).filterMap Except.toOption ∧
      faultsOf (callablesAfter earlier ds) =
        failures synthesizePhase (resultsAfter earlier ds) := by
  induction ds generalizing earlier with
  | nil => exact ⟨rfl, rfl⟩
  | cons d rest ih =>
    obtain ⟨hbuilders, hfaults⟩ := synthesize_callable? d earlier
    obtain ⟨hbuilders', hfaults'⟩ := ih (earlier ++ [d])
    rw [callablesAfter_cons, resultsAfter_cons]
    constructor
    · rw [buildersOf, List.filterMap_append, ← buildersOf, ← buildersOf, hbuilders, hbuilders',
        ← List.filterMap_append]
      rfl
    · rw [faultsOf, List.filterMap_append, ← faultsOf, ← faultsOf, hfaults, hfaults',
        ← failures_cons]

/-- Extraction keeps the first callable of every signature and has a diagnostic for every other
declaration. -/
theorem extractAll_eq {seen : List SignatureKey} {earlier : List Declaration}
    (hseen : Seen seen earlier) (ds : List Declaration) :
    extractAll seen ds =
      (callablesAfter earlier ds, failures extractPhase (resultsAfter earlier ds)) := by
  induction ds generalizing seen earlier with
  | nil => rfl
  | cons d rest ih =>
    rw [extractAll, callablesAfter_cons, resultsAfter_cons, failures_cons]
    cases hextract : d.extract with
    | error e =>
      obtain ⟨hcallable, hresult⟩ := callable?_of_error earlier hextract
      have hkey : d.key? = none := by rw [Declaration.key?, hextract]; rfl
      have hseen' : Seen seen (earlier ++ [d]) := hseen.append (by simp [hkey])
      simp [hcallable, hresult, ih hseen', failures, Diagnostic.ofFault]
    | ok c =>
      have hkey : d.key? = some c.signature := Declaration.key?_eq_some.2 ⟨c, hextract, rfl⟩
      by_cases hrepeats : Declaration.Repeats earlier c
      · obtain ⟨hcallable, hresult⟩ := callable?_of_repeats hextract hrepeats
        have hmem : c.signature ∈ seen := (hseen c.signature).2 hrepeats
        have hseen' : Seen seen (earlier ++ [d]) := hseen.append (by simpa [hkey] using hmem)
        simp [hcallable, hresult, hmem, ih hseen', failures]
      · obtain ⟨hcallable, hresult⟩ := callable?_of_first hextract hrepeats
        have hnotMem : c.signature ∉ seen := mt (hseen c.signature).1 hrepeats
        have hquiet : failures extractPhase [d.result earlier] = [] := by
          rw [hresult]
          cases c.generate <;>
            simp [failures, Except.mapError, Diagnostic.ofFault, extractPhase, synthesizePhase]
        simp [hcallable, hquiet, hnotMem, ih (hseen.cons hextract)]

/-! ## Leaving a declaration out -/

/-- Declarations with the same signatures before a declaration make the same of it. -/
theorem resultsAfter_congr {earlier earlier' ds : List Declaration}
    (h : ∀ d ∈ ds, ∀ s, d.key? = some s →
      ((∃ d' ∈ earlier, d'.key? = some s) ↔ ∃ d' ∈ earlier', d'.key? = some s)) :
    resultsAfter earlier ds = resultsAfter earlier' ds := by
  unfold resultsAfter
  refine List.mapIdx_eq_mapIdx_iff.2 fun i hi => Declaration.result_congr fun s hs => ?_
  simp only [List.mem_append, or_and_right, exists_or]
  exact or_congr_left (h _ (List.getElem_mem hi) s hs)

/-- No later declaration has the signature of `d`, so it can be left out before them. -/
theorem resultsAfter_append_singleton {earlier rest : List Declaration} {d : Declaration}
    (hkey : ∀ d' ∈ rest, ∀ s, d.key? = some s → d'.key? ≠ some s) :
    resultsAfter (earlier ++ [d]) rest = resultsAfter earlier rest := by
  refine resultsAfter_congr fun d' hd' s hs => ?_
  rw [exists_key?_append_singleton]
  exact or_iff_left fun hd => hkey d' hd' s hd hs

theorem resultsAfter_eraseIdx {ds : List Declaration} {k : Nat} {d : Declaration}
    (hd : ds[k]? = some d)
    (hkey : ∀ k' d', k' ≠ k → ds[k']? = some d' → ∀ s, d.key? = some s → d'.key? ≠ some s) :
    resultsAfter [] (ds.eraseIdx k) = (resultsAfter [] ds).eraseIdx k := by
  obtain ⟨hk, rfl⟩ := List.getElem?_eq_some_iff.1 hd
  have hlater : ∀ d' ∈ ds.drop (k + 1), ∀ s, ds[k].key? = some s → d'.key? ≠ some s := by
    intro d' hd'
    obtain ⟨i, hi⟩ := List.mem_iff_getElem?.1 hd'
    rw [List.getElem?_drop] at hi
    exact hkey _ d' (by omega) hi
  have hsplit : ds = ds.take k ++ ds[k] :: ds.drop (k + 1) := by simp
  have hlength : (resultsAfter [] (ds.take k)).length = k := by
    rw [length_resultsAfter, List.length_take_of_le hk.le]
  calc resultsAfter [] (ds.eraseIdx k)
      = resultsAfter [] (ds.take k) ++ resultsAfter (ds.take k) (ds.drop (k + 1)) := by
        rw [List.eraseIdx_eq_take_drop_succ, resultsAfter_append, List.nil_append]
    _ = (resultsAfter [] (ds.take k) ++ resultsAfter (ds.take k)
          (ds[k] :: ds.drop (k + 1))).eraseIdx k := by
        rw [resultsAfter_cons, resultsAfter_append_singleton hlater,
          List.eraseIdx_append_of_length_le hlength.le, hlength, Nat.sub_self,
          List.eraseIdx_cons_zero]
    _ = (resultsAfter [] ds).eraseIdx k := by
        conv_rhs => rw [hsplit, resultsAfter_append, List.nil_append]

end Compilation

/-! ## Leaving a function out of a manifest -/

namespace Declaration

/-- The declaration in a block that has no other functions. -/
def alone (d : Declaration) : Declaration := ⟨{ d.block with functions := [] }, d.function⟩

@[simp] theorem extract_alone (d : Declaration) : d.alone.extract = d.extract := rfl

@[simp] theorem key?_alone (d : Declaration) : d.alone.key? = d.key? := rfl

theorem result_map_alone (earlier : List Declaration) (d : Declaration) :
    d.alone.result (earlier.map alone) = d.result earlier :=
  show d.result (earlier.map alone) = d.result earlier from
    result_congr fun s _ => by simp

end Declaration

theorem Compilation.resultsAfter_map_alone (ds : List Declaration) :
    resultsAfter [] (ds.map Declaration.alone) = resultsAfter [] ds := by
  refine List.ext_getElem (by simp) fun i hi hi' => ?_
  simp only [resultsAfter, List.getElem_mapIdx, List.getElem_map, List.nil_append,
    ← List.map_take]
  exact Declaration.result_map_alone _ _

/-- The block without one of its functions. -/
def ImplBlock.without (b : ImplBlock) (j : Nat) : ImplBlock :=
  { b with functions := b.functions.eraseIdx j }

namespace Manifest

/-- The manifest without a function of a block. -/
def without (m : Manifest) (i j : Nat) : Manifest :=
  { m with impls := m.impls.modify i (·.without j) }

/-- What becomes of the annotated functions, one by one. -/
def results (m : Manifest) : List (Except Diagnostic Builder) :=
  Compilation.resultsAfter [] m.annotated

/-- The annotated functions before a function of a block, counted. -/
def rank (m : Manifest) (i j : Nat) : Nat :=
  ((m.impls.take i).flatMap ImplBlock.functions ++
    (m.impls[i]?.elim [] ImplBlock.functions).take j).countP (fun f => f.annotation.isSome)

end Manifest

/-- The annotated ones of some functions of a block. -/
def ImplBlock.declarations (b : ImplBlock) (fs : List FunctionDecl) : List Declaration :=
  (fs.filter (fun f => f.annotation.isSome)).map fun f => ⟨b, f⟩

namespace ImplBlock

variable (b : ImplBlock) (fs gs : List FunctionDecl)

theorem declarations_append :
    b.declarations (fs ++ gs) = b.declarations fs ++ b.declarations gs := by
  rw [declarations, List.filter_append, List.map_append]
  rfl

@[simp] theorem length_declarations :
    (b.declarations fs).length = fs.countP (fun f => f.annotation.isSome) := by
  rw [declarations, List.length_map, List.countP_eq_length_filter]

theorem map_alone_declarations_without (j : Nat) :
    ((b.without j).declarations fs).map Declaration.alone =
      (b.declarations fs).map Declaration.alone := by
  simp only [declarations, List.map_map]
  rfl

end ImplBlock

namespace Manifest

variable (m : Manifest) {i j : Nat} {block : ImplBlock} {f : FunctionDecl}

theorem annotated_eq_declarations :
    m.annotated = m.impls.flatMap fun b => b.declarations b.functions := rfl

private theorem exists_eq_append_of_getElem? {α : Type} {l : List α} {i : Nat} {a : α}
    (h : l[i]? = some a) : ∃ as bs, l = as ++ a :: bs ∧ as.length = i := by
  obtain ⟨hi, rfl⟩ := List.getElem?_eq_some_iff.1 h
  exact ⟨l.take i, l.drop (i + 1), by simp, List.length_take_of_le hi.le⟩

/-- The annotated functions before and after one of them are those without it. -/
theorem exists_annotated_eq_append (hblock : m.impls[i]? = some block)
    (hfunction : block.functions[j]? = some f) (hannotated : f.annotation.isSome = true) :
    ∃ before after, before.length = m.rank i j ∧ m.annotated = before ++ ⟨block, f⟩ :: after ∧
      (m.without i j).annotated.map Declaration.alone =
        (before ++ after).map Declaration.alone := by
  obtain ⟨as, bs, himpls, rfl⟩ := exists_eq_append_of_getElem? hblock
  obtain ⟨fs, gs, hfunctions, rfl⟩ := exists_eq_append_of_getElem? hfunction
  have hwithout : (m.without as.length fs.length).impls =
      as ++ block.without fs.length :: bs := by
    simp [without, himpls, List.modify_eq_take_cons_drop]
  have hfunctions' : (block.without fs.length).functions = fs ++ gs := by
    simp [ImplBlock.without, hfunctions, List.eraseIdx_append_of_length_le]
  have hself : block.declarations (f :: gs) = ⟨block, f⟩ :: block.declarations gs := by
    simp [ImplBlock.declarations, hannotated]
  refine ⟨as.flatMap (fun b => b.declarations b.functions) ++ block.declarations fs,
    block.declarations gs ++ bs.flatMap fun b => b.declarations b.functions, ?_, ?_, ?_⟩
  · simp [rank, himpls, hfunctions, List.countP_flatMap, List.length_flatMap, Function.comp_def]
  · rw [annotated_eq_declarations, himpls, List.flatMap_append, List.flatMap_cons, hfunctions,
      block.declarations_append, hself]
    simp
  · rw [annotated_eq_declarations, hwithout, List.flatMap_append, List.flatMap_cons, hfunctions',
      ImplBlock.declarations_append]
    simp [ImplBlock.map_alone_declarations_without]

/-- The results without a function whose signature no other annotated function has. -/
theorem results_without (hblock : m.impls[i]? = some block)
    (hfunction : block.functions[j]? = some f) (hannotated : f.annotation.isSome = true)
    (hkey : ∀ k d, k ≠ m.rank i j → m.annotated[k]? = some d →
      ∀ s, Declaration.key? ⟨block, f⟩ = some s → d.key? ≠ some s) :
    (m.without i j).results = m.results.eraseIdx (m.rank i j) := by
  obtain ⟨before, after, hrank, hall, hwithout⟩ :=
    m.exists_annotated_eq_append hblock hfunction hannotated
  have hd : m.annotated[m.rank i j]? = some ⟨block, f⟩ := by rw [hall, ← hrank]; simp
  calc (m.without i j).results
      = Compilation.resultsAfter [] (before ++ after) := by
        rw [results, ← Compilation.resultsAfter_map_alone, hwithout,
          Compilation.resultsAfter_map_alone]
    _ = Compilation.resultsAfter [] (m.annotated.eraseIdx (m.rank i j)) := by
        rw [hall, List.eraseIdx_append_of_length_le hrank.le, ← hrank, Nat.sub_self,
          List.eraseIdx_cons_zero]
    _ = m.results.eraseIdx (m.rank i j) :=
        Compilation.resultsAfter_eraseIdx hd hkey

/-- After extraction and synthesis every annotated function is accounted for by one result: its
builder or its diagnostic. A function that cannot be resolved, or that shares its signature with no
other one, can be left out of the manifest, and the results of all others stay as they are. -/
theorem compilation_accounts :
    (Compilation.start m).extract.synthesize.callables =
        Compilation.callablesAfter [] m.annotated ∧
      (Compilation.start m).extract.synthesize.builders =
        (Compilation.start m).extract.synthesize.callables.filterMap (·.generate.toOption) ∧
      m.results.length = m.annotated.length ∧
      (Compilation.start m).extract.synthesize.builders = m.results.filterMap Except.toOption ∧
      (Compilation.start m).extract.synthesize.diagnostics =
        Compilation.failures Compilation.extractPhase m.results ++
          Compilation.failures Compilation.synthesizePhase m.results ∧
      (∀ e, .error e ∈ m.results → e.severity = .error ∧
        (e.phase = Compilation.extractPhase ∨ e.phase = Compilation.synthesizePhase)) ∧
      ∀ i j block f, m.impls[i]? = some block → block.functions[j]? = some f →
        f.annotation.isSome = true →
        m.annotated[m.rank i j]? = some ⟨block, f⟩ ∧
          ((∃ e, Declaration.extract ⟨block, f⟩ = .error e) ∨
              (∀ k d, k ≠ m.rank i j → m.annotated[k]? = some d →
                d.key? ≠ Declaration.key? ⟨block, f⟩) →
            (m.without i j).results = m.results.eraseIdx (m.rank i j)) := by
  have hextract : (Compilation.start m).extract =
      ⟨m, Compilation.callablesAfter [] m.annotated, [],
        Compilation.failures Compilation.extractPhase m.results⟩ := by
    have hseen : Compilation.Seen [] [] := fun s => by simp
    simp [Compilation.extract, Compilation.start, Compilation.extractAll_eq hseen, results]
  obtain ⟨hbuilders, hfaults⟩ := Compilation.synthesize_callablesAfter [] m.annotated
  refine ⟨by rw [hextract]; rfl, rfl, Compilation.length_resultsAfter _ _, ?_, ?_, ?_, ?_⟩
  · rw [hextract]
    exact hbuilders
  · rw [hextract]
    exact congrArg _ hfaults
  · intro e he
    obtain ⟨i, hi, hresult⟩ := List.mem_mapIdx.1 he
    exact Declaration.phase_of_result_eq_error hresult
  · intro i j block f hblock hfunction hannotated
    obtain ⟨before, after, hrank, hall, -⟩ :=
      m.exists_annotated_eq_append hblock hfunction hannotated
    refine ⟨by rw [hall, ← hrank]; simp, fun hremovable => ?_⟩
    refine m.results_without hblock hfunction hannotated fun k d hk hd s hs => ?_
    rcases hremovable with ⟨e, he⟩ | hkey
    · simp [Declaration.key?, he, Except.toOption] at hs
    · exact hs ▸ hkey k d hk hd

/-- Three methods of `Shelf<I>`: one without arguments, and two of the same signature. -/
def crowdedManifest : Manifest where
  generator := .default
  impls := [{ shelfBlock with
    functions := [shelfMethod "clear" [], shelfMethod "fill" ["x"], shelfMethod "fill" ["y"]] }]

/-- The method without arguments can be left out: the builder and the diagnostic of the other two
stay. -/
theorem crowdedManifest_accounts :
    crowdedManifest.results.length = 3 ∧
      (crowdedManifest.without 0 0).results = crowdedManifest.results.eraseIdx 0 := by
  obtain ⟨-, -, hlength, -, -, -, hwithout⟩ := compilation_accounts crowdedManifest
  refine ⟨hlength, ?_⟩
  exact (hwithout 0 0 _ (shelfMethod "clear" []) rfl rfl rfl).2 (.inl ⟨_, rfl⟩)

end Manifest

end Buildwright
