import Buildwright.Proofs.Declaration.Display
import Buildwright.Proofs.Manifest.Types
import Buildwright.Proofs.Pipeline.Accounting
import Buildwright.Report.Explanation
import Buildwright.Report.Listing

/-!
# Builders found by signatures

No two builders share a signature, and no signature is the name of a builder, so the signature of a
builder finds it. A listing shows signatures as they are written; they find the builders of the
functions whose arguments do not say `Self`.
-/

namespace Buildwright

/-! ## Signatures and names -/

def SignatureKey.Closed (key : SignatureKey) : Prop := key.text.toList.getLast? = some ')'

theorem SignatureKey.closed_ofTexts (owner name : String) (params : List String) :
    (ofTexts owner name params).Closed := by
  rw [Closed, ofTexts, String.toList_append]
  exact List.getLast?_concat

theorem Callable.closed_signature (c : Callable) : c.signature.Closed :=
  SignatureKey.closed_ofTexts _ _ _

theorem Declaration.closed_signature (d : Declaration) : d.signature.Closed :=
  SignatureKey.closed_ofTexts _ _ _

theorem Builder.Named.name_ne {b : Builder} (hnamed : b.Named) {key : SignatureKey}
    (hkey : key.Closed) : b.name ≠ key.text := by
  intro heq
  rw [SignatureKey.Closed, ← heq] at hkey
  rcases hnamed.name with hname | ⟨stem, hstem⟩
  · obtain ⟨c, rest, hchars, -, hall⟩ := Text.exists_chars_of_isName hname
    have hmem : ')' ∈ c :: rest := hchars ▸ List.mem_of_getLast? hkey
    exact absurd (hall ')' hmem) (by decide)
  · have hlast : builderSuffix.toList.getLast? = some 'r' := by decide
    rw [hstem, String.toList_append, List.getLast?_append, hlast, Option.some_or] at hkey
    exact absurd hkey (by decide)

/-! ## Signatures as they are written -/

theorem TypeExpr.self_not_mem_withSelf {self : TypeExpr} (hself : "Self" ∉ self.bareNames)
    (t : TypeExpr) : "Self" ∉ (t.withSelf self).bareNames := by
  intro hmem
  obtain ⟨n, -, hn⟩ := Tree.mem_bareNames_resolve.1 hmem
  by_cases hname : n = "Self"
  · rw [if_pos hname] at hn
    exact hself hn
  · rw [if_neg hname] at hn
    exact hname (List.mem_singleton.1 hn).symm

namespace Declaration

variable {d d' : Declaration}

theorem signature_eq_ofTexts (d : Declaration) :
    d.signature = .ofTexts (TypeExpr.toString d.block.selfTy) d.function.name
      ((d.function.args.map (·.type)).map TypeExpr.toString) := by
  rw [List.map_map]
  rfl

theorem args_eq_of_signature_eq (hd : d.Spelled) (hd' : d'.Spelled)
    (h : d.signature = d'.signature) :
    d.function.args.map (·.type) = d'.function.args.map (·.type) := by
  rw [signature_eq_ofTexts, signature_eq_ofTexts] at h
  have hchars := congrArg (fun s => s.text.toList) h
  simp only [SignatureKey.toList_text_ofTexts] at hchars
  obtain ⟨-, -, hargs⟩ := Tree.chars_name_inj hd.selfTy hd'.selfTy hd.name hd'.name hchars
  exact Tree.listChars_inj (List.forall_mem_map.2 hd.arg) (List.forall_mem_map.2 hd'.arg) hargs

theorem Spelled.withSelf (hd : d.Spelled) : d.withSelf.Spelled where
  selfTy := hd.selfTy
  name := hd.name
  arg := by
    refine List.forall_mem_map.2 fun a ha => Tree.named_resolve (hd.arg a ha) fun s u hu => ?_
    split at hu
    · cases hu
      exact hd.selfTy
    · cases hu

theorem signature_callable_ne (hfault : d.fault? = none) (hd : d.Spelled) (hd' : d'.Spelled)
    {a : Parameter} (ha : a ∈ d'.function.args) (hself : "Self" ∈ a.type.bareNames) :
    d.callable.signature ≠ d'.signature := by
  rw [signature_callable hfault]
  intro heq
  have hargs := args_eq_of_signature_eq hd.withSelf hd' heq
  have hmem : a.type ∈ d.withSelf.function.args.map (·.type) := hargs ▸ List.mem_map_of_mem ha
  obtain ⟨a', ha', htype⟩ := List.mem_map.1 hmem
  obtain ⟨a₀, -, rfl⟩ := List.mem_map.1 ha'
  have hblock := Names.self_not_mem_bareNames (fault?_selfTy hfault) rfl
  rw [← htype] at hself
  exact TypeExpr.self_not_mem_withSelf hblock a₀.type hself

theorem result_eq_ok {earlier : List Declaration} {b : Builder} (h : d.result earlier = .ok b) :
    d.fault? = none ∧ d.callable.generate = .ok b := by
  unfold result at h
  split at h
  · cases h
  · next c hextract =>
    obtain ⟨hfault, rfl⟩ := extract_eq_ok.1 hextract
    split at h
    · cases h
    · exact ⟨hfault, mapError_eq_ok.1 h⟩

end Declaration

/-! ## Builders by their signatures -/

namespace Compilation

/-- Extraction keeps one callable of each signature, and none of a signature that was seen. -/
theorem signatures_extractAll (seen : List SignatureKey) (ds : List Declaration) :
    (∀ s ∈ (extractAll seen ds).1.map Callable.signature, s ∉ seen) ∧
      ((extractAll seen ds).1.map Callable.signature).Nodup := by
  -- The seen signatures grow along the way, so both facts are about any of them.
  induction ds generalizing seen with
  | nil => exact ⟨nofun, List.nodup_nil⟩
  | cons d rest ih =>
    rw [extractAll]
    split
    · exact ih seen
    · next c _ =>
      split
      · exact ih seen
      · next hseen =>
        obtain ⟨hnew, hnodup⟩ := ih (c.signature :: seen)
        have hfirst : c.signature ∉ seen := fun h => hseen (List.contains_iff_mem.2 h)
        constructor
        · rw [List.map_cons, List.forall_mem_cons]
          exact ⟨hfirst, fun s hs hmem => hnew s hs (List.mem_cons_of_mem _ hmem)⟩
        · rw [List.map_cons, List.nodup_cons]
          exact ⟨fun hmem => hnew _ hmem List.mem_cons_self, hnodup⟩

theorem source_of_generate {c : Callable} {b : Builder} (h : c.generate = .ok b) :
    b.source = c.signature := by
  obtain ⟨r, _, rfl⟩ := Callable.generate_eq_ok.1 h
  rfl

theorem sources_buildersOf (cs : List Callable) :
    ((buildersOf cs).map (·.source)).Sublist (cs.map Callable.signature) := by
  induction cs with
  | nil => exact .slnil
  | cons c rest ih =>
    rw [buildersOf, List.filterMap_cons]
    cases hgenerate : c.generate with
    | error e => exact ih.cons _
    | ok b =>
      have hsource := source_of_generate hgenerate
      simp only [Except.toOption, List.map_cons, hsource]
      exact ih.cons_cons _

theorem nodup_sources (m : Manifest) : ((ofManifest m).builders.map (·.source)).Nodup :=
  (signatures_extractAll [] m.annotated).2.sublist (sources_buildersOf _)

theorem closed_source {m : Manifest} {b : Builder} (hb : b ∈ (ofManifest m).builders) :
    b.source.Closed := by
  obtain ⟨d, _, c, _, hgenerate⟩ := exists_declaration_of_mem_builders hb
  exact source_of_generate hgenerate ▸ c.closed_signature

theorem find?_eq_some {c : Compilation} (hnodup : (c.builders.map (·.source)).Nodup)
    {key : SignatureKey} (hname : ∀ b ∈ c.builders, b.name ≠ key.text) {b : Builder} :
    c.find? key.text = some b ↔ b ∈ c.builders ∧ b.source = key := by
  have hunnamed : c.builder? key.text = none :=
    List.find?_eq_none.2 fun b hb => by simpa using hname b hb
  have hinj := List.inj_on_of_nodup_map hnodup
  rw [find?, hunnamed, Option.none_or]
  constructor
  · intro hfind
    have htext : b.source.text = key.text := by simpa using List.find?_some hfind
    exact ⟨List.mem_of_find?_eq_some hfind, congrArg SignatureKey.mk htext⟩
  · rintro ⟨hb, rfl⟩
    cases hfind : c.builders.find? (·.source.text == b.source.text) with
    | none => exact absurd (List.find?_eq_none.1 hfind b hb) (by simp)
    | some b' =>
      have htext : b'.source.text = b.source.text := by simpa using List.find?_some hfind
      exact congrArg some
        (hinj (List.mem_of_find?_eq_some hfind) hb (congrArg SignatureKey.mk htext))

end Compilation

namespace Manifest

theorem builders_eq_results (m : Manifest) :
    (Compilation.ofManifest m).builders = m.results.filterMap Except.toOption := by
  have hseen : Compilation.Seen [] [] := fun s => by simp
  have hcallables : (Compilation.start m).extract.callables =
      Compilation.callablesAfter [] m.annotated := by
    simp [Compilation.extract, Compilation.start, Compilation.extractAll_eq hseen]
  calc (Compilation.ofManifest m).builders
      = Compilation.buildersOf (Compilation.callablesAfter [] m.annotated) :=
        congrArg Compilation.buildersOf hcallables
    _ = m.results.filterMap Except.toOption :=
        (Compilation.synthesize_callablesAfter [] m.annotated).1

theorem mem_builders_of_results {m : Manifest} {i : Nat} {b : Builder}
    (h : m.results[i]? = some (.ok b)) : b ∈ (Compilation.ofManifest m).builders := by
  rw [builders_eq_results, List.mem_filterMap]
  exact ⟨.ok b, List.mem_of_getElem? h, rfl⟩

theorem explain_eq_ok {m : Manifest} {name : String} {b : Builder} :
    m.explain name = .ok b ↔ (Compilation.ofManifest m).find? name = some b := by
  unfold explain
  dsimp only
  cases (Compilation.ofManifest m).find? name <;> simp

theorem explain_eq_error {m : Manifest} {name : String}
    (h : ∀ b, m.explain name ≠ .ok b) :
    m.explain name = .error ⟨name, (Compilation.ofManifest m).builders.map (·.name),
      (Compilation.ofManifest m).errors.length⟩ := by
  unfold explain at h ⊢
  dsimp only at h ⊢
  cases hfind : (Compilation.ofManifest m).find? name with
  | none => rfl
  | some b =>
    rw [hfind] at h
    exact absurd rfl (h b)

section Read

variable {source : String} {m : Manifest}

theorem explain_closed_eq_ok (hread : read source = .ok m) {key : SignatureKey}
    (hkey : key.Closed) {b : Builder} :
    m.explain key.text = .ok b ↔ b ∈ (Compilation.ofManifest m).builders ∧ b.source = key :=
  explain_eq_ok.trans (Compilation.find?_eq_some (Compilation.nodup_sources m)
    fun _ hb => (named_of_mem_builders hread hb).name_ne hkey)

end Read

/-! ## A manifest with two builders of one name -/

def queueManifest : Manifest := ⟨.default, [queueBlock]⟩

def queueText : String :=
  Text.lines
    ["[[impl]]", "self = \"Queue<T>\"", "generics = [\"T\"]",
      "[[impl.fn]]", "name = \"join\"", "receiver = \"self\"", "args = [\"parts: (Self,)\"]",
      "call_builder = \x7b\x7d",
      "[[impl.fn]]", "name = \"join\"", "receiver = \"self\"", "args = [\"part: T\"]",
      "call_builder = \x7b\x7d"]

set_option maxRecDepth 10000 in
theorem read_queueText : read queueText = .ok queueManifest :=
  read_eq_ok (by decide +kernel) (by decide +kernel)

def queueTy : Ty := .path false [.mk "Queue" [.type (.var ⟨.owner, "T"⟩)]]

def queueBuilder (arg : String) (ty : Ty) : Builder where
  name := "JoinBuilder"
  source := ⟨"Queue<T>::join(" ++ ty.toString ++ ")"⟩
  typeVars := [⟨"T", .owner, []⟩]
  receiver := some ⟨.owned, queueTy, ["T"], []⟩
  fields := [⟨arg, ty, .default⟩]
  setters := [⟨setterName arg, arg⟩]
  terminalName := "build"
  terminal := { target := .method "join", args := [arg], result := .unit }
  phantom := []

def joinBuilder : Builder := queueBuilder "parts" (.tuple [queueTy])

def pushBuilder : Builder := queueBuilder "part" (.var ⟨.owner, "T"⟩)

theorem generate_joinDeclaration : joinDeclaration.callable.generate = .ok joinBuilder := by cbv

theorem generate_pushDeclaration : pushDeclaration.callable.generate = .ok pushBuilder := by cbv

theorem annotated_queueManifest : queueManifest.annotated = [joinDeclaration, pushDeclaration] :=
  rfl

theorem results_queueManifest : queueManifest.results = [.ok joinBuilder, .ok pushBuilder] := by
  have hrepeats : ¬Declaration.Repeats [joinDeclaration] pushDeclaration.callable := by
    have hkey : joinDeclaration.key? = some joinDeclaration.callable.signature := by
      rw [Declaration.key?, extract_joinDeclaration]
      rfl
    have hne : joinDeclaration.callable.signature ≠ pushDeclaration.callable.signature := by decide
    simpa [Declaration.Repeats, hkey] using hne
  have hjoin : joinDeclaration.result [] = .ok joinBuilder := by
    simp [Declaration.result, extract_joinDeclaration, Declaration.Repeats,
      generate_joinDeclaration, Except.mapError]
  have hpush : pushDeclaration.result [joinDeclaration] = .ok pushBuilder := by
    simp [Declaration.result, extract_pushDeclaration, hrepeats, generate_pushDeclaration,
      Except.mapError]
  rw [results, annotated_queueManifest, Compilation.resultsAfter_cons,
    Compilation.resultsAfter_cons, hjoin]
  exact congrArg₂ List.cons rfl (congrArg₂ List.cons hpush rfl)

/-! ## Explaining builders by their signatures -/

section Explain

variable {source : String} {m : Manifest}

/-- The signatures of the builders are distinct, none of them is the name of a builder, and each
finds its builder. -/
theorem explain_source (hread : read source = .ok m) :
    ((Compilation.ofManifest m).builders.map (·.source)).Nodup ∧
      (∀ b ∈ (Compilation.ofManifest m).builders, ∀ b' ∈ (Compilation.ofManifest m).builders,
        b.name ≠ b'.source.text) ∧
      ∀ b ∈ (Compilation.ofManifest m).builders, m.explain b.source.text = .ok b := by
  refine ⟨Compilation.nodup_sources m, fun b hb b' hb' => ?_, fun b hb => ?_⟩
  · exact (named_of_mem_builders hread hb).name_ne (Compilation.closed_source hb')
  · exact (explain_closed_eq_ok hread (Compilation.closed_source hb)).2 ⟨hb, rfl⟩

/-- Two builders share their name, and each is found by its signature. -/
theorem queueManifest_explains :
    joinBuilder.name = pushBuilder.name ∧
      queueManifest.explain "Queue<T>::join((Queue<T>,))" = .ok joinBuilder ∧
      queueManifest.explain "Queue<T>::join(T)" = .ok pushBuilder := by
  obtain ⟨-, -, hexplain⟩ := explain_source read_queueText
  have hjoin : joinBuilder ∈ (Compilation.ofManifest queueManifest).builders :=
    mem_builders_of_results (i := 0) (by rw [results_queueManifest]; rfl)
  have hpush : pushBuilder ∈ (Compilation.ofManifest queueManifest).builders :=
    mem_builders_of_results (i := 1) (by rw [results_queueManifest]; rfl)
  have hjoinText : joinBuilder.source.text = "Queue<T>::join((Queue<T>,))" := by decide
  have hpushText : pushBuilder.source.text = "Queue<T>::join(T)" := by decide
  exact ⟨rfl, hjoinText ▸ hexplain joinBuilder hjoin, hpushText ▸ hexplain pushBuilder hpush⟩

theorem getElem?_listing (m : Manifest) (i : Nat) :
    m.listing.declarations[i]? = (m.annotated[i]?).map Declaration.listed :=
  List.getElem?_map

theorem generate_of_results {i : Nat} {d : Declaration} {b : Builder}
    (hd : m.annotated[i]? = some d) (hresult : m.results[i]? = some (.ok b)) :
    d.fault? = none ∧ d.callable.generate = .ok b := by
  rw [results, Compilation.resultsAfter, List.getElem?_mapIdx, hd] at hresult
  exact Declaration.result_eq_ok (Option.some.inj hresult)

theorem explain_signature_ne_ok (hread : read source = .ok m) {d : Declaration}
    (hd : d ∈ m.annotated) {a : Parameter} (ha : a ∈ d.function.args)
    (hself : (Tree.name "Self" : TypeExpr).Within a.type) (b : Builder) :
    m.explain d.signature.text ≠ .ok b := by
  have hbare : "Self" ∈ a.type.bareNames := by
    by_contra hnot
    exact TypeExpr.self_not_mem_bareNames_iff.1 hnot hself
  intro hexplain
  obtain ⟨hb, hsource⟩ := (explain_closed_eq_ok hread d.closed_signature).1 hexplain
  obtain ⟨d', hd', c, hextract, hgenerate⟩ := Compilation.exists_declaration_of_mem_builders hb
  obtain ⟨hfault, rfl⟩ := Declaration.extract_eq_ok.1 hextract
  have hne : d'.callable.signature ≠ d.signature :=
    Declaration.signature_callable_ne hfault (spelled_of_read hread hd')
      (spelled_of_read hread hd) ha hbare
  exact hne (Compilation.source_of_generate hgenerate ▸ hsource)

/-- The listed signature of a function finds its builder if no argument says `Self`, and no builder
otherwise. -/
theorem explain_listed_iff (hread : read source = .ok m) {i : Nat} {d : Declaration} {l : Listed}
    {b : Builder} (hd : m.annotated[i]? = some d) (hlisted : m.listing.declarations[i]? = some l)
    (hresult : m.results[i]? = some (.ok b)) :
    b ∈ (Compilation.ofManifest m).builders ∧
      (m.explain l.signature.text = .ok b ↔
        ∀ a ∈ d.function.args, ¬ (Tree.name "Self" : TypeExpr).Within a.type) ∧
      ((∃ a ∈ d.function.args, (Tree.name "Self" : TypeExpr).Within a.type) →
        m.explain l.signature.text =
          .error ⟨l.signature.text, (Compilation.ofManifest m).builders.map (·.name),
            (Compilation.ofManifest m).errors.length⟩) := by
  obtain rfl : d.listed = l := by
    rw [getElem?_listing, hd] at hlisted
    exact Option.some.inj hlisted
  have hmem := List.mem_of_getElem? hd
  have hb := mem_builders_of_results hresult
  obtain ⟨hfault, hgenerate⟩ := generate_of_results hd hresult
  refine ⟨hb, ⟨fun hexplain a ha hself => ?self, fun hfree => ?free⟩,
    fun ⟨a, ha, hself⟩ => ?unknown⟩
  case self => exact explain_signature_ne_ok hread hmem ha hself b hexplain
  case free =>
    have hbare : ∀ a ∈ d.function.args, "Self" ∉ a.type.bareNames :=
      fun a ha => TypeExpr.self_not_mem_bareNames_iff.2 (hfree a ha)
    have hsource : b.source = d.signature := by
      rw [Compilation.source_of_generate hgenerate, Declaration.signature_callable hfault,
        Declaration.withSelf_eq_self hbare]
    exact (explain_closed_eq_ok hread d.closed_signature).2 ⟨hb, hsource⟩
  case unknown => exact explain_eq_error (explain_signature_ne_ok hread hmem ha hself)

theorem not_self_within_element : ¬ (Tree.name "Self" : TypeExpr).Within (.name "T") :=
  TypeExpr.self_not_mem_bareNames_iff.1 (by decide)

theorem self_within_single :
    (Tree.name "Self" : TypeExpr).Within (.tuple [.name "Self"]) := by
  by_contra hnot
  exact absurd (TypeExpr.self_not_mem_bareNames_iff.2 hnot) (by decide)

/-- The method with an element is found as it is listed, the one with a queue is not. -/
theorem queueManifest_lists :
    read queueText = .ok queueManifest ∧
      queueManifest.explain "Queue<T>::join(T)" = .ok pushBuilder ∧
      queueManifest.explain "Queue<T>::join((Self,))" ≠ .ok joinBuilder := by
  have hpush := explain_listed_iff read_queueText (i := 1) (d := pushDeclaration) rfl rfl
    (by rw [results_queueManifest]; rfl)
  have hjoin := explain_listed_iff read_queueText (i := 0) (d := joinDeclaration) rfl rfl
    (by rw [results_queueManifest]; rfl)
  have hpushText : pushDeclaration.signature.text = "Queue<T>::join(T)" := by decide
  have hjoinText : joinDeclaration.signature.text = "Queue<T>::join((Self,))" := by decide
  refine ⟨read_queueText, ?_, fun hexplain => ?_⟩
  · rw [← hpushText]
    exact hpush.2.1.2 (by simpa [pushDeclaration, queueMethod] using not_self_within_element)
  · rw [← hjoinText] at hexplain
    exact hjoin.2.1.1 hexplain ⟨"parts", .tuple [.name "Self"]⟩ List.mem_cons_self
      self_within_single

/-- The method with a queue has a builder, and its listed signature finds none. -/
theorem queueManifest_unexplained :
    read queueText = .ok queueManifest ∧
      queueManifest.results[0]? = some (.ok joinBuilder) ∧
      (queueManifest.listing.declarations[0]?.map (·.signature.text)) =
        some "Queue<T>::join((Self,))" ∧
      ∀ b, queueManifest.explain "Queue<T>::join((Self,))" ≠ .ok b := by
  have hmem : joinDeclaration ∈ queueManifest.annotated := List.mem_cons_self
  have htext : joinDeclaration.signature.text = "Queue<T>::join((Self,))" := by decide
  refine ⟨read_queueText, by rw [results_queueManifest]; rfl, ?_, fun b => ?_⟩
  · exact congrArg some htext
  · rw [← htext]
    exact explain_signature_ne_ok read_queueText hmem List.mem_cons_self self_within_single b

end Explain

end Manifest

end Buildwright
