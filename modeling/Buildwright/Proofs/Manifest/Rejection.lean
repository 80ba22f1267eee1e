import Buildwright.Manifest.Reader
import Buildwright.Proofs.Checked
import Buildwright.Proofs.Manifest.Validation

/-!
# Where validation stops

A repeated argument or a hidden generic parameter is reported for the first function that is not
valid, and nothing before that function is wrong.
-/

namespace Buildwright

/-- A function declares a name that is taken already. -/
def ManifestFault.isClash : ManifestFault → Bool
  | .duplicateArgument .. => true
  | .shadowedGeneric .. => true
  | _ => false

namespace Manifest

variable {c : Context} {e : ManifestFault}

theorem isClash_of_checkName {name kind : String} (h : c.checkName name kind = .error e) :
    e.isClash = false := by
  unfold Context.checkName at h
  split at h <;> cases h <;> rfl

/-- A failed check of several names fails at the first that is not in order: at its own check, or
because it was there before. -/
theorem checkDistinct_eq_error {check : String → Except ManifestFault Unit}
    {repeated : String → ManifestFault} {seen names : List String}
    (h : checkDistinct check repeated seen names = .error e) :
    ∃ before name after, names = before ++ name :: after ∧ before.Nodup ∧
      (∀ other ∈ before, other ∉ seen) ∧
      (check name = .error e ∨
        check name = .ok () ∧ (name ∈ seen ∨ name ∈ before) ∧ repeated name = e) := by
  induction names generalizing seen with
  | nil => cases h
  | cons name rest ih =>
    rw [checkDistinct_cons] at h
    obtain hname | ⟨⟨⟩, hname, hrest⟩ := bind_eq_error.1 h
    · refine ⟨[], name, rest, rfl, .nil, List.forall_mem_nil _, ?_⟩
      obtain hcheck | ⟨⟨⟩, hcheck, hseen⟩ := bind_eq_error.1 hname
      · exact .inl hcheck
      · split at hseen
        · next hmem => exact .inr ⟨hcheck, .inl hmem, Except.error.inj hseen⟩
        · cases hseen
    · have hnew : name ∉ seen := by
        obtain ⟨⟨⟩, -, hseen⟩ := bind_eq_ok.1 hname
        split at hseen
        · cases hseen
        · next hmem => exact hmem
      obtain ⟨before, other, after, rfl, hnodup, hbefore, hother⟩ := ih hrest
      refine ⟨name :: before, other, after, rfl, ?_, ?_, ?_⟩
      · exact List.nodup_cons.2 ⟨fun hmem => hbefore name hmem List.mem_cons_self, hnodup⟩
      · exact List.forall_mem_cons.2
          ⟨hnew, fun b hb hmem => hbefore b hb (List.mem_cons_of_mem _ hmem)⟩
      · refine hother.imp_right fun ⟨hcheck, hmem, hfault⟩ => ⟨hcheck, ?_, hfault⟩
        simp only [List.mem_cons] at hmem ⊢
        tauto

theorem clash_of_checkFunctionGenerics {block : ImplBlock} {owner function : String}
    {generics : List TypeParam}
    (h : checkFunctionGenerics c block owner function generics = .error e) (he : e.isClash = true) :
    ∃ name ∈ generics.map (·.name), name ∈ block.generics.map (·.name) ∧
      e = c.shadowedGeneric name function owner := by
  obtain ⟨before, name, after, hnames, -, -, hcheck | ⟨-, -, rfl⟩⟩ := checkDistinct_eq_error h
  · refine ⟨name, hnames ▸ List.mem_append_right _ List.mem_cons_self, ?_⟩
    obtain hname | ⟨-, -, hshadow⟩ := bind_eq_error.1 hcheck
    · rw [isClash_of_checkName hname] at he
      cases he
    · split at hshadow
      · next hany =>
        refine ⟨?_, (Except.error.inj hshadow).symm⟩
        simpa using hany
      · cases hshadow
  · cases he

theorem clash_of_checkArguments {function : String} {args : List Parameter}
    (h : checkArguments c function args = .error e) (he : e.isClash = true) :
    ∃ before name after, args.map (·.name) = before ++ name :: after ∧ before.Nodup ∧
      name ∈ before ∧ Usable name ∧ e = c.duplicateArgument name function := by
  obtain ⟨before, name, after, hnames, hnodup, -, hcheck | ⟨hcheck, hmem, rfl⟩⟩ :=
    checkDistinct_eq_error h
  · rw [isClash_of_checkName hcheck] at he
    cases he
  · refine ⟨before, name, after, hnames, hnodup, hmem.resolve_left List.not_mem_nil, ?_, rfl⟩
    exact (checks_checkName c name "argument").eq_ok_iff.1 hcheck _ List.mem_cons_self

theorem isClash_of_annotationCheck {a : Annotation} (h : checkAnnotation c a = .error e) :
    e.isClash = false := by
  have hchecks := checks_annotation c a
  obtain ⟨before, r, after, hdemands, -, -, rfl⟩ := hchecks.eq_error_iff.1 h
  have hr : r ∈ c.annotationDemands a := by
    rw [hdemands]
    exact List.mem_append_right _ List.mem_cons_self
  have husable : ∃ name kind, c.usable name kind = r := by
    obtain hr | hr := List.mem_append.1 hr
    · obtain ⟨name, -, rfl⟩ := List.mem_map.1 hr
      exact ⟨name, _, rfl⟩
    · obtain ⟨name, -, rfl⟩ := List.mem_map.1 hr
      exact ⟨name, _, rfl⟩
  obtain ⟨name, kind, rfl⟩ := husable
  show (c.nameFault name kind).isClash = false
  unfold Context.nameFault
  split <;> rfl

/-- What clashes in a function is one of its generic parameters with one of the block's, or one of
its arguments with an earlier one. -/
theorem clash_of_checkFunction {block : ImplBlock} {owner : String} {f : FunctionDecl}
    (h : checkFunction c block owner f = .error e) (he : e.isClash = true) :
    (∃ name ∈ f.generics.map (·.name), name ∈ block.generics.map (·.name) ∧
        e = (c.push f.name).shadowedGeneric name (c.push f.name).pathText owner) ∨
      ∃ before name after, f.args.map (·.name) = before ++ name :: after ∧ before.Nodup ∧
        name ∈ before ∧ Usable name ∧
        e = (c.push f.name).duplicateArgument name (c.push f.name).pathText := by
  obtain hname | ⟨-, -, h⟩ := bind_eq_error.1 h
  · rw [isClash_of_checkName hname] at he
    cases he
  dsimp only at h
  split at h
  · cases h
    cases he
  obtain hgenerics | ⟨-, -, h⟩ := bind_eq_error.1 h
  · exact .inl (clash_of_checkFunctionGenerics hgenerics he)
  obtain hargs | ⟨-, -, h⟩ := bind_eq_error.1 h
  · exact .inr (clash_of_checkArguments hargs he)
  split at h
  · rw [isClash_of_annotationCheck h] at he
    cases he
  · cases h

theorem clash_of_checkBlock {block : ImplBlock} (h : checkBlock c block = .error e)
    (he : e.isClash = true) :
    ∃ before f after, block.functions = before ++ f :: after ∧ (∀ g ∈ before, g.Valid block) ∧
      ¬ f.Valid block ∧
      checkFunction (c.push block.selfTy.simpleName) block block.selfTy.simpleName f = .error e := by
  unfold checkBlock at h
  split at h
  · cases h
    cases he
  obtain hgenerics | ⟨-, -, h⟩ := bind_eq_error.1 h
  · obtain ⟨before, name, after, -, -, -, hcheck | ⟨-, -, rfl⟩⟩ := checkDistinct_eq_error hgenerics
    · rw [isClash_of_checkName hcheck] at he
      cases he
    · cases he
  obtain ⟨before, f, after, hfunctions, hbefore, hf⟩ := forM_eq_error h
  refine ⟨before, f, after, hfunctions, fun g hg => ?_, fun hvalid => ?_, hf⟩
  · exact (forall_function _ block g).1 ((checks_function _ block g).eq_ok_iff.1 (hbefore g hg))
  · have hpasses := (checks_function (c.push block.selfTy.simpleName) block f).eq_ok_iff.2
      ((forall_function _ block f).2 hvalid)
    rw [hf] at hpasses
    cases hpasses

theorem clash_of_validate {source : String} {m : Manifest} (h : validate source m = .error e)
    (he : e.isClash = true) :
    ∃ before block after, m.impls = before ++ block :: after ∧ (∀ b ∈ before, b.Valid) ∧
      checkBlock ⟨source, []⟩ block = .error e := by
  obtain huses | ⟨-, -, h⟩ := bind_eq_error.1 h
  · obtain ⟨before, r, after, hdemands, -, -, rfl⟩ :=
      (checks_useDemands ⟨source, []⟩ m.generator.uses).eq_error_iff.1 huses
    have hr : r ∈ Context.useDemands ⟨source, []⟩ m.generator.uses := by
      rw [hdemands]
      exact List.mem_append_right _ List.mem_cons_self
    obtain ⟨use, -, rfl⟩ := List.mem_map.1 hr
    cases he
  · obtain ⟨before, block, after, himpls, hbefore, hblock⟩ := forM_eq_error h
    refine ⟨before, block, after, himpls, fun b hb => ?_, hblock⟩
    exact (forall_block _ b).1 ((checks_block _ b).eq_ok_iff.1 (hbefore b hb))

/-- A clash is reported for a text that is configuration and describes a manifest. -/
theorem clash_of_read {source : String} (h : read source = .error e) (he : e.isClash = true) :
    ∃ node m, Toml.read source = some node ∧ decode node = .ok m ∧
      validate source m = .error e := by
  unfold read at h
  split at h
  · cases h
    cases he
  · next node hnode =>
    obtain hdecode | ⟨m, hdecode, h⟩ := bind_eq_error.1 h
    · cases hm : decode node with
      | ok m =>
        rw [hm] at hdecode
        cases hdecode
      | error fault =>
        rw [hm] at hdecode
        cases hdecode
        cases he
    · refine ⟨node, m, hnode, mapError_eq_ok.1 hdecode, ?_⟩
      obtain hvalidate | ⟨-, -, h⟩ := bind_eq_error.1 h
      · exact hvalidate
      · cases h

end Manifest

end Buildwright
