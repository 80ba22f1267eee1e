import Buildwright.Proofs.Callable.Signature
import Buildwright.Proofs.Manifest.Acceptance
import Buildwright.Proofs.TypeExpr.Roundtrip

/-!
# The types of a manifest

All types of a manifest that is read come out of the type grammar, so their texts tell them apart.
-/

namespace Buildwright

structure FunctionDecl.Readable (f : FunctionDecl) : Prop where
  generic : ∀ p ∈ f.generics, p.Readable
  arg : ∀ a ∈ f.args, a.type.Readable
  returns : ∀ t ∈ f.returns, t.Readable

structure ImplBlock.Readable (b : ImplBlock) : Prop where
  selfTy : b.selfTy.Readable
  generic : ∀ p ∈ b.generics, p.Readable
  function : ∀ f ∈ b.functions, f.Readable

namespace Manifest

open Toml.Decoder

theorem ensures_generics : Ensures (list (textAs TypeParam.read)) fun ps => ∀ p ∈ ps, p.Readable :=
  ensures_list (ensures_textAs fun _ _ => TypeParam.readable_of_read)

theorem ensures_functionDecl : Ensures functionDecl FunctionDecl.Readable := by
  have hargs : Ensures (list (textAs Parameter.read)) fun as => ∀ a ∈ as, a.type.Readable :=
    ensures_list (ensures_textAs fun _ _ h => (Parameter.of_read h).1)
  have hreturns : Ensures (optional (textAs TypeExpr.read)) fun t => ∀ u ∈ t, u.Readable :=
    ensures_optional (ensures_textAs fun _ _ => TypeExpr.readable_of_read)
  -- The other fields are of no matter to the types.
  have hother {α : Type} {name : String} {presence : Presence} {d : Toml.Decoder TypeFault α}
      {set : α → FunctionDecl → FunctionDecl}
      (hset : ∀ x f, f.Readable → (set x f).Readable) :
      (field name presence d set).Keeps FunctionDecl.Readable :=
    keeps_field (P := fun _ => True) (fun _ _ _ => trivial) fun x f _ => hset x f
  refine ensures_record ⟨nofun, nofun, nofun⟩ ?_
  simp only [functionFields, List.forall_mem_cons]
  refine ⟨hother ?_, hother ?_, keeps_field ensures_generics ?_, keeps_field hargs ?_,
    keeps_field hreturns ?_, hother ?_, hother ?_, List.forall_mem_nil _⟩
  · exact fun _ _ h => ⟨h.generic, h.arg, h.returns⟩
  · exact fun _ _ h => ⟨h.generic, h.arg, h.returns⟩
  · exact fun _ _ hgenerics h => ⟨hgenerics, h.arg, h.returns⟩
  · exact fun _ _ hargs h => ⟨h.generic, hargs, h.returns⟩
  · exact fun _ _ hreturns h => ⟨h.generic, h.arg, hreturns⟩
  · exact fun _ _ h => ⟨h.generic, h.arg, h.returns⟩
  · exact fun _ _ h => ⟨h.generic, h.arg, h.returns⟩

theorem ensures_implBlock : Ensures implBlock ImplBlock.Readable := by
  have hself : Ensures (textAs TypeExpr.read) fun t => t.Readable :=
    ensures_textAs fun _ _ => TypeExpr.readable_of_read
  refine ensures_record ⟨.tuple nofun, nofun, nofun⟩ ?_
  simp only [blockFields, List.forall_mem_cons]
  refine ⟨keeps_field hself ?_, keeps_field ensures_generics ?_,
    keeps_field (ensures_list ensures_functionDecl) ?_, List.forall_mem_nil _⟩
  · exact fun _ _ hself h => ⟨hself, h.generic, h.function⟩
  · exact fun _ _ hgenerics h => ⟨h.selfTy, hgenerics, h.function⟩
  · exact fun _ _ hfunctions h => ⟨h.selfTy, h.generic, hfunctions⟩

theorem ensures_decode : Ensures decode fun m => ∀ b ∈ m.impls, b.Readable := by
  refine ensures_record nofun ?_
  simp only [manifestFields, List.forall_mem_cons]
  refine ⟨keeps_field (P := fun _ => True) (fun _ _ _ => trivial) ?_,
    keeps_field (ensures_list ensures_implBlock) ?_, List.forall_mem_nil _⟩
  · exact fun _ _ _ h => h
  · exact fun _ _ hblocks _ => hblocks

theorem decode_of_read {source : String} {m : Manifest} (h : read source = .ok m) :
    ∃ node, decode node = .ok m := by
  unfold read at h
  split at h
  · cases h
  · next node _ =>
    obtain ⟨m', hdecode, h⟩ := bind_eq_ok.1 h
    obtain ⟨⟨⟩, -, h⟩ := bind_eq_ok.1 h
    cases h
    exact ⟨node, mapError_eq_ok.1 hdecode⟩

theorem readable_of_read {source : String} {m : Manifest} (h : read source = .ok m) :
    ∀ b ∈ m.impls, b.Readable := by
  obtain ⟨node, hdecode⟩ := decode_of_read h
  exact ensures_decode node m hdecode

end Manifest

/-! ## Texts that tell types apart -/

theorem TypeExpr.Lexer.IsPlain.isWord {cs : List Char} (h : IsPlain cs) :
    Text.isWord cs = true := by
  obtain ⟨c, tail, rfl, hc, htail⟩ := h
  have hcontinue := Text.isIdentContinue_of_isIdentStart hc
  have hall : tail.all Text.isIdentContinue = true := List.all_eq_true.2 htail
  simp [Text.isWord, hc, hcontinue, hall]

theorem TypeExpr.Lexer.IsWord.isIdentifier {w : String} (h : IsWord w) :
    Text.isIdentifier w = true := by
  rcases isWord_iff.1 h with hplain | ⟨name, rfl, hplain, -⟩
  · unfold Text.isIdentifier
    split
    · next word heq =>
      -- No number sign stands in a plain name.
      obtain ⟨c, tail, hcs, -, htail⟩ := hplain
      obtain ⟨-, rfl⟩ := List.cons.inj (heq.symm.trans hcs)
      exact absurd (htail '#' List.mem_cons_self) (by decide)
    · exact hplain.isWord
  · have hname : (("r#" : String) ++ name).toList = 'r' :: '#' :: name.toList :=
      String.toList_append
    rw [Text.isIdentifier, hname]
    exact hplain.isWord

theorem Manifest.isIdentifier_of_isName {name : String} (h : isName name = true) :
    Text.isIdentifier name = true := by
  obtain ⟨c, rest, hchars, hstart, hall⟩ := Text.exists_chars_of_isName h
  have hfirst : Text.isIdentStart c = true :=
    Text.forall_ascii (p := fun c => isNameStart c = true → Text.isIdentStart c = true)
      (by decide) (Text.toNat_lt_of_isNameStart hstart) hstart
  have hrest : ∀ x ∈ rest, Text.isIdentContinue x = true := fun x hx =>
    Text.isIdentContinue_of_isNameChar (hall x (List.mem_cons_of_mem _ hx))
  have hword : TypeExpr.Lexer.IsWord name :=
    TypeExpr.Lexer.isWord_iff.2 (.inl ⟨c, rest, hchars, hfirst, hrest⟩)
  exact hword.isIdentifier

theorem Tree.named_of_readable {t : TypeExpr} (h : t.Readable) : t.Named := by
  refine h.imp (fun s hs => ?_) ?_
  · obtain ⟨hident, -, hbindings⟩ := hs
    exact ⟨hident.1.isIdentifier, fun name t ht => (hbindings name t ht).1.isIdentifier⟩
  · rintro _ ⟨n, rfl⟩
    exact List.all_eq_true.2 (TypeExpr.Piece.digits_of_number n).2

theorem Segment.Named.map {s : Segment Empty} (hs : s.Named) (f : TypeExpr → TypeExpr) :
    (s.map f).Named := by
  refine ⟨hs.1, fun name t ht => ?_⟩
  obtain ⟨a, ha, heq⟩ := List.mem_map.1 ht
  cases a with
  | type u => cases heq
  | binding name' u =>
    cases heq
    exact hs.2 name u ha

theorem Tree.named_resolve {names : String → Option TypeExpr} {t : TypeExpr} (ht : t.Named)
    (hnames : ∀ s u, names s = some u → u.Named) : (t.resolve names).Named := by
  induction ht with
  | @path rooted segments hne hsegments htypes ih =>
    cases hname : (Tree.path rooted segments).name? with
    | some s =>
      rw [eq_name_of_name? hname, resolve_name]
      cases hs : names s with
      | none =>
        have hlone : (Tree.path rooted segments).Named := .path hne hsegments htypes
        rwa [eq_name_of_name? hname] at hlone
      | some u => exact hnames s u hs
    | none =>
      rw [resolve_path names hname]
      refine .path (by simpa using hne) ?_ ?_
      · exact List.forall_mem_map.2 fun s hs => (hsegments s hs).map _
      · refine List.forall_mem_map.2 fun s hs => ?_
        rw [Segment.types_map]
        exact List.forall_mem_map.2 (ih s hs)
  | tuple _ ih =>
    rw [resolve_tuple]
    exact .tuple (List.forall_mem_map.2 ih)
  | array _ hlen ih =>
    rw [resolve_array]
    exact .array ih hlen

structure Declaration.Spelled (d : Declaration) : Prop where
  selfTy : d.block.selfTy.Named
  name : Text.isIdentifier d.function.name = true
  arg : ∀ a ∈ d.function.args, a.type.Named

theorem Manifest.spelled_of_read {source : String} {m : Manifest} (hread : read source = .ok m)
    {d : Declaration} (hd : d ∈ m.annotated) : d.Spelled := by
  obtain ⟨hblock, hfunction, -⟩ := mem_annotated.1 hd
  have hreadable := readable_of_read hread _ hblock
  exact
    { selfTy := Tree.named_of_readable hreadable.selfTy
      name := isIdentifier_of_isName (named_of_read hread hd).function
      arg := fun a ha => Tree.named_of_readable ((hreadable.function _ hfunction).arg a ha) }

end Buildwright
