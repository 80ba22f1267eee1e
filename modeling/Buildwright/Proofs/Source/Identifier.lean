import Buildwright.Proofs.Source.Distinct
import Buildwright.Proofs.Text.Pascal

/-!
# Names that the emitted language takes

Which emitted names are identifiers of the emitted language. A word that is emitted raw if it is
reserved is one unless it is a word of paths, which cannot be raw.
-/

namespace Buildwright

open Manifest (isName isNameStart isNameChar isKeyword keywords)
open Text (isWord isIdentStart isIdentContinue isIdentContinue_of_isNameChar)

namespace Source

/-! ## Identifiers -/

/-- The words of paths, which are no identifiers in any form. -/
def pathWords : List String := ["self", "Self", "super", "crate"]

/-- A word of identifier characters that is no keyword, or is written raw and no word of paths. -/
def isIdentifier (name : String) : Bool :=
  match name.toList with
  | 'r' :: '#' :: word =>
    isWord word && word != ['_'] && !pathWords.contains (String.ofList word)
  | word => isWord word && word != ['_'] && !isKeyword name

/-- The keywords are the words that can be written raw and the words of paths. -/
theorem isKeyword_iff {name : String} :
    isKeyword name = true ↔ isReserved name = true ∨ name ∈ pathWords := by
  have hsub : ∀ k ∈ keywords, k ∈ reservedWords ++ pathWords := by decide
  have hsup : ∀ k ∈ reservedWords ++ pathWords, k ∈ keywords := by decide
  rw [isKeyword, isReserved, List.contains_iff_mem, List.contains_iff_mem, ← List.mem_append]
  exact ⟨hsub name, hsup name⟩

theorem toList_bne_underscore {name : String} : (name.toList != ['_']) = true ↔ name ≠ "_" := by
  rw [bne_iff_ne, ne_eq, ne_eq, ← String.toList_inj]
  rfl

theorem ne_nil_of_isWord {cs : List Char} (h : isWord cs = true) : cs ≠ [] := by
  rintro rfl
  cases h

theorem isWord_append_replicate {cs : List Char} (h : isWord cs = true) (n : Nat) :
    isWord (cs ++ List.replicate n '_') = true := by
  obtain ⟨c, rest, rfl⟩ := List.exists_cons_of_ne_nil (ne_nil_of_isWord h)
  rw [isWord, Bool.and_eq_true, List.all_eq_true] at h ⊢
  refine ⟨h.1, fun x hx => ?_⟩
  rcases List.mem_append.1 hx with hx | hx
  · exact h.2 x hx
  · rw [List.eq_of_mem_replicate hx]
    decide

theorem isIdentifier_iff_of_isWord {name : String} (hword : isWord name.toList = true) :
    isIdentifier name = true ↔ name ≠ "_" ∧ isKeyword name = false := by
  rw [isIdentifier]
  split
  · next rest h =>
    rw [isWord, h, Bool.and_eq_true, List.all_eq_true] at hword
    have hhash := hword.2 '#' (List.mem_cons_of_mem _ List.mem_cons_self)
    exact absurd hhash (by decide)
  · rw [Bool.and_eq_true, Bool.and_eq_true, toList_bne_underscore, Bool.not_eq_true', hword]
    simp

/-- Once it is emitted, a word is an identifier unless it is the lone underscore or one of paths. -/
theorem isIdentifier_safeName {word : String}
    (hraw : ∀ rest, word.toList ≠ 'r' :: '#' :: rest) :
    isIdentifier (safeName word) = true ↔
      isWord word.toList = true ∧ word ≠ "_" ∧ word ∉ pathWords := by
  by_cases hreserved : isReserved word = true
  · have hname : (safeName word).toList = 'r' :: '#' :: word.toList := by
      simp [safeName, hreserved]
    have hpath : (!pathWords.contains word) = true ↔ word ∉ pathWords := by simp
    rw [isIdentifier, hname]
    simp only [Bool.and_eq_true, toList_bne_underscore, hpath, and_assoc, String.ofList_toList]
  · have hname : safeName word = word := by simp [safeName, hreserved]
    have hkeyword : (!isKeyword word) = true ↔ word ∉ pathWords := by
      rw [Bool.not_eq_true', Bool.eq_false_iff, ne_eq, isKeyword_iff, or_iff_right hreserved]
    rw [isIdentifier, hname]
    split
    · next rest h => exact absurd h (hraw rest)
    · rw [Bool.and_eq_true, Bool.and_eq_true, toList_bne_underscore, hkeyword, and_assoc]

/-! ## Names in snake case -/

theorem isWord_snake {s : String} (hs : isName s = true) : isWord (Text.snake s).toList = true := by
  obtain ⟨c, rest, _, hstart, _, hsnake⟩ := Text.exists_snake_of_isName hs
  have hfirst : isIdentStart c.toLower = true :=
    Text.forall_ascii (p := fun c => isNameStart c = true → isIdentStart c.toLower = true)
      (by decide) (Text.toNat_lt_of_isNameStart hstart) hstart
  rw [isWord, Bool.and_eq_true, List.all_eq_true]
  refine ⟨by rw [hsnake]; exact hfirst, fun x hx => ?_⟩
  exact isIdentContinue_of_isNameChar (Text.of_mem_snake hs hx).1

theorem snake_ne_underscore {s : String} (hs : isName s = true) : Text.snake s ≠ "_" := by
  obtain ⟨c, rest, hchars, hstart, _, hsnake⟩ := Text.exists_snake_of_isName hs
  intro h
  rw [h] at hsnake
  obtain ⟨hc, hrest⟩ := List.cons_eq_cons.1 hsnake
  have hfirst : c = '_' :=
    Text.forall_isNameChar (p := fun c => '_' = c.toLower → c = '_') (by decide)
      (Text.isNameChar_of_isNameStart hstart) hc
  cases Text.respelled_of_flatMap_eq (s := []) hrest
  rw [hfirst] at hchars
  exact (Text.isName_iff.1 hs).2.1 (String.toList_inj.1 hchars)

/-- The names that become words of paths in snake case; the others that do are keywords. -/
theorem snake_mem_pathWords {s : String} (hs : isName s = true) :
    Text.snake s ∈ pathWords ↔ s ∈ ["Super", "Crate"] := by
  have hself : Text.snake s = "self" ↔ s = "self" ∨ s = "Self" :=
    Text.snake_eq_of_isLower hs (List.all_eq_true.1 (by decide))
  have hcrate : Text.snake s = "crate" ↔ s = "crate" ∨ s = "Crate" :=
    Text.snake_eq_of_isLower hs (List.all_eq_true.1 (by decide))
  have hsuper : Text.snake s = "super" ↔ s = "super" ∨ s = "Super" :=
    Text.snake_eq_of_isLower hs (List.all_eq_true.1 (by decide))
  have hcapital : Text.snake s ≠ "Self" := by
    intro h
    have hmem : 'S' ∈ (Text.snake s).toList := by
      rw [h]
      decide
    exact absurd (Text.of_mem_snake hs hmem).2 (by decide)
  have hkeyword : ∀ k, isKeyword k = true → s ≠ k := fun k hk => Manifest.ne_of_isName hs hk
  simp [pathWords, hself, hcrate, hsuper, hcapital, hkeyword "self" (by decide),
    hkeyword "Self" (by decide), hkeyword "crate" (by decide), hkeyword "super" (by decide)]

theorem isIdentifier_snake {s : String} (hs : isName s = true) :
    isIdentifier (safeName (Text.snake s)) = true ↔ s ∉ ["Super", "Crate"] := by
  have hraw : ∀ rest, (Text.snake s).toList ≠ 'r' :: '#' :: rest := by
    intro rest h
    exact hash_not_mem_snake hs (by rw [h]; simp)
  rw [isIdentifier_safeName hraw, snake_mem_pathWords hs]
  exact ⟨fun h => h.2.2, fun h => ⟨isWord_snake hs, snake_ne_underscore hs, h⟩⟩

/-! ## Names in pascal case -/

theorem pascal_ne_underscore {s : String} : Text.pascal s ≠ "_" := by
  intro h
  have hhead : (Text.pascalFrom true s.toList).head? = some '_' := by
    rw [← Text.toList_pascal, h]
    rfl
  rw [Text.head?_pascalFrom, Option.bind_eq_some_iff] at hhead
  obtain ⟨c, hc, hupper⟩ := hhead
  obtain ⟨rest, hrest⟩ := List.head?_eq_some_iff.1 hc
  have hne := Text.ne_underscore_of_unprefixed hrest
  rcases Text.of_mem_upper (List.mem_of_mem_head? hupper) with ⟨hascii, hx⟩ | hcapital | hwide
  · exact hne (Text.forall_ascii (p := fun c => '_' = c.toUpper → c = '_') (by decide) hascii hx)
  · exact absurd hcapital (by decide)
  · exact absurd hwide (by decide)

theorem pascal_mem_pathWords {s : String} : Text.pascal s ∈ pathWords ↔ Text.pascal s = "Self" := by
  have hsmall : ∀ w : String, w.toList.head?.any Char.isLower = true → Text.pascal s ≠ w := by
    rintro w hw rfl
    rw [Text.toList_pascal] at hw
    obtain ⟨x, hx, hlower⟩ := Option.any_eq_true _ _ |>.1 hw
    rw [Text.isLower_of_head?_pascalFrom hx] at hlower
    cases hlower
  simp [pathWords, hsmall "self" (by decide), hsmall "super" (by decide),
    hsmall "crate" (by decide)]

theorem isIdentifier_pascal {s : String} :
    isIdentifier (safeName (Text.pascal s)) = true ↔
      isWord (Text.pascal s).toList = true ∧ Text.pascal s ≠ "Self" := by
  have hraw : ∀ rest, (Text.pascal s).toList ≠ 'r' :: '#' :: rest := by
    intro rest h
    rw [Text.toList_pascal] at h
    have hhead : (Text.pascalFrom true s.toList).head? = some 'r' := by rw [h, List.head?_cons]
    exact absurd (Text.isLower_of_head?_pascalFrom hhead) (by decide)
  rw [isIdentifier_safeName hraw, pascal_mem_pathWords]
  exact ⟨fun h => ⟨h.1, h.2.2⟩, fun h => ⟨h.1, pascal_ne_underscore, h.2⟩⟩

/-! ## Names that keep out of the way -/

/-- A keyword has no underscores in it, so none comes out by putting underscores behind a word. -/
theorem isIdentifier_unusedName {base : String} (hword : isWord base.toList = true)
    (hlone : base ≠ "_") (hkeyword : isKeyword base = false) (taken : List String) :
    isIdentifier (unusedName base taken) = true := by
  obtain ⟨n, hname⟩ := exists_unusedName_eq base taken
  cases n with
  | zero =>
    have hbase : unusedName base taken = base := by
      rw [← String.toList_inj, hname, List.replicate_zero, List.append_nil]
    rw [hbase]
    exact (isIdentifier_iff_of_isWord hword).2 ⟨hlone, hkeyword⟩
  | succ n =>
    obtain ⟨c, rest, hchars⟩ := List.exists_cons_of_ne_nil (ne_nil_of_isWord hword)
    refine (isIdentifier_iff_of_isWord ?_).2 ⟨?_, ?_⟩
    · rw [hname]
      exact isWord_append_replicate hword (n + 1)
    · intro h
      rw [h, hchars] at hname
      have hlength := congrArg List.length hname
      simp at hlength
    · rw [Bool.eq_false_iff]
      intro h
      have hplain : ∀ k ∈ keywords, '_' ∉ k.toList := by decide
      refine hplain _ (List.contains_iff_mem.1 h) ?_
      rw [hname, List.replicate_succ]
      simp

/-! ## The names of a builder -/

theorem isIdentifier_typeName {b : Builder} (hnamed : b.Named) :
    isIdentifier (typeName b.name) = true ↔
      (∀ c ∈ b.name.toList, isIdentContinue c = true) ∧
        (∃ c ∈ (Text.unprefixed b.name.toList).head?, ∃ x ∈ (Text.upper c).head?,
          isIdentStart x = true) ∧
        String.ofList (Text.stripped b.name.toList) ∉ ["self", "Self"] := by
  have hself : Text.pascal b.name = "Self" ↔
      String.ofList (Text.stripped b.name.toList) ∈ ["self", "Self"] := by
    rcases hnamed.name with hname | ⟨stem, hname⟩
    · obtain ⟨c, rest, hchars, _, hall⟩ := Text.exists_chars_of_isName hname
      refine Text.pascal_eq_self_iff fun x hx => ?_
      exact Text.toNat_lt_of_isNameChar (hall x (hchars ▸ hx))
    · have hne : Text.pascal b.name ≠ "Self" := by
        rw [hname]
        exact Text.pascal_append_builder_ne_self stem
      exact ⟨fun h => absurd h hne, fun h => absurd (Text.pascal_eq_self_of_stripped h) hne⟩
  rw [typeName, isIdentifier_pascal, Text.isWord_pascal, ne_eq, hself, and_assoc]

theorem isIdentifier_setter {s : String} (hs : isName s = true) :
    isIdentifier (methodName (setterName s)) = true := by
  refine (isIdentifier_snake (isName_setterName hs)).2 fun hmem => ?_
  have hhead : ∀ w ∈ ["Super", "Crate"], w.toList.head? ≠ some 's' := by decide
  refine hhead _ hmem ?_
  rw [toList_setterName]
  rfl

theorem isIdentifier_structFields {b : Builder} (hnamed : b.Named) (deriveDebug : Bool) :
    (∀ p ∈ (layOut b deriveDebug).structFields, isIdentifier p.1 = true) ↔
      ∀ f ∈ b.fields, f.name ∉ ["Super", "Crate"] := by
  have hreceiver : isIdentifier (receiverName b) = true :=
    isIdentifier_unusedName (by decide) (by decide) (by decide) _
  have hmarker : isIdentifier (markerName b) = true :=
    isIdentifier_unusedName (by decide) (by decide) (by decide) _
  have hslots : (∀ s ∈ slotNames b, isIdentifier s = true) ↔
      ∀ f ∈ b.fields, f.name ∉ ["Super", "Crate"] := by
    rw [slotNames, List.forall_mem_map]
    exact forall₂_congr fun f hf => isIdentifier_snake (hnamed.field f hf)
  have hothers {α : Type} (o : Option α) {name : String} (h : isIdentifier name = true) :
      ∀ s ∈ (o.map fun _ => name).toList, isIdentifier s = true := by
    cases o <;> simp [h]
  rw [← hslots, ← List.forall_mem_map (f := fun p : String × String => p.1)
    (P := fun s => isIdentifier s = true), structFields_layOut, List.forall_mem_append,
    List.forall_mem_append]
  exact ⟨fun h => h.1.2, fun h => ⟨⟨hothers _ hreceiver, h⟩, hothers _ hmarker⟩⟩

end Source

namespace Manifest

open Source

/-- Which emitted names are identifiers. A builder's type is one if its name is a word in pascal
case and not `Self` there, fields and the terminal method are ones unless they are called `Super` or
`Crate`, and setters always are: names are validated as they are written only. -/
theorem names_legal_iff {source : String} {m : Manifest} (hread : read source = .ok m)
    {b : Builder} (hb : b ∈ (Compilation.ofManifest m).builders) (deriveDebug : Bool) :
    (isIdentifier (layOut b deriveDebug).struct.name = true ↔
        (∀ c ∈ b.name.toList, isIdentContinue c = true) ∧
          (∃ c ∈ (Text.unprefixed b.name.toList).head?, ∃ x ∈ (Text.upper c).head?,
            isIdentStart x = true) ∧
          String.ofList (Text.stripped b.name.toList) ∉ ["self", "Self"]) ∧
      ((∀ p ∈ (layOut b deriveDebug).struct.fields, isIdentifier p.1 = true) ↔
        ∀ f ∈ b.fields, f.name ∉ ["Super", "Crate"]) ∧
      (∀ s ∈ (layOut b deriveDebug).setters, isIdentifier s.method = true) ∧
      (isIdentifier (layOut b deriveDebug).terminal.method = true ↔
        b.terminalName ∉ ["Super", "Crate"]) := by
  have hnamed := named_of_mem_builders hread hb
  refine ⟨isIdentifier_typeName hnamed, isIdentifier_structFields hnamed deriveDebug, ?_,
    isIdentifier_snake hnamed.terminalName⟩
  rw [← List.forall_mem_map (f := fun s : SetterCode => s.method)
    (P := fun name => isIdentifier name = true), setters_layOut hnamed, List.forall_mem_map]
  exact fun f hf => isIdentifier_setter (hnamed.field f hf)

theorem loadBuilder_names_legal :
    read shelfText = .ok shelfManifest ∧
      loadBuilder ∈ (Compilation.ofManifest shelfManifest).builders ∧
      (∀ p ∈ (layOut loadBuilder false).struct.fields, isIdentifier p.1 = true) ∧
      (∀ s ∈ (layOut loadBuilder false).setters, isIdentifier s.method = true) ∧
      isIdentifier (layOut loadBuilder false).terminal.method = true := by
  obtain ⟨_, hload, _⟩ := ofManifest_shelfManifest
  obtain ⟨_, hfields, hsetters, hterminal⟩ := names_legal_iff read_shelfText hload false
  exact ⟨read_shelfText, hload, hfields.2 (by decide), hsetters, hterminal.2 (by decide)⟩

/-- The argument `Crate` is emitted as the field `crate`. -/
theorem fillBuilder_not_legal :
    read shelfText = .ok shelfManifest ∧
      (Compilation.ofManifest shelfManifest).hasErrors = false ∧
      fillBuilder ∈ (Compilation.ofManifest shelfManifest).builders ∧
      ∀ deriveDebug, ¬ ∀ p ∈ (layOut fillBuilder deriveDebug).struct.fields,
        isIdentifier p.1 = true := by
  obtain ⟨hfill, _, herrors⟩ := ofManifest_shelfManifest
  exact ⟨read_shelfText, herrors, hfill, by decide⟩

end Manifest

end Buildwright
