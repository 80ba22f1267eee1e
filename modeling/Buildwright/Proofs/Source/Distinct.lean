import Buildwright.Proofs.Pipeline.Builders
import Buildwright.Proofs.Source.Names

/-!
# Distinct names in an emitted builder

The fields of an emitted struct have distinct names if and only if no two arguments have names that
are spelled alike: the instance and the marker keep out of the way of the others. The methods have
distinct names unless a field is another one with an underscore in front of it.
-/

namespace Buildwright

open Manifest (isName)

theorem nodup_map_iff {f : α → β} {l : List α} (hf : ∀ x ∈ l, ∀ y ∈ l, f x = f y → x = y) :
    (l.map f).Nodup ↔ l.Nodup :=
  ⟨List.Nodup.of_map f, List.Nodup.map_on hf⟩

namespace Source

/-! ## Fields -/

theorem structFields_layOut (b : Builder) (deriveDebug : Bool) :
    (layOut b deriveDebug).structFields.map (·.1) =
      (b.receiver.map fun _ => receiverName b).toList ++ slotNames b ++
        ((markerType b.phantom).map fun _ => markerName b).toList := by
  simp only [BuilderCode.structFields, layOut, slotNames, List.map_append, List.map_map]
  congr 1
  · congr 1
    cases b.receiver <;> rfl
  · cases markerType b.phantom <;> rfl

theorem slots_layOut (b : Builder) (deriveDebug : Bool) :
    (layOut b deriveDebug).slots.map (·.name) = (b.fields.map (·.name)).map fieldName := by
  rw [layOut, List.map_map, List.map_map]
  rfl

theorem receiverName_ne_markerName (b : Builder) : receiverName b ≠ markerName b := by
  obtain ⟨n, hreceiver⟩ := exists_unusedName_eq "receiver" (slotNames b)
  obtain ⟨k, hmarker⟩ := exists_unusedName_eq "_marker" (slotNames b)
  intro h
  rw [← receiverName] at hreceiver
  rw [← markerName, ← h, hreceiver] at hmarker
  have hhead := congrArg List.head? hmarker
  cases hhead

theorem nodup_structFields_iff (b : Builder) (deriveDebug : Bool) :
    ((layOut b deriveDebug).structFields.map (·.1)).Nodup ↔ (slotNames b).Nodup := by
  have htoList {α : Type} (o : Option α) (s : String) :
      List.Sublist (o.map fun _ => s).toList [s] := by
    cases o <;> simp
  rw [structFields_layOut]
  constructor
  · intro h
    exact h.sublist ((List.sublist_append_right _ _).trans (List.sublist_append_left _ _))
  · intro h
    have hreceiver : receiverName b ∉ slotNames b := unusedName_not_mem _ _
    have hmarker : markerName b ∉ slotNames b := unusedName_not_mem _ _
    have hall : ([receiverName b] ++ slotNames b ++ [markerName b]).Nodup := by
      rw [List.nodup_append_comm, List.singleton_append, List.singleton_append, List.nodup_cons,
        List.nodup_cons, List.mem_cons, not_or]
      exact ⟨⟨(receiverName_ne_markerName b).symm, hmarker⟩, hreceiver, h⟩
    exact hall.sublist (((htoList _ _).append (List.Sublist.refl _)).append (htoList _ _))

/-- The arguments' fields have distinct names if and only if no two are spelled alike. -/
theorem nodup_slotNames_iff {b : Builder} (hnamed : b.Named) :
    (slotNames b).Nodup ↔ b.fields.Pairwise fun f g => ¬ Text.SpelledAlike f.name g.name := by
  rw [slotNames, List.Nodup, List.pairwise_map]
  refine ⟨fun h => h.imp_of_mem ?_, fun h => h.imp_of_mem ?_⟩ <;> intro f g hf hg
  · exact fun hne => mt (fieldName_eq_iff (hnamed.field f hf) (hnamed.field g hg)).2 hne
  · exact fun hne => mt (fieldName_eq_iff (hnamed.field f hf) (hnamed.field g hg)).1 hne

/-! ## Methods -/

theorem head?_snake {s : String} (hs : isName s = true) :
    (Text.snake s).toList.head? = some '_' ↔ s.toList.head? = some '_' := by
  obtain ⟨c, rest, hchars, hstart, _, hsnake⟩ := Text.exists_snake_of_isName hs
  have hc : c.toLower = '_' ↔ c = '_' :=
    Text.forall_isNameChar (p := fun c => c.toLower = '_' ↔ c = '_') (by decide)
      (Text.isNameChar_of_isNameStart hstart)
  rw [hsnake, hchars, List.head?_cons, List.head?_cons, Option.some_inj, Option.some_inj, hc]

theorem head?_of_snake_eq {s t : String} (hs : isName s = true)
    (h : Text.snake s = "_" ++ t) : s.toList.head? = some '_' := by
  rw [← head?_snake hs, h, String.toList_append]
  rfl

theorem setterStem_of_head? {s : String} (h : s.toList.head? = some '_') :
    setterStem s = Text.snake s := if_pos h

theorem setterStem_of_not_head? {s : String} (h : s.toList.head? ≠ some '_') :
    setterStem s = "_" ++ Text.snake s := if_neg h

/-- Setters of different fields get in each other's way where the underscore of the one field takes
the place of the one that stands before the other. -/
theorem setterStem_inj_iff {names : List String} (hnames : ∀ s ∈ names, isName s = true)
    (hsnake : ∀ s ∈ names, ∀ t ∈ names, Text.snake s = Text.snake t → s = t) :
    (∀ s ∈ names, ∀ t ∈ names, setterStem s = setterStem t → s = t) ↔
      ∀ s ∈ names, ∀ t ∈ names, s.toList.head? ≠ some '_' →
        Text.snake t ≠ "_" ++ Text.snake s := by
  constructor
  · intro h s hs t ht hhead heq
    have hhead' := head?_of_snake_eq (hnames t ht) heq
    have hst := h s hs t ht (by
      rw [setterStem_of_not_head? hhead, setterStem_of_head? hhead', heq])
    exact hhead (hst ▸ hhead')
  · intro h s hs t ht heq
    by_cases hs' : s.toList.head? = some '_' <;> by_cases ht' : t.toList.head? = some '_'
    · rw [setterStem_of_head? hs', setterStem_of_head? ht'] at heq
      exact hsnake s hs t ht heq
    · rw [setterStem_of_head? hs', setterStem_of_not_head? ht'] at heq
      exact absurd heq (h t ht s hs ht')
    · rw [setterStem_of_not_head? hs', setterStem_of_head? ht'] at heq
      exact absurd heq.symm (h s hs t ht hs')
    · rw [setterStem_of_not_head? hs', setterStem_of_not_head? ht'] at heq
      exact hsnake s hs t ht ((String.append_right_inj "_").1 heq)

theorem setters_layOut {b : Builder} (hnamed : b.Named) (deriveDebug : Bool) :
    (layOut b deriveDebug).setters.map (·.method) =
      b.fields.map fun f => methodName (setterName f.name) := by
  have hcode : ∀ f ∈ b.fields, (setterCode? b ⟨setterName f.name, f.name⟩).map (·.method) =
      some (methodName (setterName f.name)) := by
    intro f hf
    have hfound : (b.field? f.name).isSome = true :=
      List.find?_isSome.2 ⟨f, hf, by simp⟩
    obtain ⟨g, hg⟩ := Option.isSome_iff_exists.1 hfound
    rw [setterCode?, hg]
    rfl
  calc (layOut b deriveDebug).setters.map (·.method)
      = b.fields.filterMap fun f =>
          (setterCode? b ⟨setterName f.name, f.name⟩).map (·.method) := by
        rw [layOut, hnamed.setters, List.map_filterMap, List.filterMap_map]
        rfl
    _ = b.fields.map fun f => methodName (setterName f.name) := by
        rw [List.filterMap_congr hcode, List.filterMap_eq_map']

/-- The names of the setters before they are made raw. -/
def setterWords (b : Builder) : List String := b.fields.map fun f => "set" ++ setterStem f.name

def methodWords (b : Builder) : List String :=
  "new" :: setterWords b ++ [Text.snake b.terminalName]

theorem methods_layOut {b : Builder} (hnamed : b.Named) (deriveDebug : Bool) :
    (layOut b deriveDebug).methods.map (·.name) = (methodWords b).map safeName := by
  have hnames : (layOut b deriveDebug).methods.map (·.name) =
      "new" :: (layOut b deriveDebug).setters.map (·.method) ++ [methodName b.terminalName] := by
    rw [BuilderCode.methods, List.map_append, List.map_append, List.map_map]
    rfl
  have hwords : b.fields.map (fun f => methodName (setterName f.name)) =
      (setterWords b).map safeName := by
    rw [setterWords, List.map_map]
    refine List.map_congr_left fun f hf => ?_
    rw [methodName, snake_setterName (hnamed.field f hf)]
    rfl
  rw [hnames, setters_layOut hnamed, hwords, methodWords, List.map_append, List.map_cons]
  rfl

theorem nodup_methods_iff {b : Builder} (hnamed : b.Named) (deriveDebug : Bool) :
    ((layOut b deriveDebug).methods.map (·.name)).Nodup ↔ (methodWords b).Nodup := by
  have hhash : ∀ s ∈ methodWords b, '#' ∉ s.toList := by
    intro s hs
    rw [methodWords, setterWords, List.mem_append, List.mem_cons, List.mem_map,
      List.mem_singleton] at hs
    rcases hs with (rfl | ⟨f, hf, rfl⟩) | rfl
    · decide
    · rw [← snake_setterName (hnamed.field f hf)]
      exact hash_not_mem_snake (isName_setterName (hnamed.field f hf))
    · exact hash_not_mem_snake hnamed.terminalName
  rw [methods_layOut hnamed]
  exact nodup_map_iff fun s hs t ht => (safeName_inj (hhash s hs) (hhash t ht)).1

theorem terminal_not_mem {b : Builder} (hnamed : b.Named) (hclash : Lint.terminalClash? b = none) :
    Text.snake b.terminalName ∉ "new" :: setterWords b := by
  rw [Lint.terminalClash?] at hclash
  split at hclash
  · cases hclash
  · next hnew =>
    split at hclash
    · cases hclash
    · next hsetters =>
      rw [List.mem_cons, not_or]
      refine ⟨by simpa using hnew, fun hmem => hsetters ?_⟩
      obtain ⟨f, hf, heq⟩ := List.mem_map.1 hmem
      refine List.any_eq_true.2 ⟨⟨setterName f.name, f.name⟩, ?_, ?_⟩
      · rw [hnamed.setters]
        exact List.mem_map_of_mem hf
      · rw [snake_setterName (hnamed.field f hf), heq]
        exact beq_self_eq_true _

theorem nodup_methodWords_iff {b : Builder} (hnamed : b.Named)
    (hclash : Lint.terminalClash? b = none) :
    (methodWords b).Nodup ↔ (setterWords b).Nodup := by
  have hnew : "new" ∉ setterWords b := by
    intro hmem
    obtain ⟨f, _, heq⟩ := List.mem_map.1 hmem
    have hhead := congrArg (fun s : String => s.toList.head?) heq
    rw [String.toList_append] at hhead
    cases hhead
  have hterminal := terminal_not_mem hnamed hclash
  rw [methodWords, List.nodup_append_comm, List.singleton_append, List.nodup_cons,
    List.nodup_cons]
  exact ⟨fun h => h.2.2, fun h => ⟨hterminal, hnew, h⟩⟩

/-- Where the fields are distinct, so are the setters unless a field takes the underscore of another
one's setter. -/
theorem nodup_setterWords_iff {b : Builder} (hnamed : b.Named)
    (hfields : ((b.fields.map (·.name)).map fieldName).Nodup) :
    (setterWords b).Nodup ↔
      ∀ f ∈ b.fields, ∀ g ∈ b.fields, f.name.toList.head? ≠ some '_' →
        Text.snake g.name ≠ "_" ++ Text.snake f.name := by
  have hnames : ∀ s ∈ b.fields.map (·.name), isName s = true := List.forall_mem_map.2 hnamed.field
  have hsnake : ∀ s ∈ b.fields.map (·.name), ∀ t ∈ b.fields.map (·.name),
      Text.snake s = Text.snake t → s = t := by
    intro s hs t ht heq
    exact List.inj_on_of_nodup_map hfields hs ht (congrArg safeName heq)
  have hwords : setterWords b = (b.fields.map (·.name)).map fun s => "set" ++ setterStem s := by
    rw [setterWords, List.map_map]
    rfl
  rw [hwords, List.nodup_map_iff_inj_on hnamed.fieldNodup]
  simp only [String.append_right_inj]
  rw [setterStem_inj_iff hnames hsnake]
  simp only [List.forall_mem_map]

end Source

namespace Manifest

open Source

/-- The fields of an emitted struct have distinct names if and only if no two arguments are spelled
alike: validation compares the names as they are written, and no phase compares them as they are
emitted. -/
theorem fieldNames_nodup_iff {source : String} {m : Manifest} (hread : read source = .ok m)
    {b : Builder} (hb : b ∈ (Compilation.ofManifest m).builders) (deriveDebug : Bool) :
    ((layOut b deriveDebug).struct.fields.map (·.1)).Nodup ↔
      b.fields.Pairwise fun f g => ¬ Text.SpelledAlike f.name g.name := by
  have hnamed := named_of_mem_builders hread hb
  rw [BuilderCode.struct, nodup_structFields_iff, nodup_slotNames_iff hnamed]

theorem fillBuilder_fieldNames :
    read shelfText = .ok shelfManifest ∧
      fillBuilder ∈ (Compilation.ofManifest shelfManifest).builders ∧
      fillBuilder.fields.Pairwise fun f g => ¬ Text.SpelledAlike f.name g.name := by
  obtain ⟨hfill, _, _⟩ := ofManifest_shelfManifest
  exact ⟨read_shelfText, hfill,
    (fieldNames_nodup_iff read_shelfText hfill false).1 (by decide)⟩

/-- The arguments `rowCount` and `row_count` pass the validation and become one field. -/
theorem loadBuilder_fieldNames :
    read shelfText = .ok shelfManifest ∧
      (Compilation.ofManifest shelfManifest).hasErrors = false ∧
      loadBuilder ∈ (Compilation.ofManifest shelfManifest).builders ∧
      ∀ deriveDebug, ¬ ((layOut loadBuilder deriveDebug).struct.fields.map (·.1)).Nodup := by
  obtain ⟨_, hload, herrors⟩ := ofManifest_shelfManifest
  exact ⟨read_shelfText, herrors, hload, by decide⟩

/-- Without errors, and if the fields of the arguments are distinct, the methods have distinct names
unless one field is another one with an underscore in front of it: the terminal method is compared
with the others, and the setters are not compared with each other. -/
theorem methodNames_nodup_iff {source : String} {m : Manifest} (hread : read source = .ok m)
    (herrors : (Compilation.ofManifest m).hasErrors = false) {b : Builder}
    (hb : b ∈ (Compilation.ofManifest m).builders) {deriveDebug : Bool}
    (hslots : ((layOut b deriveDebug).slots.map (·.name)).Nodup) :
    ((layOut b deriveDebug).inherentImpl.methods.map (·.name)).Nodup ↔
      ∀ f ∈ b.fields, ∀ g ∈ b.fields, f.name.toList.head? ≠ some '_' →
        Text.snake g.name ≠ "_" ++ Text.snake f.name := by
  have hnamed := named_of_mem_builders hread hb
  have hclash := Compilation.terminalClash?_eq_none herrors hb
  rw [slots_layOut] at hslots
  rw [BuilderCode.inherentImpl, nodup_methods_iff hnamed, nodup_methodWords_iff hnamed hclash,
    nodup_setterWords_iff hnamed hslots]

theorem fillBuilder_methodNames_iff :
    read shelfText = .ok shelfManifest ∧
      (Compilation.ofManifest shelfManifest).hasErrors = false ∧
      fillBuilder ∈ (Compilation.ofManifest shelfManifest).builders ∧
      ((layOut fillBuilder false).slots.map (·.name)).Nodup ∧
      (((layOut fillBuilder false).inherentImpl.methods.map (·.name)).Nodup ↔
        ∀ f ∈ fillBuilder.fields, ∀ g ∈ fillBuilder.fields, f.name.toList.head? ≠ some '_' →
          Text.snake g.name ≠ "_" ++ Text.snake f.name) := by
  obtain ⟨hfill, _, herrors⟩ := ofManifest_shelfManifest
  have hslots : ((layOut fillBuilder false).slots.map (·.name)).Nodup := by decide
  exact ⟨read_shelfText, herrors, hfill, hslots,
    methodNames_nodup_iff read_shelfText herrors hfill hslots⟩

/-- The arguments `x` and `_x` become two fields with one setter name. -/
theorem fillBuilder_methodNames :
    read shelfText = .ok shelfManifest ∧
      (Compilation.ofManifest shelfManifest).hasErrors = false ∧
      fillBuilder ∈ (Compilation.ofManifest shelfManifest).builders ∧
      ∀ deriveDebug, ((layOut fillBuilder deriveDebug).slots.map (·.name)).Nodup ∧
        ¬ ((layOut fillBuilder deriveDebug).inherentImpl.methods.map (·.name)).Nodup := by
  obtain ⟨hfill, _, herrors⟩ := ofManifest_shelfManifest
  exact ⟨read_shelfText, herrors, hfill, by decide⟩

end Manifest

end Buildwright
