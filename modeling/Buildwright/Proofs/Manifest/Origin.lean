import Buildwright.Proofs.Manifest.Decoding

/-!
# Where decoded values stand

A record takes what it has in a field from the value under the field's name, or from the item in the
field's place. So the functions of a manifest, their arguments and their generic parameters lead back
to the values that declare them.
-/

namespace Buildwright

namespace Toml

/-- What the value of a record has for a field: in a table the value under its name, in an array the
item in its place. -/
inductive Holds (names : List String) (name : String) (child : Span × Value) : Value → Prop where
  | entry {entries : List (Key × Span × Value)} {key : Key} :
      (key, child) ∈ entries → key.name = name → Holds names name child (.table entries)
  | item {items : List (Span × Value)} :
      items[names.idxOf name]? = some child → Holds names name child (.array items)

namespace Decoder

variable {ε α β ρ : Type} {fields : List (Field ε ρ)} {strict : Bool} {start : ρ} {P : ρ → Prop}

/-- Filling in the field leaves a part of the record as it is. -/
def Field.Leaves (f : Field ε ρ) (part : ρ → β) : Prop :=
  ∀ node r r', f.fill node r = .ok r' → part r' = part r

/-- Filling in the field makes a part of the record what the value decodes to. -/
def Field.Gives (f : Field ε ρ) (d : Decoder ε β) (part : ρ → β) : Prop :=
  ∀ node r r', f.fill node r = .ok r' → d node = .ok (part r')

theorem field_leaves {name : String} {presence : Presence} {d : Decoder ε α} {set : α → ρ → ρ}
    {part : ρ → β} (hset : ∀ x r, part (set x r) = part r) :
    (field name presence d set).Leaves part := by
  intro node r r' hfill
  obtain ⟨x, -, rfl⟩ := map_eq_ok.1 hfill
  exact hset x r

theorem field_gives {name : String} {presence : Presence} {d : Decoder ε α} {set : α → ρ → ρ}
    {part : ρ → α} (hset : ∀ x r, part (set x r) = x) :
    (field name presence d set).Gives d part := by
  intro node r r' hfill
  obtain ⟨x, hx, rfl⟩ := map_eq_ok.1 hfill
  rw [hx, hset]

/-- What a record keeps while any of its fields is filled in, it has in the end. -/
theorem record_induction {type : String} {node : Span × Value} {r : ρ}
    (hnames : (fields.map (·.name)).Nodup)
    (hstep : ∀ f ∈ fields, ∀ child, Holds (fields.map (·.name)) f.name child node.2 →
      ∀ r r', P r → f.fill child r = .ok r' → P r')
    (hstart : P start) (h : record type fields strict start node = .ok r) : P r := by
  obtain ⟨entries, hnode, hfill⟩ | ⟨items, hnode, hfill⟩ := of_record_eq_ok h
  · rw [hnode] at hstep
    refine fillEntries_induction (R := P) (fun f hf entry hentry hname => ?_) hstart hfill
    exact hstep f hf entry.2 (.entry (mem_sortByKey.1 hentry) hname)
  · rw [hnode] at hstep
    refine fillItems_induction (R := P) (fun k f child hf hchild => ?_) hstart hfill
    obtain ⟨hk, rfl⟩ := List.getElem?_eq_some_iff.1 hf
    have hplace : (fields.map (·.name)).idxOf fields[k].name = k := by
      have hk' : k < (fields.map (·.name)).length := by rwa [List.length_map]
      have hidx := hnames.idxOf_getElem k hk'
      rwa [List.getElem_map] at hidx
    exact hstep _ (List.getElem_mem hk) child (.item (by rw [hplace, hchild]))

/-- A part of a record is what it started with, or comes from what the value has for its field. -/
theorem record_origin {type name : String} {node : Span × Value} {r : ρ} {d : Decoder ε β}
    {part : ρ → β} (hnames : (fields.map (·.name)).Nodup)
    (hfields : ∀ f ∈ fields, f.Leaves part ∨ f.name = name ∧ f.Gives d part)
    (h : record type fields strict start node = .ok r) :
    part r = part start ∨
      ∃ child, Holds (fields.map (·.name)) name child node.2 ∧ d child = .ok (part r) := by
  refine record_induction (P := fun r => part r = part start ∨
    ∃ child, Holds (fields.map (·.name)) name child node.2 ∧ d child = .ok (part r)) hnames
    (fun f hf child hchild r r' hr hfill => ?_) (.inl rfl) h
  obtain hleaves | ⟨rfl, hgives⟩ := hfields f hf
  · rw [hleaves child r r' hfill]
    exact hr
  · exact .inr ⟨child, hchild, hgives child r r' hfill⟩

theorem items_origin {type name : String} {node : Span × Value} {r : ρ} {d : Decoder ε α}
    {part : ρ → List α} (hnames : (fields.map (·.name)).Nodup)
    (hfields : ∀ f ∈ fields, f.Leaves part ∨ f.name = name ∧ f.Gives (list d) part)
    (hstart : part start = []) (h : record type fields strict start node = .ok r)
    (hne : part r ≠ []) :
    ∃ place items, Holds (fields.map (·.name)) name (place, .array items) node.2 ∧
      List.Forall₂ (fun item x => d item = .ok x) items (part r) := by
  obtain hpart | ⟨⟨place, child⟩, hchild, hlist⟩ := record_origin hnames hfields h
  · exact absurd (hpart.trans hstart) hne
  · obtain ⟨items, rfl, hitems⟩ := of_list_eq_ok hlist
    exact ⟨place, items, hchild, hitems⟩

end Decoder

end Toml

namespace Manifest

open Toml Toml.Decoder

variable {node : Span × Value}

theorem impls_origin {m : Manifest} (h : decode node = .ok m) (hne : m.impls ≠ []) :
    ∃ place items, Holds (manifestFields.map (·.name)) "impl" (place, .array items) node.2 ∧
      List.Forall₂ (fun item block => implBlock item = .ok block) items m.impls := by
  refine items_origin (by decide) ?_ rfl h hne
  simp only [manifestFields, List.forall_mem_cons, List.not_mem_nil, false_implies, implies_true]
  exact ⟨.inl (field_leaves fun _ _ => rfl), .inr ⟨rfl, field_gives fun _ _ => rfl⟩, trivial⟩

theorem functions_origin {block : ImplBlock} (h : implBlock node = .ok block)
    (hne : block.functions ≠ []) :
    ∃ place items, Holds (blockFields.map (·.name)) "fn" (place, .array items) node.2 ∧
      List.Forall₂ (fun item f => functionDecl item = .ok f) items block.functions := by
  refine items_origin (by decide) ?_ rfl h hne
  simp only [blockFields, List.forall_mem_cons, List.not_mem_nil, false_implies, implies_true]
  exact ⟨.inl (field_leaves fun _ _ => rfl), .inl (field_leaves fun _ _ => rfl),
    .inr ⟨rfl, field_gives fun _ _ => rfl⟩, trivial⟩

theorem generics_origin {f : FunctionDecl} (h : functionDecl node = .ok f)
    (hne : f.generics ≠ []) :
    ∃ place items, Holds (functionFields.map (·.name)) "generics" (place, .array items) node.2 ∧
      List.Forall₂ (fun item p => textAs TypeParam.read item = .ok p) items f.generics := by
  refine items_origin (by decide) ?_ rfl h hne
  simp only [functionFields, List.forall_mem_cons, List.not_mem_nil, false_implies, implies_true]
  exact ⟨.inl (field_leaves fun _ _ => rfl), .inl (field_leaves fun _ _ => rfl),
    .inr ⟨rfl, field_gives fun _ _ => rfl⟩, .inl (field_leaves fun _ _ => rfl),
    .inl (field_leaves fun _ _ => rfl), .inl (field_leaves fun _ _ => rfl),
    .inl (field_leaves fun _ _ => rfl), trivial⟩

theorem args_origin {f : FunctionDecl} (h : functionDecl node = .ok f) (hne : f.args ≠ []) :
    ∃ place items, Holds (functionFields.map (·.name)) "args" (place, .array items) node.2 ∧
      List.Forall₂ (fun item a => textAs Parameter.read item = .ok a) items f.args := by
  refine items_origin (by decide) ?_ rfl h hne
  simp only [functionFields, List.forall_mem_cons, List.not_mem_nil, false_implies, implies_true]
  exact ⟨.inl (field_leaves fun _ _ => rfl), .inl (field_leaves fun _ _ => rfl),
    .inl (field_leaves fun _ _ => rfl), .inr ⟨rfl, field_gives fun _ _ => rfl⟩,
    .inl (field_leaves fun _ _ => rfl), .inl (field_leaves fun _ _ => rfl),
    .inl (field_leaves fun _ _ => rfl), trivial⟩

end Manifest

end Buildwright
