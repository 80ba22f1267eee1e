import Mathlib.Data.List.Forall2
import Mathlib.Data.List.Nodup
import Buildwright.Manifest.Decoding
import Buildwright.Proofs.Checked

/-!
# Values that decode

What a decoded value has in common with every other one, given what its parts have: one lemma for
each decoder.
-/

namespace Buildwright.Toml.Decoder

variable {ε α ρ : Type} {span : Span} {node : Span × Value}
variable {fields : List (Field ε ρ)} {strict : Bool}

def Ensures (d : Decoder ε α) (P : α → Prop) : Prop := ∀ node x, d node = .ok x → P x

def Field.Keeps (f : Field ε ρ) (P : ρ → Prop) : Prop :=
  ∀ node r r', P r → f.fill node r = .ok r' → P r'

section Ensures

variable {d : Decoder ε α} {P : α → Prop} {R : ρ → Prop} {r start : ρ}

theorem placed_eq_ok {result : Decoded ε α} {x : α} :
    placed span result = .ok x ↔ result = .ok x := mapError_eq_ok

theorem fail_ne_ok {cause : Cause ε} {x : α} : fail cause ≠ .ok x := nofun

theorem ensures_optional (h : d.Ensures P) : (optional d).Ensures fun x => ∀ y ∈ x, P y := by
  intro node x hx y hy
  obtain rfl : x = some y := hy
  obtain ⟨y', hy', heq⟩ := map_eq_ok.1 (placed_eq_ok.1 hx)
  cases heq
  exact h node y hy'

theorem ensures_textAs {read : String → Except ε α} (h : ∀ s x, read s = .ok x → P x) :
    (textAs read).Ensures P := by
  intro node x hx
  obtain ⟨s, -, hx⟩ := bind_eq_ok.1 hx
  cases hread : read s with
  | error e =>
    rw [hread] at hx
    cases hx
  | ok y =>
    rw [hread] at hx
    cases hx
    exact h s x hread

theorem of_list_eq_ok {xs : List α} (h : list d node = .ok xs) :
    ∃ items, node.2 = .array items ∧ List.Forall₂ (fun item x => d item = .ok x) items xs := by
  obtain ⟨span, v⟩ := node
  have hitems := placed_eq_ok.1 h
  cases v with
  | array items =>
    refine ⟨items, rfl, ?_⟩
    change items.mapM d = .ok xs at hitems
    clear h
    induction items generalizing xs with
    | nil =>
      cases hitems
      exact .nil
    | cons item rest ih =>
      rw [List.mapM_cons] at hitems
      obtain ⟨x, hx, hitems⟩ := bind_eq_ok.1 hitems
      obtain ⟨ys, hys, hitems⟩ := bind_eq_ok.1 hitems
      cases hitems
      exact .cons hx (ih hys)
  | _ => exact absurd hitems fail_ne_ok

theorem ensures_list (h : d.Ensures P) : (list d).Ensures fun xs => ∀ x ∈ xs, P x := by
  intro node xs hxs
  obtain ⟨items, -, hitems⟩ := of_list_eq_ok hxs
  clear hxs
  induction hitems with
  | nil => exact List.forall_mem_nil P
  | @cons item x _ _ hx _ ih => exact List.forall_mem_cons.2 ⟨h item x hx, ih⟩

theorem keeps_field {name : String} {presence : Presence} {set : α → ρ → ρ} (h : d.Ensures P)
    (hset : ∀ x r, P x → R r → R (set x r)) : (field name presence d set).Keeps R := by
  intro node r r' hr hfill
  obtain ⟨x, hx, rfl⟩ := map_eq_ok.1 hfill
  exact hset x r (h node x hx) hr

theorem fillEntries_induction {entries : List (Key × Span × Value)} {r r' : ρ}
    (hstep : ∀ f ∈ fields, ∀ entry ∈ entries, entry.1.name = f.name →
      ∀ r r', R r → f.fill entry.2 r = .ok r' → R r')
    (hr : R r) (hfill : fillEntries fields strict entries r = .ok r') : R r' := by
  induction entries generalizing r with
  | nil =>
    cases hfill
    exact hr
  | cons entry rest ih =>
    obtain ⟨key, node⟩ := entry
    have hrest := fun f hf entry hentry => hstep f hf entry (List.mem_cons_of_mem _ hentry)
    rw [fillEntries] at hfill
    split at hfill
    · next f hf =>
      obtain ⟨r₁, hr₁, hfill⟩ := bind_eq_ok.1 hfill
      have hname : f.name = key.name := by
        simpa using List.find?_some hf
      have hmet := hstep f (List.mem_of_find?_eq_some hf) _ List.mem_cons_self hname.symm
      exact ih hrest (hmet r r₁ hr (placed_eq_ok.1 hr₁)) hfill
    · split at hfill
      · exact absurd (placed_eq_ok.1 hfill) fail_ne_ok
      · obtain ⟨-, -, hfill⟩ := bind_eq_ok.1 hfill
        exact ih hrest hr hfill

theorem fillItems_induction {type : String} {count i : Nat} {items : List (Span × Value)} {r r' : ρ}
    (hstep : ∀ (k : Nat) (f : Field ε ρ) (node : Span × Value), fields[k]? = some f →
      items[k]? = some node → ∀ r r', R r → f.fill node r = .ok r' → R r')
    (hr : R r) (hfill : fillItems type count i fields items r = .ok r') : R r' := by
  induction fields generalizing i items r with
  | nil =>
    rw [fillItems] at hfill
    cases hfill
    exact hr
  | cons f rest ih =>
    cases items with
    | cons node items =>
      rw [fillItems] at hfill
      obtain ⟨r₁, hr₁, hfill⟩ := bind_eq_ok.1 hfill
      exact ih (fun k => hstep (k + 1)) (hstep 0 f node rfl rfl r r₁ hr hr₁) hfill
    | nil =>
      rw [fillItems] at hfill
      split at hfill
      · exact ih (fun k f node _ hnode => by cases hnode) hr hfill
      · exact absurd hfill fail_ne_ok

theorem of_record_eq_ok {name : String} (h : record name fields strict start node = .ok r) :
    (∃ entries, node.2 = .table entries ∧
        fillEntries fields strict (sortByKey (·.1.name) entries) start =
          .ok r) ∨
      ∃ items, node.2 = .array items ∧
        fillItems s!"struct {name}" fields.length 0 fields items start = .ok r := by
  obtain ⟨span, v⟩ := node
  have hresult := placed_eq_ok.1 h
  cases v with
  | table entries =>
    obtain ⟨r', hfill, hresult⟩ := bind_eq_ok.1 hresult
    split at hresult
    · exact absurd hresult fail_ne_ok
    · cases hresult
      exact .inl ⟨entries, rfl, hfill⟩
  | array items => exact .inr ⟨items, rfl, hresult⟩
  | _ => exact absurd hresult fail_ne_ok

theorem ensures_record {name : String} (hstart : R start) (hfields : ∀ f ∈ fields, f.Keeps R) :
    (record name fields strict start).Ensures R := by
  intro node r hr
  obtain ⟨entries, -, hfill⟩ | ⟨items, -, hfill⟩ := of_record_eq_ok hr
  · exact fillEntries_induction (fun f hf entry _ _ => hfields f hf entry.2) hstart hfill
  · exact fillItems_induction (fun _ f node hf _ => hfields f (List.mem_of_getElem? hf) node) hstart
      hfill

end Ensures

end Buildwright.Toml.Decoder
