import Mathlib
import Buildwright.Pipeline.Lint

/-!
# Builders of one name

The lint collects the builders under their names, one after the other. What it has collected at any
time are the positions of the builders so far: those of a name in one group, in ascending order, and
the groups in the order of their first positions.
-/

namespace Buildwright

namespace Groups

variable {α β : Type}

/-- Where an item goes: behind the first group of its name, or into a new group at the end. -/
theorem add_cases (name : String) (item : α) (groups : Groups α) :
    (∃ before items after, groups = before ++ (name, items) :: after ∧
      groups.add name item = before ++ (name, items ++ [item]) :: after) ∨
    (name ∉ groups.map (·.1) ∧ groups.add name item = groups ++ [(name, [item])]) := by
  induction groups with
  | nil => exact .inr ⟨List.not_mem_nil, rfl⟩
  | cons group rest ih =>
    obtain ⟨n, items⟩ := group
    by_cases hn : n = name
    · subst hn
      exact .inl ⟨[], items, rest, rfl, by simp [add]⟩
    · have hadd : add name item ((n, items) :: rest) = (n, items) :: add name item rest := by
        rw [add, beq_false_of_ne hn]
        rfl
      rw [hadd]
      rcases ih with ⟨before, items', after, hrest, hnew⟩ | ⟨hfree, hnew⟩
      · rw [hnew, hrest]
        exact .inl ⟨(n, items) :: before, items', after, rfl, rfl⟩
      · rw [hnew]
        refine .inr ⟨?_, rfl⟩
        rw [List.map_cons, List.mem_cons, not_or]
        exact ⟨Ne.symm hn, hfree⟩

theorem mem_add {name : String} {item : α} {groups : Groups α} {g : String × List α}
    (h : g ∈ groups.add name item) :
    g ∈ groups ∨ (∃ items, (name, items) ∈ groups ∧ g = (name, items ++ [item])) ∨
      g = (name, [item]) := by
  rcases add_cases name item groups with ⟨before, items, after, rfl, hadd⟩ | ⟨_, hadd⟩
  · rw [hadd, List.mem_append, List.mem_cons] at h
    rcases h with h | rfl | h
    · exact .inl (List.mem_append_left _ h)
    · exact .inr (.inl ⟨items, List.mem_append_right _ List.mem_cons_self, rfl⟩)
    · exact .inl (List.mem_append_right _ (List.mem_cons_of_mem _ h))
  · rw [hadd, List.mem_append, List.mem_singleton] at h
    exact h.imp_right .inr

/-- The item stands under the name. -/
def Has (groups : Groups α) (name : String) (item : α) : Prop :=
  ∃ items, (name, items) ∈ groups ∧ item ∈ items

theorem has_append {left right : Groups α} {n : String} {i : α} :
    Has (left ++ right) n i ↔ left.Has n i ∨ right.Has n i := by
  simp only [Has, List.mem_append, or_and_right, exists_or]

theorem has_cons {m n : String} {items : List α} {rest : Groups α} {i : α} :
    Has ((m, items) :: rest) n i ↔ (m = n ∧ i ∈ items) ∨ rest.Has n i := by
  simp only [Has, List.mem_cons, Prod.mk.injEq, or_and_right, exists_or, and_assoc,
    eq_comm (a := n), exists_and_left, exists_eq_left]

theorem has_add {name n : String} {item i : α} {groups : Groups α} :
    (groups.add name item).Has n i ↔ groups.Has n i ∨ (i = item ∧ name = n) := by
  rcases add_cases name item groups with ⟨before, items, after, rfl, hadd⟩ | ⟨_, hadd⟩
  · rw [hadd, has_append, has_append, has_cons, has_cons, List.mem_append, List.mem_singleton]
    tauto
  · have hnew : Has [(name, [item])] n i ↔ i = item ∧ name = n := by
      simp [Has, and_comm, eq_comm]
    rw [hadd, has_append, hnew]

/-- The groups with other items in the place of theirs. -/
def mapItems (f : α → β) (groups : Groups α) : Groups β :=
  groups.map fun (name, items) => (name, items.map f)

theorem add_mapItems (f : α → β) (name : String) (item : α) (groups : Groups α) :
    (groups.mapItems f).add name (f item) = (groups.add name item).mapItems f := by
  induction groups with
  | nil => rfl
  | cons group rest ih =>
    obtain ⟨n, items⟩ := group
    by_cases hn : n = name
    · simp [mapItems, add, hn]
    · simpa [mapItems, add, hn] using ih

/-- The groups of a list of items. -/
def ofItems (name : α → String) (items : List α) : Groups α :=
  items.foldl (fun groups item => groups.add (name item) item) []

theorem ofItems_concat (name : α → String) (items : List α) (item : α) :
    ofItems name (items ++ [item]) = (ofItems name items).add (name item) item := by
  rw [ofItems, List.foldl_append]
  rfl

theorem foldl_add_eq (f : α → β) (name : α → String) (items : List α) :
    items.foldl (fun (groups : Groups β) item => groups.add (name item) (f item)) [] =
      (ofItems name items).mapItems f := by
  induction items using List.reverseRecOn with
  | nil => rfl
  | append_singleton items item ih =>
    rw [List.foldl_append, ih, ofItems_concat, ← add_mapItems]
    rfl

/-! ## The groups of an ascending list -/

/-- The first of the items with each of the others. -/
def repeats : List α → List (α × α)
  | [] => []
  | first :: others => others.map fun other => (first, other)

/-- Each item that is not the first of its group, behind the first. -/
def pairs (groups : Groups α) : List (α × α) := groups.flatMap fun g => repeats g.2

theorem mem_repeats {items : List α} {p : α × α} :
    p ∈ repeats items ↔ ∃ others, items = p.1 :: others ∧ p.2 ∈ others := by
  obtain ⟨first, other⟩ := p
  cases items with
  | nil => simp [repeats]
  | cons head rest =>
    simp only [repeats, List.mem_map, Prod.mk.injEq, List.cons.injEq]
    constructor
    · rintro ⟨_, hmem, rfl, rfl⟩
      exact ⟨rest, ⟨rfl, rfl⟩, hmem⟩
    · rintro ⟨_, ⟨rfl, rfl⟩, hmem⟩
      exact ⟨other, hmem, rfl, rfl⟩

theorem length_pairs_add {groups : Groups α} (h : ∀ g ∈ groups, g.2 ≠ []) :
    groups.pairs.length + groups.length = (groups.map (·.2.length)).sum := by
  induction groups with
  | nil => rfl
  | cons g rest ih =>
    obtain ⟨hg, hrest⟩ := List.forall_mem_cons.1 h
    have hrepeats : (repeats g.2).length + 1 = g.2.length := by
      cases hitems : g.2 with
      | nil => exact absurd hitems hg
      | cons first others => simp [repeats]
    have hsum := ih hrest
    rw [pairs] at hsum ⊢
    rw [List.flatMap_cons, List.length_append, List.length_cons, List.map_cons, List.sum_cons]
    omega

variable {ι : Type} [LinearOrder ι] {name : ι → String}

/-- The items stand under their names, ascending in each group, and the groups stand in the order of
their first items. -/
structure Sorted (name : ι → String) (items : List ι) (groups : Groups ι) : Prop where
  distinct : (groups.map (·.1)).Nodup
  has_iff : ∀ n i, groups.Has n i ↔ i ∈ items ∧ name i = n
  nonempty : ∀ g ∈ groups, g.2 ≠ []
  ascending : ∀ g ∈ groups, g.2.Pairwise (· < ·)
  heads : (groups.filterMap (·.2.head?)).Pairwise (· < ·)
  total : (groups.map (·.2.length)).sum = items.length

namespace Sorted

theorem nil : Sorted name [] [] where
  distinct := List.nodup_nil
  has_iff := by simp [Has]
  nonempty := by simp
  ascending := by simp
  heads := by simp
  total := rfl

theorem mem_of_mem {items : List ι} {groups : Groups ι} (h : Sorted name items groups)
    {g : String × List ι} (hg : g ∈ groups) {i : ι} (hi : i ∈ g.2) : i ∈ items ∧ name i = g.1 :=
  (h.has_iff g.1 i).1 ⟨g.2, hg, hi⟩

theorem add {items : List ι} {groups : Groups ι} (h : Sorted name items groups) {last : ι}
    (hlast : ∀ i ∈ items, i < last) :
    Sorted name (items ++ [last]) (groups.add (name last) last) := by
  have hmem : ∀ n i, (groups.add (name last) last).Has n i ↔
      i ∈ items ++ [last] ∧ name i = n := by
    intro n i
    rw [has_add, h.has_iff, List.mem_append, List.mem_singleton, or_and_right]
    exact or_congr_right (and_congr_right fun hi => by rw [hi])
  have hnonempty : ∀ g ∈ groups.add (name last) last, g.2 ≠ [] := by
    intro g hg
    rcases mem_add hg with hg | ⟨_, _, rfl⟩ | rfl
    · exact h.nonempty g hg
    · simp
    · simp
  have hascending : ∀ g ∈ groups.add (name last) last, g.2.Pairwise (· < ·) := by
    intro g hg
    rcases mem_add hg with hg | ⟨group, hgroup, rfl⟩ | rfl
    · exact h.ascending g hg
    · rw [List.pairwise_append]
      refine ⟨h.ascending _ hgroup, List.pairwise_singleton _ _, fun i hi j hj => ?_⟩
      rw [List.mem_singleton.1 hj]
      exact hlast i (h.mem_of_mem hgroup hi).1
    · exact List.pairwise_singleton _ _
  -- An item behind others of its name leaves all heads alone; any other one is a head behind them.
  rcases add_cases (name last) last groups with
    ⟨before, group, after, rfl, hadd⟩ | ⟨hfree, hadd⟩
  case inl =>
    have hgroup : group ≠ [] := h.nonempty (name last, group) (by simp)
    refine ⟨?_, hmem, hnonempty, hascending, ?_, ?_⟩
    · rw [hadd]
      simpa using h.distinct
    · rw [hadd]
      have hhead : (group ++ [last]).head? = group.head? := List.head?_append_of_ne_nil _ hgroup
      have hheads := h.heads
      simp only [List.filterMap_append, List.filterMap_cons, hhead] at hheads ⊢
      exact hheads
    · rw [hadd]
      have htotal := h.total
      simp only [List.map_append, List.map_cons, List.sum_append, List.sum_cons, List.length_append,
        List.length_singleton] at htotal ⊢
      omega
  case inr =>
    refine ⟨?_, hmem, hnonempty, hascending, ?_, ?_⟩
    · rw [hadd, List.map_append]
      refine List.nodup_append.2 ⟨h.distinct, List.nodup_singleton _, ?_⟩
      intro n hn m hm heq
      have hname : n = name last := heq.trans (List.mem_singleton.1 hm)
      exact hfree (hname ▸ hn)
    · rw [hadd, List.filterMap_append, List.pairwise_append]
      refine ⟨h.heads, List.pairwise_singleton _ _, fun i hi j hj => ?_⟩
      obtain ⟨g, hg, hhead⟩ := List.mem_filterMap.1 hi
      rw [List.mem_singleton.1 hj]
      exact hlast i (h.mem_of_mem hg (List.mem_of_mem_head? hhead)).1
    · rw [hadd]
      have htotal := h.total
      simp only [List.map_append, List.map_cons, List.map_nil, List.sum_append, List.sum_cons,
        List.sum_nil, List.length_append, List.length_singleton] at htotal ⊢
      omega

theorem ofItems {items : List ι} (h : items.Pairwise (· < ·)) :
    Sorted name items (ofItems name items) := by
  induction items using List.reverseRecOn with
  | nil => exact .nil
  | append_singleton items last ih =>
    obtain ⟨hitems, _, hlast⟩ := List.pairwise_append.1 h
    rw [ofItems_concat]
    exact (ih hitems).add fun i hi => hlast i hi last (List.mem_singleton_self last)

variable {items : List ι} {groups : Groups ι} (h : Sorted name items groups)
include h

theorem items_unique {n : String} {left right : List ι} (hleft : (n, left) ∈ groups)
    (hright : (n, right) ∈ groups) : left = right :=
  congrArg Prod.snd (List.inj_on_of_nodup_map h.distinct hleft hright rfl)

theorem mem_pairs {first other : ι} :
    (first, other) ∈ groups.pairs ↔
      first ∈ items ∧ other ∈ items ∧ first < other ∧ name first = name other ∧
        ∀ i ∈ items, i < first → name i ≠ name other := by
  constructor
  · intro hpair
    obtain ⟨⟨n, group⟩, hg, hpair⟩ := List.mem_flatMap.1 hpair
    obtain ⟨others, rfl, hother⟩ := mem_repeats.1 hpair
    obtain ⟨hfirst, hfirstName⟩ := h.mem_of_mem hg List.mem_cons_self
    obtain ⟨hothers, hotherName⟩ := h.mem_of_mem hg (List.mem_cons_of_mem _ hother)
    have hlt : ∀ i ∈ others, first < i := (List.pairwise_cons.1 (h.ascending _ hg)).1
    refine ⟨hfirst, hothers, hlt other hother, hfirstName.trans hotherName.symm, ?_⟩
    intro i hi hbefore heq
    obtain ⟨group, hgroup, hmem⟩ := (h.has_iff n i).2 ⟨hi, heq.trans hotherName⟩
    rw [h.items_unique hgroup hg, List.mem_cons] at hmem
    rcases hmem with rfl | hmem
    · exact lt_irrefl i hbefore
    · exact lt_asymm hbefore (hlt i hmem)
  · rintro ⟨hfirst, hother, hlt, hname, hleast⟩
    obtain ⟨group, hg, hfirstMem⟩ := (h.has_iff (name other) first).2 ⟨hfirst, hname⟩
    obtain ⟨group', hg', hotherMem⟩ := (h.has_iff (name other) other).2 ⟨hother, rfl⟩
    rw [h.items_unique hg' hg] at hotherMem
    cases group with
    | nil => cases hfirstMem
    | cons head rest =>
      obtain ⟨hhead, hheadName⟩ := h.mem_of_mem hg List.mem_cons_self
      have hrest : ∀ i ∈ rest, head < i := (List.pairwise_cons.1 (h.ascending _ hg)).1
      have heq : first = head := by
        rcases List.mem_cons.1 hfirstMem with heq | hmem
        · exact heq
        · exact absurd hheadName (hleast head hhead (hrest first hmem))
      subst heq
      rcases List.mem_cons.1 hotherMem with rfl | hmem
      · exact absurd hlt (lt_irrefl other)
      · exact List.mem_flatMap.2 ⟨_, hg, mem_repeats.2 ⟨rest, rfl, hmem⟩⟩

/-- The pairs come in the order of their first items, then of their second ones. -/
theorem pairwise_pairs : groups.pairs.Pairwise (Prod.Lex (· < ·) (· < ·)) := by
  rw [pairs, List.pairwise_flatMap]
  constructor
  · intro g hg
    have hascending := h.ascending g hg
    cases hitems : g.2 with
    | nil => exact .nil
    | cons first others =>
      rw [hitems, List.pairwise_cons] at hascending
      rw [repeats, List.pairwise_map]
      exact hascending.2.imp fun hlt => .right _ hlt
  · refine (List.pairwise_filterMap.1 h.heads).imp fun {g g'} hheads p hp p' hp' => ?_
    obtain ⟨_, hg, _⟩ := mem_repeats.1 hp
    obtain ⟨_, hg', _⟩ := mem_repeats.1 hp'
    exact .left _ _ (hheads p.1 (by rw [hg]; rfl) p'.1 (by rw [hg']; rfl))

theorem nodup_pairs : groups.pairs.Nodup := by
  refine h.pairwise_pairs.imp fun {p q} hlex heq => ?_
  subst heq
  rcases Prod.lex_def.1 hlex with hlt | ⟨_, hlt⟩
  · exact lt_irrefl _ hlt
  · exact lt_irrefl _ hlt

theorem length_pairs :
    groups.pairs.length + (items.map name).toFinset.card = items.length := by
  have hnames : (items.map name).toFinset = (groups.map (·.1)).toFinset := by
    ext n
    simp only [List.mem_toFinset, List.mem_map]
    constructor
    · rintro ⟨i, hi, rfl⟩
      obtain ⟨group, hg, _⟩ := (h.has_iff (name i) i).2 ⟨hi, rfl⟩
      exact ⟨_, hg, rfl⟩
    · rintro ⟨g, hg, rfl⟩
      obtain ⟨i, hi⟩ := List.exists_mem_of_ne_nil _ (h.nonempty g hg)
      exact ⟨i, h.mem_of_mem hg hi⟩
  rw [hnames, List.toFinset_card_of_nodup h.distinct, List.length_map,
    length_pairs_add h.nonempty, h.total]

end Sorted

end Groups

namespace Lint

open Groups

variable (builders : List Builder)

/-- The positions of the builders under the builders' names. -/
def positions : Groups (Fin builders.length) :=
  ofItems (fun i => builders[i].name) (List.finRange builders.length)

theorem sorted_positions :
    Sorted (fun i : Fin builders.length => builders[i].name) (List.finRange builders.length)
      (positions builders) :=
  .ofItems (List.pairwise_lt_finRange _)

theorem sourcesByName_eq :
    sourcesByName builders = (positions builders).mapItems fun i => builders[i].source := by
  rw [positions, ← foldl_add_eq, sourcesByName]
  conv_lhs => rw [← List.map_getElem_finRange builders]
  rw [List.foldl_map]
  rfl

/-- The error that two builders of one name are reported by. -/
def clash (p : Fin builders.length × Fin builders.length) : Diagnostic :=
  ⟨.error, validatePhase,
    duplicateMessage builders[p.1].name builders[p.1].source builders[p.2].source,
    some builders[p.1].name⟩

theorem check_eq_map_pairs :
    duplicateBuilder.check builders = (positions builders).pairs.map (clash builders) := by
  show (sourcesByName builders).flatMap _ = _
  rw [sourcesByName_eq, mapItems, List.flatMap_map, pairs, List.map_flatMap]
  refine List.flatMap_congr fun g hg => ?_
  obtain ⟨n, group⟩ := g
  cases group with
  | nil => rfl
  | cons first others =>
    have hname := ((sorted_positions builders).mem_of_mem hg List.mem_cons_self).2
    subst hname
    simp [duplicatesOf, repeats, clash, Function.comp_def]

theorem mem_pairs_positions {first other : Fin builders.length} :
    (first, other) ∈ (positions builders).pairs ↔
      first < other ∧ builders[first].name = builders[other].name ∧
        ∀ i < first, builders[i].name ≠ builders[other].name := by
  rw [(sorted_positions builders).mem_pairs]
  simp [List.mem_finRange]

theorem length_pairs_positions :
    (positions builders).pairs.length + (builders.map (·.name)).toFinset.card =
      builders.length := by
  have hlength := (sorted_positions builders).length_pairs
  have hnames : (List.finRange builders.length).map (fun i => builders[i].name) =
      builders.map (·.name) := by
    conv_rhs => rw [← List.map_getElem_finRange builders, List.map_map]
    rfl
  rwa [hnames, List.length_finRange] at hlength

theorem exists_filter_pairs {other : Fin builders.length}
    (h : ∃ i < other, builders[i].name = builders[other].name) :
    ∃ first, (positions builders).pairs.filter (fun p => p.1 = other ∨ p.2 = other) =
      [(first, other)] := by
  obtain ⟨earlier, hearlier, hsame⟩ := h
  obtain ⟨first, hname, hleast⟩ := WellFounded.has_min (r := (· < ·)) wellFounded_lt
    {i : Fin builders.length | builders[i].name = builders[other].name} ⟨earlier, hsame⟩
  have hfirst : first < other :=
    lt_of_le_of_lt (not_lt.1 (hleast earlier hsame)) hearlier
  have hpair : (first, other) ∈ (positions builders).pairs :=
    (mem_pairs_positions builders).2 ⟨hfirst, hname, fun i hi heq => hleast i heq hi⟩
  refine ⟨first, List.perm_singleton.1 ((List.perm_ext_iff_of_nodup ?_ ?_).2 fun p => ?_)⟩
  · exact (sorted_positions builders).nodup_pairs.filter _
  · exact List.nodup_singleton _
  · rw [List.mem_filter, List.mem_singleton]
    constructor
    · rintro ⟨hp, hnamed⟩
      obtain ⟨p₁, p₂⟩ := p
      obtain ⟨_, heq, hmin⟩ := (mem_pairs_positions builders).1 hp
      -- Only the second place is left: a builder in the first one has nobody of its name before it.
      rcases of_decide_eq_true hnamed with rfl | rfl
      · exact absurd (hsame.trans heq) (hmin earlier hearlier)
      · have hle : p₁ ≤ first := not_lt.1 fun hlt => hmin first hlt hname
        have hge : first ≤ p₁ := not_lt.1 (hleast p₁ heq)
        rw [le_antisymm hle hge]
    · rintro rfl
      exact ⟨hpair, by simp⟩

/-- The lint adds one error for each builder that is not the first of its name, and the error names
this builder and the first one. The errors come in the order of the first builders, then of the
others, and with the distinct names there are as many as there are builders. -/
theorem duplicateBuilder_check_eq :
    ∃ pairs : List (Fin builders.length × Fin builders.length),
      duplicateBuilder.check builders = pairs.map (fun (first, other) =>
          ⟨.error, "validate",
            "builder name '" ++ builders[first].name ++ "' is generated by both " ++
              builders[first].source.text ++ " and " ++ builders[other].source.text,
            some builders[first].name⟩) ∧
        (∀ first other, (first, other) ∈ pairs ↔
          first < other ∧ builders[first].name = builders[other].name ∧
            ∀ i < first, builders[i].name ≠ builders[other].name) ∧
        (∀ other, (∃ i < other, builders[i].name = builders[other].name) →
          ∃ first, pairs.filter (fun p => p.1 = other ∨ p.2 = other) = [(first, other)]) ∧
        pairs.Pairwise (Prod.Lex (· < ·) (· < ·)) ∧
        (duplicateBuilder.check builders).length =
          builders.length - (builders.map (·.name)).toFinset.card := by
  have hlength := length_pairs_positions builders
  refine ⟨(positions builders).pairs, ?_, fun _ _ => mem_pairs_positions builders,
    fun _ => exists_filter_pairs builders, (sorted_positions builders).pairwise_pairs, ?_⟩
  · rw [check_eq_map_pairs]
    rfl
  · rw [check_eq_map_pairs, List.length_map]
    omega

end Lint

end Buildwright
