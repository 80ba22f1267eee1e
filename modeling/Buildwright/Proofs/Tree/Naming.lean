import Buildwright.Proofs.Tree.Substitution

/-!
# Names in types

Which names a type writes down as bare paths, and which as paths of one segment. When names get
their meaning, the variables of the resolved type are those that the meanings of the bare names
hold; all other paths stay.
-/

namespace Buildwright

namespace Tree

def bareNames (t : Tree ν) : List String := t.paths.filterMap name?

/-- The name of a path of one segment that does not start with `::`; it may have arguments. -/
def loneName? : Tree ν → Option String
  | .path false [s] => some s.ident
  | _ => none

/-- The names of all such paths in a type. -/
def loneNames (t : Tree ν) : List String := t.paths.filterMap loneName?

@[simp] theorem bareNames_path (rooted : Bool) (segments : List (Segment ν)) :
    (path rooted segments).bareNames =
      (path rooted segments).name?.toList ++
        (segments.flatMap Segment.types).flatMap bareNames := by
  simp only [bareNames, paths_path, List.filterMap_cons, List.filterMap_flatMap]
  cases (path rooted segments).name? <;> rfl

@[simp] theorem bareNames_tuple (elems : List (Tree ν)) :
    (tuple elems).bareNames = elems.flatMap bareNames := by
  simp only [bareNames, paths_tuple, List.filterMap_flatMap]
  rfl

@[simp] theorem bareNames_array (elem : Tree ν) (len : String) :
    (array elem len).bareNames = elem.bareNames := by
  rw [bareNames, paths_array, bareNames]

theorem mem_bareNames {t : Tree ν} {s : String} : s ∈ t.bareNames ↔ name s ∈ t.paths := by
  rw [bareNames, List.mem_filterMap]
  constructor
  · rintro ⟨p, hp, hname⟩
    rwa [eq_name_of_name? hname] at hp
  · intro h
    exact ⟨name s, h, name?_name s⟩

theorem mem_loneNames {t : Tree ν} {s : String} :
    s ∈ t.loneNames ↔ ∃ p ∈ t.paths, p.loneName? = some s := by
  rw [loneNames, List.mem_filterMap]

theorem eq_path_of_loneName? {p : Tree ν} {s : String} (h : p.loneName? = some s) :
    ∃ args, p = path false [.mk s args] := by
  unfold loneName? at h
  split at h
  · next segment =>
    cases segment
    cases h
    exact ⟨_, rfl⟩
  · cases h

theorem loneName?_eq_some_of_name? {p : Tree ν} {s : String} (h : p.name? = some s) :
    p.loneName? = some s := by
  rw [eq_name_of_name? h]
  rfl

theorem loneNames_name (s : String) : (name s : Tree ν).loneNames = [s] := by
  rw [loneNames, name, paths_path]
  rfl

theorem exists_path_of_mem_paths {t p : Tree ν} (h : p ∈ t.paths) :
    ∃ rooted segments, p = path rooted segments := by
  induction t with
  | var v => simp at h
  | path rooted segments ih =>
    simp only [paths_path, List.mem_cons, List.mem_flatMap] at h
    rcases h with rfl | ⟨u, ⟨s, hs, hu⟩, h⟩
    · exact ⟨rooted, segments, rfl⟩
    · exact ih s hs u hu h
  | tuple elems ih =>
    simp only [paths_tuple, List.mem_flatMap] at h
    obtain ⟨u, hu, h⟩ := h
    exact ih u hu h
  | array elem len ih => exact ih (by simpa using h)

/-! ## Under substitution -/

theorem name?_map (rooted : Bool) (segments : List (Segment ν)) (f : Tree ν → Tree μ) :
    (path rooted (segments.map (Segment.map f))).name? = (path rooted segments).name? := by
  cases rooted with
  | true => rfl
  | false =>
    rcases segments with _ | ⟨⟨ident, _ | ⟨a, as⟩⟩, _ | ⟨s', rest⟩⟩ <;> rfl

private theorem loneName?_map (rooted : Bool) (segments : List (Segment ν))
    (f : Tree ν → Tree μ) :
    (path rooted (segments.map (Segment.map f))).loneName? =
      (path rooted segments).loneName? := by
  cases rooted <;> rcases segments with _ | ⟨s, _ | ⟨s', rest⟩⟩ <;> simp [loneName?]

theorem mem_loneNames_bind {f : ν → Tree μ} {t : Tree ν} {s : String} :
    s ∈ (t.bind f).loneNames ↔ s ∈ t.loneNames ∨ ∃ v ∈ t.vars, s ∈ (f v).loneNames := by
  have hbind : ∀ q ∈ t.paths, (q.bind f).loneName? = q.loneName? := by
    intro q hq
    obtain ⟨rooted, segments, rfl⟩ := exists_path_of_mem_paths hq
    rw [bind_path, loneName?_map]
  simp only [mem_loneNames, mem_paths_bind]
  constructor
  · rintro ⟨p, ⟨q, hq, rfl⟩ | ⟨v, hv, hp⟩, hs⟩
    · exact .inl ⟨q, hq, (hbind q hq).symm.trans hs⟩
    · exact .inr ⟨v, hv, p, hp, hs⟩
  · intro hcases
    rcases hcases with ⟨q, hq, hs⟩ | ⟨v, hv, p, hp, hs⟩
    · exact ⟨_, .inl ⟨q, hq, rfl⟩, (hbind q hq).trans hs⟩
    · exact ⟨p, .inr ⟨v, hv, hp⟩, hs⟩

theorem mem_loneNames_bind_iff {f : ν → Tree μ} {t : Tree ν} (hf : ∀ v, (f v).loneNames = [])
    {s : String} : s ∈ (t.bind f).loneNames ↔ s ∈ t.loneNames := by
  rw [mem_loneNames_bind]
  constructor
  · intro hcases
    rcases hcases with hs | ⟨v, _, hs⟩
    · exact hs
    · rw [hf v] at hs
      cases hs
  · exact .inl

/-! ## Under a meaning of the names -/

theorem resolve_congr {names names' : String → Option (Tree ν)} {t : Tree Empty}
    (h : ∀ s ∈ t.bareNames, (names s).getD (name s) = (names' s).getD (name s)) :
    t.resolve names = t.resolve names' := by
  induction t with
  | var v => exact v.elim
  | path rooted segments ih =>
    cases hname : (path rooted segments).name? with
    | some s =>
      rw [eq_name_of_name? hname] at h ⊢
      rw [resolve_name, resolve_name]
      exact h s (List.mem_singleton_self s)
    | none =>
      have hseg : ∀ s ∈ segments, s.map (resolve names) = s.map (resolve names') := by
        intro s hs
        refine Segment.map_congr fun u hu => ih s hs u hu fun n hn => h n ?_
        rw [bareNames_path]
        exact List.mem_append_right _
          (List.mem_flatMap.2 ⟨u, List.mem_flatMap.2 ⟨s, hs, hu⟩, hn⟩)
      rw [resolve_path names hname, resolve_path names' hname, List.map_congr_left hseg]
  | tuple elems ih =>
    have helem : ∀ u ∈ elems, u.resolve names = u.resolve names' := by
      intro u hu
      refine ih u hu fun n hn => h n ?_
      rw [bareNames_tuple]
      exact List.mem_flatMap.2 ⟨u, hu, hn⟩
    rw [resolve_tuple, resolve_tuple, List.map_congr_left helem]
  | array elem len ih => rw [resolve_array, resolve_array, ih (by simpa using h)]

theorem resolve_none (t : Tree Empty) : t.resolve (fun _ => none) = t := by
  induction t with
  | var v => exact v.elim
  | path rooted segments ih =>
    cases hname : (path rooted segments).name? with
    | some s =>
      rw [eq_name_of_name? hname, resolve_name]
      rfl
    | none =>
      have hseg : ∀ s ∈ segments, s.map (resolve fun _ => none) = s := fun s hs =>
        (Segment.map_congr (ih s hs)).trans s.map_id
      rw [resolve_path _ hname, List.map_congr_left hseg, List.map_id']
  | tuple elems ih => rw [resolve_tuple, List.map_congr_left ih, List.map_id']
  | array elem len ih => rw [resolve_array, ih]

/-- What is substituted in a resolved type is substituted in the meanings of the names. -/
theorem bind_resolve (names : String → Option (Tree ν)) (f : ν → Tree μ) (t : Tree Empty) :
    (t.resolve names).bind f = t.resolve fun s => (names s).map (bind f) := by
  induction t with
  | var v => exact v.elim
  | path rooted segments ih =>
    cases hname : (path rooted segments).name? with
    | some s =>
      rw [eq_name_of_name? hname, resolve_name, resolve_name]
      cases names s with
      | none => simp [name, Segment.map]
      | some u => rfl
    | none =>
      have hseg : ∀ s ∈ segments, (s.map (resolve names)).map (bind f) =
          s.map (resolve fun n => (names n).map (bind f)) := fun s hs =>
        (s.map_map _ _).trans (Segment.map_congr (ih s hs))
      rw [resolve_path _ hname, resolve_path _ hname, bind_path, List.map_map]
      exact congrArg _ (List.map_congr_left hseg)
  | tuple elems ih =>
    rw [resolve_tuple, resolve_tuple, bind_tuple, List.map_map]
    exact congrArg tuple (List.map_congr_left ih)
  | array elem len ih => rw [resolve_array, resolve_array, bind_array, ih]

/-- The variables of a resolved type are those in the meanings of its bare names. -/
theorem vars_resolve (names : String → Option (Tree ν)) (t : Tree Empty) :
    (t.resolve names).vars = t.bareNames.flatMap fun s => ((names s).map vars).getD [] := by
  induction t with
  | var v => exact v.elim
  | path rooted segments ih =>
    cases hname : (path rooted segments).name? with
    | some s =>
      rw [eq_name_of_name? hname, resolve_name]
      cases hs : names s <;> simp [name, bareNames, hs, name?, Segment.types, Segment.args]
    | none =>
      rw [resolve_path names hname]
      simp only [vars_path, bareNames_path, hname, Option.toList_none, List.nil_append,
        List.flatMap_map, Segment.types_map, List.flatMap_assoc]
      exact List.flatMap_congr fun s hs => List.flatMap_congr fun u hu => ih s hs u hu
  | tuple elems ih =>
    simp only [resolve_tuple, vars_tuple, bareNames_tuple, List.flatMap_map, List.flatMap_assoc]
    exact List.flatMap_congr ih
  | array elem len ih => simpa using ih

/-- Every path of a resolved type is one of the type that is no bare name, with its arguments
resolved, or stands in what a bare name is replaced by. -/
theorem mem_paths_resolve {names : String → Option (Tree ν)} {t : Tree Empty} {p : Tree ν} :
    p ∈ (t.resolve names).paths ↔
      (∃ q ∈ t.paths, q.name? = none ∧ p = q.resolve names) ∨
        ∃ s ∈ t.bareNames, p ∈ ((names s).getD (name s)).paths := by
  induction t with
  | var v => exact v.elim
  | path rooted segments ih =>
    cases hname : (path rooted segments).name? with
    | some s =>
      have hbare : (name s : Tree Empty).bareNames = [s] := rfl
      have hpaths : (name s : Tree Empty).paths = [name s] := rfl
      rw [eq_name_of_name? hname, resolve_name, hbare, hpaths]
      simp
    | none =>
      rw [resolve_path names hname]
      simp only [paths_path, bareNames_path, hname, Option.toList_none, List.nil_append,
        List.mem_cons, List.mem_flatMap, List.mem_map, exists_exists_and_eq_and,
        Segment.types_map]
      constructor
      · intro hcases
        rcases hcases with rfl | ⟨_, ⟨s, hs, u, hu, rfl⟩, hp⟩
        · exact .inl ⟨_, .inl rfl, hname, (resolve_path names hname).symm⟩
        · rcases (ih s hs u hu).1 hp with ⟨q, hq, hbare, rfl⟩ | ⟨n, hn, hp⟩
          · exact .inl ⟨q, .inr ⟨u, ⟨s, hs, hu⟩, hq⟩, hbare, rfl⟩
          · exact .inr ⟨n, ⟨u, ⟨s, hs, hu⟩, hn⟩, hp⟩
      · intro hcases
        rcases hcases with ⟨q, rfl | ⟨u, ⟨s, hs, hu⟩, hq⟩, hbare, rfl⟩ |
          ⟨n, ⟨u, ⟨s, hs, hu⟩, hn⟩, hp⟩
        · exact .inl (resolve_path names hname)
        · exact .inr ⟨_, ⟨s, hs, u, hu, rfl⟩, (ih s hs u hu).2 (.inl ⟨q, hq, hbare, rfl⟩)⟩
        · exact .inr ⟨_, ⟨s, hs, u, hu, rfl⟩, (ih s hs u hu).2 (.inr ⟨n, hn, hp⟩)⟩
  | tuple elems ih =>
    simp only [resolve_tuple, paths_tuple, bareNames_tuple, List.mem_flatMap, List.mem_map,
      exists_exists_and_eq_and]
    constructor
    · rintro ⟨u, hu, hp⟩
      rcases (ih u hu).1 hp with ⟨q, hq, hbare, rfl⟩ | ⟨n, hn, hp⟩
      · exact .inl ⟨q, ⟨u, hu, hq⟩, hbare, rfl⟩
      · exact .inr ⟨n, ⟨u, hu, hn⟩, hp⟩
    · intro hcases
      rcases hcases with ⟨q, ⟨u, hu, hq⟩, hbare, rfl⟩ | ⟨n, ⟨u, hu, hn⟩, hp⟩
      · exact ⟨u, hu, (ih u hu).2 (.inl ⟨q, hq, hbare, rfl⟩)⟩
      · exact ⟨u, hu, (ih u hu).2 (.inr ⟨n, hn, hp⟩)⟩
  | array elem len ih => simpa using ih

/-- What is read off the paths of a resolved type is read off the paths of the type itself and off
what its bare names are replaced by. -/
theorem mem_filterMap_paths_resolve {names : String → Option (Tree ν)} {t : Tree Empty}
    {read : Tree ν → Option String} {read' : Tree Empty → Option String}
    (hread : ∀ q ∈ t.paths, q.name? = none → read (q.resolve names) = read' q) {s : String} :
    s ∈ (t.resolve names).paths.filterMap read ↔
      (∃ q ∈ t.paths, q.name? = none ∧ read' q = some s) ∨
        ∃ n ∈ t.bareNames, s ∈ ((names n).getD (name n)).paths.filterMap read := by
  simp only [List.mem_filterMap, mem_paths_resolve]
  constructor
  · rintro ⟨p, ⟨q, hq, hname, rfl⟩ | ⟨n, hn, hp⟩, hs⟩
    · exact .inl ⟨q, hq, hname, (hread q hq hname).symm.trans hs⟩
    · exact .inr ⟨n, hn, p, hp, hs⟩
  · intro hcases
    rcases hcases with ⟨q, hq, hname, hs⟩ | ⟨n, hn, p, hp, hs⟩
    · exact ⟨_, .inl ⟨q, hq, hname, rfl⟩, (hread q hq hname).trans hs⟩
    · exact ⟨p, .inr ⟨n, hn, hp⟩, hs⟩

/-- A resolved type has the bare names that its own bare names are replaced by. -/
theorem mem_bareNames_resolve {names : String → Option (Tree ν)} {t : Tree Empty} {s : String} :
    s ∈ (t.resolve names).bareNames ↔
      ∃ n ∈ t.bareNames, s ∈ ((names n).getD (name n)).bareNames := by
  have hname : ∀ q ∈ t.paths, q.name? = none → (q.resolve names).name? = none := by
    intro q hq hq'
    obtain ⟨rooted, segments, rfl⟩ := exists_path_of_mem_paths hq
    rw [resolve_path names hq']
    exact (name?_map rooted segments _).trans hq'
  have hmem : s ∈ (t.resolve names).paths.filterMap name? ↔
      (∃ q ∈ t.paths, q.name? = none ∧ (none : Option String) = some s) ∨
        ∃ n ∈ t.bareNames, s ∈ ((names n).getD (name n)).paths.filterMap name? :=
    mem_filterMap_paths_resolve hname
  simpa [bareNames] using hmem

theorem mem_loneNames_resolve {names : String → Option (Tree ν)} {t : Tree Empty} {s : String} :
    s ∈ (t.resolve names).loneNames ↔
      (∃ q ∈ t.paths, q.name? = none ∧ q.loneName? = some s) ∨
        ∃ n ∈ t.bareNames, s ∈ ((names n).getD (name n)).loneNames := by
  refine mem_filterMap_paths_resolve fun q hq hname => ?_
  obtain ⟨rooted, segments, rfl⟩ := exists_path_of_mem_paths hq
  rw [resolve_path names hname, loneName?_map]

/-! ## Names that paths start with -/

/-- The first name of a path that does not start with `::`. -/
def leadName? : Tree ν → Option String
  | .path false (first :: _) => some first.ident
  | _ => none

def leadNames (t : Tree ν) : List String := t.paths.filterMap leadName?

theorem mem_leadNames {t : Tree ν} {s : String} :
    s ∈ t.leadNames ↔ ∃ p ∈ t.paths, p.leadName? = some s := by
  rw [leadNames, List.mem_filterMap]

theorem leadNames_var (v : ν) : (var v).leadNames = [] := by rw [leadNames, paths_var]; rfl

theorem leadNames_name (s : String) : (name s : Tree ν).leadNames = [s] := by
  rw [leadNames, name, paths_path]
  rfl

theorem leadName?_eq_some_of_name? {p : Tree ν} {s : String} (h : p.name? = some s) :
    p.leadName? = some s := by
  rw [eq_name_of_name? h]
  rfl

/-- A path is a bare name, or keeps its first name when names get their meaning. -/
theorem mem_leadNames_iff {t : Tree Empty} {s : String} :
    s ∈ t.leadNames ↔
      (∃ q ∈ t.paths, q.name? = none ∧ q.leadName? = some s) ∨ s ∈ t.bareNames := by
  rw [mem_leadNames, mem_bareNames]
  constructor
  · rintro ⟨q, hq, hs⟩
    cases hname : q.name? with
    | none => exact .inl ⟨q, hq, hname, hs⟩
    | some s' =>
      rw [leadName?_eq_some_of_name? hname] at hs
      cases hs
      exact .inr (eq_name_of_name? hname ▸ hq)
  · intro hcases
    rcases hcases with ⟨q, hq, _, hs⟩ | h
    · exact ⟨q, hq, hs⟩
    · exact ⟨name s, h, rfl⟩

theorem mem_leadNames_resolve {names : String → Option (Tree ν)} {t : Tree Empty} {s : String} :
    s ∈ (t.resolve names).leadNames ↔
      (∃ q ∈ t.paths, q.name? = none ∧ q.leadName? = some s) ∨
        ∃ n ∈ t.bareNames, s ∈ ((names n).getD (name n)).leadNames := by
  refine mem_filterMap_paths_resolve fun q hq hname => ?_
  obtain ⟨rooted, segments, rfl⟩ := exists_path_of_mem_paths hq
  rw [resolve_path names hname]
  cases rooted <;> cases segments <;> simp [leadName?]

end Tree

end Buildwright
