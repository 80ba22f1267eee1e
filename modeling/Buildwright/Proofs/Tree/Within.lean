import Mathlib
import Buildwright.Proofs.Tree.Structure

/-!
# What stands in a type

The paths in a type at any depth, and two ways for a path to be more than a bare name.
-/

namespace Buildwright

namespace Tree

/-- A type stands in another one: as the whole, or in an argument or binding of a path, a component
of a tuple or the element of an array, at any depth. -/
inductive Within (u : Tree ν) : Tree ν → Prop where
  | whole : Within u u
  | segment {rooted : Bool} {segments : List (Segment ν)} {s : Segment ν} {t : Tree ν}
      (hs : s ∈ segments) (ht : t ∈ s.types) (h : Within u t) : Within u (.path rooted segments)
  | component {elems : List (Tree ν)} {t : Tree ν} (ht : t ∈ elems) (h : Within u t) :
      Within u (.tuple elems)
  | element {elem : Tree ν} {len : String} (h : Within u elem) : Within u (.array elem len)

/-- A path whose first name is `s`. -/
def StartsWith (s : String) (p : Tree ν) : Prop :=
  ∃ rooted args others, p = .path rooted (.mk s args :: others)

/-- A path of the one name `s` with arguments or a leading `::`. -/
def Adorns (s : String) (p : Tree ν) : Prop :=
  ∃ rooted args, p = .path rooted [.mk s args] ∧ (rooted = true ∨ args ≠ [])

theorem mem_paths_iff {t p : Tree ν} : p ∈ t.paths ↔ p.isPath = true ∧ p.Within t := by
  induction t with
  | var v =>
    simp only [paths_var, List.not_mem_nil, false_iff, not_and]
    rintro hp ⟨⟩
    cases hp
  | path rooted segments ih =>
    simp only [paths_path, List.mem_cons, List.mem_flatMap]
    constructor
    · rintro (rfl | ⟨t, ⟨s, hs, ht⟩, hp⟩)
      · exact ⟨rfl, .whole⟩
      · obtain ⟨hpath, hwithin⟩ := (ih s hs t ht).1 hp
        exact ⟨hpath, .segment hs ht hwithin⟩
    · rintro ⟨hpath, hwithin⟩
      cases hwithin with
      | whole => exact .inl rfl
      | @segment _ _ s t hs ht h => exact .inr ⟨t, ⟨s, hs, ht⟩, (ih s hs t ht).2 ⟨hpath, h⟩⟩
  | tuple elems ih =>
    simp only [paths_tuple, List.mem_flatMap]
    constructor
    · rintro ⟨t, ht, hp⟩
      obtain ⟨hpath, hwithin⟩ := (ih t ht).1 hp
      exact ⟨hpath, .component ht hwithin⟩
    · rintro ⟨hpath, hwithin⟩
      cases hwithin with
      | whole => cases hpath
      | @component _ t ht h => exact ⟨t, ht, (ih t ht).2 ⟨hpath, h⟩⟩
  | array elem len ih =>
    rw [paths_array, ih]
    constructor
    · rintro ⟨hpath, hwithin⟩
      exact ⟨hpath, .element hwithin⟩
    · rintro ⟨hpath, hwithin⟩
      cases hwithin with
      | whole => cases hpath
      | element h => exact ⟨hpath, h⟩

theorem StartsWith.isPath {s : String} {p : Tree ν} (h : p.StartsWith s) : p.isPath = true := by
  obtain ⟨_, _, _, rfl⟩ := h
  rfl

theorem Adorns.isPath {s : String} {p : Tree ν} (h : p.Adorns s) : p.isPath = true := by
  obtain ⟨_, _, rfl, _⟩ := h
  rfl

theorem startsWith_name {s s' : String} : (name s' : Tree ν).StartsWith s ↔ s' = s := by
  simp [StartsWith, name]

theorem not_adorns_name {s s' : String} : ¬ (name s' : Tree ν).Adorns s := by
  rintro ⟨_, _, hpath, hmore⟩
  cases hpath
  simp at hmore

theorem startsWith_path {s : String} {rooted : Bool} {first : Segment ν}
    {others : List (Segment ν)} :
    (path rooted (first :: others)).StartsWith s ↔ first.ident = s := by
  obtain ⟨ident, args⟩ := first
  simp [StartsWith]

theorem adorns_path {s : String} {rooted : Bool} {first : Segment ν} {others : List (Segment ν)}
    (hbare : (path rooted (first :: others)).name? = none) :
    (path rooted (first :: others)).Adorns s ↔ others = [] ∧ first.ident = s := by
  obtain ⟨ident, args⟩ := first
  constructor
  · rintro ⟨_, _, hpath, _⟩
    cases hpath
    exact ⟨rfl, rfl⟩
  · rintro ⟨rfl, rfl⟩
    refine ⟨rooted, args, rfl, ?_⟩
    by_contra hmore
    simp only [not_or, Bool.not_eq_true, not_not] at hmore
    obtain ⟨rfl, rfl⟩ := hmore
    cases hbare

end Tree

end Buildwright
