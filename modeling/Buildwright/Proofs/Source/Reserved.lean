import Buildwright.Proofs.Source.Distinct

/-!
# Names beside the argument fields

The struct has a field for the instance and one for the marker beside the fields of the arguments.
Their names are looked for one underscore at a time. However many arguments there are and whatever
their fields are called, the search ends at the shortest name that none of them has.
-/

namespace Buildwright

namespace Source

/-- The search for a name that is not taken, as the run of a loop: while the name is taken, an
underscore is put behind it. The run comes to its end after so many rounds, with the result. -/
inductive Search (taken : List String) :
    (name : String) → (rounds : Nat) → (result : String) → Prop where
  | free {name : String} (h : name ∉ taken) : Search taken name 0 name
  | taken {name : String} {n : Nat} {result : String} (h : name ∈ taken)
      (rest : Search taken (name ++ "_") n result) : Search taken name (n + 1) result

/-- With `n` underscores the name is free, and with fewer it is not. -/
structure FewestUnderscores (taken : List String) (base : String) (n : Nat) : Prop where
  free : base ++ Text.repeated n "_" ∉ taken
  least : ∀ j < n, base ++ Text.repeated j "_" ∈ taken

variable {taken : List String} {name result : String} {n : Nat}

theorem fewestUnderscores_zero : FewestUnderscores taken name 0 ↔ name ∉ taken := by
  constructor
  · intro h
    simpa using h.free
  · intro h
    exact ⟨by simpa using h, fun j hj => absurd hj (Nat.not_lt_zero j)⟩

theorem append_repeated_succ (name : String) (n : Nat) :
    name ++ Text.repeated (n + 1) "_" = name ++ "_" ++ Text.repeated n "_" := by
  rw [Text.repeated_succ, String.append_assoc]

theorem fewestUnderscores_succ :
    FewestUnderscores taken name (n + 1) ↔
      name ∈ taken ∧ FewestUnderscores taken (name ++ "_") n := by
  constructor
  · intro h
    refine ⟨by simpa using h.least 0 (Nat.succ_pos n), ?_, fun j hj => ?_⟩
    · rw [← append_repeated_succ]
      exact h.free
    · rw [← append_repeated_succ]
      exact h.least (j + 1) (Nat.succ_lt_succ hj)
  · rintro ⟨hname, hfree, hleast⟩
    refine ⟨by rwa [append_repeated_succ], fun j hj => ?_⟩
    cases j with
    | zero => simpa using hname
    | succ j =>
      rw [append_repeated_succ]
      exact hleast j (Nat.lt_of_succ_lt_succ hj)

theorem search_iff :
    Search taken name n result ↔
      result = name ++ Text.repeated n "_" ∧ FewestUnderscores taken name n := by
  induction n generalizing name with
  | zero =>
    rw [fewestUnderscores_zero, Text.repeated_zero, String.append_empty]
    constructor
    · rintro ⟨h⟩
      exact ⟨rfl, h⟩
    · rintro ⟨rfl, h⟩
      exact .free h
  | succ n ih =>
    rw [fewestUnderscores_succ, append_repeated_succ]
    constructor
    · rintro (_ | ⟨hname, hrest⟩)
      obtain ⟨hresult, hfewest⟩ := ih.1 hrest
      exact ⟨hresult, hname, hfewest⟩
    · rintro ⟨hresult, hname, hfewest⟩
      exact .taken hname (ih.2 ⟨hresult, hfewest⟩)

/-- There are more names with underscores than taken ones, so the search comes to an end. -/
theorem exists_search_unusedName (taken : List String) (base : String) :
    ∃ n ≤ taken.length, Search taken base n (unusedName base taken) := by
  obtain ⟨n, hn, hname, hfree, hleast⟩ :=
    Text.firstFree_least taken (Text.underscored_injective base) 0
  simp only [Nat.zero_add] at hname hfree hleast
  exact ⟨n, hn, search_iff.2 ⟨hname, hfree, hleast⟩⟩

example : unusedName "receiver" ["receiver", "_marker", "receiver_", "r#type"] = "receiver__" := by
  decide

/-- A name beside the fields of the arguments: the search for it ends after `n` rounds, no more than
there are such fields, and `n` is the least number of underscores that keeps it apart from all. -/
structure StandsBeside (slots : List Slot) (base name : String) (n : Nat) : Prop where
  search : Search (slots.map (·.name)) base n name
  rounds : n ≤ slots.length
  name_eq : name = base ++ Text.repeated n "_"
  apart : ∀ s ∈ slots, s.name ≠ name
  fewest : ∀ j < n, ∃ s ∈ slots, s.name = base ++ Text.repeated j "_"

theorem exists_standsBeside (slots : List Slot) (base : String) :
    ∃ n, StandsBeside slots base (unusedName base (slots.map (·.name))) n := by
  obtain ⟨n, hn, hsearch⟩ := exists_search_unusedName (slots.map (·.name)) base
  obtain ⟨hname, hfree, hleast⟩ := search_iff.1 hsearch
  rw [← hname] at hfree
  exact ⟨n, {
    search := hsearch
    rounds := by simpa using hn
    name_eq := hname
    apart := fun s hs heq => hfree (heq ▸ List.mem_map_of_mem hs)
    fewest := fun j hj => List.mem_map.1 (hleast j hj) }⟩

/-- Whatever the fields of the arguments are called, the searches for the names of the instance and
of the marker end, at names that keep out of the way of these fields and of each other. They are the
names under which the struct has the two fields. -/
theorem reserved_names_apart (b : Builder) (deriveDebug : Bool) :
    (∃ n, StandsBeside (layOut b deriveDebug).slots "receiver" (receiverName b) n) ∧
      (∃ n, StandsBeside (layOut b deriveDebug).slots "_marker" (markerName b) n) ∧
      receiverName b ≠ markerName b ∧
      (layOut b deriveDebug).struct.fields.map (·.1) =
        (b.receiver.map fun _ => receiverName b).toList ++
          (layOut b deriveDebug).slots.map (·.name) ++
          ((markerType b.phantom).map fun _ => markerName b).toList := by
  have hslots : slotNames b = (layOut b deriveDebug).slots.map (·.name) := by
    rw [slots_layOut, List.map_map]
    rfl
  have hbeside (base : String) :
      ∃ n, StandsBeside (layOut b deriveDebug).slots base (unusedName base (slotNames b)) n := by
    rw [hslots]
    exact exists_standsBeside _ base
  refine ⟨hbeside "receiver", hbeside "_marker", receiverName_ne_markerName b, ?_⟩
  rw [BuilderCode.struct, structFields_layOut, hslots]

end Source

end Buildwright
