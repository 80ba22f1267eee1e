import Mathlib.Data.List.Basic
import Buildwright.Proofs.Files.FileTree

/-!
# The directories on the way to a path

A path passes the places that its moves lead through. Its parent starts where it does and takes all
its steps but the last, so what the parent passes is what the path has above it.
-/

namespace Buildwright.Path

/-! ## Pieces -/

theorem splitSlashes_ne_nil (chars : List Char) : splitSlashes chars ≠ [] := by
  cases chars with
  | nil => exact List.cons_ne_nil _ _
  | cons c rest =>
    rw [splitSlashes]
    split
    · exact List.cons_ne_nil _ _
    · split <;> exact List.cons_ne_nil _ _

theorem not_mem_of_mem_splitSlashes {chars piece : List Char} (h : piece ∈ splitSlashes chars) :
    '/' ∉ piece := by
  induction chars generalizing piece with
  | nil => simp_all [splitSlashes]
  | cons c rest ih =>
    rw [splitSlashes] at h
    split at h
    · obtain rfl | h := List.mem_cons.1 h
      · exact List.not_mem_nil
      · exact ih h
    · next hc =>
      cases hsplit : splitSlashes rest with
      | nil => exact absurd hsplit (splitSlashes_ne_nil rest)
      | cons first others =>
        rw [hsplit] at h ih
        obtain rfl | h := List.mem_cons.1 h
        · exact List.not_mem_cons_of_ne_of_not_mem (Ne.symm hc) (ih List.mem_cons_self)
        · exact ih (List.mem_cons_of_mem _ h)

theorem splitSlashes_of_not_mem {piece : List Char} (h : '/' ∉ piece) :
    splitSlashes piece = [piece] := by
  induction piece with
  | nil => rfl
  | cons c rest ih =>
    obtain ⟨hc, hrest⟩ := List.ne_and_not_mem_of_not_mem_cons h
    rw [splitSlashes, if_neg (Ne.symm hc), ih hrest]

theorem splitSlashes_append {piece : List Char} (h : '/' ∉ piece) (rest : List Char) :
    splitSlashes (piece ++ '/' :: rest) = piece :: splitSlashes rest := by
  induction piece with
  | nil => simp [splitSlashes]
  | cons c others ih =>
    obtain ⟨hc, hothers⟩ := List.ne_and_not_mem_of_not_mem_cons h
    rw [List.cons_append, splitSlashes, if_neg (Ne.symm hc), ih hothers]

theorem not_mem_of_mem_pieces {p : Path} {piece : String} (h : piece ∈ p.pieces) :
    '/' ∉ piece.toList := by
  obtain ⟨chars, hchars, rfl⟩ := List.mem_map.1 h
  rw [String.toList_ofList]
  exact not_mem_of_mem_splitSlashes hchars

theorem pieces_joined {first : String} {rest : List String}
    (h : ∀ piece ∈ first :: rest, '/' ∉ piece.toList) :
    pieces ⟨Text.joined "/" (first :: rest)⟩ = first :: rest := by
  unfold pieces
  induction rest generalizing first with
  | nil =>
    rw [Text.joined_singleton, splitSlashes_of_not_mem (h first List.mem_cons_self)]
    simp
  | cons second others ih =>
    have hchars : (Text.joined "/" (first :: second :: others)).toList =
        first.toList ++ '/' :: (Text.joined "/" (second :: others)).toList := by
      simp [Text.joined_cons_cons]
    rw [hchars, splitSlashes_append (h first List.mem_cons_self), List.map_cons,
      ih fun piece hpiece => h piece (List.mem_cons_of_mem _ hpiece), String.ofList_toList]

theorem isRooted_eq {p : Path} {first : String} {rest : List String}
    (h : p.pieces = first :: rest) : p.isRooted = (first.isEmpty && !rest.isEmpty) := by
  unfold pieces at h
  unfold isRooted
  cases hchars : p.text.toList with
  | nil =>
    rw [hchars] at h
    obtain ⟨rfl, rfl⟩ := List.cons.inj h
    rfl
  | cons c others =>
    rw [hchars, splitSlashes] at h
    by_cases hc : c = '/'
    · rw [if_pos hc] at h
      obtain ⟨rfl, rfl⟩ := List.cons.inj h
      simp [hc, splitSlashes_ne_nil]
    · rw [if_neg hc] at h
      have hfirst : first.isEmpty = false := by
        cases hsplit : splitSlashes others <;> rw [hsplit] at h <;>
          obtain ⟨rfl, -⟩ := List.cons.inj h <;> simp
      simp [hc, hfirst]

/-! ## Steps -/

def stepsOf (pieces : List String) : List Move := (pieces.map Move.ofPiece).filter (· != .stay)

def steps (p : Path) : List Move := stepsOf p.pieces

@[simp] theorem stepsOf_nil : stepsOf [] = [] := rfl

theorem stepsOf_append (pieces others : List String) :
    stepsOf (pieces ++ others) = stepsOf pieces ++ stepsOf others := by
  simp [stepsOf]

theorem stepsOf_cons (piece : String) (rest : List String) :
    stepsOf (piece :: rest) = stepsOf [piece] ++ stepsOf rest :=
  stepsOf_append [piece] rest

theorem dropLast_stepsOf_singleton (piece : String) : (stepsOf [piece]).dropLast = [] := by
  unfold stepsOf
  cases h : Move.ofPiece piece <;> simp [h]

theorem stepsOf_of_leads {piece : String} (h : ¬(piece.isEmpty || piece == ".") = true) :
    stepsOf [piece] = [Move.ofPiece piece] := by
  unfold stepsOf Move.ofPiece
  rw [List.map_singleton, if_neg h]
  split <;> rfl

theorem stepsOf_of_not_leads {piece : String} (h : (piece.isEmpty || piece == ".") = true) :
    stepsOf [piece] = [] := by
  unfold stepsOf Move.ofPiece
  rw [List.map_singleton, if_pos h]
  rfl

theorem stepsOf_trimmed (pieces : List String) : stepsOf (trimmed pieces) = stepsOf pieces := by
  induction pieces with
  | nil => rfl
  | cons piece rest ih =>
    rw [stepsOf_cons piece rest, ← ih, trimmed]
    split
    · next hrest =>
      rw [hrest, stepsOf_nil, List.append_nil]
      split
      · next h => rw [stepsOf_of_not_leads h, stepsOf_nil]
      · rfl
    · exact stepsOf_cons _ _

theorem trimmed_subset (pieces : List String) : trimmed pieces ⊆ pieces := by
  induction pieces with
  | nil => exact List.nil_subset _
  | cons piece rest ih =>
    rw [trimmed]
    split
    · split
      · exact List.nil_subset _
      · exact List.cons_subset_cons piece (List.nil_subset rest)
    · exact List.cons_subset_cons piece ih

theorem stepsOf_of_trimmed_ne_nil {pieces : List String} (h : trimmed pieces ≠ []) :
    ∃ move, stepsOf pieces = stepsOf (trimmed pieces).dropLast ++ [move] := by
  induction pieces with
  | nil => exact absurd rfl h
  | cons piece rest ih =>
    cases hrest : trimmed rest with
    | nil =>
      have hkept : ¬(piece.isEmpty || piece == ".") = true := fun hstay => by
        simp [trimmed, hrest, hstay] at h
      have hcut : trimmed (piece :: rest) = [piece] := by
        simp only [trimmed, hrest, if_neg hkept]
      exact ⟨Move.ofPiece piece, by
        rw [hcut, stepsOf_cons, stepsOf_of_leads hkept, ← stepsOf_trimmed rest, hrest]
        rfl⟩
    | cons first others =>
      have hne : trimmed rest ≠ [] := by simp [hrest]
      have hcut : trimmed (piece :: rest) = piece :: trimmed rest := by
        simp only [trimmed, hrest]
      obtain ⟨move, hmove⟩ := ih hne
      exact ⟨move, by
        rw [hcut, List.dropLast_cons_of_ne_nil hne, stepsOf_cons piece rest, hmove,
          ← List.append_assoc, ← stepsOf_cons]⟩

/-! ## Parents -/

/-- A path whose pieces are known starts from the root if nothing stands before its first slash. -/
theorem start_eq {p : Path} {first : String} {rest : List String} (h : p.pieces = first :: rest) :
    p.start = if first.isEmpty && !rest.isEmpty then ⟨.root, ""⟩ else .home := by
  rw [start, isRooted_eq h]

/-- Apart from the root, the parent is written with the pieces before the last that leads
somewhere. -/
theorem parent?_cases {p parent : Path} {first : String} {rest : List String}
    (hp : p.pieces = first :: rest) (h : p.parent? = some parent) :
    (trimmed rest = [] ∧ first.isEmpty = false ∧ parent = ⟨""⟩) ∨
      trimmed rest ≠ [] ∧
        ((trimmed (trimmed rest).dropLast = [] ∧ first.isEmpty = true ∧ parent = ⟨"/"⟩) ∨
          (trimmed (trimmed rest).dropLast = [] → first.isEmpty = false) ∧
            parent = ⟨Text.joined "/" (first :: trimmed (trimmed rest).dropLast)⟩) := by
  unfold parent? at h
  rw [hp] at h
  dsimp only at h
  split at h
  · next hrest =>
    split at h
    · cases h
    · next hfirst => exact .inl ⟨hrest, Bool.eq_false_iff.2 hfirst, (Option.some.inj h).symm⟩
  · next hrest =>
    refine .inr ⟨hrest, ?_⟩
    split at h
    · next hway =>
      cases hfirst : first.isEmpty with
      | true =>
        rw [if_pos hfirst] at h
        exact .inl ⟨hway, rfl, (Option.some.inj h).symm⟩
      | false =>
        rw [if_neg (Bool.eq_false_iff.1 hfirst)] at h
        rw [hway, Text.joined_singleton]
        exact .inr ⟨fun _ => rfl, (Option.some.inj h).symm⟩
    · next hway => exact .inr ⟨fun hnil => absurd hnil hway, (Option.some.inj h).symm⟩

theorem parent?_eq_some {p parent : Path} (h : p.parent? = some parent) :
    parent.start = p.start ∧ parent.steps = p.steps.dropLast := by
  obtain ⟨first, rest, hp⟩ : ∃ first rest, p.pieces = first :: rest :=
    List.exists_cons_of_ne_nil (mt List.map_eq_nil_iff.1 (splitSlashes_ne_nil _))
  rw [start_eq hp, steps, steps, hp, stepsOf_cons first rest]
  obtain ⟨hrest, hfirst, rfl⟩ | ⟨hrest, hparent⟩ := parent?_cases hp h
  · rw [← stepsOf_trimmed rest, hrest, stepsOf_nil, List.append_nil, dropLast_stepsOf_singleton,
      hfirst]
    exact ⟨rfl, rfl⟩
  · have hrooted : (first.isEmpty && !rest.isEmpty) = first.isEmpty := by
      have hne : rest ≠ [] := fun hnil => hrest (by rw [hnil]; rfl)
      simp [hne]
    have hsteps : (stepsOf [first] ++ stepsOf rest).dropLast =
        stepsOf (first :: trimmed (trimmed rest).dropLast) := by
      obtain ⟨move, hmove⟩ := stepsOf_of_trimmed_ne_nil hrest
      rw [hmove, ← List.append_assoc, List.dropLast_concat, ← stepsOf_trimmed (trimmed rest).dropLast,
        ← stepsOf_cons]
    have hslash : ∀ piece ∈ first :: trimmed (trimmed rest).dropLast, '/' ∉ piece.toList := by
      have hsub : trimmed (trimmed rest).dropLast ⊆ rest :=
        List.Subset.trans (trimmed_subset _)
          (List.Subset.trans (List.dropLast_subset _) (trimmed_subset rest))
      exact fun piece hpiece =>
        not_mem_of_mem_pieces (hp ▸ List.cons_subset_cons first hsub hpiece)
    rw [hrooted, hsteps]
    obtain ⟨hway, hfirst, rfl⟩ | ⟨hfirst, rfl⟩ := hparent
    · rw [hway, hfirst, stepsOf_of_not_leads (by simp [hfirst])]
      exact ⟨rfl, rfl⟩
    · have hpieces := pieces_joined hslash
      rw [start_eq hpieces, hpieces]
      refine ⟨?_, rfl⟩
      by_cases hway : trimmed (trimmed rest).dropLast = []
      · rw [hfirst hway]
        rfl
      · simp [hway]

/-! ## What a path passes -/

def Passes (p : Path) (l : Location) : Prop :=
  ∃ way, way <+: p.steps ∧ way.foldlM Move.target? p.start = some l

/-- The steps of a path lead through a location before the last of them is taken. -/
def Ancestor (p : Path) (l : Location) : Prop :=
  ∃ way, way <+: p.steps.dropLast ∧ way.foldlM Move.target? p.start = some l

theorem passes_parent? {p parent : Path} (h : p.parent? = some parent) {l : Location} :
    parent.Passes l ↔ p.Ancestor l := by
  obtain ⟨hstart, hsteps⟩ := parent?_eq_some h
  rw [Passes, Ancestor, hstart, hsteps]

theorem Ancestor.passes {p : Path} {l : Location} (h : p.Ancestor l) : p.Passes l := by
  obtain ⟨way, hway, hl⟩ := h
  exact ⟨way, hway.trans (List.dropLast_prefix _), hl⟩

theorem foldlM_filter_stay (moves : List Move) (l : Location) :
    (moves.filter (· != .stay)).foldlM Move.target? l = moves.foldlM Move.target? l := by
  induction moves generalizing l with
  | nil => rfl
  | cons move rest ih =>
    cases move with
    | stay => exact ih l
    | up => exact ih l.up
    | down name =>
      have hkept : (Move.down name :: rest).filter (· != .stay) =
          .down name :: rest.filter (· != .stay) := rfl
      rw [hkept, List.foldlM_cons, List.foldlM_cons]
      exact congrArg _ (funext ih)

theorem passes_of_prefix {p : Path} {way : List Move} {l : Location} (hway : way <+: p.moves)
    (hl : way.foldlM Move.target? p.start = some l) : p.Passes l :=
  ⟨way.filter (· != .stay), hway.filter _, by rw [foldlM_filter_stay, hl]⟩

end Buildwright.Path
