import Buildwright.Proofs.Text.UpperCase

/-!
# Names in pascal case

Pascal case drops the underscores of a name and puts what follows them into upper case. Main
statements: which texts come out as words of identifier characters, and which as `Self`.
-/

namespace Buildwright.Text

/-- Pascal case character by character; `start` if a piece of the name starts here. -/
def pascalFrom : Bool → List Char → List Char
  | _, [] => []
  | start, c :: rest =>
    if c = '_' then
      pascalFrom true rest
    else
      (if start then upper c else [c]) ++ pascalFrom false rest

theorem pascalFrom_underscore (start : Bool) (rest : List Char) :
    pascalFrom start ('_' :: rest) = pascalFrom true rest := rfl

theorem pascalFrom_true_cons {c : Char} (hc : c ≠ '_') (rest : List Char) :
    pascalFrom true (c :: rest) = upper c ++ pascalFrom false rest := by
  rw [pascalFrom, if_neg hc, if_pos rfl]

theorem pascalFrom_false_cons {c : Char} (hc : c ≠ '_') (rest : List Char) :
    pascalFrom false (c :: rest) = c :: pascalFrom false rest := by
  rw [pascalFrom, if_neg hc]
  rfl

private theorem pascalFrom_eq_of_pieces (cs : List Char) :
    ∃ piece others, pieces '_' cs = piece :: others ∧
      pascalFrom true cs = capitalizeChars piece ++ others.flatMap capitalizeChars ∧
      pascalFrom false cs = piece ++ others.flatMap capitalizeChars := by
  induction cs with
  | nil => exact ⟨[], [], rfl, rfl, rfl⟩
  | cons c rest ih =>
    obtain ⟨piece, others, hpieces, htrue, hfalse⟩ := ih
    by_cases hc : c = '_'
    · refine ⟨[], piece :: others, ?_, ?_, ?_⟩
      · rw [pieces, if_pos hc, hpieces]
      · rw [hc, pascalFrom_underscore, htrue]
        rfl
      · rw [hc, pascalFrom_underscore, htrue]
        rfl
    · refine ⟨c :: piece, others, ?_, ?_, ?_⟩
      · rw [pieces, if_neg hc, hpieces]
      · rw [pascalFrom_true_cons hc, hfalse, capitalizeChars, List.append_assoc]
      · rw [pascalFrom_false_cons hc, hfalse, List.cons_append]

theorem pascalChars_eq_pascalFrom (cs : List Char) : pascalChars cs = pascalFrom true cs := by
  obtain ⟨piece, others, hpieces, htrue, _⟩ := pascalFrom_eq_of_pieces cs
  rw [pascalChars, hpieces, htrue]
  rfl

theorem toList_pascal (s : String) : (pascal s).toList = pascalFrom true s.toList := by
  rw [pascal, String.toList_ofList, pascalChars_eq_pascalFrom]

/-! ## Words -/

def isWord (cs : List Char) : Bool := cs.head?.any isIdentStart && cs.all isIdentContinue

/-- Pascal case has no other characters than identifiers have if and only if the name has none. -/
theorem forall_mem_pascalFrom (start : Bool) (cs : List Char) :
    (∀ x ∈ pascalFrom start cs, isIdentContinue x = true) ↔
      ∀ c ∈ cs, isIdentContinue c = true := by
  induction cs generalizing start with
  | nil => simp [pascalFrom]
  | cons c rest ih =>
    by_cases hc : c = '_'
    · have hword : isIdentContinue '_' = true := by decide
      rw [hc, pascalFrom_underscore, ih, List.forall_mem_cons]
      exact ⟨fun h => ⟨hword, h⟩, fun h => h.2⟩
    · cases start with
      | true =>
        rw [pascalFrom_true_cons hc, List.forall_mem_append, List.forall_mem_cons, ih,
          isIdentContinue_upper]
      | false => rw [pascalFrom_false_cons hc, List.forall_mem_cons, List.forall_mem_cons, ih]

/-- The name without the underscores in front of it. -/
def unprefixed (cs : List Char) : List Char := cs.dropWhile (· == '_')

theorem pascalFrom_unprefixed (cs : List Char) :
    pascalFrom true cs = pascalFrom true (unprefixed cs) := by
  induction cs with
  | nil => rfl
  | cons c rest ih =>
    by_cases hc : c = '_'
    · rw [hc, pascalFrom_underscore, ih]
      rfl
    · rw [unprefixed, List.dropWhile_cons_of_neg (by simpa using hc)]

theorem ne_underscore_of_unprefixed {cs rest : List Char} {c : Char}
    (h : unprefixed cs = c :: rest) : c ≠ '_' := by
  have hhead := List.head?_dropWhile_not (· == '_') cs
  rw [← unprefixed, h] at hhead
  simpa using hhead

theorem head?_pascalFrom (cs : List Char) :
    (pascalFrom true cs).head? = (unprefixed cs).head?.bind fun c => (upper c).head? := by
  rw [pascalFrom_unprefixed]
  cases h : unprefixed cs with
  | nil => rfl
  | cons c rest =>
    rw [pascalFrom_true_cons (ne_underscore_of_unprefixed h), List.head?_append,
      List.head?_cons, Option.bind_some]
    cases hupper : upper c with
    | nil => exact absurd hupper (upper_ne_nil c)
    | cons x xs => rfl

/-- A name that is a word in pascal case: its characters are those of identifiers, and the first one
that is no underscore starts an identifier in upper case. -/
theorem isWord_pascal (s : String) :
    isWord (pascal s).toList = true ↔
      (∀ c ∈ s.toList, isIdentContinue c = true) ∧
        ∃ c ∈ (unprefixed s.toList).head?, ∃ x ∈ (upper c).head?, isIdentStart x = true := by
  rw [isWord, Bool.and_eq_true, List.all_eq_true, toList_pascal, forall_mem_pascalFrom,
    head?_pascalFrom, Option.any_eq_true, and_comm]
  refine and_congr_right fun _ => ?_
  simp only [Option.bind_eq_some_iff, Option.mem_def]
  constructor
  · rintro ⟨x, ⟨c, hc, hx⟩, hstart⟩
    exact ⟨c, hc, x, hx, hstart⟩
  · rintro ⟨c, hc, x, hx, hstart⟩
    exact ⟨x, ⟨c, hc, hx⟩, hstart⟩

theorem isLower_of_head?_pascalFrom {cs : List Char} {x : Char}
    (h : (pascalFrom true cs).head? = some x) : x.isLower = false := by
  rw [head?_pascalFrom, Option.bind_eq_some_iff] at h
  obtain ⟨c, _, hx⟩ := h
  rcases of_mem_upper (List.mem_of_mem_head? hx) with ⟨hc, rfl⟩ | hcapital | hwide
  · exact forall_ascii (p := fun c => c.toUpper.isLower = false) (by decide) hc
  · exact isLower_of_isUpper hcapital
  · rw [Bool.eq_false_iff]
    intro hlower
    have hascii := toNat_lt_of_isLower hlower
    omega

/-! ## Ends of names -/

theorem exists_pascalFrom_append (start : Bool) (cs ds : List Char) :
    ∃ start', pascalFrom start (cs ++ ds) = pascalFrom start cs ++ pascalFrom start' ds := by
  induction cs generalizing start with
  | nil => exact ⟨start, rfl⟩
  | cons c rest ih =>
    by_cases hc : c = '_'
    · obtain ⟨start', h⟩ := ih true
      exact ⟨start', by rw [hc, List.cons_append, pascalFrom_underscore, h]; rfl⟩
    · obtain ⟨start', h⟩ := ih false
      refine ⟨start', ?_⟩
      cases start with
      | true =>
        rw [List.cons_append, pascalFrom_true_cons hc, pascalFrom_true_cons hc, h,
          List.append_assoc]
      | false =>
        rw [List.cons_append, pascalFrom_false_cons hc, pascalFrom_false_cons hc, h,
          List.cons_append]

theorem pascalFrom_replicate (start : Bool) (n : Nat) :
    pascalFrom start (List.replicate n '_') = [] := by
  induction n generalizing start with
  | zero => rfl
  | succ n ih => rw [List.replicate_succ, pascalFrom_underscore, ih]

theorem pascalFrom_append_replicate (start : Bool) (cs : List Char) (n : Nat) :
    pascalFrom start (cs ++ List.replicate n '_') = pascalFrom start cs := by
  obtain ⟨start', h⟩ := exists_pascalFrom_append start cs (List.replicate n '_')
  rw [h, pascalFrom_replicate, List.append_nil]

theorem eq_replicate_of_pascalFrom_eq_nil {start : Bool} {cs : List Char}
    (h : pascalFrom start cs = []) : ∃ n, cs = List.replicate n '_' := by
  induction cs generalizing start with
  | nil => exact ⟨0, rfl⟩
  | cons c rest ih =>
    by_cases hc : c = '_'
    · subst hc
      obtain ⟨n, hn⟩ := ih h
      exact ⟨n + 1, by rw [hn]; rfl⟩
    · cases start with
      | true =>
        rw [pascalFrom_true_cons hc, List.append_eq_nil_iff] at h
        exact absurd h.1 (upper_ne_nil c)
      | false =>
        rw [pascalFrom_false_cons hc] at h
        cases h

/-- A capital starts every further piece, so small letters after the first one come from one piece
with nothing but underscores behind it. -/
theorem eq_append_of_pascalFrom_false {cs word : List Char} (hword : ∀ x ∈ word, x.isLower = true)
    (h : pascalFrom false cs = word) : ∃ n, cs = word ++ List.replicate n '_' := by
  induction word generalizing cs with
  | nil =>
    exact eq_replicate_of_pascalFrom_eq_nil h
  | cons x xs ih =>
    cases cs with
    | nil => cases h
    | cons c rest =>
      by_cases hc : c = '_'
      · subst hc
        rw [pascalFrom_underscore] at h
        have hhead : (pascalFrom true rest).head? = some x := by rw [h, List.head?_cons]
        have hlower := hword x List.mem_cons_self
        rw [isLower_of_head?_pascalFrom hhead] at hlower
        cases hlower
      · rw [pascalFrom_false_cons hc] at h
        cases h
        obtain ⟨n, hn⟩ := ih (fun y hy => hword y (List.mem_cons_of_mem _ hy)) rfl
        exact ⟨n, congrArg (x :: ·) hn⟩

/-! ## `Self` -/

def stripped (cs : List Char) : List Char := (unprefixed (unprefixed cs).reverse).reverse

theorem exists_eq_unprefixed (cs : List Char) :
    ∃ n, cs = List.replicate n '_' ++ unprefixed cs := by
  induction cs with
  | nil => exact ⟨0, rfl⟩
  | cons c rest ih =>
    by_cases hc : c = '_'
    · subst hc
      obtain ⟨n, hn⟩ := ih
      exact ⟨n + 1, congrArg ('_' :: ·) hn⟩
    · exact ⟨0, by rw [unprefixed, List.dropWhile_cons_of_neg (by simpa using hc)]; rfl⟩

theorem exists_eq_stripped (cs : List Char) :
    ∃ n, unprefixed cs = stripped cs ++ List.replicate n '_' := by
  obtain ⟨n, hn⟩ := exists_eq_unprefixed (unprefixed cs).reverse
  refine ⟨n, ?_⟩
  have hrev := congrArg List.reverse hn
  rwa [List.reverse_reverse, List.reverse_append, List.reverse_replicate] at hrev

theorem pascalFrom_stripped (cs : List Char) :
    pascalFrom true cs = pascalFrom true (stripped cs) := by
  obtain ⟨n, hn⟩ := exists_eq_stripped cs
  rw [pascalFrom_unprefixed, hn, pascalFrom_append_replicate]

theorem unprefixed_replicate_append (n : Nat) {c : Char} (hc : c ≠ '_') (rest : List Char) :
    unprefixed (List.replicate n '_' ++ c :: rest) = c :: rest := by
  induction n with
  | zero => exact List.dropWhile_cons_of_neg (by simpa using hc)
  | succ n ih => exact ih

theorem pascal_eq_self_of_stripped {s : String}
    (h : String.ofList (stripped s.toList) ∈ ["self", "Self"]) : pascal s = "Self" := by
  rw [← String.toList_inj, toList_pascal, pascalFrom_stripped]
  rw [List.mem_cons, List.mem_singleton, ← String.toList_inj, ← String.toList_inj,
    String.toList_ofList] at h
  rcases h with h | h <;> rw [h] <;> decide

/-- An ASCII name is `Self` in pascal case if and only if it is `self` or `Self` between
underscores. -/
theorem pascal_eq_self_iff {s : String} (hs : ∀ c ∈ s.toList, c.toNat < 128) :
    pascal s = "Self" ↔ String.ofList (stripped s.toList) ∈ ["self", "Self"] := by
  rw [← String.toList_inj, toList_pascal]
  constructor
  · intro h
    rw [pascalFrom_unprefixed] at h
    cases hname : unprefixed s.toList with
    | nil =>
      rw [hname] at h
      cases h
    | cons c rest =>
      have hascii : c.toNat < 128 :=
        hs c (List.dropWhile_subset _ (by rw [← unprefixed, hname]; exact List.mem_cons_self))
      rw [hname, pascalFrom_true_cons (ne_underscore_of_unprefixed hname),
        upper_of_ascii hascii] at h
      obtain ⟨hfirst, hrest⟩ : c.toUpper = 'S' ∧ pascalFrom false rest = ['e', 'l', 'f'] := by
        simpa using h
      obtain ⟨n, rfl⟩ := eq_append_of_pascalFrom_false (List.all_eq_true.1 (by decide)) hrest
      have hstripped : stripped s.toList = [c, 'e', 'l', 'f'] := by
        have hreverse : (c :: (['e', 'l', 'f'] ++ List.replicate n '_')).reverse =
            List.replicate n '_' ++ ['f', 'l', 'e', c] := by
          simp
        rw [stripped, hname, hreverse, unprefixed_replicate_append n (by decide)]
        rfl
      have hcase := forall_ascii (p := fun c => c.toUpper = 'S' → c = 's' ∨ c = 'S') (by decide)
        hascii hfirst
      rw [hstripped]
      rcases hcase with rfl | rfl <;> decide
  · intro h
    rw [← toList_pascal, pascal_eq_self_of_stripped h]

theorem pascal_append_builder_ne_self (s : String) : pascal (s ++ "Builder") ≠ "Self" := by
  intro h
  have hchars := congrArg String.toList h
  obtain ⟨start, happend⟩ := exists_pascalFrom_append true s.toList "Builder".toList
  have hsuffix : pascalFrom start "Builder".toList = "Builder".toList := by
    cases start <;> decide
  rw [toList_pascal, String.toList_append, happend, hsuffix] at hchars
  have hlength := congrArg List.length hchars
  simp at hlength

end Buildwright.Text
