import Mathlib.Data.List.Sort
import Buildwright.Proofs.Manifest.Acceptance
import Buildwright.Proofs.Manifest.Offender
import Buildwright.Proofs.Manifest.Place

/-!
# Where the labels of a clash point

The labels of a repeated argument or a hidden generic parameter are looked for in the whole text. They
point into the function that is reported only if the name does not stand in another place before.
-/

namespace Buildwright

open Text (StandsAt)

namespace Toml

def Span.Within (inner outer : Span) : Prop :=
  outer.start ≤ inner.start ∧ inner.start + inner.length ≤ outer.start + outer.length

instance (inner outer : Span) : Decidable (inner.Within outer) :=
  inferInstanceAs (Decidable (_ ∧ _))

/-- The stretch is part of a value as it is written: of the value's own place, or of a key's or a
value's in it. -/
inductive Encloses (l : Span) : Span × Value → Prop where
  | place {span : Span} {v : Value} : l.Within span → Encloses l (span, v)
  | item {span : Span} {items : List (Span × Value)} {child : Span × Value} :
      child ∈ items → Encloses l child → Encloses l (span, .array items)
  | key {span : Span} {entries : List (Key × Span × Value)} {key : Key} {child : Span × Value} :
      (key, child) ∈ entries → l.Within key.span → Encloses l (span, .table entries)
  | entry {span : Span} {entries : List (Key × Span × Value)} {key : Key} {child : Span × Value} :
      (key, child) ∈ entries → Encloses l child → Encloses l (span, .table entries)

theorem Encloses.of_holds {l : Span} {names : List String} {name : String} {child : Span × Value}
    {node : Span × Value} (h : Holds names name child node.2) (hl : Encloses l child) :
    Encloses l node := by
  obtain ⟨span, v⟩ := node
  cases h with
  | entry hmem _ => exact .entry hmem hl
  | item hitem => exact .item (List.mem_of_getElem? hitem) hl

end Toml

/-! ## The first two of several places -/

namespace Text

/-- Of the numbers with the property, `p` is the least and `q` the next. -/
def FirstTwo (P : Nat → Prop) (p q : Nat) : Prop := P p ∧ P q ∧ p < q ∧ ∀ r, P r → r < q → r = p

theorem firstTwo_iff {ps : List Nat} (h : ps.Pairwise (· < ·)) {p q : Nat} :
    FirstTwo (· ∈ ps) p q ↔ ps[0]? = some p ∧ ps[1]? = some q := by
  rcases ps with _ | ⟨a, _ | ⟨b, rest⟩⟩
  · simp [FirstTwo]
  · simp only [FirstTwo, List.mem_singleton]
    constructor
    · rintro ⟨rfl, rfl, hlt, -⟩
      exact absurd hlt (Nat.lt_irrefl _)
    · rintro ⟨-, ⟨⟩⟩
  · obtain ⟨ha, hrest⟩ := List.pairwise_cons.1 h
    have hab : a < b := ha b List.mem_cons_self
    have hplace (r : Nat) (hr : r ∈ a :: b :: rest) : r = a ∨ r = b ∨ b < r := by
      obtain rfl | rfl | hr : r = a ∨ r = b ∨ r ∈ rest := by simpa using hr
      · exact .inl rfl
      · exact .inr (.inl rfl)
      · exact .inr (.inr ((List.pairwise_cons.1 hrest).1 r hr))
    have hb : b ∈ a :: b :: rest := List.mem_cons_of_mem _ List.mem_cons_self
    constructor
    · rintro ⟨hp, hq, hlt, hleast⟩
      have hcase := hplace p hp
      have hcase' := hplace q hq
      have hap : a = p := hleast a List.mem_cons_self (by omega)
      have hbq : b = q := by
        by_contra hne
        have := hleast b hb (by omega)
        omega
      exact ⟨congrArg some hap, congrArg some hbq⟩
    · rintro ⟨⟨⟩, ⟨⟩⟩
      refine ⟨List.mem_cons_self, hb, hab, fun r hr hlt => ?_⟩
      have := hplace r hr
      omega

theorem getElem?_one_eq_none {ps : List Nat} (h : ps.Pairwise (· < ·)) :
    ps[1]? = none ↔ ∀ p q : Nat, p ∈ ps → q ∈ ps → p = q := by
  rcases ps with _ | ⟨a, _ | ⟨b, rest⟩⟩
  · simp
  · simp
  · have hab : a < b := (List.pairwise_cons.1 h).1 b List.mem_cons_self
    refine iff_of_false nofun fun hall => ?_
    exact hab.ne (hall a b List.mem_cons_self (List.mem_cons_of_mem _ List.mem_cons_self))

theorem exists_getElem?_zero {ps : List Nat} {q : Nat} (h : ps[1]? = some q) :
    ∃ p, ps[0]? = some p := by
  cases ps with
  | nil => cases h
  | cons p rest => exact ⟨p, rfl⟩

end Text

namespace Manifest

open Toml

variable {source : String}

/-! ## Places of a name -/

def quotedPlace (name : String) (start : Nat) : Span := ⟨start + 1, name.utf8ByteSize⟩

/-- The name stands before a colon at the start of a string. -/
def argumentStart (source name : String) (start : Nat) : Prop :=
  StandsAt ("\"" ++ name ++ ":") source start

/-- The name is found as a string, or before a colon at the start of one. -/
def genericStart (source name : String) (start : Nat) : Prop :=
  start ∈ Text.occurrences ("\"" ++ name ++ "\"") source ∨
    start ∈ Text.occurrences ("\"" ++ name ++ ":") source

theorem Usable.quote_not_mem {name : String} (h : Usable name) : '"' ∉ name.toList := by
  obtain ⟨first, rest, hchars, hfirst, hrest⟩ := h.chars
  rw [hchars, List.mem_cons, not_or]
  constructor
  · rintro rfl
    simp at hfirst
  · intro hmem
    have := hrest _ hmem
    simp at this

theorem mem_argumentStarts {name : String} (h : Usable name) {p : Nat} :
    p ∈ Text.occurrences ("\"" ++ name ++ ":") source ↔ argumentStart source name p := by
  have hpattern : ("\"" ++ name ++ ":").toList = '"' :: (name.toList ++ [':']) := by simp
  refine Text.mem_occurrences_iff hpattern ?_
  rw [List.mem_append, not_or]
  exact ⟨h.quote_not_mem, by decide⟩

theorem pairwise_argumentStarts (source name : String) :
    (Text.occurrences ("\"" ++ name ++ ":") source).Pairwise (· < ·) :=
  Text.pairwise_lt_occurrences (by simp)

theorem getElem?_placesOfArgument (source name : String) (i : Nat) :
    (placesOfArgument source name)[i]? =
      (Text.occurrences ("\"" ++ name ++ ":") source)[i]?.map (quotedPlace name) :=
  List.getElem?_map

theorem eq_of_standsAt {pattern pattern' : String} {p : Nat} (h : StandsAt pattern source p)
    (h' : StandsAt pattern' source p) (hsize : pattern.utf8ByteSize = pattern'.utf8ByteSize) :
    pattern = pattern' := by
  have hcovers {pattern : String} (h : StandsAt pattern source p) :
      Span.Covers ⟨p + 0, pattern.utf8ByteSize⟩ source pattern :=
    Span.covers_of_standsAt (by rwa [String.empty_append, String.append_empty])
  have hbytes := (hcovers h).bytes
  rw [hsize, (hcovers h').bytes] at hbytes
  exact (String.toByteArray_inj.1 hbytes).symm

theorem exists_genericStarts (source name : String) :
    ∃ starts : List Nat, starts.Pairwise (· < ·) ∧
      (∀ p, p ∈ starts ↔ genericStart source name p) ∧
      placesOfGeneric source name = starts.map (quotedPlace name) := by
  have hapart : ∀ p ∈ Text.occurrences ("\"" ++ name ++ "\"") source,
      ∀ q ∈ Text.occurrences ("\"" ++ name ++ ":") source, p ≠ q := by
    rintro p hp _ hq rfl
    have heq := eq_of_standsAt (Text.standsAt_of_mem_occurrences hp)
      (Text.standsAt_of_mem_occurrences hq) (by simp; rfl)
    simp at heq
  have hnodup : (Text.occurrences ("\"" ++ name ++ "\"") source ++
      Text.occurrences ("\"" ++ name ++ ":") source).Nodup :=
    List.nodup_append.2
      ⟨(Text.pairwise_lt_occurrences (by simp)).imp Nat.ne_of_lt,
        (pairwise_argumentStarts source name).imp Nat.ne_of_lt, hapart⟩
  refine ⟨_, ?_, fun p => ?_, rfl⟩
  · have hsorted := List.sortedLE_mergeSort.sortedLT_of_nodup
      ((List.mergeSort_perm _ _).nodup_iff.2 hnodup)
    exact hsorted.pairwise
  · rw [List.mem_mergeSort, List.mem_append, genericStart]

/-! ## Where the labels are -/

namespace Offender

variable {o : Offender source} {name : String}

/-- Labels as they are meant: in the function's declaration, and if there are two, on the first
argument and on the repeated one. -/
def Repetition.LabelsInPlace (r : o.Repetition name) (first second : Option Span) : Prop :=
  (∀ l, first = some l ∨ second = some l → Encloses l o.node) ∧
    ∀ l l', first = some l → second = some l' → l.Within r.first.1 ∧ l'.Within r.second.1

/-- A label as it is meant: in the list of the function's generic parameters. -/
def Shadowing.LabelInPlace (s : o.Shadowing name) (label : Option Span) : Prop :=
  ∀ l, label = some l → l.Within s.place

theorem Repetition.encloses_of_mem (r : o.Repetition name) {arg : Span × Value} {l : Span}
    (harg : arg ∈ r.args) (hl : l.Within arg.1) : Encloses l o.node :=
  .of_holds r.holds (.item harg (.place hl))

theorem Repetition.labelsInPlace_iff (r : o.Repetition name) {P : Nat → Prop} {starts : List Nat}
    (hsorted : starts.Pairwise (· < ·)) (hP : ∀ p, p ∈ starts ↔ P p) :
    r.LabelsInPlace (starts[0]?.map (quotedPlace name)) (starts[1]?.map (quotedPlace name)) ↔
      (∃ p q, Text.FirstTwo P p q ∧ (quotedPlace name p).Within r.first.1 ∧
          (quotedPlace name q).Within r.second.1) ∨
        (∀ p q, P p → P q → p = q) ∧ ∀ p, P p → Encloses (quotedPlace name p) o.node := by
  obtain rfl : (· ∈ starts) = P := funext fun p => propext (hP p)
  simp only [Text.firstTwo_iff hsorted, ← Text.getElem?_one_eq_none hsorted]
  cases hq : starts[1]? with
  | some q =>
    obtain ⟨p, hp⟩ := Text.exists_getElem?_zero hq
    rw [hp]
    simp only [Repetition.LabelsInPlace, Option.map_some, Option.some.injEq]
    constructor
    · rintro ⟨-, hplaces⟩
      exact .inl ⟨p, q, ⟨rfl, rfl⟩, hplaces _ _ rfl rfl⟩
    · rintro (⟨p', q', ⟨rfl, rfl⟩, hp', hq'⟩ | ⟨⟨⟩, -⟩)
      refine ⟨?_, ?_⟩
      · rintro l (rfl | rfl)
        · exact r.encloses_of_mem (List.mem_of_getElem? r.firstArg) hp'
        · exact r.encloses_of_mem (List.mem_of_getElem? r.secondArg) hq'
      · rintro l l' rfl rfl
        exact ⟨hp', hq'⟩
  | none =>
    simp only [Repetition.LabelsInPlace, Option.map_none, reduceCtorEq, and_false, false_and,
      exists_false, or_false, false_or, false_implies, implies_true, and_true, true_and,
      Option.map_eq_some_iff]
    rcases starts with _ | ⟨a, _ | ⟨b, rest⟩⟩
    · simp
    · simp
    · cases hq

theorem Shadowing.labelInPlace_iff (s : o.Shadowing name) {P : Nat → Prop} {starts : List Nat}
    (hsorted : starts.Pairwise (· < ·)) (hP : ∀ p, p ∈ starts ↔ P p) :
    s.LabelInPlace (starts[1]?.map (quotedPlace name)) ↔
      (∃ p q, Text.FirstTwo P p q ∧ (quotedPlace name q).Within s.place) ∨
        ∀ p q, P p → P q → p = q := by
  obtain rfl : (· ∈ starts) = P := funext fun p => propext (hP p)
  simp only [Text.firstTwo_iff hsorted, ← Text.getElem?_one_eq_none hsorted]
  cases hq : starts[1]? with
  | some q =>
    obtain ⟨p, hp⟩ := Text.exists_getElem?_zero hq
    simp [Shadowing.LabelInPlace, hp]
  | none => simp [Shadowing.LabelInPlace]

end Offender

/-- The labels of a clash cover the name. They point into the function that is reported if and only
if the first two places of the name in the whole text are there, or there are no two. -/
theorem labels_in_place_iff (source name function : String) :
    (∀ first second,
      read source = .error (.duplicateArgument name function first second) →
        (∃ o : Offender source, o.title = function ∧ Nonempty (o.Repetition name)) ∧
        (∀ l, first = some l ∨ second = some l → l.Covers source name) ∧
        ∀ (o : Offender source) (r : o.Repetition name),
          r.LabelsInPlace first second ↔
            (∃ p q, Text.FirstTwo (argumentStart source name) p q ∧
                (quotedPlace name p).Within r.first.1 ∧ (quotedPlace name q).Within r.second.1) ∨
              (∀ p q, argumentStart source name p → argumentStart source name q → p = q) ∧
                ∀ p, argumentStart source name p → Encloses (quotedPlace name p) o.node) ∧
      ∀ owner label,
        read source = .error (.shadowedGeneric name function owner label) →
          (∃ o : Offender source, o.title = function ∧ Nonempty (o.Shadowing name)) ∧
          (∀ l, label = some l → l.Covers source name) ∧
          ∀ (o : Offender source) (s : o.Shadowing name),
            s.LabelInPlace label ↔
              (∃ p q, Text.FirstTwo (genericStart source name) p q ∧
                  (quotedPlace name q).Within s.place) ∨
                ∀ p q, genericStart source name p → genericStart source name q → p = q := by
  constructor
  · intro first second h
    obtain ⟨husable, rfl, rfl, ho⟩ := exists_repetition h
    refine ⟨ho, ?_, fun o r => ?_⟩
    · rintro l (hl | hl) <;> exact covers_of_mem_placesOfArgument (List.mem_of_getElem? hl)
    · rw [getElem?_placesOfArgument, getElem?_placesOfArgument]
      exact r.labelsInPlace_iff (pairwise_argumentStarts source name) fun p =>
        mem_argumentStarts husable
  · intro owner label h
    obtain ⟨rfl, ho⟩ := exists_shadowing h
    refine ⟨ho, fun l hl => covers_of_mem_placesOfGeneric (List.mem_of_getElem? hl), fun o s => ?_⟩
    obtain ⟨starts, hsorted, hstarts, hplaces⟩ := exists_genericStarts source name
    rw [hplaces, List.getElem?_map]
    exact s.labelInPlace_iff hsorted hstarts

/-! ## Labels that go astray -/

/-- Two functions of `Rack<T>` with an argument `x`. The second one repeats it. -/
def rackText : String :=
  Text.lines
    ["[[impl]]", "self = \"Rack<T>\"", "generics = [\"T\"]",
      "[[impl.fn]]", "name = \"add\"", "args = [\"x: T\"]",
      "[[impl.fn]]", "name = \"put\"", "args = [\"x: T\", \"x: T\"]"]

def rackFunction (name : String) (generics : List TypeParam) (args : List Parameter) :
    FunctionDecl where
  name := name
  receiver := none
  generics := generics
  args := args
  returns := none
  isConstructor := false
  annotation := none

def rackBlock (functions : List FunctionDecl) : ImplBlock where
  selfTy := .path false [.mk "Rack" [.type (.name "T")]]
  generics := [⟨"T", []⟩]
  functions := functions

def addFunction : FunctionDecl := rackFunction "add" [] [⟨"x", .name "T"⟩]

def putFunction : FunctionDecl := rackFunction "put" [] [⟨"x", .name "T"⟩, ⟨"x", .name "T"⟩]

def rackManifest : Manifest := ⟨.default, [rackBlock [addFunction, putFunction]]⟩

private def putNode : Span × Value :=
  (⟨84, 11⟩, .table
    [(⟨"name", ⟨96, 4⟩⟩, ⟨103, 5⟩, .text "put"),
      (⟨"args", ⟨109, 4⟩⟩, ⟨116, 16⟩, .array
        [(⟨117, 6⟩, .text "x: T"), (⟨125, 6⟩, .text "x: T")])])

private def rackNode : Span × Value :=
  (⟨0, 133⟩, .table [(⟨"impl", ⟨2, 4⟩⟩, ⟨0, 8⟩, .array [(⟨0, 8⟩, .table
    [(⟨"self", ⟨9, 4⟩⟩, ⟨16, 9⟩, .text "Rack<T>"),
      (⟨"generics", ⟨26, 8⟩⟩, ⟨37, 5⟩, .array [(⟨38, 3⟩, .text "T")]),
      (⟨"fn", ⟨50, 2⟩⟩, ⟨43, 11⟩, .array
        [(⟨43, 11⟩, .table
          [(⟨"name", ⟨55, 4⟩⟩, ⟨62, 5⟩, .text "add"),
            (⟨"args", ⟨68, 4⟩⟩, ⟨75, 8⟩, .array [(⟨76, 6⟩, .text "x: T")])]), putNode])])])])

set_option maxRecDepth 10000 in
private theorem read_rackNode : Toml.read rackText = some rackNode := by
  rw [Toml.read, rackText, Text.toList_lines]
  cbv

private theorem decode_rackNode : decode rackNode = .ok rackManifest := by decide +kernel

private theorem decode_putNode : functionDecl putNode = .ok putFunction := by decide +kernel

set_option maxRecDepth 10000 in
theorem read_rackText :
    read rackText =
      .error (.duplicateArgument "x" "Rack::put" (some ⟨77, 1⟩) (some ⟨118, 1⟩)) :=
  (read_of_lines (m := rackManifest) (by decide +kernel)).trans (by cbv)

theorem valid_addFunction : addFunction.Valid (rackBlock [addFunction, putFunction]) :=
  (forall_function ⟨"", []⟩ _ _).1 ((checks_function _ _ _).eq_ok_iff.1 (by cbv))

def rackOffender : Offender rackText where
  root := rackNode
  manifest := rackManifest
  i := 0
  j := 1
  block := rackBlock [addFunction, putFunction]
  function := putFunction
  node := putNode
  read_eq := read_rackNode
  decode_eq := decode_rackNode
  firstInvalid :=
    { block_eq := rfl
      function_eq := rfl
      earlierBlock := nofun
      earlierFunction := fun _ hg => List.mem_singleton.1 hg ▸ valid_addFunction
      invalid := fun h => absurd h.argNodup (by decide) }
  declaredAt := ⟨⟨0, 8⟩, _, _, ⟨43, 11⟩, _, .entry List.mem_cons_self rfl, rfl,
    .entry (List.mem_cons_of_mem _ (List.mem_cons_of_mem _ List.mem_cons_self)) rfl, rfl⟩
  decode_node := decode_putNode

def rackRepetition : rackOffender.Repetition "x" where
  place := ⟨116, 16⟩
  args := [(⟨117, 6⟩, .text "x: T"), (⟨125, 6⟩, .text "x: T")]
  i := 0
  j := 1
  first := (⟨117, 6⟩, .text "x: T")
  second := (⟨125, 6⟩, .text "x: T")
  holds := .entry (List.mem_cons_of_mem _ List.mem_cons_self) rfl
  lt := Nat.zero_lt_one
  firstName := rfl
  secondName := rfl
  nodup := List.nodup_singleton _
  firstArg := rfl
  secondArg := rfl

theorem not_encloses_putNode : ¬ Encloses ⟨77, 1⟩ putNode := by
  intro h
  cases h with
  | place h => exact absurd h (by decide)
  | key hmem h =>
    simp at hmem
    rcases hmem with ⟨rfl, -⟩ | ⟨rfl, -⟩ <;> exact absurd h (by decide)
  | entry hmem h =>
    simp at hmem
    rcases hmem with ⟨-, rfl⟩ | ⟨-, rfl⟩
    · cases h with
      | place h => exact absurd h (by decide)
    · cases h with
      | place h => exact absurd h (by decide)
      | item hmem h =>
        simp at hmem
        rcases hmem with rfl | rfl <;> cases h with
        | place h => exact absurd h (by decide)

/-- The labels are on the argument of `add` and on the first one of `put`. -/
theorem rackLabels_astray :
    read rackText =
        .error (.duplicateArgument "x" "Rack::put" (some ⟨77, 1⟩) (some ⟨118, 1⟩)) ∧
      rackOffender.title = "Rack::put" ∧ ¬ Encloses ⟨77, 1⟩ rackOffender.node ∧
      ¬ rackRepetition.LabelsInPlace (some ⟨77, 1⟩) (some ⟨118, 1⟩) :=
  ⟨read_rackText, rfl, not_encloses_putNode, fun h =>
    not_encloses_putNode (h.1 _ (.inl rfl))⟩

def hiddenText : String :=
  Text.lines
    ["[[impl]]", "self = \"Rack<T>\"", "generics = [\"T\"]",
      "[[impl.fn]]", "name = \"of\"", "generics = [\"T\"]"]

def hiddenManifest : Manifest := ⟨.default, [rackBlock [rackFunction "of" [⟨"T", []⟩] []]]⟩

set_option maxRecDepth 10000 in
theorem read_hiddenText :
    read hiddenText = .error (.shadowedGeneric "T" "Rack::of" "Rack" (some ⟨80, 1⟩)) :=
  (read_of_lines (m := hiddenManifest) (by decide +kernel)).trans (by cbv)

theorem rackTexts_clash :
    (∃ o : Offender rackText, o.title = "Rack::put" ∧ Nonempty (o.Repetition "x")) ∧
      ∃ o : Offender hiddenText, o.title = "Rack::of" ∧ Nonempty (o.Shadowing "T") :=
  ⟨((labels_in_place_iff rackText "x" "Rack::put").1 _ _ read_rackText).1,
    ((labels_in_place_iff hiddenText "T" "Rack::of").2 _ _ read_hiddenText).1⟩

end Manifest

end Buildwright
