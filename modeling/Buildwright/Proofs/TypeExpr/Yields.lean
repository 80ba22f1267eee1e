import Buildwright.TypeExpr.Grammar
import Buildwright.TypeExpr.Lexer

/-!
# What productions leave behind

A production gives a value of which something holds, and leaves tokens that are as well-formed as
those that it was given: it takes tokens off the front and makes none up.
-/

namespace Buildwright.TypeExpr

/-- The text is one name for the lexer. -/
def Lexer.IsWord (w : String) : Prop := name? w.toList = some (w, [])

def Token.Valid : Token → Prop
  | .word w => Lexer.IsWord w
  | _ => True

namespace Parse

/-- On valid tokens the value is as `Q` says, and the tokens left are valid. -/
def Yields (Q : α → Prop) (p : Parse α) : Prop :=
  ∀ ts x rest, (∀ t ∈ ts, t.Valid) → p ts = some (x, rest) → Q x ∧ ∀ t ∈ rest, t.Valid

abbrev Keeps (p : Parse α) : Prop := Yields (fun _ => True) p

namespace Yields

variable {α β : Type} {P Q : α → Prop} {R : β → Prop} {p q : Parse α}

theorem mono (h : ∀ x, P x → Q x) (hp : Yields P p) : Yields Q p := by
  intro ts x rest hts hx
  obtain ⟨hP, hrest⟩ := hp ts x rest hts hx
  exact ⟨h x hP, hrest⟩

theorem keeps (hp : Yields P p) : Keeps p := hp.mono fun _ _ => trivial

theorem pure {x : α} (hx : Q x) : Yields Q (pure x : Parse α) := by
  rintro ts _ _ hts ⟨⟩
  exact ⟨hx, hts⟩

theorem bind {f : α → Parse β} (hp : Yields P p) (hf : ∀ x, P x → Yields R (f x)) :
    Yields R (p >>= f) := by
  intro ts y rest hts hy
  obtain ⟨⟨x, rest'⟩, hx, hy⟩ := Option.bind_eq_some_iff.1 hy
  obtain ⟨hP, hrest'⟩ := hp ts x rest' hts hx
  exact hf x hP rest' y rest hrest' hy

theorem then_ {f : α → Parse β} (hp : Keeps p) (hf : ∀ x, Yields R (f x)) : Yields R (p >>= f) :=
  hp.bind fun x _ => hf x

theorem ite {c : Prop} [Decidable c] (hp : Yields Q p) (hq : Yields Q q) :
    Yields Q (if c then p else q) := by
  split
  · exact hp
  · exact hq

theorem failure : Yields Q (failure : Parse α) := by
  rintro ts x rest hts ⟨⟩

end Yields

/-! ## Tokens off the front -/

theorem keeps_of_drop {p : Parse α}
    (h : ∀ ts x rest, p ts = some (x, rest) → ∃ n, rest = ts.drop n) : Keeps p := by
  intro ts x rest hts hx
  obtain ⟨n, rfl⟩ := h ts x rest hx
  exact ⟨trivial, fun t ht => hts t (List.mem_of_mem_drop ht)⟩

theorem keeps_peek (f : List Token → Bool) : Keeps (peek f) :=
  keeps_of_drop fun ts _ _ h => ⟨0, by cases h; rfl⟩

theorem keeps_require (f : List Token → Bool) : Keeps (require f) :=
  keeps_of_drop fun ts _ _ h => ⟨0, by unfold require at h; split at h <;> cases h; rfl⟩

theorem keeps_skip (n : Nat) : Keeps (skip n) :=
  keeps_of_drop fun ts _ _ h => ⟨n, by cases h; rfl⟩

theorem keeps_eat (cs : List Char) : Keeps (eat cs) := by
  refine keeps_of_drop fun ts _ _ h => ?_
  unfold eat at h
  split at h <;> cases h
  · exact ⟨_, rfl⟩
  · exact ⟨0, rfl⟩

theorem keeps_eatWord (w : String) : Keeps (eatWord w) := by
  refine keeps_of_drop fun ts _ _ h => ?_
  unfold eatWord at h
  split at h <;> cases h
  · exact ⟨_, rfl⟩
  · exact ⟨0, rfl⟩

theorem keeps_marks (cs : List Char) : Keeps (marks cs) := by
  refine keeps_of_drop fun ts _ _ h => ?_
  unfold marks at h
  split at h <;> cases h
  exact ⟨_, rfl⟩

theorem keeps_word (w : String) : Keeps (word w) := by
  refine keeps_of_drop fun ts _ _ h => ?_
  unfold word at h
  split at h <;> cases h
  exact ⟨_, rfl⟩

theorem keeps_lifetime : Keeps lifetime := by
  refine keeps_of_drop fun ts _ _ h => ⟨2, ?_⟩
  unfold lifetime at h
  split at h <;> cases h
  rfl

theorem exists_drop_of_afterBrackets {depth : Nat} {ts rest : List Token}
    (h : afterBrackets depth ts = some rest) : ∃ n, rest = ts.drop n := by
  fun_induction afterBrackets depth ts with
  | case1 depth b ts ih =>
    obtain ⟨n, rfl⟩ := ih h
    exact ⟨n + 1, rfl⟩
  | case2 b ts =>
    cases h
    exact ⟨1, rfl⟩
  | case3 depth b ts ih =>
    obtain ⟨n, rfl⟩ := ih h
    exact ⟨n + 1, rfl⟩
  | case4 depth t ts _ _ _ ih =>
    obtain ⟨n, rfl⟩ := ih h
    exact ⟨n + 1, rfl⟩
  | case5 => cases h

theorem keeps_anyBrackets : Keeps anyBrackets := by
  refine keeps_of_drop fun ts _ _ h => ?_
  obtain ⟨rest', hrest', h⟩ := Option.map_eq_some_iff.1 h
  cases h
  exact exists_drop_of_afterBrackets hrest'

theorem yields_anyWord : Yields Lexer.IsWord anyWord := by
  intro ts w rest hts h
  unfold anyWord at h
  split at h <;> cases h
  rw [List.forall_mem_cons] at hts
  exact hts

/-! ## Repetition -/

theorem yields_manyWithin {Q : α → Prop} {item : Parse (α × Bool)}
    (hitem : Yields (fun x => Q x.1) item) (n : Nat) :
    Yields (fun xs => xs ≠ [] ∧ ∀ x ∈ xs, Q x) (Reading.manyWithin item n) := by
  induction n with
  | zero => exact .failure
  | succ n ih =>
    refine hitem.bind fun x hx => ?_
    obtain ⟨x, more⟩ := x
    refine .ite (ih.bind fun xs hxs => .pure ?_) (.pure ?_)
    · exact ⟨by simp, List.forall_mem_cons.2 ⟨hx, hxs.2⟩⟩
    · exact ⟨by simp, by simpa using hx⟩

theorem yields_many {Q : α → Prop} {item : Parse (α × Bool)}
    (hitem : Yields (fun x => Q x.1) item) :
    Yields (fun xs => xs ≠ [] ∧ ∀ x ∈ xs, Q x) (many item) :=
  fun ts => yields_manyWithin hitem (ts.length + 1) ts

theorem keeps_many {item : Parse (α × Bool)} (hitem : Keeps item) : Keeps (many item) :=
  (yields_many (Q := fun _ => True) hitem).keeps

theorem yields_bracketed {Q : α → Prop} (b : Bracket) {body : Parse α} (hbody : Yields Q body) :
    Yields Q (bracketed b body) :=
  (keeps_require _).then_ fun _ => (keeps_skip 1).then_ fun _ => hbody.bind fun _ hx =>
    (keeps_require _).then_ fun _ => (keeps_skip 1).then_ fun _ => .pure hx

end Parse

end Buildwright.TypeExpr
