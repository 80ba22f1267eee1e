import Buildwright.Proofs.TypeExpr.Tokens

/-!
# Productions on the tokens of pieces

What the productions do on tokens of which the first ones are known: what a type starts with, what
may follow one, and items behind each other with a separator between them.
-/

namespace Buildwright.TypeExpr

namespace Parse

variable {α β : Type}

/-! ## Sequencing -/

theorem bind_apply {p : Parse α} {f : α → Parse β} {ts r : List Token} {x : α}
    (h : p ts = some (x, r)) : (p >>= f) ts = f x r := by
  show Option.bind (p ts) _ = _
  rw [h]
  rfl

theorem peek_bind (f : List Token → Bool) (g : Bool → Parse β) (ts : List Token) :
    (peek f >>= g) ts = g (f ts) ts := rfl

theorem skip_bind (n : Nat) (g : Unit → Parse β) (ts : List Token) :
    (skip n >>= g) ts = g () (ts.drop n) := rfl

theorem pure_apply (x : α) (ts : List Token) : (pure x : Parse α) ts = some (x, ts) := rfl

/-! ## Marks -/

theorem startsMarks_eq_false {c : Char} {ts : List Token}
    (h : ∀ joint, ts.head? ≠ some (.mark c joint)) (cs : List Char) :
    startsMarks (c :: cs) ts = false := by
  cases ts with
  | nil => simp [startsMarks]
  | cons t ts =>
    cases t with
    | mark d joint =>
      have hd : c ≠ d := by
        rintro rfl
        exact h joint rfl
      cases cs <;> cases joint <;> simp [startsMarks, hd]
    | _ => simp [startsMarks]

theorem eat_bind_of_not {cs : List Char} {ts : List Token} (h : startsMarks cs ts = false)
    (g : Bool → Parse β) : (eat cs >>= g) ts = g false ts :=
  bind_apply (by simp [eat, h])

theorem eat_bind {cs : List Char} {ts : List Token} (h : startsMarks cs ts = true)
    (g : Bool → Parse β) : (eat cs >>= g) ts = g true (ts.drop cs.length) :=
  bind_apply (by simp [eat, h])

theorem eat_mark_bind (c : Char) (joint : Bool) (ts : List Token) (g : Bool → Parse β) :
    (eat [c] >>= g) (.mark c joint :: ts) = g true ts :=
  bind_apply (by simp [eat, startsMarks])

theorem marks_mark_bind (c : Char) (joint : Bool) (ts : List Token) (g : Unit → Parse β) :
    (marks [c] >>= g) (.mark c joint :: ts) = g () ts :=
  bind_apply (by simp [marks, startsMarks])

theorem eatWord_bind_of_not {w : String} {ts : List Token}
    (h : startsWord (· == w) ts = false) (g : Bool → Parse β) :
    (eatWord w >>= g) ts = g false ts :=
  bind_apply (by simp [eatWord, h])

theorem bracketed_apply {b : Bracket} {body : Parse α} {ts r : List Token} {x : α}
    (h : body ts = some (x, .closing b :: r)) :
    bracketed b body (.opening b :: ts) = some (x, r) := by
  have hopening : startsOpening b (.opening b :: ts) = true := by simp [startsOpening]
  unfold bracketed
  rw [bind_apply (x := ()) (r := .opening b :: ts) (by simp [require, hopening]), skip_bind,
    List.drop_one, List.tail_cons, bind_apply h]
  rw [bind_apply (x := ()) (r := .closing b :: r) (by simp [require])]
  rfl

end Parse

open Parse
open Piece (tokens)

/-! ## What stands around a type -/

/-- The tokens are at their end, or go on with a closing bracket or one of the marks `cs`. -/
def Ends (cs : List Char) (ts : List Token) : Prop :=
  ∀ t ∈ ts.head?, (∃ b, t = .closing b) ∨ ∃ c ∈ cs, ∃ joint, t = .mark c joint

namespace Ends

variable {cs ds : List Char} {ts : List Token}

theorem nil : Ends cs [] := by simp [Ends]

theorem closing (b : Bracket) (ts : List Token) : Ends cs (.closing b :: ts) := by simp [Ends]

theorem mark {c : Char} (hc : c ∈ cs) (joint : Bool) (ts : List Token) :
    Ends cs (.mark c joint :: ts) := by
  rintro _ ⟨⟩
  exact .inr ⟨c, hc, joint, rfl⟩

theorem mono (h : Ends cs ts) (hsubset : cs ⊆ ds) : Ends ds ts := by
  intro t ht
  rcases h t ht with hclosing | ⟨c, hc, hmark⟩
  · exact .inl hclosing
  · exact .inr ⟨c, hsubset hc, hmark⟩

theorem startsMarks (h : Ends cs ts) {c : Char} (hc : c ∉ cs) (ds : List Char) :
    startsMarks (c :: ds) ts = false := by
  refine startsMarks_eq_false (fun joint hhead => ?_) ds
  rcases h _ hhead with ⟨b, hb⟩ | ⟨d, hd, joint', hmark⟩
  · cases hb
  · cases hmark
    exact hc hd

theorem startsOpening (h : Ends cs ts) (b : Bracket) : startsOpening b ts = false := by
  unfold Parse.startsOpening
  split
  · rcases h _ rfl with ⟨b, hb⟩ | ⟨c, -, joint, hmark⟩
    · cases hb
    · cases hmark
  · rfl

end Ends

theorem PathWord.ne {w k : String} (h : PathWord w) (hname : isName k = false)
    (hpath : k ∉ pathKeywords) : w ≠ k := by
  rintro rfl
  rcases h.2 with h | h
  · rw [hname] at h
    cases h
  · exact hpath h

inductive StartsPath : List Token → Prop
  | word {w : String} {ts : List Token} (hw : PathWord w) : StartsPath (.word w :: ts)
  | rooted {joint : Bool} {w : String} {ts : List Token} (hw : PathWord w) :
    StartsPath (.mark ':' true :: .mark ':' joint :: .word w :: ts)

inductive Starts : List Token → Prop
  | path {ts : List Token} (h : StartsPath ts) : Starts ts
  | round {ts : List Token} : Starts (.opening .round :: ts)
  | square {ts : List Token} : Starts (.opening .square :: ts)

theorem StartsPath.startsOpening {ts : List Token} (h : StartsPath ts) (b : Bracket) :
    startsOpening b ts = false := by
  cases h <;> rfl

theorem StartsPath.startsPath {ts : List Token} (h : StartsPath ts) :
    (startsPathWord ts || startsMarks [':', ':'] ts) = true := by
  cases h with
  | @word w ts hw =>
    have hword : startsPathWord (.word w :: ts) = true := by
      simpa [startsPathWord, startsWord] using hw.2
    rw [hword, Bool.true_or]
  | rooted => rfl

namespace Starts

variable {ts : List Token}

theorem startsMarks (h : Starts ts) {c : Char} (hc : c ≠ ':') (cs : List Char) :
    startsMarks (c :: cs) ts = false := by
  refine startsMarks_eq_false (fun joint hhead => ?_) cs
  rcases h with ⟨_ | _⟩ | _ | _ <;> cases hhead
  exact hc rfl

theorem startsWord (h : Starts ts) {p : String → Bool} (hp : ∀ w, PathWord w → p w = false) :
    startsWord p ts = false := by
  rcases h with ⟨hw | _⟩ | _ | _
  · exact hp _ hw
  all_goals rfl

theorem startsKeyword (h : Starts ts) {keyword : String} (hname : isName keyword = false)
    (hpath : keyword ∉ pathKeywords) : Parse.startsWord (· == keyword) ts = false :=
  h.startsWord fun w hw => by simpa using hw.ne hname hpath

theorem atEnd (h : Starts ts) : atEnd ts = false := by rcases h with ⟨_ | _⟩ | _ | _ <;> rfl

theorem startsLifetime (h : Starts ts) : startsLifetime ts = false := by
  rcases h with ⟨_ | _⟩ | _ | _ <;> rfl

theorem startsConst (h : Starts ts) : Nested.startsConst ts = false := by
  rcases h with ⟨hw | _⟩ | _ | _
  · have htrue := hw.ne (k := "true") (by decide) (by decide)
    have hfalse := hw.ne (k := "false") (by decide) (by decide)
    simp [Nested.startsConst, startsLiteral, startsOpening, htrue, hfalse]
  all_goals rfl

end Starts

/-! ## Items behind each other -/

theorem length_tokens_append (ps qs : List Piece) :
    (tokens (ps ++ qs)).length = (tokens ps).length + (tokens qs).length := by
  induction ps with
  | nil => simp [tokens]
  | cons p ps ih =>
    cases p <;> simp only [List.cons_append, tokens, List.length_cons, ih] <;> omega

section Separated

variable {α β : Type} {f : α → List Piece} {g : α → β} {sep last : List Piece} {a : α}
  {rest : List α} {item : Parse (β × Bool)}

theorem manyWithin_separated
    (hmore : ∀ b ∈ a :: rest, ∀ c ∈ rest, ∀ ps,
      item (tokens (f b ++ (sep ++ (f c ++ ps)))) = some ((g b, true), tokens (f c ++ ps)))
    (hlast : ∀ b ∈ a :: rest, item (tokens (f b ++ last)) = some ((g b, false), tokens last))
    {n : Nat} (hn : rest.length < n) :
    Reading.manyWithin item n (tokens (f a ++ ((rest.flatMap fun b => sep ++ f b) ++ last))) =
      some (g a :: rest.map g, tokens last) := by
  induction rest generalizing a n with
  | nil =>
    obtain ⟨n, rfl⟩ : ∃ m, n = m + 1 := ⟨n - 1, by omega⟩
    rw [List.flatMap_nil, List.nil_append, Reading.manyWithin,
      bind_apply (hlast a List.mem_cons_self)]
    rfl
  | cons b rest ih =>
    rw [List.length_cons] at hn
    obtain ⟨n, rfl⟩ : ∃ m, n = m + 1 := ⟨n - 1, by omega⟩
    have hfirst := hmore a List.mem_cons_self b List.mem_cons_self
      ((rest.flatMap fun b => sep ++ f b) ++ last)
    have hrest := ih (a := b) (n := n)
      (fun c hc d hd => hmore c (List.mem_cons_of_mem _ hc) d (List.mem_cons_of_mem _ hd))
      (fun c hc => hlast c (List.mem_cons_of_mem _ hc)) (by omega)
    rw [List.flatMap_cons, List.append_assoc, List.append_assoc, Reading.manyWithin,
      bind_apply hfirst]
    show ((Reading.manyWithin item n >>= fun xs => pure (g a :: xs)) : Parse (List β)) _ = _
    rw [bind_apply hrest]
    rfl

theorem many_separated
    (hmore : ∀ b ∈ a :: rest, ∀ c ∈ rest, ∀ ps,
      item (tokens (f b ++ (sep ++ (f c ++ ps)))) = some ((g b, true), tokens (f c ++ ps)))
    (hlast : ∀ b ∈ a :: rest, item (tokens (f b ++ last)) = some ((g b, false), tokens last))
    (hsep : 0 < (tokens sep).length) :
    many item (tokens (f a ++ ((rest.flatMap fun b => sep ++ f b) ++ last))) =
      some (g a :: rest.map g, tokens last) := by
  refine manyWithin_separated hmore hlast ?_
  have hlength : rest.length ≤ (tokens (rest.flatMap fun b => sep ++ f b)).length := by
    clear hmore hlast
    induction rest with
    | nil => simp
    | cons b rest ih =>
      rw [List.flatMap_cons, length_tokens_append, length_tokens_append, List.length_cons]
      omega
  rw [length_tokens_append, length_tokens_append]
  omega

end Separated

theorem many_commas {α β : Type} {f : α → List Piece} {g : α → β} {a : α} {rest : List α}
    {item : Parse β} (stop : List Token → Bool) (last : List Piece)
    (hitem : ∀ b ∈ a :: rest, ∀ ps, Ends [',', '>'] (tokens ps) →
      item (tokens (f b ++ ps)) = some (g b, tokens ps))
    (hstart : ∀ b ∈ a :: rest, ∀ ps, stop (tokens (f b ++ ps)) = false)
    (hcomma : ∀ joint ts, stop (.mark ',' joint :: ts) = false)
    (hlast : stop (tokens last) = true) (hends : Ends [',', '>'] (tokens last)) :
    many (do
      let x ← item
      if ← peek stop then
        return (x, false)
      else
        marks [',']
        return (x, !(← peek stop)))
      (tokens (f a ++ ((rest.flatMap fun b => Piece.comma ++ f b) ++ last))) =
      some (g a :: rest.map g, tokens last) := by
  refine many_separated (fun b hb c hc ps => ?_) (fun b hb => ?_) (by decide)
  · have hx := hitem b hb (Piece.comma ++ (f c ++ ps)) (.mark (by decide) _ _)
    have hnext := hstart c (List.mem_cons_of_mem _ hc) ps
    have hsep : tokens (Piece.comma ++ (f c ++ ps)) = .mark ',' false :: tokens (f c ++ ps) := rfl
    rw [bind_apply hx, peek_bind, hsep, hcomma, if_neg Bool.false_ne_true, marks_mark_bind,
      peek_bind, hnext]
    rfl
  · rw [bind_apply (hitem b hb last hends), peek_bind, hlast]
    rfl

end Buildwright.TypeExpr
