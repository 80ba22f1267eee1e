/-!
# Runs that may fail

A run of several steps gives a result if and only if every step does. The first fault is that of the
first step that has one.
-/

namespace Buildwright

theorem bind_eq_ok {x : Except ε α} {f : α → Except ε β} {b : β} :
    x >>= f = .ok b ↔ ∃ a, x = .ok a ∧ f a = .ok b := by
  cases x with
  | error e =>
    constructor
    · intro h
      cases h
    · rintro ⟨a, ha, _⟩
      cases ha
  | ok a =>
    constructor
    · intro h
      exact ⟨a, rfl, h⟩
    · rintro ⟨a', ha, h⟩
      cases ha
      exact h

theorem bind_eq_error {x : Except ε α} {f : α → Except ε β} {e : ε} :
    x >>= f = .error e ↔ x = .error e ∨ ∃ a, x = .ok a ∧ f a = .error e := by
  cases x with
  | error e' =>
    show Except.error e' = Except.error e ↔ _
    simp
  | ok a =>
    show f a = Except.error e ↔ _
    simp

/-- Steps for one item after the other fail at the first item whose step does. -/
theorem forM_eq_error {f : α → Except ε Unit} {as : List α} {e : ε} (h : as.forM f = .error e) :
    ∃ before a after, as = before ++ a :: after ∧ (∀ b ∈ before, f b = .ok ()) ∧
      f a = .error e := by
  induction as with
  | nil => cases h
  | cons a as ih =>
    have hsteps : (f a >>= fun _ => as.forM f) = .error e := h
    obtain ha | ⟨⟨⟩, ha, has⟩ := bind_eq_error.1 hsteps
    · exact ⟨[], a, as, rfl, List.forall_mem_nil _, ha⟩
    · obtain ⟨before, b, after, rfl, hbefore, hb⟩ := ih has
      exact ⟨a :: before, b, after, rfl, List.forall_mem_cons.2 ⟨ha, hbefore⟩, hb⟩

theorem findSome?_cons_eq_or (f : α → Option β) (a : α) (as : List α) :
    (a :: as).findSome? f = (f a).or (as.findSome? f) := by
  rw [List.findSome?_cons]
  cases f a <;> rfl

theorem findSome?_flatMap (f : β → Option γ) (g : α → List β) (as : List α) :
    (as.flatMap g).findSome? f = as.findSome? fun a => (g a).findSome? f := by
  induction as with
  | nil => rfl
  | cons a as ih => rw [List.flatMap_cons, List.findSome?_append, ih, findSome?_cons_eq_or]

def barring (fault? : Option ε) (a : α) : Except ε α := fault?.elim (.ok a) .error

theorem barring_eq_ok {fault? : Option ε} {a b : α} :
    barring fault? a = .ok b ↔ fault? = none ∧ b = a := by
  cases fault? with
  | none => simp [barring, eq_comm]
  | some e => simp [barring]

theorem barring_eq_error {fault? : Option ε} {a : α} {e : ε} :
    barring fault? a = .error e ↔ fault? = some e := by
  cases fault? <;> simp [barring]

theorem mapError_barring (fault? : Option ε) (a : α) (f : ε → ε') :
    (barring fault? a).mapError f = barring (fault?.map f) a := by
  cases fault? <;> rfl

theorem bind_eq_barring {x : Except ε α} {f : α → Except ε β} {fault? fault'? : Option ε} {a : α}
    {b : β} (hx : x = barring fault? a) (hf : f a = barring fault'? b) :
    x >>= f = barring (fault?.or fault'?) b := by
  rw [hx]
  cases fault? with
  | none => exact hf
  | some e => rfl

theorem map_eq_barring {x : Except ε α} {f : α → β} {fault? : Option ε} {a : α}
    (hx : x = barring fault? a) : (do return f (← x)) = barring fault? (f a) := by
  rw [hx]
  cases fault? <;> rfl

/-- Steps for one item after the other: the first fault is that of the first item that has one. -/
theorem mapM_eq_barring {f : α → Except ε β} {fault? : α → Option ε} {g : α → β} {as : List α}
    (h : ∀ a ∈ as, f a = barring (fault? a) (g a)) :
    as.mapM f = barring (as.findSome? fault?) (as.map g) := by
  induction as with
  | nil => rfl
  | cons a as ih =>
    obtain ⟨ha, has⟩ := List.forall_mem_cons.1 h
    rw [findSome?_cons_eq_or, List.mapM_cons]
    exact bind_eq_barring ha (map_eq_barring (f := (g a :: ·)) (ih has))

theorem map_eq_ok {x : Except ε α} {f : α → β} {b : β} :
    x.map f = .ok b ↔ ∃ a, x = .ok a ∧ f a = b := by
  cases x with
  | error e => exact ⟨nofun, nofun⟩
  | ok a => simp [Except.map]

theorem mapError_eq_ok {x : Except ε α} {f : ε → ε'} {a : α} :
    x.mapError f = .ok a ↔ x = .ok a := by
  cases x with
  | error e => constructor <;> intro h <;> cases h
  | ok a => constructor <;> intro h <;> cases h <;> rfl

end Buildwright
