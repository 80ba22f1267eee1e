/-!
# Joined texts
-/

namespace Buildwright.Text

/-- The items in order, with `sep` between two neighbours. -/
def joined (sep : String) : List String → String
  | [] => ""
  | [s] => s
  | s :: t :: rest => s ++ sep ++ joined sep (t :: rest)

/-- The items in order, each followed by a line break. -/
def lines (items : List String) : String :=
  items.foldr (fun s rest => s ++ "\n" ++ rest) ""

def repeated (n : Nat) (s : String) : String :=
  (List.replicate n s).foldr (· ++ ·) ""

def counted (n : Nat) (noun : String) : String :=
  if n == 1 then s!"{n} {noun}" else s!"{n} {noun}s"

@[simp] theorem joined_nil (sep : String) : joined sep [] = "" := rfl

@[simp] theorem joined_singleton (sep s : String) : joined sep [s] = s := rfl

theorem joined_cons_cons (sep s t : String) (rest : List String) :
    joined sep (s :: t :: rest) = s ++ sep ++ joined sep (t :: rest) := rfl

@[simp] theorem repeated_zero (s : String) : repeated 0 s = "" := rfl

theorem repeated_succ (n : Nat) (s : String) : repeated (n + 1) s = s ++ repeated n s := rfl

theorem repeated_add (m n : Nat) (s : String) :
    repeated (m + n) s = repeated m s ++ repeated n s := by
  induction m with
  | zero => simp
  | succ m ih => rw [Nat.add_right_comm, repeated_succ, repeated_succ, ih, String.append_assoc]

end Buildwright.Text
