/-!
# Values of configuration text

The values that TOML text denotes, each with its place in the text.
-/

namespace Buildwright.Toml

structure Span where
  start : Nat
  length : Nat
deriving Repr, DecidableEq, Inhabited

structure Key where
  name : String
  span : Span
deriving Repr, DecidableEq, Inhabited

inductive Float where
  | decimal (negative : Bool) (digits : Nat) (exponent : Int)
  | infinity (negative : Bool)
  | nan
deriving Repr, DecidableEq, Inhabited

inductive Value where
  | text (s : String)
  /-- An integer; digits that form no number count as one that is too large. -/
  | integer (n : Option Int)
  | float (f : Float)
  | boolean (b : Bool)
  /-- A date, a time or both. -/
  | moment
  | array (items : List (Span × Value))
  /-- Entries in the order of the text, their keys all different. -/
  | table (entries : List (Key × Span × Value))
deriving Repr, Inhabited

end Buildwright.Toml
