/-!
# Tokens of type text

Words, marks, brackets and literals.
-/

namespace Buildwright.TypeExpr

inductive Bracket where
  | round
  | square
  | curly
deriving Repr, DecidableEq

inductive Literal where
  | integer (value : Nat) (suffix : String)
  /-- A number with a fraction or an exponent, as written. -/
  | decimal (written : String)
  /-- A string without prefix letter. -/
  | text
  | other
deriving Repr, DecidableEq

inductive Token where
  /-- A name, a keyword or the underscore; raw names keep their `r#`. -/
  | word (name : String)
  /-- A punctuation character; `joint` if another one follows at once. -/
  | mark (c : Char) (joint : Bool)
  /-- In front of a lifetime's name. -/
  | apostrophe
  | opening (b : Bracket)
  | closing (b : Bracket)
  | literal (l : Literal)
deriving Repr, DecidableEq

end Buildwright.TypeExpr
