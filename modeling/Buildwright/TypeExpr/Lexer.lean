import Buildwright.TypeExpr.Lexer.Literal

/-!
# From text to tokens

The lexeme at the front of the text is cut off until none is left; the brackets have to match.
-/

namespace Buildwright.TypeExpr

namespace Lexer

/-- Literals that a word character follows at once would have to continue. -/
def startsStringLiteral (cs : List Char) : Bool :=
  ["r\"", "r#\"", "r##", "b\"", "b'", "br\"", "br#", "c\"", "cr\"", "cr#"].any fun s =>
    startsWith s.toList cs

def name? (cs : List Char) : Option (String × List Char) :=
  match cs with
  | 'r' :: '#' :: rest =>
    match plainName? rest with
    | some (name, rest) =>
      if ["_", "super", "self", "Self", "crate"].contains name then
        none
      else
        some ("r#" ++ name, rest)
    | none => none
  | _ => plainName? cs

def markChars : List Char := "~!@#$%^&*-=+|;:,<.>/?'".toList

def startsMark (cs : List Char) : Bool :=
  match cs with
  | '/' :: '/' :: _ => false
  | '/' :: '*' :: _ => false
  | c :: _ => markChars.contains c
  | [] => false

/-- An apostrophe stands before a name which no further one closes, and no number sign either unless
the name is raw. What follows it is read on its own. -/
def startsLifetime (cs : List Char) : Bool :=
  match cs with
  | '\'' :: rest =>
    match name? rest with
    | some (_, after) =>
      !startsWith ['\''] after && (!startsWith ['#'] after || startsWith ['r', '#'] rest)
    | none => false
  | _ => false

def mark? (cs : List Char) : Option (Token × List Char) :=
  match cs with
  | '\'' :: rest => if startsLifetime cs then some (.apostrophe, rest) else none
  | c :: rest =>
    if startsMark cs then some (.mark c (startsMark rest), rest) else none
  | [] => none

/-- What is left where text could not be expanded; it counts as a literal. -/
def errorMark : List Char := "(/*ERROR*/)".toList

def bracket? : Char → Option Token
  | '(' => some (.opening .round)
  | '[' => some (.opening .square)
  | '\x7b' => some (.opening .curly)
  | ')' => some (.closing .round)
  | ']' => some (.closing .square)
  | '\x7d' => some (.closing .curly)
  | _ => none

def lexeme? (cs : List Char) : Option (List Token × List Char) :=
  match cs with
  | [] => none
  | c :: rest =>
    match doc? cs with
    | some result => some result
    | none =>
      if startsWith errorMark cs then some ([.literal .other], cs.drop errorMark.length)
      else
        match bracket? c with
        | some token => some ([token], rest)
        | none =>
          match literal? cs with
          | some (l, rest) => some ([.literal l], rest)
          | none =>
            match mark? cs with
            | some (token, rest) => some ([token], rest)
            | none =>
              if startsStringLiteral cs then none
              else (name? cs).map fun (name, rest) => ([.word name], rest)

/-- All tokens of a text; every step takes at least one character, so its length is enough. -/
def tokensWithin : Nat → List Char → Option (List Token)
  | _, [] => some []
  | 0, _ :: _ => none
  | n + 1, c :: cs =>
    match blank? (c :: cs) with
    | some rest => tokensWithin n rest
    | none =>
      match lexeme? (c :: cs) with
      | some (tokens, rest) => (tokensWithin n rest).map (tokens ++ ·)
      | none => none

/-- Brackets close in the order in which they were opened. -/
def balanced : List Bracket → List Token → Bool
  | open', [] => open'.isEmpty
  | open', .opening b :: rest => balanced (b :: open') rest
  | [], .closing _ :: _ => false
  | b :: open', .closing b' :: rest => b == b' && balanced open' rest
  | open', _ :: rest => balanced open' rest

end Lexer

/-- The tokens of a text with balanced brackets; a byte order mark in front is passed over. -/
def tokens? (s : String) : Option (List Token) :=
  let cs := match s.toList with
    | '\ufeff' :: cs => cs
    | cs => cs
  (Lexer.tokensWithin cs.length cs).filter (Lexer.balanced [])

end Buildwright.TypeExpr
