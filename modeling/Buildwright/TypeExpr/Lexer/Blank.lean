import Buildwright.Text.Blank
import Buildwright.TypeExpr.Token

/-!
# Between the tokens

Blanks and plain comments separate tokens; a documentation comment stands for the attribute that it
abbreviates.
-/

namespace Buildwright.TypeExpr.Lexer

abbrev Step (α : Type) := List Char → Option (α × List Char)

def startsWith (start cs : List Char) : Bool := start.isPrefixOf cs

/-- Characters that mark text between blanks for the eye only. -/
def isSpace (c : Char) : Bool :=
  Text.isBlank c || c.toNat == 0x200e || c.toNat == 0x200f

/-- The text after a block comment that is open `depth` levels deep. -/
def afterBlock : Nat → List Char → Option (List Char)
  | 0, cs => some cs
  | _ + 1, [] => none
  | depth + 1, '*' :: '/' :: cs => afterBlock depth cs
  | depth + 1, '/' :: '*' :: cs => afterBlock (depth + 2) cs
  | depth + 1, _ :: cs => afterBlock (depth + 1) cs

def restOfLine : List Char → List Char × List Char
  | [] => ([], [])
  | '\n' :: cs => ([], '\n' :: cs)
  | '\r' :: '\n' :: cs => ([], '\r' :: '\n' :: cs)
  | c :: cs => let (line, rest) := restOfLine cs; (c :: line, rest)

def isLineDoc (cs : List Char) : Bool :=
  startsWith "//!".toList cs ||
    (startsWith "///".toList cs && !startsWith "////".toList cs)

def isBlockDoc (cs : List Char) : Bool :=
  startsWith "/*!".toList cs ||
    (startsWith "/**".toList cs && !startsWith "/***".toList cs && !startsWith "/**/".toList cs)

def blank? (cs : List Char) : Option (List Char) :=
  match cs with
  | '/' :: '/' :: rest => if isLineDoc cs then none else some (restOfLine rest).2
  | '/' :: '*' :: rest => if isBlockDoc cs then none else afterBlock 1 rest
  | c :: rest => if isSpace c then some rest else none
  | [] => none

def docTokens (inner : Bool) : List Token :=
  [.mark '#' false] ++ (if inner then [.mark '!' false] else []) ++
    [.opening .square, .word "doc", .mark '=' false, .literal .text, .closing .square]

/-- Every carriage return of the text stands before a line feed. -/
def noLoneReturn : List Char → Bool
  | [] => true
  | '\r' :: '\n' :: cs => noLoneReturn cs
  | '\r' :: _ => false
  | _ :: cs => noLoneReturn cs

def doc? (cs : List Char) : Option (List Token × List Char) :=
  let inner := startsWith "//!".toList cs || startsWith "/*!".toList cs
  if isLineDoc cs then
    let (line, rest) := restOfLine (cs.drop 3)
    if noLoneReturn line then some (docTokens inner, rest) else none
  else if isBlockDoc cs then
    (afterBlock 1 (cs.drop 2)).bind fun rest =>
      if noLoneReturn (cs.take (cs.length - rest.length)) then
        some (docTokens inner, rest)
      else
        none
  else
    none

end Buildwright.TypeExpr.Lexer
