import Buildwright.Text.Join

/-!
# Paths

A path is kept and shown as it is written. Only its pieces between the slashes say where it leads.
-/

namespace Buildwright

structure Path where
  text : String
deriving Repr, DecidableEq, Inhabited

namespace Path

def splitSlashes : List Char → List (List Char)
  | [] => [[]]
  | c :: rest =>
    if c = '/' then [] :: splitSlashes rest
    else
      match splitSlashes rest with
      | [] => [[c]]
      | piece :: pieces => (c :: piece) :: pieces

def pieces (p : Path) : List String := (splitSlashes p.text.toList).map String.ofList

def isRooted (p : Path) : Bool := p.text.toList.head? == some '/'

/-- The path seen from a base; a rooted one stays as it is. -/
def join (base p : Path) : Path :=
  if p.isRooted || base.text.isEmpty then p
  else if base.text.toList.getLast? == some '/' then ⟨base.text ++ p.text⟩
  else ⟨base.text ++ "/" ++ p.text⟩

def endsInDot (p : Path) : Bool := (p.pieces.filter (!·.isEmpty)).getLast? == some "."

/-- Pieces without those at the end that lead nowhere. -/
def trimmed : List String → List String
  | [] => []
  | piece :: rest =>
    match trimmed rest with
    | [] => if piece.isEmpty || piece == "." then [] else [piece]
    | rest => piece :: rest

/-- The path of what the last piece stands in; the empty path and the root stand in nothing. -/
def parent? (p : Path) : Option Path :=
  match p.pieces with
  | [] => none
  | first :: rest =>
    match trimmed rest with
    | [] => if first.isEmpty then none else some ⟨""⟩
    | rest =>
      match trimmed rest.dropLast with
      | [] => some ⟨if first.isEmpty then "/" else first⟩
      | rest => some ⟨Text.joined "/" (first :: rest)⟩

end Path

end Buildwright
