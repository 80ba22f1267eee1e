import Buildwright.Text.CaseTable

/-!
# Upper and lower case

Full case mapping, character by character, and the three name shapes built on it.
-/

namespace Buildwright.Text

/-- The upper case of a character, which may be several characters. -/
def upper (c : Char) : List Char :=
  if c.toNat < 0x80 then
    [c.toUpper]
  else
    match longUppers.lookup c.toNat with
    | some codes => codes.map Char.ofNat
    | none => [(upperSpans.findSome? (·.map? c.toNat)).getD c]

/-- The lower case of a character; only the dotted capital I needs two characters. -/
def lower (c : Char) : List Char :=
  if c.toNat < 0x80 then
    [c.toLower]
  else if c.toNat == 0x130 then
    ['i', Char.ofNat 0x307]
  else
    [(lowerSpans.findSome? (·.map? c.toNat)).getD c]

/-- A letter, number or symbol that is upper case. -/
def isUpper (c : Char) : Bool :=
  if c.toNat < 0x80 then c.isUpper else uppercaseSpans.any fun s => (s.map? c.toNat).isSome

def capitalizeChars : List Char → List Char
  | [] => []
  | c :: rest => upper c ++ rest

/-- The maximal runs without `sep`; there is always one. -/
def pieces (sep : Char) : List Char → List (List Char)
  | [] => [[]]
  | c :: rest =>
    if c = sep then
      [] :: pieces sep rest
    else
      match pieces sep rest with
      | [] => [[c]]
      | piece :: others => (c :: piece) :: others

/-- Pieces between underscores, each capitalized, put together. -/
def pascalChars (cs : List Char) : List Char :=
  (pieces '_' cs).flatMap capitalizeChars

/-- An inner character of a snake-case name: an upper-case one starts a new word. -/
def snakeInner (c : Char) : List Char :=
  if isUpper c then '_' :: lower c else lower c

def hyphenToUnderscore (c : Char) : Char :=
  if c = '-' then '_' else c

/-- Lower case, with an underscore before every upper-case character but the first one. -/
def snakeChars : List Char → List Char
  | [] => []
  | c :: rest => (lower c ++ rest.flatMap snakeInner).map hyphenToUnderscore

/-- `all_but_last` becomes `All_but_last`. -/
def capitalize (s : String) : String := String.ofList (capitalizeChars s.toList)

def pascal (s : String) : String := String.ofList (pascalChars s.toList)

def snake (s : String) : String := String.ofList (snakeChars s.toList)

end Buildwright.Text
