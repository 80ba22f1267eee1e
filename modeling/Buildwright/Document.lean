import Buildwright.Text.Join
import Buildwright.Text.Quoted

/-!
# Documents

Values without numbers, and the indented JSON text that shows them.
-/

namespace Buildwright

inductive Document where
  | null
  | flag (b : Bool)
  | text (s : String)
  | list (items : List Document)
  /-- Fields in the order in which they are shown. -/
  | record (fields : List (String × Document))
deriving Inhabited

namespace Document

def optional (f : α → Document) : Option α → Document
  | some x => f x
  | none => .null

def texts (items : List String) : Document := .list (items.map .text)

def stringChar (c : Char) : List Char :=
  if c = '"' then ['\\', '"']
  else if c = '\\' then ['\\', '\\']
  else if c = '\n' then ['\\', 'n']
  else if c = '\r' then ['\\', 'r']
  else if c = '\t' then ['\\', 't']
  else if c = '\x08' then ['\\', 'b']
  else if c = '\x0c' then ['\\', 'f']
  else if c.toNat < 0x20 then
    let digits := Text.hex c.toNat
    ['\\', 'u'] ++ List.replicate (4 - digits.length) '0' ++ digits
  else [c]

def stringText (s : String) : String :=
  String.ofList ('"' :: s.toList.flatMap stringChar ++ ['"'])

/-- The items one a line, two blanks further in than their brackets. -/
def indented (level : Nat) (opening closing : String) : List String → String
  | [] => opening ++ closing
  | items =>
    let pad := Text.repeated (level + 1) "  "
    opening ++ "\n" ++ Text.joined ",\n" (items.map (pad ++ ·)) ++ "\n" ++
      Text.repeated level "  " ++ closing

mutual

def prettyAt (level : Nat) : Document → String
  | .null => "null"
  | .flag b => if b then "true" else "false"
  | .text s => stringText s
  | .list items => indented level "[" "]" (prettyItems (level + 1) items)
  | .record fields => indented level "\x7b" "\x7d" (prettyFields (level + 1) fields)

def prettyItems (level : Nat) : List Document → List String
  | [] => []
  | d :: rest => prettyAt level d :: prettyItems level rest

def prettyFields (level : Nat) : List (String × Document) → List String
  | [] => []
  | (name, d) :: rest => (stringText name ++ ": " ++ prettyAt level d) :: prettyFields level rest

end

def pretty (d : Document) : String := prettyAt 0 d

end Document

end Buildwright
