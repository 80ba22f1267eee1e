import Buildwright.Gallery.Model
import Buildwright.Text.Join
import Buildwright.Text.Quoted

/-!
# The gallery's values

What the fields of the gallery's builders hold, and how it is shown.
-/

namespace Buildwright.Gallery

inductive Value where
  | int (i : Int)
  | text (s : String)
  | flag (b : Bool)
  | absent
  | present (v : Value)
  | list (items : List Value)
  | map (entries : List (String × Value))
  | record (fields : List (String × Value))
  | failure (e : NameFault)
deriving Inhabited

namespace Value

mutual

def display : Value → String
  | .int i => toString i
  | .text s => Text.quoted s
  | .flag b => if b then "true" else "false"
  | .absent => "None"
  | .present v => "Some(" ++ v.display ++ ")"
  | .list items => "[" ++ Text.joined ", " (displayItems items) ++ "]"
  | .map entries => "\x7b" ++ Text.joined ", " (displayEntries entries) ++ "\x7d"
  | .record fields => "\x7b " ++ Text.joined ", " (displayFields fields) ++ " \x7d"
  | .failure e => e.name

def displayItems : List Value → List String
  | [] => []
  | v :: rest => v.display :: displayItems rest

def displayEntries : List (String × Value) → List String
  | [] => []
  | (key, v) :: rest => (Text.quoted key ++ ": " ++ v.display) :: displayEntries rest

def displayFields : List (String × Value) → List String
  | [] => []
  | (name, v) :: rest => (name ++ ": " ++ v.display) :: displayFields rest

end

end Value

end Buildwright.Gallery
