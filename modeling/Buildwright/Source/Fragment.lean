import Buildwright.Text.Join

/-!
# Fragments of source text

Source text is put together from nested fragments by a writer that knows how deep it is in them.
-/

namespace Buildwright.Source

/-- A piece of source text, independent of where it stands. -/
inductive Fragment where
  | line (text : String)
  /-- A line of documentation. -/
  | doc (text : String)
  | blank
  /-- A header line, an indented body, and a closing line if there is one. -/
  | block (header : String) (body : List Fragment) (close : Option String)
deriving Inhabited

def Fragment.braced (header : String) (body : List Fragment) : Fragment :=
  .block header body (some "\x7d")

/-- The text written so far, and the level of the next line. -/
structure Writer where
  text : String
  level : Nat
deriving Inhabited

namespace Writer

def empty : Writer := ⟨"", 0⟩

def indent (level : Nat) : String := Text.repeated level "    "

def pushLine (w : Writer) (s : String) : Writer :=
  { w with text := w.text ++ indent w.level ++ s ++ "\n" }

def pushBlank (w : Writer) : Writer := { w with text := w.text ++ "\n" }

def deeper (w : Writer) : Writer := { w with level := w.level + 1 }

def shallower (w : Writer) : Writer := { w with level := w.level - 1 }

mutual

def apply (w : Writer) : Fragment → Writer
  | .line s => w.pushLine s
  | .doc s => w.pushLine ("/// " ++ s)
  | .blank => w.pushBlank
  | .block header body close =>
    let w := (applyAll (w.pushLine header).deeper body).shallower
    match close with
    | some s => w.pushLine s
    | none => w

def applyAll (w : Writer) : List Fragment → Writer
  | [] => w
  | f :: rest => applyAll (w.apply f) rest

end

end Writer

def render (fragments : List Fragment) : String := (Writer.empty.applyAll fragments).text

end Buildwright.Source
