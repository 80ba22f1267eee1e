/-!
# Names that a manifest may give

A name is an ASCII letter or underscore followed by ASCII letters, digits and underscores; the
lone underscore and the keywords of the emitted language are no names.
-/

namespace Buildwright.Manifest

def keywords : List String :=
  ["as", "async", "await", "break", "const", "continue", "crate", "dyn", "else", "enum",
    "extern", "false", "fn", "for", "gen", "if", "impl", "in", "let", "loop", "match", "mod",
    "move", "mut", "pub", "ref", "return", "self", "Self", "static", "struct", "super", "trait",
    "true", "type", "unsafe", "use", "where", "while", "abstract", "become", "box", "do",
    "final", "macro", "override", "priv", "try", "typeof", "unsized", "virtual", "yield"]

def isKeyword (name : String) : Bool := keywords.contains name

def isNameStart (c : Char) : Bool := c.isAlpha || c == '_'

def isNameChar (c : Char) : Bool := c.isAlphanum || c == '_'

inductive NameFault where
  | keyword
  | empty
  | start
  | underscore
  | character
deriving Repr, DecidableEq

def NameFault.reason : NameFault → String
  | .keyword => "name is a Rust reserved keyword"
  | .empty => "name cannot be empty"
  | .start => "name must start with a letter or underscore"
  | .underscore => "'_' is not a usable name"
  | .character => "name must contain only letters, numbers, and underscores"

def nameFault? (name : String) : Option NameFault :=
  if isKeyword name then some .keyword
  else
    match name.toList with
    | [] => some .empty
    | c :: rest =>
      if !isNameStart c then some .start
      else if name == "_" then some .underscore
      else if !rest.all isNameChar then some .character
      else none

def isName (name : String) : Bool := (nameFault? name).isNone

end Buildwright.Manifest
