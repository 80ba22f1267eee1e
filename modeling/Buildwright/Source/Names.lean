import Buildwright.Text.Casing

/-!
# Names in the emitted source

Types are in pascal case, methods and fields in snake case. A name that comes out as a reserved
word is written as a raw identifier.
-/

namespace Buildwright.Source

def reservedWords : List String :=
  ["as", "async", "await", "break", "const", "continue", "dyn", "else", "enum", "extern",
    "false", "fn", "for", "gen", "if", "impl", "in", "let", "loop", "match", "mod", "move",
    "mut", "pub", "ref", "return", "static", "struct", "trait", "true", "type", "unsafe",
    "use", "where", "while", "abstract", "become", "box", "do", "final", "macro", "override",
    "priv", "try", "typeof", "unsized", "virtual", "yield"]

def isReserved (name : String) : Bool := reservedWords.contains name

def safeName (name : String) : String :=
  if isReserved name then "r#" ++ name else name

def typeName (name : String) : String := safeName (Text.pascal name)

def methodName (name : String) : String := safeName (Text.snake name)

def fieldName (name : String) : String := safeName (Text.snake name)

end Buildwright.Source
