import Buildwright.Text.Occurrence
import Buildwright.Toml.Value

/-!
# Places of names in a manifest's text

A decoded manifest has lost where its names stood, so a name's place is looked for in the text.
-/

namespace Buildwright.Manifest

open Toml (Span)

/-- How a name may stand in the text, and how many bytes stand before it there. The ways are listed
by preference. -/
def namePatterns (name : String) : List (String × Nat) :=
  [("name = \"" ++ name ++ "\"", 8), ("name = '" ++ name ++ "'", 8),
    ("name=\"" ++ name ++ "\"", 6), ("\"" ++ name ++ ":", 1), ("\"" ++ name ++ "\"", 1)]

/-- The first place of the first pattern that occurs at all. -/
def placeOfName (source name : String) : Option Span :=
  (namePatterns name).findSome? fun (pattern, skip) =>
    (Text.occurrences pattern source).head?.map fun start => ⟨start + skip, name.utf8ByteSize⟩

/-- All places where the name stands before a colon at the start of a string. -/
def placesOfArgument (source name : String) : List Span :=
  (Text.occurrences ("\"" ++ name ++ ":") source).map fun start => ⟨start + 1, name.utf8ByteSize⟩

/-- All places where the name is a string or stands before a colon at the start of one. -/
def placesOfGeneric (source name : String) : List Span :=
  let starts := Text.occurrences ("\"" ++ name ++ "\"") source ++
    Text.occurrences ("\"" ++ name ++ ":") source
  starts.mergeSort.map fun start => ⟨start + 1, name.utf8ByteSize⟩

end Buildwright.Manifest
