import Buildwright.Manifest
import Buildwright.Source.BuilderCode

/-!
# The file of all builders

All builders of a manifest go into one file, under a header and the configured imports.
-/

namespace Buildwright.Source

def header : String := "// Generated by callbuilder. Do not edit."

/-- The name of the emitted language, and what its files end with. -/
def language : String × String := ("rust", "rs")

/-- Two builders of one type name: the name, and what the two are made for. -/
structure Collision where
  typeName : String
  first : SignatureKey
  second : SignatureKey
deriving Repr, DecidableEq, Inhabited

def Collision.message (c : Collision) : String :=
  s!"builder name '{c.typeName}' is generated by both {c.first.text} and {c.second.text}"

/-- The first builder whose type name is that of an earlier one, given the earlier ones. -/
def collisionAfter (seen : List (String × SignatureKey)) : List Builder → Option Collision
  | [] => none
  | b :: rest =>
    match seen.lookup (typeName b.name) with
    | some first => some ⟨typeName b.name, first, b.source⟩
    | none => collisionAfter ((typeName b.name, b.source) :: seen) rest

def collision? (builders : List Builder) : Option Collision := collisionAfter [] builders

/-- The text of the file, whether or not type names collide. -/
def fileText (config : GeneratorConfig) (builders : List Builder) : String :=
  File.renderUnder
    { uses := config.uses
      items := builders.map fun b => (layOut b config.deriveDebug).fragments }
    header

/-- A file to be written: its path below the output directory, and its content. -/
structure Emitted where
  path : String
  content : String
deriving Repr, DecidableEq, Inhabited

def emit (config : GeneratorConfig) (builders : List Builder) : Except Collision Emitted :=
  match collision? builders with
  | some c => .error c
  | none => .ok ⟨config.file, fileText config builders⟩

end Buildwright.Source
