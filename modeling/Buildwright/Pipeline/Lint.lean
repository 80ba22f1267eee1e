import Buildwright.Builder
import Buildwright.Pipeline.Diagnostic
import Buildwright.Text.Casing

/-!
# Lints

Checks on all builders together that do not stop anything.
-/

namespace Buildwright

structure Lint where
  name : String
  description : String
  check : List Builder → List Diagnostic

def validatePhase : String := "validate"

/-- Items under names. The names stand in the order in which they came, and so do the items of one
name. -/
abbrev Groups (α : Type) := List (String × List α)

/-- Puts an item behind those of its name. A new name comes last. -/
def Groups.add {α : Type} (name : String) (item : α) : Groups α → Groups α
  | [] => [(name, [item])]
  | (n, items) :: rest =>
    if n == name then (n, items ++ [item]) :: rest else (n, items) :: add name item rest

namespace Lint

def sourcesByName (builders : List Builder) : Groups SignatureKey :=
  builders.foldl (fun groups b => groups.add b.name b.source) []

def duplicateMessage (name : String) (first other : SignatureKey) : String :=
  s!"builder name '{name}' is generated by both {first.text} and {other.text}"

/-- One error for each source of a name but the first. -/
def duplicatesOf (name : String) : List SignatureKey → List Diagnostic
  | [] => []
  | first :: others =>
    others.map fun other =>
      ⟨.error, validatePhase, duplicateMessage name first other, some name⟩

/-- Finds builders of one name; names come in the order of their first builders. -/
def duplicateBuilder : Lint where
  name := "duplicate-builder"
  description := "Check that no two declarations generate the same builder name"
  check builders :=
    (sourcesByName builders).flatMap fun (name, sources) => duplicatesOf name sources

def terminalClash? (b : Builder) : Option String :=
  let terminal := Text.snake b.terminalName
  if terminal == "new" then some "the constructor"
  else if b.setters.any fun s => Text.snake s.name == terminal then some "a setter"
  else none

def clashMessage (b : Builder) (what : String) : String :=
  s!"terminal method '{b.terminalName}' of {b.name} clashes with {what}"

/-- Finds terminal methods whose name another method has. -/
def terminalName : Lint where
  name := "terminal-name"
  description := "Check that the terminal method does not clash with new or a setter"
  check builders := builders.filterMap fun b =>
    (terminalClash? b).map fun what =>
      ⟨.error, validatePhase, clashMessage b what, some b.source.text⟩

def all : List Lint := [duplicateBuilder, terminalName]

end Lint

end Buildwright
