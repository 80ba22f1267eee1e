import Buildwright.Toml.Value

/-!
# Tables under construction

Keys and headers fill one tree of tables. A table remembers how it came about, for that decides who
may still add to it: a header may define a table that was only implied by the headers of its
subtables, and dotted keys may only add to tables that dotted keys made.
-/

namespace Buildwright.Toml

/-- How a table came about. -/
inductive Origin where
  /-- It has a header, is the whole text, or stands between curly brackets. -/
  | defined
  /-- Only headers of tables below it name it. -/
  | implied
  /-- Dotted keys made it. -/
  | dotted
deriving Repr, DecidableEq

/-- What a key leads to. -/
inductive Item where
  | value (span : Span) (v : Value)
  | table (span : Span) (origin : Origin) (entries : List (Key × Item))
  /-- Tables that share one name, each with a header of its own. -/
  | tables (span : Span) (elems : List (Span × List (Key × Item)))

abbrev Entries := List (Key × Item)

namespace Entries

def get? (entries : Entries) (name : String) : Option Item :=
  (List.find? (fun e => e.1.name == name) entries).map (·.2)

/-- Puts the item under the key, in the place of what was there. -/
def put (entries : Entries) (key : Key) (item : Item) : Entries :=
  if (entries.get? key.name).isSome then
    entries.map fun e => if e.1.name == key.name then (e.1, item) else e
  else
    entries ++ [(key, item)]

/-- Changes the table at the end of a path. Tables on the way are made where there are none; the
last one of several tables stands for all of them. -/
def change (dotted : Bool) (f : Origin → Entries → Option Entries) :
    List Key → Origin → Entries → Option Entries
  | [], origin, entries => f origin entries
  | key :: path, _, entries =>
    match entries.get? key.name with
    | none =>
      let origin : Origin := if dotted then .dotted else .implied
      (change dotted f path origin []).map fun inner =>
        entries.put key (.table key.span origin inner)
    | some (.table span origin inner) =>
      if dotted && origin == .defined then
        none
      else
        (change dotted f path origin inner).map fun inner =>
          entries.put key (.table span origin inner)
    | some (.tables span elems) =>
      match elems.getLast? with
      | some (last, inner) =>
        (change dotted f path .defined inner).map fun inner =>
          entries.put key (.tables span (elems.dropLast ++ [(last, inner)]))
      | none => none
    | some (.value ..) => none

/-- Adds a value under a free key. Behind dots it has to go into a table that dots made, and without
them into one that they did not. -/
def addValue (path : List Key) (key : Key) (span : Span) (v : Value) (origin : Origin)
    (entries : Entries) : Option Entries :=
  change true (fun origin entries =>
    if (origin == .dotted) != path.isEmpty && (entries.get? key.name).isNone then
      some (entries.put key (.value span v))
    else
      none) path origin entries

/-- Defines the table of a header, which has to be new or only implied. -/
def define (path : List Key) (key : Key) (span : Span) (entries : Entries) : Option Entries :=
  change false (fun _ entries =>
    match entries.get? key.name with
    | none => some (entries.put key (.table span .defined []))
    | some (.table _ .implied inner) => some (entries.put key (.table span .defined inner))
    | some _ => none) path .defined entries

/-- Adds one more table under a name that only such tables have. -/
def extend (path : List Key) (key : Key) (span : Span) (entries : Entries) : Option Entries :=
  change false (fun _ entries =>
    match entries.get? key.name with
    | none => some (entries.put key (.tables span [(span, [])]))
    | some (.tables first elems) => some (entries.put key (.tables first (elems ++ [(span, [])])))
    | some _ => none) path .defined entries

end Entries

namespace Item

mutual

/-- The value of a finished item, with its place. -/
def close : Item → Span × Value
  | .value span v => (span, v)
  | .table span _ entries => (span, .table (closeEntries entries))
  | .tables span elems => (span, .array (closeElems elems))

def closeEntries : List (Key × Item) → List (Key × Span × Value)
  | [] => []
  | (key, item) :: rest => (key, item.close) :: closeEntries rest

def closeElems : List (Span × List (Key × Item)) → List (Span × Value)
  | [] => []
  | (span, entries) :: rest => (span, .table (closeEntries entries)) :: closeElems rest

end

end Item

/-- A line of configuration text. -/
inductive Statement where
  | entry (path : List Key) (span : Span) (v : Value)
  /-- A header; `many` if its table is one of several under the same name. -/
  | header (many : Bool) (path : List Key) (span : Span)

/-- The tables so far, and the path of the one that the last header named. -/
structure Draft where
  entries : Entries
  current : List Key

namespace Draft

def empty : Draft := ⟨[], []⟩

def add (d : Draft) : Statement → Option Draft
  | .entry path span v =>
    match path.getLast? with
    | some key => do
      let entries ← Entries.change false (Entries.addValue path.dropLast key span v) d.current
        .defined d.entries
      return { d with entries }
    | none => none
  | .header many path span =>
    match path.getLast? with
    | some key => do
      let entries ←
        if many then d.entries.extend path.dropLast key span
        else d.entries.define path.dropLast key span
      return ⟨entries, path⟩
    | none => none

end Draft

def tableOf (statements : List Statement) : Option (List (Key × Span × Value)) :=
  (statements.foldlM Draft.add .empty).map fun d => Item.closeEntries d.entries

end Buildwright.Toml
