import Buildwright.Decimal.Double
import Buildwright.Text.Quoted
import Buildwright.Toml.Value

/-!
# Decoding configuration values

A decoder turns a value into data, or tells what is wrong and where. Tables are read key by key in
the order of the keys; the first thing that is wrong counts.
-/

namespace Buildwright.Toml

/-- What is wrong with a value; `ε` is for texts that are no such thing as they should be. -/
inductive Cause (ε : Type) where
  | wrongType (found expected : String)
  | missingField (name : String)
  | unknownField (name : String) (expected : List String)
  | unknownVariant (name : String) (expected : List String)
  | wrongLength (length : Nat) (expected : String)
  | integerOverflow
  | floatOverflow
  | noVariant
  | variantCount (several : Bool)
  | variantNotEmpty (isTable : Bool)
  | variantNoTable (found : String)
  | text (e : ε)
deriving Repr, DecidableEq

namespace Cause

def alternatives (names : List String) : String :=
  match names with
  | [] => "there are no fields"
  | [a] => s!"expected `{a}`"
  | [a, b] => s!"expected `{a}` or `{b}`"
  | _ => "expected one of " ++ Text.joined ", " (names.map fun n => s!"`{n}`")

def message (textMessage : ε → String) : Cause ε → String
  | .wrongType found expected => s!"invalid type: {found}, expected {expected}"
  | .missingField name => s!"missing field `{name}`"
  | .unknownField name expected => s!"unknown field `{name}`, {alternatives expected}"
  | .unknownVariant name expected => s!"unknown variant `{name}`, {alternatives expected}"
  | .wrongLength length expected => s!"invalid length {length}, expected {expected}"
  | .integerOverflow => "integer number overflowed"
  | .floatOverflow => "floating-point number overflowed"
  | .noVariant => "wanted string or table"
  | .variantCount several =>
    if several then "wanted exactly 1 element, more than 1 element"
    else "wanted exactly 1 element, found 0 elements"
  | .variantNotEmpty isTable => if isTable then "expected empty table" else "expected empty array"
  | .variantNoTable found => s!"expected table, found {found}"
  | .text e => textMessage e

end Cause

structure Fault (ε : Type) where
  cause : Cause ε
  place : Option Span
deriving Repr, DecidableEq

abbrev Decoded (ε α : Type) := Except (Fault ε) α

abbrev Decoder (ε α : Type) := Span × Value → Decoded ε α

namespace Decoder

def fail (cause : Cause ε) : Decoded ε α := .error ⟨cause, none⟩

def placed (span : Span) (r : Decoded ε α) : Decoded ε α :=
  r.mapError fun fault => { fault with place := some (fault.place.getD span) }

def typeName : Value → String
  | .text _ => "string"
  | .integer _ => "integer"
  | .float _ => "float"
  | .boolean _ => "boolean"
  | .moment => "datetime"
  | .array _ => "array"
  | .table _ => "table"

def isNarrow (n : Int) : Bool := -Int.pow 2 63 ≤ n && n < Int.pow 2 64

def isWide (n : Int) : Bool := -Int.pow 2 127 ≤ n && n < Int.pow 2 128

def overflow? : Value → Option (Cause ε)
  | .integer none => some .integerOverflow
  | .integer (some n) => if isWide n then none else some .integerOverflow
  | .float (.decimal _ digits exponent) =>
    match Decimal.nearest digits exponent with
    | .overflow => some .floatOverflow
    | .finite .. => none
  | _ => none

def integerWords (n : Int) : String :=
  if isNarrow n then s!"integer `{n}`"
  else if n < Int.pow 2 127 then s!"integer `{n}` as i128"
  else s!"integer `{n}` as u128"

def floatWords (f : Float) : String :=
  let minus (negative : Bool) : String := if negative then "-" else ""
  match f with
  | .nan => "floating point `NaN`"
  | .infinity negative => s!"floating point `{minus negative}inf`"
  | .decimal negative digits exponent =>
    match Decimal.nearest digits exponent with
    | .overflow => s!"floating point `{minus negative}inf`"
    | .finite m e =>
      let (ds, k) := Decimal.shortest m e
      s!"floating point `{minus negative}{Decimal.positional ds k}`"

def words : Value → String
  | .text s => "string " ++ Text.quoted s
  | .integer n => integerWords (n.getD 0)
  | .float f => floatWords f
  | .boolean b => s!"boolean `{b}`"
  | .moment => "map"
  | .array _ => "sequence"
  | .table _ => "map"

def wrong (v : Value) (expected : String) : Decoded ε α :=
  fail ((overflow? v).getD (.wrongType (words v) expected))

def text : Decoder ε String := fun (span, v) =>
  placed span <|
    match v with
    | .text s => .ok s
    | v => wrong v "a string"

def boolean : Decoder ε Bool := fun (span, v) =>
  placed span <|
    match v with
    | .boolean b => .ok b
    | v => wrong v "a boolean"

/-- A text read as something else. A fault in the reading has no place of its own. -/
def textAs (read : String → Except ε α) : Decoder ε α := fun node => do
  match read (← text node) with
  | .ok x => return x
  | .error e => fail (.text e)

def list (item : Decoder ε α) : Decoder ε (List α) := fun (span, v) =>
  placed span <|
    match v with
    | .array items => items.mapM item
    | v => wrong v "a sequence"

def optional (d : Decoder ε α) : Decoder ε (Option α) := fun node =>
  placed node.1 (some <$> d node)

/-- When a field may be left out: never, only where fields have names, or everywhere. -/
inductive Presence where
  | required
  | optional
  | defaulted
deriving DecidableEq

/-- A field of a record that is filled in step by step. -/
structure Field (ε ρ : Type) where
  name : String
  presence : Presence
  fill : Span × Value → ρ → Decoded ε ρ

def field (name : String) (presence : Presence) (d : Decoder ε α) (set : α → ρ → ρ) : Field ε ρ :=
  ⟨name, presence, fun node r => (d node).map fun x => set x r⟩

/-- The key that a date or time shows where a table is wanted. -/
def momentKey : String := "$__toml_private_datetime"

def insertByKey (key : α → String) (x : α) : List α → List α
  | [] => [x]
  | y :: rest => if key y < key x then y :: insertByKey key x rest else x :: y :: rest

def sortByKey (key : α → String) (xs : List α) : List α := xs.foldr (insertByKey key) []

theorem mem_insertByKey {key : α → String} {x y : α} {xs : List α} :
    y ∈ insertByKey key x xs ↔ y = x ∨ y ∈ xs := by
  induction xs with
  | nil => simp [insertByKey]
  | cons z rest ih =>
    rw [insertByKey]
    split
    · rw [List.mem_cons, ih, List.mem_cons, or_left_comm]
    · rw [List.mem_cons]

theorem mem_sortByKey {key : α → String} {y : α} {xs : List α} :
    y ∈ sortByKey key xs ↔ y ∈ xs := by
  induction xs with
  | nil => exact Iff.rfl
  | cons x rest ih => exact mem_insertByKey.trans ((or_congr_right ih).trans List.mem_cons.symm)

/-- The results for the entries of a table, in the order of their keys, up to the first fault. -/
def inOrder (results : List (String × Decoded ε Unit)) : Decoded ε Unit :=
  (sortByKey (·.1) results).forM (·.2)

mutual

/-- A value that nobody asks for is looked through all the same: its numbers have to fit. -/
def ignored (span : Span) : Value → Decoded ε Unit
  | .array items => ignoredItems items
  | .table entries => inOrder (ignoredEntries entries)
  | v =>
    match overflow? v with
    | none => .ok ()
    | some cause => placed span (fail cause)

def ignoredItems : List (Span × Value) → Decoded ε Unit
  | [] => .ok ()
  | (span, v) :: rest => do
    ignored span v
    ignoredItems rest

def ignoredEntries : List (Key × Span × Value) → List (String × Decoded ε Unit)
  | [] => []
  | (key, span, v) :: rest => (key.name, ignored span v) :: ignoredEntries rest

end

def fillEntries (fields : List (Field ε ρ)) (strict : Bool) :
    List (Key × Span × Value) → ρ → Decoded ε ρ
  | [], r => .ok r
  | (key, node) :: rest, r =>
    match fields.find? (·.name == key.name) with
    | some f => do
      let r ← placed node.1 (f.fill node r)
      fillEntries fields strict rest r
    | none =>
      if strict then
        placed key.span (fail (.unknownField key.name (fields.map (·.name))))
      else do
        ignored node.1 node.2
        fillEntries fields strict rest r

def fillItems (type : String) (count : Nat) : Nat → List (Field ε ρ) → List (Span × Value) → ρ →
    Decoded ε ρ
  | _, [], _, r => .ok r
  | i, f :: fields, node :: nodes, r => do
    fillItems type count (i + 1) fields nodes (← f.fill node r)
  | i, f :: fields, [], r =>
    if f.presence == .defaulted then fillItems type count (i + 1) fields [] r
    else fail (.wrongLength i s!"{type} with {count} elements")

/-- A record: a table of its fields, or an array of them. -/
def record (name : String) (fields : List (Field ε ρ)) (strict : Bool) (start : ρ) :
    Decoder ε ρ := fun (span, v) =>
  placed span <|
    match v with
    | .table entries => do
      let r ← fillEntries fields strict (sortByKey (·.1.name) entries) start
      match fields.find? fun f =>
          f.presence == .required && !(entries.any fun e => e.1.name == f.name) with
      | some f => fail (.missingField f.name)
      | none => return r
    | .array items => fillItems s!"struct {name}" fields.length 0 fields items start
    | .moment => fail (.unknownField momentKey (fields.map (·.name)))
    | v => wrong v s!"struct {name}"

/-- One of several named values: its name, or a table of the name alone with nothing in it. -/
def variant (variants : List (String × α)) : Decoder ε α := fun (span, v) =>
  let named (name : String) : Decoded ε α :=
    match variants.lookup name with
    | some x => .ok x
    | none => fail (.unknownVariant name (variants.map (·.1)))
  placed span <|
    match v with
    | .text s => named s
    | .table [] => fail (.variantCount false)
    | .table [(key, place, inner)] => do
      let x ← placed key.span (named key.name)
      match inner with
      | .table [] => return x
      | .array [] => return x
      | .table _ => placed place (fail (.variantNotEmpty true))
      | .array _ => placed place (fail (.variantNotEmpty false))
      | inner => placed place (fail (.variantNoTable (typeName inner)))
    | .table _ => fail (.variantCount true)
    | _ => fail .noVariant

end Decoder

end Buildwright.Toml
