import Buildwright.Reading
import Buildwright.Toml.Scalar
import Buildwright.Toml.Table

/-!
# Reading configuration text

The text is a sequence of statements, one a line: a key with its value, or a header that names the
table for the lines below it. Places are counted in bytes.
-/

namespace Buildwright.Toml

structure Cursor where
  rest : List Char
  /-- How many bytes stand before it. -/
  offset : Nat
  /-- How many bytes it has. -/
  left : Nat

def byteCount (cs : List Char) : Nat := cs.foldl (fun n c => n + c.utf8Size) 0

abbrev Read := Reading Cursor

namespace Read

def rest : Read (List Char) := fun c => some (c.rest, c)

def offset : Read Nat := fun c => some (c.offset, c)

/-- Goes on at `tail`, which stands behind `size` bytes. -/
def goTo (tail : List Char) (size : Nat) : Read Unit := fun c =>
  some ((), ⟨tail, c.offset + size, c.left - size⟩)

def skip (n : Nat) : Read Unit := do
  let cs ← rest
  goTo (cs.drop n) (byteCount (cs.take n))

def peek (c : Char) : Read Bool := fun cur => some (cur.rest.head? == some c, cur)

def require (b : Bool) : Read Unit := if b then pure () else failure

def char (c : Char) : Read Unit := do
  match ← rest with
  | d :: _ =>
    require (c == d)
    skip 1
  | [] => failure

/-- Takes the character if it comes next, and tells whether it did. -/
def eat (c : Char) : Read Bool := do
  if ← peek c then
    char c
    return true
  else
    return false

def skipWhile (p : Char → Bool) : Read Unit := do
  skip ((← rest).takeWhile p).length

def isBlank (c : Char) : Bool := c == ' ' || c == '\t'

def blanks : Read Unit := skipWhile isBlank

def spanned (r : Read α) : Read (Span × α) := do
  let start ← offset
  let x ← r
  return (⟨start, (← offset) - start⟩, x)

/-- At least one item, with what tells whether another one follows; every item takes a byte. -/
def many (item : Read (α × Bool)) : Read (List α) := fun c =>
  Reading.manyWithin item (c.left + 1) c

def comment : Read Unit := do
  if ← peek '#' then
    let text := (← rest).takeWhile fun c => c != '\n' && c != '\r'
    require (text.all isTextChar)
    skip text.length

def lineBreak : Read Bool := do
  match ← rest with
  | '\n' :: _ =>
    skip 1
    return true
  | '\r' :: '\n' :: _ =>
    skip 2
    return true
  | _ => return false

/-- Blanks, comments and line breaks between the items of an array or inline table. -/
def gap : Read Unit := do
  let _ ← many do
    blanks
    comment
    return ((), ← lineBreak)

def isBareKeyChar (c : Char) : Bool := c.isAlphanum || c == '_' || c == '-'

def keyPart : Read Key := do
  let (span, name) ← spanned do
    let cs ← rest
    match cs with
    | c :: _ =>
      if c == '"' || c == '\'' then
        match string? false cs with
        | some q =>
          goTo q.rest q.size
          return q.content
        | none => failure
      else
        let name := cs.takeWhile isBareKeyChar
        require (!name.isEmpty)
        skip name.length
        return name
    | [] => failure
  return ⟨String.ofList name, span⟩

def partLimit : Nat := 80

/-- A key of one or more parts with dots between them. -/
def key : Read (List Key) := do
  let parts ← many do
    blanks
    let part ← keyPart
    blanks
    return (part, ← eat '.')
  require (parts.length ≤ partLimit)
  return parts

/-- A scalar goes on up to a blank, a comment, a line break or a mark of its surroundings. -/
def isScalarChar (c : Char) : Bool :=
  !(['=', ',', '[', ']', '\x7b', '\x7d', ' ', '\t', '#', '\r', '\n'].contains c)

/-- The run of characters of a scalar; a blank may stand between a date and a time. -/
def scalarRun (cs : List Char) : List Char :=
  let run := cs.takeWhile isScalarChar
  match afterDate run, cs.drop run.length with
  | some [], ' ' :: c :: rest =>
    if c.isDigit then run ++ ' ' :: (c :: rest).takeWhile isScalarChar else run
  | _, _ => run

def inlineEntries (pairs : List (List Key × Span × Value)) : Option (List (Key × Span × Value)) :=
  tableOf (pairs.map fun (path, span, v) => .entry path span v)

/-- Items between brackets, each but the last one before a comma. -/
def enclosed (opening closing : Char) (item : Read α) : Read (List α) := do
  char opening
  gap
  if ← eat closing then
    return []
  else
    many do
      let x ← item
      gap
      if ← eat closing then
        return (x, false)
      else
        char ','
        gap
        return (x, !(← eat closing))

/-- A value, given the reader for the values inside of it, if there may be any. -/
def valueWith (inner : Option (Read (Span × Value))) : Read (Span × Value) :=
  spanned do
    let cs ← rest
    match cs, inner with
    | [], _ => failure
    | '[' :: _, some inner => return .array (← enclosed '[' ']' inner)
    | '\x7b' :: _, some inner =>
      let pairs ← enclosed '\x7b' '\x7d' do
        let path ← key
        gap
        char '='
        gap
        return (path, ← inner)
      match inlineEntries pairs with
      | some entries => return .table entries
      | none => failure
    | c :: _, _ =>
      if c == '"' || c == '\'' then
        match string? true cs with
        | some q =>
          goTo q.rest q.size
          return .text (String.ofList q.content)
        | none => failure
      else
        let run := scalarRun cs
        match scalar? run with
        | some v =>
          skip run.length
          return v
        | none => failure

def valueWithin : Nat → Read (Span × Value)
  | 0 => valueWith none
  | n + 1 => valueWith (some (valueWithin n))

end Read

def nestingLimit : Nat := 80

namespace Read

def header : Read Statement := do
  let (span, many, path) ← spanned do
    char '['
    let many ← eat '['
    let path ← key
    char ']'
    if many then
      char ']'
    return (many, path)
  return .header many path span

def entry : Read Statement := do
  let path ← key
  char '='
  blanks
  let (span, v) ← valueWithin nestingLimit
  return .entry path span v

/-- A line: at most one statement, then a comment. -/
def line : Read (Option Statement) := do
  blanks
  let statement ←
    match ← rest with
    | [] => pure none
    | c :: _ =>
      if c == '#' || c == '\n' || c == '\r' then pure none
      else if c == '[' then some <$> header
      else some <$> entry
  blanks
  comment
  return statement

def statements : Read (List Statement) := do
  if ← peek '\ufeff' then
    char '\ufeff'
  let lines ← many do
    let statement ← line
    let more ← lineBreak
    require (more || (← rest).isEmpty)
    return (statement, more)
  return lines.filterMap id

end Read

/-- The table that characters denote, its place being all of them. -/
def readChars (cs : List Char) : Option (Span × Value) := do
  let size := byteCount cs
  let (statements, _) ← Read.statements ⟨cs, 0, size⟩
  return (⟨0, size⟩, .table (← tableOf statements))

def read (source : String) : Option (Span × Value) := readChars source.toList

end Buildwright.Toml
