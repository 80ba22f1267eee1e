import Buildwright.Toml.Value

/-!
# Scalars of configuration text

Numbers, truth values, dates and times, each from the whole run of characters that holds it, and
the bodies of the four kinds of strings.
-/

namespace Buildwright.Toml

def isHexDigit (c : Char) : Bool :=
  c.isDigit || ('a' ≤ c && c ≤ 'f') || ('A' ≤ c && c ≤ 'F')

def digitValue (c : Char) : Nat :=
  if c.isDigit then c.toNat - 48 else if c.isLower then c.toNat - 87 else c.toNat - 55

def digitsValue (base : Nat) (ds : List Char) : Nat :=
  ds.foldl (fun n c => base * n + digitValue c) 0

/-- The text without its underscores, each of which has to stand between two digits. -/
def joined (isDigit : Char → Bool) : List Char → Option (List Char)
  | [] => some []
  | '_' :: _ => none
  | c :: '_' :: d :: rest =>
    if isDigit c && isDigit d then (joined isDigit (d :: rest)).map (c :: ·) else none
  | c :: rest => (joined isDigit rest).map (c :: ·)

structure Signed where
  negative : Bool
  /-- A sign is written. -/
  sign : Bool
  body : List Char

def signed : List Char → Signed
  | '-' :: rest => ⟨true, true, rest⟩
  | '+' :: rest => ⟨false, true, rest⟩
  | cs => ⟨false, false, cs⟩

namespace Signed

/-- The body without underscores. One may also stand between the sign and a digit. -/
def plain (isDigit : Char → Bool) (s : Signed) : Option (List Char) :=
  match s.sign, s.body with
  | true, '_' :: d :: rest => if isDigit d then joined isDigit (d :: rest) else none
  | _, body => joined isDigit body

def padded (s : Signed) (whole : List Char) : Bool :=
  1 < whole.length && s.body.head? == some '0'

/-- A decimal integer: its text has no other digits than decimal ones, or is too large. -/
def integer? (s : Signed) : Option (Option Int) :=
  match s.plain isHexDigit with
  | none | some [] => none
  | some ds =>
    if s.padded ds then none
    else if ds.all Char.isDigit then
      let n : Int := digitsValue 10 ds
      some (some (if s.negative then -n else n))
    else
      some none

/-- The exponent behind its letter, or zero where the text ends. -/
def exponent? : List Char → Option Int
  | [] => some 0
  | e :: rest =>
    let ⟨negative, _, ds⟩ := signed rest
    if (e == 'e' || e == 'E') && !ds.isEmpty && ds.all Char.isDigit then
      let n : Int := digitsValue 10 ds
      some (if negative then -n else n)
    else
      none

def float? (s : Signed) : Option Float := do
  let cs ← s.plain Char.isDigit
  let whole := cs.takeWhile Char.isDigit
  if whole.isEmpty || s.padded whole then
    none
  else
    match cs.drop whole.length with
    | '.' :: rest =>
      let fraction := rest.takeWhile Char.isDigit
      if fraction.isEmpty then
        none
      else
        let e ← exponent? (rest.drop fraction.length)
        some (.decimal s.negative (digitsValue 10 (whole ++ fraction)) (e - fraction.length))
    | rest =>
      let e ← exponent? rest
      some (.decimal s.negative (digitsValue 10 whole) e)

end Signed

def base? : Char → Option Nat
  | 'x' => some 16
  | 'o' => some 8
  | 'b' => some 2
  | _ => none

/-- An integer from the digits behind the letter of its base. There may be none. -/
def based? (base : Nat) (cs : List Char) : Option (Option Int) :=
  match joined isHexDigit cs with
  | none => none
  | some [] => some none
  | some ds =>
    if ds.all fun c => isHexDigit c && digitValue c < base then
      some (some (digitsValue base ds))
    else
      none

def twoDigits : List Char → Option (Nat × List Char)
  | a :: b :: rest =>
    if a.isDigit && b.isDigit then some (digitsValue 10 [a, b], rest) else none
  | _ => none

def daysInMonth (year month : Nat) : Nat :=
  if month == 2 then
    if year % 4 == 0 && (year % 100 != 0 || year % 400 == 0) then 29 else 28
  else if [4, 6, 9, 11].contains month then 30
  else 31

def afterDate (cs : List Char) : Option (List Char) := do
  let (century, cs) ← twoDigits cs
  let (decade, cs) ← twoDigits cs
  match cs with
  | '-' :: cs =>
    let (month, cs) ← twoDigits cs
    match cs with
    | '-' :: cs =>
      let (day, cs) ← twoDigits cs
      if 1 ≤ month && month ≤ 12 && 1 ≤ day && day ≤ daysInMonth (100 * century + decade) month then
        some cs
      else
        none
    | _ => none
  | _ => none

/-- The text after a time of day; the seconds may be left out. -/
def afterTime (cs : List Char) : Option (List Char) := do
  let (hour, cs) ← twoDigits cs
  match cs with
  | ':' :: cs =>
    let (minute, cs) ← twoDigits cs
    if hour < 24 && minute < 60 then
      match cs with
      | ':' :: cs =>
        let (second, cs) ← twoDigits cs
        if second ≤ 60 then
          match cs with
          | '.' :: d :: cs => if d.isDigit then some (cs.dropWhile Char.isDigit) else none
          | '.' :: [] => none
          | cs => some cs
        else
          none
      | cs => some cs
    else
      none
  | _ => none

def isOffset (cs : List Char) : Bool :=
  match cs with
  | [] => true
  | ['Z'] => true
  | ['z'] => true
  | s :: rest =>
    (s == '+' || s == '-') &&
      match twoDigits rest with
      | some (hour, ':' :: rest) =>
        match twoDigits rest with
        | some (minute, []) => hour < 24 && minute < 60
        | _ => false
      | _ => false

def isMoment (cs : List Char) : Bool :=
  match afterDate cs with
  | some [] => true
  | some (c :: rest) =>
    (c == 'T' || c == 't' || c == ' ') &&
      match afterTime rest with
      | some rest => isOffset rest
      | none => false
  | none =>
    match afterTime cs with
    | some rest => rest.isEmpty
    | none => false

/-- A number, a date or a time. What follows the first digits tells which one it is. -/
def numeric? (cs : List Char) : Option Value :=
  let s := signed cs
  let rest := s.body.dropWhile Char.isDigit
  let based := match s.sign, s.body with
    | false, '0' :: letter :: digits => (base? letter).map fun base => based? base digits
    | _, _ => none
  match based, rest with
  | some n, _ => n.map .integer
  | none, '-' :: _ | none, ':' :: _ => if isMoment cs then some .moment else none
  | none, _ =>
    if rest.any fun c => c == '.' || c == 'e' || c == 'E' then s.float?.map .float
    else if rest.isEmpty || rest.head? == some '_' then s.integer?.map .integer
    else none

def scalar? (cs : List Char) : Option Value :=
  if cs == "true".toList then some (.boolean true)
  else if cs == "false".toList then some (.boolean false)
  else
    let s := signed cs
    if s.body == "inf".toList then some (.float (.infinity s.negative))
    else if s.body == "nan".toList then some (.float .nan)
    else numeric? cs

/-- No control characters except the tab. -/
def isTextChar (c : Char) : Bool :=
  c == '\t' || (0x20 ≤ c.toNat && c.toNat != 0x7f)

/-- The character of a code point written in hexadecimal digits. -/
def codePoint? (ds : List Char) : Option Char :=
  let n := digitsValue 16 ds
  if ds.all isHexDigit && (n < 0xd800 || (0xe000 ≤ n && n < 0x110000)) then
    some (Char.ofNat n)
  else
    none

/-- What a single character behind a backslash stands for. -/
def escape? : Char → Option Char
  | 'b' => some '\x08'
  | 't' => some '\t'
  | 'n' => some '\n'
  | 'f' => some '\x0c'
  | 'r' => some '\r'
  | 'e' => some '\x1b'
  | '"' => some '"'
  | '\\' => some '\\'
  | _ => none

/-- A string as it was read. -/
structure Quoted where
  content : List Char
  /-- The bytes of its text up to the closing quotes. -/
  size : Nat
  /-- The text after the closing quotes. -/
  rest : List Char

abbrev Body := Option Quoted

/-- A string in front of which `size` more bytes of text stand for `cs`. -/
def Body.push (size : Nat) (cs : List Char) (b : Body) : Body :=
  b.map fun q => { q with content := cs ++ q.content, size := size + q.size }

/-- A string that goes on with the character `c`. -/
def Body.char (c : Char) (b : Body) : Body := b.push c.utf8Size [c]

/-- A string that goes on with an escape of `size` bytes. -/
def Body.escape (size : Nat) (c : Option Char) (b : Body) : Body :=
  c.bind fun c => b.push size [c]

/-- The rest of a string in double quotes. -/
def basicBody : List Char → Body
  | [] => none
  | '"' :: rest => some ⟨[], 1, rest⟩
  | '\\' :: 'x' :: a :: b :: rest => (basicBody rest).escape 4 (codePoint? [a, b])
  | '\\' :: 'u' :: a :: b :: c :: d :: rest => (basicBody rest).escape 6 (codePoint? [a, b, c, d])
  | '\\' :: 'U' :: a :: b :: c :: d :: e :: f :: g :: h :: rest =>
    (basicBody rest).escape 10 (codePoint? [a, b, c, d, e, f, g, h])
  | '\\' :: c :: rest => (basicBody rest).escape 2 (escape? c)
  | c :: rest => if isTextChar c then (basicBody rest).char c else none

/-- The rest of a string in single quotes. -/
def literalBody : List Char → Body
  | [] => none
  | '\'' :: rest => some ⟨[], 1, rest⟩
  | c :: rest => if isTextChar c then (literalBody rest).char c else none

/-- Three quotes close a long string; up to two more in front of them belong to it. -/
def closing (quote : Char) (cs : List Char) : Body :=
  match cs with
  | a :: b :: c :: rest =>
    if a == quote && b == quote && c == quote then
      match rest with
      | d :: e :: rest' =>
        if d == quote && e == quote then some ⟨[quote, quote], 5, rest'⟩
        else if d == quote then some ⟨[quote], 4, e :: rest'⟩
        else some ⟨[], 3, rest⟩
      | [d] => if d == quote then some ⟨[quote], 4, []⟩ else some ⟨[], 3, rest⟩
      | [] => some ⟨[], 3, []⟩
    else
      none
  | _ => none

/-- Only blanks stand between here and the end of the line. -/
def endsLine (cs : List Char) : Bool :=
  match cs.dropWhile fun c => c == ' ' || c == '\t' with
  | '\n' :: _ => true
  | '\r' :: '\n' :: _ => true
  | _ => false

/-- The rest of a long string in double quotes. After a backslash at the end of a line all blanks
and line breaks are passed over. -/
def longBasicBody (trimming : Bool) : List Char → Body
  | [] => none
  | '\r' :: '\n' :: rest =>
    if trimming then (longBasicBody true rest).push 2 []
    else (longBasicBody false rest).push 2 ['\r', '\n']
  | '\n' :: rest =>
    if trimming then (longBasicBody true rest).push 1 [] else (longBasicBody false rest).char '\n'
  | '"' :: rest => (closing '"' ('"' :: rest)).or ((longBasicBody false rest).char '"')
  | '\\' :: 'x' :: a :: b :: rest => (longBasicBody false rest).escape 4 (codePoint? [a, b])
  | '\\' :: 'u' :: a :: b :: c :: d :: rest =>
    (longBasicBody false rest).escape 6 (codePoint? [a, b, c, d])
  | '\\' :: 'U' :: a :: b :: c :: d :: e :: f :: g :: h :: rest =>
    (longBasicBody false rest).escape 10 (codePoint? [a, b, c, d, e, f, g, h])
  | '\\' :: c :: rest =>
    if endsLine (c :: rest) then (longBasicBody true (c :: rest)).push 1 []
    else (longBasicBody false rest).escape 2 (escape? c)
  | c :: rest =>
    if trimming && (c == ' ' || c == '\t') then (longBasicBody true rest).push 1 []
    else if isTextChar c then (longBasicBody false rest).char c
    else none

/-- The rest of a long string in single quotes. -/
def longLiteralBody : List Char → Body
  | [] => none
  | '\r' :: '\n' :: rest => (longLiteralBody rest).push 2 ['\r', '\n']
  | '\n' :: rest => (longLiteralBody rest).char '\n'
  | '\'' :: rest => (closing '\'' ('\'' :: rest)).or ((longLiteralBody rest).char '\'')
  | c :: rest => if isTextChar c then (longLiteralBody rest).char c else none

/-- A long string from its opening quotes on. A line break right behind them does not belong to
it. -/
def longString (body : List Char → Body) : List Char → Body
  | '\n' :: rest => (body rest).push 4 []
  | '\r' :: '\n' :: rest => (body rest).push 5 []
  | cs => (body cs).push 3 []

/-- A string, from its opening quotes on; `long` if long ones may stand here. -/
def string? (long : Bool) (cs : List Char) : Body :=
  match cs with
  | '"' :: '"' :: '"' :: rest => if long then longString (longBasicBody false) rest else none
  | '\'' :: '\'' :: '\'' :: rest => if long then longString longLiteralBody rest else none
  | '"' :: rest => (basicBody rest).push 1 []
  | '\'' :: rest => (literalBody rest).push 1 []
  | _ => none

end Buildwright.Toml
