import Buildwright.Text.Identifier
import Buildwright.TypeExpr.Lexer.Blank

/-!
# Literals

Strings, characters and numbers, with the suffix that may follow them.
-/

namespace Buildwright.TypeExpr.Lexer

def plainName? : Step String
  | [] => none
  | c :: cs =>
    if Text.isIdentStart c then
      some (String.ofList (c :: cs.takeWhile Text.isIdentContinue),
        cs.dropWhile Text.isIdentContinue)
    else
      none

/-- A literal's suffix, if there is one, is passed over. -/
def afterSuffix (cs : List Char) : List Char :=
  match plainName? cs with
  | some (_, rest) => rest
  | none => cs

def isHexDigit (c : Char) : Bool :=
  c.isDigit || ('a' ≤ c && c ≤ 'f') || ('A' ≤ c && c ≤ 'F')

def digitValue (c : Char) : Nat :=
  if c.isDigit then c.toNat - 48 else if c.isLower then c.toNat - 87 else c.toNat - 55

def hexValue (cs : List Char) : Nat :=
  cs.foldl (fun n c => 16 * n + digitValue c) 0

/-- What strings and characters hold: text, bytes, or text that ends at its first NUL elsewhere. -/
inductive Content where
  | text
  | bytes
  | terminated
deriving DecidableEq

def bracedCodePoint? (cs : List Char) : Option Nat :=
  match cs with
  | '\x7b' :: rest =>
    let body := rest.takeWhile (fun c => isHexDigit c || c == '_')
    let digits := body.filter isHexDigit
    let n := hexValue digits
    if !startsWith ['_'] body && 0 < digits.length && digits.length ≤ 6 &&
        startsWith ['\x7d'] (rest.drop body.length) && n < 0x110000 &&
        !(0xd800 ≤ n && n < 0xe000) then
      some n
    else
      none
  | _ => none

def Content.holds (content : Content) (c : Char) : Bool :=
  match content with
  | .text => true
  | .bytes => c.toNat < 0x80
  | .terminated => c.toNat != 0

def Content.holdsHex (content : Content) (a b : Char) : Bool :=
  isHexDigit a && isHexDigit b &&
    match content with
    | .text => digitValue a < 8
    | .bytes => true
    | .terminated => digitValue a != 0 || digitValue b != 0

def Content.escapes (content : Content) (cs : List Char) : Bool :=
  match cs with
  | 'x' :: a :: b :: _ => content.holdsHex a b
  | 'u' :: rest =>
    match content, bracedCodePoint? rest with
    | .text, some _ => true
    | .terminated, some n => n != 0
    | _, _ => false
  | '0' :: _ => content != .terminated
  | c :: _ => ['n', 'r', 't', '\\', '\'', '"', '\n'].contains c
  | [] => false

/-- The text after the closing quote of a string; a carriage return needs its line feed. -/
def afterString (content : Content) : List Char → Option (List Char)
  | [] => none
  | '"' :: cs => some cs
  | '\r' :: '\n' :: cs => afterString content cs
  | '\r' :: _ => none
  | '\\' :: '\r' :: '\n' :: cs => afterString content cs
  | '\\' :: c :: cs => if content.escapes (c :: cs) then afterString content cs else none
  | c :: cs => if content.holds c then afterString content cs else none

/-- The text after a quote followed by `hashes` number signs. -/
def afterRawString (content : Content) (hashes : Nat) : List Char → Option (List Char)
  | [] => none
  | '\r' :: '\n' :: cs => afterRawString content hashes cs
  | '\r' :: _ => none
  | c :: cs =>
    if c = '"' && startsWith (List.replicate hashes '#') cs then
      some (cs.drop hashes)
    else if content.holds c then
      afterRawString content hashes cs
    else
      none

def rawString? (content : Content) (cs : List Char) : Option (List Char) :=
  let hashes := (cs.takeWhile (· == '#')).length
  match cs.drop hashes with
  | '"' :: rest =>
    if hashes ≤ 255 then (afterRawString content hashes rest).map afterSuffix else none
  | _ => none

/-- The text after a character literal, from its opening quote on. -/
def afterCharacter (content : Content) (cs : List Char) : Option (List Char) :=
  let closed (rest : List Char) : Option (List Char) :=
    match rest with
    | '\'' :: rest => some (afterSuffix rest)
    | _ => none
  match cs with
  | '\\' :: c :: rest =>
    if content.escapes (c :: rest) && c != '\n' then
      if c == 'x' then closed (rest.drop 2)
      else if c == 'u' then closed ((rest.dropWhile (· != '\x7d')).drop 1)
      else closed rest
    else
      none
  | c :: rest => if content.holds c && c != '\\' then closed rest else none
  | [] => none

def textLiteral? (cs : List Char) : Option (Literal × List Char) :=
  let as (l : Literal) (rest : Option (List Char)) := rest.map fun r => (l, r)
  let string (content : Content) (cs : List Char) := (afterString content cs).map afterSuffix
  match cs with
  | '"' :: rest => as .text (string .text rest)
  | 'r' :: rest => as .text (rawString? .text rest)
  | 'b' :: '"' :: rest => as .other (string .bytes rest)
  | 'b' :: 'r' :: rest => as .other (rawString? .bytes rest)
  | 'b' :: '\'' :: rest => as .other (afterCharacter .bytes rest)
  | 'c' :: '"' :: rest => as .other (string .terminated rest)
  | 'c' :: 'r' :: rest => as .other (rawString? .terminated rest)
  | '\'' :: rest => as .other (afterCharacter .text rest)
  | _ => none

/-- No name character follows a number's end. -/
def atWordBreak (cs : List Char) : Bool :=
  match cs with
  | c :: _ => !Text.isIdentContinue c
  | [] => true

/-- A number takes the name that follows it as its suffix. -/
def withSuffix (cs : List Char) : Option (String × List Char) :=
  match plainName? cs with
  | some (suffix, rest) => if atWordBreak rest then some (suffix, rest) else none
  | none => if atWordBreak cs then some ("", cs) else none

/-- Digits, signs and underscores of an exponent, from behind its letter on. -/
def exponent (signed valued : Bool) : List Char → Option (List Char × List Char)
  | c :: cs =>
    if c == '+' || c == '-' then
      if valued then some ([], c :: cs)
      else if signed then none
      else (exponent true valued cs).map fun (e, rest) => (c :: e, rest)
    else if c.isDigit then
      (exponent signed true cs).map fun (e, rest) => (c :: e, rest)
    else if c == '_' then
      (exponent signed valued cs).map fun (e, rest) => (c :: e, rest)
    else if valued then some ([], c :: cs) else none
  | [] => if valued then some ([], []) else none

/-- What an exponent adds to the digits before its letter; without a value it is none. -/
def withExponent (written tail : List Char) : Option (List Char × List Char) :=
  (exponent false false tail).map fun (e, rest) => (written ++ e, rest)

/-- A number with a fraction or an exponent: its written digits and the text after them. -/
def decimalDigits? (cs : List Char) : Option (List Char × List Char) :=
  let isBody (c : Char) := c.isDigit || c == '_'
  let isExponent (c : Char) := c == 'e' || c == 'E'
  let whole := cs.takeWhile isBody
  if !(cs.head?.any Char.isDigit) then none
  else
    match cs.drop whole.length with
    | '.' :: rest =>
      let written := whole ++ '.' :: rest.takeWhile isBody
      if rest.head?.any fun c => c == '.' || Text.isIdentStart c then none
      else
        match rest.dropWhile isBody with
        | e :: tail =>
          if isExponent e then
            (withExponent (written ++ [e]) tail).or (some (written, e :: tail))
          else
            some (written, e :: tail)
        | [] => some (written, [])
    | e :: tail => if isExponent e then withExponent (whole ++ [e]) tail else none
    | [] => none

/-- The digits of an integer in a base, underscores left out, and the text after them. -/
def integerDigits (base : Nat) : List Char → Option (List Char × List Char)
  | [] => some ([], [])
  | c :: cs =>
    if c == '_' then integerDigits base cs
    else if c.isDigit then
      if digitValue c < base then
        (integerDigits base cs).map fun (ds, rest) => (c :: ds, rest)
      else
        none
    else if isHexDigit c && base == 16 then
      (integerDigits base cs).map fun (ds, rest) => (c :: ds, rest)
    else
      some ([], c :: cs)

def integer? (cs : List Char) : Option (Literal × List Char) :=
  let body (base : Nat) (cs : List Char) : Option (Literal × List Char) :=
    match integerDigits base cs with
    | some (d :: ds, rest) =>
      (withSuffix rest).map fun (suffix, rest) =>
        (.integer ((d :: ds).foldl (fun n c => base * n + digitValue c) 0) suffix, rest)
    | _ => none
  match cs with
  | '0' :: 'x' :: rest => body 16 rest
  | '0' :: 'o' :: rest => body 8 rest
  | '0' :: 'b' :: rest => body 2 rest
  | c :: _ => if c.isDigit then body 10 cs else none
  | [] => none

def decimal? (cs : List Char) : Option (Literal × List Char) :=
  (decimalDigits? cs).bind fun (written, rest) =>
    (withSuffix rest).map fun (suffix, rest) =>
      (.decimal (String.ofList written ++ suffix), rest)

/-- Any literal; a decimal number is preferred to the integer that it starts with. -/
def literal? (cs : List Char) : Option (Literal × List Char) :=
  (textLiteral? cs).or ((decimal? cs).or (integer? cs))

end Buildwright.TypeExpr.Lexer
