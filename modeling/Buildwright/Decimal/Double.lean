import Buildwright.Text.Join

/-!
# Double precision numbers in decimal

A decimal number is rounded to the nearest double, and a double is written with the fewest digits
that read back as the same one. Both work in exact arithmetic on natural numbers: a double is
`significand * 2 ^ exponent`.
-/

namespace Buildwright.Decimal

/-- A finite double without its sign, or a number beyond all of them. -/
inductive Magnitude where
  | finite (significand : Nat) (exponent : Int)
  | overflow
deriving Repr, DecidableEq, Inhabited

/-- The quotient rounded to the nearest integer, a tie to the even one. -/
def roundedQuotient (num den : Nat) : Nat :=
  let q := num / den
  let r := num % den
  if 2 * r < den then q
  else if 2 * r > den then q + 1
  else if q % 2 = 0 then q else q + 1

def bits (n : Nat) : Nat := if n = 0 then 0 else n.log2 + 1

/-- The fraction `num / den` in units of `2 ^ e`, rounded. -/
def inUnits (num den : Nat) (e : Int) : Nat :=
  if 0 ≤ e then roundedQuotient num (den * Nat.pow 2 e.toNat)
  else roundedQuotient (num * Nat.pow 2 (-e).toNat) den

/-- The whole part of the fraction in units of `2 ^ e` has at least 53 binary digits. -/
def fills (num den : Nat) (e : Int) : Bool :=
  if 0 ≤ e then Nat.pow 2 52 * (den * Nat.pow 2 e.toNat) ≤ num
  else Nat.pow 2 52 * den ≤ num * Nat.pow 2 (-e).toNat

def minExponent : Int := -1074

def maxExponent : Int := 971

def nearestFraction (num den : Nat) : Magnitude :=
  let guess : Int := (bits num : Int) - bits den - 53
  let e := if fills num den (guess + 1) then guess + 1
    else if fills num den guess then guess else guess - 1
  let e := max e minExponent
  let m := inUnits num den e
  let (m, e) := if m = Nat.pow 2 53 then (Nat.pow 2 52, e + 1) else (m, e)
  if e > maxExponent then .overflow else .finite m e

/-- The double nearest to `digits * 10 ^ exponent`. -/
def nearest (digits : Nat) (exponent : Int) : Magnitude :=
  if digits = 0 then .finite 0 minExponent
  else if 400 < (Nat.repr digits).length + exponent then .overflow
  else if (Nat.repr digits).length + exponent < -400 then .finite 0 minExponent
  else if 0 ≤ exponent then nearestFraction (digits * Nat.pow 10 exponent.toNat) 1
  else nearestFraction digits (Nat.pow 10 (-exponent).toNat)

/-- Twice the bounds of the interval of numbers that round to a double, over a common denominator,
with twice the double itself between them. -/
structure Interval where
  low : Nat
  middle : Nat
  high : Nat
  den : Nat
  closed : Bool

def interval (m : Nat) (e : Int) : Interval :=
  -- Below a power of two the neighbour is half as far away.
  let narrow := m == Nat.pow 2 52 && e > minExponent
  let scale (n : Nat) : Nat := if 0 ≤ e then n * Nat.pow 2 e.toNat else n
  let den := if 0 ≤ e then 4 else 4 * Nat.pow 2 (-e).toNat
  ⟨scale (4 * m - if narrow then 1 else 2), scale (4 * m), scale (4 * m + 2), den, m % 2 == 0⟩

def Interval.holds (i : Interval) (n : Nat) (k : Int) : Bool :=
  let x := if 0 ≤ k then n * Nat.pow 10 k.toNat * i.den else n * i.den
  let s (b : Nat) := if 0 ≤ k then b else b * Nat.pow 10 (-k).toNat
  if i.closed then s i.low ≤ x && x ≤ s i.high else s i.low < x && x < s i.high

/-- The multiple of `10 ^ k` in the interval that is nearest to the double, of two the one above. -/
def Interval.candidate? (i : Interval) (k : Int) : Option Nat :=
  let num := if 0 ≤ k then i.middle else i.middle * Nat.pow 10 (-k).toNat
  let den := if 0 ≤ k then i.den * Nat.pow 10 k.toNat else i.den
  let below := num / den
  let nearer := if 2 * (num % den) ≥ den then below + 1 else below
  let other := if nearer = below then below + 1 else below
  if 0 < nearer && i.holds nearer k then some nearer
  else if 0 < other && i.holds other k then some other
  else none

/-- The first grid with a point in the interval, from the coarsest on. -/
def shortestFrom (i : Interval) : Nat → Int → Nat × Int
  | 0, k => ((i.candidate? k).getD 0, k)
  | n + 1, k =>
    match i.candidate? k with
    | some d => (d, k)
    | none => shortestFrom i n (k - 1)

/-- The fewest digits that read back as the double, with the power of ten of the last one. -/
def shortest (m : Nat) (e : Int) : Nat × Int :=
  if m = 0 then (0, 0)
  else
    let i := interval m e
    -- No decimal number has its first digit above this place.
    let top : Int := if 0 ≤ e then (Nat.repr (m * Nat.pow 2 e.toNat)).length
      else (Nat.repr (m / Nat.pow 2 (-e).toNat)).length
    shortestFrom i 800 top

def positional (digits : Nat) (k : Int) : String :=
  let ds := Nat.repr digits
  if 0 ≤ k then ds ++ Text.repeated k.toNat "0" ++ ".0"
  else
    let places := (-k).toNat
    let ds := Text.repeated (places + 1 - ds.length) "0" ++ ds
    let cs := ds.toList
    String.ofList (cs.take (cs.length - places)) ++ "." ++
      String.ofList (cs.drop (cs.length - places))

end Buildwright.Decimal
