import Buildwright.TypeExpr.Construct
import Buildwright.Tree

/-!
# Paths and bounds as written

A path keeps how its arguments were written until it is known what the path is part of.
-/

namespace Buildwright.TypeExpr

inductive ArgsForm where
  | absent
  | angled (args : Value (List (Arg Empty)))
  | round

structure SegmentForm where
  ident : String
  args : ArgsForm

structure PathForm where
  rooted : Bool
  segments : List SegmentForm

namespace SegmentForm

def value (s : SegmentForm) : Value (Segment Empty) :=
  match s.args with
  | .absent => .ok (.mk s.ident [])
  | .angled args => args.map (.mk s.ident)
  | .round => .error .parenthesizedArgs

/-- No arguments are written, not even empty ones. -/
def isBare (s : SegmentForm) : Bool :=
  match s.args with
  | .absent => true
  | _ => false

def isEmpty (s : SegmentForm) : Bool :=
  match s.args with
  | .absent => true
  | .angled (.ok []) => true
  | _ => false

end SegmentForm

namespace PathForm

def value (p : PathForm) : Value TypeExpr :=
  (values (p.segments.map SegmentForm.value)).map (.path p.rooted)

def isPlain (p : PathForm) : Bool := p.segments.all SegmentForm.isBare

/-- The name of a path of one segment, and whether angle brackets follow it. -/
def lone (p : PathForm) : Option (String × Bool) :=
  match p with
  | ⟨false, [s]⟩ => some (s.ident, !s.isBare)
  | _ => none

/-- The last name has no arguments, so that some in round brackets may follow. -/
def endsEmpty (p : PathForm) : Bool :=
  match p.segments.getLast? with
  | some s => s.isEmpty
  | none => false

def withRoundArgs (p : PathForm) : PathForm :=
  { p with segments := p.segments.dropLast ++
      (p.segments.getLast?.map fun s => { s with args := .round }).toList }

end PathForm

inductive BoundForm where
  | trait (plain : Bool) (path : PathForm)
  | lifetime

namespace BoundForm

def isTrait : BoundForm → Bool
  | .trait .. => true
  | .lifetime => false

def value : BoundForm → Value TypeExpr
  | .trait true path => path.value
  | .trait false _ => .error .boundModifier
  | .lifetime => .error .lifetimeBound

end BoundForm

end Buildwright.TypeExpr
