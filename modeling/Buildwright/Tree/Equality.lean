import Buildwright.Tree

/-!
# Equality of type trees

Whether two trees are the same is decided by comparing them, list by list.
-/

namespace Buildwright.Tree

variable {ν : Type} [DecidableEq ν]

mutual

def same : Tree ν → Tree ν → Bool
  | .var v, .var w => v == w
  | .path rooted ss, .path rooted' ss' => rooted == rooted' && sameSegments ss ss'
  | .tuple ts, .tuple ts' => sameTypes ts ts'
  | .array t len, .array t' len' => same t t' && len == len'
  | _, _ => false

def sameTypes : List (Tree ν) → List (Tree ν) → Bool
  | [], [] => true
  | t :: ts, t' :: ts' => same t t' && sameTypes ts ts'
  | _, _ => false

def sameSegments : List (Segment ν) → List (Segment ν) → Bool
  | [], [] => true
  | .mk name as :: ss, .mk name' as' :: ss' =>
    name == name' && sameArgs as as' && sameSegments ss ss'
  | _, _ => false

def sameArgs : List (Arg ν) → List (Arg ν) → Bool
  | [], [] => true
  | .type t :: as, .type t' :: as' => same t t' && sameArgs as as'
  | .binding name t :: as, .binding name' t' :: as' =>
    name == name' && same t t' && sameArgs as as'
  | _, _ => false

end

mutual

theorem same_iff : ∀ s t : Tree ν, same s t = true ↔ s = t
  | .var _, t => by cases t <;> simp [same]
  | .path _ ss, t => by cases t <;> simp [same, sameSegments_iff ss]
  | .tuple ss, t => by cases t <;> simp [same, sameTypes_iff ss]
  | .array s _, t => by cases t <;> simp [same, same_iff s]

theorem sameTypes_iff : ∀ ss ts : List (Tree ν), sameTypes ss ts = true ↔ ss = ts
  | [], ts => by cases ts <;> simp [sameTypes]
  | s :: ss, ts => by cases ts <;> simp [sameTypes, same_iff s, sameTypes_iff ss]

theorem sameSegments_iff : ∀ ss ts : List (Segment ν), sameSegments ss ts = true ↔ ss = ts
  | [], ts => by cases ts <;> simp [sameSegments]
  | .mk _ _ :: _, [] => by simp [sameSegments]
  | .mk _ as :: ss, .mk _ _ :: ts => by
    simp [sameSegments, sameArgs_iff as, sameSegments_iff ss]

theorem sameArgs_iff : ∀ as bs : List (Arg ν), sameArgs as bs = true ↔ as = bs
  | [], bs => by cases bs <;> simp [sameArgs]
  | a :: _, [] => by cases a <;> simp [sameArgs]
  | .type s :: as, b :: _ => by cases b <;> simp [sameArgs, same_iff s, sameArgs_iff as]
  | .binding _ s :: as, b :: _ => by
    cases b <;> simp [sameArgs, same_iff s, sameArgs_iff as, and_assoc]

end

instance : DecidableEq (Tree ν) := fun s t => decidable_of_iff _ (same_iff s t)

end Buildwright.Tree
