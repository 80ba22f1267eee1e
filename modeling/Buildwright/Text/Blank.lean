/-!
# Blank characters

White space in the wide sense, and texts stripped of it at both ends.
-/

namespace Buildwright.Text

/-- Every character of the White_Space property. -/
def isBlank (c : Char) : Bool :=
  let n := c.toNat
  (0x9 ≤ n && n ≤ 0xd) || n == 0x20 || n == 0x85 || n == 0xa0 || n == 0x1680 ||
    (0x2000 ≤ n && n ≤ 0x200a) || n == 0x2028 || n == 0x2029 || n == 0x202f ||
    n == 0x205f || n == 0x3000

def trim (s : String) : String :=
  String.ofList ((s.toList.dropWhile isBlank).reverse.dropWhile isBlank).reverse

/-- A text of blanks only; the empty text is one. -/
def isAllBlank (s : String) : Bool :=
  s.toList.all isBlank

theorem isAllBlank_iff (s : String) : isAllBlank s = true ↔ ∀ c ∈ s.toList, isBlank c = true := by
  simp [isAllBlank]

end Buildwright.Text
