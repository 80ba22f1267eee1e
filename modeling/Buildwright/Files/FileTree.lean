import Buildwright.Files.Path
import Buildwright.Text.Bytes

/-!
# File trees

The files and directories that paths lead to from a working directory. A path is followed piece by
piece, so it may lead through `..` only where the directory before it exists.
-/

namespace Buildwright

/-- Where the names of a location start from. -/
inductive Anchor where
  /-- The working directory, or one of those that it stands in. -/
  | above (levels : Nat)
  | root
deriving Repr, DecidableEq, Inhabited

/-- A place for a file or directory, without detours. -/
structure Location where
  anchor : Anchor
  /-- The names from the anchor down, slashes between them. -/
  names : String
deriving Repr, DecidableEq, Inhabited

namespace Location

def home : Location := ⟨.above 0, ""⟩

def isAnchor (l : Location) : Bool := l.names.isEmpty

def down (l : Location) (name : String) : Location :=
  ⟨l.anchor, if l.isAnchor then name else l.names ++ "/" ++ name⟩

/-- The directory that a location is in; the root is in itself. -/
def up (l : Location) : Location :=
  if l.isAnchor then
    match l.anchor with
    | .above levels => ⟨.above (levels + 1), ""⟩
    | .root => l
  else
    ⟨l.anchor, String.ofList ((l.names.toList.reverse.dropWhile (· != '/')).drop 1).reverse⟩

/-- The directory `outer` is on the way to `l`. -/
def isInside (outer l : Location) : Bool :=
  outer.anchor == l.anchor &&
    (outer.isAnchor || (outer.names ++ "/").toList.isPrefixOf l.names.toList)

end Location

inductive Node where
  | file (bytes : List UInt8)
  | directory
deriving Repr, DecidableEq, Inhabited

/-- What stands at each location; a location that is not listed is free. -/
structure FileTree where
  nodes : List (Location × Node)
deriving Repr, Inhabited

/-- A piece of a path as a move from a directory. -/
inductive Move where
  | stay
  | up
  | down (name : String)
deriving Repr, DecidableEq, Inhabited

namespace Move

def ofPiece (piece : String) : Move :=
  if piece.isEmpty || piece == "." then .stay
  else if piece == ".." then .up
  else .down piece

def maxNameSize : Nat := 255

/-- Where the move leads to; a name that is too long leads nowhere. -/
def target? (l : Location) : Move → Option Location
  | .stay => some l
  | .up => some l.up
  | .down name => if name.utf8ByteSize ≤ maxNameSize then some (l.down name) else none

end Move

namespace Path

def moves (p : Path) : List Move := p.pieces.map Move.ofPiece

def start (p : Path) : Location := if p.isRooted then ⟨.root, ""⟩ else .home

def maxSize : Nat := 4095

/-- No path holds NUL or is too long. -/
def isSound (p : Path) : Bool := p.text.utf8ByteSize ≤ maxSize && !p.text.toList.contains '\x00'

end Path

namespace FileTree

def empty : FileTree := ⟨[]⟩

def look (t : FileTree) (l : Location) : Option Node :=
  if l.isAnchor then some .directory else t.nodes.lookup l

def isDirectory (t : FileTree) (l : Location) : Bool := t.look l == some .directory

def insert (t : FileTree) (l : Location) (n : Node) : FileTree :=
  ⟨(l, n) :: t.nodes.filter fun entry => entry.1 != l⟩

/-- Takes away what stands at a location and below it. -/
def erase (t : FileTree) (l : Location) : FileTree :=
  ⟨t.nodes.filter fun entry => entry.1 != l && !l.isInside entry.1⟩

theorem look_of_isAnchor (t : FileTree) {l : Location} (h : l.isAnchor = true) :
    t.look l = some .directory := by
  simp [look, h]

private theorem lookup_filter_ne (nodes : List (Location × Node)) {l l' : Location} (h : l' ≠ l) :
    (nodes.filter fun entry => entry.1 != l).lookup l' = nodes.lookup l' := by
  induction nodes with
  | nil => rfl
  | cons entry rest ih =>
    obtain ⟨k, n⟩ := entry
    by_cases hk : k = l
    · simp [hk, List.lookup_cons, beq_false_of_ne h, ih]
    · simp [hk, List.lookup_cons, ih]

theorem look_insert (t : FileTree) {l : Location} (n : Node) (l' : Location)
    (h : l.isAnchor = false) :
    (t.insert l n).look l' = if l' = l then some n else t.look l' := by
  by_cases hl : l' = l
  · subst hl
    simp [look, insert, h]
  · by_cases hn : l'.isAnchor
    · simp [look, hn, hl]
    · simp [look, insert, hl, hn, List.lookup_cons, beq_false_of_ne hl, lookup_filter_ne]

/-! ## Following paths -/

/-- Where moves lead to; every one of them starts from a directory. -/
def follow (t : FileTree) : Location → List Move → Option Location
  | l, [] => some l
  | l, move :: rest =>
    if t.isDirectory l then
      match move.target? l with
      | some l' => t.follow l' rest
      | none => none
    else
      none

/-- Where a path leads to, whether or not something stands there. -/
def locate? (t : FileTree) (p : Path) : Option Location :=
  if p.text.isEmpty || !p.isSound then none else t.follow p.start p.moves

def node? (t : FileTree) (p : Path) : Option Node := (t.locate? p).bind t.look

/-- The content of the file at a path, if it is a text. -/
def read? (t : FileTree) (p : Path) : Option String :=
  match t.node? p with
  | some (.file bytes) => Text.ofBytes? bytes
  | _ => none

def remove (t : FileTree) (p : Path) : FileTree :=
  match t.locate? p with
  | none => t
  | some l => t.erase l

/-- Each file's path with its bytes, and the path of each empty directory, below the working
directory. -/
def listing (t : FileTree) : List (String × Option (List UInt8)) :=
  let filled := t.nodes.map fun entry => entry.1.up
  t.nodes.filterMap fun (l, n) =>
    if l.anchor != .above 0 then none
    else
      match n with
      | .file bytes => some (l.names, some bytes)
      | .directory => if filled.contains l then none else some (l.names ++ "/", none)

end FileTree

end Buildwright
