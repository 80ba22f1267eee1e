import Buildwright.Files.FileTree

/-!
# Media

A file tree changes on a medium, which may refuse to make a directory, to read a file or to write
one. A file is emptied before it is written, so a write that stops midway leaves a part of it.
-/

namespace Buildwright

inductive Fate where
  | kept
  | refused
  /-- The writing stops after a number of bytes. -/
  | cut (count : Nat)
  /-- All bytes are taken, and none is kept. -/
  | lost
deriving Repr, DecidableEq, Inhabited

/-- Whether the write succeeds and what the file then holds, unless the file is left alone. -/
def Fate.result? (bytes : List UInt8) : Fate → Option (Bool × List UInt8)
  | .kept => some (true, bytes)
  | .refused => none
  | .cut count => some (false, bytes.take count)
  | .lost => some (true, [])

structure Medium where
  /-- Whether a directory can be made at a place. -/
  admits : FileTree → Location → Bool
  /-- Whether the file at a place can be read. -/
  shows : Location → Bool
  fate : FileTree → Location → List UInt8 → Fate

/-- The medium on which nothing fails. -/
def Medium.sound : Medium := ⟨fun _ _ => true, fun _ => true, fun _ _ _ => .kept⟩

/-- The medium on which no file grows beyond a number of bytes. -/
def Medium.full (room : Nat) : Medium :=
  { Medium.sound with fate := fun _ _ bytes => if bytes.length ≤ room then .kept else .cut room }

namespace FileTree

/-- The content of the file at a path, if it can be read. -/
def readOn? (m : Medium) (t : FileTree) (p : Path) : Option String :=
  if (t.locate? p).any m.shows then t.read? p else none

/-- Makes the directories on the way that are missing, and says whether the end was reached. -/
def pave (m : Medium) (t : FileTree) : Location → List Move → Bool × FileTree
  | _, [] => (true, t)
  | l, move :: rest =>
    match move.target? l with
    | none => (false, t)
    | some l' =>
      match t.look l' with
      | some .directory => t.pave m l' rest
      | some (.file _) => (false, t)
      | none => if m.admits t l' then (t.insert l' .directory).pave m l' rest else (false, t)

/-- Makes the directory at a path and those that it stands in, unless they exist; the empty path is
the working directory. A path that ends in `.` can only be that of a directory that is there. -/
def makeDirectories (m : Medium) (t : FileTree) (p : Path) : Bool × FileTree :=
  if !p.isSound then (false, t)
  else if p.endsInDot then
    match p.parent? with
    | none => (true, t)
    | some parent =>
      let (paved, t) := t.pave m parent.start parent.moves
      (paved && t.node? p == some .directory, t)
  else
    t.pave m p.start p.moves

/-- Writes a file at a path, where no directory is, and says whether that succeeded. -/
def put (m : Medium) (t : FileTree) (p : Path) (content : String) : Bool × FileTree :=
  match t.locate? p with
  | none => (false, t)
  | some l =>
    if t.isDirectory l then (false, t)
    else
      match (m.fate t l (Text.bytes content)).result? (Text.bytes content) with
      | none => (false, t)
      | some (isWritten, bytes) => (isWritten, t.insert l (.file bytes))

end FileTree

/-! ## The null device -/

/-- Where the file stands that stays empty whatever is written to it. -/
def Location.null : Location := ⟨.root, "dev/null"⟩

/-- A machine without files of its own. -/
def FileTree.withNull : FileTree :=
  ⟨[(.null, .file []), (⟨.root, "dev"⟩, .directory)]⟩

def Medium.withNull : Medium :=
  { Medium.sound with fate := fun _ l _ => if l = .null then .lost else .kept }

end Buildwright
