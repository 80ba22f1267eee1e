import Buildwright.Files.Medium

/-!
# Disks

What the program asks of the place where its files are. A file tree on a medium is one such place.
-/

namespace Buildwright

class Disk (m : Type → Type) where
  /-- The content of the file at a path. -/
  read? : Path → m (Option String)
  /-- Whether something stands at a path. -/
  isTaken : Path → m Bool
  /-- Makes the directory at a path and those that it stands in, if it can. -/
  makeDirectories : Path → m Bool
  /-- Writes a file at a path, if it can. -/
  put : Path → String → m Bool

abbrev FileAction := ReaderT Medium (StateM FileTree)

instance : Disk FileAction where
  read? p := fun m t => (t.readOn? m p, t)
  isTaken p := fun _ t => ((t.node? p).isSome, t)
  makeDirectories p := fun m t => t.makeDirectories m p
  put p content := fun m t => t.put m p content

namespace FileTree

/-- Carries out on a file tree what is asked of a disk. -/
def performOn (m : Medium) (t : FileTree) (act : FileAction α) : α × FileTree := act m t

/-- Carries out on a file tree what is asked of a disk that never fails. -/
def perform (t : FileTree) (act : FileAction α) : α × FileTree := t.performOn .sound act

end FileTree

end Buildwright
