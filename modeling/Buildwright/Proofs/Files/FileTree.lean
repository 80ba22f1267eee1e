import Buildwright.Files.Medium

/-!
# What a write leaves as it is

Where a path leads does not depend on what stands there. Directories are only made where nothing
was, and a file is only written where no directory is, so every directory stays, and every file but
the one that is written.
-/

namespace Buildwright

/-- Where a path would lead if every directory on its way existed. -/
def Path.destination? (p : Path) : Option Location := p.moves.foldlM Move.target? p.start

namespace FileTree

def Extends (t' t : FileTree) : Prop := ∀ l n, t.look l = some n → t'.look l = some n

def KeepsDirectories (t' t : FileTree) : Prop :=
  ∀ l, t.isDirectory l = true → t'.isDirectory l = true

theorem isDirectory_iff {t : FileTree} {l : Location} :
    t.isDirectory l = true ↔ t.look l = some .directory := by
  rw [isDirectory, beq_iff_eq]

namespace Extends

theorem refl (t : FileTree) : t.Extends t := fun _ _ h => h

theorem trans {t t' t'' : FileTree} (h' : t''.Extends t') (h : t'.Extends t) : t''.Extends t :=
  fun l n hn => h' l n (h l n hn)

theorem keepsDirectories {t t' : FileTree} (h : t'.Extends t) : t'.KeepsDirectories t :=
  fun l hl => isDirectory_iff.2 (h l _ (isDirectory_iff.1 hl))

end Extends

theorem isAnchor_eq_false {t : FileTree} {l : Location} (h : t.isDirectory l = false) :
    l.isAnchor = false := by
  rw [← Bool.not_eq_true] at h ⊢
  exact fun hanchor => h (isDirectory_iff.2 (t.look_of_isAnchor hanchor))

theorem isAnchor_eq_false_of_free {t : FileTree} {l : Location} (h : t.look l = none) :
    l.isAnchor = false := by
  apply isAnchor_eq_false (t := t)
  rw [isDirectory, h]
  rfl

theorem extends_insert {t : FileTree} {l : Location} (n : Node) (h : t.look l = none) :
    (t.insert l n).Extends t := by
  intro l' n' hn'
  have hne : l' ≠ l := by
    rintro rfl
    rw [h] at hn'
    cases hn'
  rw [look_insert t n l' (isAnchor_eq_false_of_free h), if_neg hne, hn']

theorem keepsDirectories_insert {t : FileTree} {l : Location} (n : Node)
    (h : t.isDirectory l = false) : (t.insert l n).KeepsDirectories t := by
  intro l' hl'
  have hne : l' ≠ l := by
    rintro rfl
    rw [h] at hl'
    cases hl'
  rw [isDirectory, look_insert t n l' (isAnchor_eq_false h), if_neg hne]
  exact hl'

/-! ## Following paths -/

theorem follow_of_keepsDirectories {t t' : FileTree} (h : t'.KeepsDirectories t)
    {l l' : Location} {moves : List Move} (hfollow : t.follow l moves = some l') :
    t'.follow l moves = some l' := by
  induction moves generalizing l with
  | nil => exact hfollow
  | cons move rest ih =>
    rw [follow] at hfollow ⊢
    by_cases hl : t.isDirectory l = true
    · rw [if_pos hl] at hfollow
      rw [if_pos (h l hl)]
      cases htarget : move.target? l with
      | none =>
        rw [htarget] at hfollow
        cases hfollow
      | some next =>
        rw [htarget] at hfollow
        exact ih hfollow
    · rw [if_neg hl] at hfollow
      cases hfollow

theorem follow_eq_some {t : FileTree} {l l' : Location} {moves : List Move}
    (h : t.follow l moves = some l') : moves.foldlM Move.target? l = some l' := by
  induction moves generalizing l with
  | nil => exact h
  | cons move rest ih =>
    rw [follow] at h
    split at h
    · split at h
      · next next htarget =>
        rw [List.foldlM_cons, htarget]
        exact ih h
      · cases h
    · cases h

theorem locate?_of_keepsDirectories {t t' : FileTree} (h : t'.KeepsDirectories t) {p : Path}
    {l : Location} (hl : t.locate? p = some l) : t'.locate? p = some l := by
  unfold locate? at hl ⊢
  split at hl
  · cases hl
  · next hsound => exact (if_neg hsound).trans (follow_of_keepsDirectories h hl)

theorem destination?_of_locate? {t : FileTree} {p : Path} {l : Location}
    (h : t.locate? p = some l) : p.destination? = some l := by
  unfold locate? at h
  split at h
  · cases h
  · exact follow_eq_some h

theorem read?_of_locate? {t : FileTree} {p : Path} {l : Location} {bytes : List UInt8}
    (hl : t.locate? p = some l) (hfile : t.look l = some (.file bytes)) :
    t.read? p = Text.ofBytes? bytes := by
  simp only [read?, node?, hl, Option.bind_some, hfile]

variable (m : Medium) (t : FileTree)

theorem extends_pave (l : Location) (moves : List Move) : (t.pave m l moves).2.Extends t := by
  induction moves generalizing t l with
  | nil => exact .refl t
  | cons move rest ih =>
    rw [pave]
    split
    · exact .refl t
    · split
      · exact ih t _
      · exact .refl t
      · next hfree =>
        split
        · exact (ih _ _).trans (extends_insert _ hfree)
        · exact .refl t

theorem extends_makeDirectories (p : Path) : (t.makeDirectories m p).2.Extends t := by
  unfold makeDirectories
  split
  · exact .refl t
  · split
    · split
      · exact .refl t
      · exact extends_pave m t _ _
    · exact extends_pave m t _ _

/-- A file is written where its path leads to and no directory is, or nowhere. -/
theorem put_cases (p : Path) (content : String) :
    t.put m p content = (false, t) ∨
      ∃ l isWritten bytes, t.locate? p = some l ∧ t.isDirectory l = false ∧
        (m.fate t l (Text.bytes content)).result? (Text.bytes content) = some (isWritten, bytes) ∧
        t.put m p content = (isWritten, t.insert l (.file bytes)) := by
  unfold put
  cases hl : t.locate? p with
  | none => exact .inl rfl
  | some l =>
    dsimp only
    split
    · exact .inl rfl
    · next hdir =>
      split
      · exact .inl rfl
      · next isWritten bytes hresult =>
        exact .inr ⟨l, isWritten, bytes, rfl, Bool.eq_false_iff.2 hdir, hresult, rfl⟩

variable {m t} {p : Path} {l : Location}

theorem look_insert_self (hdir : t.isDirectory l = false) (n : Node) :
    (t.insert l n).look l = some n := by
  rw [look_insert t n l (isAnchor_eq_false hdir), if_pos rfl]

theorem locate?_insert (hl : t.locate? p = some l) (hdir : t.isDirectory l = false) (n : Node) :
    (t.insert l n).locate? p = some l :=
  locate?_of_keepsDirectories (keepsDirectories_insert n hdir) hl

theorem read?_insert (hl : t.locate? p = some l) (hdir : t.isDirectory l = false)
    (bytes : List UInt8) : (t.insert l (.file bytes)).read? p = Text.ofBytes? bytes :=
  read?_of_locate? (locate?_insert hl hdir _) (look_insert_self hdir _)

end FileTree

end Buildwright
