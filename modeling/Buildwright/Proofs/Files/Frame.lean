import Buildwright.Proofs.Files.Path
import Buildwright.Proofs.Files.Writing

/-!
# What a write touches

A write changes the file tree at the path's destination and at the directories above it, and nowhere
else, however it ends.
-/

namespace Buildwright.FileTree

/-- The two trees differ only in directories of `t'` at free places of `t`, all of them in `way`. -/
def Paved (t' t : FileTree) (way : Location → Prop) : Prop :=
  ∀ l, t'.look l ≠ t.look l → way l ∧ t.look l = none ∧ t'.look l = some .directory

namespace Paved

theorem refl (t : FileTree) (way : Location → Prop) : t.Paved t way := fun _ h => absurd rfl h

theorem mono {t t' : FileTree} {way wider : Location → Prop} (h : t'.Paved t way)
    (hwider : ∀ l, way l → wider l) : t'.Paved t wider := fun l hl =>
  have ⟨hway, hfree, hmade⟩ := h l hl
  ⟨hwider l hway, hfree, hmade⟩

end Paved

variable (m : Medium)

theorem paved_pave (t : FileTree) (l : Location) (moves : List Move) :
    (t.pave m l moves).2.Paved t fun l' =>
      ∃ way, way <+: moves ∧ way.foldlM Move.target? l = some l' := by
  induction moves generalizing t l with
  | nil => exact .refl t _
  | cons move rest ih =>
    rw [pave]
    split
    · exact .refl t _
    · next next htarget =>
      have hlater : ∀ l', (∃ way, way <+: rest ∧ way.foldlM Move.target? next = some l') →
          ∃ way, way <+: move :: rest ∧ way.foldlM Move.target? l = some l' := by
        rintro l' ⟨way, hway, hl'⟩
        refine ⟨move :: way, (List.prefix_cons_inj move).2 hway, ?_⟩
        rw [List.foldlM_cons, htarget]
        exact hl'
      split
      · exact (ih t next).mono hlater
      · exact .refl t _
      · next hfree =>
        split
        · intro l' hl'
          have hinsert := look_insert t .directory l' (isAnchor_eq_false_of_free hfree)
          have hkept := extends_pave m (t.insert next .directory) next rest
          by_cases hnext : l' = next
          · subst hnext
            rw [if_pos rfl] at hinsert
            exact ⟨hlater l' ⟨[], List.nil_prefix, rfl⟩, hfree, hkept l' _ hinsert⟩
          · rw [if_neg hnext] at hinsert
            rw [← hinsert] at hl' ⊢
            exact (ih _ next).mono hlater l' hl'
        · exact .refl t _

theorem paved_makeDirectories (t : FileTree) (p : Path) :
    (t.makeDirectories m p).2.Paved t p.Passes := by
  unfold makeDirectories
  split
  · exact .refl t _
  · split
    · split
      · exact .refl t _
      · next parent hparent =>
        refine (paved_pave m t parent.start parent.moves).mono fun l ⟨way, hway, hl⟩ => ?_
        exact ((Path.passes_parent? hparent).1 (Path.passes_of_prefix hway hl)).passes
    · exact (paved_pave m t p.start p.moves).mono fun l ⟨way, hway, hl⟩ =>
        Path.passes_of_prefix hway hl

variable (t : FileTree) (p : Path) (content : String)

theorem paved_makeParent : (t.performOn m p.makeParent).2.Paved t p.Ancestor := by
  unfold Path.makeParent
  split
  · exact .refl t _
  · next parent hparent =>
    have hmade := (paved_makeDirectories m t parent).mono fun l => (Path.passes_parent? hparent).1
    rw [performOn_bind]
    show (FileTree.performOn m _ (if (t.makeDirectories m parent).1 then _ else _)).2.Paved t
      p.Ancestor
    split <;> exact hmade

/-! ## What a write leaves -/

/-- What becomes of the content when it is written at the path, with its directory made. -/
def fate? : Option Fate :=
  let paved := (t.performOn m p.makeParent).2
  (paved.locate? p).map fun l => m.fate paved l (Text.bytes content)

/-- The bytes that a write may leave in its file, given what it returned. -/
def Leaves (result : Except WriteFault WriteOutcome) (bytes : List UInt8) : Prop :=
  (result = .ok .written ∧ t.fate? m p content = some .kept ∧ bytes = Text.bytes content) ∨
    (result = .ok .written ∧ t.fate? m p content = some .lost ∧ bytes = []) ∨
    ∃ count, result = .error (.noFile p) ∧ t.fate? m p content = some (.cut count) ∧
      bytes = (Text.bytes content).take count

/-- A change that a write of `content` at `p` may make, given what it returned. -/
def Touches (t' : FileTree) (result : Except WriteFault WriteOutcome) (l : Location) : Prop :=
  (∃ bytes, t.Leaves m p content result bytes ∧ p.destination? = some l ∧
      t.look l ≠ some .directory ∧ t'.look l = some (.file bytes)) ∨
    (p.Ancestor l ∧ t.look l = none ∧ t'.look l = some .directory)

/-- A file that is put fails without a trace, or its place holds what the write leaves. -/
theorem putFile_cases :
    (∃ e, t.performOn m (p.putFile content) = (.error e, (t.performOn m p.makeParent).2)) ∨
      ∃ result l bytes, (t.performOn m p.makeParent).2.locate? p = some l ∧
        (t.performOn m p.makeParent).2.isDirectory l = false ∧
        t.Leaves m p content result bytes ∧
        t.performOn m (p.putFile content) =
          (result, (t.performOn m p.makeParent).2.insert l (.file bytes)) := by
  obtain h | ⟨l, isWritten, bytes, hl, hdir, hresult, h⟩ := performOn_putFile m t p content
  · exact .inl h
  · refine .inr ⟨_, l, bytes, hl, hdir, ?_, h⟩
    have hfate : t.fate? m p content =
        some (m.fate (t.performOn m p.makeParent).2 l (Text.bytes content)) := by
      simp only [fate?, hl, Option.map_some]
    rw [Leaves, hfate]
    cases hcase : m.fate (t.performOn m p.makeParent).2 l (Text.bytes content) with
    | kept =>
      rw [hcase] at hresult
      obtain ⟨rfl, rfl⟩ := Prod.ext_iff.1 (Option.some.inj hresult)
      exact .inl ⟨rfl, rfl, rfl⟩
    | refused =>
      rw [hcase] at hresult
      cases hresult
    | cut count =>
      rw [hcase] at hresult
      obtain ⟨rfl, rfl⟩ := Prod.ext_iff.1 (Option.some.inj hresult)
      exact .inr (.inr ⟨count, rfl, rfl, rfl⟩)
    | lost =>
      rw [hcase] at hresult
      obtain ⟨rfl, rfl⟩ := Prod.ext_iff.1 (Option.some.inj hresult)
      exact .inr (.inl ⟨rfl, rfl, rfl⟩)

theorem look_putFile {l : Location}
    (hl : (t.performOn m (p.putFile content)).2.look l ≠ t.look l) :
    t.Touches m p content (t.performOn m (p.putFile content)).2
      (t.performOn m (p.putFile content)).1 l := by
  have hparent := paved_makeParent m t p
  obtain ⟨e, h⟩ | ⟨result, place, bytes, hplace, hdir, hleaves, h⟩ := putFile_cases m t p content
  · rw [h] at hl ⊢
    exact .inr (hparent l hl)
  · have hinsert :=
      look_insert (t.performOn m p.makeParent).2 (.file bytes) l (isAnchor_eq_false hdir)
    rw [h] at hl ⊢
    by_cases heq : l = place
    · subst heq
      rw [if_pos rfl] at hinsert
      refine .inl ⟨bytes, hleaves, destination?_of_locate? hplace, fun hold => ?_, hinsert⟩
      rw [(extends_makeParent m t p).keepsDirectories l (isDirectory_iff.2 hold)] at hdir
      cases hdir
    · rw [if_neg heq] at hinsert
      rw [Touches, hinsert]
      rw [hinsert] at hl
      exact .inr (hparent l hl)

theorem performOn_write_cases (rule : WriteRule) :
    (rule = .ifMissing ∧ (t.node? p).isSome = true ∧
        t.performOn m (p.write rule content) = (.ok .skipped, t)) ∨
      (rule = .ifChanged ∧ t.readOn? m p = some content ∧
        t.performOn m (p.write rule content) = (.ok .unchanged, t)) ∨
      (¬(rule = .ifMissing ∧ (t.node? p).isSome = true) ∧
        ¬(rule = .ifChanged ∧ t.readOn? m p = some content) ∧
        t.performOn m (p.write rule content) = t.performOn m (p.putFile content)) := by
  cases rule with
  | always => exact .inr (.inr ⟨by simp, by simp, rfl⟩)
  | ifMissing =>
    rw [performOn_write_ifMissing]
    by_cases htaken : (t.node? p).isSome = true
    · exact .inl ⟨rfl, htaken, if_pos htaken⟩
    · exact .inr (.inr ⟨by simp [htaken], by simp, if_neg htaken⟩)
  | ifChanged =>
    rw [performOn_write_ifChanged]
    by_cases hsame : t.readOn? m p = some content
    · exact .inr (.inl ⟨rfl, hsame, if_pos hsame⟩)
    · exact .inr (.inr ⟨by simp, by simp [hsame], if_neg hsame⟩)

/-- A file that is put and does not fail is written, and can be read if the medium kept it. -/
theorem putFile_eq_ok {outcome : WriteOutcome}
    (h : (t.performOn m (p.putFile content)).1 = .ok outcome) :
    outcome = .written ∧
      ((t.performOn m (p.putFile content)).2.read? p = some content ∨
        t.fate? m p content = some .lost ∧
          (t.performOn m (p.putFile content)).2.read? p = some "") := by
  obtain ⟨e, hrun⟩ | ⟨result, l, bytes, hl, hdir, hleaves, hrun⟩ := putFile_cases m t p content
  · rw [hrun] at h
    cases h
  · rw [hrun] at h ⊢
    have hread := read?_insert hl hdir bytes
    obtain ⟨rfl, -, rfl⟩ | ⟨rfl, hlost, rfl⟩ | ⟨_, rfl, -, -⟩ := hleaves
    · exact ⟨(Except.ok.inj h).symm, .inl (hread.trans (Text.ofBytes?_bytes content))⟩
    · exact ⟨(Except.ok.inj h).symm, .inr ⟨hlost, hread.trans (Text.ofBytes?_bytes "")⟩⟩
    · cases h

/-- Writing a file on any medium: what is returned and why, what is then at the path, what else may
have changed, and what a second write finds. -/
theorem write_frame (rule : WriteRule) :
    let run := t.performOn m (p.write rule content)
    (run.1 = .ok .skipped ↔ rule = .ifMissing ∧ (t.node? p).isSome = true) ∧
      (run.1 = .ok .unchanged ↔ rule = .ifChanged ∧ t.readOn? m p = some content) ∧
      (run.1 = .ok .skipped ∨ run.1 = .ok .unchanged → run.2 = t) ∧
      (run.1 = .ok .written → run.2.read? p = some content ∨
        t.fate? m p content = some .lost ∧ run.2.read? p = some "") ∧
      (∀ l, run.2.look l ≠ t.look l → t.Touches m p content run.2 run.1 l) ∧
      (∀ outcome, rule = .ifChanged → run.1 = .ok outcome → t.fate? m p content ≠ some .lost →
        ∀ m' : Medium, (∀ l, p.destination? = some l → m'.shows l = true) →
          run.2.performOn m' (p.write rule content) = (.ok .unchanged, run.2)) := by
  dsimp only
  have hagain : ∀ {t' : FileTree}, t'.read? p = some content → ∀ m' : Medium,
      (∀ l, p.destination? = some l → m'.shows l = true) →
      t'.performOn m' (p.write .ifChanged content) = (.ok .unchanged, t') :=
    fun hread m' hshows => performOn_write_unchanged ((readOn?_eq hshows _).trans hread)
  obtain ⟨rfl, htaken, h⟩ | ⟨rfl, hsame, h⟩ | ⟨hmissing, hchanged, h⟩ :=
    performOn_write_cases m t p content rule
  · rw [h]
    simp [htaken]
  · rw [h]
    refine ⟨by simp, by simp [hsame], fun _ => rfl, nofun, fun l hl => absurd rfl hl, ?_⟩
    exact fun _ _ _ _ => hagain (read?_of_readOn? hsame)
  · rw [h]
    have hskipped : (t.performOn m (p.putFile content)).1 ≠ .ok .skipped := fun hrun =>
      nomatch (putFile_eq_ok m t p content hrun).1
    have hunchanged : (t.performOn m (p.putFile content)).1 ≠ .ok .unchanged := fun hrun =>
      nomatch (putFile_eq_ok m t p content hrun).1
    refine ⟨iff_of_false hskipped hmissing, iff_of_false hunchanged hchanged,
      fun hrun => absurd hrun (not_or.2 ⟨hskipped, hunchanged⟩),
      fun hrun => (putFile_eq_ok m t p content hrun).2, fun l => look_putFile m t p content, ?_⟩
    rintro outcome rfl hrun hkept
    obtain hread | ⟨hlost, _⟩ := (putFile_eq_ok m t p content hrun).2
    · exact hagain hread
    · exact absurd hlost hkept

/-- A write that stops midway leaves neither the old content nor the new one, and what is written to
the null device is gone. -/
theorem write_leaves_part :
    let old : FileTree := ⟨[(⟨.above 0, "a.rs"⟩, .file (Text.bytes "old"))]⟩
    let cut := old.performOn (.full 1) (Path.write ⟨"a.rs"⟩ .always "new")
    let null := FileTree.withNull.performOn .withNull (Path.write ⟨"/dev/null"⟩ .ifChanged "new")
    (old.read? ⟨"a.rs"⟩ = some "old" ∧ cut.1 = .error (.noFile ⟨"a.rs"⟩) ∧
        cut.2.read? ⟨"a.rs"⟩ = some "n") ∧
      null.1 = .ok .written ∧ null.2.read? ⟨"/dev/null"⟩ = some "" ∧
      (null.2.performOn .withNull (Path.write ⟨"/dev/null"⟩ .ifChanged "new")).1 =
        .ok .written := by
  decide

end Buildwright.FileTree
