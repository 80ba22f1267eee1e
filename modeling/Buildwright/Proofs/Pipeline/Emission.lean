import Buildwright.Proofs.Files.Writing
import Buildwright.Report.Generation

/-!
# What an emission leaves behind

An emission is a single write, and none where builders collide. What it writes depends on the
compilation alone, so a second emission finds the file as it would write it.
-/

namespace Buildwright

namespace Compilation

variable {c : Compilation}

theorem preview_eq_error {e : Source.Collision} :
    c.preview = .error e ↔ Source.collision? c.builders = some e := by
  unfold preview Source.emit
  cases Source.collision? c.builders <;> simp

variable (t : FileTree) (dir : Path)

theorem perform_emitTo_of_error {e : Source.Collision} (h : c.preview = .error e) :
    t.perform (c.emitTo dir) = (.error (.collision e), t) := by
  unfold emitTo
  rw [h]
  rfl

theorem perform_emitTo_of_ok {file : Source.Emitted} (h : c.preview = .ok file) :
    t.perform (c.emitTo dir) =
      (((t.perform ((dir.join ⟨file.path⟩).write .ifChanged file.content)).1.mapError
          EmissionFault.unwritten).map
          fun outcome => ⟨file.path, outcome != .unchanged, c.builders.length⟩,
        (t.perform ((dir.join ⟨file.path⟩).write .ifChanged file.content)).2) := by
  unfold emitTo
  rw [h]
  dsimp only
  rw [FileTree.perform_bind]
  cases (t.perform ((dir.join ⟨file.path⟩).write .ifChanged file.content)).1 <;> rfl

variable {t dir}

end Compilation

theorem Manifest.perform_generate (m : Manifest) (t : FileTree) (dir : Path) (isDryRun : Bool) :
    t.perform (m.generate dir isDryRun) =
      let c := Compilation.ofManifest m
      if c.hasErrors then (.ok ⟨c.diagnostics, c.builders, none⟩, t)
      else if isDryRun then
        ((c.preview.mapError GenerationFault.preview).map fun file =>
          ⟨c.diagnostics, c.builders, some (.preview file)⟩, t)
      else
        (((t.perform (c.emitTo dir)).1.mapError GenerationFault.emission).map fun e =>
          ⟨c.diagnostics, c.builders, some (.written dir e)⟩, (t.perform (c.emitTo dir)).2) := by
  unfold generate
  dsimp only
  cases (Compilation.ofManifest m).hasErrors with
  | true => rfl
  | false =>
    cases isDryRun with
    | true => cases (Compilation.ofManifest m).preview <;> rfl
    | false =>
      simp only [Bool.false_eq_true, if_false, FileTree.perform_bind]
      cases (t.perform ((Compilation.ofManifest m).emitTo dir)).1 <;> rfl

end Buildwright
