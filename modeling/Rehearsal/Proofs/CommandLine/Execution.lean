import Rehearsal.CommandLine.Execution
import Rehearsal.Proofs.Except

/-!
# The parts of a subcommand

A subcommand plays runs and changes files. What it does to the scene is what its parts do, whether
they succeed or fail.
-/

namespace Rehearsal.CommandLine

variable {scene : Batch.Scene Host}

theorem play_apply {α : Type} (act : Batch.Act Host α) (scene : Batch.Scene Host) :
    play act scene = ((act scene).1.mapError .notPlayed, (act scene).2) := by
  rw [play]
  cases act scene with
  | mk result after => cases result <;> rfl

theorem play_ok_iff {α : Type} {act : Batch.Act Host α} {a : α} :
    (play act scene).1 = .ok a ↔ (act scene).1 = .ok a := by
  rw [play_apply, mapError_eq_ok_iff]

theorem play_snd {α : Type} (act : Batch.Act Host α) (scene : Batch.Scene Host) :
    (play act scene).2 = (act scene).2 := by
  rw [play_apply]

/-- A scene with other files. -/
def withFiles (scene : Batch.Scene Host) (files : FileTree) : Batch.Scene Host :=
  { scene with world := { scene.world with files } }

theorem changeFiles_apply (fail : FileError → Failure) (change : Host → FileTree.Change)
    (scene : Batch.Scene Host) :
    changeFiles fail change scene =
      ((change scene.world).2.mapError fail, withFiles scene (change scene.world).1) := by
  have hget : (get : Act (Batch.Scene Host)) scene = (.ok scene, scene) := rfl
  rw [changeFiles, bind_apply, hget]
  dsimp only
  obtain ⟨files, result⟩ := change scene.world
  cases result with
  | ok u => rfl
  | error cause => rfl

theorem changeFiles_ok_iff {fail : FileError → Failure} {change : Host → FileTree.Change}
    {u : Unit} : (changeFiles fail change scene).1 = .ok u ↔ (change scene.world).2 = .ok () := by
  rw [changeFiles_apply, mapError_eq_ok_iff]

end Rehearsal.CommandLine
