import Rehearsal.Proofs.Batch
import Rehearsal.Proofs.CommandLine.Execution
import Rehearsal.Proofs.Config.Load

/-!
# Writing the example configuration

The configuration is written as a new file, so it takes the place of nothing: either it is made
where nothing was, or no file is made at all (`CommandLine.InitEnds`). Once it has been made it is in
its own way. The main statement is `CommandLine.new_file_destroys_nothing`.
-/

namespace Rehearsal.CommandLine

open Config (fileIn neverUp_fileIn)
open FileTree (placeOf Puts AddsDirs Reaches WritesNew)

/-- The line that says that a file was created. -/
def createdLine (terminal : Terminal) (path : Path) : Bytes :=
  .ofString (terminal.paint { foreground := some .green } ("Created " ++ path.display) ++ "\n")

/-- Saying that it was changes nothing but the sink, and can fail. -/
theorem say_apply (data : Bytes) (scene : Batch.Scene Host) :
    (do play (Batch.write data); return true : Act Bool) scene =
      match scene.out.write data with
      | .ok out => (.ok true, { scene with out })
      | .error out => (.error (.notPlayed .sinkFull), { scene with out }) := by
  rw [bind_apply, play_apply, Batch.write_apply]
  cases scene.out.write data with
  | ok out => rfl
  | error out => rfl

theorem runInit_apply (terminal : Terminal) (dir : Path) (scene : Batch.Scene Host) :
    runInit terminal dir scene =
      let path := fileIn dir
      let change := scene.world.files.writeNew scene.world.directory path
        (.ofString Config.exampleText)
      match change.2 with
      | .error cause => (.error (.notCreated cause), withFiles scene change.1)
      | .ok () =>
        match scene.out.write (createdLine terminal path) with
        | .ok out => (.ok true, { withFiles scene change.1 with out })
        | .error out => (.error (.notPlayed .sinkFull), { withFiles scene change.1 with out }) := by
  rw [runInit, bind_apply, changeFiles_apply, fileIn]
  dsimp only
  generalize scene.world.files.writeNew scene.world.directory _ _ = change
  obtain ⟨files, result⟩ := change
  cases result with
  | error cause => rfl
  | ok u => exact say_apply _ _

/-- What writing an example configuration comes to: it is made where nothing was, or no file is. -/
inductive InitEnds (t : FileTree) (place : Place) : Except Failure Bool → FileTree → Prop
  | created {t' : FileTree} : t.lookup? place = none →
      Puts t t' place (.file (.ofString Config.exampleText)) → InitEnds t place (.ok true) t'
  /-- The file was created, but there is no room to say so. -/
  | unsaid {t' : FileTree} : t.lookup? place = none →
      Puts t t' place (.file (.ofString Config.exampleText)) →
        InitEnds t place (.error (.notPlayed .sinkFull)) t'
  | refused {t' : FileTree} (cause : FileError) : AddsDirs t t' place →
      InitEnds t place (.error (.notCreated cause)) t'

variable {t t' : FileTree} {place q : Place}

theorem InitEnds.keeps {result : Except Failure Bool} (h : InitEnds t place result t')
    {entry : Entry} (hq : t.lookup? q = some entry) : t'.lookup? q = some entry := by
  cases h with
  | created hmissing hputs => exact hputs.keeps hmissing hq
  | unsaid hmissing hputs => exact hputs.keeps hmissing hq
  | refused cause hadds => exact hadds.keeps hq

section

variable {terminal : Terminal} {dir : Path} {scene : Batch.Scene Host}

theorem initEnds_runInit (terminal : Terminal) (htree : scene.world.files.IsRooted)
    (hup : dir.NeverUp) :
    InitEnds scene.world.files (placeOf scene.world.directory (fileIn dir))
      (runInit terminal dir scene).1 (runInit terminal dir scene).2.world.files := by
  have hwrites := FileTree.writesNew_writeNew htree scene.world.directory
    (neverUp_fileIn hup) (.ofString Config.exampleText)
  rw [runInit_apply]
  dsimp only
  generalize scene.world.files.writeNew scene.world.directory (fileIn dir) _ = change at hwrites ⊢
  obtain ⟨files, result⟩ := change
  cases result with
  | error cause => exact .refused cause (hwrites.fails cause rfl)
  | ok u =>
    obtain ⟨hmissing, hputs⟩ := hwrites.creates rfl
    dsimp only
    cases scene.out.write (createdLine terminal (fileIn dir)) with
    | ok out => exact .created hmissing hputs
    | error out => exact .unsaid hmissing hputs

/-- With room to say so, it is created if and only if nothing is in the way. -/
theorem runInit_ok_true_iff (terminal : Terminal) (htree : scene.world.files.IsRooted)
    (hcwd : scene.world.files.hasDir scene.world.directory = true) (hup : dir.NeverUp)
    (hroom : scene.out.room = none) :
    (runInit terminal dir scene).1 = .ok true ↔
      scene.world.files.IsFree scene.world.directory (fileIn dir) ∧
        scene.world.files.lookup? (placeOf scene.world.directory (fileIn dir)) = none := by
  have hwrites := FileTree.writesNew_writeNew htree scene.world.directory
    (neverUp_fileIn hup) (.ofString Config.exampleText)
  rw [← hwrites.ok_iff hcwd, runInit_apply]
  dsimp only
  generalize scene.world.files.writeNew scene.world.directory (fileIn dir) _ = change
  obtain ⟨files, result⟩ := change
  cases result with
  | error cause => exact iff_of_false (by rintro ⟨⟩) (by rintro ⟨⟩)
  | ok u =>
    dsimp only
    rw [Sink.write_of_room_eq_none hroom]
    exact iff_of_true rfl rfl

/-- Where the file lies, another one is not made, and nothing is changed. -/
theorem runInit_of_reaches (htree : scene.world.files.IsRooted) (hup : dir.NeverUp)
    (hreaches : scene.world.files.Reaches scene.world.directory (fileIn dir)) :
    runInit terminal dir scene = (.error (.notCreated (.alreadyExists (fileIn dir))), scene) := by
  have hwrites := FileTree.writesNew_writeNew htree scene.world.directory
    (neverUp_fileIn hup) (.ofString Config.exampleText)
  have herror := (hwrites.alreadyExists_iff _).mpr ⟨rfl, hreaches⟩
  rw [runInit_apply]
  dsimp only
  rw [herror, hwrites.unchanged hreaches]
  rfl

/-- After it has been created, the file can be reached. -/
theorem reaches_of_runInit (htree : scene.world.files.IsRooted) (hup : dir.NeverUp)
    (h : (runInit terminal dir scene).1 = .ok true) :
    let after := (runInit terminal dir scene).2
    after.world.directory = scene.world.directory ∧ after.world.files.IsRooted ∧
      after.world.files.Reaches scene.world.directory (fileIn dir) := by
  have hcases := FileTree.writeNew_cases htree scene.world.directory
    (neverUp_fileIn hup) (.ofString Config.exampleText)
  rw [runInit_apply] at h ⊢
  dsimp only at h ⊢
  generalize scene.world.files.writeNew scene.world.directory (fileIn dir) _ = change
    at hcases h ⊢
  obtain ⟨files, result⟩ := change
  cases result with
  | error cause => cases h
  | ok u =>
    dsimp only at h ⊢
    -- It was not there before, and nothing has failed, so it was put there.
    have hputs : scene.world.files.PutsAt scene.world.directory (fileIn dir)
        (.ofString Config.exampleText) true files (.file (.ofString Config.exampleText)) := by
      rcases hcases with ⟨-, hexists⟩ | ⟨-, ⟨action, path, cause, herror, -⟩ | ⟨-, hputs⟩⟩
      · cases hexists
      · cases herror
      · exact hputs
    cases scene.out.write (createdLine terminal (fileIn dir)) with
    | ok out => exact ⟨rfl, hputs.isRooted, hputs.reaches⟩
    | error out => exact ⟨rfl, hputs.isRooted, hputs.reaches⟩

end

/-- **A new file destroys nothing.** Whatever there is and whatever becomes of the attempt, every
file has the bytes that it had and every directory is still there. So it is with the example
configuration, which is made where nothing is in the way, and once at most. -/
theorem new_file_destroys_nothing {scene : Batch.Scene Host} (htree : scene.world.files.IsRooted) :
    let t := scene.world.files
    let cwd := scene.world.directory
    (∀ (p : Path) (contents : Bytes), p.NeverUp →
      WritesNew t cwd p contents (t.writeNew cwd p contents)) ∧
      ∀ (terminal : Terminal) (dir : Path), dir.NeverUp →
        let path := fileIn dir
        let done := runInit terminal dir scene
        InitEnds t (placeOf cwd path) done.1 done.2.world.files ∧
          (∀ q entry, t.lookup? q = some entry → done.2.world.files.lookup? q = some entry) ∧
          (t.hasDir cwd = true → scene.out.room = none →
            (done.1 = .ok true ↔ t.IsFree cwd path ∧ t.lookup? (placeOf cwd path) = none)) ∧
          (done.1 = .ok true → ∀ (terminal' : Terminal) (out : Sink),
            runInit terminal' dir { done.2 with out } =
              (.error (.notCreated (.alreadyExists path)), { done.2 with out })) := by
  refine ⟨fun p contents hup => FileTree.writesNew_writeNew htree _ hup contents, ?_⟩
  intro terminal dir hup
  have hends : InitEnds _ _ _ _ := initEnds_runInit terminal htree hup
  refine ⟨hends, fun q entry hq => hends.keeps hq,
    fun hcwd hroom => runInit_ok_true_iff terminal htree hcwd hup hroom, ?_⟩
  intro hok terminal' out
  obtain ⟨hdirectory, hrooted, hreaches⟩ := reaches_of_runInit htree hup hok
  rw [← hdirectory] at hreaches
  exact runInit_of_reaches hrooted hup hreaches

/-- In a directory that is missing, together with the one above it, the example is created. It is
not created again, and a file beside them stays as it was. -/
theorem init_in_a_missing_directory :
    let notes : Place := [.ofString "notes"]
    let files : FileTree := { entries := [(notes, .file (.ofString "mine"))] }
    let scene : Batch.Scene Host := ⟨{ files, directory := [] }, {}⟩
    let dir : Path := .ofString "a/b"
    files.IsRooted ∧ dir.NeverUp ∧ (runInit {} dir scene).1 = .ok true ∧
      (runInit {} dir scene).2.world.files.lookup? notes = some (.file (.ofString "mine")) ∧
        runInit {} dir (runInit {} dir scene).2 =
          (.error (.notCreated (.alreadyExists (.ofString "a/b/stepper.toml"))),
            (runInit {} dir scene).2) := by
  intro notes files scene dir
  have htree : files.IsRooted := by decide +kernel
  have hup : dir.NeverUp := by decide +kernel
  have hok : (runInit {} dir scene).1 = .ok true := by decide +kernel
  have hpath : fileIn dir = .ofString "a/b/stepper.toml" := by decide +kernel
  have hnotes : scene.world.files.lookup? notes = some (.file (.ofString "mine")) := by
    decide +kernel
  obtain ⟨-, hinit⟩ := @new_file_destroys_nothing scene htree
  obtain ⟨-, hkeeps, -, hagain⟩ := hinit {} dir hup
  -- What was created is not computed again.
  clear_value notes scene dir
  refine ⟨htree, hup, hok, hkeeps notes _ hnotes, ?_⟩
  rw [← hpath]
  exact hagain hok {} (runInit {} dir scene).2.out

end Rehearsal.CommandLine
