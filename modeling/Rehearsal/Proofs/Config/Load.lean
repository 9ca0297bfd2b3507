import Rehearsal.Config.Example
import Rehearsal.Config.Load
import Rehearsal.Proofs.Files.Store

/-!
# Which source a configuration is read from

A configuration has one of several sources, and which one it is (`Config.Chooses`) is settled before
any of them is read. So what is in the others makes no difference, and neither does whether the one
that was chosen can be read. `Config.ReadsOnly` says this of one source, and the main statement,
`Config.load_reads_one_source`, of every search.

Files are searched for in a directory and those above it. In a tree, whether one is found depends on
what is at the places of the files that were looked for, and on nothing else
(`Config.isFile_fileIn_iff`).
-/

namespace Rehearsal.Config

/-- The path of the configuration file of a directory. -/
def fileIn (dir : Path) : Path := dir.join (.ofString fileName)

theorem isName_fileName : Path.IsName (.ofString fileName) := by
  decide

theorem neverUp_fileIn {dir : Path} (h : dir.NeverUp) : (fileIn dir).NeverUp :=
  h.join isName_fileName

theorem placeOf_fileIn (cwd : Place) (dir : Path) :
    FileTree.placeOf cwd (fileIn dir) = FileTree.placeOf cwd dir ++ [.ofString fileName] :=
  FileTree.placeOf_join cwd dir isName_fileName

/-- What a configuration can be read from. -/
inductive Source where
  | file (p : Path)
  | environment

namespace Source

/-- What is read from a source. -/
def config (t : FileTree) (cwd : Place) (environment : List (String × String)) :
    Source → Except LoadError Config
  | .file p => ofFile t cwd p
  | .environment => (ofVariables environment).mapError .environment

/-- The file that a configuration from this source says it was read from. -/
def path? : Source → Option Path
  | .file p => some p
  | .environment => none

/-- Do two surroundings agree on what is read from this source? -/
def Agree (t t' : FileTree) (cwd cwd' : Place) (environment environment' : List (String × String)) :
    Source → Prop
  | .file p => t'.read cwd' p = t.read cwd p
  | .environment => environment' = environment

end Source

section

variable {t t' : FileTree} {cwd cwd' : Place} {dir dir' p : Path} {named named' : Option Path}
variable {environment environment' : List (String × String)} {source other : Source} {c : Config}

/-! ### The choice -/

/-- The source that is chosen: the file that is named; without one, the configuration file of the
nearest directory that has one, whatever is farther up; without any, the environment. -/
inductive Chooses (t : FileTree) (cwd : Place) (dir : Path) : Option Path → Source → Prop
  | named (p : Path) : Chooses t cwd dir (some p) (.file p)
  | nearest {near : List Path} {a : Path} {far : List Path} : dir.ancestors = near ++ a :: far →
      (∀ b ∈ near, t.isFile cwd (fileIn b) = false) → t.isFile cwd (fileIn a) = true →
        Chooses t cwd dir none (.file (fileIn a))
  | environment : (∀ a ∈ dir.ancestors, t.isFile cwd (fileIn a) = false) →
      Chooses t cwd dir none .environment

theorem findFile_eq_some_iff :
    findFile t cwd dir = some p ↔
      ∃ near a far, dir.ancestors = near ++ a :: far ∧
        (∀ b ∈ near, t.isFile cwd (fileIn b) = false) ∧ t.isFile cwd (fileIn a) = true ∧
          fileIn a = p := by
  rw [findFile, List.find?_map, Option.map_eq_some_iff]
  constructor
  · rintro ⟨a, hfind, hp⟩
    obtain ⟨hfile, near, far, hsplit, hnear⟩ := List.find?_eq_some_iff_append.mp hfind
    exact ⟨near, a, far, hsplit, fun b hb => by simpa [fileIn] using hnear b hb, hfile, hp⟩
  · rintro ⟨near, a, far, hsplit, hnear, hfile, hp⟩
    refine ⟨a, List.find?_eq_some_iff_append.mpr ⟨hfile, near, far, hsplit, fun b hb => ?_⟩, hp⟩
    simpa [fileIn] using hnear b hb

theorem findFile_eq_none_iff :
    findFile t cwd dir = none ↔ ∀ a ∈ dir.ancestors, t.isFile cwd (fileIn a) = false := by
  simp [findFile, fileIn]

/-- The source, as it is found. -/
def sourceOf (t : FileTree) (cwd : Place) (dir : Path) : Option Path → Source
  | some p => .file p
  | none => ((findFile t cwd dir).map .file).getD .environment

theorem chooses_iff : Chooses t cwd dir named source ↔ source = sourceOf t cwd dir named := by
  constructor
  · intro h
    cases h with
    | named p => rfl
    | @nearest near a far hsplit hnear hfile =>
      rw [sourceOf, findFile_eq_some_iff.mpr ⟨near, a, far, hsplit, hnear, hfile, rfl⟩]
      rfl
    | environment hnone =>
      rw [sourceOf, findFile_eq_none_iff.mpr hnone]
      rfl
  · rintro rfl
    cases named with
    | some p => exact .named p
    | none =>
      cases hfind : findFile t cwd dir with
      | some p =>
        obtain ⟨near, a, far, hsplit, hnear, hfile, rfl⟩ := findFile_eq_some_iff.mp hfind
        rw [sourceOf, hfind]
        exact .nearest hsplit hnear hfile
      | none =>
        rw [sourceOf, hfind]
        exact .environment (findFile_eq_none_iff.mp hfind)

theorem load_eq (t : FileTree) (cwd : Place) (environment : List (String × String))
    (named : Option Path) (dir : Path) :
    load t cwd environment named dir = (sourceOf t cwd dir named).config t cwd environment := by
  cases named with
  | some p => rfl
  | none =>
    rw [load, sourceOf]
    cases findFile t cwd dir with
    | some p => rfl
    | none => rfl

/-! ### What is read -/

theorem ofFile_congr {p : Path} (h : t'.read cwd' p = t.read cwd p) :
    ofFile t' cwd' p = ofFile t cwd p := by
  rw [ofFile, ofFile, FileTree.readText, FileTree.readText, h]

theorem Source.Agree.config_eq
    (h : source.Agree t t' cwd cwd' environment environment') :
    source.config t' cwd' environment' = source.config t cwd environment := by
  cases source with
  | file p => exact ofFile_congr h
  | environment => rw [Source.config, Source.config, h]

/-- A draft does not know where it comes from. -/
theorem sourceFile_of_complete {d : Draft} (h : d.complete = .ok c) : c.sourceFile = none := by
  rw [Draft.complete] at h
  obtain ⟨stepDelay, -, h⟩ := bind_eq_ok_iff.mp h
  obtain ⟨warmupDelay, -, h⟩ := bind_eq_ok_iff.mp h
  obtain ⟨postCrashLines, -, h⟩ := bind_eq_ok_iff.mp h
  obtain ⟨wrongLines, -, h⟩ := bind_eq_ok_iff.mp h
  obtain ⟨suffix, -, h⟩ := bind_eq_ok_iff.mp h
  obtain ⟨inputDir, -, h⟩ := bind_eq_ok_iff.mp h
  obtain ⟨outputDir, -, h⟩ := bind_eq_ok_iff.mp h
  obtain ⟨command, -, h⟩ := bind_eq_ok_iff.mp h
  cases h
  rfl

theorem Source.sourceFile_of_config (h : source.config t cwd environment = .ok c) :
    c.sourceFile = source.path? := by
  cases source with
  | file p =>
    rw [config, ofFile] at h
    obtain ⟨text, -, h⟩ := bind_eq_ok_iff.mp h
    obtain ⟨read, -, h⟩ := bind_eq_ok_iff.mp h
    cases h
    rfl
  | environment =>
    rw [config, mapError_eq_ok_iff, ofVariables] at h
    obtain ⟨draft, -, h⟩ := bind_eq_ok_iff.mp h
    exact sourceFile_of_complete (mapError_eq_ok_iff.mp h)

/-- Does a configuration depend on this source alone? -/
structure ReadsOnly (t : FileTree) (cwd : Place) (environment : List (String × String))
    (named : Option Path) (dir : Path) (source : Source) : Prop where
  load_eq : load t cwd environment named dir = source.config t cwd environment
  /-- What else there is makes no difference, here or elsewhere. -/
  congr : ∀ t' cwd' environment' named' dir', Chooses t' cwd' dir' named' source →
    source.Agree t t' cwd cwd' environment environment' →
      load t' cwd' environment' named' dir' = load t cwd environment named dir
  sourceFile : ∀ c, load t cwd environment named dir = .ok c → c.sourceFile = source.path?
  /-- If a file was chosen that cannot be read, nothing else is tried. -/
  unreadable : ∀ p e, source = .file p → t.readText cwd p = .error e →
    load t cwd environment named dir = .error (.unreadable e)
  /-- Nor is it if there is no configuration in the file. -/
  invalid : ∀ p text e, source = .file p → t.readText cwd p = .ok text → ofToml text = .error e →
    load t cwd environment named dir = .error (.invalidToml p e)

theorem readsOnly_of_chooses (environment : List (String × String))
    (h : Chooses t cwd dir named source) : ReadsOnly t cwd environment named dir source := by
  have hload : load t cwd environment named dir = source.config t cwd environment := by
    rw [load_eq, ← chooses_iff.mp h]
  refine ⟨hload, ?_, ?_, ?_, ?_⟩
  · intro t' cwd' environment' named' dir' h' hagree
    rw [hload, load_eq, ← chooses_iff.mp h', hagree.config_eq]
  · intro c hc
    rw [hload] at hc
    exact Source.sourceFile_of_config hc
  · rintro p e rfl hread
    rw [hload, Source.config, ofFile, hread]
    rfl
  · rintro p text e rfl hread hinvalid
    rw [hload, Source.config, ofFile, hread]
    show ((ofToml text).mapError (LoadError.invalidToml p) >>= _) = _
    rw [hinvalid]
    rfl

/-! ### In a tree -/

/-- There is a configuration file in a directory if at its place there is a file, and if the path is
one that a file system takes. A directory of that name is none. -/
theorem isFile_fileIn_iff (htree : t.IsRooted) (hup : dir.NeverUp) :
    t.isFile cwd (fileIn dir) = true ↔
      (fileIn dir).IsFit ∧ ∃ entry,
        t.lookup? (FileTree.placeOf cwd dir ++ [.ofString fileName]) = some entry ∧
          entry.isRegular = true := by
  rw [FileTree.isFile_iff htree (neverUp_fileIn hup), placeOf_fileIn]
  constructor
  · rintro ⟨hreaches, hregular⟩
    exact ⟨hreaches.isFit, hregular⟩
  · rintro ⟨hfit, entry, hentry, hregular⟩
    refine ⟨⟨hfit, ?_, ?_⟩, entry, hentry, hregular⟩
    · rw [placeOf_fileIn, hentry]
      rfl
    · intro hnames
      exact absurd hnames (FileTree.not_namesDir_join dir isName_fileName)

/-- What is farther up than the file that is found, and the environment, make no difference. -/
theorem load_congr_of_nearest (htree : t.IsRooted) (hup : dir.NeverUp) {near : List Path} {a : Path}
    {far : List Path} (hsplit : dir.ancestors = near ++ a :: far)
    (hnear : ∀ b ∈ near, t.isFile cwd (fileIn b) = false) (hfile : t.isFile cwd (fileIn a) = true)
    (htree' : t'.IsRooted)
    (hsame : ∀ b ∈ near ++ [a], t'.lookup? (FileTree.placeOf cwd (fileIn b)) =
      t.lookup? (FileTree.placeOf cwd (fileIn b))) :
    load t' cwd environment' none dir = load t cwd environment none dir := by
  have hfits : ∀ b ∈ near ++ [a], (fileIn b).NeverUp := by
    intro b hb
    apply neverUp_fileIn
    apply hup.of_mem_ancestors
    rw [hsplit, ← List.singleton_append, ← List.append_assoc]
    exact List.mem_append_left _ hb
  have hsameFile : ∀ b ∈ near ++ [a], t'.isFile cwd (fileIn b) = t.isFile cwd (fileIn b) := by
    intro b hb
    exact FileTree.isFile_congr htree htree' (hfits b hb) (hsame b hb)
  have ha : a ∈ near ++ [a] := List.mem_append_right _ List.mem_cons_self
  have hchooses : Chooses t cwd dir none (.file (fileIn a)) := .nearest hsplit hnear hfile
  have hchooses' : Chooses t' cwd dir none (.file (fileIn a)) := by
    refine .nearest hsplit (fun b hb => ?_) ?_
    · rw [hsameFile b (List.mem_append_left _ hb), hnear b hb]
    · rw [hsameFile a ha, hfile]
  apply (readsOnly_of_chooses environment hchooses).congr t' cwd environment' none dir hchooses'
  -- The file that was found can be reached, so both trees have the same there.
  show t'.read cwd (fileIn a) = t.read cwd (fileIn a)
  have hreaches := ((FileTree.isFile_iff htree (hfits a ha)).mp hfile).1
  rw [FileTree.read, FileTree.read,
    FileTree.readFile_congr htree htree' (hfits a ha) hreaches (hsame a ha)]

end

/-- **A configuration is read from one source.** There always is one, it is settled by the file that
is named and by where there are files, and a configuration depends on nothing else. In a tree, the
directories that are searched are all those on the way up; what counts as a file in one of them is a
regular file at its place; and what is farther up than the first one that is found makes no
difference, whatever is in any of these files. -/
theorem load_reads_one_source (t : FileTree) (cwd : Place) (environment : List (String × String))
    (named : Option Path) (dir : Path) :
    (∃ source, Chooses t cwd dir named source ∧
      (∀ other, Chooses t cwd dir named other → other = source) ∧
        ReadsOnly t cwd environment named dir source) ∧
      (∀ names, (∃ a ∈ dir.ancestors, a.isAbsolute = dir.isAbsolute ∧ a.steps = names) ↔
        names <+: dir.steps) ∧
      (t.IsRooted → dir.NeverUp →
        (∀ a ∈ dir.ancestors, t.isFile cwd (fileIn a) = true ↔
          (fileIn a).IsFit ∧ ∃ entry,
            t.lookup? (FileTree.placeOf cwd a ++ [.ofString fileName]) = some entry ∧
              entry.isRegular = true) ∧
        ∀ near a far, dir.ancestors = near ++ a :: far →
          (∀ b ∈ near, t.isFile cwd (fileIn b) = false) → t.isFile cwd (fileIn a) = true →
            ∀ t' environment', t'.IsRooted →
              (∀ b ∈ near ++ [a], t'.lookup? (FileTree.placeOf cwd (fileIn b)) =
                t.lookup? (FileTree.placeOf cwd (fileIn b))) →
              load t' cwd environment' none dir = load t cwd environment none dir) := by
  refine ⟨⟨sourceOf t cwd dir named, chooses_iff.mpr rfl, fun other h => chooses_iff.mp h,
    readsOnly_of_chooses environment (chooses_iff.mpr rfl)⟩,
    fun names => Path.exists_mem_ancestors_iff, fun htree hup => ⟨?_, ?_⟩⟩
  · intro a ha
    exact isFile_fileIn_iff htree (hup.of_mem_ancestors ha)
  · intro near a far hsplit hnear hfile t' environment' htree' hsame
    exact load_congr_of_nearest htree hup hsplit hnear hfile htree' hsame

/-- A file that is no configuration hides the good one above it, and the environment; a directory of
its name hides nothing. -/
theorem load_stops_at_a_bad_file :
    let file : Bytes := .ofString fileName
    let a : Bytes := .ofString "a"
    let b : Bytes := .ofString "b"
    let near : List (Place × Entry) := [([a], .dir), ([a, b], .dir), ([a, b, file], .dir),
      ([a, file], .file (.ofString "?"))]
    let t : FileTree := { entries := near }
    let t' : FileTree := { entries := near ++ [([file], .file (.ofString exampleText))] }
    let dir : Path := .ofString "/a/b"
    let found : Path := .ofString "/a/stepper.toml"
    t.IsRooted ∧ t'.IsRooted ∧ dir.NeverUp ∧ t'.isFile [] (.ofString "/stepper.toml") = true ∧
      load t [] [] none dir = .error (.invalidToml found .unparsable) ∧
        load t' [] [("STEPPER_SUFFIX", "in")] none dir =
          .error (.invalidToml found .unparsable) := by
  intro file a b near t t' dir found
  have htree : t.IsRooted := by decide +kernel
  have htree' : t'.IsRooted := by decide +kernel
  have hup : dir.NeverUp := by decide +kernel
  have hgood : t'.isFile [] (.ofString "/stepper.toml") = true := by decide +kernel
  have hload : load t [] [] none dir = .error (.invalidToml found .unparsable) := by decide +kernel
  obtain ⟨-, -, hsearch⟩ := load_reads_one_source t [] [] none dir
  obtain ⟨-, hnearest⟩ := hsearch htree hup
  refine ⟨htree, htree', hup, hgood, hload, ?_⟩
  rw [← hload]
  apply hnearest [dir] (.ofString "/a") [.ofString "/"] (by decide +kernel) (by decide +kernel)
    (by decide +kernel) t' _ htree'
  decide +kernel

end Rehearsal.Config
