import Rehearsal.Proofs.Files.Directories
import Rehearsal.Proofs.Text.Utf8

/-!
# What a write does to a tree

A write makes directories above the place of the file and then puts something there. The first
changes nothing at the place, since a place is not above itself, so that what is at it afterwards is
the only other change (`FileTree.Puts`).

A new file is made where nothing was, so that nothing is lost (`FileTree.WritesNew`). A file that is
written over reads back as what was written last (`FileTree.WritesOver`). Both say when a write
succeeds: where only directories are on the way (`FileTree.IsFree`).
-/

namespace Rehearsal.FileTree

variable {t t' : FileTree} {cwd place q : Place} {p : Path} {contents : Bytes} {entry : Entry}

/-! ### Putting something there -/

/-- Is a tree as it was but for what is at a place now and for directories above it, which were
missing? -/
structure Puts (t t' : FileTree) (place : Place) (entry : Entry) : Prop where
  here : t'.lookup? place = some entry
  above : ∀ q, q <+: place → q ≠ place →
    t'.lookup? q = some .dir ∧ (t.lookup? q = some .dir ∨ t.lookup? q = none)
  elsewhere : ∀ q, ¬ q <+: place → t'.lookup? q = t.lookup? q
  executable : t'.executable = t.executable

theorem puts_of_addsDirs {parent : Place} (name : Bytes) (entry : Entry) (htree : t.IsRooted)
    (hadds : AddsDirs t t' parent) (hdir : t'.hasDir parent = true) :
    Puts t (t'.insert (parent ++ [name]) entry) (parent ++ [name]) entry := by
  have hne : parent ++ [name] ≠ [] := by simp
  refine ⟨?_, ?_, ?_, hadds.executable⟩
  · rw [lookup?_insert hne, if_pos rfl]
  · intro q hq hqne
    have hparent : q <+: parent := (List.prefix_concat_iff.mp hq).resolve_left hqne
    have hqdir : t'.lookup? q = some .dir := by
      obtain ⟨rest, rfl⟩ := hparent
      rw [← hasDir_iff]
      by_cases hrest : rest = []
      · rwa [hrest, List.append_nil] at hdir
      · exact (hadds.isRooted htree).hasDir_of_append hrest (isSome_of_hasDir hdir)
    rw [lookup?_insert hne, if_neg hqne]
    refine ⟨hqdir, ?_⟩
    rcases hadds.lookup q with hsame | ⟨-, hmissing, -⟩
    · exact Or.inl (hsame ▸ hqdir)
    · exact Or.inr hmissing
  · intro q hq
    have hqne : q ≠ parent ++ [name] := by
      rintro rfl
      exact hq (List.prefix_refl _)
    rw [lookup?_insert hne, if_neg hqne]
    rcases hadds.lookup q with hsame | ⟨habove, -, -⟩
    · exact hsame
    · exact absurd (habove.trans (List.prefix_append _ _)) hq

/-- What a file system does that puts contents at the place of a path, after it has made the
directory. -/
structure PutsAt (t : FileTree) (cwd : Place) (p : Path) (contents : Bytes) (fresh : Bool)
    (t' : FileTree) (entry : Entry) : Prop where
  puts : Puts t t' (placeOf cwd p) entry
  takes : Takes contents fresh (t.lookup? (placeOf cwd p)) entry
  not_namesDir : ¬ p.NamesDir
  isRooted : t'.IsRooted
  reaches : t'.Reaches cwd p

theorem exists_putsAt {fresh : Bool} {t'' : FileTree} (htree : t.IsRooted) (hup : p.NeverUp)
    (hadds : AddsDirs t t' (origin cwd p ++ p.steps.dropLast))
    (h : t'.putFile cwd p contents fresh = .ok t'') :
    ∃ entry, PutsAt t cwd p contents fresh t'' entry := by
  obtain ⟨parent, name, entry, htargets, hslash, hlen, rfl, htakes⟩ := exists_of_putFile h
  obtain ⟨hparent, hplace, hne⟩ := htargets.eq hup
  have hsame := hadds.lookup_placeOf hne
  rw [← hparent] at hadds
  have hputs := puts_of_addsDirs name entry htree hadds htargets.hasDir
  have hnotDir : t'.hasDir (parent ++ [name]) = false := by
    rw [Bool.eq_false_iff, Ne, hasDir_iff]
    exact htakes.ne_dir
  have hnamesDir : ¬ p.NamesDir := by
    rintro (htrailing | ⟨last, hlast, hdot⟩)
    · rw [hslash] at htrailing
      cases htrailing
    · rw [htargets.names, List.getLast?_concat] at hlast
      cases hlast
      rw [htargets.not_dot] at hdot
      cases hdot
  refine ⟨entry, hplace ▸ hputs, ?_, hnamesDir, ?_, ?_⟩
  · rw [← hsame, hplace]
    exact htakes
  · exact (hadds.isRooted htree).insert htargets.hasDir (Or.inr hnotDir)
  · refine ⟨htargets.isFit hup hlen, ?_, fun h => absurd h hnamesDir⟩
    rw [hplace, hputs.here]
    rfl

theorem steps_ne_nil_of_takes {fresh : Bool} (hcwd : t.hasDir cwd = true)
    (h : Takes contents fresh (t.lookup? (placeOf cwd p)) entry) : p.steps ≠ [] := by
  apply steps_ne_nil hcwd
  rw [Bool.eq_false_iff, Ne, hasDir_iff]
  exact h.ne_dir

/-- A file was put where only directories are on the way. -/
theorem PutsAt.isFree {fresh : Bool} (h : PutsAt t cwd p contents fresh t' entry)
    (hcwd : t.hasDir cwd = true) : t.IsFree cwd p where
  isFit := h.reaches.isFit
  not_namesDir := h.not_namesDir
  isClear := by
    intro q hq
    have hne : q ≠ placeOf cwd p := by
      rintro rfl
      exact not_isPrefix_above cwd (steps_ne_nil_of_takes hcwd h.takes) hq
    rw [hasDir_iff]
    exact (h.puts.above q (hq.trans (prefix_placeOf cwd p)) hne).2

/-- Where only directories are on the way, a file is put after the directory for it was made. -/
theorem IsFree.exists_putFile {fresh : Bool} (h : t.IsFree cwd p) (htree : t.IsRooted)
    (hcwd : t.hasDir cwd = true) (hup : p.NeverUp)
    (htakes : Takes contents fresh (t.lookup? (placeOf cwd p)) entry) :
    ∃ t' t'', t.mkdirFor cwd p = (t', .ok ()) ∧ t'.putFile cwd p contents fresh = .ok t'' := by
  obtain ⟨t', hmade, hdir⟩ := mkdirFor_of_isClear htree hcwd hup h.isFit h.isClear
  have hadds := t.mkdirFor_addsDirs cwd hup
  rw [hmade] at hadds
  have hne := steps_ne_nil_of_takes hcwd htakes
  rw [← hadds.lookup_placeOf hne] at htakes
  exact ⟨t', _, hmade,
    putFile_of_hasDir (hadds.isRooted htree) hup h.isFit h.not_namesDir hne hdir htakes⟩

/-- A new entry where nothing was takes nothing away. -/
theorem Puts.keeps (h : Puts t t' place entry) (hmissing : t.lookup? place = none) {old : Entry}
    (hq : t.lookup? q = some old) : t'.lookup? q = some old := by
  by_cases hle : q <+: place
  · have hne : q ≠ place := by
      rintro rfl
      rw [hmissing] at hq
      cases hq
    obtain ⟨hdir, holdDir | hnone⟩ := h.above q hle hne
    · rw [hdir, ← hq, holdDir]
    · rw [hnone] at hq
      cases hq
  · rw [h.elsewhere q hle, hq]

/-! ### A new file -/

/-- What a new file does to a tree. -/
structure WritesNew (t : FileTree) (cwd : Place) (p : Path) (contents : Bytes) (change : Change) :
    Prop where
  /-- Every file has the bytes that it had, and every directory is still there. -/
  keeps : ∀ q entry, t.lookup? q = some entry → change.1.lookup? q = some entry
  /-- It is said that something is there already if that is so, and only then. -/
  alreadyExists_iff : ∀ path,
    change.2 = .error (.alreadyExists path) ↔ path = p ∧ t.Reaches cwd p
  unchanged : t.Reaches cwd p → change.1 = t
  /-- It succeeds where nothing is in the way. -/
  ok_iff : t.hasDir cwd = true →
    (change.2 = .ok () ↔ t.IsFree cwd p ∧ t.lookup? (placeOf cwd p) = none)
  creates : change.2 = .ok () →
    t.lookup? (placeOf cwd p) = none ∧ Puts t change.1 (placeOf cwd p) (.file contents)
  /-- If it fails, no file was made. -/
  fails : ∀ e, change.2 = .error e → AddsDirs t change.1 (placeOf cwd p)

/-- How writing a new file ends. -/
theorem writeNew_cases (htree : t.IsRooted) (cwd : Place) (hup : p.NeverUp) (contents : Bytes) :
    (t.Reaches cwd p ∧ t.writeNew cwd p contents = (t, .error (.alreadyExists p))) ∨
      ¬ t.Reaches cwd p ∧
        ((∃ action path cause, (t.writeNew cwd p contents).2 = .error (.io action path cause) ∧
            AddsDirs t (t.writeNew cwd p contents).1 (placeOf cwd p)) ∨
          (t.writeNew cwd p contents).2 = .ok () ∧
            PutsAt t cwd p contents true (t.writeNew cwd p contents).1 (.file contents)) := by
  by_cases hreaches : t.Reaches cwd p
  · left
    rw [writeNew, if_pos ((isReachable_iff htree hup).mpr hreaches)]
    exact ⟨hreaches, rfl⟩
  refine Or.inr ⟨hreaches, ?_⟩
  have hadds := t.mkdirFor_addsDirs cwd hup
  rw [writeNew, if_neg (fun h => hreaches ((isReachable_iff htree hup).mp h))]
  split
  · next t' hmade =>
    rw [hmade] at hadds
    split
    · next t'' hput =>
      right
      obtain ⟨entry, hputs⟩ := exists_putsAt htree hup hadds hput
      obtain ⟨-, rfl⟩ := hputs.takes.of_fresh
      exact ⟨rfl, hputs⟩
    · next cause hput => exact Or.inl ⟨_, _, _, rfl, hadds.mono (prefix_placeOf cwd p)⟩
  · next hfailed =>
    left
    cases hresult : (t.mkdirFor cwd p).2 with
    | ok u => exact (hfailed _ (Prod.ext rfl hresult)).elim
    | error e =>
      obtain ⟨dir, cause, rfl⟩ := exists_of_mkdirFor_error hresult
      exact ⟨_, _, _, rfl, hadds.mono (prefix_placeOf cwd p)⟩

theorem writeNew_ok_iff (htree : t.IsRooted) (hcwd : t.hasDir cwd = true) (hup : p.NeverUp) :
    (t.writeNew cwd p contents).2 = .ok () ↔
      t.IsFree cwd p ∧ t.lookup? (placeOf cwd p) = none := by
  constructor
  · intro hok
    rcases writeNew_cases htree cwd hup contents with
      ⟨-, heq⟩ | ⟨-, ⟨action, path, cause, herror, -⟩ | ⟨-, hputs⟩⟩
    · rw [heq] at hok
      cases hok
    · rw [herror] at hok
      cases hok
    · exact ⟨hputs.isFree hcwd, hputs.takes.of_fresh.1⟩
  · rintro ⟨hfree, hmissing⟩
    have hreaches : ¬ t.isReachable cwd p = true := by
      rw [isReachable_iff htree hup]
      intro hreaches
      have hsome := hreaches.isSome
      rw [hmissing] at hsome
      cases hsome
    have htakes : Takes contents true (t.lookup? (placeOf cwd p)) (.file contents) :=
      hmissing ▸ .new
    obtain ⟨t', t'', hmade, hput⟩ := hfree.exists_putFile htree hcwd hup htakes
    rw [writeNew, if_neg hreaches, hmade]
    dsimp only
    rw [hput]

theorem writesNew_writeNew (htree : t.IsRooted) (cwd : Place) (hup : p.NeverUp) (contents : Bytes) :
    WritesNew t cwd p contents (t.writeNew cwd p contents) := by
  rcases writeNew_cases htree cwd hup contents with
    ⟨hreaches, heq⟩ | ⟨hreaches, ⟨action, path, cause, herror, hadds⟩ | ⟨hok, hputs⟩⟩
  · rw [heq]
    refine ⟨fun q entry hq => hq, ?_, fun _ => rfl, fun hcwd => ?_, fun h => (nomatch h),
      fun e _ => AddsDirs.refl t _⟩
    · intro path
      constructor
      · rintro ⟨⟩
        exact ⟨rfl, hreaches⟩
      · rintro ⟨rfl, -⟩
        rfl
    · rw [← heq]
      exact writeNew_ok_iff htree hcwd hup
  · refine ⟨fun q entry => hadds.keeps, ?_, fun h => absurd h hreaches,
      fun hcwd => writeNew_ok_iff htree hcwd hup, ?_, fun e _ => hadds⟩
    · intro path
      rw [herror]
      constructor
      · rintro ⟨⟩
      · rintro ⟨-, h⟩
        exact absurd h hreaches
    · intro hok
      rw [herror] at hok
      cases hok
  · have hmissing : t.lookup? (placeOf cwd p) = none := hputs.takes.of_fresh.1
    refine ⟨fun q entry => hputs.puts.keeps hmissing, ?_, fun h => absurd h hreaches,
      fun hcwd => writeNew_ok_iff htree hcwd hup, fun _ => ⟨hmissing, hputs.puts⟩, ?_⟩
    · intro path
      rw [hok]
      constructor
      · rintro ⟨⟩
      · rintro ⟨-, h⟩
        exact absurd h hreaches
    · intro e he
      rw [hok] at he
      cases he

/-! ### A file that is written over -/

theorem IsRooted.read (htree : t.IsRooted) (hup : p.NeverUp) (hreaches : t.Reaches cwd p)
    (h : t.lookup? (placeOf cwd p) = some (.file contents)) : t.read cwd p = .ok contents := by
  rw [FileTree.read, htree.readFile hup hreaches h]
  rfl

theorem readText_of_read {text : String} (h : t.read cwd p = .ok (.ofString text)) :
    t.readText cwd p = .ok text := by
  have htext : (Bytes.ofString text).toString? = some text := by
    rw [Bytes.toString?, Bytes.ofString, Utf8.decode?_eq_some_iff.mpr rfl, Option.map_some,
      String.ofList_toList]
  rw [readText, bind_eq_ok_iff]
  refine ⟨_, h, ?_⟩
  rw [htext]
  rfl

/-- What writing a file over an older one, or where there was none, does to a tree. -/
structure WritesOver (t : FileTree) (cwd : Place) (p : Path) (contents : Bytes) (change : Change) :
    Prop where
  reads : change.2 = .ok () → change.1.read cwd p = .ok contents
  puts : change.2 = .ok () → Puts t change.1 (placeOf cwd p) (.file contents)
  /-- It succeeds where nothing but an older file is in the way. -/
  ok_iff : t.hasDir cwd = true →
    (change.2 = .ok () ↔ t.IsFree cwd p ∧ (t.lookup? (placeOf cwd p) = none ∨
      ∃ old, t.lookup? (placeOf cwd p) = some (.file old)))
  /-- If it fails, no file was made or changed. -/
  fails : ∀ e, change.2 = .error e → AddsDirs t change.1 (placeOf cwd p)

/-- How writing a file ends. -/
theorem writeWithMkdir_cases (htree : t.IsRooted) (cwd : Place) (hup : p.NeverUp)
    (contents : Bytes) :
    ((t.writeWithMkdir cwd p contents).2 ≠ .ok () ∧
        AddsDirs t (t.writeWithMkdir cwd p contents).1 (placeOf cwd p)) ∨
      (t.writeWithMkdir cwd p contents).2 = .ok () ∧
        ∃ entry, PutsAt t cwd p contents false (t.writeWithMkdir cwd p contents).1 entry := by
  have hadds := t.mkdirFor_addsDirs cwd hup
  rw [writeWithMkdir]
  split
  · next t' hmade =>
    rw [hmade] at hadds
    rw [write]
    split
    · next t'' hput => exact Or.inr ⟨rfl, exists_putsAt htree hup hadds hput⟩
    · next cause hput =>
      refine Or.inl ⟨?_, hadds.mono (prefix_placeOf cwd p)⟩
      intro hok
      cases hok
  · next hfailed =>
    refine Or.inl ⟨?_, hadds.mono (prefix_placeOf cwd p)⟩
    intro hok
    exact hfailed _ (Prod.ext rfl hok)

theorem IsFree.writeWithMkdir (h : t.IsFree cwd p) (htree : t.IsRooted)
    (hcwd : t.hasDir cwd = true) (hup : p.NeverUp)
    (htakes : Takes contents false (t.lookup? (placeOf cwd p)) entry) :
    (t.writeWithMkdir cwd p contents).2 = .ok () := by
  obtain ⟨t', t'', hmade, hput⟩ := h.exists_putFile htree hcwd hup htakes
  rw [FileTree.writeWithMkdir, hmade]
  dsimp only
  rw [write, hput]

theorem writesOver_writeWithMkdir (htree : t.IsRooted) (hup : p.NeverUp)
    (hdevice : ∀ device, t.lookup? (placeOf cwd p) ≠ some (.device device)) (contents : Bytes) :
    WritesOver t cwd p contents (t.writeWithMkdir cwd p contents) := by
  have hok_of : t.hasDir cwd = true → t.IsFree cwd p →
      (t.lookup? (placeOf cwd p) = none ∨ ∃ old, t.lookup? (placeOf cwd p) = some (.file old)) →
        (t.writeWithMkdir cwd p contents).2 = .ok () := by
    intro hcwd hfree hplace
    have htakes : Takes contents false (t.lookup? (placeOf cwd p)) (.file contents) := by
      rcases hplace with hmissing | ⟨old, hold⟩
      · exact hmissing ▸ .new
      · exact hold ▸ .replaced rfl
    exact hfree.writeWithMkdir htree hcwd hup htakes
  rcases writeWithMkdir_cases htree cwd hup contents with
    ⟨hnotOk, hadds⟩ | ⟨hok, entry, hputs⟩
  · refine ⟨fun hok => absurd hok hnotOk, fun hok => absurd hok hnotOk, fun hcwd => ?_,
      fun e _ => hadds⟩
    exact ⟨fun hok => absurd hok hnotOk, fun ⟨hfree, hplace⟩ => hok_of hcwd hfree hplace⟩
  · obtain ⟨rfl, hold⟩ := hputs.takes.of_not_device hdevice
    refine ⟨fun _ => ?_, fun _ => hputs.puts, fun hcwd => ?_, ?_⟩
    · exact hputs.isRooted.read hup hputs.reaches hputs.puts.here
    · exact iff_of_true hok ⟨hputs.isFree hcwd, hold⟩
    · intro e he
      rw [hok] at he
      cases he

/-- **A file that is written reads back, and nothing else is touched.** Data that have no JSON text
change nothing. A device keeps nothing that is written to it, so there must not be one. -/
theorem written_file_reads_back (htree : t.IsRooted) (hup : p.NeverUp)
    (hdevice : ∀ device, t.lookup? (placeOf cwd p) ≠ some (.device device)) :
    (∀ contents, WritesOver t cwd p contents (t.writeWithMkdir cwd p contents)) ∧
      (∀ cause, t.writeJsonWithMkdir cwd p (.error cause) =
        (t, .error (.unserializable p cause))) ∧
      ∀ j : Json,
        WritesOver t cwd p (.ofString j.pretty) (t.writeJsonWithMkdir cwd p (.ok j)) ∧
          ((t.writeJsonWithMkdir cwd p (.ok j)).2 = .ok () →
            (t.writeJsonWithMkdir cwd p (.ok j)).1.readText cwd p = .ok j.pretty) := by
  refine ⟨writesOver_writeWithMkdir htree hup hdevice, fun cause => rfl, ?_⟩
  intro j
  have hwrites := writesOver_writeWithMkdir htree hup hdevice (.ofString j.pretty)
  exact ⟨hwrites, fun hok => readText_of_read (hwrites.reads hok)⟩

theorem a_longer_report_is_written_over :
    let report : Place := [.ofString "out", .ofString "report.json"]
    let notes : Place := [.ofString "notes"]
    let t : FileTree := { entries := [([.ofString "out"], .dir),
      (report, .file (.ofString "[1, 2]")), (notes, .file (.ofString "mine"))] }
    let p : Path := .ofString "out/./report.json"
    let change := t.writeJsonWithMkdir [] p (.ok (.integer 3))
    t.IsRooted ∧ p.NeverUp ∧ (∀ device, t.lookup? (placeOf [] p) ≠ some (.device device)) ∧
      change.2 = .ok () ∧ change.1.readText [] p = .ok "3" ∧
        change.1.lookup? notes = t.lookup? notes := by
  intro report notes t p change
  have htree : t.IsRooted := by decide +kernel
  have hup : p.NeverUp := by decide +kernel
  have hold : t.lookup? (placeOf [] p) = some (.file (.ofString "[1, 2]")) := by decide +kernel
  have hdevice : ∀ device, t.lookup? (placeOf [] p) ≠ some (.device device) := by
    intro device hdev
    rw [hold] at hdev
    cases hdev
  obtain ⟨-, -, hjson⟩ := written_file_reads_back htree hup hdevice
  obtain ⟨hwrites, hread⟩ := hjson (.integer 3)
  have hok : change.2 = .ok () := by decide +kernel
  have htext : (Json.integer 3).pretty = "3" := by decide +kernel
  refine ⟨htree, hup, hdevice, hok, ?_, ?_⟩
  · rw [← htext]
    exact hread hok
  · have haside : ¬ notes <+: placeOf [] p := by decide +kernel
    exact (hwrites.puts hok).elsewhere notes haside

end Rehearsal.FileTree
