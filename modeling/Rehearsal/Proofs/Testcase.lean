import Mathlib.Data.List.Basic
import Rehearsal.Testcase
import Rehearsal.Proofs.Path
import Rehearsal.Proofs.Text.Order

/-!
# The test cases of a directory

Which test cases a directory holds depends on its entries only: each entry with a name that is some
text, a dot and the suffix is the input of one, and there are no others (`Finder.mem_ofEntries`). A
test case is known by its name, from which both of its paths are made, and names of entries differ.
So the test cases can be put in the order of their names in one way only, and the order in which the
entries are listed does not matter. `Finder.enumerate_spec` is the main statement.
-/

namespace Rehearsal

namespace Finder

theorem dropEnd?_eq_some_iff {α : Type} [BEq α] [LawfulBEq α] {ending l front : List α} :
    dropEnd? ending l = some front ↔ l = front ++ ending := by
  rw [dropEnd?]
  constructor
  · intro h
    split at h
    · next hsuffix =>
      obtain ⟨before, rfl⟩ := List.isSuffixOf_iff_suffix.mp hsuffix
      rw [List.length_append, Nat.add_sub_cancel, List.take_left] at h
      rw [Option.some.inj h]
    · cases h
  · rintro rfl
    rw [if_pos (List.isSuffixOf_iff_suffix.mpr (List.suffix_append front ending)),
      List.length_append, Nat.add_sub_cancel, List.take_left]

variable {f : Finder} {dir : Path} {name : String}

/-- The name of the file that the input of a test is in. -/
def inputName (f : Finder) (name : String) : Bytes := .ofString (name ++ "." ++ f.suffix)

/-- The name of the file that the expected output of a test is in. -/
def expectedName (name : String) : Bytes := .ofString (name ++ "." ++ expectedExtension)

/-- The test case of a name whose input is in a directory. -/
def testFile (f : Finder) (dir : Path) (name : String) : TestFile where
  name := name
  inputPath := dir.join ⟨f.inputName name⟩
  expectedPath := f.outputDir.join ⟨expectedName name⟩

theorem testName?_eq_some_iff {fileName : Bytes} :
    f.testName? fileName = some name ↔ name ≠ "" ∧ fileName = f.inputName name := by
  have hchars : (name ++ "." ++ f.suffix).toList = name.toList ++ '.' :: f.suffix.toList := by
    simp
  rw [inputName, Bytes.ofString, hchars]
  constructor
  · intro h
    obtain ⟨chars, hdecode, h⟩ := Option.bind_eq_some_iff.mp h
    obtain ⟨front, hdrop, h⟩ := Option.bind_eq_some_iff.mp h
    split at h
    · cases h
    · next hempty =>
      cases h
      rw [dropEnd?_eq_some_iff.mp hdrop] at hdecode
      rw [String.toList_ofList]
      refine ⟨fun hname => hempty ?_, Utf8.decode?_eq_some_iff.mp hdecode⟩
      rw [← String.toList_ofList (l := front), hname]
      rfl
  · rintro ⟨hname, hfile⟩
    have hempty : ¬ name.toList.isEmpty = true := fun hempty =>
      hname (String.toList_eq_nil_iff.mp (List.isEmpty_iff.mp hempty))
    refine Option.bind_eq_some_iff.mpr ⟨_, Utf8.decode?_eq_some_iff.mpr hfile, ?_⟩
    refine Option.bind_eq_some_iff.mpr ⟨_, dropEnd?_eq_some_iff.mpr rfl, ?_⟩
    rw [if_neg hempty, String.ofList_toList]

/-- The name of a test can be read off its input. -/
theorem inputName_injective (f : Finder) : Function.Injective f.inputName := by
  intro name name' h
  have hchars := Utf8.ofChars_injective h
  rw [String.toList_append, String.toList_append, String.toList_append, String.toList_append,
    List.append_cancel_right_eq, List.append_cancel_right_eq] at hchars
  exact String.toList_inj.mp hchars

theorem expectedName_injective : Function.Injective expectedName :=
  inputName_injective ⟨expectedExtension, ⟨[]⟩⟩

/-- An entry of a directory is the input of the test case that its name tells. -/
theorem find?_join_eq_some_iff {fileName : Bytes} (h : Path.IsName fileName) {file : TestFile} :
    f.find? (dir.join ⟨fileName⟩) = some file ↔
      ∃ name, name ≠ "" ∧ fileName = f.inputName name ∧ file = f.testFile dir name := by
  rw [find?, Path.fileName?_join dir h]
  constructor
  · intro hfind
    obtain ⟨_, ⟨⟩, hfind⟩ := Option.bind_eq_some_iff.mp hfind
    obtain ⟨name, hname, hfind⟩ := Option.bind_eq_some_iff.mp hfind
    obtain ⟨hne, rfl⟩ := testName?_eq_some_iff.mp hname
    exact ⟨name, hne, rfl, (Option.some.inj hfind).symm⟩
  · rintro ⟨name, hne, rfl, rfl⟩
    refine Option.bind_eq_some_iff.mpr ⟨_, rfl, ?_⟩
    exact Option.bind_eq_some_iff.mpr ⟨name, testName?_eq_some_iff.mpr ⟨hne, rfl⟩, rfl⟩

/-! ### Which test cases there are -/

/-- A directory's entries: their names are such, and no two are the same. -/
structure IsListing (entries : List (Bytes × Entry)) : Prop where
  isName : ∀ e ∈ entries, Path.IsName e.1
  nodup : (entries.map Prod.fst).Nodup

theorem IsListing.perm {entries entries' : List (Bytes × Entry)} (h : IsListing entries)
    (hperm : entries'.Perm entries) : IsListing entries' where
  isName := fun e he => h.isName e (hperm.mem_iff.mp he)
  nodup := (hperm.map Prod.fst).nodup_iff.mpr h.nodup

variable {entries : List (Bytes × Entry)}

/-- The test cases among the entries, in the order of these. -/
theorem mem_filterMap_find? (h : IsListing entries) {file : TestFile} :
    file ∈ (entries.filter (·.2 != .dir)).filterMap (fun e => f.find? (dir.join ⟨e.1⟩)) ↔
      ∃ name entry, (f.inputName name, entry) ∈ entries ∧ entry ≠ .dir ∧ name ≠ "" ∧
        file = f.testFile dir name := by
  rw [List.mem_filterMap]
  constructor
  · rintro ⟨⟨fileName, entry⟩, he, hfind⟩
    obtain ⟨hmem, hdir⟩ := List.mem_filter.mp he
    obtain ⟨name, hne, hfile, rfl⟩ := (find?_join_eq_some_iff (h.isName _ hmem)).mp hfind
    dsimp only at hfile
    subst hfile
    exact ⟨name, entry, hmem, bne_iff_ne.mp hdir, hne, rfl⟩
  · rintro ⟨name, entry, hmem, hdir, hne, rfl⟩
    exact ⟨(f.inputName name, entry), List.mem_filter.mpr ⟨hmem, bne_iff_ne.mpr hdir⟩,
      (find?_join_eq_some_iff (h.isName _ hmem)).mpr ⟨name, hne, rfl, rfl⟩⟩

theorem mem_ofEntries (h : IsListing entries) {file : TestFile} :
    file ∈ f.ofEntries dir entries ↔
      ∃ name entry, (f.inputName name, entry) ∈ entries ∧ entry ≠ .dir ∧ name ≠ "" ∧
        file = f.testFile dir name := by
  rw [ofEntries, List.mem_mergeSort]
  exact mem_filterMap_find? h

theorem eq_testFile_of_mem (h : IsListing entries) {file : TestFile}
    (hfile : file ∈ f.ofEntries dir entries) :
    file = f.testFile dir file.name ∧ Path.IsName (f.inputName file.name) := by
  obtain ⟨name, entry, hmem, -, -, rfl⟩ := (mem_ofEntries h).mp hfile
  exact ⟨rfl, h.isName _ hmem⟩

/-! ### Their order -/

section Order

-- Stated with `<`, since more than one `≤` is there for lists: that of the standard library is
-- this by definition.
variable {x y z : List Char}

theorem not_lt_trans (hxy : ¬ y < x) (hyz : ¬ z < y) : ¬ z < x :=
  List.le_trans hxy hyz

theorem not_lt_or_not_lt (x y : List Char) : ¬ y < x ∨ ¬ x < y := List.le_total x y

theorem eq_of_not_lt {name name' : String} (h : ¬ name'.toList < name.toList)
    (h' : ¬ name.toList < name'.toList) : name = name' :=
  String.toList_inj.mp (List.le_antisymm h h')

end Order

theorem pairwise_name_ne (h : IsListing entries) :
    (f.ofEntries dir entries).Pairwise fun a b => a.name ≠ b.name := by
  rw [ofEntries]
  refine (List.mergeSort_perm _ _).symm.pairwise ?_ fun hne => hne.symm
  -- Two test cases of one name would come from two entries of one name.
  rw [List.pairwise_filterMap]
  refine (List.Pairwise.filter _ (List.pairwise_map.mp h.nodup)).imp_of_mem ?_
  intro e e' he he' hne file hfile file' hfile'
  have hname := h.isName e (List.mem_filter.mp he).1
  have hname' := h.isName e' (List.mem_filter.mp he').1
  obtain ⟨name, -, hinput, rfl⟩ := (find?_join_eq_some_iff hname).mp hfile
  obtain ⟨name', -, hinput', rfl⟩ := (find?_join_eq_some_iff hname').mp hfile'
  rintro (rfl : name = name')
  exact hne (hinput.trans hinput'.symm)

theorem pairwise_name_le (f : Finder) (dir : Path) (entries : List (Bytes × Entry)) :
    (f.ofEntries dir entries).Pairwise fun a b => ¬ b.name.toList < a.name.toList := by
  let le : TestFile → TestFile → Bool := fun a b => !decide (b.name.toList < a.name.toList)
  have hle : ∀ a b : TestFile, le a b = true ↔ ¬ b.name.toList < a.name.toList := by
    intro a b
    rw [Bool.not_eq_true', decide_eq_false_iff_not]
  have htrans : ∀ a b c, le a b = true → le b c = true → le a c = true := by
    intro a b c hab hbc
    rw [hle] at hab hbc ⊢
    exact not_lt_trans hab hbc
  have htotal : ∀ a b, (le a b || le b a) = true := by
    intro a b
    rw [Bool.or_eq_true, hle, hle]
    exact not_lt_or_not_lt _ _
  have hsorted := List.pairwise_mergeSort htrans htotal
    ((entries.filter (·.2 != .dir)).filterMap fun e => f.find? (dir.join ⟨e.1⟩))
  exact hsorted.imp fun {a b} hab => (hle a b).mp hab

theorem pairwise_name_lt (h : IsListing entries) :
    (f.ofEntries dir entries).Pairwise fun a b =>
      Bytes.ofString a.name < Bytes.ofString b.name := by
  refine ((pairwise_name_le f dir entries).and (pairwise_name_ne h)).imp fun {a b} hab => ?_
  refine Utf8.ofChars_lt_ofChars ?_
  by_contra hge
  exact hab.2 (eq_of_not_lt hab.1 hge)

/-- Names put the test cases in one order, so that of the entries does not matter. -/
theorem ofEntries_perm {entries' : List (Bytes × Entry)} (h : IsListing entries)
    (hperm : entries'.Perm entries) : f.ofEntries dir entries' = f.ofEntries dir entries := by
  refine List.Perm.eq_of_pairwise ?_ (pairwise_name_le f dir entries')
    (pairwise_name_le f dir entries) ?_
  · -- Both paths of a test case are made from its name, so equal names are equal test cases.
    intro a b ha hb hab hba
    rw [(eq_testFile_of_mem (h.perm hperm) ha).1, (eq_testFile_of_mem h hb).1, eq_of_not_lt hab hba]
  · rw [ofEntries, ofEntries]
    exact ((List.mergeSort_perm _ _).trans ((hperm.filter _).filterMap _)).trans
      (List.mergeSort_perm _ _).symm

/-! ### Their files -/

/-- If one of its files can be in a directory, then so can the other. -/
theorem isName_expectedName (h : Path.IsName (f.inputName name)) :
    Path.IsName (expectedName name) := by
  have hexpected : expectedName name = .ofString name ++ .ofString ("." ++ expectedExtension) := by
    rw [expectedName, Bytes.ofString, Bytes.ofString, Bytes.ofString, ← Bytes.ofChars_append]
    simp
  have hlength : 9 ≤ (expectedName name).length := by
    rw [hexpected, List.length_append]
    exact Nat.le_add_left _ _
  have hinput : f.inputName name = .ofString name ++ .ofString ("." ++ f.suffix) := by
    rw [inputName, Bytes.ofString, Bytes.ofString, Bytes.ofString, ← Bytes.ofChars_append]
    simp
  refine ⟨?_, ?_, ?_, ?_⟩
  · exact List.ne_nil_of_length_pos (Nat.lt_of_lt_of_le (by decide) hlength)
  · rw [hexpected, List.mem_append]
    rintro (hslash | hslash)
    · exact h.slash_notMem (hinput ▸ List.mem_append_left _ hslash)
    · exact absurd hslash (by decide)
  · refine beq_eq_false_iff_ne.mpr fun hdot => ?_
    rw [hdot] at hlength
    exact absurd hlength (by decide)
  · refine beq_eq_false_iff_ne.mpr fun hdots => ?_
    rw [hdots] at hlength
    exact absurd hlength (by decide)

theorem fileName?_inputPath (h : Path.IsName (f.inputName name)) :
    (f.testFile dir name).inputPath.fileName? = some (f.inputName name) :=
  Path.fileName?_join dir h

theorem fileName?_expectedPath (h : Path.IsName (f.inputName name)) :
    (f.testFile dir name).expectedPath.fileName? = some (expectedName name) :=
  Path.fileName?_join f.outputDir (isName_expectedName h)

theorem pairwise_fileName?_ne (h : IsListing entries) :
    (f.ofEntries dir entries).Pairwise fun a b =>
      a.inputPath.fileName? ≠ b.inputPath.fileName? ∧
        a.expectedPath.fileName? ≠ b.expectedPath.fileName? := by
  refine (pairwise_name_ne h).imp_of_mem fun {a b} ha hb hne => ?_
  obtain ⟨ha, hinput⟩ := eq_testFile_of_mem h ha
  obtain ⟨hb, hinput'⟩ := eq_testFile_of_mem h hb
  rw [ha, hb, fileName?_inputPath hinput, fileName?_inputPath hinput',
    fileName?_expectedPath hinput, fileName?_expectedPath hinput']
  constructor
  · exact fun heq => hne (f.inputName_injective (Option.some.inj heq))
  · exact fun heq => hne (expectedName_injective (Option.some.inj heq))

/-- **The test cases of a directory.** Whatever entries a directory has, their test cases are one
list: it is what is found wherever the directory has these entries and in whatever order they are
listed. It has one test case for each entry that is not a directory and has a name which is some
text, a dot and the suffix, and no others; they are in the strict order of the bytes of their names;
and no two have the same input or the same expected output, not even by the names of these files. -/
theorem enumerate_spec (f : Finder) (dir : Path) {entries : List (Bytes × Entry)}
    (h : IsListing entries) :
    ∃ found : List TestFile,
      (∀ (t : FileTree) (cwd : Place) (listed : List (Bytes × Entry)), listed.Perm entries →
        t.list cwd dir = .ok listed → f.enumerate t cwd dir = .ok found) ∧
      (∀ file, file ∈ found ↔ ∃ name entry,
        (Bytes.ofString (name ++ "." ++ f.suffix), entry) ∈ entries ∧ entry ≠ .dir ∧ name ≠ "" ∧
          file = {
            name
            inputPath := dir.join ⟨.ofString (name ++ "." ++ f.suffix)⟩
            expectedPath := f.outputDir.join (.ofString (name ++ ".expected")) }) ∧
      (found.Pairwise fun a b => Bytes.ofString a.name < Bytes.ofString b.name) ∧
      (found.Pairwise fun a b =>
        a.name ≠ b.name ∧ a.inputPath ≠ b.inputPath ∧ a.expectedPath ≠ b.expectedPath) ∧
      (found.Pairwise fun a b =>
        a.inputPath.fileName? ≠ b.inputPath.fileName? ∧
          a.expectedPath.fileName? ≠ b.expectedPath.fileName?) := by
  have hexpected : ∀ name : String, name ++ ".expected" = name ++ "." ++ expectedExtension := by
    intro name
    rw [String.append_assoc]
    rfl
  refine ⟨f.ofEntries dir entries, fun t cwd listed hperm hlist => ?_, fun file => ?_,
    pairwise_name_lt h, ?_, pairwise_fileName?_ne h⟩
  · rw [enumerate, hlist, ← ofEntries_perm h hperm]
    rfl
  · simp only [hexpected]
    exact mem_ofEntries h
  · refine ((pairwise_name_ne h).and (pairwise_fileName?_ne h)).imp fun {a b} hab => ?_
    obtain ⟨hname, hinput, hexpected⟩ := hab
    exact ⟨hname, fun heq => hinput (congrArg Path.fileName? heq),
      fun heq => hexpected (congrArg Path.fileName? heq)⟩

/-- A directory with two tests, a file that is only the suffix, and a directory: in whatever order
these are listed, the tests are found in theirs. -/
theorem enumerate_two_tests :
    let f : Finder := ⟨"in", .ofString "out"⟩
    let root : Path := .ofString "/"
    let entries : List (Bytes × Entry) := [(.ofString "b.in", .file []), (.ofString ".in", .file []),
      (.ofString "a.in", .file []), (.ofString "d.in", .dir)]
    let t : FileTree := ⟨entries.map fun e => ([e.1], e.2), []⟩
    IsListing entries ∧ t.list [] root = .ok entries ∧
      ∀ (t' : FileTree) (cwd : Place) (listed : List (Bytes × Entry)), listed.Perm entries →
        t'.list cwd root = .ok listed →
          f.enumerate t' cwd root = .ok [f.testFile root "a", f.testFile root "b"] := by
  intro f root entries t
  have hlisting : IsListing entries := ⟨by decide, by decide⟩
  have hlist : t.list [] root = .ok entries := by decide +kernel
  have hfiles : (entries.filter (·.2 != .dir)).filterMap (fun e => f.find? (root.join ⟨e.1⟩)) =
      [f.testFile root "b", f.testFile root "a"] := by decide +kernel
  have hruns : f.enumerate t [] root = .ok [f.testFile root "a", f.testFile root "b"] := by
    rw [enumerate, hlist]
    refine congrArg Except.ok ((congrArg (List.mergeSort · _) hfiles).trans ?_)
    simp [List.mergeSort, List.cons_lt_cons_iff, testFile]
  obtain ⟨found, hfound, -⟩ := enumerate_spec f root hlisting
  have htwo : found = [f.testFile root "a", f.testFile root "b"] :=
    Except.ok.inj ((hfound t [] entries (List.Perm.refl _) hlist).symm.trans hruns)
  subst htwo
  exact ⟨hlisting, hlist, hfound⟩

end Finder

end Rehearsal
