import Rehearsal.Files.Tree
import Rehearsal.Proofs.Except
import Rehearsal.Proofs.Path.Parent

/-!
# Where paths lead in a tree

In a tree, everything is in a directory (`FileTree.IsRooted`). A path whose names never go up is
about one place, whatever the tree is like (`FileTree.placeOf`), and following the path leads there
if there is something (`FileTree.isReachable_iff`).

Making a directory adds one entry to a tree and leaves the rest of it alone; so does writing a file
(`FileTree.exists_of_putFile`). `FileTree.AddsDirs` is what making directories on the way to a place
comes to. It can be put together step by step (`FileTree.AddsDirs.trans`).
-/

namespace Rehearsal.Path

/-- Does this path say that there is a directory, by a slash or `.` at its end? -/
def NamesDir (p : Path) : Prop :=
  FileTree.hasTrailingSlash p = true ∨ ∃ name ∈ p.names.getLast?, isDot name = true

/-- Is this a path that a file system takes? -/
structure IsFit (p : Path) : Prop where
  ne_nil : p.raw ≠ []
  nul_notMem : 0 ∉ p.raw
  length_lt : p.raw.length < FileTree.maxPath
  name_le : ∀ name ∈ p.names, name.length ≤ FileTree.maxName

end Rehearsal.Path

namespace Rehearsal.FileTree

variable {t t' : FileTree} {cwd place q start : Place} {entry : Entry} {p : Path}

/-! ### What is at a place -/

theorem lookup_replace (l : List (Place × Entry)) (place q : Place) (entry : Entry) :
    (l.map fun e => if e.1 == place then (place, entry) else e).lookup q =
      if q = place ∧ l.any (·.1 == place) then some entry else l.lookup q := by
  induction l with
  | nil => simp
  | cons e l ih =>
    obtain ⟨p, x⟩ := e
    rw [List.map_cons, List.any_cons]
    by_cases hp : p = place
    · subst hp
      rw [if_pos BEq.rfl]
      by_cases hq : q = p
      · subst hq
        simp
      · rw [lookup_cons_ne (Ne.symm hq), ih, if_neg (by simp [hq]), if_neg (by simp [hq]),
          lookup_cons_ne (Ne.symm hq)]
    · have hbeq : (p == place) = false := beq_eq_false_iff_ne.mpr hp
      rw [hbeq, if_neg Bool.false_ne_true, Bool.false_or]
      by_cases hq : p = q
      · subst hq
        rw [List.lookup_cons_self, List.lookup_cons_self, if_neg (by simp [hp])]
      · rw [lookup_cons_ne hq, lookup_cons_ne hq, ih]

theorem lookup_eq_none_of_any {l : List (Place × Entry)} (h : l.any (·.1 == place) = false) :
    l.lookup place = none := by
  rw [List.lookup_eq_none_iff]
  intro e he
  have hne := List.any_eq_false.mp h e he
  rw [beq_iff_eq] at hne
  exact bne_iff_ne.mpr (Ne.symm hne)

theorem lookup?_insert (hne : place ≠ []) :
    (t.insert place entry).lookup? q = if q = place then some entry else t.lookup? q := by
  by_cases hroot : q = []
  · rw [hroot, if_neg hne.symm]
    rfl
  simp only [lookup?, if_neg hroot, insert]
  split
  · next hany => simp only [lookup_replace, hany, and_true]
  · next hany =>
    rw [Bool.not_eq_true] at hany
    rw [List.lookup_append]
    by_cases hq : q = place
    · subst hq
      rw [lookup_eq_none_of_any hany, if_pos rfl, List.lookup_cons_self]
      rfl
    · rw [lookup_cons_ne (Ne.symm hq), if_neg hq, List.lookup_nil, Option.or_none]

theorem hasDir_iff : t.hasDir place = true ↔ t.lookup? place = some .dir := by
  rw [hasDir, beq_iff_eq]

theorem isSome_of_hasDir (h : t.hasDir place = true) : (t.lookup? place).isSome = true := by
  rw [hasDir_iff.mp h]
  rfl

theorem isSome_lookup?_iff :
    (t.lookup? place).isSome = true ↔ place = [] ∨ ∃ e ∈ t.entries, e.1 = place := by
  rw [lookup?]
  split
  · next hroot => exact iff_of_true rfl (Or.inl hroot)
  · next hne =>
    rw [or_iff_right hne, ← Option.ne_none_iff_isSome, ne_eq, List.lookup_eq_none_iff]
    constructor
    · intro h
      by_contra hno
      apply h
      intro e he
      rw [bne_iff_ne]
      rintro rfl
      exact hno ⟨e, he, rfl⟩
    · rintro ⟨e, he, rfl⟩ h
      exact bne_iff_ne.mp (h e he) rfl

/-- Is everything in a directory? -/
def IsRooted (t : FileTree) : Prop :=
  ∀ place name, (t.lookup? (place ++ [name])).isSome = true → t.hasDir place = true

/-- It is enough to look at the entries. -/
theorem isRooted_iff : t.IsRooted ↔ ∀ e ∈ t.entries, t.hasDir e.1.dropLast = true := by
  constructor
  · intro htree e he
    cases hplace : e.1 using List.reverseRecOn with
    | nil => rfl
    | append_singleton place name =>
      rw [List.dropLast_concat]
      apply htree place name
      rw [isSome_lookup?_iff]
      exact Or.inr ⟨e, he, hplace⟩
  · intro h place name hsome
    rw [isSome_lookup?_iff] at hsome
    rcases hsome with hnil | ⟨e, he, hplace⟩
    · simp at hnil
    · have hdir := h e he
      rwa [hplace, List.dropLast_concat] at hdir

instance : Decidable t.IsRooted := decidable_of_iff _ isRooted_iff.symm

/-- Above anything that there is, there are directories. -/
theorem IsRooted.hasDir_of_append (htree : t.IsRooted) {rest : Place} (hne : rest ≠ [])
    (h : (t.lookup? (place ++ rest)).isSome = true) : t.hasDir place = true := by
  induction rest using List.reverseRecOn with
  | nil => exact absurd rfl hne
  | append_singleton rest name ih =>
    rw [← List.append_assoc] at h
    have hdir := htree _ _ h
    by_cases hrest : rest = []
    · rwa [hrest, List.append_nil] at hdir
    · exact ih hrest (isSome_of_hasDir hdir)

/-! ### Following names -/

theorem follow_eq_ok_iff {name : Bytes} (hup : Path.isDotDot name = false) :
    t.follow place name = .ok q ↔
      t.hasDir place = true ∧
        (Path.isDot name = true ∧ q = place ∨
          Path.isDot name = false ∧ name.length ≤ maxName ∧ q = place ++ [name] ∧
            (t.lookup? q).isSome = true) := by
  rw [follow, hup]
  cases hdir : t.hasDir place with
  | false =>
    rw [Bool.not_false, if_pos rfl]
    constructor
    · intro h
      cases h
    · rintro ⟨hdir, -⟩
      cases hdir
  | true =>
    rw [Bool.not_true, if_neg Bool.false_ne_true]
    cases hdot : Path.isDot name with
    | true =>
      rw [if_pos rfl]
      constructor
      · intro h
        cases h
        exact ⟨rfl, Or.inl ⟨rfl, rfl⟩⟩
      · rintro ⟨-, ⟨-, rfl⟩ | ⟨hnotDot, -⟩⟩
        · rfl
        · cases hnotDot
    | false =>
      rw [if_neg Bool.false_ne_true, if_neg Bool.false_ne_true]
      by_cases hlen : maxName < name.length
      · rw [if_pos hlen]
        constructor
        · intro h
          cases h
        · rintro ⟨-, ⟨hdot, -⟩ | ⟨-, hshort, -⟩⟩
          · cases hdot
          · exact absurd hlen (Nat.not_lt.mpr hshort)
      · rw [if_neg hlen]
        constructor
        · intro h
          split at h
          · next entry hlook =>
            cases h
            exact ⟨rfl, Or.inr ⟨rfl, Nat.not_lt.mp hlen, rfl, by rw [hlook]; rfl⟩⟩
          · cases h
        · rintro ⟨-, ⟨hisDot, -⟩ | ⟨-, -, rfl, hsome⟩⟩
          · cases hisDot
          · obtain ⟨entry, hlook⟩ := Option.isSome_iff_exists.mp hsome
            rw [hlook]

/-- Where names lead: behind the start, and on the way there are only directories. -/
theorem exists_of_foldlM_follow {names : List Bytes}
    (hup : ∀ name ∈ names, Path.isDotDot name = false)
    (h : names.foldlM t.follow start = .ok q) :
    q = start ++ Path.leading names ∧ (∀ name ∈ names, name.length ≤ maxName) ∧
      (names ≠ [] → t.hasDir start = true ∧ (t.lookup? q).isSome = true) ∧
        ((∃ name ∈ names.getLast?, Path.isDot name = true) → t.hasDir q = true) := by
  -- From the end: the last name is followed from where the others lead.
  induction names using List.reverseRecOn generalizing q with
  | nil =>
    cases h
    simp
  | append_singleton names name ih =>
    rw [List.foldlM_append] at h
    obtain ⟨s, hs, hname⟩ := bind_eq_ok_iff.mp h
    obtain ⟨hq, hlen, hway, -⟩ := ih (fun n hn => hup n (List.mem_append_left _ hn)) hs
    have hlast : t.follow s name = .ok q := by
      simpa using hname
    rw [follow_eq_ok_iff (hup name (by simp))] at hlast
    obtain ⟨hdir, hcases⟩ := hlast
    have hstart : t.hasDir start = true := by
      cases names with
      | nil =>
        cases hs
        exact hdir
      | cons n names => exact (hway (by simp)).1
    rcases hcases with ⟨hdot, rfl⟩ | ⟨hdot, hshort, rfl, hsome⟩
    · refine ⟨?_, ?_, fun _ => ⟨hstart, isSome_of_hasDir hdir⟩, fun _ => hdir⟩
      · simp [Path.leading, hdot, hq]
      · intro n hn
        rcases List.mem_append.mp hn with hn | hn
        · exact hlen n hn
        · rw [List.mem_singleton.mp hn, beq_iff_eq.mp hdot]
          decide
    · refine ⟨?_, ?_, fun _ => ⟨hstart, hsome⟩, ?_⟩
      · simp [Path.leading, hdot, hq]
      · intro n hn
        rcases List.mem_append.mp hn with hn | hn
        · exact hlen n hn
        · rwa [List.mem_singleton.mp hn]
      · rintro ⟨n, hn, hisDot⟩
        rw [List.getLast?_concat] at hn
        cases hn
        rw [hdot] at hisDot
        cases hisDot

/-- In a tree, names lead to whatever there is. -/
theorem IsRooted.foldlM_follow (htree : t.IsRooted) {names : List Bytes}
    (hup : ∀ name ∈ names, Path.isDotDot name = false)
    (hlen : ∀ name ∈ names, name.length ≤ maxName)
    (hsome : (t.lookup? (start ++ Path.leading names)).isSome = true)
    (hdot : (∃ name ∈ names.getLast?, Path.isDot name = true) →
      t.hasDir (start ++ Path.leading names) = true) :
    names.foldlM t.follow start = .ok (start ++ Path.leading names) := by
  induction names using List.reverseRecOn with
  | nil =>
    rw [Path.leading, List.filter_nil, List.append_nil]
    rfl
  | append_singleton names name ih =>
    -- The others lead to a directory: what is at the end is the same, or below it.
    have hdir : t.hasDir (start ++ Path.leading names) = true := by
      cases hname : Path.isDot name with
      | true => simpa [Path.leading, hname] using hdot ⟨name, by simp, hname⟩
      | false =>
        apply htree _ name
        simpa [Path.leading, hname] using hsome
    rw [List.foldlM_append, bind_eq_ok_iff]
    refine ⟨_, ih (fun n hn => hup n (List.mem_append_left _ hn))
      (fun n hn => hlen n (List.mem_append_left _ hn)) (isSome_of_hasDir hdir) (fun _ => hdir), ?_⟩
    have hfollow : t.follow (start ++ Path.leading names) name =
        .ok (start ++ Path.leading (names ++ [name])) := by
      rw [follow_eq_ok_iff (hup name (by simp))]
      refine ⟨hdir, ?_⟩
      cases hname : Path.isDot name with
      | true => simp [Path.leading, hname]
      | false =>
        right
        refine ⟨rfl, hlen name (by simp), by simp [Path.leading, hname], hsome⟩
    simpa using hfollow

/-! ### Where a path leads -/

theorem checkPath_eq_ok_iff :
    checkPath p = .ok () ↔ p.raw ≠ [] ∧ 0 ∉ p.raw ∧ p.raw.length < maxPath := by
  rw [checkPath]
  split
  · next hnul => simp_all
  split
  · next hempty => simp_all
  split
  · next hlong =>
    constructor
    · intro h
      cases h
    · rintro ⟨-, -, hshort⟩
      exact absurd hlong (Nat.not_le.mpr hshort)
  · next hnul hempty hlong =>
    simp_all

/-- The place that a path is about, if none of its names goes up. -/
def placeOf (cwd : Place) (p : Path) : Place := origin cwd p ++ p.steps

/-- Behind a name there is no slash, and it is not `.`. -/
theorem not_namesDir_join (dir : Path) {name : Bytes} (h : Path.IsName name) :
    ¬ (dir.join ⟨name⟩).NamesDir := by
  rintro (htrailing | ⟨last, hlast, hdot⟩)
  · obtain ⟨front, hjoin, -⟩ := dir.exists_join_eq h
    rw [hjoin, hasTrailingSlash, List.getLast?_append, beq_iff_eq,
      List.getLast?_eq_some_getLast h.ne_nil, Option.some_or] at htrailing
    apply h.slash_notMem
    rw [← Option.some.inj htrailing]
    exact List.getLast_mem h.ne_nil
  · rw [Path.names_join dir h, List.getLast?_concat] at hlast
    cases hlast
    rw [h.not_dot] at hdot
    cases hdot

theorem placeOf_join (cwd : Place) (dir : Path) {name : Bytes} (h : Path.IsName name) :
    placeOf cwd (dir.join ⟨name⟩) = placeOf cwd dir ++ [name] := by
  rw [placeOf, placeOf, origin, origin, Path.isAbsolute_join dir h, Path.steps_join dir h,
    List.append_assoc]

/-- Is there something where a path leads? -/
structure Reaches (t : FileTree) (cwd : Place) (p : Path) : Prop where
  isFit : p.IsFit
  isSome : (t.lookup? (placeOf cwd p)).isSome = true
  hasDir : p.NamesDir → t.hasDir (placeOf cwd p) = true

theorem Reaches.congr (h : t.Reaches cwd p)
    (hsame : t'.lookup? (placeOf cwd p) = t.lookup? (placeOf cwd p)) : t'.Reaches cwd p where
  isFit := h.isFit
  isSome := by
    rw [hsame]
    exact h.isSome
  hasDir := by
    intro hnames
    rw [hasDir_iff, hsame]
    exact hasDir_iff.mp (h.hasDir hnames)

theorem reaches_of_resolve (hup : p.NeverUp) (h : t.resolve cwd p = .ok q) :
    t.Reaches cwd p ∧ q = placeOf cwd p := by
  rw [resolve, bind_eq_ok_iff] at h
  obtain ⟨⟨⟩, hcheck, h⟩ := h
  obtain ⟨place, hfollow, h⟩ := bind_eq_ok_iff.mp h
  obtain ⟨hplace, hlen, hway, hdot⟩ := exists_of_foldlM_follow hup hfollow
  change place = placeOf cwd p at hplace
  obtain ⟨hne, hnul, hlt⟩ := checkPath_eq_ok_iff.mp hcheck
  split at h
  · cases h
  next hslash =>
  cases h
  have hsome : (t.lookup? q).isSome = true := by
    by_cases hnames : p.names = []
    · -- Only the root has no names.
      have habsolute := Path.isAbsolute_of_names_eq_nil hne hnames
      rw [hplace, placeOf, origin, if_pos habsolute, Path.steps, hnames]
      rfl
    · exact (hway hnames).2
  refine ⟨⟨⟨hne, hnul, hlt, hlen⟩, hplace ▸ hsome, ?_⟩, hplace⟩
  intro hnamesDir
  rw [← hplace]
  rcases hnamesDir with htrailing | hisDot
  · simpa [htrailing] using hslash
  · exact hdot hisDot

theorem IsRooted.resolve (htree : t.IsRooted) (hup : p.NeverUp) (h : t.Reaches cwd p) :
    t.resolve cwd p = .ok (placeOf cwd p) := by
  obtain ⟨⟨hne, hnul, hlt, hlen⟩, hsome, hdir⟩ := h
  rw [FileTree.resolve, bind_eq_ok_iff]
  refine ⟨(), checkPath_eq_ok_iff.mpr ⟨hne, hnul, hlt⟩, bind_eq_ok_iff.mpr ⟨placeOf cwd p, ?_, ?_⟩⟩
  · exact htree.foldlM_follow hup hlen hsome fun hisDot => hdir (Or.inr hisDot)
  · split
    · next hslash =>
      rw [Bool.and_eq_true, Bool.not_eq_true'] at hslash
      have hdir := hdir (Or.inl hslash.1)
      rw [hslash.2] at hdir
      cases hdir
    · rfl

theorem isReachable_iff (htree : t.IsRooted) (hup : p.NeverUp) :
    t.isReachable cwd p = true ↔ t.Reaches cwd p := by
  rw [isReachable]
  constructor
  · intro h
    cases hresolve : t.resolve cwd p with
    | error e =>
      rw [hresolve] at h
      cases h
    | ok q => exact (reaches_of_resolve hup hresolve).1
  · intro h
    rw [htree.resolve hup h]
    rfl

theorem isFile_iff (htree : t.IsRooted) (hup : p.NeverUp) :
    t.isFile cwd p = true ↔
      t.Reaches cwd p ∧
        ∃ entry, t.lookup? (placeOf cwd p) = some entry ∧ entry.isRegular = true := by
  rw [isFile]
  constructor
  · intro h
    cases hresolve : t.resolve cwd p with
    | error e =>
      rw [hresolve] at h
      cases h
    | ok q =>
      obtain ⟨hreaches, rfl⟩ := reaches_of_resolve hup hresolve
      rw [hresolve] at h
      exact ⟨hreaches, (Option.any_eq_true _ _).mp h⟩
  · rintro ⟨hreaches, entry, hentry, hregular⟩
    rw [htree.resolve hup hreaches]
    dsimp only
    rw [hentry]
    exact hregular

theorem isFile_congr (htree : t.IsRooted) (htree' : t'.IsRooted) (hup : p.NeverUp)
    (hsame : t'.lookup? (placeOf cwd p) = t.lookup? (placeOf cwd p)) :
    t'.isFile cwd p = t.isFile cwd p := by
  rw [Bool.eq_iff_iff, isFile_iff htree hup, isFile_iff htree' hup, hsame]
  constructor
  · rintro ⟨hreaches, hregular⟩
    exact ⟨hreaches.congr hsame.symm, hregular⟩
  · rintro ⟨hreaches, hregular⟩
    exact ⟨hreaches.congr hsame, hregular⟩

theorem IsRooted.readFile (htree : t.IsRooted) (hup : p.NeverUp) (hreaches : t.Reaches cwd p)
    (h : t.lookup? (placeOf cwd p) = some entry) : t.readFile cwd p = entry.contents := by
  simp only [FileTree.readFile, htree.resolve hup hreaches, bind, Except.bind, h]

theorem readFile_congr (htree : t.IsRooted) (htree' : t'.IsRooted) (hup : p.NeverUp)
    (hreaches : t.Reaches cwd p) (hsame : t'.lookup? (placeOf cwd p) = t.lookup? (placeOf cwd p)) :
    t'.readFile cwd p = t.readFile cwd p := by
  obtain ⟨entry, hentry⟩ := Option.isSome_iff_exists.mp hreaches.isSome
  rw [htree.readFile hup hreaches hentry,
    htree'.readFile hup (hreaches.congr hsame) (hsame.trans hentry)]

/-- Where a file or directory is to be made. -/
structure Targets (t : FileTree) (cwd : Place) (p : Path) (parent : Place) (name : Bytes) :
    Prop where
  check : checkPath p = .ok ()
  follow : p.names.dropLast.foldlM t.follow (origin cwd p) = .ok parent
  names : p.names = p.names.dropLast ++ [name]
  hasDir : t.hasDir parent = true
  not_dot : Path.isDot name = false

theorem targets_of_target {parent : Place} {name : Bytes}
    (h : t.target cwd p = .ok (.named parent name)) : t.Targets cwd p parent name := by
  rw [target, bind_eq_ok_iff] at h
  obtain ⟨⟨⟩, hcheck, h⟩ := h
  split at h
  · cases h
  next last hlast =>
  obtain ⟨place, hfollow, h⟩ := bind_eq_ok_iff.mp h
  split at h
  · cases h
  next hdir =>
  split at h
  · cases h
  next hdots =>
  cases h
  obtain ⟨front, hfront⟩ := List.getLast?_eq_some_iff.mp hlast
  refine ⟨hcheck, hfollow, ?_, by simpa using hdir, ?_⟩
  · rw [hfront, List.dropLast_concat]
  · rw [Bool.or_eq_true, not_or] at hdots
    simpa using hdots.1

theorem Targets.eq {parent : Place} {name : Bytes} (h : t.Targets cwd p parent name)
    (hup : p.NeverUp) :
    parent = origin cwd p ++ p.steps.dropLast ∧ placeOf cwd p = parent ++ [name] ∧
      p.steps ≠ [] := by
  have hfront : ∀ n ∈ p.names.dropLast, Path.isDotDot n = false := by
    intro n hn
    exact hup n (List.dropLast_subset _ hn)
  obtain ⟨hparent, -⟩ := exists_of_foldlM_follow hfront h.follow
  have hsteps : p.steps = Path.leading p.names.dropLast ++ [name] := by
    rw [Path.steps]
    conv_lhs => rw [h.names]
    simp [Path.leading, h.not_dot]
  rw [placeOf, hsteps, List.dropLast_concat, hparent, List.append_assoc]
  exact ⟨rfl, rfl, List.concat_ne_nil _ _⟩

theorem Targets.isFit {parent : Place} {name : Bytes} (h : t.Targets cwd p parent name)
    (hup : p.NeverUp) (hlen : name.length ≤ maxName) : p.IsFit := by
  obtain ⟨hne, hnul, hlt⟩ := checkPath_eq_ok_iff.mp h.check
  have hfront : ∀ n ∈ p.names.dropLast, Path.isDotDot n = false := by
    intro n hn
    exact hup n (List.dropLast_subset _ hn)
  obtain ⟨-, hlens, -⟩ := exists_of_foldlM_follow hfront h.follow
  refine ⟨hne, hnul, hlt, ?_⟩
  intro n hn
  rw [h.names, List.mem_append, List.mem_singleton] at hn
  rcases hn with hn | rfl
  · exact hlens n hn
  · exact hlen

theorem exists_of_makeDir (h : t.makeDir cwd p = .ok t') :
    ∃ parent name, t.Targets cwd p parent name ∧ t.lookup? (parent ++ [name]) = none ∧
      t' = t.insert (parent ++ [name]) .dir := by
  rw [makeDir, bind_eq_ok_iff] at h
  obtain ⟨_ | ⟨parent, name⟩, htarget, h⟩ := h
  · cases h
  dsimp only at h
  split at h
  · cases h
  split at h
  · cases h
  next hmissing =>
  cases h
  exact ⟨parent, name, targets_of_target htarget, by simpa using hmissing, rfl⟩

/-- What is at a place after contents were put there, by what was there before. -/
inductive Takes (contents : Bytes) : Bool → Option Entry → Entry → Prop
  | new {fresh : Bool} : Takes contents fresh none (.file contents)
  | replaced {old entry : Entry} : old.overwrite contents = .ok entry →
      Takes contents false (some old) entry

namespace Takes

variable {contents : Bytes} {fresh : Bool} {old? : Option Entry}

theorem ne_dir (h : Takes contents fresh old? entry) : old? ≠ some .dir := by
  cases h with
  | new =>
    intro h
    cases h
  | replaced hover =>
    rintro ⟨⟩
    cases hover

theorem of_fresh (h : Takes contents true old? entry) : old? = none ∧ entry = .file contents := by
  cases h with
  | new => exact ⟨rfl, rfl⟩

/-- A device keeps nothing, and nothing else is written over but files. -/
theorem of_not_device (h : Takes contents fresh old? entry)
    (hdevice : ∀ device, old? ≠ some (.device device)) :
    entry = .file contents ∧ (old? = none ∨ ∃ old, old? = some (.file old)) := by
  cases h with
  | new => exact ⟨rfl, Or.inl rfl⟩
  | @replaced old entry hover =>
    cases old with
    | file old =>
      cases hover
      exact ⟨rfl, Or.inr ⟨old, rfl⟩⟩
    | dir => cases hover
    | device device => exact absurd rfl (hdevice device)
    | program name => cases hover

end Takes

theorem exists_of_putFile {contents : Bytes} {fresh : Bool}
    (h : t.putFile cwd p contents fresh = .ok t') :
    ∃ parent name entry, t.Targets cwd p parent name ∧ hasTrailingSlash p = false ∧
      name.length ≤ maxName ∧ t' = t.insert (parent ++ [name]) entry ∧
        Takes contents fresh (t.lookup? (parent ++ [name])) entry := by
  rw [putFile, bind_eq_ok_iff] at h
  obtain ⟨_ | ⟨parent, name⟩, htarget, h⟩ := h
  · cases h
  dsimp only at h
  split at h
  · cases h
  next hslash =>
  split at h
  · cases h
  next hlen =>
  have htargets := targets_of_target htarget
  rw [Bool.not_eq_true] at hslash
  rw [Nat.not_lt] at hlen
  split at h
  · next hmissing =>
    cases h
    exact ⟨parent, name, _, htargets, hslash, hlen, rfl, hmissing ▸ .new⟩
  · next old hold =>
    split at h
    · cases h
    next hfresh =>
    obtain ⟨entry, hentry, h⟩ := bind_eq_ok_iff.mp h
    cases h
    rw [Bool.not_eq_true] at hfresh
    subst hfresh
    exact ⟨parent, name, entry, htargets, hslash, hlen, rfl, hold ▸ .replaced hentry⟩

/-! ### What is added to a tree -/

theorem IsRooted.insert (htree : t.IsRooted) {parent : Place} {name : Bytes}
    (hdir : t.hasDir parent = true)
    (hentry : entry = .dir ∨ t.hasDir (parent ++ [name]) = false) :
    (t.insert (parent ++ [name]) entry).IsRooted := by
  intro place n hsome
  have hne : parent ++ [name] ≠ [] := by simp
  rw [hasDir_iff, lookup?_insert hne]
  have hplace : t.hasDir place = true := by
    rw [lookup?_insert hne] at hsome
    split at hsome
    · next heq =>
      rwa [(List.append_inj' heq rfl).1]
    · exact htree place n hsome
  split
  · next heq =>
    rcases hentry with rfl | hmissing
    · rfl
    · rw [heq, hmissing] at hplace
      cases hplace
  · exact hasDir_iff.mp hplace

/-- Was nothing but missing directories on the way to a place added to a tree? -/
structure AddsDirs (t t' : FileTree) (place : Place) : Prop where
  lookup : ∀ q, t'.lookup? q = t.lookup? q ∨
    q <+: place ∧ t.lookup? q = none ∧ t'.lookup? q = some .dir
  executable : t'.executable = t.executable
  isRooted : t.IsRooted → t'.IsRooted

namespace AddsDirs

theorem refl (t : FileTree) (place : Place) : AddsDirs t t place where
  lookup := fun _ => Or.inl rfl
  executable := rfl
  isRooted := id

theorem mono {place' : Place} (h : AddsDirs t t' place) (hle : place <+: place') :
    AddsDirs t t' place' where
  lookup := by
    intro q
    rcases h.lookup q with hsame | ⟨hq, hnew⟩
    · exact Or.inl hsame
    · exact Or.inr ⟨hq.trans hle, hnew⟩
  executable := h.executable
  isRooted := h.isRooted

theorem trans {t'' : FileTree} (h : AddsDirs t t' place) (h' : AddsDirs t' t'' place) :
    AddsDirs t t'' place where
  lookup := by
    intro q
    rcases h'.lookup q with hsame | ⟨hq, hmissing, hnew⟩
    · rw [hsame]
      exact h.lookup q
    · right
      rcases h.lookup q with hsame | ⟨-, -, hdir⟩
      · exact ⟨hq, hsame ▸ hmissing, hnew⟩
      · rw [hdir] at hmissing
        cases hmissing
  executable := h'.executable.trans h.executable
  isRooted := fun htree => h'.isRooted (h.isRooted htree)

/-- What was there stays. -/
theorem keeps (h : AddsDirs t t' place) (hq : t.lookup? q = some entry) :
    t'.lookup? q = some entry := by
  rcases h.lookup q with hsame | ⟨-, hmissing, -⟩
  · rw [hsame, hq]
  · rw [hmissing] at hq
    cases hq

end AddsDirs

theorem addsDirs_of_makeDir (hup : p.NeverUp) (h : t.makeDir cwd p = .ok t') :
    AddsDirs t t' (placeOf cwd p) := by
  obtain ⟨parent, name, htargets, hmissing, rfl⟩ := exists_of_makeDir h
  rw [(htargets.eq hup).2.1]
  refine ⟨?_, rfl, fun htree => htree.insert htargets.hasDir (Or.inl rfl)⟩
  intro q
  rw [lookup?_insert (by simp)]
  split
  · next heq =>
    subst heq
    exact Or.inr ⟨List.prefix_refl _, hmissing, rfl⟩
  · exact Or.inl rfl

end Rehearsal.FileTree
