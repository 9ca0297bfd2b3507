import Rehearsal.Files.Store
import Rehearsal.Proofs.Files.Tree

/-!
# Making directories

Making a directory goes up from it until there is something, and then down again. All that this
adds are directories on the way to its place (`FileTree.makeDirs_addsDirs`), also where it fails
half-way. It does not fail where nothing is in the way (`FileTree.makeDirs_of_isClear`): if there is
a directory above one, then this can be made or is there already (`FileTree.makeDir_of_hasDir`); if
there is not, then something is missing, and that is said (`FileTree.makeDir_of_missing`).
-/

namespace Rehearsal.FileTree

variable {t t' : FileTree} {cwd place q start : Place} {p : Path}

theorem placeOf_parent (cwd : Place) {up : Path} (h : Path.IsParent up p) :
    placeOf cwd up = origin cwd p ++ p.steps.dropLast := by
  rw [placeOf, h.steps, origin, origin, h.isAbsolute]

theorem prefix_placeOf (cwd : Place) (p : Path) :
    origin cwd p ++ p.steps.dropLast <+: placeOf cwd p :=
  (List.prefix_append_right_inj _).mpr (List.dropLast_prefix _)

/-- A place is not above itself. -/
theorem not_isPrefix_above (cwd : Place) (h : p.steps ≠ []) :
    ¬ placeOf cwd p <+: origin cwd p ++ p.steps.dropLast := by
  intro hle
  have hlength := hle.length_le
  have hpos := List.length_pos_iff.mpr h
  rw [placeOf, List.length_append, List.length_append, List.length_dropLast] at hlength
  omega

/-- So directories above the place of a path leave it as it was. -/
theorem AddsDirs.lookup_placeOf (h : AddsDirs t t' (origin cwd p ++ p.steps.dropLast))
    (hne : p.steps ≠ []) : t'.lookup? (placeOf cwd p) = t.lookup? (placeOf cwd p) := by
  rcases h.lookup (placeOf cwd p) with hsame | ⟨hle, -⟩
  · exact hsame
  · exact absurd hle (not_isPrefix_above cwd hne)

theorem hasDir_origin (hcwd : t.hasDir cwd = true) : t.hasDir (origin cwd p) = true := by
  rw [origin]
  split
  · rfl
  · exact hcwd

/-- Where the way starts there is a directory, so a place without one is farther down. -/
theorem steps_ne_nil (hcwd : t.hasDir cwd = true) (h : t.hasDir (placeOf cwd p) = false) :
    p.steps ≠ [] := by
  intro hnil
  rw [placeOf, hnil, List.append_nil, hasDir_origin hcwd] at h
  cases h

/-! ### Where nothing is in the way -/

/-- Are there only directories on the way to a place, as far as there is something, and at it? -/
def IsClear (t : FileTree) (place : Place) : Prop :=
  ∀ q, q <+: place → t.hasDir q = true ∨ t.lookup? q = none

theorem IsClear.mono (h : t.IsClear place) (hle : q <+: place) : t.IsClear q :=
  fun q' hq' => h q' (hq'.trans hle)

theorem AddsDirs.isClear (hadds : AddsDirs t t' q) (h : t.IsClear place) : t'.IsClear place := by
  intro q' hq'
  rcases hadds.lookup q' with hsame | ⟨-, -, hdir⟩
  · rw [hasDir, hsame]
    exact h q' hq'
  · exact Or.inl (hasDir_iff.mpr hdir)

/-- Where there is no directory, the way to it ends at something that is missing. -/
theorem foldlM_follow_of_missing (htree : t.IsRooted) {names : List Bytes}
    (hup : ∀ name ∈ names, Path.isDotDot name = false)
    (hlen : ∀ name ∈ names, name.length ≤ maxName) (hstart : t.hasDir start = true)
    (hclear : t.IsClear (start ++ Path.leading names))
    (hmissing : t.hasDir (start ++ Path.leading names) = false) :
    names.foldlM t.follow start = .error .notFound := by
  induction names using List.reverseRecOn with
  | nil =>
    rw [Path.leading, List.filter_nil, List.append_nil, hstart] at hmissing
    cases hmissing
  | append_singleton names name ih =>
    have hfront : ∀ n ∈ names, n ∈ names ++ [name] := fun n hn => List.mem_append_left _ hn
    have hup' : ∀ n ∈ names, Path.isDotDot n = false := fun n hn => hup n (hfront n hn)
    have hlen' : ∀ n ∈ names, n.length ≤ maxName := fun n hn => hlen n (hfront n hn)
    have hle : start ++ Path.leading names <+: start ++ Path.leading (names ++ [name]) := by
      rw [Path.leading, Path.leading, List.filter_append, ← List.append_assoc]
      exact List.prefix_append _ _
    rw [List.foldlM_append]
    by_cases hdir : t.hasDir (start ++ Path.leading names) = true
    · -- The last name leads on, and nothing has it.
      have hdot : Path.isDot name = false := by
        rw [Bool.eq_false_iff]
        intro hdot
        rw [Path.leading, List.filter_append] at hmissing
        simp [hdot, hdir] at hmissing
      have hplace : start ++ Path.leading (names ++ [name]) =
          start ++ Path.leading names ++ [name] := by
        simp [hdot]
      rw [hplace] at hclear hmissing
      have hnone : t.lookup? (start ++ Path.leading names ++ [name]) = none := by
        rcases hclear _ (List.prefix_refl _) with hdir' | hnone
        · rw [hdir'] at hmissing
          cases hmissing
        · exact hnone
      have hnotLong : ¬ maxName < name.length := Nat.not_lt.mpr (hlen name (by simp))
      rw [htree.foldlM_follow hup' hlen' (isSome_of_hasDir hdir) (fun _ => hdir)]
      show [name].foldlM t.follow (start ++ Path.leading names) = .error .notFound
      rw [List.foldlM_cons, follow, hdir, hdot, hup name (by simp), if_neg hnotLong, hnone]
      rfl
    · rw [ih hup' hlen' (hclear.mono hle) (Bool.not_eq_true _ ▸ hdir)]
      rfl

/-! ### One directory -/

theorem isDir_of_hasDir (htree : t.IsRooted) (hup : p.NeverUp) (hfit : p.IsFit)
    (hdir : t.hasDir (placeOf cwd p) = true) : t.isDir cwd p = true := by
  have hreaches : t.Reaches cwd p := ⟨hfit, isSome_of_hasDir hdir, fun _ => hdir⟩
  rw [isDir, htree.resolve hup hreaches]
  exact hdir

/-- What the names before the last of a path that is trimmed lead to is the directory above. -/
theorem leading_dropLast (htrim : p.IsTrimmed) :
    Path.leading p.names.dropLast = p.steps.dropLast := by
  rw [Path.steps]
  cases hlast : p.names.getLast? with
  | none =>
    rw [List.getLast?_eq_none_iff.mp hlast]
    rfl
  | some name =>
    obtain ⟨front, hnames⟩ := List.getLast?_eq_some_iff.mp hlast
    have hdot := htrim name hlast
    rw [hnames, List.dropLast_concat] at hdot ⊢
    cases hname : Path.isDot name with
    | true =>
      rw [hdot hname]
      simp [hname]
    | false => simp [hname]

theorem checkPath_of_isFit (h : p.IsFit) : checkPath p = .ok () :=
  checkPath_eq_ok_iff.mpr ⟨h.ne_nil, h.nul_notMem, h.length_lt⟩

theorem target_of_hasDir (htree : t.IsRooted) (hup : p.NeverUp) (hfit : p.IsFit) {name : Bytes}
    (hlast : p.names.getLast? = some name)
    (hdir : t.hasDir (origin cwd p ++ Path.leading p.names.dropLast) = true) :
    t.target cwd p = .ok (if Path.isDot name then .special
      else .named (origin cwd p ++ Path.leading p.names.dropLast) name) := by
  have hfollow : p.names.dropLast.foldlM t.follow (origin cwd p) =
      .ok (origin cwd p ++ Path.leading p.names.dropLast) := by
    apply htree.foldlM_follow
    · exact fun name hname => hup name (List.dropLast_subset _ hname)
    · exact fun name hname => hfit.name_le name (List.dropLast_subset _ hname)
    · exact isSome_of_hasDir hdir
    · exact fun _ => hdir
  have hdotDot : Path.isDotDot name = false := hup name (List.mem_of_getLast? hlast)
  rw [target, bind_eq_ok_iff]
  refine ⟨(), checkPath_of_isFit hfit, ?_⟩
  rw [hlast]
  dsimp only
  rw [hfollow]
  show (if !t.hasDir _ then _ else _) = _
  rw [hdir, hdotDot, Bool.or_false]
  cases Path.isDot name with
  | true => rfl
  | false => rfl

/-- If what is before the last name of a path is there, a directory can be made, or is there. -/
theorem makeDir_of_hasDir (htree : t.IsRooted) (hup : p.NeverUp) (hfit : p.IsFit)
    (hdir : t.hasDir (origin cwd p ++ Path.leading p.names.dropLast) = true)
    (hclear : t.IsClear (placeOf cwd p)) :
    (∃ t', t.makeDir cwd p = .ok t' ∧ t'.hasDir (placeOf cwd p) = true) ∨
      t.makeDir cwd p = .error .alreadyExists ∧ t.hasDir (placeOf cwd p) = true := by
  cases hlast : p.names.getLast? with
  | none =>
    right
    have hnames : p.names = [] := List.getLast?_eq_none_iff.mp hlast
    refine ⟨?_, ?_⟩
    · rw [makeDir, target, checkPath_of_isFit hfit, hlast]
      rfl
    · rw [placeOf, Path.steps, hnames]
      rwa [hnames] at hdir
  | some name =>
    have htarget := target_of_hasDir htree hup hfit hlast hdir
    obtain ⟨front, hnames⟩ := List.getLast?_eq_some_iff.mp hlast
    cases hdot : Path.isDot name with
    | true =>
      refine Or.inr ⟨?_, ?_⟩
      · rw [makeDir, htarget, hdot]
        rfl
      rw [hnames, List.dropLast_concat] at hdir
      rw [placeOf, Path.steps, hnames]
      simpa [hdot] using hdir
    | false =>
      have hplace : placeOf cwd p = origin cwd p ++ Path.leading p.names.dropLast ++ [name] := by
        rw [placeOf, Path.steps, hnames]
        simp [hdot]
      have hnotLong : ¬ maxName < name.length :=
        Nat.not_lt.mpr (hfit.name_le name (List.mem_of_getLast? hlast))
      have hmake : t.makeDir cwd p =
          if (t.lookup? (placeOf cwd p)).isSome then .error .alreadyExists
          else .ok (t.insert (placeOf cwd p) .dir) := by
        rw [makeDir, htarget, hdot, hplace]
        show (if maxName < name.length then _ else _) = _
        rw [if_neg hnotLong]
        rfl
      rcases hclear _ (List.prefix_refl _) with hhere | hmissing
      · right
        rw [hmake, isSome_of_hasDir hhere]
        exact ⟨rfl, hhere⟩
      · left
        rw [hmake, hmissing]
        refine ⟨_, rfl, ?_⟩
        rw [hasDir_iff, lookup?_insert (by simp [hplace]), if_pos rfl]

/-- If it is not, then it is said that something is missing. -/
theorem makeDir_of_missing (htree : t.IsRooted) (hcwd : t.hasDir cwd = true) (hup : p.NeverUp)
    (hfit : p.IsFit) (hmissing : t.hasDir (origin cwd p ++ Path.leading p.names.dropLast) = false)
    (hclear : t.IsClear (placeOf cwd p)) : t.makeDir cwd p = .error .notFound := by
  have hle : origin cwd p ++ Path.leading p.names.dropLast <+: placeOf cwd p :=
    (List.prefix_append_right_inj _).mpr (List.IsPrefix.filter _ (List.dropLast_prefix _))
  have hfollow : p.names.dropLast.foldlM t.follow (origin cwd p) = .error .notFound := by
    apply foldlM_follow_of_missing htree
    · exact fun name hname => hup name (List.dropLast_subset _ hname)
    · exact fun name hname => hfit.name_le name (List.dropLast_subset _ hname)
    · exact hasDir_origin hcwd
    · exact hclear.mono hle
    · exact hmissing
  cases hlast : p.names.getLast? with
  | none =>
    rw [List.getLast?_eq_none_iff.mp hlast] at hmissing
    rw [Path.leading, List.dropLast_nil, List.filter_nil, List.append_nil,
      hasDir_origin hcwd] at hmissing
    cases hmissing
  | some name =>
    rw [makeDir, target, checkPath_of_isFit hfit, hlast]
    show ((p.names.dropLast.foldlM t.follow (origin cwd p) >>= _) >>= _) = _
    rw [hfollow]
    rfl

theorem ensureDir_of_hasDir (htree : t.IsRooted) (hup : p.NeverUp) (hfit : p.IsFit)
    (hdir : t.hasDir (origin cwd p ++ Path.leading p.names.dropLast) = true)
    (hclear : t.IsClear (placeOf cwd p)) :
    ∃ t', t.ensureDir cwd p = (t', .ok ()) ∧ t'.hasDir (placeOf cwd p) = true := by
  rw [ensureDir]
  rcases makeDir_of_hasDir htree hup hfit hdir hclear with ⟨t', hmake, hmade⟩ | ⟨hmake, hthere⟩
  · rw [hmake]
    exact ⟨t', rfl, hmade⟩
  · rw [hmake]
    dsimp only
    rw [isDir_of_hasDir htree hup hfit hthere]
    exact ⟨t, rfl, hthere⟩

/-! ### All of them -/

theorem ensureDir_addsDirs (t : FileTree) (cwd : Place) (hup : p.NeverUp) :
    AddsDirs t (t.ensureDir cwd p).1 (placeOf cwd p) := by
  rw [ensureDir]
  split
  · next t' hmake => exact addsDirs_of_makeDir hup hmake
  · exact AddsDirs.refl t _

/-- Making a directory and those above it adds only directories on the way to its place, whether it
succeeds or fails. -/
theorem makeDirs_addsDirs (t : FileTree) (cwd : Place) (hup : p.NeverUp) :
    AddsDirs t (t.makeDirs cwd p.ancestors).1 (placeOf cwd p) := by
  induction p using Path.parent_induction with
  | step p ih =>
    rw [Path.ancestors_eq, makeDirs]
    split
    · exact AddsDirs.refl t _
    split
    · next t' hmake => exact addsDirs_of_makeDir hup hmake
    · -- Nothing is there, not even the directory above.
      have habove : AddsDirs t (t.makeDirs cwd ((p.parent?.map Path.ancestors).getD [])).1
          (placeOf cwd p) := by
        cases hparent : p.parent? with
        | none => exact AddsDirs.refl t _
        | some up =>
          have hisParent := Path.isParent_of_parent? hparent
          apply (ih up hparent (hisParent.neverUp hup)).mono
          rw [placeOf_parent cwd hisParent, placeOf]
          exact (List.prefix_append_right_inj _).mpr (List.dropLast_prefix _)
      split
      · next t' hmade =>
        rw [hmade] at habove
        exact habove.trans (t'.ensureDir_addsDirs cwd hup)
      · exact habove
    · exact AddsDirs.refl t _

theorem isFit_of_isParent {up : Path} (h : Path.IsParent up p) (hfit : p.IsFit)
    (hne : up.raw ≠ []) : up.IsFit where
  ne_nil := hne
  nul_notMem := fun hmem => hfit.nul_notMem (h.isPrefix.subset hmem)
  length_lt := Nat.lt_trans h.length_lt hfit.length_lt
  name_le := by
    intro name hname
    rcases h.mem_names hname with hdot | hmem
    · rw [beq_iff_eq.mp hdot]
      decide
    · exact hfit.name_le name hmem

/-- Where nothing is in the way, it succeeds. -/
theorem makeDirs_of_isClear (htree : t.IsRooted) (hcwd : t.hasDir cwd = true) (hup : p.NeverUp)
    (hfit : p.raw ≠ [] → p.IsFit) (htrim : p.IsTrimmed) (hclear : t.IsClear (placeOf cwd p)) :
    ∃ t', t.makeDirs cwd p.ancestors = (t', .ok ()) ∧ t'.hasDir (placeOf cwd p) = true := by
  induction p using Path.parent_induction with
  | step p ih =>
    rw [Path.ancestors_eq, makeDirs]
    by_cases hraw : p.raw = []
    · rw [hraw, List.isEmpty_nil, if_pos rfl]
      refine ⟨t, rfl, ?_⟩
      have hplace : placeOf cwd p = cwd := by
        rw [placeOf, origin, Path.isAbsolute, Path.steps, Path.names_eq, hraw]
        exact List.append_nil cwd
      rw [hplace, hcwd]
    rw [if_neg (by rwa [List.isEmpty_iff])]
    have hfit := hfit hraw
    by_cases hdir : t.hasDir (origin cwd p ++ Path.leading p.names.dropLast) = true
    · rcases makeDir_of_hasDir htree hup hfit hdir hclear with ⟨t', hmake, hmade⟩ | ⟨hmake, hthere⟩
      · rw [hmake]
        exact ⟨t', rfl, hmade⟩
      · rw [hmake]
        dsimp only
        rw [isDir_of_hasDir htree hup hfit hthere]
        exact ⟨t, rfl, hthere⟩
    rw [Bool.not_eq_true] at hdir
    rw [makeDir_of_missing htree hcwd hup hfit hdir hclear]
    dsimp only
    rw [leading_dropLast htrim] at hdir
    cases hparent : p.parent? with
    | none =>
      rw [Path.steps_of_parent?_eq_none hparent, List.dropLast_nil, List.append_nil,
        hasDir_origin hcwd] at hdir
      cases hdir
    | some up =>
      have hisParent := Path.isParent_of_parent? hparent
      have hplace := placeOf_parent cwd hisParent
      have hle : placeOf cwd up <+: placeOf cwd p := by
        rw [hplace]
        exact (List.prefix_append_right_inj _).mpr (List.dropLast_prefix _)
      obtain ⟨t', hmade, hup'⟩ := ih up hparent (hisParent.neverUp hup)
        (isFit_of_isParent hisParent hfit) (Path.isTrimmed_of_parent? hparent) (hclear.mono hle)
      have hadds := t.makeDirs_addsDirs cwd (hisParent.neverUp hup)
      rw [hmade] at hadds
      rw [Option.map_some, Option.getD_some, hmade]
      apply ensureDir_of_hasDir (hadds.isRooted htree) hup hfit _ (hadds.isClear hclear)
      rw [leading_dropLast htrim, ← hplace]
      exact hup'

/-! ### The directory of a file -/

/-- Making the directory for a file adds only directories above its place. -/
theorem mkdirFor_addsDirs (t : FileTree) (cwd : Place) (hup : p.NeverUp) :
    AddsDirs t (t.mkdirFor cwd p).1 (origin cwd p ++ p.steps.dropLast) := by
  rw [mkdirFor]
  cases hparent : p.parent? with
  | none => exact AddsDirs.refl t _
  | some up =>
    have hisParent := Path.isParent_of_parent? hparent
    have hdirs := t.makeDirs_addsDirs cwd (hisParent.neverUp hup)
    rw [placeOf_parent cwd hisParent] at hdirs
    dsimp only
    rw [mkdirAll]
    split
    · next h => rwa [h] at hdirs
    · next h => rwa [h] at hdirs

theorem mkdirFor_of_isClear (htree : t.IsRooted) (hcwd : t.hasDir cwd = true) (hup : p.NeverUp)
    (hfit : p.IsFit) (hclear : t.IsClear (origin cwd p ++ p.steps.dropLast)) :
    ∃ t', t.mkdirFor cwd p = (t', .ok ()) ∧
      t'.hasDir (origin cwd p ++ p.steps.dropLast) = true := by
  rw [mkdirFor]
  cases hparent : p.parent? with
  | none =>
    refine ⟨t, rfl, ?_⟩
    rw [Path.steps_of_parent?_eq_none hparent, List.dropLast_nil, List.append_nil]
    exact hasDir_origin hcwd
  | some up =>
    have hisParent := Path.isParent_of_parent? hparent
    rw [← placeOf_parent cwd hisParent] at hclear ⊢
    obtain ⟨t', hmade, hdir⟩ := makeDirs_of_isClear htree hcwd (hisParent.neverUp hup)
      (isFit_of_isParent hisParent hfit) (Path.isTrimmed_of_parent? hparent) hclear
    refine ⟨t', ?_, hdir⟩
    dsimp only
    rw [mkdirAll, hmade]

theorem exists_of_mkdirFor_error {e : FileError} (h : (t.mkdirFor cwd p).2 = .error e) :
    ∃ dir cause, e = .io .createDir dir cause := by
  rw [mkdirFor] at h
  split at h
  · next dir _ =>
    rw [mkdirAll] at h
    split at h
    · cases h
    · next cause hcause =>
      cases h
      exact ⟨dir, cause, rfl⟩
  · cases h

/-- Can a file be put at the place of a path, if it is not taken? -/
structure IsFree (t : FileTree) (cwd : Place) (p : Path) : Prop where
  isFit : p.IsFit
  not_namesDir : ¬ p.NamesDir
  isClear : t.IsClear (origin cwd p ++ p.steps.dropLast)

theorem putFile_of_hasDir {fresh : Bool} {contents : Bytes} {entry : Entry} (htree : t.IsRooted)
    (hup : p.NeverUp) (hfit : p.IsFit) (hnames : ¬ p.NamesDir) (hne : p.steps ≠ [])
    (hdir : t.hasDir (origin cwd p ++ p.steps.dropLast) = true)
    (htakes : Takes contents fresh (t.lookup? (placeOf cwd p)) entry) :
    t.putFile cwd p contents fresh = .ok (t.insert (placeOf cwd p) entry) := by
  have hslash : hasTrailingSlash p = false := by
    rw [Bool.eq_false_iff]
    exact fun h => hnames (Or.inl h)
  obtain ⟨name, hlast⟩ : ∃ name, p.names.getLast? = some name := by
    rw [← Option.isSome_iff_exists, Option.isSome_iff_ne_none, Ne, List.getLast?_eq_none_iff]
    intro hnil
    apply hne
    rw [Path.steps, hnil]
    rfl
  have hdot : Path.isDot name = false := by
    rw [Bool.eq_false_iff]
    exact fun h => hnames (Or.inr ⟨name, hlast, h⟩)
  have htrim : p.IsTrimmed := by
    intro last hl hlastDot
    rw [hlast] at hl
    cases hl
    rw [hdot] at hlastDot
    cases hlastDot
  rw [← leading_dropLast htrim] at hdir
  have htarget := target_of_hasDir htree hup hfit hlast hdir
  rw [hdot, if_neg Bool.false_ne_true] at htarget
  obtain ⟨-, hplace, -⟩ := (targets_of_target htarget).eq hup
  have hnotLong : ¬ maxName < name.length :=
    Nat.not_lt.mpr (hfit.name_le name (List.mem_of_getLast? hlast))
  rw [putFile, bind_eq_ok_iff]
  refine ⟨_, htarget, ?_⟩
  dsimp only
  rw [hslash, if_neg Bool.false_ne_true, if_neg hnotLong, ← hplace]
  generalize t.lookup? (placeOf cwd p) = old? at htakes
  cases htakes with
  | new => rfl
  | replaced hover =>
    dsimp only
    rw [if_neg Bool.false_ne_true, hover]
    rfl

end Rehearsal.FileTree
