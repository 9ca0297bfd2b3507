import Rehearsal.Proofs.Path

/-!
# The way up from a path

The directory above a path is found in its text: what counts for nothing at the end is cut off
(`Path.trim`), then the last name, then what counts for nothing again. In the names that lead on
(`Path.steps`) this leaves out the last one (`Path.isParent_of_parent?`), so the way up ends, and
`Path.parent_induction` is the induction over it. `Path.ancestors` are the paths on this way
(`Path.ancestors_eq`).
-/

namespace Rehearsal.Path

/-- The names that lead on: those that are not `.`. -/
abbrev leading (names : List Bytes) : List Bytes := names.filter (!isDot ·)

/-- The names of a path that lead on. -/
def steps (p : Path) : List Bytes := leading p.names

/-- Does no name of this path go up? -/
def NeverUp (p : Path) : Prop := ∀ name ∈ p.names, isDotDot name = false

instance : DecidablePred NeverUp := fun p => decidable_of_iff (∀ name ∈ p.names, _) Iff.rfl

theorem steps_append_slash (a b : Bytes) : steps ⟨a ++ slash :: b⟩ = steps ⟨a⟩ ++ steps ⟨b⟩ := by
  simp [steps, names_append_slash]

/-! ### A name inside a directory -/

theorem steps_join (dir : Path) {name : Bytes} (h : IsName name) :
    (dir.join ⟨name⟩).steps = dir.steps ++ [name] := by
  rw [steps, names_join dir h]
  simp [steps, h.not_dot]

theorem NeverUp.join {dir : Path} (hdir : dir.NeverUp) {name : Bytes} (h : IsName name) :
    (dir.join ⟨name⟩).NeverUp := by
  intro n hn
  rw [names_join dir h, List.mem_append, List.mem_singleton] at hn
  rcases hn with hn | rfl
  · exact hdir n hn
  · exact h.not_dotDot

/-! ### What counts for nothing at the end -/

theorem steps_trimEnd (r : Bytes) : steps ⟨(trimEnd r).reverse⟩ = steps ⟨r.reverse⟩ := by
  fun_induction trimEnd r with
  | case1 rest ih =>
    rw [ih, List.reverse_cons, List.reverse_cons, List.reverse_cons, List.append_assoc]
    show steps ⟨rest.reverse ++ slash :: []⟩ = steps ⟨rest.reverse ++ slash :: [dot]⟩
    rw [steps_append_slash, steps_append_slash]
    rfl
  | case2 a rest ih =>
    rw [ih, List.reverse_cons (a := 47)]
    show steps ⟨(a :: rest).reverse⟩ = steps ⟨(a :: rest).reverse ++ slash :: []⟩
    rw [steps_append_slash]
    simp [steps]
  | case3 r => rfl

theorem isAbsolute_trimEnd (r : Bytes) :
    isAbsolute ⟨(trimEnd r).reverse⟩ = isAbsolute ⟨r.reverse⟩ := by
  fun_induction trimEnd r with
  | case1 rest ih => rw [ih, List.reverse_cons (a := 46), isAbsolute_append (by simp)]
  | case2 a rest ih => rw [ih, List.reverse_cons (a := 47), isAbsolute_append (by simp)]
  | case3 r => rfl

theorem trimEnd_suffix (r : Bytes) : trimEnd r <:+ r := by
  fun_induction trimEnd r with
  | case1 rest ih => exact ih.trans (List.suffix_cons _ _)
  | case2 a rest ih => exact ih.trans (List.suffix_cons _ _)
  | case3 r => exact List.suffix_refl _

theorem trimEnd_eq_nil_iff (r : Bytes) : trimEnd r = [] ↔ r = [] := by
  fun_induction trimEnd r with
  | case1 rest ih => simp [ih]
  | case2 a rest ih => simp [ih]
  | case3 r => rfl

/-- A path without what counts for nothing at its end. -/
def trim (p : Path) : Path := ⟨(trimEnd p.raw.reverse).reverse⟩

@[simp] theorem steps_trim (p : Path) : p.trim.steps = p.steps := by
  rw [trim, steps_trimEnd, List.reverse_reverse]

@[simp] theorem isAbsolute_trim (p : Path) : p.trim.isAbsolute = p.isAbsolute := by
  rw [trim, isAbsolute_trimEnd, List.reverse_reverse]

theorem isPrefix_trim (p : Path) : p.trim.raw <+: p.raw := by
  have h := trimEnd_suffix p.raw.reverse
  rwa [← List.reverse_prefix, List.reverse_reverse] at h

/-- A last name, which is not `.` unless it is all there is, and what stands before it. -/
structure EndsIn (front name : Bytes) : Prop where
  ne_nil : name ≠ []
  slash_notMem : slash ∉ name
  front : front = [] ∨ name ≠ [dot] ∧ ∃ before, front = before ++ [slash]

/-- The same for a text that is given backwards, as it is when its end is trimmed. -/
theorem trimEnd_cases (r : Bytes) :
    trimEnd r = [] ∨ trimEnd r = [slash] ∨
      ∃ front name, trimEnd r = (front ++ name).reverse ∧ EndsIn front name ∧
        (trimEnd r).dropWhile (· != slash) = front.reverse := by
  fun_induction trimEnd r with
  | case1 rest ih => exact ih
  | case2 a rest ih => exact ih
  | case3 r hdot hslash =>
    cases r with
    | nil => exact Or.inl rfl
    | cons x r =>
      right
      by_cases hx : x = slash
      · left
        subst hx
        cases r with
        | nil => rfl
        | cons a r => exact absurd rfl (hslash a r)
      right
      have hsplit : (x :: r).takeWhile (· != slash) ++ (x :: r).dropWhile (· != slash) = x :: r :=
        List.takeWhile_append_dropWhile
      refine ⟨((x :: r).dropWhile (· != slash)).reverse,
        ((x :: r).takeWhile (· != slash)).reverse, ?_, ⟨?_, ?_, ?_⟩, List.reverse_reverse _ |>.symm⟩
      · rw [List.reverse_append, List.reverse_reverse, List.reverse_reverse, hsplit]
      · simp [hx]
      · intro hmem
        have hkept := List.all_eq_true.mp List.all_takeWhile _ (List.mem_reverse.mp hmem)
        simp at hkept
      · cases hdrop : (x :: r).dropWhile (· != slash) with
        | nil => exact Or.inl rfl
        | cons y rest =>
          right
          have hy : y = slash := by
            have hhead := List.head?_dropWhile_not (· != slash) (x :: r)
            rw [hdrop] at hhead
            simpa using hhead
          subst hy
          refine ⟨?_, rest.reverse, List.reverse_cons⟩
          -- A last `.` behind a slash would have been trimmed.
          intro hname
          apply hdot rest
          rw [← hsplit, hdrop, List.reverse_eq_iff.mp hname]
          rfl

/-- Does a path end in a name that leads on, unless it has no more than one name? -/
def IsTrimmed (p : Path) : Prop :=
  ∀ name ∈ p.names.getLast?, isDot name = true → p.names.dropLast = []

theorem isTrimmed_trim (p : Path) : p.trim.IsTrimmed := by
  intro last hlast hdot
  rcases trimEnd_cases p.raw.reverse with hnil | hroot | ⟨front, name, htrim, hends, -⟩
  · have hnames : p.trim.names = [] := by
      rw [trim, hnil]
      rfl
    rw [hnames]
    rfl
  · have hnames : p.trim.names = [] := by
      rw [trim, hroot]
      rfl
    rw [hnames]
    rfl
  · have hraw : p.trim = ⟨front ++ name⟩ := by
      rw [trim, htrim, List.reverse_reverse]
    obtain ⟨hne, hslash, hfront⟩ := hends
    have hname := names_of_slash_notMem hne hslash
    rw [hraw] at hlast ⊢
    rcases hfront with rfl | ⟨hnotDot, before, rfl⟩
    · rw [List.nil_append, hname]
      rfl
    · rw [List.append_assoc, List.singleton_append, names_append_slash, hname,
        List.getLast?_concat] at hlast
      cases hlast
      exact absurd (beq_iff_eq.mp hdot) hnotDot

/-! ### The directory above -/

/-- How the directory above is found: a path that is trimmed is empty, the root, or ends in a name,
and what is before this name is trimmed again. -/
theorem parent?_cases (p : Path) :
    (p.parent? = none ∧ (p.trim.raw = [] ∨ p.trim.raw = [slash])) ∨
      ∃ front name, p.trim.raw = front ++ name ∧ EndsIn front name ∧
        p.parent? = some (trim ⟨front⟩) := by
  rcases trimEnd_cases p.raw.reverse with hnil | hroot | ⟨front, name, htrim, hends, hdrop⟩
  · left
    simp [parent?, trim, hnil]
  · left
    simp [parent?, trim, hroot]
  · right
    refine ⟨front, name, by rw [trim, htrim, List.reverse_reverse], hends, ?_⟩
    have hkept : ¬ ((trimEnd p.raw.reverse).isEmpty || trimEnd p.raw.reverse == [slash]) := by
      obtain ⟨hne, hslash, -⟩ := hends
      rw [htrim, Bool.or_eq_true, List.isEmpty_iff, beq_iff_eq, List.reverse_eq_nil_iff,
        List.reverse_eq_iff]
      rintro (hnil | hroot)
      · exact hne (List.append_eq_nil_iff.mp hnil).2
      · rcases List.append_eq_singleton_iff.mp hroot with ⟨-, hname⟩ | ⟨-, hname⟩
        · rw [hname] at hslash
          exact hslash List.mem_cons_self
        · exact hne hname
    have hbody : ((trimEnd front.reverse).isEmpty && !front.reverse.isEmpty) = false := by
      cases hfront : front.reverse with
      | nil => rfl
      | cons b rest => simp [trimEnd_eq_nil_iff]
    simp only [parent?, if_neg hkept, hdrop, hbody, Bool.false_eq_true, if_false, trim]

/-- Does the beginning of this path lead to the directory above? -/
structure IsParent (up p : Path) : Prop where
  steps : up.steps = p.steps.dropLast
  isAbsolute : up.isAbsolute = p.isAbsolute
  isPrefix : up.raw <+: p.raw
  length_lt : up.raw.length < p.raw.length

theorem isParent_of_endsIn {front name : Bytes} (h : EndsIn front name) :
    IsParent ⟨front⟩ ⟨front ++ name⟩ := by
  obtain ⟨hne, hslash, hfront⟩ := h
  have hshort : 0 < name.length := List.length_pos_iff.mpr hne
  have hlt : front.length < (front ++ name).length := by
    rw [List.length_append]
    omega
  have hname := names_of_slash_notMem hne hslash
  rcases hfront with rfl | ⟨hdot, before, rfl⟩
  · refine ⟨?_, (isAbsolute_of_slash_notMem hslash).symm, List.prefix_append _ _, hlt⟩
    rw [List.nil_append, steps, steps, hname]
    cases hd : isDot name <;> simp [hd]
  · have hnotDot : isDot name = false := beq_eq_false_iff_ne.mpr hdot
    refine ⟨?_, ?_, List.prefix_append _ _, hlt⟩
    · rw [List.append_assoc, List.singleton_append, steps_append_slash, steps_append_slash]
      simp [steps, hname, hnotDot]
    · rw [isAbsolute_append (b := name) (by simp)]

theorem isParent_of_parent? {p up : Path} (h : p.parent? = some up) : IsParent up p := by
  rcases p.parent?_cases with ⟨hnone, -⟩ | ⟨front, name, htrim, hends, hsome⟩
  · rw [h] at hnone
    cases hnone
  rw [h] at hsome
  cases hsome
  have hup := isParent_of_endsIn hends
  have hp : p.trim = ⟨front ++ name⟩ := by rw [← htrim]
  rw [← hp] at hup
  have hfront : (trim ⟨front⟩).raw <+: front := isPrefix_trim ⟨front⟩
  refine ⟨?_, ?_, ?_, ?_⟩
  · rw [steps_trim, hup.steps, steps_trim]
  · rw [isAbsolute_trim, hup.isAbsolute, isAbsolute_trim]
  · exact hfront.trans (hup.isPrefix.trans p.isPrefix_trim)
  · exact Nat.lt_of_le_of_lt hfront.length_le
      (Nat.lt_of_lt_of_le hup.length_lt p.isPrefix_trim.length_le)

theorem isTrimmed_of_parent? {p up : Path} (h : p.parent? = some up) : up.IsTrimmed := by
  rcases p.parent?_cases with ⟨hnone, -⟩ | ⟨front, name, -, -, hsome⟩
  · rw [h] at hnone
    cases hnone
  · rw [h] at hsome
    cases hsome
    exact isTrimmed_trim _

theorem IsParent.mem_names {up p : Path} (h : IsParent up p) {name : Bytes}
    (hname : name ∈ up.names) : isDot name = true ∨ name ∈ p.names := by
  cases hdot : isDot name with
  | true => exact Or.inl rfl
  | false =>
    right
    have hmem : name ∈ up.steps := List.mem_filter.mpr ⟨hname, by rw [hdot]; rfl⟩
    rw [h.steps] at hmem
    exact List.mem_of_mem_filter (List.dropLast_subset _ hmem)

theorem IsParent.neverUp {up p : Path} (h : IsParent up p) (hup : p.NeverUp) : up.NeverUp := by
  intro name hname
  rcases h.mem_names hname with hdot | hmem
  · rw [beq_iff_eq.mp hdot]
    decide
  · exact hup name hmem

/-- Where there is no directory above, no name leads on. -/
theorem steps_of_parent?_eq_none {p : Path} (h : p.parent? = none) : p.steps = [] := by
  rcases p.parent?_cases with ⟨-, hnil | hroot⟩ | ⟨front, name, -, -, hsome⟩
  · rw [← steps_trim, steps, names_eq, hnil]
    rfl
  · rw [← steps_trim, steps, names_eq, hroot]
    rfl
  · rw [h] at hsome
    cases hsome

/-- The way up ends. -/
theorem parent_induction {motive : Path → Prop}
    (step : ∀ p, (∀ up, p.parent? = some up → motive up) → motive p) (p : Path) : motive p := by
  induction hn : p.raw.length using Nat.strongRecOn generalizing p with
  | ind n ih =>
    apply step
    intro up hup
    have hlt := (isParent_of_parent? hup).length_lt
    exact ih up.raw.length (hn ▸ hlt) up rfl

/-! ### All directories above -/

theorem go_eq_of_lt {fuel fuel' : Nat} {p : Path} (h : p.raw.length < fuel)
    (h' : p.raw.length < fuel') : ancestors.go fuel p = ancestors.go fuel' p := by
  induction fuel generalizing fuel' p with
  | zero => omega
  | succ fuel ih =>
    cases fuel' with
    | zero => omega
    | succ fuel' =>
      rw [ancestors.go, ancestors.go]
      cases hup : p.parent? with
      | none => rfl
      | some up =>
        have hlt := (isParent_of_parent? hup).length_lt
        have hsame : ancestors.go fuel up = ancestors.go fuel' up := ih (by omega) (by omega)
        rw [Option.map_some, Option.map_some, hsame]

/-- A path, and the ancestors of the directory above it. -/
theorem ancestors_eq (p : Path) : p.ancestors = p :: (p.parent?.map ancestors).getD [] := by
  rw [ancestors, ancestors.go]
  cases hup : p.parent? with
  | none => rfl
  | some up =>
    have hlt := (isParent_of_parent? hup).length_lt
    rw [Option.map_some, Option.map_some, ancestors, go_eq_of_lt hlt (Nat.lt_succ_self _)]

theorem mem_ancestors_iff {a p : Path} :
    a ∈ p.ancestors ↔ a = p ∨ ∃ up, p.parent? = some up ∧ a ∈ up.ancestors := by
  rw [ancestors_eq, List.mem_cons]
  cases hup : p.parent? with
  | none => simp
  | some up => simp

theorem NeverUp.of_mem_ancestors {a p : Path} (h : p.NeverUp) (ha : a ∈ p.ancestors) :
    a.NeverUp := by
  induction p using parent_induction with
  | step p ih =>
    rcases mem_ancestors_iff.mp ha with rfl | ⟨up, hup, ha⟩
    · exact h
    · exact ih up hup ((isParent_of_parent? hup).neverUp h) ha

/-- The ancestors are those paths on the way up that start in the same place: what leads to one of
them are the first names of those that lead on, and any number of these leads to one. -/
theorem exists_mem_ancestors_iff {p : Path} {names : List Bytes} :
    (∃ a ∈ p.ancestors, a.isAbsolute = p.isAbsolute ∧ a.steps = names) ↔ names <+: p.steps := by
  induction p using parent_induction with
  | step p ih =>
    constructor
    · rintro ⟨a, ha, habsolute, rfl⟩
      rcases mem_ancestors_iff.mp ha with rfl | ⟨up, hup, ha⟩
      · exact List.prefix_refl _
      · have hisParent := isParent_of_parent? hup
        have hle := (ih up hup).mp ⟨a, ha, habsolute.trans hisParent.isAbsolute.symm, rfl⟩
        rw [hisParent.steps] at hle
        exact hle.trans (List.dropLast_prefix _)
    · intro hle
      by_cases hall : names = p.steps
      · exact ⟨p, mem_ancestors_iff.mpr (Or.inl rfl), rfl, hall.symm⟩
      cases hup : p.parent? with
      | none =>
        rw [steps_of_parent?_eq_none hup] at hle hall
        exact absurd (List.prefix_nil.mp hle) hall
      | some up =>
        have hisParent := isParent_of_parent? hup
        have hup' : names <+: up.steps := by
          have hne : p.steps ≠ [] := by
            intro hnil
            rw [hnil] at hle hall
            exact hall (List.prefix_nil.mp hle)
          rw [← List.dropLast_concat_getLast hne] at hle hall
          rw [hisParent.steps]
          exact (List.prefix_concat_iff.mp hle).resolve_left hall
        obtain ⟨a, ha, habsolute, hsteps⟩ := (ih up hup).mpr hup'
        exact ⟨a, mem_ancestors_iff.mpr (Or.inr ⟨up, hup, ha⟩),
          habsolute.trans hisParent.isAbsolute, hsteps⟩

end Rehearsal.Path
