import Rehearsal.Bytes

/-!
# The lines of a byte string

`splitLines` is pinned down by what its answer looks like: complete lines, a rest without a
newline, and together the bytes that were there (`splitLines_eq_iff`). Two laws follow from this
and carry everything that is said about output.

* `splitLines_append`: bytes may arrive in pieces. Put what follows the last newline of one piece
  in front of the next, and the lines are those of the whole.
* `flatten_prefix_iff`: to compare bytes with lines is to compare lines with lines, whether or not
  the bytes end in a newline.

Two facts about lists of any kind stand at the end: a list is cut in one way where a property ends
(`append_inj_of_front`), and the laws of the longest common prefix of two lists, which for lines of
output and lines of a script is what a comparison looks for.
-/

namespace Rehearsal

namespace Bytes

/-- A complete line: no newline but the one at its end. -/
def IsLine (line : Bytes) : Prop := ∃ body, newline ∉ body ∧ line = body ++ [newline]

theorem IsLine.getLast? {line : Bytes} (h : IsLine line) : line.getLast? = some newline := by
  obtain ⟨body, -, rfl⟩ := h
  simp

/-! ### What splitting gives -/

theorem pushFront_of_ne {b : UInt8} (h : b ≠ newline) (lines : List Bytes) (rest : Bytes) :
    pushFront b (lines, rest) =
      match lines with
      | [] => ([], b :: rest)
      | line :: lines => ((b :: line) :: lines, rest) := by
  cases lines <;> simp [pushFront, h]

theorem pushFront_newline (lines : List Bytes) (rest : Bytes) :
    pushFront newline (lines, rest) = ([newline] :: lines, rest) := by
  cases lines <;> simp [pushFront]

/-- Bytes without a newline are no line at all. -/
theorem splitLines_of_not_mem {data : Bytes} (h : newline ∉ data) :
    splitLines data = ([], data) := by
  induction data with
  | nil => rfl
  | cons b data ih =>
    have hb : b ≠ newline := fun e => h (e ▸ List.mem_cons_self)
    have hdata : newline ∉ data := fun m => h (List.mem_cons_of_mem _ m)
    rw [splitLines_cons, ih hdata, pushFront_of_ne hb]

/-- A line in front of other bytes is the first of the lines. -/
theorem splitLines_line_append {line : Bytes} (h : IsLine line) (data : Bytes) :
    splitLines (line ++ data) = (line :: (splitLines data).1, (splitLines data).2) := by
  obtain ⟨body, hbody, rfl⟩ := h
  induction body with
  | nil => exact pushFront_newline _ _
  | cons b body ih =>
    have hb : b ≠ newline := fun e => hbody (e ▸ List.mem_cons_self)
    have hrest : newline ∉ body := fun m => hbody (List.mem_cons_of_mem _ m)
    rw [List.cons_append, List.cons_append, splitLines_cons, ih hrest, pushFront_of_ne hb]

/-- Lines in front of other bytes are the first of the lines. -/
theorem splitLines_lines_append {lines : List Bytes} (h : ∀ line ∈ lines, IsLine line)
    (data : Bytes) :
    splitLines (lines.flatten ++ data) = (lines ++ (splitLines data).1, (splitLines data).2) := by
  induction lines with
  | nil => rfl
  | cons line lines ih =>
    have hline : IsLine line := h line List.mem_cons_self
    have hlines : ∀ line ∈ lines, IsLine line := fun l hl => h l (List.mem_cons_of_mem _ hl)
    rw [List.flatten_cons, List.append_assoc, splitLines_line_append hline, ih hlines]
    rfl

/-- What splitting one byte more keeps: only lines in front, and no newline after them. -/
theorem pushFront_isLine (b : UInt8) {lines : List Bytes} {rest : Bytes}
    (hlines : ∀ line ∈ lines, IsLine line) (hrest : newline ∉ rest) :
    (∀ line ∈ (pushFront b (lines, rest)).1, IsLine line) ∧
      newline ∉ (pushFront b (lines, rest)).2 := by
  by_cases hb : b = newline
  · subst hb
    rw [pushFront_newline]
    refine ⟨fun line hline => ?_, hrest⟩
    rcases List.mem_cons.mp hline with rfl | hline
    · exact ⟨[], by simp, rfl⟩
    · exact hlines line hline
  · rw [pushFront_of_ne hb]
    cases lines with
    | nil =>
      refine ⟨by simp, fun h => ?_⟩
      rcases List.mem_cons.mp h with h | h
      · exact hb h.symm
      · exact hrest h
    | cons first lines =>
      -- The byte joins the first line, which has its newline already.
      refine ⟨fun line hline => ?_, hrest⟩
      rcases List.mem_cons.mp hline with rfl | hline
      · obtain ⟨body, hbody, rfl⟩ := hlines first List.mem_cons_self
        refine ⟨b :: body, fun h => ?_, rfl⟩
        rcases List.mem_cons.mp h with h | h
        · exact hb h.symm
        · exact hbody h
      · exact hlines line (List.mem_cons_of_mem _ hline)

theorem splitLines_isLine (data : Bytes) :
    (∀ line ∈ (splitLines data).1, IsLine line) ∧ newline ∉ (splitLines data).2 := by
  induction data with
  | nil => exact ⟨by simp, by simp⟩
  | cons b data ih => exact pushFront_isLine b ih.1 ih.2

theorem isLine_of_mem_splitLines {data line : Bytes} (h : line ∈ (splitLines data).1) :
    IsLine line :=
  (splitLines_isLine data).1 line h

/-- There is one way to write bytes as lines and a rest without a newline, and splitting finds
it. -/
theorem splitLines_eq_iff {data rest : Bytes} {lines : List Bytes} :
    splitLines data = (lines, rest) ↔
      (∀ line ∈ lines, IsLine line) ∧ newline ∉ rest ∧ lines.flatten ++ rest = data := by
  constructor
  · intro h
    have hsplit := splitLines_isLine data
    have hflat := flatten_splitLines data
    rw [h] at hsplit hflat
    exact ⟨hsplit.1, hsplit.2, hflat⟩
  · rintro ⟨hlines, hrest, rfl⟩
    rw [splitLines_lines_append hlines, splitLines_of_not_mem hrest, List.append_nil]

/-! ### Bytes in pieces -/

/-- The lines of two pieces: those of the first, and those of the second with the rest of the
first in front of it. -/
theorem splitLines_append (a b : Bytes) :
    splitLines (a ++ b) =
      ((splitLines a).1 ++ (splitLines ((splitLines a).2 ++ b)).1,
        (splitLines ((splitLines a).2 ++ b)).2) := by
  have ha : (splitLines a).1.flatten ++ ((splitLines a).2 ++ b) = a ++ b := by
    rw [← List.append_assoc, flatten_splitLines]
  rw [← splitLines_lines_append (fun _ h => isLine_of_mem_splitLines h), ha]

/-- More bytes only add lines. -/
theorem splitLines_prefix_append (a b : Bytes) :
    (splitLines a).1 <+: (splitLines (a ++ b)).1 := by
  rw [splitLines_append]
  exact List.prefix_append _ _

/-- If nothing follows the last newline, there was nothing or the last byte is that newline. -/
theorem eq_nil_or_getLast?_of_rest_eq_nil {data : Bytes} (h : (splitLines data).2 = []) :
    data = [] ∨ data.getLast? = some newline := by
  have hflat := flatten_splitLines data
  rw [h, List.append_nil] at hflat
  rcases List.eq_nil_or_concat (splitLines data).1 with hnil | ⟨before, last, hlast⟩
  · left
    rw [← hflat, hnil, List.flatten_nil]
  · right
    have hline : IsLine last := isLine_of_mem_splitLines (by rw [hlast]; simp)
    rw [← hflat, hlast, List.concat_eq_append, List.flatten_append, List.getLast?_append]
    simp [hline.getLast?]

/-! ### Bytes and lines compared -/

/-- Lines are the first bytes of `data` if and only if they are its first lines. -/
theorem flatten_prefix_iff {lines : List Bytes} (h : ∀ line ∈ lines, IsLine line) {data : Bytes} :
    lines.flatten <+: data ↔ lines <+: (splitLines data).1 := by
  constructor
  · rintro ⟨rest, rfl⟩
    rw [splitLines_lines_append h]
    exact List.prefix_append _ _
  · rintro ⟨more, hmore⟩
    refine ⟨more.flatten ++ (splitLines data).2, ?_⟩
    rw [← List.append_assoc, ← List.flatten_append, hmore, flatten_splitLines]

/-! ### Line by line, the unfinished one last -/

/-- Bytes begin with a line, or there is no newline in them. -/
theorem exists_line_or_not_mem (data : Bytes) :
    (∃ line rest, IsLine line ∧ data = line ++ rest) ∨ newline ∉ data := by
  have hflat := flatten_splitLines data
  have hsplit := splitLines_isLine data
  cases hlines : (splitLines data).1 with
  | nil =>
    rw [hlines, List.flatten_nil, List.nil_append] at hflat
    rw [← hflat]
    exact .inr hsplit.2
  | cons line later =>
    rw [hlines, List.flatten_cons, List.append_assoc] at hflat
    have hline : IsLine line := hsplit.1 line (by rw [hlines]; exact List.mem_cons_self)
    exact .inl ⟨line, _, hline, hflat.symm⟩

theorem ne_newline_of_not_mem {data : Bytes} (h : newline ∉ data) :
    ∀ b ∈ data, (b != newline) = true := by
  intro b hb
  rw [bne_iff_ne]
  rintro rfl
  exact h hb

theorem splitFirstLine_line_append {line : Bytes} (h : IsLine line) (data : Bytes) :
    splitFirstLine (line ++ data) = (line, data) := by
  obtain ⟨body, hbody, rfl⟩ := h
  have hne : ∀ b ∈ body, (b != newline) = true := ne_newline_of_not_mem hbody
  rw [splitFirstLine, List.append_assoc, List.dropWhile_append_of_pos hne,
    List.takeWhile_append_of_pos hne]
  simp

theorem splitFirstLine_of_not_mem {data : Bytes} (h : newline ∉ data) :
    splitFirstLine data = (data, []) := by
  have hnone : data.dropWhile (· != newline) = [] := by
    rw [← List.append_nil data, List.dropWhile_append_of_pos (ne_newline_of_not_mem h),
      List.dropWhile_nil]
  rw [splitFirstLine, hnone]

theorem lines_line_append {line : Bytes} (h : IsLine line) (data : Bytes) :
    lines (line ++ data) = line :: lines data := by
  unfold lines
  rw [splitLines_line_append h]
  dsimp only
  split <;> rfl

/-- The first of the lines is the one that is taken off the front. -/
theorem lines_eq_splitFirstLine {data : Bytes} (hne : data ≠ []) :
    lines data = (splitFirstLine data).1 :: lines (splitFirstLine data).2 := by
  rcases exists_line_or_not_mem data with ⟨line, rest, hline, rfl⟩ | hmem
  · rw [lines_line_append hline, splitFirstLine_line_append hline]
  · rw [splitFirstLine_of_not_mem hmem]
    simp [lines, splitLines_of_not_mem hmem, hne]

theorem lines_flatten {lines : List Bytes} (h : ∀ line ∈ lines, IsLine line) :
    Bytes.lines lines.flatten = lines := by
  have hsplit := splitLines_lines_append h []
  rw [List.append_nil, splitLines_nil, List.append_nil] at hsplit
  rw [Bytes.lines, hsplit]
  rfl

theorem lines_eq_nil_iff {data : Bytes} : lines data = [] ↔ data = [] := by
  constructor
  · intro h
    refine Decidable.byContradiction fun hne => ?_
    rw [lines_eq_splitFirstLine hne] at h
    cases h
  · rintro rfl
    rfl

theorem flatten_lines (data : Bytes) : (lines data).flatten = data := by
  have hflat := flatten_splitLines data
  unfold lines
  dsimp only
  split
  · next hrest =>
    rw [List.isEmpty_iff.mp hrest, List.append_nil] at hflat
    exact hflat
  · rw [List.flatten_concat]
    exact hflat

end Bytes

/-! ### Where the front of a list ends -/

/-- A list is cut in one way where a property ends that all of its front has. -/
theorem append_inj_of_front {α : Type} {p : α → Prop} {front front' rest rest' : List α}
    (hfront : ∀ x ∈ front, p x) (hrest : ∀ x, [x] <+: rest → ¬ p x)
    (hfront' : ∀ x ∈ front', p x) (hrest' : ∀ x, [x] <+: rest' → ¬ p x)
    (h : front ++ rest = front' ++ rest') : front = front' ∧ rest = rest' := by
  have hsame : front = front' := by
    rcases List.append_eq_append_iff.mp h with ⟨more, rfl, rfl⟩ | ⟨more, rfl, rfl⟩
    · cases more with
      | nil => simp
      | cons x more => exact absurd (hfront' x (by simp)) (hrest x ⟨more ++ rest', rfl⟩)
    · cases more with
      | nil => simp
      | cons x more => exact absurd (hfront x (by simp)) (hrest' x ⟨more ++ rest, rfl⟩)
  subst hsame
  exact ⟨rfl, List.append_cancel_left h⟩

/-! ### The longest common prefix -/

section CommonPrefix

variable {α : Type} [DecidableEq α]

/-- The longest list with which both lists begin. -/
def commonPrefix : List α → List α → List α
  | x :: xs, y :: ys => if x = y then x :: commonPrefix xs ys else []
  | _, _ => []

@[simp] theorem commonPrefix_nil_left (ys : List α) : commonPrefix [] ys = [] := by
  simp [commonPrefix]

@[simp] theorem commonPrefix_nil_right (xs : List α) : commonPrefix xs [] = [] := by
  simp [commonPrefix]

/-- The lists with which both lists begin are those with which their common prefix begins. -/
theorem prefix_commonPrefix_iff :
    ∀ {p xs ys : List α}, p <+: commonPrefix xs ys ↔ p <+: xs ∧ p <+: ys
  | [], _, _ => by simp
  | _ :: _, [], _ => by simp
  | _ :: _, _ :: _, [] => by simp
  | a :: p, x :: xs, y :: ys => by
    have ih : p <+: commonPrefix xs ys ↔ p <+: xs ∧ p <+: ys := prefix_commonPrefix_iff
    by_cases hxy : x = y
    · subst hxy
      simp only [commonPrefix, ↓reduceIte, List.cons_prefix_cons, ih]
      constructor
      · rintro ⟨ha, hx, hy⟩
        exact ⟨⟨ha, hx⟩, ha, hy⟩
      · rintro ⟨⟨ha, hx⟩, -, hy⟩
        exact ⟨ha, hx, hy⟩
    · simp only [commonPrefix, hxy, ↓reduceIte, List.cons_prefix_cons]
      constructor
      · intro h
        exact absurd (List.eq_nil_of_prefix_nil h) (List.cons_ne_nil _ _)
      · rintro ⟨⟨ha, -⟩, hb, -⟩
        exact absurd (ha.symm.trans hb) hxy

/-- What both lists begin with is no matter for how they go on. -/
theorem commonPrefix_append_append (zs xs ys : List α) :
    commonPrefix (zs ++ xs) (zs ++ ys) = zs ++ commonPrefix xs ys := by
  induction zs with
  | nil => rfl
  | cons z zs ih => rw [List.cons_append, List.cons_append, commonPrefix, if_pos rfl, ih,
      List.cons_append]

theorem commonPrefix_prefix_left (xs ys : List α) : commonPrefix xs ys <+: xs :=
  (prefix_commonPrefix_iff.mp (List.prefix_refl _)).1

theorem commonPrefix_prefix_right (xs ys : List α) : commonPrefix xs ys <+: ys :=
  (prefix_commonPrefix_iff.mp (List.prefix_refl _)).2

theorem commonPrefix_eq_left_iff {xs ys : List α} : commonPrefix xs ys = xs ↔ xs <+: ys := by
  constructor
  · intro h
    rw [← h]
    exact commonPrefix_prefix_right xs ys
  · intro h
    exact (commonPrefix_prefix_left xs ys).eq_of_length_le
      (prefix_commonPrefix_iff.mpr ⟨List.prefix_refl xs, h⟩).length_le

/-- Once a list has left the other one, nothing appended to it brings it back. -/
theorem commonPrefix_append_of_not_prefix :
    ∀ {xs ys : List α}, ¬ xs <+: ys → ∀ zs, commonPrefix (xs ++ zs) ys = commonPrefix xs ys
  | [], _, h, _ => absurd (List.nil_prefix) h
  | _ :: _, [], _, _ => by simp
  | x :: xs, y :: ys, h, zs => by
    by_cases hxy : x = y
    · subst hxy
      have hxs : ¬ xs <+: ys := fun hp => h (List.cons_prefix_cons.mpr ⟨rfl, hp⟩)
      simp only [List.cons_append, commonPrefix, ↓reduceIte,
        commonPrefix_append_of_not_prefix hxs zs]
    · simp only [List.cons_append, commonPrefix, hxy, ↓reduceIte]

/-- One more element that is not the next one leaves the common prefix as it is. -/
theorem commonPrefix_concat_of_not_prefix {xs ys : List α} {x : α} (h : ¬ xs ++ [x] <+: ys) :
    commonPrefix (xs ++ [x]) ys = commonPrefix xs ys := by
  by_cases hxs : xs <+: ys
  · have hle : commonPrefix (xs ++ [x]) ys <+: xs ++ [x] := commonPrefix_prefix_left _ _
    -- It is all of the longer list, which was excluded, or it stops where the shorter one does.
    rcases List.prefix_concat_iff.mp hle with heq | hle
    · rw [← heq] at h
      exact absurd (commonPrefix_prefix_right _ _) h
    · rw [commonPrefix_eq_left_iff.mpr hxs]
      have hge : xs <+: commonPrefix (xs ++ [x]) ys :=
        prefix_commonPrefix_iff.mpr ⟨List.prefix_append _ _, hxs⟩
      exact hle.eq_of_length_le hge.length_le
  · exact commonPrefix_append_of_not_prefix hxs [x]

end CommonPrefix

end Rehearsal
