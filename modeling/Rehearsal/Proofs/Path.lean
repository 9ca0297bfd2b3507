import Mathlib.Data.List.SplitBy
import Rehearsal.Path

/-!
# Names and paths

The names of a path are its pieces between slashes (`Path.names_append_slash`). A name is also what a
directory can hold (`Path.IsName`). Put behind the path of a directory it makes a path that leads to
a file of this name (`Path.names_join`, `Path.fileName?_join`), whatever the path of the directory
looks like.
-/

namespace Rehearsal.Path

/-- A name of a file or directory: without slashes, and not one of those that stand for a directory
itself or the one above it. -/
structure IsName (name : Bytes) : Prop where
  ne_nil : name ≠ []
  slash_notMem : slash ∉ name
  not_dot : isDot name = false
  not_dotDot : isDotDot name = false

instance : DecidablePred IsName := fun name =>
  decidable_of_iff
    (name ≠ [] ∧ slash ∉ name ∧ isDot name = false ∧ isDotDot name = false)
    ⟨fun ⟨hne, hslash, hdot, hdotDot⟩ => ⟨hne, hslash, hdot, hdotDot⟩,
      fun ⟨hne, hslash, hdot, hdotDot⟩ => ⟨hne, hslash, hdot, hdotDot⟩⟩

/-! ### Where a path starts -/

theorem isAbsolute_append {a b : Bytes} (h : a ≠ []) : isAbsolute ⟨a ++ b⟩ = isAbsolute ⟨a⟩ := by
  cases a with
  | nil => exact absurd rfl h
  | cons x a => rfl

theorem isAbsolute_of_slash_notMem {text : Bytes} (h : slash ∉ text) :
    isAbsolute ⟨text⟩ = false := by
  cases text with
  | nil => rfl
  | cons b text =>
    rw [isAbsolute, List.head?_cons, beq_eq_false_iff_ne]
    intro hb
    apply h
    rw [← Option.some.inj hb]
    exact List.mem_cons_self

/-! ### Where the text of a path is cut -/

/-- The pieces of a text that is cut at slashes, which are pieces of their own. -/
def pieces (text : Bytes) : List Bytes := text.splitBy fun a b => a != slash && b != slash

theorem names_eq (p : Path) : p.names = (pieces p.raw).filter (· != [slash]) := rfl

theorem pieces_append {front rest : Bytes}
    (h : front.getLast? = some slash ∨ rest.head? = some slash) :
    pieces (front ++ rest) = pieces front ++ pieces rest := by
  apply List.splitBy_append
  intro a ha b hb
  rcases h with hfront | hrest
  · rw [hfront] at ha
    cases ha
    rfl
  · rw [hrest] at hb
    cases hb
    simp

theorem pieces_of_slash_notMem {name : Bytes} (hne : name ≠ []) (h : slash ∉ name) :
    pieces name = [name] := by
  have hplain : ∀ b ∈ name, (b != slash) = true := by
    intro b hb
    rw [bne_iff_ne]
    rintro rfl
    exact h hb
  have hchain : name.IsChain fun a b => (a != slash && b != slash) = true := by
    apply List.Pairwise.isChain
    apply List.pairwise_of_forall_mem_list
    intro a ha b hb
    rw [hplain a ha, hplain b hb, Bool.and_self]
  exact List.splitBy_of_isChain hne hchain

@[simp] theorem names_nil : names ⟨[]⟩ = [] := rfl

/-- A slash ends a name. -/
theorem names_append_slash (a b : Bytes) : names ⟨a ++ slash :: b⟩ = names ⟨a⟩ ++ names ⟨b⟩ := by
  have hslash : pieces ([slash] ++ b) = pieces [slash] ++ pieces b := pieces_append (Or.inl rfl)
  change pieces (slash :: b) = [slash] :: pieces b at hslash
  rw [names_eq, pieces_append (Or.inr rfl), hslash]
  simp [names_eq]

theorem names_of_slash_notMem {name : Bytes} (hne : name ≠ []) (h : slash ∉ name) :
    names ⟨name⟩ = [name] := by
  have hslash : name ≠ [slash] := by
    rintro rfl
    exact h List.mem_cons_self
  rw [names_eq, pieces_of_slash_notMem hne h]
  simp [hslash]

/-- A path without names is one or more slashes. -/
theorem isAbsolute_of_names_eq_nil {p : Path} (hne : p.raw ≠ []) (h : p.names = []) :
    p.isAbsolute = true := by
  have hall : ∀ piece ∈ pieces p.raw, piece = [slash] := by
    intro piece hpiece
    rw [names_eq, List.filter_eq_nil_iff] at h
    simpa using h piece hpiece
  have hflatten : (pieces p.raw).flatten = p.raw := List.flatten_splitBy _ _
  cases hpieces : pieces p.raw with
  | nil =>
    rw [hpieces] at hflatten
    exact absurd hflatten.symm hne
  | cons piece more =>
    rw [hpieces] at hall hflatten
    rw [isAbsolute, ← hflatten, List.flatten_cons, hall piece List.mem_cons_self]
    rfl

/-- A name behind a slash, or behind nothing, is the last. -/
theorem names_append_name {front name : Bytes} (h : IsName name)
    (hfront : ∀ b ∈ front.getLast?, b = slash) :
    names ⟨front ++ name⟩ = names ⟨front⟩ ++ [name] := by
  cases hlast : front.getLast? with
  | none =>
    rw [List.getLast?_eq_none_iff.mp hlast, List.nil_append, names_nil, List.nil_append,
      names_of_slash_notMem h.ne_nil h.slash_notMem]
  | some b =>
    obtain rfl := hfront b hlast
    obtain ⟨before, rfl⟩ := List.getLast?_eq_some_iff.mp hlast
    rw [List.append_assoc, List.singleton_append, names_append_slash, names_append_slash,
      names_of_slash_notMem h.ne_nil h.slash_notMem, names_nil, List.append_nil]

/-! ### A name behind the path of a directory -/

theorem fileName?_append_name {front name : Bytes} (h : IsName name)
    (hfront : ∀ b ∈ front.getLast?, b = slash) : fileName? ⟨front ++ name⟩ = some name := by
  have hlast : ((names ⟨front ++ name⟩).filter (!isDot ·)).getLast? = some name := by
    rw [names_append_name h hfront]
    simp [h.not_dot]
  rw [fileName?, hlast]
  dsimp only
  rw [h.not_dotDot, if_neg Bool.false_ne_true]

/-- A path inside a directory is the name behind the path of the directory, and behind a slash,
unless there is one or the path is empty. -/
theorem exists_join_eq (dir : Path) {name : Bytes} (h : IsName name) :
    ∃ front, dir.join ⟨name⟩ = ⟨front ++ name⟩ ∧ (∀ b ∈ front.getLast?, b = slash) ∧
      (front = dir.raw ∨ dir.raw ≠ [] ∧ front = dir.raw ++ [slash]) := by
  rw [join, isAbsolute_of_slash_notMem h.slash_notMem, if_neg Bool.false_ne_true]
  split
  · next hdir =>
    refine ⟨dir.raw, rfl, fun b hb => ?_, Or.inl rfl⟩
    rw [Bool.or_eq_true, List.isEmpty_iff, beq_iff_eq] at hdir
    rcases hdir with hnil | hslash
    · rw [hnil] at hb
      cases hb
    · rw [hslash] at hb
      exact (Option.some.inj hb).symm
  · next hdir =>
    refine ⟨dir.raw ++ [slash], by simp, fun b hb => ?_, Or.inr ⟨?_, rfl⟩⟩
    · rw [List.getLast?_concat] at hb
      exact (Option.some.inj hb).symm
    · intro hnil
      rw [hnil] at hdir
      exact hdir rfl

/-- The name stands behind those of the directory. -/
theorem names_join (dir : Path) {name : Bytes} (h : IsName name) :
    (dir.join ⟨name⟩).names = dir.names ++ [name] := by
  obtain ⟨front, hjoin, hlast, hfront⟩ := dir.exists_join_eq h
  rw [hjoin, names_append_name h hlast]
  rcases hfront with rfl | ⟨-, rfl⟩
  · rfl
  · rw [names_append_slash, names_nil, List.append_nil]

theorem isAbsolute_join (dir : Path) {name : Bytes} (h : IsName name) :
    (dir.join ⟨name⟩).isAbsolute = dir.isAbsolute := by
  obtain ⟨front, hjoin, -, hfront⟩ := dir.exists_join_eq h
  rw [hjoin]
  rcases hfront with rfl | ⟨hne, rfl⟩
  · cases hraw : dir.raw with
    | nil =>
      rw [List.nil_append, isAbsolute_of_slash_notMem h.slash_notMem, isAbsolute, hraw]
      rfl
    | cons b rest =>
      rw [isAbsolute_append (by simp), ← hraw]
  · rw [List.append_assoc, isAbsolute_append hne]

/-- The path of a name inside a directory leads to a file of this name. -/
theorem fileName?_join (dir : Path) {name : Bytes} (h : IsName name) :
    (dir.join ⟨name⟩).fileName? = some name := by
  obtain ⟨front, hjoin, hlast, -⟩ := dir.exists_join_eq h
  rw [hjoin, fileName?_append_name h hlast]

end Rehearsal.Path
