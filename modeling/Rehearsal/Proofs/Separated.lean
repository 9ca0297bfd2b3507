import Mathlib.Data.List.Basic
import Rehearsal.Proofs.Lines

/-!
# Items between separators

Items are shown one after another with a separator between them. What is then to be seen tells the
items if it tells each of them, and where it ends, from what comes at its place in another list
(`ToldApart`). Items that do not contain the first letter of the separator are the simple case
(`toldApart_of_notMem`).
-/

namespace Rehearsal

section Separated

variable {α β : Type} {c : α} {sep : List α} {shown : β → List α} {items items' : List β}

/-- Does nothing follow, or `c`? -/
def EndsAt (c : α) (rest : List α) : Prop := ∀ x, [x] <+: rest → x = c

/-- Are two items the same, and end at the same place, if the same is seen of them and of what
follows, up to the next `c` or to the end? -/
def ToldApart (c : α) (shown : β → List α) (item item' : β) : Prop :=
  ∀ ⦃rest rest' : List α⦄, EndsAt c rest → EndsAt c rest' →
    shown item ++ rest = shown item' ++ rest' → item = item' ∧ rest = rest'

theorem endsAt_flatMap (shown : β → List α) (items : List β) :
    EndsAt c (items.flatMap fun item => (c :: sep) ++ shown item) := by
  intro x hx
  cases items with
  | nil => cases List.prefix_nil.mp hx
  | cons item items => exact (List.cons_prefix_cons.mp hx).1

/-- Items without `c` end at the first `c`. -/
theorem toldApart_of_notMem {item item' : β} (hinj : shown item = shown item' → item = item')
    (h : c ∉ shown item) (h' : c ∉ shown item') : ToldApart c shown item item' := by
  intro rest rest' hrest hrest' heq
  obtain ⟨hsame, hrest⟩ := append_inj_of_front (p := (· ≠ c))
    (fun x hx hxc => h (hxc ▸ hx)) (fun x hx => not_not.mpr (hrest x hx))
    (fun x hx hxc => h' (hxc ▸ hx)) (fun x hx => not_not.mpr (hrest' x hx)) heq
  exact ⟨hinj hsame, hrest⟩

theorem flatMap_separated_inj (h : ∀ item ∈ items, ∀ item' ∈ items', ToldApart c shown item item')
    (heq : (items.flatMap fun item => (c :: sep) ++ shown item) =
      items'.flatMap fun item => (c :: sep) ++ shown item) : items = items' := by
  induction items generalizing items' with
  | nil =>
    cases items' with
    | nil => rfl
    | cons item' items' => cases heq
  | cons item items ih =>
    cases items' with
    | nil => cases heq
    | cons item' items' =>
      rw [List.flatMap_cons, List.flatMap_cons, List.append_assoc, List.append_assoc] at heq
      obtain ⟨rfl, hrest⟩ := h item List.mem_cons_self item' List.mem_cons_self
        (endsAt_flatMap shown items) (endsAt_flatMap shown items') (List.append_cancel_left heq)
      have hmore : ∀ i ∈ items, ∀ i' ∈ items', ToldApart c shown i i' := by
        intro i hi i' hi'
        exact h i (List.mem_cons_of_mem _ hi) i' (List.mem_cons_of_mem _ hi')
      rw [ih hmore hrest]

theorem intercalate_cons_eq_append_flatMap (sep : List α) (item : β) (items : List β) :
    sep.intercalate ((item :: items).map shown) =
      shown item ++ items.flatMap fun item => sep ++ shown item := by
  induction items generalizing item with
  | nil => simp
  | cons next items ih =>
    rw [List.map_cons, List.map_cons, List.intercalate_cons_cons, ← List.map_cons, ih,
      List.flatMap_cons, List.append_assoc, List.append_assoc]

/-- Where items can be told apart, so can lists of them. -/
theorem intercalate_inj (hne : ∀ item, item ∈ items ∨ item ∈ items' → shown item ≠ [])
    (h : ∀ item ∈ items, ∀ item' ∈ items', ToldApart c shown item item')
    (heq : (c :: sep).intercalate (items.map shown) = (c :: sep).intercalate (items'.map shown)) :
    items = items' := by
  cases items with
  | nil =>
    cases items' with
    | nil => rfl
    | cons item' items' =>
      rw [intercalate_cons_eq_append_flatMap] at heq
      have hnil := (List.append_eq_nil_iff.mp heq.symm).1
      exact absurd hnil (hne item' (Or.inr List.mem_cons_self))
  | cons item items =>
    cases items' with
    | nil =>
      rw [intercalate_cons_eq_append_flatMap] at heq
      have hnil := (List.append_eq_nil_iff.mp heq).1
      exact absurd hnil (hne item (Or.inl List.mem_cons_self))
    | cons item' items' =>
      rw [intercalate_cons_eq_append_flatMap, intercalate_cons_eq_append_flatMap] at heq
      -- No separator comes before the first item. Behind it, one comes before each.
      obtain ⟨rfl, hrest⟩ := h item List.mem_cons_self item' List.mem_cons_self
        (endsAt_flatMap shown items) (endsAt_flatMap shown items') heq
      have hmore : ∀ i ∈ items, ∀ i' ∈ items', ToldApart c shown i i' := by
        intro i hi i' hi'
        exact h i (List.mem_cons_of_mem _ hi) i' (List.mem_cons_of_mem _ hi')
      rw [flatMap_separated_inj hmore hrest]

end Separated

end Rehearsal
