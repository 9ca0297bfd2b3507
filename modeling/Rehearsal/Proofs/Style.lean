import Mathlib.Data.List.Forall2
import Rehearsal.Proofs.Text.Digits
import Rehearsal.Style

/-!
# What is seen of painted text

A terminal hides the escape sequences of what is written to it. `visible` is the text that is left,
and `Shows` says which text a piece of output adds to it. Paint adds nothing: `Terminal.shows_paint`
is the main statement, and holds of every text that is free of escapes itself.
-/

namespace Rehearsal

/-! ### What is seen of a text -/

/-- Where a terminal is in a text: in the middle of an escape sequence, or not. A sequence ends with
an `m`. -/
def visibleFrom : Bool → List Char → List Char
  | _, [] => []
  | true, c :: cs => visibleFrom (c != 'm') cs
  | false, c :: cs => if c = '\x1b' then visibleFrom true cs else c :: visibleFrom false cs

/-- What is seen of a text: everything but its escape sequences. -/
def visible (cs : List Char) : List Char := visibleFrom false cs

theorem visible_append_of_plain {text : List Char} (h : '\x1b' ∉ text) (rest : List Char) :
    visible (text ++ rest) = text ++ visible rest := by
  induction text with
  | nil => rfl
  | cons c text ih =>
    have hc : c ≠ '\x1b' := fun hc => h (hc ▸ List.mem_cons_self)
    have htext : '\x1b' ∉ text := fun hmem => h (List.mem_cons_of_mem _ hmem)
    rw [List.cons_append, visible, visibleFrom, if_neg hc]
    exact congrArg (c :: ·) (ih htext)

theorem visibleFrom_true_append {codes : List Char} (h : 'm' ∉ codes) (rest : List Char) :
    visibleFrom true (codes ++ 'm' :: rest) = visible rest := by
  induction codes with
  | nil => rfl
  | cons c codes ih =>
    have hc : (c != 'm') = true := bne_iff_ne.mpr fun hc => h (hc ▸ List.mem_cons_self)
    have hcodes : 'm' ∉ codes := fun hmem => h (List.mem_cons_of_mem _ hmem)
    rw [List.cons_append, visibleFrom, hc, ih hcodes]

/-- What is seen of a piece of output, whatever is written after it. -/
def Shows (output text : String) : Prop :=
  ∀ rest, visible (output.toList ++ rest) = text.toList ++ visible rest

theorem Shows.visible {output text : String} (h : Shows output text) :
    visible output.toList = text.toList := by
  have hshown := h []
  rwa [List.append_nil, show Rehearsal.visible [] = [] from rfl, List.append_nil] at hshown

theorem shows_self {text : String} (h : '\x1b' ∉ text.toList) : Shows text text :=
  visible_append_of_plain h

theorem Shows.append {a b x y : String} (ha : Shows a x) (hb : Shows b y) :
    Shows (a ++ b) (x ++ y) := by
  intro rest
  rw [String.toList_append, List.append_assoc, ha, hb, String.toList_append, List.append_assoc]

theorem Shows.intercalate {sep : String} (hsep : Shows sep sep) {outputs texts : List String}
    (h : List.Forall₂ Shows outputs texts) :
    Shows (sep.intercalate outputs) (sep.intercalate texts) := by
  induction h with
  | nil => exact shows_self (by simp)
  | cons hfirst hrest ih =>
    cases hrest with
    | nil =>
      rw [String.intercalate_singleton, String.intercalate_singleton]
      exact hfirst
    | cons hsecond hrest =>
      rw [String.intercalate_cons_cons, String.intercalate_cons_cons]
      exact (hfirst.append hsep).append ih

/-! ### Paint is not seen -/

namespace Paint

theorem notMem_codes_color (c : Color) (normal bright : Nat) :
    'm' ∉ (c.codes normal bright).toList := by
  have hdigits : ∀ n : Nat, 'm' ∉ Nat.toDigits 10 n := notMem_toDigits (by decide)
  cases c <;> simp [Color.codes, hdigits]

/-- The numbers of a style do not end the sequence they are in. -/
theorem notMem_codes (p : Paint) : 'm' ∉ (";".intercalate p.codes).toList := by
  have hcodes : ∀ code ∈ p.codes, 'm' ∉ code.toList := by
    intro code hcode
    simp only [codes, List.mem_append, Option.mem_toList, Option.map_eq_some_iff] at hcode
    rcases hcode with ((hbold | hdimmed) | ⟨c, -, rfl⟩) | ⟨c, -, rfl⟩
    · split at hbold
      · cases List.mem_singleton.mp hbold
        decide
      · cases hbold
    · split at hdimmed
      · cases List.mem_singleton.mp hdimmed
        decide
      · cases hdimmed
    · exact notMem_codes_color c 40 100
    · exact notMem_codes_color c 30 90
  generalize p.codes = all at hcodes
  induction all with
  | nil => simp
  | cons code more ih =>
    have hcode := hcodes code List.mem_cons_self
    have hmore := ih fun other hother => hcodes other (List.mem_cons_of_mem _ hother)
    cases more with
    | nil => simpa using hcode
    | cons next more =>
      rw [String.intercalate_cons_cons, String.toList_append, String.toList_append,
        List.mem_append, List.mem_append]
      rintro ((hmem | hmem) | hmem)
      · exact hcode hmem
      · exact absurd hmem (by decide)
      · exact hmore hmem

theorem shows_opening (p : Paint) : Shows p.opening "" := by
  intro rest
  have hlist : p.opening.toList ++ rest =
      '\x1b' :: (('[' :: (";".intercalate p.codes).toList) ++ 'm' :: rest) := by
    simp [opening]
  rw [hlist]
  exact visibleFrom_true_append (by simpa using p.notMem_codes) rest

theorem shows_reset : Shows reset "" := fun _ => rfl

end Paint

section Replace

open String.Slice.Pattern String.Slice.Pattern.Model

/-- Nothing is replaced in a text in which the pattern does not occur. -/
theorem replace_eq_self {s pattern replacement : String} (hne : pattern ≠ "")
    (hnot : ∀ before after : String, s ≠ before ++ pattern ++ after) :
    s.replace pattern replacement = s := by
  have hsteps : IsValidSearchFrom pattern s.toSlice.startPos
      (ToForwardSearcher.toSearcher pattern s.toSlice).toList :=
    (ForwardStringSearcher.lawfulToForwardSearcherModel hne).isValidSearchFrom_toList s.toSlice
  have hsplits : s.toSlice.startPos.Splits "" s.toSlice.copy := String.Slice.splits_startPos _
  rw [String.replace, String.Slice.replace, ← Std.Iter.foldl_toList]
  -- A search that has come to a position has copied what stands before it.
  generalize (ToForwardSearcher.toSearcher pattern s.toSlice).toList = steps at hsteps ⊢
  generalize s.toSlice.startPos = pos at hsteps hsplits
  generalize s.toSlice.copy = rest at hsplits
  generalize "" = sofar at hsplits ⊢
  induction hsteps generalizing sofar rest with
  | endPos =>
    rw [List.foldl_nil, hsplits.eq_left (String.Slice.splits_endPos _), String.copy_toSlice]
  | matched hmatch hsteps ih =>
    obtain ⟨before, after, -, hstop⟩ :=
      ForwardStringSearcher.isLongestMatchAt_iff_splits.mp hmatch
    exact absurd (by simpa using hstop.eq_append) (hnot before after)
  | @mismatched steps start stop hlt hno hsteps ih =>
    obtain ⟨before, after, hstart, hstop⟩ :=
      String.Slice.copy_slice_eq_iff_splits.mp ⟨Std.le_of_lt hlt, rfl⟩
    obtain rfl : sofar = before := hsplits.eq_left hstart
    rw [List.foldl_cons]
    simp only [String.Slice.slice!, Std.le_of_lt hlt, dif_pos]
    exact ih _ _ hstop

end Replace

namespace Terminal

variable (t : Terminal)

/-- Painted or not, it is the text that is seen. -/
theorem shows_paint (p : Paint) {text : String} (h : '\x1b' ∉ text.toList) :
    Shows (t.paint p text) text := by
  rw [paint]
  split
  · exact shows_self h
  · have hnot : ∀ before after : String, text ≠ before ++ Paint.reset ++ after := by
      rintro before after rfl
      exact h (by simp [Paint.reset])
    rw [replace_eq_self (by decide) hnot]
    have hshows := ((p.shows_opening).append (shows_self h)).append Paint.shows_reset
    rwa [String.empty_append, String.append_empty] at hshows

theorem shows_badge (reason : FailReason) :
    Shows (t.badge (some reason)) (" " ++ reason.tag ++ " ") := by
  refine t.shows_paint _ ?_
  cases reason <;> decide

end Terminal

end Rehearsal
