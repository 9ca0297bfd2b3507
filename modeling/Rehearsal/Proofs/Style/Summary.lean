import Mathlib.Algebra.BigOperators.Group.List.Basic
import Mathlib.Algebra.Ring.Nat
import Rehearsal.Proofs.Separated
import Rehearsal.Proofs.Style

/-!
# What the summary of a run says

A `Summary` is what the last line of a run can say: how many tests there are, how many failed, how
many of them for each reason, and how many were skipped. What is seen of the line is the same on
every terminal (`Terminal.shows_summary`), and it can be read in one way only
(`Summary.text_injective`), so it is the line itself that states these numbers
(`Summary.ReadFrom`).

They are those of the outcomes (`Summary.Counts`), but for one: if none has passed, then all tests
are said to have failed, and those that were skipped, which the same line counts apart, are among
them. `summary_counts` is the main statement.
-/

namespace Rehearsal

/-! ### What a summary says -/

/-- How many tests of all are said to have failed, if not all have passed. -/
inductive Headline where
  | some (failed total : Nat)
  | all (total : Nat)
  deriving DecidableEq, Repr

/-- What the last line of a run can say. -/
inductive Summary where
  /-- All of so many tests have passed. -/
  | passed (total : Nat)
  /-- Some have failed: how many for each reason, and how many were skipped, if any were. -/
  | failed (headline : Headline) (details : List (FailReason × Nat)) (skipped : Option Nat)
  deriving DecidableEq, Repr

namespace Headline

def text : Headline → String
  | .some failed total => toString failed ++ "/" ++ toString total ++ " tests failed 💣"
  | .all total => "All " ++ toString total ++ " tests failed 💀"

/-- The number of tests that are said to have failed. -/
def failed : Headline → Nat
  | .some failed _ => failed
  | .all total => total

def total : Headline → Nat
  | .some _ total => total
  | .all total => total

end Headline

namespace Summary

/-- One of the numbers in the brackets. -/
def detailText (rc : FailReason × Nat) : String := " " ++ rc.1.tag ++ " " ++ "x" ++ toString rc.2

def skippedText (skipped : Option Nat) : List String :=
  skipped.toList.map fun n => toString n ++ " skipped"

/-- The line, as it is seen. -/
def text : Summary → String
  | .passed total => "----- " ++ ("All " ++ toString total ++ " tests passed ✨") ++ " -----\n"
  | .failed headline details skipped =>
    "----- " ++ (headline.text ++ " (" ++
      ", ".intercalate (details.map detailText ++ skippedText skipped) ++ ")") ++ " -----\n"

/-- This is what is seen of a line. -/
def ReadFrom (line : String) (s : Summary) : Prop := visible line.toList = s.text.toList

/-- The number of tests that a summary states. -/
def total : Summary → Nat
  | .passed total => total
  | .failed headline .. => headline.total

/-- The number of failed tests that a summary states: none, if all have passed. -/
def failedCount : Summary → Nat
  | .passed _ => 0
  | .failed headline .. => headline.failed

/-- How many tests are said to have failed for each reason. -/
def details : Summary → List (FailReason × Nat)
  | .passed _ => []
  | .failed _ details _ => details

/-- The number of skipped tests that a summary states, which it only does if there are any. -/
def skippedCount : Summary → Nat
  | .passed _ => 0
  | .failed _ _ skipped => skipped.getD 0

end Summary

/-! ### A line says one thing only -/

theorem FailReason.tag_injective : Function.Injective FailReason.tag := by
  intro reason reason' h
  cases reason <;> cases reason' <;> first | rfl | exact absurd h (by decide)

theorem FailReason.space_notMem_tag (reason : FailReason) : ' ' ∉ reason.tag.toList := by
  cases reason <;> decide

namespace Summary

theorem toList_detailText (rc : FailReason × Nat) :
    (detailText rc).toList = ' ' :: (rc.1.tag.toList ++ ' ' :: 'x' :: Nat.toDigits 10 rc.2) := by
  simp [detailText]

theorem detailText_injective : Function.Injective detailText := by
  intro rc rc' h
  have hlist := congrArg String.toList h
  rw [toList_detailText, toList_detailText, List.cons_inj_right] at hlist
  have hends : ∀ {rest : List Char} (c : Char), [c] <+: ' ' :: rest → ¬ c ≠ ' ' :=
    fun c hc => not_not.mpr (List.cons_prefix_cons.mp hc).1
  obtain ⟨htag, hrest⟩ := append_inj_of_front (p := (· ≠ ' '))
    (fun c hc hspace => rc.1.space_notMem_tag (hspace ▸ hc)) hends
    (fun c hc hspace => rc'.1.space_notMem_tag (hspace ▸ hc)) hends hlist
  have hdigits := (List.cons.inj (List.cons.inj hrest).2).2
  exact Prod.ext (FailReason.tag_injective (String.toList_inj.mp htag)) (toDigits_injective hdigits)

theorem skippedText_injective : Function.Injective skippedText := by
  intro skipped skipped' h
  cases skipped with
  | none =>
    cases skipped' with
    | none => rfl
    | some n' => cases h
  | some n =>
    cases skipped' with
    | none => cases h
    | some n' =>
      have hlist := congrArg String.toList (List.cons.inj h).1
      simp only [String.toList_append, Nat.toString_eq_ofList_toDigits, String.toList_ofList]
        at hlist
      rw [(toDigits_append_inj (by decide) (by decide) hlist).1]

/-- What is in the brackets. -/
def items (details : List (FailReason × Nat)) (skipped : Option Nat) : List String :=
  details.map detailText ++ skippedText skipped

/-- A count of failures begins with a space, the count of skipped tests with a digit. -/
theorem skippedText_ne_detailText (skipped : Option Nat) (rc : FailReason × Nat)
    (more : List String) : skippedText skipped ≠ detailText rc :: more := by
  intro h
  cases skipped with
  | none => cases h
  | some n =>
    have hlist := congrArg String.toList (List.cons.inj h).1
    rw [toList_detailText, String.toList_append, Nat.toString_eq_ofList_toDigits,
      String.toList_ofList] at hlist
    exact toDigits_ne_cons (by decide) hlist

theorem items_inj {details details' : List (FailReason × Nat)} {skipped skipped' : Option Nat}
    (h : items details skipped = items details' skipped') :
    details = details' ∧ skipped = skipped' := by
  induction details generalizing details' with
  | nil =>
    cases details' with
    | nil => exact ⟨rfl, skippedText_injective h⟩
    | cons rc' details' => exact absurd h (skippedText_ne_detailText skipped rc' _)
  | cons rc details ih =>
    cases details' with
    | nil => exact absurd h.symm (skippedText_ne_detailText skipped' rc _)
    | cons rc' details' =>
      obtain ⟨hfirst, hrest⟩ := List.cons.inj h
      obtain ⟨rfl, rfl⟩ := ih hrest
      rw [detailText_injective hfirst]
      exact ⟨rfl, rfl⟩

/-- An item is some text without a comma. -/
theorem item_spec {details : List (FailReason × Nat)} {skipped : Option Nat} {item : String}
    (h : item ∈ items details skipped) : item.toList ≠ [] ∧ ',' ∉ item.toList := by
  have hdigits : ∀ n : Nat, ',' ∉ Nat.toDigits 10 n := notMem_toDigits (by decide)
  rcases List.mem_append.mp h with hdetail | hskipped
  · obtain ⟨rc, -, rfl⟩ := List.mem_map.mp hdetail
    have htag : ',' ∉ rc.1.tag.toList := by
      cases rc.1 <;> decide
    rw [toList_detailText]
    simp [htag, hdigits]
  · obtain ⟨n, -, rfl⟩ := List.mem_map.mp hskipped
    simp [hdigits]

end Summary

namespace Headline

theorem text_some_append (failed total : Nat) (rest : List Char) :
    (some failed total).text.toList ++ rest =
      Nat.toDigits 10 failed ++
        '/' :: (Nat.toDigits 10 total ++ ' ' :: ("tests failed 💣".toList ++ rest)) := by
  simp [text]

theorem text_all_append (total : Nat) (rest : List Char) :
    (all total).text.toList ++ rest =
      'A' :: ("ll ".toList ++
        (Nat.toDigits 10 total ++ ' ' :: ("tests failed 💀".toList ++ rest))) := by
  simp [text]

theorem text_append_inj {headline headline' : Headline} {rest rest' : List Char}
    (h : headline.text.toList ++ rest = headline'.text.toList ++ rest') :
    headline = headline' ∧ rest = rest' := by
  cases headline with
  | some failed total =>
    cases headline' with
    | some failed' total' =>
      rw [text_some_append, text_some_append] at h
      obtain ⟨rfl, htotal⟩ := toDigits_append_inj (by decide) (by decide) h
      obtain ⟨rfl, hrest⟩ := toDigits_append_inj (by decide) (by decide) (List.cons.inj htotal).2
      exact ⟨rfl, List.append_cancel_left (List.cons.inj hrest).2⟩
    | all total' =>
      rw [text_some_append, text_all_append] at h
      exact absurd h (toDigits_ne_cons (by decide))
  | all total =>
    cases headline' with
    | some failed' total' =>
      rw [text_some_append, text_all_append] at h
      exact absurd h.symm (toDigits_ne_cons (by decide))
    | all total' =>
      rw [text_all_append, text_all_append] at h
      have htotal := List.append_cancel_left (List.cons.inj h).2
      obtain ⟨rfl, hrest⟩ := toDigits_append_inj (by decide) (by decide) htotal
      exact ⟨rfl, List.append_cancel_left (List.cons.inj hrest).2⟩

end Headline

namespace Summary

theorem toList_text_passed (total : Nat) :
    (passed total).text.toList =
      "----- ".toList ++ ('A' :: ("ll ".toList ++ (Nat.toDigits 10 total ++
        ' ' :: "tests passed ✨ -----\n".toList))) := by
  simp [text]

theorem toList_text_failed (headline : Headline) (details : List (FailReason × Nat))
    (skipped : Option Nat) :
    (failed headline details skipped).text.toList =
      "----- ".toList ++ (headline.text.toList ++ (" (".toList ++
        (", ".toList.intercalate ((items details skipped).map String.toList) ++
          ") -----\n".toList))) := by
  simp [text, items]

theorem text_passed_ne_text_failed (total : Nat) (headline : Headline)
    (details : List (FailReason × Nat)) (skipped : Option Nat) :
    (passed total).text.toList ≠ (failed headline details skipped).text.toList := by
  intro h
  rw [toList_text_passed, toList_text_failed] at h
  have hfront := List.append_cancel_left h
  cases headline with
  | some failed total' =>
    rw [Headline.text_some_append] at hfront
    exact toDigits_ne_cons (by decide) hfront.symm
  | all total' =>
    rw [Headline.text_all_append] at hfront
    have hnumber := List.append_cancel_left (List.cons.inj hfront).2
    obtain ⟨-, hrest⟩ := toDigits_append_inj (by decide) (by decide) hnumber
    -- What comes after the number of tests tells the two lines apart.
    exact absurd (congrArg (List.take 7) (List.cons.inj hrest).2) (by simp)

/-- What is said can be read in one way only. -/
theorem text_injective {s s' : Summary} (h : s.text.toList = s'.text.toList) : s = s' := by
  cases s with
  | passed total =>
    cases s' with
    | passed total' =>
      rw [toList_text_passed, toList_text_passed] at h
      have hnumber :=
        List.append_cancel_left (List.cons.inj (List.append_cancel_left h)).2
      rw [(toDigits_append_inj (by decide) (by decide) hnumber).1]
    | failed headline' details' skipped' => exact absurd h (text_passed_ne_text_failed _ _ _ _)
  | failed headline details skipped =>
    cases s' with
    | passed total' => exact absurd h.symm (text_passed_ne_text_failed _ _ _ _)
    | failed headline' details' skipped' =>
      rw [toList_text_failed, toList_text_failed] at h
      obtain ⟨rfl, hitems⟩ := Headline.text_append_inj (List.append_cancel_left h)
      have hitems := List.append_cancel_right (List.append_cancel_left hitems)
      -- An item has no comma, so the text in the brackets is cut into items in one way.
      have hspec : ∀ item, item ∈ items details skipped ∨ item ∈ items details' skipped' →
          item.toList ≠ [] ∧ ',' ∉ item.toList := by
        rintro item (hitem | hitem)
        · exact item_spec hitem
        · exact item_spec hitem
      have hsame : items details skipped = items details' skipped' := by
        apply intercalate_inj (fun item hitem => (hspec item hitem).1) _ hitems
        intro item hitem item' hitem'
        exact toldApart_of_notMem String.toList_inj.mp (hspec item (Or.inl hitem)).2
          (hspec item' (Or.inr hitem')).2
      obtain ⟨rfl, rfl⟩ := items_inj hsame
      rfl

end Summary

/-! ### What the summary of a run says -/

/-- What is said of these outcomes and so many skipped tests. -/
def Summary.of (outcomes : List Outcome) (skipped : Nat) : Summary :=
  let total := outcomes.length + skipped
  let passed := Outcome.countPassed outcomes
  if passed = total then .passed total
  else
    .failed (if 0 < passed then .some (outcomes.length - passed) total else .all total)
      (Terminal.reasonCounts outcomes) (if 0 < skipped then some skipped else none)

namespace Terminal

variable (t : Terminal)

theorem shows_number (p : Paint) (n : Nat) : Shows (t.paint p (toString n)) (toString n) := by
  refine t.shows_paint p ?_
  rw [Nat.toString_eq_ofList_toDigits, String.toList_ofList]
  exact notMem_toDigits (by decide) n

theorem shows_reasonDetail (rc : FailReason × Nat) :
    Shows (t.reasonDetail rc) (Summary.detailText rc) :=
  ((t.shows_badge rc.1).append (t.shows_paint _ (by decide))).append (t.shows_number _ rc.2)

/-- What is in the brackets, as it is written. -/
theorem forall₂_shows_items (details : List (FailReason × Nat)) (skipped : Nat) :
    List.Forall₂ Shows
      (details.map t.reasonDetail ++
        (if 0 < skipped then [t.paint { dimmed := true } (toString skipped ++ " skipped")] else []))
      (Summary.items details (if 0 < skipped then some skipped else none)) := by
  refine List.rel_append ?_ ?_
  · rw [List.forall₂_map_left_iff, List.forall₂_map_right_iff, List.forall₂_same]
    exact fun rc _ => t.shows_reasonDetail rc
  · split
    · refine .cons (t.shows_paint _ ?_) .nil
      simp [notMem_toDigits]
    · exact .nil

theorem shows_message (outcomes : List Outcome) (skipped : Nat) :
    Shows (t.paint { foreground := some .brightRed }
        (if 0 < Outcome.countPassed outcomes then
          toString (outcomes.length - Outcome.countPassed outcomes) ++ "/" ++
            toString (outcomes.length + skipped) ++ " tests failed 💣"
        else "All " ++ toString (outcomes.length + skipped) ++ " tests failed 💀"))
      (Headline.text (if 0 < Outcome.countPassed outcomes then
          .some (outcomes.length - Outcome.countPassed outcomes) (outcomes.length + skipped)
        else .all (outcomes.length + skipped))) := by
  split
  · refine t.shows_paint _ ?_
    simp [notMem_toDigits]
  · refine t.shows_paint _ ?_
    simp [notMem_toDigits]

/-- What is seen of a summary, on any terminal. -/
theorem shows_summary (outcomes : List Outcome) (skipped : Nat) :
    Shows (t.summary outcomes skipped) (Summary.of outcomes skipped).text := by
  rw [summary, summaryText, Summary.of]
  dsimp only
  split
  · refine ((shows_self (by decide)).append (t.shows_paint _ ?_)).append (shows_self (by decide))
    simp [notMem_toDigits]
  · have hsep : Shows ", " ", " := shows_self (by decide)
    have hitems := hsep.intercalate (t.forall₂_shows_items (reasonCounts outcomes) skipped)
    have hmessage := t.shows_message outcomes skipped
    exact ((shows_self (by decide)).append
      (((hmessage.append (shows_self (by decide))).append hitems).append
        (shows_self (by decide)))).append (shows_self (by decide))

/-- So the line says this and nothing else. -/
theorem readFrom_summary_iff {outcomes : List Outcome} {skipped : Nat} {s : Summary} :
    s.ReadFrom (t.summary outcomes skipped) ↔ s = Summary.of outcomes skipped := by
  rw [Summary.ReadFrom, (t.shows_summary outcomes skipped).visible]
  constructor
  · exact fun h => Summary.text_injective h.symm
  · rintro rfl
    rfl

end Terminal

/-! ### Counting -/

namespace FailReason

theorem mem_all (reason : FailReason) : reason ∈ all := by
  cases reason <;> decide

theorem nodup_all : all.Nodup := by decide

end FailReason

namespace Outcome

/-- How many tests failed. -/
def countFailed (outcomes : List Outcome) : Nat := outcomes.countP fun o => !o.passed

theorem countPassed_add_countFailed (outcomes : List Outcome) :
    countPassed outcomes + countFailed outcomes = outcomes.length := by
  rw [List.length_eq_countP_add_countP Outcome.passed]
  simp only [countPassed, countFailed, Bool.not_eq_true, Bool.decide_eq_false]

/-- A test that failed did so for one reason. -/
theorem sum_map_reason (o : Outcome) :
    (FailReason.all.map fun r => if o.verdict.reason? == some r then 1 else 0).sum =
      if !o.passed then 1 else 0 := by
  rw [passed]
  cases o.verdict with
  | pass => rfl
  | fail reason diagnostic => cases reason <;> rfl

theorem sum_map_countReason (outcomes : List Outcome) :
    (FailReason.all.map (countReason outcomes)).sum = countFailed outcomes := by
  induction outcomes with
  | nil => rfl
  | cons o outcomes ih =>
    have hstep : countReason (o :: outcomes) =
        fun r => countReason outcomes r + if o.verdict.reason? == some r then 1 else 0 := by
      funext r
      rw [countReason, List.countP_cons, countReason]
    rw [hstep, List.sum_map_add, ih, sum_map_reason, countFailed, countFailed, List.countP_cons]

end Outcome

namespace Terminal

theorem mem_reasonCounts {outcomes : List Outcome} {reason : FailReason} {n : Nat} :
    (reason, n) ∈ reasonCounts outcomes ↔ 0 < n ∧ n = Outcome.countReason outcomes reason := by
  rw [reasonCounts, List.mem_filter, List.mem_map]
  constructor
  · rintro ⟨⟨r, -, hr⟩, hpos⟩
    cases hr
    exact ⟨of_decide_eq_true hpos, rfl⟩
  · rintro ⟨hpos, rfl⟩
    exact ⟨⟨reason, reason.mem_all, rfl⟩, decide_eq_true hpos⟩

theorem map_fst_reasonCounts_sublist (outcomes : List Outcome) :
    ((reasonCounts outcomes).map Prod.fst).Sublist FailReason.all := by
  have hsub := (List.filter_sublist (p := fun rc => decide (0 < rc.2))
    (l := FailReason.all.map fun r => (r, Outcome.countReason outcomes r))).map Prod.fst
  rwa [List.map_map, show (Prod.fst ∘ fun r => (r, Outcome.countReason outcomes r)) = id from rfl,
    List.map_id] at hsub

/-- Reasons for which no test failed may be left out of the sum. -/
theorem sum_map_snd_filter (counts : List (FailReason × Nat)) :
    ((counts.filter fun rc => 0 < rc.2).map Prod.snd).sum = (counts.map Prod.snd).sum := by
  induction counts with
  | nil => rfl
  | cons rc counts ih =>
    rw [List.filter_cons, List.map_cons, List.sum_cons]
    split
    · rw [List.map_cons, List.sum_cons, ih]
    · next hpos =>
      have hzero : rc.2 = 0 := Nat.eq_zero_of_not_pos fun h => hpos (decide_eq_true h)
      rw [ih, hzero, Nat.zero_add]

theorem sum_map_snd_reasonCounts (outcomes : List Outcome) :
    ((reasonCounts outcomes).map Prod.snd).sum = Outcome.countFailed outcomes := by
  rw [reasonCounts, sum_map_snd_filter, List.map_map]
  exact Outcome.sum_map_countReason outcomes

end Terminal

/-- The numbers of a summary that are those of the outcomes whatever these are. -/
structure Summary.Counts (s : Summary) (outcomes : List Outcome) (skipped : Nat) : Prop where
  total : s.total = outcomes.length + skipped
  passed : s = .passed s.total ↔ Outcome.countPassed outcomes = outcomes.length + skipped
  skipped : s.skippedCount = skipped
  /-- Reasons are listed in their order, -/
  reasons : (s.details.map Prod.fst).Sublist FailReason.all
  /-- each of them once, -/
  nodup : (s.details.map Prod.fst).Nodup
  /-- if some test failed for it, and with the number of those that did. -/
  count : ∀ reason n,
    (reason, n) ∈ s.details ↔ 0 < n ∧ n = Outcome.countReason outcomes reason
  sum : (s.details.map Prod.snd).sum = Outcome.countFailed outcomes

theorem Summary.counts_of (outcomes : List Outcome) (skipped : Nat) :
    (Summary.of outcomes skipped).Counts outcomes skipped := by
  have hlength := Outcome.countPassed_add_countFailed outcomes
  rw [Summary.of]
  split
  · next hpassed =>
    -- All have passed, so that every count is zero and none need be listed.
    have hfailed : Outcome.countFailed outcomes = 0 := by omega
    have hskipped : skipped = 0 := by omega
    have hcount : ∀ reason, Outcome.countReason outcomes reason = 0 := by
      have hsum := Outcome.sum_map_countReason outcomes
      rw [hfailed, List.sum_eq_zero_iff_forall_eq_nat] at hsum
      exact fun reason => hsum _ (List.mem_map_of_mem reason.mem_all)
    refine ⟨rfl, iff_of_true rfl hpassed, hskipped.symm, List.nil_sublist _, List.nodup_nil, ?_,
      hfailed.symm⟩
    intro reason n
    rw [hcount]
    constructor
    · rintro ⟨⟩
    · rintro ⟨hpos, rfl⟩
      exact absurd hpos (Nat.lt_irrefl 0)
  · next hpassed =>
    have hreasons := Terminal.map_fst_reasonCounts_sublist outcomes
    refine ⟨?_, iff_of_false (by rintro ⟨⟩) hpassed, ?_, hreasons,
      hreasons.nodup FailReason.nodup_all, fun _ _ => Terminal.mem_reasonCounts,
      Terminal.sum_map_snd_reasonCounts outcomes⟩
    · rw [Summary.total]
      split <;> rfl
    · rw [skippedCount]
      split
      · rfl
      · next hskipped => exact (Nat.eq_zero_of_not_pos hskipped).symm

/-- The number of failed tests is that of the outcomes unless none has passed and some were
skipped. -/
theorem Summary.failedCount_of_iff (outcomes : List Outcome) (skipped : Nat) :
    (Summary.of outcomes skipped).failedCount = Outcome.countFailed outcomes ↔
      0 < Outcome.countPassed outcomes ∨ skipped = 0 := by
  have hlength := Outcome.countPassed_add_countFailed outcomes
  rw [Summary.of]
  split
  · rw [failedCount]
    omega
  · rw [failedCount]
    split
    · rw [Headline.failed]
      omega
    · rw [Headline.failed]
      omega

/-- **What a summary says.** On every terminal, the last line of a run says one thing only. It
states the number of all tests and of those that were skipped; it says that all have passed if they
have; and it lists how many tests failed for each reason for which any did, once and in order,
which together are the tests that failed. The number of failed tests that it states is this sum too,
and the numbers of passed, failed and skipped tests add up to that of all tests, if and only if some
test has passed or none was skipped: otherwise all tests are said to have failed. The numbers are
those of tests that were listed, so their sum is no larger than the length of a list in memory. -/
theorem summary_counts (t : Terminal) (outcomes : List Outcome) (skipped : Nat) :
    ∃ s : Summary, (∀ s' : Summary, s'.ReadFrom (t.summary outcomes skipped) ↔ s' = s) ∧
      s.Counts outcomes skipped ∧
      (s.failedCount = Outcome.countFailed outcomes ↔
        0 < Outcome.countPassed outcomes ∨ skipped = 0) ∧
      (Outcome.countPassed outcomes + s.failedCount + s.skippedCount = s.total ↔
        0 < Outcome.countPassed outcomes ∨ skipped = 0) := by
  have hcounts := Summary.counts_of outcomes skipped
  have hfailed := Summary.failedCount_of_iff outcomes skipped
  refine ⟨Summary.of outcomes skipped, fun s' => t.readFrom_summary_iff, hcounts, hfailed, ?_⟩
  rw [← hfailed, hcounts.skipped, hcounts.total,
    ← Outcome.countPassed_add_countFailed outcomes]
  omega

/-- One test whose output ended without a newline, after which another was skipped: both are said
to have failed. -/
theorem summary_of_none_passed_one_skipped :
    let outcomes : List Outcome := [⟨"a", .fail .unterminatedOutput (.ofString "x"), ⟨0⟩⟩]
    let s : Summary := .failed (.all 2) [(.unterminatedOutput, 1)] (some 1)
    (∀ s' : Summary, s'.ReadFrom (Terminal.summary {} outcomes 1) ↔ s' = s) ∧
      s.failedCount = 2 ∧ Outcome.countFailed outcomes = 1 ∧ s.skippedCount = 1 ∧
      Outcome.countPassed outcomes + s.failedCount + s.skippedCount ≠ s.total := by
  intro outcomes s
  exact ⟨fun s' => Terminal.readFrom_summary_iff {}, rfl, rfl, rfl, by decide⟩

end Rehearsal
