import Mathlib.Data.List.Induction
import Rehearsal.Config.Environment
import Rehearsal.Proofs.Config.Field

/-!
# Variables in any order

The variables of a process come in no order, so a configuration may not depend on one. What a list
of variables says is put down here without going through it (`Draft.SaysOf`): every value can be
read, no field is given twice, and a field holds what some variable gives it. Taking the variables
one after another finds exactly that (`foldlM_takeVariable_eq_ok_iff`), and as none of the three
asks where in the list a variable stands, neither does the configuration. The main statement is
`ofVariables_in_any_order`.

The order does decide which of several errors is reported, and nothing here says otherwise.
-/

namespace Rehearsal.Config

/-! ### What one variable says -/

/-- Is this a variable of a configuration? Its name begins as all of them do. -/
def IsOwn (pair : String × String) : Prop := variableStart.toList <+: pair.1.toList

instance (pair : String × String) : Decidable (IsOwn pair) :=
  inferInstanceAs (Decidable (_ <+: _))

/-- The field that a variable of this name gives. -/
def fieldOf? (name : String) : Option Field :=
  (variableName? name).bind fun rest => Field.ofKey? rest.toLower

/-- The value that a variable gives a field, if it can be read. -/
def valueOf (pair : String × String) (f : Field) : Except EnvironmentError f.Value :=
  f.read variableReader ((variableName? pair.1).getD "", pair.2)

variable {pair : String × String} {pairs pairs' : List (String × String)} {d d' : Draft}
variable {f : Field}

theorem fieldOf?_of_not_isOwn (h : ¬ IsOwn pair) : fieldOf? pair.1 = none := by
  have hstart : variableStart.toList.isPrefixOf pair.1.toList ≠ true := fun hp =>
    h (List.isPrefixOf_iff_prefix.mp hp)
  rw [fieldOf?, variableName?, if_neg hstart]
  rfl

theorem takeVariable_of_none (h : fieldOf? pair.1 = none) : takeVariable d pair = .ok d := by
  rw [takeVariable]
  cases hname : variableName? pair.1 with
  | none => rfl
  | some rest =>
    rw [fieldOf?, hname, Option.bind_some] at h
    simp only [h]

theorem takeVariable_of_some (h : fieldOf? pair.1 = some f) :
    takeVariable d pair =
      if d.has f then .error (.duplicate f) else (valueOf pair f).map (d.set f) := by
  rw [takeVariable, valueOf]
  cases hname : variableName? pair.1 with
  | none => simp [fieldOf?, hname] at h
  | some rest =>
    rw [fieldOf?, hname, Option.bind_some] at h
    simp only [h, Draft.put_eq, Option.getD_some]

/-- Taking a variable passes it over, or sets a field that was not known. -/
theorem takeVariable_eq_ok_iff :
    takeVariable d pair = .ok d' ↔
      (fieldOf? pair.1 = none ∧ d' = d) ∨
        ∃ f a, fieldOf? pair.1 = some f ∧ d.get? f = none ∧ valueOf pair f = .ok a ∧
          d' = d.set f a := by
  cases hfield : fieldOf? pair.1 with
  | none => simp [takeVariable_of_none hfield, eq_comm]
  | some f =>
    rw [takeVariable_of_some hfield, Draft.has_eq]
    constructor
    · intro h
      split at h
      · cases h
      · next hnone =>
        cases hvalue : valueOf pair f with
        | error e =>
          rw [hvalue] at h
          cases h
        | ok a =>
          rw [hvalue] at h
          cases h
          exact .inr ⟨f, a, rfl, by simpa using hnone, hvalue, rfl⟩
    · rintro (⟨⟨⟩, -⟩ | ⟨g, a, hg, hnone, hvalue, rfl⟩)
      obtain rfl := Option.some.inj hg
      rw [hnone, hvalue]
      rfl

/-! ### What a list of variables says -/

/-- A draft holds what these variables say, wherever in the list they say it. -/
structure Draft.SaysOf (pairs : List (String × String)) (d : Draft) : Prop where
  readable : ∀ pair ∈ pairs, ∀ f, fieldOf? pair.1 = some f → ∃ a, valueOf pair f = .ok a
  once : pairs.Pairwise fun p q => ∀ f, fieldOf? p.1 = some f → fieldOf? q.1 ≠ some f
  get?_eq_some_iff : ∀ f a, d.get? f = some a ↔
    ∃ pair ∈ pairs, fieldOf? pair.1 = some f ∧ valueOf pair f = .ok a

namespace Draft.SaysOf

theorem nil : SaysOf [] {} :=
  ⟨by simp, .nil, by simp⟩

/-- A field that was not known was not given. -/
theorem fieldOf?_ne (h : d.SaysOf pairs) (hf : d.get? f = none) {p : String × String}
    (hp : p ∈ pairs) : fieldOf? p.1 ≠ some f := by
  intro hfield
  obtain ⟨a, ha⟩ := h.readable p hp f hfield
  rw [(h.get?_eq_some_iff f a).mpr ⟨p, hp, hfield, ha⟩] at hf
  cases hf

/-- One variable more. -/
theorem concat (h : d.SaysOf pairs) (htake : takeVariable d pair = .ok d') :
    d'.SaysOf (pairs ++ [pair]) := by
  rcases takeVariable_eq_ok_iff.mp htake with ⟨hnone, rfl⟩ | ⟨f, a, hfield, hunknown, hvalue, rfl⟩
  · refine ⟨?_, ?_, ?_⟩
    · intro p hp g hg
      rcases List.mem_append.mp hp with hp | hp
      · exact h.readable p hp g hg
      · rw [List.mem_singleton.mp hp, hnone] at hg
        cases hg
    · rw [List.pairwise_append]
      refine ⟨h.once, List.pairwise_singleton _ _, fun p _ q hq g _ => ?_⟩
      rw [List.mem_singleton.mp hq, hnone]
      exact fun hg => nomatch hg
    · intro g b
      simp [h.get?_eq_some_iff g b, or_and_right, exists_or, hnone]
  · refine ⟨?_, ?_, ?_⟩
    · intro p hp g hg
      rcases List.mem_append.mp hp with hp | hp
      · exact h.readable p hp g hg
      · rw [List.mem_singleton.mp hp] at hg ⊢
        obtain rfl := Option.some.inj (hfield.symm.trans hg)
        exact ⟨a, hvalue⟩
    · rw [List.pairwise_append]
      refine ⟨h.once, List.pairwise_singleton _ _, fun p hp q hq g hg => ?_⟩
      rw [List.mem_singleton.mp hq, hfield]
      intro hfg
      exact h.fieldOf?_ne hunknown hp (hg.trans hfg.symm)
    · intro g b
      simp only [List.mem_append, List.mem_singleton, or_and_right, exists_or, exists_eq_left]
      by_cases hgf : g = f
      · subst hgf
        have hno : ¬ ∃ p ∈ pairs, fieldOf? p.1 = some g ∧ valueOf p g = .ok b := by
          rintro ⟨p, hp, hg, -⟩
          exact h.fieldOf?_ne hunknown hp hg
        rw [get?_set_self, or_iff_right hno, hvalue]
        simp [hfield]
      · have hne : some f ≠ some g := fun hfg => hgf (Option.some.inj hfg).symm
        rw [get?_set_of_ne hgf, h.get?_eq_some_iff, hfield]
        simp [hne]

/-- Variables say one thing. -/
theorem unique (h : d.SaysOf pairs) (h' : d'.SaysOf pairs) : d = d' :=
  ext_get? fun f a => (h.get?_eq_some_iff f a).trans (h'.get?_eq_some_iff f a).symm

/-- They say it in any order. -/
theorem perm (h : d.SaysOf pairs) (hperm : pairs.Perm pairs') : d.SaysOf pairs' := by
  refine ⟨fun p hp => h.readable p (hperm.mem_iff.mpr hp), ?_, ?_⟩
  · refine hperm.pairwise h.once fun hpq f hq hp => hpq f hp hq
  · intro f a
    simp only [h.get?_eq_some_iff f a, hperm.mem_iff]

end Draft.SaysOf

/-- Whatever was taken into a draft, the draft holds what was said. -/
theorem saysOf_of_foldlM (h : pairs.foldlM takeVariable {} = .ok d) : d.SaysOf pairs := by
  induction pairs using List.reverseRecOn generalizing d with
  | nil =>
    cases h
    exact .nil
  | append_singleton pairs pair ih =>
    rw [List.foldlM_append] at h
    obtain ⟨before, hbefore, htake⟩ := bind_eq_ok_iff.mp h
    rw [List.foldlM_cons] at htake
    obtain ⟨after, htake, hafter⟩ := bind_eq_ok_iff.mp htake
    cases hafter
    exact (ih hbefore).concat htake

/-- Variables are taken to the end if each can be read and no field is given twice. -/
theorem exists_foldlM_eq_ok
    (hreadable : ∀ pair ∈ pairs, ∀ f, fieldOf? pair.1 = some f → ∃ a, valueOf pair f = .ok a)
    (honce : pairs.Pairwise fun p q => ∀ f, fieldOf? p.1 = some f → fieldOf? q.1 ≠ some f) :
    ∃ d, pairs.foldlM takeVariable {} = .ok d := by
  induction pairs using List.reverseRecOn with
  | nil => exact ⟨{}, rfl⟩
  | append_singleton pairs pair ih =>
    obtain ⟨hbefore, -, hapart⟩ := List.pairwise_append.mp honce
    obtain ⟨d, hd⟩ := ih (fun p hp => hreadable p (List.mem_append_left _ hp)) hbefore
    have htake : ∃ d', takeVariable d pair = .ok d' := by
      cases hfield : fieldOf? pair.1 with
      | none => exact ⟨d, takeVariable_of_none hfield⟩
      | some f =>
        obtain ⟨a, ha⟩ := hreadable pair (by simp) f hfield
        refine ⟨d.set f a, takeVariable_eq_ok_iff.mpr (.inr ⟨f, a, hfield, ?_, ha, rfl⟩)⟩
        -- Had the field been known, a variable before this one would have given it.
        rw [Option.eq_none_iff_forall_ne_some]
        intro b hb
        obtain ⟨p, hp, hpf, -⟩ := ((saysOf_of_foldlM hd).get?_eq_some_iff f b).mp hb
        exact hapart p hp pair (List.mem_singleton.mpr rfl) f hpf hfield
    obtain ⟨d', hd'⟩ := htake
    refine ⟨d', ?_⟩
    rw [List.foldlM_append, hd]
    show takeVariable d pair >>= pure = _
    rw [hd']
    rfl

theorem foldlM_takeVariable_eq_ok_iff :
    pairs.foldlM takeVariable {} = .ok d ↔ d.SaysOf pairs := by
  refine ⟨saysOf_of_foldlM, fun h => ?_⟩
  obtain ⟨d', hd'⟩ := exists_foldlM_eq_ok h.readable h.once
  rw [hd', (saysOf_of_foldlM hd').unique h]

/-- **What a configuration from variables is**: what they say, if nothing is missing. -/
theorem ofVariables_eq_ok_iff {c : Config} :
    ofVariables pairs = .ok c ↔ ∃ d : Draft, d.SaysOf pairs ∧ d.complete = .ok c := by
  rw [ofVariables, bind_eq_ok_iff]
  simp only [foldlM_takeVariable_eq_ok_iff, mapError_eq_ok_iff]

/-! ### Other variables -/

theorem foldlM_takeVariable_filter (d : Draft) (pairs : List (String × String)) :
    (pairs.filter fun pair => IsOwn pair).foldlM takeVariable d = pairs.foldlM takeVariable d := by
  induction pairs generalizing d with
  | nil => rfl
  | cons pair pairs ih =>
    by_cases hown : IsOwn pair
    · rw [List.filter_cons_of_pos (by simpa using hown), List.foldlM_cons, List.foldlM_cons]
      exact congrArg _ (funext ih)
    · rw [List.filter_cons_of_neg (by simpa using hown), List.foldlM_cons,
        takeVariable_of_none (fieldOf?_of_not_isOwn hown)]
      exact ih d

theorem ofVariables_filter (pairs : List (String × String)) :
    ofVariables (pairs.filter fun pair => IsOwn pair) = ofVariables pairs := by
  rw [ofVariables, ofVariables, foldlM_takeVariable_filter]

/-- **A configuration does not depend on the order of the variables**: in another order they give
the same one, if they give any. Variables that are not of a configuration may come and go, wherever
they stand, and not even an error changes. If two variables give the same field, no order gives a
configuration. -/
theorem ofVariables_in_any_order (pairs : List (String × String)) :
    (∀ pairs', pairs.Perm pairs' →
      ∀ c, ofVariables pairs' = .ok c ↔ ofVariables pairs = .ok c) ∧
    (∀ pairs', (pairs'.filter fun pair => IsOwn pair) = (pairs.filter fun pair => IsOwn pair) →
      ofVariables pairs' = ofVariables pairs) ∧
    ∀ p q rest f, pairs.Perm (p :: q :: rest) → fieldOf? p.1 = some f → fieldOf? q.1 = some f →
      ∃ e, ofVariables pairs = .error e := by
  refine ⟨?_, ?_, ?_⟩
  · intro pairs' hperm c
    rw [ofVariables_eq_ok_iff, ofVariables_eq_ok_iff]
    constructor
    · rintro ⟨d, hd, hc⟩
      exact ⟨d, hd.perm hperm.symm, hc⟩
    · rintro ⟨d, hd, hc⟩
      exact ⟨d, hd.perm hperm, hc⟩
  · intro pairs' hsame
    rw [← ofVariables_filter pairs', hsame, ofVariables_filter]
  · intro p q rest f hperm hp hq
    cases hresult : ofVariables pairs with
    | error e => exact ⟨e, rfl⟩
    | ok c =>
      obtain ⟨d, hd, -⟩ := ofVariables_eq_ok_iff.mp hresult
      have honce := (hd.perm hperm).once
      exact absurd hq ((List.pairwise_cons.mp honce).1 q List.mem_cons_self f hp)

/-- Backwards, and without the variable of another program, these give the same configuration; with
the suffix given once more, in other letters, they give none. -/
theorem ofVariables_backwards :
    let pairs : List (String × String) := [("STEPPER_STEP_DELAY", "0.5"),
      ("STEPPER_WARMUP_DELAY", "1"), ("STEPPER_POST_CRASH_LINES", "3"),
      ("STEPPER_WRONG_LINES", "4"), ("STEPPER_INPUT_DIR", "in"), ("STEPPER_OUTPUT_DIR", "out"),
      ("STEPPER_SUFFIX", "in"), ("STEPPER_COMMAND", ""), ("HOME", "/")]
    (∃ c, ofVariables pairs = .ok c ∧ ofVariables pairs.reverse = .ok c ∧
      ofVariables pairs.dropLast = .ok c) ∧
      ∃ e, ofVariables (("STEPPER_Suffix", "in") :: pairs) = .error e := by
  intro pairs
  have hok : ∃ c, ofVariables pairs = .ok c := by
    cases h : ofVariables pairs with
    | ok c => exact ⟨c, rfl⟩
    | error e =>
      have hisOk : (ofVariables pairs).isOk = true := by decide +kernel
      rw [h] at hisOk
      cases hisOk
  obtain ⟨horder, hother, -⟩ := ofVariables_in_any_order pairs
  obtain ⟨c, hc⟩ := hok
  refine ⟨⟨c, hc, (horder _ (List.reverse_perm _).symm c).mpr hc, ?_⟩, ?_⟩
  · rw [hother pairs.dropLast (by decide +kernel), hc]
  · obtain ⟨-, -, htwice⟩ := ofVariables_in_any_order (("STEPPER_Suffix", "in") :: pairs)
    exact htwice ("STEPPER_Suffix", "in") ("STEPPER_SUFFIX", "in")
      (pairs.erase ("STEPPER_SUFFIX", "in")) .suffix (by decide +kernel) (by decide +kernel)
      (by decide +kernel)

end Rehearsal.Config
