import Rehearsal.Config
import Rehearsal.Proofs.Except
import Rehearsal.Proofs.Number.Binary64
import Rehearsal.Proofs.Number.Rounding

/-!
# Seconds as durations

A double stands for a length of time if it stands for a number that is not negative and below
`2 ^ 64` (`Binary64.IsSeconds`). Those are the doubles that are converted, each to the whole number
of nanoseconds that is nearest to what it stands for, a tie going to the even one
(`Duration.ofSeconds_eq_ok_iff`). As there is one such number, this settles everything else: the
order is kept, whole nanoseconds are kept, and a configuration is refused for its times if one of
them is no length of time. `Config.duration_is_nearest` is the main statement.
-/

namespace Rehearsal

/-- A double that stands for a length of time. -/
structure Binary64.IsSeconds (x : Binary64) : Prop where
  not_nan : ¬ x.IsNaN
  not_infinite : ¬ x.IsInfinite
  nonneg : 0 ≤ x.value
  lt : x.value < 2 ^ 64

namespace Binary64

variable {x : Binary64}

theorem not_isSeconds_iff :
    ¬ x.IsSeconds ↔ x.IsNaN ∨ x.IsInfinite ∨ x.value < 0 ∨ 2 ^ 64 ≤ x.value := by
  constructor
  · intro h
    by_contra hnone
    simp only [not_or, not_lt, not_le] at hnone
    exact h ⟨hnone.1, hnone.2.1, hnone.2.2.1, hnone.2.2.2⟩
  · rintro (hnan | hinfinite | hneg | hlarge) h
    · exact h.not_nan hnan
    · exact h.not_infinite hinfinite
    · exact absurd h.nonneg (not_le.mpr hneg)
    · exact absurd h.lt (not_lt.mpr hlarge)

theorem isSeconds_iff_of_view {negative : Bool} {mantissa : Nat} {exponent : Int}
    (h : x.view = .finite negative mantissa exponent) :
    x.IsSeconds ↔ ¬ x.value < 0 ∧ x.value < 2 ^ 64 := by
  constructor
  · intro hx
    exact ⟨not_lt.mpr hx.nonneg, hx.lt⟩
  · rintro ⟨hnonneg, hlt⟩
    refine ⟨fun hnan => ?_, fun hinfinite => ?_, not_lt.mp hnonneg, hlt⟩
    · rw [view_nan_iff.mpr hnan] at h
      cases h
    · rw [view_infinite_iff.mpr ⟨hinfinite, rfl⟩] at h
      cases h

theorem IsSeconds.exists_view (h : x.IsSeconds) :
    ∃ negative mantissa exponent, x.view = .finite negative mantissa exponent := by
  cases hview : x.view with
  | nan => exact absurd (view_nan_iff.mp hview) h.not_nan
  | infinite negative => exact absurd (view_infinite_iff.mp hview).1 h.not_infinite
  | finite negative mantissa exponent => exact ⟨negative, mantissa, exponent, rfl⟩

/-- No length of time lies above the last whole second: doubles that large are whole numbers. -/
theorem IsSeconds.value_le (h : x.IsSeconds) : x.value ≤ (2 ^ 64 - 1 : Nat) := by
  obtain ⟨negative, mantissa, exponent, hview⟩ := h.exists_view
  obtain ⟨hmantissa, -⟩ := magnitude_of_view hview
  have hvalue := value_of_not_neg hview (not_lt.mpr h.nonneg)
  have hlt := h.lt
  rw [hvalue] at hlt ⊢
  rcases le_or_gt 0 exponent with hwhole | hfraction
  · obtain ⟨n, rfl⟩ := Int.eq_ofNat_of_zero_le hwhole
    rw [zpow_natCast] at hlt ⊢
    norm_cast at hlt ⊢
    omega
  · have hpower : (2 : ℚ) ^ exponent ≤ 1 := zpow_le_one_of_nonpos₀ one_le_two hfraction.le
    calc
      (mantissa : ℚ) * 2 ^ exponent ≤ mantissa := mul_le_of_le_one_right (Nat.cast_nonneg _) hpower
      _ ≤ (2 ^ 64 - 1 : Nat) := by
        norm_cast
        omega

end Binary64

namespace Duration

variable {x y : Binary64} {d d' : Duration}

/-- **A length of time becomes the nearest whole number of nanoseconds**, and nothing else becomes a
duration. -/
theorem ofSeconds_eq_ok_iff :
    ofSeconds x = .ok d ↔ x.IsSeconds ∧ IsNearest d.nanoseconds (x.value * nanosPerSecond) := by
  rw [ofSeconds]
  cases hview : x.view with
  | nan => exact iff_of_false nofun fun h => h.1.not_nan (Binary64.view_nan_iff.mp hview)
  | infinite negative =>
    exact iff_of_false nofun fun h => h.1.not_infinite (Binary64.view_infinite_iff.mp hview).1
  | finite negative mantissa exponent =>
    rw [Binary64.isSeconds_iff_of_view hview]
    have hneg : (negative && mantissa != 0) = true ↔ x.value < 0 := by
      rw [Binary64.value_neg_iff hview, Bool.and_eq_true, bne_iff_ne]
    simp only [hneg]
    split
    · next hbelow => exact iff_of_false nofun fun h => h.1.1 hbelow
    · next hnonneg =>
      obtain ⟨hden, hratio⟩ := Binary64.ratio_spec mantissa exponent
      rw [← Binary64.value_of_not_neg hview hnonneg] at hratio
      generalize (Binary64.ratio mantissa exponent).1 = num at hratio ⊢
      generalize (Binary64.ratio mantissa exponent).2 = den at hden hratio ⊢
      have hlarge : Nat.pow 2 64 * den ≤ num ↔ ¬ x.value < 2 ^ 64 := by
        have hpos : (0 : ℚ) < den := by exact_mod_cast hden
        rw [← hratio, not_lt, le_div_iff₀ hpos]
        norm_cast
      have hnearest : IsNearest (roundHalfEven (num * nanosPerSecond) den)
          (x.value * nanosPerSecond) := by
        rw [← hratio, div_mul_eq_mul_div]
        exact_mod_cast isNearest_roundHalfEven (num * nanosPerSecond) hden
      simp only [hlarge]
      split
      · next hlarge => exact iff_of_false nofun fun h => hlarge h.1.2
      · next hsmall =>
        constructor
        · rintro ⟨⟩
          exact ⟨⟨hnonneg, not_not.mp hsmall⟩, hnearest⟩
        · rintro ⟨-, h⟩
          rw [hnearest.unique h]

/-- Every duration within the range has its seconds and its nanoseconds. -/
theorem exists_ofParts (h : d.nanoseconds ≤ (2 ^ 64 - 1) * nanosPerSecond) :
    ∃ secs nanos, d = .ofParts secs nanos ∧ secs < 2 ^ 64 ∧ nanos < nanosPerSecond := by
  have hpos : 0 < nanosPerSecond := by decide
  refine ⟨d.wholeSeconds, d.subsecondNanos, ?_, ?_, Nat.mod_lt _ hpos⟩
  · rw [ofParts, wholeSeconds, subsecondNanos, Nat.div_add_mod']
  · have hdiv : d.wholeSeconds ≤ 2 ^ 64 - 1 := Nat.div_le_of_le_mul (by rwa [Nat.mul_comm])
    omega

end Duration

namespace Config

open Duration (nanosPerSecond)

variable {key key' : String} {x y : Binary64} {d d' : Duration}

theorem duration_eq_ok_iff :
    duration key x = .ok d ↔ x.IsSeconds ∧ IsNearest d.nanoseconds (x.value * nanosPerSecond) := by
  rw [duration, mapError_eq_ok_iff, Duration.ofSeconds_eq_ok_iff]

/-- A length of time has a duration. -/
theorem exists_duration_eq_ok_iff (key : String) (x : Binary64) :
    (∃ d, duration key x = .ok d) ↔ x.IsSeconds := by
  constructor
  · rintro ⟨d, hd⟩
    exact (duration_eq_ok_iff.mp hd).1
  · intro h
    obtain ⟨n, hn⟩ := IsNearest.exists (mul_nonneg h.nonneg (Nat.cast_nonneg nanosPerSecond))
    exact ⟨⟨n⟩, duration_eq_ok_iff.mpr ⟨h, hn⟩⟩

theorem exists_duration_eq_error_iff (key : String) (x : Binary64) :
    (∃ e, duration key x = .error e) ↔ ¬ x.IsSeconds := by
  rw [← exists_duration_eq_ok_iff key x]
  cases duration key x <;> simp

theorem exists_timing_eq_ok_iff {c : Config} :
    (∃ t, c.timing = .ok t) ↔ c.stepDelay.IsSeconds ∧ c.warmupDelay.IsSeconds := by
  rw [← exists_duration_eq_ok_iff "step_delay", ← exists_duration_eq_ok_iff "warmup_delay", timing]
  simp only [bind_eq_ok_iff]
  constructor
  · rintro ⟨t, step, hstep, warmup, hwarmup, -⟩
    exact ⟨⟨step, hstep⟩, ⟨warmup, hwarmup⟩⟩
  · rintro ⟨⟨step, hstep⟩, ⟨warmup, hwarmup⟩⟩
    exact ⟨_, step, hstep, warmup, hwarmup, rfl⟩

theorem exists_timeLimitDuration_eq_ok_iff {c : Config} :
    (∃ t, c.timeLimitDuration = .ok t) ↔ ∀ t, c.timeLimit = some t → t.IsSeconds := by
  rw [timeLimitDuration]
  cases c.timeLimit with
  | none => simp
  | some seconds =>
    simp only [Option.some.injEq, forall_eq', ← exists_duration_eq_ok_iff "time_limit" seconds]
    cases duration "time_limit" seconds with
    | error e => exact iff_of_false nofun nofun
    | ok d => exact iff_of_true ⟨some d, rfl⟩ ⟨d, rfl⟩

theorem checkLimits_eq_ok_iff {l : Limits} : checkLimits l = .ok () ↔ l.isValid = true := by
  rw [checkLimits]
  split
  · next hvalid => exact iff_of_true rfl hvalid
  · next hinvalid => exact iff_of_false nofun hinvalid

/-- A configuration can be run if none of its checks fails. -/
theorem validate_eq_ok_iff {c : Config} :
    c.validate = .ok () ↔
      c.command ≠ [] ∧ c.suffix ≠ "" ∧ c.limits.isValid = true ∧
        c.stepDelay.IsSeconds ∧ c.warmupDelay.IsSeconds ∧
          ∀ t, c.timeLimit = some t → t.IsSeconds := by
  rw [validate]
  simp only [check_eq_ok_iff, bind_unit_eq_ok_iff, discard_eq_ok_iff, checkLimits_eq_ok_iff,
    exists_timing_eq_ok_iff, exists_timeLimitDuration_eq_ok_iff, and_assoc]
  simp [List.isEmpty_eq_false_iff]

/-- **Seconds become durations exactly, and in order.** A number of seconds is refused if it is no
number, infinite, below zero or `2 ^ 64` and more, and becomes the nearest number of nanoseconds
otherwise, a tie going to the even one; what is rounded up to a second is one. So a greater number
gives no shorter duration, and whole nanoseconds are kept. The times of a configuration are checked
for this and nothing else. -/
theorem duration_is_nearest (key : String) (x : Binary64) :
    ((∃ e, duration key x = .error e) ↔
      x.IsNaN ∨ x.IsInfinite ∨ x.value < 0 ∨ 2 ^ 64 ≤ x.value) ∧
    (∀ d, duration key x = .ok d →
      IsNearest d.nanoseconds (x.value * 10 ^ 9) ∧
        ∃ secs nanos, d = .ofParts secs nanos ∧ secs < 2 ^ 64 ∧ nanos < 10 ^ 9) ∧
    (∀ key' y d d', duration key x = .ok d → duration key' y = .ok d' → x.value ≤ y.value →
      d.nanoseconds ≤ d'.nanoseconds) ∧
    (∀ n : Nat, x.IsSeconds → x.value * 10 ^ 9 = n → duration key x = .ok ⟨n⟩) ∧
    ∀ c : Config, c.validate = .ok () ↔
      c.command ≠ [] ∧ c.suffix ≠ "" ∧ c.limits.isValid = true ∧ c.stepDelay.IsSeconds ∧
        c.warmupDelay.IsSeconds ∧ ∀ t, c.timeLimit = some t → t.IsSeconds := by
  have hunit : (nanosPerSecond : ℚ) = 10 ^ 9 := by
    rw [nanosPerSecond]
    norm_num
  have hok : ∀ {key x d}, duration key x = .ok d → x.IsSeconds ∧
      IsNearest d.nanoseconds (x.value * 10 ^ 9) := by
    intro key x d h
    rw [← hunit]
    exact duration_eq_ok_iff.mp h
  refine ⟨?_, ?_, ?_, ?_, fun c => validate_eq_ok_iff⟩
  · rw [exists_duration_eq_error_iff, Binary64.not_isSeconds_iff]
  · intro d hd
    obtain ⟨hseconds, hnearest⟩ := hok hd
    refine ⟨hnearest, Duration.exists_ofParts ?_⟩
    -- The last whole second is kept, and nothing comes after it.
    apply hnearest.mono (.natCast _)
    rw [Nat.cast_mul, hunit]
    exact mul_le_mul_of_nonneg_right hseconds.value_le (by positivity)
  · intro key' y d d' hd hd' hle
    exact (hok hd).2.mono (hok hd').2 (mul_le_mul_of_nonneg_right hle (by positivity))
  · intro n hseconds hn
    refine duration_eq_ok_iff.mpr ⟨hseconds, ?_⟩
    rw [hunit, hn]
    exact .natCast n

/-- One and three parts of a second in 1024 lie in the middle between two nanoseconds; one is
rounded down, the other up. Negative zero is zero. -/
theorem duration_of_halves :
    let x : Binary64 := ⟨0x3F50000000000000⟩
    let y : Binary64 := ⟨0x3F68000000000000⟩
    let zero : Binary64 := ⟨0x8000000000000000⟩
    (x.value * 10 ^ 9 = 976562 + 1 / 2 ∧ IsNearest 976562 (x.value * 10 ^ 9)) ∧
      (y.value * 10 ^ 9 = 2929687 + 1 / 2 ∧ IsNearest 2929688 (y.value * 10 ^ 9)) ∧
      (976562 ≤ 2929688) ∧ zero.value * 10 ^ 9 = 0 ∧ duration "step_delay" zero = .ok ⟨0⟩ := by
  intro x y zero
  have hx : duration "step_delay" x = .ok ⟨976562⟩ := by decide +kernel
  have hy : duration "warmup_delay" y = .ok ⟨2929688⟩ := by decide +kernel
  have hxy : x.value ≤ y.value := by decide +kernel
  have hzero : zero.value * 10 ^ 9 = (0 : Nat) := by decide +kernel
  obtain ⟨-, hxNearest, hmono, -, -⟩ := duration_is_nearest "step_delay" x
  obtain ⟨-, hyNearest, -, -, -⟩ := duration_is_nearest "warmup_delay" y
  obtain ⟨-, -, -, hkept, -⟩ := duration_is_nearest "step_delay" zero
  have hseconds : zero.IsSeconds := (exists_duration_eq_ok_iff "k" zero).mp ⟨⟨0⟩, by decide +kernel⟩
  exact ⟨⟨by decide +kernel, (hxNearest _ hx).1⟩, ⟨by decide +kernel, (hyNearest _ hy).1⟩,
    hmono _ _ _ _ hx hy hxy, hzero, hkept 0 hseconds hzero⟩

end Config

end Rehearsal
