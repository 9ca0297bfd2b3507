import Mathlib.Logic.Function.Defs
import Rehearsal.Proofs.Lines

/-!
# Numbers in a text

A number is written with digits and nothing else (`notMem_toDigits`), and read off them. So a text
in which other characters come after the digits has one number there (`toDigits_append_inj`).
-/

namespace Rehearsal

theorem toDigits_injective : Function.Injective (Nat.toDigits 10) := by
  intro n n' h
  calc
    n = Nat.ofDigitChars 10 (Nat.toDigits 10 n) 0 := Nat.ofDigitChars_ten_toDigits.symm
    _ = Nat.ofDigitChars 10 (Nat.toDigits 10 n') 0 := by rw [h]
    _ = n' := Nat.ofDigitChars_ten_toDigits

theorem notMem_toDigits {c : Char} (h : c.isDigit = false) (n : Nat) :
    c ∉ Nat.toDigits 10 n := by
  intro hmem
  rw [Nat.isDigit_of_mem_toDigits (by decide) (by decide) hmem] at h
  cases h

/-- Digits are read as one number only, if something else comes after them. -/
theorem toDigits_append_inj {n n' : Nat} {c c' : Char} {rest rest' : List Char}
    (hc : c.isDigit = false) (hc' : c'.isDigit = false)
    (h : Nat.toDigits 10 n ++ c :: rest = Nat.toDigits 10 n' ++ c' :: rest') :
    n = n' ∧ c :: rest = c' :: rest' := by
  have hdigits : ∀ n : Nat, ∀ d ∈ Nat.toDigits 10 n, d.isDigit = true := fun n d hd =>
    Nat.isDigit_of_mem_toDigits (by decide) (by decide) hd
  have hends : ∀ {c : Char} {rest : List Char}, c.isDigit = false →
      ∀ d, [d] <+: c :: rest → ¬ d.isDigit = true := by
    intro c rest hc d hd
    rw [(List.cons_prefix_cons.mp hd).1, hc]
    exact Bool.false_ne_true
  obtain ⟨hn, hrest⟩ :=
    append_inj_of_front (hdigits n) (hends hc) (hdigits n') (hends hc') h
  exact ⟨toDigits_injective hn, hrest⟩

theorem toDigits_ne_cons {c : Char} (hc : c.isDigit = false) {n : Nat} {rest rest' : List Char} :
    Nat.toDigits 10 n ++ rest ≠ c :: rest' := by
  intro h
  cases hdigits : Nat.toDigits 10 n with
  | nil => exact Nat.toDigits_ne_nil hdigits
  | cons d ds =>
    rw [hdigits, List.cons_append] at h
    refine notMem_toDigits hc n ?_
    rw [hdigits, ← (List.cons.inj h).1]
    exact List.mem_cons_self

end Rehearsal
