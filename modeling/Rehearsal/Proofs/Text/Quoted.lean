import Mathlib.Data.List.Basic
import Rehearsal.Proofs.Lines
import Rehearsal.Proofs.Text.Utf8
import Rehearsal.Text.Quoted

/-!
# Quoted texts can be told apart

A character stands between the quotes in one of three ways (`Stands`): as itself, as a letter
after a backslash, or as its number. Which it is, and where it ends, can be read off what stands
there (`Stands.unique`), so different texts are quoted differently (`encode_injective`). Of byte
strings this holds where they are text (`quoteBytes_injective`): malformed bytes are all shown
alike.

No line break is left as it is, so a quoted text followed by one is a single line
(`isLine_quoteBytes`).
-/

namespace Rehearsal.Quoted

/-! ### Numbers in hexadecimal digits -/

theorem digitChar_injective {n m : Nat} (hn : n < 16) (hm : m < 16)
    (h : n.digitChar = m.digitChar) : n = m := by
  have hall : ∀ n < 16, ∀ m < 16, n.digitChar = m.digitChar → n = m := by decide
  exact hall n hn m hm h

/-- The last digit, and those before it. -/
theorem hexDigits_eq (n : Nat) :
    hexDigits n =
      (if n < 16 then [] else hexDigits (n / 16)) ++ [(n % 16).digitChar] := by
  rw [hexDigits, Nat.toDigits_eq_if (by decide)]
  split
  · next h => rw [Nat.mod_eq_of_lt h, List.nil_append]
  · rfl

theorem hexDigits_ne_nil (n : Nat) : hexDigits n ≠ [] := Nat.toDigits_ne_nil

theorem hexDigits_injective {n m : Nat} (h : hexDigits n = hexDigits m) : n = m := by
  induction n using Nat.strongRecOn generalizing m with
  | ind n ih =>
    rw [hexDigits_eq n, hexDigits_eq m] at h
    obtain ⟨hfront, hlast⟩ := List.append_inj' h rfl
    have hmod : n % 16 = m % 16 :=
      digitChar_injective (Nat.mod_lt _ (by decide)) (Nat.mod_lt _ (by decide))
        (List.singleton_inj.mp hlast)
    split at hfront
    · split at hfront
      · omega
      · exact absurd hfront.symm (hexDigits_ne_nil _)
    · split at hfront
      · exact absurd hfront (hexDigits_ne_nil _)
      · have hdiv : n / 16 = m / 16 := ih (n / 16) (by omega) hfront
        omega

theorem exists_of_mem_hexDigits {d : Char} {n : Nat} (h : d ∈ hexDigits n) :
    ∃ k < 16, d = k.digitChar := by
  induction n using Nat.strongRecOn with
  | ind n ih =>
    rw [hexDigits_eq, List.mem_append, List.mem_singleton] at h
    rcases h with hfront | hlast
    · split at hfront
      · cases hfront
      · exact ih (n / 16) (by omega) hfront
    · exact ⟨n % 16, Nat.mod_lt _ (by decide), hlast⟩

theorem notMem_hexDigits {d : Char} (hd : ∀ k < 16, d ≠ k.digitChar) (n : Nat) :
    d ∉ hexDigits n := by
  intro h
  obtain ⟨k, hk, rfl⟩ := exists_of_mem_hexDigits h
  exact hd k hk rfl

/-! ### One character -/

/-- The characters that are written as a letter after a backslash, with their letters. -/
def letters : List (Char × Char) :=
  [('"', '"'), ('\\', '\\'), ('\n', 'n'), ('\r', 'r'), ('\t', 't'), (Char.ofNat 0, '0')]

/-- What can stand between the quotes for a character. -/
inductive Stands (c : Char) : List Char → Prop
  | plain (hquote : c ≠ '"') (hbackslash : c ≠ '\\') (hnewline : c ≠ '\n') : Stands c [c]
  | letter {l : Char} (h : (c, l) ∈ letters) : Stands c ['\\', l]
  | number : Stands c (['\\', 'u', '\x7b'] ++ hexDigits c.toNat ++ ['\x7d'])

theorem stands_escape (c : Char) : Stands c (escape c) := by
  unfold escape
  -- The letters come in the order of the table.
  iterate 6
    split
    · next h => exact .letter (by rw [h]; decide)
  split
  · exact .number
  · exact .plain ‹_› ‹_› ‹_›

theorem letter_unique {c d l : Char} (hc : (c, l) ∈ letters) (hd : (d, l) ∈ letters) : c = d := by
  have hall : ∀ p ∈ letters, ∀ q ∈ letters, p.2 = q.2 → p.1 = q.1 := by decide
  exact hall (c, l) hc (d, l) hd rfl

theorem letter_ne_u {c l : Char} (h : (c, l) ∈ letters) : l ≠ 'u' := by
  have hall : ∀ p ∈ letters, p.2 ≠ 'u' := by decide
  exact hall (c, l) h

/-- What stands there says which character it is, and where it ends. -/
theorem Stands.unique {c d : Char} {text text' rest rest' : List Char} (h : Stands c text)
    (h' : Stands d text') (heq : text ++ rest = text' ++ rest') : c = d ∧ rest = rest' := by
  cases h with
  | plain hquote hbackslash hnewline =>
    cases h' with
    | plain => exact ⟨(List.cons.inj heq).1, (List.cons.inj heq).2⟩
    | letter => exact absurd (List.cons.inj heq).1 hbackslash
    | number => exact absurd (List.cons.inj heq).1 hbackslash
  | letter hl =>
    cases h' with
    | plain hquote hbackslash hnewline => exact absurd (List.cons.inj heq).1.symm hbackslash
    | letter hl' =>
      obtain ⟨-, hletter⟩ := List.cons.inj heq
      obtain ⟨rfl, hrest⟩ := List.cons.inj hletter
      exact ⟨letter_unique hl hl', hrest⟩
    | number =>
      obtain ⟨-, hletter⟩ := List.cons.inj heq
      exact absurd (List.cons.inj hletter).1 (letter_ne_u hl)
  | number =>
    cases h' with
    | plain hquote hbackslash hnewline => exact absurd (List.cons.inj heq).1.symm hbackslash
    | letter hl =>
      obtain ⟨-, hletter⟩ := List.cons.inj heq
      exact absurd (List.cons.inj hletter).1.symm (letter_ne_u hl)
    | number =>
      simp only [List.append_assoc, List.append_right_inj, List.singleton_append] at heq
      have hbrace : ∀ n, ∀ x ∈ hexDigits n, x ≠ '\x7d' := by
        intro n x hx hclosing
        exact notMem_hexDigits (by decide) n (hclosing ▸ hx)
      obtain ⟨hdigits, hclosing⟩ :=
        append_inj_of_front (hbrace _) (by simp) (hbrace _) (by simp) heq
      exact ⟨Char.toNat_inj.mp (hexDigits_injective hdigits), (List.cons.inj hclosing).2⟩

theorem Stands.ne_nil {c : Char} {text : List Char} (h : Stands c text) : text ≠ [] := by
  cases h <;> exact List.cons_ne_nil _ _

/-- A line break never stands as itself. -/
theorem Stands.newline_notMem {c : Char} {text : List Char} (h : Stands c text) : '\n' ∉ text := by
  cases h with
  | plain hquote hbackslash hnewline =>
    rw [List.mem_singleton]
    exact Ne.symm hnewline
  | @letter l hl =>
    have hall : ∀ p ∈ letters, p.2 ≠ '\n' := by decide
    have hne : l ≠ '\n' := hall (c, l) hl
    simp [Ne.symm hne]
  | number =>
    have hdigits : '\n' ∉ hexDigits c.toNat := notMem_hexDigits (by decide) _
    simp [hdigits]

/-! ### Texts -/

/-- **Different texts are written differently.** -/
theorem encode_injective {cs ds : List Char} (h : encode cs = encode ds) : cs = ds := by
  induction cs generalizing ds with
  | nil =>
    cases ds with
    | nil => rfl
    | cons d ds =>
      have hnil : escape d ++ encode ds = [] := h.symm
      exact absurd (List.append_eq_nil_iff.mp hnil).1 (stands_escape d).ne_nil
  | cons c cs ih =>
    cases ds with
    | nil =>
      have hnil : escape c ++ encode cs = [] := h
      exact absurd (List.append_eq_nil_iff.mp hnil).1 (stands_escape c).ne_nil
    | cons d ds =>
      obtain ⟨rfl, hrest⟩ := (stands_escape c).unique (stands_escape d) h
      rw [ih hrest]

theorem quote_injective {cs ds : List Char} (h : quote cs = quote ds) : cs = ds := by
  obtain ⟨-, htail⟩ := List.cons.inj h
  exact encode_injective (List.append_left_injective _ htail)

theorem newline_notMem_quote (cs : List Char) : '\n' ∉ quote cs := by
  have hencode : '\n' ∉ encode cs := by
    intro hmem
    obtain ⟨c, -, hc⟩ := List.mem_flatMap.mp hmem
    exact (stands_escape c).newline_notMem hc
  simp [quote, hencode]

end Rehearsal.Quoted

namespace Rehearsal

/-- Byte strings that are text are quoted differently unless they are the same. -/
theorem quoteBytes_injective {cs ds : List Char}
    (h : quoteBytes (Bytes.ofChars cs) = quoteBytes (Bytes.ofChars ds)) : cs = ds := by
  rw [quoteBytes, quoteBytes, String.ofList_inj] at h
  have htext := Quoted.quote_injective h
  rw [Utf8.decodeLossy_ofChars, Utf8.decodeLossy_ofChars] at htext
  exact htext

/-- A text without a line break and one after it are a line. -/
theorem isLine_ofString {text : String} (h : '\n' ∉ text.toList) :
    Bytes.IsLine (Bytes.ofString (text ++ "\n")) := by
  refine ⟨Bytes.ofString text, Utf8.newline_notMem_ofChars h, ?_⟩
  rw [Bytes.ofString, String.toList_append, Bytes.ofChars_append]
  rfl

/-- A quoted byte string takes up one line. -/
theorem isLine_quoteBytes (b : Bytes) : Bytes.IsLine (Bytes.ofString (quoteBytes b ++ "\n")) := by
  apply isLine_ofString
  rw [quoteBytes, String.toList_ofList]
  exact Quoted.newline_notMem_quote _

end Rehearsal
