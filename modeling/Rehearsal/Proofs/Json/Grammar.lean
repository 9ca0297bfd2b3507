import Mathlib.Tactic.Common
import Rehearsal.Json
import Rehearsal.Number.Literal

/-!
# The grammar of JSON

What a text says is defined without a reader. `Value text v rest` says that `text` begins with a
value, `v`, and that `rest` comes after it; a document is a value with nothing but blanks around it
(`Document`). The rules are those of the JSON standard: a string may be written with any of its
escapes, a number with or without a fraction and an exponent, and blanks may stand between all
tokens. A number goes as far as its characters do.

A text says one thing at most (`Document.unique`). The rules are told apart by their first
characters, and what a rule leaves for the next one is the same each time, so this is an induction
on the rules with a lemma for each kind of token.
-/

namespace Rehearsal.Json.Grammar

/-! ### Blanks -/

def blank (c : Char) : Bool := c = ' ' || c = '\t' || c = '\n' || c = '\r'

/-- A text after the blanks with which it begins. -/
def skipBlanks (text : List Char) : List Char := text.dropWhile blank

theorem skipBlanks_cons {c : Char} (h : blank c = true) (text : List Char) :
    skipBlanks (c :: text) = skipBlanks text := List.dropWhile_cons_of_pos h

theorem skipBlanks_of_not_blank {c : Char} (h : blank c = false) (text : List Char) :
    skipBlanks (c :: text) = c :: text := List.dropWhile_cons_of_neg (by simp [h])

/-! ### Strings -/

/-- The letters that may follow a backslash, and what they stand for. -/
def letters : List (Char × Char) :=
  [('"', '"'), ('\\', '\\'), ('/', '/'), ('b', '\x08'), ('f', '\x0c'), ('n', '\n'), ('r', '\r'),
    ('t', '\t')]

/-- The value of a hexadecimal digit. -/
def hexDigit? (c : Char) : Option Nat :=
  if '0' ≤ c ∧ c ≤ '9' then some (c.toNat - '0'.toNat)
  else if 'a' ≤ c ∧ c ≤ 'f' then some (c.toNat - 'a'.toNat + 10)
  else if 'A' ≤ c ∧ c ≤ 'F' then some (c.toNat - 'A'.toNat + 10)
  else none

/-- The value of four hexadecimal digits. -/
def codeUnit? (a b c d : Char) : Option Nat := do
  return (((← hexDigit? a) * 16 + (← hexDigit? b)) * 16 + (← hexDigit? c)) * 16 + (← hexDigit? d)

/-- What stands between two quotes, up to and with the second one, and the characters it is read
as. A character beyond the first 65536 may be written as two surrogates. -/
inductive Body : List Char → List Char → List Char → Prop
  | close {rest : List Char} : Body ('"' :: rest) [] rest
  | plain {c : Char} {text cs rest : List Char} (hquote : c ≠ '"') (hbackslash : c ≠ '\\')
      (hcontrol : 0x20 ≤ c.toNat) (h : Body text cs rest) : Body (c :: text) (c :: cs) rest
  | letter {l c : Char} {text cs rest : List Char} (hl : (l, c) ∈ letters)
      (h : Body text cs rest) : Body ('\\' :: l :: text) (c :: cs) rest
  | unit {p q r s c : Char} {text cs rest : List Char} (hc : codeUnit? p q r s = some c.toNat)
      (h : Body text cs rest) : Body ('\\' :: 'u' :: p :: q :: r :: s :: text) (c :: cs) rest
  | pair {p q r s p' q' r' s' c : Char} {high low : Nat} {text cs rest : List Char}
      (hhigh : high < 0x400) (hlow : low < 0x400) (hunit : codeUnit? p q r s = some (0xD800 + high))
      (hunit' : codeUnit? p' q' r' s' = some (0xDC00 + low))
      (hc : c.toNat = 0x10000 + high * 0x400 + low) (h : Body text cs rest) :
      Body ('\\' :: 'u' :: p :: q :: r :: s :: '\\' :: 'u' :: p' :: q' :: r' :: s' :: text)
        (c :: cs) rest

theorem letter_unique {l c d : Char} (hc : (l, c) ∈ letters) (hd : (l, d) ∈ letters) : c = d := by
  have hall : ∀ p ∈ letters, ∀ q ∈ letters, p.1 = q.1 → p.2 = q.2 := by decide
  exact hall (l, c) hc (l, d) hd rfl

theorem letter_ne_u {c : Char} : ('u', c) ∉ letters := by
  intro h
  have hall : ∀ p ∈ letters, p.1 ≠ 'u' := by decide
  exact hall ('u', c) h rfl

/-- A surrogate is not the number of a character. -/
theorem toNat_ne_surrogate (c : Char) {offset : Nat} (h : offset < 0x800) :
    c.toNat ≠ 0xD800 + offset := by
  have hvalid := c.valid
  simp only [UInt32.isValidChar, Nat.isValidChar] at hvalid
  show c.val.toNat ≠ _
  omega

theorem Body.unique {text cs cs' rest rest' : List Char} (h : Body text cs rest)
    (h' : Body text cs' rest') : cs = cs' ∧ rest = rest' := by
  induction h generalizing cs' with
  | close =>
    cases h' with
    | close => exact ⟨rfl, rfl⟩
    | plain hquote => exact absurd rfl hquote
  | plain hquote hbackslash hcontrol h ih =>
    cases h' with
    | close => exact absurd rfl hquote
    | plain _ _ _ h' =>
      obtain ⟨rfl, rfl⟩ := ih h'
      exact ⟨rfl, rfl⟩
    | letter | unit | pair => exact absurd rfl hbackslash
  | letter hl h ih =>
    cases h' with
    | plain _ hbackslash => exact absurd rfl hbackslash
    | letter hl' h' =>
      obtain ⟨rfl, rfl⟩ := ih h'
      exact ⟨by rw [letter_unique hl hl'], rfl⟩
    | unit | pair => exact absurd hl letter_ne_u
  | unit hc h ih =>
    cases h' with
    | plain _ hbackslash => exact absurd rfl hbackslash
    | letter hl' => exact absurd hl' letter_ne_u
    | unit hc' h' =>
      obtain ⟨rfl, rfl⟩ := ih h'
      rw [hc, Option.some_inj, Char.toNat_inj] at hc'
      exact ⟨by rw [hc'], rfl⟩
    | pair hhigh' _ hunit' =>
      rw [hc, Option.some_inj] at hunit'
      exact absurd hunit' (toNat_ne_surrogate _ (by omega))
  | pair hhigh hlow hunit hunit₂ hc h ih =>
    cases h' with
    | plain _ hbackslash => exact absurd rfl hbackslash
    | letter hl' => exact absurd hl' letter_ne_u
    | unit hc' =>
      rw [hunit, Option.some_inj] at hc'
      exact absurd hc'.symm (toNat_ne_surrogate _ (by omega))
    | pair hhigh' hlow' hunit' hunit₂' hc' h' =>
      obtain ⟨rfl, rfl⟩ := ih h'
      rw [hunit, Option.some_inj] at hunit'
      rw [hunit₂, Option.some_inj] at hunit₂'
      refine ⟨congrArg (· :: _) (Char.toNat_inj.mp ?_), rfl⟩
      omega

/-! ### Numbers -/

/-- The fraction of a number, if it has one: a point and at least one digit. -/
inductive Fraction : List Char → Option (List Char) → List Char → Prop
  | absent {rest : List Char} (h : rest.head? ≠ some '.') : Fraction rest none rest
  | present {text : List Char} (h : text.takeWhile Char.isDigit ≠ []) :
      Fraction ('.' :: text) (some (text.takeWhile Char.isDigit)) (text.dropWhile Char.isDigit)

/-- Is there a minus? And what comes after the sign, if there is one. -/
def readSign : List Char → Bool × List Char
  | '-' :: text => (true, text)
  | '+' :: text => (false, text)
  | text => (false, text)

/-- The exponent of a number, if it has one: an `e`, perhaps a sign, and at least one digit. -/
inductive Exponent : List Char → Option Int → List Char → Prop
  | absent {rest : List Char} (h : rest.head? ≠ some 'e') (h' : rest.head? ≠ some 'E') :
      Exponent rest none rest
  | present {e : Char} {text digits : List Char} {negative : Bool} (he : e = 'e' ∨ e = 'E')
      (hsign : readSign text = (negative, digits)) (h : digits.takeWhile Char.isDigit ≠ []) :
      Exponent (e :: text)
        (some (if negative then -(digitsValue (digits.takeWhile Char.isDigit) : Int)
          else digitsValue (digits.takeWhile Char.isDigit)))
        (digits.dropWhile Char.isDigit)

/-- The digits before the point: a zero, or digits that do not begin with one. -/
def IsWhole (digits : List Char) : Prop :=
  digits = ['0'] ∨ digits ≠ [] ∧ digits.head? ≠ some '0'

/-- The value of a number: a whole number, or the nearest double if there is a point or an
exponent. -/
def numberValue (negative : Bool) (whole : List Char) (fraction : Option (List Char))
    (exponent : Option Int) : Json :=
  match fraction, exponent with
  | none, none =>
    .integer (if negative then -(digitsValue whole : Int) else digitsValue whole)
  | _, _ =>
    let places := fraction.getD []
    .decimal (.ofDecimal negative (digitsValue (whole ++ places))
      (exponent.getD 0 - places.length))

/-- A number without its sign. -/
inductive Unsigned (negative : Bool) : List Char → Json → List Char → Prop
  | mk {text exponentText rest : List Char} {fraction : Option (List Char)}
      {exponent : Option Int} (hwhole : IsWhole (text.takeWhile Char.isDigit))
      (hfraction : Fraction (text.dropWhile Char.isDigit) fraction exponentText)
      (hexponent : Exponent exponentText exponent rest) :
      Unsigned negative text (numberValue negative (text.takeWhile Char.isDigit) fraction exponent)
        rest

/-- A number, perhaps with a minus. -/
inductive Number : List Char → Json → List Char → Prop
  | plain {text rest : List Char} {v : Json} (h : Unsigned false text v rest) : Number text v rest
  | minus {text rest : List Char} {v : Json} (h : Unsigned true text v rest) :
      Number ('-' :: text) v rest

theorem Fraction.unique {text rest rest' : List Char} {f f' : Option (List Char)}
    (h : Fraction text f rest) (h' : Fraction text f' rest') : f = f' ∧ rest = rest' := by
  cases h with
  | absent hno =>
    cases h' with
    | absent => exact ⟨rfl, rfl⟩
    | present => exact absurd rfl hno
  | present hdigits =>
    cases h' with
    | absent hno => exact absurd rfl hno
    | present => exact ⟨rfl, rfl⟩

theorem Exponent.unique {text rest rest' : List Char} {e e' : Option Int}
    (h : Exponent text e rest) (h' : Exponent text e' rest') : e = e' ∧ rest = rest' := by
  cases h with
  | absent hno hno' =>
    cases h' with
    | absent => exact ⟨rfl, rfl⟩
    | present he =>
      rcases he with rfl | rfl
      · exact absurd rfl hno
      · exact absurd rfl hno'
  | present he hsign hdigits =>
    cases h' with
    | absent hno hno' =>
      rcases he with rfl | rfl
      · exact absurd rfl hno
      · exact absurd rfl hno'
    | present _ hsign' =>
      rw [hsign] at hsign'
      cases hsign'
      exact ⟨rfl, rfl⟩

theorem Unsigned.unique {negative : Bool} {text rest rest' : List Char} {v v' : Json}
    (h : Unsigned negative text v rest) (h' : Unsigned negative text v' rest') :
    v = v' ∧ rest = rest' := by
  obtain ⟨hwhole, hfraction, hexponent⟩ := h
  obtain ⟨hwhole', hfraction', hexponent'⟩ := h'
  obtain ⟨rfl, rfl⟩ := hfraction.unique hfraction'
  obtain ⟨rfl, rfl⟩ := hexponent.unique hexponent'
  exact ⟨rfl, rfl⟩

/-- Without a sign a number begins with a digit. -/
theorem Unsigned.head {negative : Bool} {text rest : List Char} {v : Json}
    (h : Unsigned negative text v rest) : ∃ c more, text = c :: more ∧ c.isDigit = true := by
  obtain ⟨hwhole, -, -⟩ := h
  have hne : text.takeWhile Char.isDigit ≠ [] := by
    rcases hwhole with hzero | ⟨hne, -⟩
    · simp [hzero]
    · exact hne
  cases text with
  | nil => exact absurd rfl hne
  | cons c more =>
    refine ⟨c, more, rfl, ?_⟩
    by_contra hc
    exact hne (List.takeWhile_cons_of_neg hc)

/-- A number begins with a digit or a minus. -/
theorem Number.head {text rest : List Char} {v : Json} (h : Number text v rest) :
    ∃ c more, text = c :: more ∧ (c.isDigit = true ∨ c = '-') := by
  cases h with
  | plain h =>
    obtain ⟨c, more, rfl, hc⟩ := h.head
    exact ⟨c, more, rfl, .inl hc⟩
  | minus h => exact ⟨'-', _, rfl, .inr rfl⟩

theorem Number.unique {text rest rest' : List Char} {v v' : Json} (h : Number text v rest)
    (h' : Number text v' rest') : v = v' ∧ rest = rest' := by
  cases h with
  | plain h =>
    cases h' with
    | plain h' => exact h.unique h'
    | minus =>
      obtain ⟨c, more, hc, hdigit⟩ := h.head
      cases hc
      cases hdigit
  | minus h =>
    cases h' with
    | plain h' =>
      obtain ⟨c, more, hc, hdigit⟩ := h'.head
      cases hc
      cases hdigit
    | minus h' => exact h.unique h'

/-! ### Values -/

mutual

/-- A text begins with a value. -/
inductive Value : List Char → Json → List Char → Prop
  | nullWord {rest : List Char} : Value ('n' :: 'u' :: 'l' :: 'l' :: rest) .null rest
  | trueWord {rest : List Char} : Value ('t' :: 'r' :: 'u' :: 'e' :: rest) (.bool true) rest
  | falseWord {rest : List Char} :
      Value ('f' :: 'a' :: 'l' :: 's' :: 'e' :: rest) (.bool false) rest
  | number {text rest : List Char} {v : Json} (h : Number text v rest) : Value text v rest
  | string {text cs rest : List Char} (h : Body text cs rest) :
      Value ('"' :: text) (.string (String.ofList cs)) rest
  | emptyArray {text rest : List Char} (h : skipBlanks text = ']' :: rest) :
      Value ('[' :: text) (.array []) rest
  | array {text rest : List Char} {items : List Json} (h : Items text items rest) :
      Value ('[' :: text) (.array items) rest
  | emptyObject {text rest : List Char} (h : skipBlanks text = '\x7d' :: rest) :
      Value ('\x7b' :: text) (.object []) rest
  | object {text rest : List Char} {fields : List (String × Json)} (h : Members text fields rest) :
      Value ('\x7b' :: text) (.object fields) rest

/-- A text begins with one or more values and a closing bracket. -/
inductive Items : List Char → List Json → List Char → Prop
  | last {text after rest : List Char} {v : Json} (hv : Value (skipBlanks text) v after)
      (hclose : skipBlanks after = ']' :: rest) : Items text [v] rest
  | cons {text after more rest : List Char} {v : Json} {items : List Json}
      (hv : Value (skipBlanks text) v after) (hcomma : skipBlanks after = ',' :: more)
      (h : Items more items rest) : Items text (v :: items) rest

/-- A text begins with a name, a colon and a value. -/
inductive Member : List Char → String × Json → List Char → Prop
  | mk {text keyText key afterKey valueText rest : List Char} {v : Json}
      (hquote : skipBlanks text = '"' :: keyText) (hkey : Body keyText key afterKey)
      (hcolon : skipBlanks afterKey = ':' :: valueText)
      (hv : Value (skipBlanks valueText) v rest) : Member text (String.ofList key, v) rest

/-- A text begins with one or more fields and a closing brace. -/
inductive Members : List Char → List (String × Json) → List Char → Prop
  | last {text after rest : List Char} {field : String × Json}
      (hmember : Member text field after) (hclose : skipBlanks after = '\x7d' :: rest) :
      Members text [field] rest
  | cons {text after more rest : List Char} {field : String × Json} {fields : List (String × Json)}
      (hmember : Member text field after) (hcomma : skipBlanks after = ',' :: more)
      (h : Members more fields rest) : Members text (field :: fields) rest

end

/-- A text is a value with nothing but blanks around it. -/
def Document (text : List Char) (v : Json) : Prop :=
  ∃ rest, Value (skipBlanks text) v rest ∧ skipBlanks rest = []

/-- A value begins with a character that is neither a blank nor a closing bracket. -/
theorem Value.head {text rest : List Char} {v : Json} (h : Value text v rest) :
    ∃ c more, text = c :: more ∧ blank c = false ∧ c ≠ ']' := by
  cases h with
  | nullWord | trueWord | falseWord | string | emptyArray | array | emptyObject | object =>
    exact ⟨_, _, rfl, by decide, by decide⟩
  | number h =>
    obtain ⟨c, more, rfl, hc⟩ := h.head
    refine ⟨c, more, rfl, ?_, ?_⟩
    · rw [← Bool.not_eq_true]
      intro hblank
      simp only [blank, Bool.or_eq_true, decide_eq_true_eq] at hblank
      rcases hblank with ((rfl | rfl) | rfl) | rfl <;> revert hc <;> decide
    · rintro rfl
      revert hc
      decide

theorem Value.skipBlanks_eq {text rest : List Char} {v : Json} (h : Value text v rest) :
    skipBlanks text = text := by
  obtain ⟨c, more, rfl, hblank, -⟩ := h.head
  exact skipBlanks_of_not_blank hblank more

/-- Items are not taken for an empty array. -/
theorem Items.skipBlanks_ne {text rest rest' : List Char} {items : List Json}
    (h : Items text items rest) : skipBlanks text ≠ ']' :: rest' := by
  intro hclose
  cases h with
  | last hv | cons hv =>
    rw [hclose] at hv
    obtain ⟨c, more, hc, -, hne⟩ := hv.head
    exact hne (List.cons.inj hc).1.symm

theorem Members.skipBlanks_ne {text rest rest' : List Char} {fields : List (String × Json)}
    (h : Members text fields rest) : skipBlanks text ≠ '\x7d' :: rest' := by
  intro hclose
  cases h with
  | last hmember | cons hmember =>
    obtain ⟨hquote, -, -, -⟩ := hmember
    rw [hclose] at hquote
    exact absurd (List.cons.inj hquote).1 (by decide)

/-- What begins with this character is not a number. -/
theorem not_number {c : Char} {text rest : List Char} {v : Json} (hdigit : c.isDigit = false)
    (hminus : c ≠ '-') : ¬ Number (c :: text) v rest := by
  intro h
  obtain ⟨d, more, hd, hcase⟩ := h.head
  obtain ⟨rfl, -⟩ := List.cons.inj hd
  rcases hcase with hd | rfl
  · rw [hdigit] at hd
    cases hd
  · exact hminus rfl

/-! ### A text says one thing at most -/

mutual

theorem Value.unique {text rest rest' : List Char} {v v' : Json} (h : Value text v rest)
    (h' : Value text v' rest') : v = v' ∧ rest = rest' := by
  cases h with
  | nullWord | trueWord | falseWord =>
    cases h' with
    | number hn => exact absurd hn (not_number (by decide) (by decide))
    | _ => exact ⟨rfl, rfl⟩
  | number hn =>
    cases h' with
    | number hn' => exact hn.unique hn'
    | _ => exact absurd hn (not_number (by decide) (by decide))
  | string hbody =>
    cases h' with
    | number hn => exact absurd hn (not_number (by decide) (by decide))
    | string hbody' =>
      obtain ⟨rfl, rfl⟩ := hbody.unique hbody'
      exact ⟨rfl, rfl⟩
  | emptyArray hclose =>
    cases h' with
    | number hn => exact absurd hn (not_number (by decide) (by decide))
    | emptyArray hclose' =>
      rw [hclose] at hclose'
      exact ⟨rfl, (List.cons.inj hclose').2⟩
    | array hitems => exact absurd hclose hitems.skipBlanks_ne
  | array hitems =>
    cases h' with
    | number hn => exact absurd hn (not_number (by decide) (by decide))
    | emptyArray hclose => exact absurd hclose hitems.skipBlanks_ne
    | array hitems' =>
      obtain ⟨rfl, rfl⟩ := hitems.unique hitems'
      exact ⟨rfl, rfl⟩
  | emptyObject hclose =>
    cases h' with
    | number hn => exact absurd hn (not_number (by decide) (by decide))
    | emptyObject hclose' =>
      rw [hclose] at hclose'
      exact ⟨rfl, (List.cons.inj hclose').2⟩
    | object hmembers => exact absurd hclose hmembers.skipBlanks_ne
  | object hmembers =>
    cases h' with
    | number hn => exact absurd hn (not_number (by decide) (by decide))
    | emptyObject hclose => exact absurd hclose hmembers.skipBlanks_ne
    | object hmembers' =>
      obtain ⟨rfl, rfl⟩ := hmembers.unique hmembers'
      exact ⟨rfl, rfl⟩

theorem Items.unique {text rest rest' : List Char} {items items' : List Json}
    (h : Items text items rest) (h' : Items text items' rest') : items = items' ∧ rest = rest' := by
  cases h with
  | last hv hclose =>
    cases h' with
    | last hv' hclose' =>
      obtain ⟨rfl, rfl⟩ := hv.unique hv'
      rw [hclose] at hclose'
      exact ⟨rfl, (List.cons.inj hclose').2⟩
    | cons hv' hcomma =>
      obtain ⟨rfl, rfl⟩ := hv.unique hv'
      rw [hclose] at hcomma
      exact absurd (List.cons.inj hcomma).1 (by decide)
  | cons hv hcomma hmore =>
    cases h' with
    | last hv' hclose =>
      obtain ⟨rfl, rfl⟩ := hv.unique hv'
      rw [hcomma] at hclose
      exact absurd (List.cons.inj hclose).1 (by decide)
    | cons hv' hcomma' hmore' =>
      obtain ⟨rfl, rfl⟩ := hv.unique hv'
      rw [hcomma] at hcomma'
      obtain ⟨-, rfl⟩ := List.cons.inj hcomma'
      obtain ⟨rfl, rfl⟩ := hmore.unique hmore'
      exact ⟨rfl, rfl⟩

theorem Member.unique {text rest rest' : List Char} {field field' : String × Json}
    (h : Member text field rest) (h' : Member text field' rest') :
    field = field' ∧ rest = rest' := by
  cases h with
  | mk hquote hkey hcolon hv =>
    cases h' with
    | mk hquote' hkey' hcolon' hv' =>
      rw [hquote] at hquote'
      obtain ⟨-, rfl⟩ := List.cons.inj hquote'
      obtain ⟨rfl, rfl⟩ := hkey.unique hkey'
      rw [hcolon] at hcolon'
      obtain ⟨-, rfl⟩ := List.cons.inj hcolon'
      obtain ⟨rfl, rfl⟩ := hv.unique hv'
      exact ⟨rfl, rfl⟩

theorem Members.unique {text rest rest' : List Char} {fields fields' : List (String × Json)}
    (h : Members text fields rest) (h' : Members text fields' rest') :
    fields = fields' ∧ rest = rest' := by
  cases h with
  | last hmember hclose =>
    cases h' with
    | last hmember' hclose' =>
      obtain ⟨rfl, rfl⟩ := hmember.unique hmember'
      rw [hclose] at hclose'
      exact ⟨rfl, (List.cons.inj hclose').2⟩
    | cons hmember' hcomma =>
      obtain ⟨rfl, rfl⟩ := hmember.unique hmember'
      rw [hclose] at hcomma
      exact absurd (List.cons.inj hcomma).1 (by decide)
  | cons hmember hcomma hmore =>
    cases h' with
    | last hmember' hclose =>
      obtain ⟨rfl, rfl⟩ := hmember.unique hmember'
      rw [hcomma] at hclose
      exact absurd (List.cons.inj hclose).1 (by decide)
    | cons hmember' hcomma' hmore' =>
      obtain ⟨rfl, rfl⟩ := hmember.unique hmember'
      rw [hcomma] at hcomma'
      obtain ⟨-, rfl⟩ := List.cons.inj hcomma'
      obtain ⟨rfl, rfl⟩ := hmore.unique hmore'
      exact ⟨rfl, rfl⟩

end

/-- **A text says one thing at most.** -/
theorem Document.unique {text : List Char} {v v' : Json} (h : Document text v)
    (h' : Document text v') : v = v' := by
  obtain ⟨rest, hv, -⟩ := h
  obtain ⟨rest', hv', -⟩ := h'
  exact (hv.unique hv').1

end Rehearsal.Json.Grammar
