import Rehearsal.Proofs.Json.Grammar

/-!
# A document reads as what was printed

The indented text of a document is one of the texts that say it, and so it says nothing else
(`document_pretty_iff`). Strings, numbers and brackets are looked at one after the other, each in
front of any text that may follow. Only what follows a number matters: it must not look like more of
it (`EndsNumber`).

Documents that hold decimals are left out (`isExact`). A decimal reads as the double that is nearest
to its digits, and not all doubles have a text.
-/

namespace Rehearsal.Json

open Grammar

/-! ### Strings -/

/-- The value of four digits in a list. -/
def fourDigits? : List Char → Option Nat
  | [p, q, r, s] => codeUnit? p q r s
  | _ => none

theorem exists_of_fourDigits?_eq_some {digits : List Char} {n : Nat}
    (h : fourDigits? digits = some n) :
    ∃ p q r s, digits = [p, q, r, s] ∧ codeUnit? p q r s = some n := by
  unfold fourDigits? at h
  split at h
  · next p q r s => exact ⟨p, q, r, s, rfl, h⟩
  · cases h

/-- The characters below the space are written with four digits each. -/
theorem fourDigits?_hex4 {n : Nat} (h : n < 0x20) : fourDigits? (hex4 n) = some n := by
  have hall : ∀ n < 0x20, fourDigits? (hex4 n) = some n := by decide
  exact hall n h

/-- What is written for a character is read as it. -/
theorem body_escape (c : Char) {text cs rest : List Char} (h : Body text cs rest) :
    Body (escape c ++ text) (c :: cs) rest := by
  unfold escape
  -- The characters that have a letter.
  iterate 7
    split
    · next hc => exact .letter (by rw [hc]; decide) h
  split
  · next hcontrol =>
    obtain ⟨p, q, r, s, hdigits, hunit⟩ := exists_of_fourDigits?_eq_some (fourDigits?_hex4 hcontrol)
    rw [hdigits]
    exact .unit hunit h
  · next hquote hbackslash _ _ _ _ _ hcontrol =>
    exact .plain hquote hbackslash (Nat.le_of_not_lt hcontrol) h

theorem body_flatMap_escape (cs rest : List Char) :
    Body (cs.flatMap escape ++ '"' :: rest) cs rest := by
  induction cs with
  | nil => exact .close
  | cons c cs ih =>
    rw [List.flatMap_cons, List.append_assoc]
    exact body_escape c ih

/-- What follows the first quote of a string is read as the string. -/
theorem stringText_append (s : String) (rest : List Char) :
    ∃ text, stringText s ++ rest = '"' :: text ∧ Body text s.toList rest := by
  refine ⟨s.toList.flatMap escape ++ '"' :: rest, ?_, body_flatMap_escape _ _⟩
  simp [stringText]

theorem value_stringText (s : String) (rest : List Char) :
    Value (stringText s ++ rest) (.string s) rest := by
  obtain ⟨text, htext, hbody⟩ := stringText_append s rest
  have hvalue := Value.string hbody
  rw [String.ofList_toList] at hvalue
  rw [htext]
  exact hvalue

/-! ### Numbers -/

/-- A text does not look like more of a number. -/
def EndsNumber (rest : List Char) : Prop :=
  ∀ c, rest.head? = some c → c.isDigit = false ∧ c ≠ '.' ∧ c ≠ 'e' ∧ c ≠ 'E'

theorem endsNumber_cons {c : Char} (hdigit : c.isDigit = false) (hpoint : c ≠ '.') (he : c ≠ 'e')
    (hE : c ≠ 'E') (rest : List Char) : EndsNumber (c :: rest) := by
  intro d hd
  obtain rfl : c = d := Option.some.inj hd
  exact ⟨hdigit, hpoint, he, hE⟩

theorem digitsValue_toDigits (n : Nat) : digitsValue (Nat.toDigits 10 n) = n := by
  have hread : digitsValue (Nat.toDigits 10 n) = Nat.ofDigitChars 10 (Nat.toDigits 10 n) 0 := by
    simp only [digitsValue, Nat.ofDigitChars, Nat.mul_comm]
  rw [hread, Nat.ofDigitChars_toDigits (by decide) (by decide)]

/-- Only zero begins with a zero. -/
theorem head?_toDigits_ne {n : Nat} (h : 0 < n) : (Nat.toDigits 10 n).head? ≠ some '0' := by
  induction n using Nat.strongRecOn with
  | ind n ih =>
    rw [Nat.toDigits_eq_if (by decide)]
    split
    · next hlt =>
      have hall : ∀ n < 10, 0 < n → [n.digitChar].head? ≠ some '0' := by decide
      exact hall n hlt h
    · next hge =>
      have hdiv := ih (n / 10) (by omega) (by omega)
      cases hdigits : Nat.toDigits 10 (n / 10) with
      | nil => exact absurd hdigits Nat.toDigits_ne_nil
      | cons d ds =>
        rw [hdigits] at hdiv
        exact hdiv

theorem isWhole_toDigits (n : Nat) : IsWhole (Nat.toDigits 10 n) := by
  rcases Nat.eq_zero_or_pos n with rfl | hpos
  · exact .inl rfl
  · exact .inr ⟨Nat.toDigits_ne_nil, head?_toDigits_ne hpos⟩

theorem unsigned_toDigits (negative : Bool) (n : Nat) {rest : List Char} (h : EndsNumber rest) :
    Unsigned negative (Nat.toDigits 10 n ++ rest)
      (.integer (if negative then -(n : Int) else n)) rest := by
  have hdigits : ∀ d ∈ Nat.toDigits 10 n, d.isDigit = true := fun d hd =>
    Nat.isDigit_of_mem_toDigits (by decide) (by decide) hd
  have hrest : ∀ c, rest.head? = some c → c.isDigit = false := fun c hc => (h c hc).1
  have htake : (Nat.toDigits 10 n ++ rest).takeWhile Char.isDigit = Nat.toDigits 10 n := by
    rw [List.takeWhile_append_of_pos hdigits]
    cases rest with
    | nil => simp
    | cons c rest => rw [List.takeWhile_cons_of_neg (by simp [hrest c rfl]), List.append_nil]
  have hdrop : (Nat.toDigits 10 n ++ rest).dropWhile Char.isDigit = rest := by
    rw [List.dropWhile_append_of_pos hdigits]
    cases rest with
    | nil => rfl
    | cons c rest => rw [List.dropWhile_cons_of_neg (by simp [hrest c rfl])]
  have hfraction : Fraction ((Nat.toDigits 10 n ++ rest).dropWhile Char.isDigit) none rest := by
    rw [hdrop]
    exact .absent fun hpoint => (h _ hpoint).2.1 rfl
  have hexponent : Exponent rest none rest :=
    .absent (fun he => (h _ he).2.2.1 rfl) (fun hE => (h _ hE).2.2.2 rfl)
  have hnumber := @Unsigned.mk negative _ _ _ _ _ (by rw [htake]; exact isWhole_toDigits n)
    hfraction hexponent
  rw [htake, numberValue, digitsValue_toDigits] at hnumber
  exact hnumber

theorem number_toString (n : Int) {rest : List Char} (h : EndsNumber rest) :
    Number ((toString n).toList ++ rest) (.integer n) rest := by
  cases n with
  | ofNat n =>
    have hnumber := Number.plain (unsigned_toDigits false n h)
    simpa [Int.repr] using hnumber
  | negSucc n =>
    have hnumber : Number ('-' :: (Nat.toDigits 10 (n + 1) ++ rest))
        (.integer (Int.negSucc n)) rest := .minus (unsigned_toDigits true (n + 1) h)
    simpa [Int.repr] using hnumber

/-! ### Brackets -/

theorem skipBlanks_breakLine (level : Nat) (text : List Char) :
    skipBlanks (breakLine level ++ text) = skipBlanks text := by
  have hblank : ∀ c ∈ breakLine level, blank c = true := by
    intro c hc
    rcases List.mem_cons.mp hc with rfl | hc
    · decide
    · rw [(List.mem_replicate.mp hc).2]
      decide
  exact List.dropWhile_append_of_pos hblank

/-- Pieces on lines of their own, with commas between them, and a last line for what closes them. -/
def piecesText (level : Nat) (closing : Char) (rest : List Char) : List (List Char) → List Char
  | [] => []
  | [piece] => breakLine (level + 1) ++ piece ++ breakLine level ++ closing :: rest
  | piece :: pieces =>
    breakLine (level + 1) ++ piece ++ ',' :: piecesText level closing rest pieces

theorem piecesText_cons (level : Nat) (closing : Char) (rest piece : List Char)
    {pieces : List (List Char)} (h : pieces ≠ []) :
    piecesText level closing rest (piece :: pieces) =
      breakLine (level + 1) ++ piece ++ ',' :: piecesText level closing rest pieces := by
  rw [piecesText]
  exact h

theorem flatten_intersperse_append (level : Nat) (closing : Char) (rest piece : List Char)
    (pieces : List (List Char)) :
    (((piece :: pieces).map (breakLine (level + 1) ++ ·)).intersperse [',']).flatten ++
        breakLine level ++ closing :: rest =
      piecesText level closing rest (piece :: pieces) := by
  induction pieces generalizing piece with
  | nil => simp [piecesText]
  | cons next pieces ih =>
    rw [piecesText_cons _ _ _ _ (List.cons_ne_nil _ _), ← ih next]
    simp

/-- Brackets around some pieces. -/
theorem bracketed_append (opening closing : Char) (level : Nat) (rest : List Char)
    {pieces : List (List Char)} (h : pieces ≠ []) :
    bracketed opening closing level pieces ++ rest =
      opening :: piecesText level closing rest pieces := by
  obtain ⟨piece, pieces, rfl⟩ := List.exists_cons_of_ne_nil h
  rw [← flatten_intersperse_append]
  simp [bracketed]

/-- A value is read on a line of its own as it is elsewhere. -/
theorem Grammar.Value.on_line {text rest : List Char} {j : Json} (h : Value (text ++ rest) j rest)
    (level : Nat) : Value (skipBlanks (breakLine level ++ text ++ rest)) j rest := by
  rw [List.append_assoc, skipBlanks_breakLine, h.skipBlanks_eq]
  exact h

/-- So is a field, if its value is. -/
theorem member_on_line (level : Nat) (key : String) {text rest : List Char} {v : Json}
    (h : Value (text ++ rest) v rest) :
    Member (breakLine level ++ (stringText key ++ [':', ' '] ++ text) ++ rest) (key, v) rest := by
  obtain ⟨keyText, hkeyText, hbody⟩ := stringText_append key (':' :: ' ' :: (text ++ rest))
  have hquote : skipBlanks (breakLine level ++ (stringText key ++ [':', ' '] ++ text) ++ rest) =
      '"' :: keyText := by
    rw [List.append_assoc, skipBlanks_breakLine, ← skipBlanks_of_not_blank (by decide) keyText,
      ← hkeyText]
    simp
  have hcolon : skipBlanks (':' :: ' ' :: (text ++ rest)) = ':' :: ' ' :: (text ++ rest) :=
    skipBlanks_of_not_blank (by decide) _
  have hvalue : Value (skipBlanks (' ' :: (text ++ rest))) v rest := by
    rw [skipBlanks_cons (by decide), h.skipBlanks_eq]
    exact h
  have hmember := Member.mk hquote hbody hcolon hvalue
  rw [String.ofList_toList] at hmember
  exact hmember

theorem endsNumber_breakLine (level : Nat) (text : List Char) :
    EndsNumber (breakLine level ++ text) :=
  endsNumber_cons (by decide) (by decide) (by decide) (by decide) _

theorem endsNumber_comma (text : List Char) : EndsNumber (',' :: text) :=
  endsNumber_cons (by decide) (by decide) (by decide) (by decide) _

theorem skipBlanks_breakLine_closing (level : Nat) {closing : Char} (h : blank closing = false)
    (rest : List Char) : skipBlanks (breakLine level ++ closing :: rest) = closing :: rest := by
  rw [skipBlanks_breakLine, skipBlanks_of_not_blank h]

theorem prettyItems_ne_nil {level : Nat} {items : List Json} (h : items ≠ []) :
    prettyItems level items ≠ [] := by
  obtain ⟨item, items, rfl⟩ := List.exists_cons_of_ne_nil h
  exact List.cons_ne_nil _ _

theorem prettyFields_ne_nil {level : Nat} {fields : List (String × Json)} (h : fields ≠ []) :
    prettyFields level fields ≠ [] := by
  obtain ⟨⟨key, value⟩, fields, rfl⟩ := List.exists_cons_of_ne_nil h
  exact List.cons_ne_nil _ _

mutual

/-- A document without decimals. -/
def isExact : Json → Bool
  | .decimal _ => false
  | .array items => areExact items
  | .object fields => fieldsAreExact fields
  | .null | .bool _ | .integer _ | .string _ => true

def areExact : List Json → Bool
  | [] => true
  | item :: items => isExact item && areExact items

def fieldsAreExact : List (String × Json) → Bool
  | [] => true
  | (_, value) :: fields => isExact value && fieldsAreExact fields

end

mutual

/-- The indented text of a document is read as the document. -/
theorem value_prettyAt (level : Nat) (j : Json) (hexact : isExact j = true) {rest : List Char}
    (hrest : EndsNumber rest) : Value (prettyAt level j ++ rest) j rest := by
  cases j with
  | null => exact .nullWord
  | bool b =>
    cases b with
    | true => exact .trueWord
    | false => exact .falseWord
  | integer n => exact .number (number_toString n hrest)
  | decimal x => cases hexact
  | string s => exact value_stringText s rest
  | array items =>
    by_cases hnil : items = []
    · subst hnil
      exact .emptyArray rfl
    · rw [prettyAt, bracketed_append _ _ _ _ (prettyItems_ne_nil hnil)]
      exact .array (items_piecesText level items hnil hexact rest)
  | object fields =>
    by_cases hnil : fields = []
    · subst hnil
      exact .emptyObject rfl
    · rw [prettyAt, bracketed_append _ _ _ _ (prettyFields_ne_nil hnil)]
      exact .object (members_piecesText level fields hnil hexact rest)

theorem items_piecesText (level : Nat) (items : List Json) (hne : items ≠ [])
    (hexact : areExact items = true) (rest : List Char) :
    Items (piecesText level ']' rest (prettyItems (level + 1) items)) items rest := by
  cases items with
  | nil => exact absurd rfl hne
  | cons item items =>
    rw [areExact, Bool.and_eq_true] at hexact
    by_cases hnil : items = []
    · subst hnil
      have hvalue := value_prettyAt (level + 1) item hexact.1
        (endsNumber_breakLine level (']' :: rest))
      have hitems := Items.last (hvalue.on_line (level + 1))
        (skipBlanks_breakLine_closing level (by decide) rest)
      simpa [prettyItems, piecesText] using hitems
    · have hmore := items_piecesText level items hnil hexact.2 rest
      have hvalue := value_prettyAt (level + 1) item hexact.1
        (endsNumber_comma (piecesText level ']' rest (prettyItems (level + 1) items)))
      rw [prettyItems, piecesText_cons _ _ _ _ (prettyItems_ne_nil hnil)]
      exact .cons (hvalue.on_line (level + 1)) (skipBlanks_of_not_blank (by decide) _) hmore

theorem members_piecesText (level : Nat) (fields : List (String × Json)) (hne : fields ≠ [])
    (hexact : fieldsAreExact fields = true) (rest : List Char) :
    Members (piecesText level '\x7d' rest (prettyFields (level + 1) fields)) fields rest := by
  cases fields with
  | nil => exact absurd rfl hne
  | cons field fields =>
    obtain ⟨key, value⟩ := field
    rw [fieldsAreExact, Bool.and_eq_true] at hexact
    by_cases hnil : fields = []
    · subst hnil
      have hvalue := value_prettyAt (level + 1) value hexact.1
        (endsNumber_breakLine level ('\x7d' :: rest))
      have hmembers := Members.last (member_on_line (level + 1) key hvalue)
        (skipBlanks_breakLine_closing level (by decide) rest)
      simpa [prettyFields, piecesText] using hmembers
    · have hmore := members_piecesText level fields hnil hexact.2 rest
      have hvalue := value_prettyAt (level + 1) value hexact.1
        (endsNumber_comma (piecesText level '\x7d' rest (prettyFields (level + 1) fields)))
      rw [prettyFields, piecesText_cons _ _ _ _ (prettyFields_ne_nil hnil)]
      exact .cons (member_on_line (level + 1) key hvalue) (skipBlanks_of_not_blank (by decide) _)
        hmore

end

/-! ### Documents -/

theorem document_pretty {j : Json} (hexact : isExact j = true) : Document j.pretty.toList j := by
  have hvalue : Value (prettyAt 0 j ++ []) j [] :=
    value_prettyAt 0 j hexact (by simp [EndsNumber])
  rw [List.append_nil] at hvalue
  refine ⟨[], ?_, rfl⟩
  rw [pretty, String.toList_ofList, hvalue.skipBlanks_eq]
  exact hvalue

/-- **The text of a document says the document and nothing else.** -/
theorem document_pretty_iff {j v : Json} (hexact : isExact j = true) :
    Document j.pretty.toList v ↔ v = j := by
  constructor
  · intro h
    exact h.unique (document_pretty hexact)
  · rintro rfl
    exact document_pretty hexact

end Rehearsal.Json
