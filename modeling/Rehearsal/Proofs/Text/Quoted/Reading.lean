import Rehearsal.Judgement
import Rehearsal.Proofs.Text.Quoted

/-!
# Reading a quoted text back

`unescape` reads what stands between the quotes, one character at a time, and stops at the quote
that closes it. It knows the escapes and nothing of the text, and an escape that is not one of them
is an error. So a quoted text can be read back (`unescape_encodeBy`) if each character stands there
in one of the ways that `Stands` lists, and which characters are written by their number does not
matter for that. `quoteBy` leaves it open.

It matters only for how a quoted text looks: if all control characters are written by their number,
none of them is in it (`isControl_of_mem_quoteBy`).

A byte string is quoted as the text that it reads as, so what was quoted is known as far as that
text is. Byte strings that are text can be told apart, and a line break at the end can always be
seen, because it is read as one after any bytes (`Utf8.decodeLossy_append_newline`). The main
statement is `quoteBytes_reads_back`.
-/

namespace Rehearsal.Quoted

/-! ### Any choice of characters that are written by their number -/

/-- One character as it stands between the quotes, if those of `hidden` that have no letter are
written by their number. -/
def escapeBy (hidden : Char → Bool) (c : Char) : List Char :=
  match letters.lookup c with
  | some l => ['\\', l]
  | none => if hidden c then ['\\', 'u', '\x7b'] ++ hexDigits c.toNat ++ ['\x7d'] else [c]

/-- What stands between the quotes. -/
def encodeBy (hidden : Char → Bool) (cs : List Char) : List Char := cs.flatMap (escapeBy hidden)

/-- A text in quotes. -/
def quoteBy (hidden : Char → Bool) (cs : List Char) : List Char :=
  '"' :: encodeBy hidden cs ++ ['"']

theorem escape_eq_escapeBy : escape = escapeBy isUnshown := by
  funext c
  rw [escape, escapeBy]
  -- The letters come in the order of the table.
  iterate 6
    split
    · next h => rw [h]; rfl
  simp [letters, List.lookup_cons, beq_eq_false_iff_ne.mpr, *]

theorem quote_eq_quoteBy : quote = quoteBy isUnshown := by
  funext cs
  rw [quote, quoteBy, encode, encodeBy, escape_eq_escapeBy]

theorem mem_letters_of_lookup {c l : Char} (h : letters.lookup c = some l) : (c, l) ∈ letters := by
  obtain ⟨front, back, heq, -⟩ := List.lookup_eq_some_iff.mp h
  rw [heq]
  simp

theorem stands_escapeBy (hidden : Char → Bool) (c : Char) : Stands c (escapeBy hidden c) := by
  rw [escapeBy]
  split
  · next h => exact .letter (mem_letters_of_lookup h)
  · next h =>
    have hplain : ∀ p ∈ letters, c ≠ p.1 := by simpa using List.lookup_eq_none_iff.mp h
    split
    · exact .number
    · exact .plain (hplain ('"', '"') (by decide)) (hplain ('\\', '\\') (by decide))
        (hplain ('\n', 'n') (by decide))

/-! ### Reading -/

/-- Where a reader stands between the quotes. -/
inductive Reading where
  /-- Before a character. -/
  | text
  /-- After a backslash. -/
  | escape
  /-- After `\u`. -/
  | opening
  /-- Between the braces, after digits of this value, if there were any. -/
  | digits (value : Option Nat)

/-- The value of a hexadecimal digit. -/
def hexValue? (d : Char) : Option Nat := (List.range 16).find? (·.digitChar = d)

/-- The character with this number, if there is one. -/
def numbered? (value : Option Nat) : Option Char :=
  value.bind fun n => if n.isValidChar then some (Char.ofNat n) else none

/-- Undo the escapes up to the quote that closes the text: the text, and what follows the quote.
There is no text if it is not closed, or if something in it is not an escape. -/
def unescape : Reading → List Char → Option (List Char × List Char)
  | _, [] => none
  | .text, c :: rest =>
    if c = '"' then some ([], rest)
    else if c = '\\' then unescape .escape rest
    else (unescape .text rest).map (Prod.map (c :: ·) id)
  | .escape, l :: rest =>
    if l = 'u' then unescape .opening rest
    else match letters.find? (·.2 = l) with
      | some (c, _) => (unescape .text rest).map (Prod.map (c :: ·) id)
      | none => none
  | .opening, c :: rest => if c = '\x7b' then unescape (.digits none) rest else none
  | .digits value, d :: rest =>
    if d = '\x7d' then
      match numbered? value with
      | some c => (unescape .text rest).map (Prod.map (c :: ·) id)
      | none => none
    else match hexValue? d with
      | some k => unescape (.digits (some (value.getD 0 * 16 + k))) rest
      | none => none

theorem hexValue?_digitChar {k : Nat} (hk : k < 16) : hexValue? k.digitChar = some k := by
  have hall : ∀ k < 16, hexValue? k.digitChar = some k := by decide
  exact hall k hk

/-- One more digit. -/
theorem unescape_digit (value : Option Nat) {k : Nat} (hk : k < 16) (rest : List Char) :
    unescape (.digits value) (k.digitChar :: rest) =
      unescape (.digits (some (value.getD 0 * 16 + k))) rest := by
  have hne : ∀ k < 16, k.digitChar ≠ '\x7d' := by decide
  rw [unescape, if_neg (hne k hk), hexValue?_digitChar hk]

/-- The digits of a number are read as that number. -/
theorem unescape_hexDigits (n : Nat) (rest : List Char) :
    unescape (.digits none) (hexDigits n ++ rest) = unescape (.digits (some n)) rest := by
  induction n using Nat.strongRecOn generalizing rest with
  | ind n ih =>
    rw [hexDigits_eq, List.append_assoc, List.singleton_append]
    have hdigit : n % 16 < 16 := Nat.mod_lt _ (by decide)
    split
    · next hsmall =>
      rw [List.nil_append, unescape_digit none hdigit, Nat.mod_eq_of_lt hsmall]
      simp
    · next hlarge =>
      rw [ih (n / 16) (by omega), unescape_digit _ hdigit, Option.getD_some,
        Nat.div_add_mod']

theorem numbered?_toNat (c : Char) : numbered? (some c.toNat) = some c := by
  have hvalid : c.toNat.isValidChar := c.valid
  rw [numbered?, Option.bind_some, if_pos hvalid, Char.ofNat_toNat]

theorem find?_letter {c l : Char} (h : (c, l) ∈ letters) :
    l ≠ 'u' ∧ letters.find? (·.2 = l) = some (c, l) := by
  have hall : ∀ p ∈ letters, p.2 ≠ 'u' ∧ letters.find? (·.2 = p.2) = some p := by decide
  exact hall (c, l) h

/-- What stands for a character is read as that character. -/
theorem Stands.unescape {c : Char} {text : List Char} (h : Stands c text) (rest : List Char) :
    unescape .text (text ++ rest) = (unescape .text rest).map (Prod.map (c :: ·) id) := by
  cases h with
  | plain hquote hbackslash hnewline =>
    rw [List.singleton_append, Quoted.unescape, if_neg hquote, if_neg hbackslash]
  | @letter l hl =>
    obtain ⟨hne, hfind⟩ := find?_letter hl
    rw [List.cons_append, List.singleton_append, Quoted.unescape, if_neg (by decide), if_pos rfl,
      Quoted.unescape, if_neg hne, hfind]
  | number =>
    have hopen : ∀ tail, Quoted.unescape .text ('\\' :: 'u' :: '\x7b' :: tail) =
        Quoted.unescape (.digits none) tail := fun tail => rfl
    rw [List.append_assoc, List.append_assoc]
    show Quoted.unescape .text ('\\' :: 'u' :: '\x7b' :: (hexDigits c.toNat ++ _)) = _
    rw [hopen, unescape_hexDigits, List.singleton_append, Quoted.unescape, if_pos rfl,
      numbered?_toNat]

/-- **A quoted text is read back**, and reading stops at the quote that closes it. -/
theorem unescape_encodeBy (hidden : Char → Bool) (cs rest : List Char) :
    unescape .text (encodeBy hidden cs ++ '"' :: rest) = some (cs, rest) := by
  induction cs with
  | nil => rfl
  | cons c cs ih =>
    rw [encodeBy, List.flatMap_cons, List.append_assoc, (stands_escapeBy hidden c).unescape]
    rw [encodeBy] at ih
    rw [ih]
    rfl

/-! ### What a quoted text looks like -/

section Control

variable {hidden : Char → Bool} (hcontrol : ∀ c, isControl c = true → hidden c = true)
include hcontrol

theorem isControl_of_mem_escapeBy {c d : Char} (h : d ∈ escapeBy hidden c) :
    isControl d = false := by
  rw [escapeBy] at h
  split at h
  · next l hl =>
    have hall : ∀ p ∈ letters, isControl p.2 = false := by decide
    rcases List.mem_cons.mp h with rfl | h
    · decide
    · rw [List.mem_singleton.mp h]
      exact hall (c, l) (mem_letters_of_lookup hl)
  · split at h
    · rcases List.mem_append.mp h with h | h
      · rcases List.mem_append.mp h with h | h
        · simp only [List.mem_cons, List.not_mem_nil, or_false] at h
          rcases h with rfl | rfl | rfl <;> decide
        · obtain ⟨k, hk, rfl⟩ := exists_of_mem_hexDigits h
          have hall : ∀ k < 16, isControl k.digitChar = false := by decide
          exact hall k hk
      · rw [List.mem_singleton.mp h]
        decide
    · next hshown =>
      rw [List.mem_singleton.mp h]
      exact Bool.eq_false_iff.mpr fun hc => hshown (hcontrol c hc)

/-- No control character is in a quoted text if they are all written by their number. -/
theorem isControl_of_mem_quoteBy {cs : List Char} {d : Char} (h : d ∈ quoteBy hidden cs) :
    isControl d = false := by
  rcases List.mem_append.mp h with h | h
  · rcases List.mem_cons.mp h with rfl | h
    · decide
    · obtain ⟨c, -, hd⟩ := List.mem_flatMap.mp h
      exact isControl_of_mem_escapeBy hcontrol hd
  · rw [List.mem_singleton.mp h]
    decide

end Control

end Rehearsal.Quoted

namespace Rehearsal

/-! ### Byte strings -/

/-- A line after other bytes adds itself to their lines, behind what was not yet a line. -/
theorem Bytes.splitLines_append_line {line : Bytes} (h : IsLine line) (before : Bytes) :
    splitLines (before ++ line) =
      ((splitLines before).1 ++ [(splitLines before).2 ++ line], []) := by
  obtain ⟨body, hbody, rfl⟩ := h
  have hrest : newline ∉ (splitLines before).2 := (splitLines_isLine before).2
  have hjoined : IsLine ((splitLines before).2 ++ (body ++ [newline])) :=
    ⟨(splitLines before).2 ++ body, by simp [hrest, hbody], (List.append_assoc ..).symm⟩
  have hsplit := splitLines_line_append hjoined []
  rw [List.append_nil] at hsplit
  rw [splitLines_append, hsplit]
  rfl

/-- A byte string in quotes, with the characters of `hidden` written by their number. -/
def quoteBytesBy (hidden : Char → Bool) (b : Bytes) : String :=
  String.ofList (Quoted.quoteBy hidden (Utf8.decodeLossy b))

theorem quoteBytes_eq_quoteBytesBy : quoteBytes = quoteBytesBy isUnshown := by
  funext b
  rw [quoteBytes, quoteBytesBy, Quoted.quote_eq_quoteBy]

/-- Between a quote at the beginning and one at the end stands what is read, without an error and up
to the closing quote, as the text of the bytes. -/
def ReadsBack (quote : Bytes → String) : Prop :=
  ∀ b, ∃ inner, (quote b).toList = '"' :: inner ++ ['"'] ∧
    ∀ rest, Quoted.unescape .text (inner ++ '"' :: rest) = some (Utf8.decodeLossy b, rest)

/-- Is this a way of quoting byte strings that takes up one line and can be undone? -/
structure QuotesLines (quote : Bytes → String) : Prop where
  reads_back : ReadsBack quote
  isControl_eq_false : ∀ b, ∀ c ∈ (quote b).toList, isControl c = false
  /-- With a line break after it, it adds one line to any bytes. -/
  adds_line : ∀ before b,
    let line := Bytes.ofString (quote b ++ "\n")
    Bytes.splitLines (before ++ line) =
      ((Bytes.splitLines before).1 ++ [(Bytes.splitLines before).2 ++ line], [])
  /-- Byte strings that are text can be told apart. -/
  injective : ∀ a b, (Utf8.decode? a).isSome → (Utf8.decode? b).isSome → quote a = quote b → a = b
  /-- So can any bytes with a line break after them and without. -/
  append_newline_ne : ∀ b, quote (b ++ [Bytes.newline]) ≠ quote b

/-- What can be read back is known as far as it is text. -/
theorem ReadsBack.decodeLossy_eq {quote : Bytes → String} (h : ReadsBack quote) {a b : Bytes}
    (heq : quote a = quote b) : Utf8.decodeLossy a = Utf8.decodeLossy b := by
  obtain ⟨inner, hquote, hread⟩ := h a
  obtain ⟨inner', hquote', hread'⟩ := h b
  rw [heq, hquote', List.append_left_inj] at hquote
  have hinner : inner' = inner := (List.cons.inj hquote).2
  have hboth := (hread []).symm.trans (hinner ▸ hread' [])
  exact congrArg Prod.fst (Option.some.inj hboth)

theorem quotesLines_quoteBytesBy {hidden : Char → Bool}
    (hcontrol : ∀ c, isControl c = true → hidden c = true) : QuotesLines (quoteBytesBy hidden) := by
  have hreads : ReadsBack (quoteBytesBy hidden) := fun b =>
    ⟨_, String.toList_ofList, Quoted.unescape_encodeBy hidden (Utf8.decodeLossy b)⟩
  have hshown : ∀ b, ∀ c ∈ (quoteBytesBy hidden b).toList, isControl c = false := by
    intro b c hc
    rw [quoteBytesBy, String.toList_ofList] at hc
    exact Quoted.isControl_of_mem_quoteBy hcontrol hc
  refine ⟨hreads, hshown, fun before b => ?_, fun a b ha hb heq => ?_, fun b heq => ?_⟩
  · have hnewline : '\n' ∉ (quoteBytesBy hidden b).toList := by
      intro hmem
      have hcontrol := hshown b '\n' hmem
      cases hcontrol
    exact Bytes.splitLines_append_line (isLine_ofString hnewline) before
  · obtain ⟨cs, hcs⟩ := Option.isSome_iff_exists.mp ha
    obtain ⟨ds, hds⟩ := Option.isSome_iff_exists.mp hb
    have htext := hreads.decodeLossy_eq heq
    rw [Utf8.decode?_eq_some_iff] at hcs hds
    rw [hcs, hds, Utf8.decodeLossy_ofChars, Utf8.decodeLossy_ofChars] at htext
    rw [hcs, hds, htext]
  · have htext := hreads.decodeLossy_eq heq
    rw [Utf8.decodeLossy_append_newline] at htext
    have hlength := congrArg List.length htext
    simp at hlength

/-- **A quoted byte string is one line and can be read back**, and so it is whichever characters are
written by their number, if all control characters are among them. In a diagnostic every quoted
line is one line more. -/
theorem quoteBytes_reads_back :
    QuotesLines quoteBytes ∧
      (∀ hidden : Char → Bool, (∀ c, isControl c = true → hidden c = true) →
        QuotesLines (quoteBytesBy hidden)) ∧
      ∀ before line : Bytes,
        Bytes.splitLines (before ++ (Note.quoted line).render) =
          ((Bytes.splitLines before).1 ++
            [(Bytes.splitLines before).2 ++ (Note.quoted line).render], []) := by
  have hquotes : QuotesLines quoteBytes := by
    rw [quoteBytes_eq_quoteBytesBy]
    exact quotesLines_quoteBytesBy fun c => isUnshown_of_isControl
  exact ⟨hquotes, fun hidden => quotesLines_quoteBytesBy, hquotes.adds_line⟩

end Rehearsal
