import Rehearsal.CommandText
import Rehearsal.Proofs.Separated
import Rehearsal.Proofs.Text.Quoted.Reading

/-!
# A command line tells the command

A word of a command line is bare or in quotes (`ShownAs`). A bare word has no blank, so it ends at
the next space; a quoted word ends at the quote that closes it, since a quote inside it is marked.
Which of the two a word is shows in its first character. So the words of a command line can be told
apart, and `command_eq_of_commandLine_eq` is the main statement.

There is one thing that spoils this: a word that needs no quotes but begins with one
(`LooksQuoted`). It is bare, and with the words after it it may look like a single word in quotes
(`commandLine_of_two_words_like_one`).
-/

namespace Rehearsal

/-- Is this a word without blanks that begins with a double quote? -/
def LooksQuoted (word : String) : Prop :=
  (∀ c ∈ word.toList, isBlank c = false) ∧ word.toList.head? = some '"'

/-- How a word stands in a command line. -/
inductive ShownAs (word : List Char) : List Char → Prop
  | bare (hne : word ≠ []) (hblank : ∀ c ∈ word, isBlank c = false)
      (hquote : word.head? ≠ some '"') : ShownAs word word
  | quoted : ShownAs word (Quoted.quote word)

theorem toList_showWord (word : String) :
    (showWord word).toList =
      if word.toList.isEmpty || word.toList.any isBlank then Quoted.quote word.toList
      else word.toList := by
  have hempty : word.isEmpty = word.toList.isEmpty := by
    rw [Bool.eq_iff_iff, List.isEmpty_iff]
    simp
  have hblank : word.any isBlank = word.toList.any isBlank := by
    rw [String.any, String.contains_bool_eq]
  rw [showWord, hempty, hblank]
  split
  · rw [quoteString, String.toList_ofList]
  · rfl

theorem toList_commandLine (command : List String) :
    (commandLine command).toList =
      [' '].intercalate (command.map fun word => (showWord word).toList) := by
  simp [commandLine, Function.comp_def]

theorem shownAs_showWord {word : String} (h : ¬ LooksQuoted word) :
    ShownAs word.toList (showWord word).toList := by
  rw [toList_showWord]
  split
  · exact .quoted
  · next hplain =>
    rw [Bool.or_eq_true, not_or, List.isEmpty_iff, Bool.not_eq_true, List.any_eq_false] at hplain
    obtain ⟨hne, hblank⟩ := hplain
    have hblank : ∀ c ∈ word.toList, isBlank c = false := by
      intro c hc
      rw [← Bool.not_eq_true]
      exact hblank c hc
    apply ShownAs.bare hne hblank
    intro hquote
    exact h ⟨hblank, hquote⟩

namespace ShownAs

variable {word word' text text' rest rest' : List Char}

theorem ne_nil (h : ShownAs word text) : text ≠ [] := by
  cases h with
  | bare hne => exact hne
  | quoted => exact List.cons_ne_nil _ _

/-- A bare word ends where a space begins, or nothing follows. -/
theorem bare_unique (hblank : ∀ c ∈ word, isBlank c = false)
    (hblank' : ∀ c ∈ word', isBlank c = false) (hrest : EndsAt ' ' rest)
    (hrest' : EndsAt ' ' rest') (heq : word ++ rest = word' ++ rest') :
    word = word' ∧ rest = rest' := by
  have hspace : ∀ {rest : List Char}, EndsAt ' ' rest →
      ∀ c, [c] <+: rest → ¬ isBlank c = false := by
    intro rest hrest c hc
    rw [hrest c hc]
    decide
  exact append_inj_of_front hblank (hspace hrest) hblank' (hspace hrest') heq

/-- A quoted word ends where a reader finds the quote that closes it. -/
theorem quoted_unique (heq : Quoted.quote word ++ rest = Quoted.quote word' ++ rest') :
    word = word' ∧ rest = rest' := by
  have hread : ∀ word rest : List Char,
      Quoted.unescape .text (Quoted.encode word ++ '"' :: rest) = some (word, rest) := by
    intro word rest
    have h := Quoted.unescape_encodeBy isUnshown word rest
    rwa [Quoted.encodeBy, ← Quoted.escape_eq_escapeBy] at h
  have hinner : Quoted.encode word ++ '"' :: rest = Quoted.encode word' ++ '"' :: rest' := by
    simpa [Quoted.quote] using heq
  have hsame := hread word rest
  rw [hinner, hread word' rest'] at hsame
  cases hsame
  exact ⟨rfl, rfl⟩

/-- A bare word and a quoted one differ in their first character. -/
theorem bare_ne_quoted (hne : word ≠ []) (hquote : word.head? ≠ some '"') :
    word ++ rest ≠ Quoted.quote word' ++ rest' := by
  intro heq
  cases word with
  | nil => exact hne rfl
  | cons c word =>
    apply hquote
    rw [List.head?_cons, (List.cons.inj heq).1]

/-- What stands in a command line says which word it is, and where it ends. -/
theorem unique (h : ShownAs word text) (h' : ShownAs word' text') (hrest : EndsAt ' ' rest)
    (hrest' : EndsAt ' ' rest') (heq : text ++ rest = text' ++ rest') :
    word = word' ∧ rest = rest' := by
  cases h with
  | bare hne hblank hquote =>
    cases h' with
    | bare _ hblank' _ => exact bare_unique hblank hblank' hrest hrest' heq
    | quoted => exact absurd heq (bare_ne_quoted hne hquote)
  | quoted =>
    cases h' with
    | bare hne' _ hquote' => exact absurd heq.symm (bare_ne_quoted hne' hquote')
    | quoted => exact quoted_unique heq

end ShownAs

/-- **A command line tells the command**: two commands with the same command line are the same,
unless a word of one of them has no blanks and begins with a double quote. -/
theorem command_eq_of_commandLine_eq {command command' : List String}
    (h : commandLine command = commandLine command') :
    command = command' ∨ ∃ word ∈ command ++ command', LooksQuoted word := by
  by_cases hquoted : ∃ word ∈ command ++ command', LooksQuoted word
  · exact Or.inr hquoted
  left
  have hshown : ∀ word, word ∈ command ∨ word ∈ command' →
      ShownAs word.toList (showWord word).toList := by
    intro word hword
    apply shownAs_showWord
    intro hlooks
    exact hquoted ⟨word, List.mem_append.mpr hword, hlooks⟩
  have hchars := congrArg String.toList h
  rw [toList_commandLine, toList_commandLine] at hchars
  apply intercalate_inj (fun word hword => (hshown word hword).ne_nil) _ hchars
  intro word hword word' hword' rest rest' hrest hrest' heq
  obtain ⟨hsame, hends⟩ :=
    (hshown word (Or.inl hword)).unique (hshown word' (Or.inr hword')) hrest hrest' heq
  exact ⟨String.toList_inj.mp hsame, hends⟩

/-- Two bare words that look like one in quotes. -/
theorem commandLine_of_two_words_like_one :
    let two := ["\"a", "b\""]
    let one := ["a b"]
    commandLine two = commandLine one ∧ two ≠ one ∧
      (two = one ∨ ∃ word ∈ two ++ one, LooksQuoted word) := by
  intro two one
  have hbare : (showWord "\"a").toList = ['"', 'a'] ∧ (showWord "b\"").toList = ['b', '"'] := by
    rw [toList_showWord, toList_showWord, if_neg (by decide +kernel), if_neg (by decide +kernel)]
    exact ⟨rfl, rfl⟩
  have hquoted : (showWord "a b").toList = ['"', 'a', ' ', 'b', '"'] := by
    rw [toList_showWord, if_pos (by decide +kernel)]
    decide +kernel
  have hsame : commandLine two = commandLine one := by
    apply String.toList_inj.mp
    rw [toList_commandLine, toList_commandLine, List.map_cons, List.map_cons, List.map_nil,
      List.map_cons, List.map_nil, hbare.1, hbare.2, hquoted]
    rfl
  exact ⟨hsame, by decide, command_eq_of_commandLine_eq hsame⟩

end Rehearsal
