import Rehearsal.CommandLine.Parser
import Rehearsal.Proofs.Except

/-!
# What a word of the command line does

A word may begin something, be the value of an option that waits for one, or be the two dashes.
`Reading.Takes` lists these steps; whatever holds of a reading is proved from the list, by cases for
one word and by induction for many. Two facts are needed of a reading later: an option that has a
value was given by one of the words (`Reading.mentions_of_takeWords`), and the program under test is
untouched until the two dashes are read (`Reading.takeWords_of_no_dashes`).
-/

namespace Rehearsal.CommandLine

variable {g : Grammar} {word : String} {words : List String}

/-! ### Options -/

/-- Does this word give the option? It is the option's name, perhaps with a value attached. -/
def Opt.GivenBy (opt : Opt) (word : String) : Prop :=
  word = "--" ++ opt.long ∨ ("--" ++ opt.long ++ "=").toList <+: word.toList ∨
    ∃ c ∈ opt.short?, ['-', c] <+: word.toList

instance (opt : Opt) (word : String) : Decidable (opt.GivenBy word) :=
  -- an option has one short name at most, so no search through the characters is needed
  have : Decidable (∃ c ∈ opt.short?, ['-', c] <+: word.toList) := Option.decidableExistsMem _
  inferInstanceAs (Decidable (_ ∨ _ ∨ _))

theorem Opt.givenBy_of_long {opt : Opt} {rest : List Char}
    (h : word.toList = '-' :: '-' :: (opt.long.toList ++ rest))
    (hrest : ∀ c ∈ rest.head?, c = '=') : opt.GivenBy word := by
  cases rest with
  | nil => exact .inl (String.toList_inj.mp (by simp [h]))
  | cons c value =>
    obtain rfl := hrest c rfl
    exact .inr (.inl ⟨value, by simp [h]⟩)

theorem Opt.givenBy_of_short {opt : Opt} {c : Char} {rest : List Char} (hc : opt.short? = some c)
    (h : word.toList = '-' :: c :: rest) : opt.GivenBy word :=
  .inr (.inr ⟨c, hc, rest, h.symm⟩)

namespace Options

variable {o o' : Options} {opt : Opt} {s : String}

/-- Reading a value gives its option and no other. -/
theorem has_of_put (h : o.put opt s = .ok o') (other : Opt) :
    o'.has other = (decide (other = opt) || o.has other) := by
  cases opt with
  | suffix =>
    cases h
    cases other <;> rfl
  | _ =>
    obtain ⟨value, -, h⟩ := bind_eq_ok_iff.mp h
    cases h
    cases other <;> rfl

theorem has_of_take (h : o.take opt s = .ok o') (other : Opt) :
    o'.has other = (decide (other = opt) || o.has other) := by
  rw [take] at h
  split at h
  · cases h
  · exact has_of_put h other

end Options

namespace Reading

variable {r r' next : Reading} {opt : Opt}

/-! ### Reading what has begun -/

/-- What was begun is read, and the rest is as it was. -/
theorem settle_cases (h : r.settle = .ok next) :
    next = r ∧ r.pending = none ∨
    (∃ opt s o, r.pending = some (.option opt (some s)) ∧ r.options.take opt s = .ok o ∧
      next = { r with options := o, pending := none }) ∨
    (∃ word p, r.pending = some (.argument word) ∧
      next = { r with arguments := r.arguments ++ [p], pending := none }) := by
  rw [settle] at h
  split at h
  · next hnone => exact .inl ⟨(Except.ok.inj h).symm, hnone⟩
  · cases h
  · next opt s hsome =>
    obtain ⟨o, ho, h⟩ := bind_eq_ok_iff.mp h
    exact .inr (.inl ⟨opt, s, o, hsome, ho, (Except.ok.inj h).symm⟩)
  · next word hsome =>
    obtain ⟨p, -, h⟩ := bind_eq_ok_iff.mp h
    exact .inr (.inr ⟨word, p, hsome, (Except.ok.inj h).symm⟩)

theorem pending_of_settle (h : r.settle = .ok next) : next.pending = none := by
  rcases settle_cases h with ⟨rfl, hnone⟩ | ⟨_, _, _, -, -, rfl⟩ | ⟨_, _, -, rfl⟩
  · exact hnone
  · rfl
  · rfl

/-- Where nothing has begun there is nothing to read. -/
theorem settle_of_pending (h : r.pending = none) : r.settle = .ok r := by
  rw [settle, h]

theorem trailing_of_settle (h : r.settle = .ok next) : next.trailing = r.trailing := by
  rcases settle_cases h with ⟨rfl, -⟩ | ⟨_, _, _, -, -, rfl⟩ | ⟨_, _, -, rfl⟩ <;> rfl

theorem command_of_settle (h : r.settle = .ok next) : next.command = r.command := by
  rcases settle_cases h with ⟨rfl, -⟩ | ⟨_, _, _, -, -, rfl⟩ | ⟨_, _, -, rfl⟩ <;> rfl

/-- What has begun is read the same whether the two dashes were seen or not. -/
theorem settle_trailing (r : Reading) (b : Bool) :
    settle { r with trailing := b } = r.settle.map ({ · with trailing := b }) := by
  obtain ⟨options, pending, arguments, command, trailing⟩ := r
  match pending with
  | none => rfl
  | some (.option _ none) => rfl
  | some (.option opt (some s)) =>
    show (_ >>= _ : Except UsageError Reading) = Except.map _ (_ >>= _)
    cases options.take opt s <;> rfl
  | some (.argument word) =>
    show (_ >>= _ : Except UsageError Reading) = Except.map _ (_ >>= _)
    cases readPath word <;> rfl

/-! ### One word -/

/-- What a word can do to a reading. -/
inductive Takes (word : String) (r : Reading) : Reading → Prop
  | dashes (hword : word = "--") : Takes word r { r with trailing := true }
  | value (opt : Opt) (hwaits : r.pending = some (.option opt none)) :
    Takes word r { r with pending := some (.option opt (some word)) }
  | begins (opt : Opt) (next : Reading) (hgiven : opt.GivenBy word)
    (hsettle : r.settle = .ok next) : Takes word r { next with pending := some (.option opt none) }
  | attached (opt : Opt) (s : String) (next : Reading) (o : Options) (hgiven : opt.GivenBy word)
    (hsettle : r.settle = .ok next) (htake : next.options.take opt s = .ok o) :
    Takes word r { next with options := o }
  | argument (next : Reading) (hsettle : r.settle = .ok next) :
    Takes word r { next with pending := some (.argument word) }
  | command (next : Reading) (htrailing : r.trailing = true) (hsettle : r.settle = .ok next) :
    Takes word r { next with command := next.command ++ [word] }

theorem takes_of_beginOption {attached : Option String} (hgiven : opt.GivenBy word)
    (h : r.beginOption opt attached = .ok r') : Takes word r r' := by
  obtain ⟨next, hsettle, h⟩ := bind_eq_ok_iff.mp h
  cases attached with
  | none =>
    cases h
    exact .begins opt next hgiven hsettle
  | some s =>
    obtain ⟨o, ho, h⟩ := bind_eq_ok_iff.mp h
    cases h
    exact .attached opt s next o hgiven hsettle ho

/-- Nothing that is asked for is a reading. -/
theorem ask_ne_ok {what : UsageError} : r.ask what ≠ .ok r' := by
  intro h
  obtain ⟨_, -, h⟩ := bind_eq_ok_iff.mp h
  cases h

theorem takes_of_takeLong {body : List Char} (hword : word.toList = '-' :: '-' :: body)
    (h : r.takeLong g body = .ok r') : Takes word r r' := by
  rw [takeLong] at h
  split at h
  · next opt hfind =>
    have hname : opt.long = String.ofList (body.takeWhile (· != '=')) := by
      simpa using List.find?_some hfind
    -- a value is attached where the name ends
    have hbody : opt.long.toList ++ body.dropWhile (· != '=') = body := by
      rw [hname, String.toList_ofList, List.takeWhile_append_dropWhile]
    refine takes_of_beginOption (Opt.givenBy_of_long (by rw [hword, hbody]) fun c hc => ?_) h
    have hhead := List.head?_dropWhile_not (· != '=') body
    rw [Option.mem_def.mp hc] at hhead
    simpa using hhead
  · extract_lets asked at h
    clear_value asked
    cases asked with
    | none => cases h
    | some what =>
      generalize body.dropWhile (· != '=') = rest at h
      cases rest with
      | nil => exact absurd h ask_ne_ok
      | cons _ _ => cases h

theorem takes_of_takeShort {c : Char} {rest : List Char} (hword : word.toList = '-' :: c :: rest)
    (h : r.takeShort g (c :: rest) = .ok r') : Takes word r r' := by
  unfold takeShort at h
  dsimp only at h
  split at h
  · next opt hfind =>
    have hname : opt.short? = some c := by simpa using List.find?_some hfind
    exact takes_of_beginOption (Opt.givenBy_of_short hname hword) h
  · split at h
    · exact absurd h ask_ne_ok
    · split at h
      · exact absurd h ask_ne_ok
      · cases h

theorem takes_of_takeArgument (h : r.takeArgument g word = .ok r') : Takes word r r' := by
  rw [takeArgument] at h
  split at h
  · next htrailing =>
    obtain ⟨next, hsettle, h⟩ := bind_eq_ok_iff.mp h
    cases h
    exact .command next (Bool.and_eq_true_iff.mp htrailing).1 hsettle
  · split at h
    · obtain ⟨next, hsettle, h⟩ := bind_eq_ok_iff.mp h
      cases h
      exact .argument next hsettle
    · split at h <;> cases h

theorem takes_of_takeWord (h : r.takeWord g word = .ok r') : Takes word r r' := by
  rw [takeWord] at h
  split at h
  · exact takes_of_takeArgument h
  · split at h
    · next hword =>
      cases h
      exact .dashes (String.toList_inj.mp hword)
    · next body _ hword => exact takes_of_takeLong hword h
    · next c rest _ _ hword => exact takes_of_takeShort hword h
    · split at h
      · next opt hwaits =>
        cases h
        exact .value opt hwaits
      · exact takes_of_takeArgument h

/-- Has this option a value, or is it waiting for one? -/
def Mentions (r : Reading) (opt : Opt) : Prop :=
  r.options.has opt = true ∨ ∃ value, r.pending = some (.option opt value)

theorem mentions_of_settle (h : r.settle = .ok next) (hopt : next.Mentions opt) :
    r.Mentions opt := by
  have hhas : next.options.has opt = true := by
    rcases hopt with hopt | ⟨value, hvalue⟩
    · exact hopt
    · rw [pending_of_settle h] at hvalue
      cases hvalue
  rcases settle_cases h with ⟨rfl, -⟩ | ⟨given, s, o, hpending, htake, rfl⟩ | ⟨_, _, -, rfl⟩
  · exact hopt
  · rw [Options.has_of_take htake, Bool.or_eq_true, decide_eq_true_eq] at hhas
    rcases hhas with rfl | hhas
    · exact .inr ⟨some s, hpending⟩
    · exact .inl hhas
  · exact .inl hhas

/-- An option that is mentioned after a word is given by this word, or was mentioned before. -/
theorem Takes.mentions (h : Takes word r r') (hopt : r'.Mentions opt) :
    r.Mentions opt ∨ opt.GivenBy word := by
  cases h with
  | dashes => exact .inl hopt
  | value given hwaits =>
    rcases hopt with hopt | ⟨value, hvalue⟩
    · exact .inl (.inl hopt)
    · cases hvalue
      exact .inl (.inr ⟨none, hwaits⟩)
  | begins given next hgiven hsettle =>
    rcases hopt with hopt | ⟨value, hvalue⟩
    · exact .inl (mentions_of_settle hsettle (.inl hopt))
    · cases hvalue
      exact .inr hgiven
  | attached given s next o hgiven hsettle htake =>
    -- the value that was attached is there, and what had begun before it
    rcases hopt with hopt | hopt
    · rw [Options.has_of_take htake, Bool.or_eq_true, decide_eq_true_eq] at hopt
      rcases hopt with rfl | hopt
      · exact .inr hgiven
      · exact .inl (mentions_of_settle hsettle (.inl hopt))
    · exact .inl (mentions_of_settle hsettle (.inr hopt))
  | argument next hsettle =>
    rcases hopt with hopt | ⟨value, hvalue⟩
    · exact .inl (mentions_of_settle hsettle (.inl hopt))
    · cases hvalue
  | command next _ hsettle => exact .inl (mentions_of_settle hsettle hopt)

/-- Only the two dashes end the options, and nothing before them belongs to the program. -/
theorem Takes.before_dashes (h : Takes word r r') (hword : word ≠ "--")
    (hr : r.trailing = false) : r'.trailing = false ∧ r'.command = r.command := by
  cases h with
  | dashes h => exact absurd h hword
  | value => exact ⟨hr, rfl⟩
  | begins _ _ _ hsettle =>
    exact ⟨(trailing_of_settle hsettle).trans hr, (command_of_settle hsettle :)⟩
  | attached _ _ _ _ _ hsettle =>
    exact ⟨(trailing_of_settle hsettle).trans hr, (command_of_settle hsettle :)⟩
  | argument _ hsettle =>
    exact ⟨(trailing_of_settle hsettle).trans hr, (command_of_settle hsettle :)⟩
  | command _ htrailing => rw [hr] at htrailing; cases htrailing

/-! ### Many words -/

/-- Take one word after another. -/
def takeWords (g : Grammar) (r : Reading) (words : List String) : Except UsageError Reading :=
  words.foldlM (takeWord g) r

theorem takeWords_cons_eq_ok_iff :
    r.takeWords g (word :: words) = .ok r' ↔
      ∃ next, r.takeWord g word = .ok next ∧ next.takeWords g words = .ok r' := by
  rw [takeWords, List.foldlM_cons, bind_eq_ok_iff]
  rfl

theorem mentions_of_takeWords (h : r.takeWords g words = .ok r') (hopt : r'.Mentions opt) :
    r.Mentions opt ∨ ∃ word ∈ words, opt.GivenBy word := by
  induction words generalizing r with
  | nil =>
    cases h
    exact .inl hopt
  | cons word words ih =>
    obtain ⟨next, hword, hwords⟩ := takeWords_cons_eq_ok_iff.mp h
    rcases ih hwords with hnext | ⟨given, hmem, hgiven⟩
    -- it was mentioned once the first word had been taken: that word gives it, if nothing before
    · rcases (takes_of_takeWord hword).mentions hnext with hr | hgiven
      · exact .inl hr
      · exact .inr ⟨word, by simp, hgiven⟩
    · exact .inr ⟨given, by simp [hmem], hgiven⟩

theorem takeWords_of_no_dashes (h : r.takeWords g words = .ok r') (hwords : "--" ∉ words)
    (hr : r.trailing = false) : r'.trailing = false ∧ r'.command = r.command := by
  induction words generalizing r with
  | nil =>
    cases h
    exact ⟨hr, rfl⟩
  | cons word words ih =>
    rw [List.mem_cons, not_or] at hwords
    obtain ⟨next, hword, hrest⟩ := takeWords_cons_eq_ok_iff.mp h
    obtain ⟨htrailing, hcommand⟩ := (takes_of_takeWord hword).before_dashes (Ne.symm hwords.1) hr
    obtain ⟨htrailing', hcommand'⟩ := ih hrest hwords.2 htrailing
    exact ⟨htrailing', hcommand'.trans hcommand⟩

end Reading

/-- Words are taken one after another; what has begun at the end is read then. -/
theorem readWords_append (g : Grammar) (r : Reading) (words rest : List String) :
    readWords g r (words ++ rest) = r.takeWords g words >>= fun next => readWords g next rest := by
  induction words generalizing r with
  | nil => rfl
  | cons word words ih =>
    rw [Reading.takeWords, List.foldlM_cons, List.cons_append, readWords]
    cases r.takeWord g word with
    | error e => rfl
    | ok next => exact ih next

theorem readWords_eq (g : Grammar) (r : Reading) (words : List String) :
    readWords g r words = r.takeWords g words >>= Reading.settle := by
  have h := readWords_append g r words []
  rwa [List.append_nil] at h

end Rehearsal.CommandLine
