import Rehearsal.Runner
import Rehearsal.Proofs.Session.Transcript

/-!
# The sink does not decide

What a sink already holds is never looked at. `s.onto before` is the sink `s` with the contents of
another one in front, and everything that writes to a sink does to `s.onto before` what it does to
`s`, contents in front (`Sink.write_onto`). This carries over from a write to a comparison, to an
event, and to a run of events (`Session.play_onto`).

Together with what a limit on the sink does to a run, this says what becomes of a test on any sink
(`Stage.run_any_sink`): the same as on an empty sink without a limit, unless the sink refuses an
echo.
-/

namespace Rehearsal

namespace Sink

/-- A sink with the contents of another one in front of its own. -/
def onto (s before : Sink) : Sink := { s with pieces := s.pieces ++ before.pieces }

theorem empty_onto {s : Sink} (h : s.room = none) : Sink.onto {} s = s := by
  rw [onto, ← h]
  rfl

theorem write_onto (s before : Sink) (data : Bytes) :
    (s.onto before).write data =
      match s.write data with
      | .ok t => .ok (t.onto before)
      | .error t => .error (t.onto before) := by
  have hroom : (s.onto before).room = s.room := rfl
  rw [write, write, hroom]
  cases s.room with
  | none => rfl
  | some room =>
    dsimp only
    split
    · rfl
    · rfl

end Sink

/-- The state after a comparison, on a sink with older contents. -/
def Fed.onto (fed : Fed) (before : Sink) : Fed := { fed with echo := fed.echo.onto before }

namespace Comparator

theorem compareLines_onto (k : Comparator) (c : Cursor) (echo before : Sink) (lines : List Bytes) :
    k.compareLines c (echo.onto before) lines = (k.compareLines c echo lines).onto before := by
  induction lines generalizing c echo with
  | nil => rfl
  | cons line lines ih =>
    rw [compareLines, compareLines]
    split
    · rw [Sink.write_onto]
      cases echo.write line with
      | error full => rfl
      | ok echo => exact ih (c.consumeExpected line) echo
    · dsimp only
      split
      · rfl
      · exact ih (c.addMismatch line) echo

theorem feed_onto (k : Comparator) (c : Cursor) (data : Bytes) (echo before : Sink) :
    k.feed c data (echo.onto before) = (k.feed c data echo).onto before := by
  have hcompleted : k.compareCompleted c data (echo.onto before) =
      (k.compareCompleted c data echo).onto before := k.compareLines_onto _ echo before _
  rw [feed_eq, feed_eq, hcompleted]
  rfl

end Comparator

namespace Session

/-- A session whose sink has older contents. -/
def onto (s : Session) (before : Sink) : Session := { s with echo := s.echo.onto before }

/-- Where a session stands, if its sink has older contents. -/
def Progress.onto (before : Sink) : Progress → Progress
  | .running s => .running (s.onto before)
  | .ended ending s => .ended ending (s.onto before)
  | .failed failure s => .failed failure (s.onto before)

variable {k : Comparator} {s t : Session} {e : Event} {ending : Ending} {failure : Failure}

theorem Moves.onto (h : Moves k s e t) (before : Sink) :
    Moves k (s.onto before) e (t.onto before) := by
  cases h with
  | @output chunk hflow =>
    have hfeed := k.feed_onto s.cursor chunk s.echo before
    have hmoves : Moves k (s.onto before) (.output chunk) _ :=
      .output (by rw [Session.onto, hfeed]; exact hflow)
    rw [Session.onto, hfeed] at hmoves
    exact hmoves
  | @accepted count echo hcount hecho =>
    refine .accepted hcount ?_
    show (s.echo.onto before).write (s.cursor.sent count) = _
    rw [Sink.write_onto, hecho]
  | outputEnd hcarry hopen => exact .outputEnd hcarry hopen
  | errorEnd hopen => exact .errorEnd hopen
  | waitsForInput hout herr hpending => exact .waitsForInput hout herr hpending
  | stages hout herr hpending hright hstage => exact .stages hout herr hpending hright hstage
  | closesInput hout herr hpending hright hstage hclosed =>
    exact .closesInput hout herr hpending hright hstage hclosed
  | waitsForOutput hout herr hpending hright hstage hclosed =>
    exact .waitsForOutput hout herr hpending hright hstage hclosed

theorem Stops.onto (h : Stops k s e ending t) (before : Sink) :
    Stops k (s.onto before) e ending (t.onto before) := by
  cases h with
  | @mismatchCap chunk hflow =>
    have hfeed := k.feed_onto s.cursor chunk s.echo before
    have hstops : Stops k (s.onto before) (.output chunk) _ _ :=
      .mismatchCap (by rw [Session.onto, hfeed]; exact hflow)
    rw [Session.onto, hfeed] at hstops
    exact hstops
  | unterminated hcarry => exact .unterminated hcarry
  | outputEnd hcarry hended => exact .outputEnd hcarry hended
  | errorOutput => exact .errorOutput
  | errorEnd hended => exact .errorEnd hended
  | acceptsNothing => exact .acceptsNothing
  | refused => exact .refused
  | quiet hended => exact .quiet hended
  | diverged hout herr hpending hwrong => exact .diverged hout herr hpending hwrong

theorem Fails.onto (h : Fails k s e failure t) (before : Sink) :
    Fails k (s.onto before) e failure (t.onto before) := by
  cases h with
  | @output chunk hflow =>
    have hfeed := k.feed_onto s.cursor chunk s.echo before
    have hfails : Fails k (s.onto before) (.output chunk) _ _ :=
      .output (by rw [Session.onto, hfeed]; exact hflow)
    rw [Session.onto, hfeed] at hfails
    exact hfails
  | @input count echo hcount hecho =>
    refine .input hcount ?_
    show (s.echo.onto before).write (s.cursor.sent count) = _
    rw [Sink.write_onto, hecho]
  | broken => exact .broken

theorem step_onto (k : Comparator) (s : Session) (e : Event) (before : Sink) :
    (s.onto before).step k e = (s.step k e).onto before := by
  rcases step_spec k s e with ⟨t, ht, hmoves⟩ | ⟨ending, t, ht, hstops⟩ | ⟨failure, t, ht, hfails⟩
  · rw [ht, step_eq_running_iff.mpr (hmoves.onto before)]
    rfl
  · rw [ht, step_eq_ended_iff.mpr (hstops.onto before)]
    rfl
  · rw [ht, step_eq_failed_iff.mpr (hfails.onto before)]
    rfl

/-- A run of events does not look at what its sink holds. -/
theorem play_onto (k : Comparator) (s : Session) (events : List Event) (before : Sink) :
    (s.onto before).play k events = (s.play k events).onto before := by
  induction events generalizing s with
  | nil => rfl
  | cons e events ih =>
    rw [play, play, step_onto]
    cases s.step k e with
    | running t => exact ih t
    | ended ending t => rfl
    | failed failure t => rfl

end Session

/-! ### A whole test -/

namespace Session

/-- No sink matters for how a session comes to its end, once it is there. -/
@[simp] theorem Progress.conclusion?_onto (timeLimit : Option Duration) (before : Sink)
    (progress : Progress) :
    (progress.onto before).conclusion? timeLimit = progress.conclusion? timeLimit := by
  cases progress <;> rfl

@[simp] theorem Progress.conclusion?_withRoom (timeLimit : Option Duration) (room : Nat)
    (progress : Progress) :
    (progress.withRoom room).conclusion? timeLimit = progress.conclusion? timeLimit := by
  cases progress <;> rfl

@[simp] theorem Progress.session_onto (before : Sink) (progress : Progress) :
    (progress.onto before).session = progress.session.onto before := by
  cases progress <;> rfl

@[simp] theorem Progress.session_withRoom (room : Nat) (progress : Progress) :
    (progress.withRoom room).session = progress.session.withRoom room := by
  cases progress <;> rfl

theorem Piece.exists_failure_eq (piece : Piece) : ∃ what, piece.failure = .notEchoed what := by
  cases piece <;> exact ⟨_, rfl⟩

end Session

namespace Runner

variable {r : Runner} {k : Comparator} {t : Testcase} {echo : Sink} {events : List Event}

/-- Without a limit, what a performance comes to is what it comes to on an empty sink. -/
theorem conclude_of_room_eq_none (h : echo.room = none) (elapsed : Duration)
    (isOver : r.IsOver k t events) :
    (r.conclude echo elapsed isOver).1 = (r.conclude {} elapsed isOver).1 ∧
      (r.conclude echo elapsed isOver).2.room = none := by
  have hplay : (Session.start t.input t.expected echo).play k events =
      ((Session.start t.input t.expected {}).play k events).onto echo := by
    rw [← Session.play_onto]
    show _ = (Session.start t.input t.expected (Sink.onto {} echo)).play k events
    rw [Sink.empty_onto h]
  obtain ⟨conclusion, hempty⟩ := Option.isSome_iff_exists.mp (isOver {})
  have hecho : ((Session.start t.input t.expected echo).play k events).conclusion? r.timeLimit =
      some conclusion := by
    rw [hplay, Session.Progress.conclusion?_onto, hempty]
  rw [conclude_of_conclusion? isOver hecho, conclude_of_conclusion? isOver hempty]
  refine ⟨?_, (Session.play_shows h k events).room⟩
  dsimp only
  rw [hplay, Session.Progress.session_onto]
  rfl

/-- A limit on the sink does not matter if there is room for the transcript. -/
theorem conclude_withRoom_of_le (h : echo.room = none) (elapsed : Duration)
    (isOver : r.IsOver k t events) {room : Nat}
    (hfits : (((Session.start t.input t.expected echo).transcript k events).flatMap
      Session.Piece.bytes).length ≤ room) :
    r.conclude (echo.withRoom room) elapsed isOver =
      ((r.conclude echo elapsed isOver).1, (r.conclude echo elapsed isOver).2.withRoom
        (room - (((Session.start t.input t.expected echo).transcript k events).flatMap
          Session.Piece.bytes).length)) := by
  have hstart : Session.start t.input t.expected (echo.withRoom room) =
      (Session.start t.input t.expected echo).withRoom room := rfl
  have hplay := Session.play_withRoom_of_le k h hfits
  obtain ⟨conclusion, hwhole⟩ := Option.isSome_iff_exists.mp (isOver echo)
  have hlimited : ((Session.start t.input t.expected (echo.withRoom room)).play k
      events).conclusion? r.timeLimit = some conclusion := by
    rw [hstart, hplay, Session.Progress.conclusion?_withRoom, hwhole]
  rw [conclude_of_conclusion? isOver hlimited, conclude_of_conclusion? isOver hwhole, hstart, hplay,
    Session.Progress.session_withRoom]
  rfl

/-- If there is not, then the sink refuses some of it, having taken what fits. -/
theorem conclude_withRoom_of_lt (h : echo.room = none) (elapsed : Duration)
    (isOver : r.IsOver k t events) {room : Nat}
    (hfull : room < (((Session.start t.input t.expected echo).transcript k events).flatMap
      Session.Piece.bytes).length) :
    ∃ what,
      (r.conclude (echo.withRoom room) elapsed isOver).1 = .error (.notPlayed (.notEchoed what)) ∧
      (r.conclude (echo.withRoom room) elapsed isOver).2.contents =
        echo.contents ++ (((Session.start t.input t.expected echo).transcript k events).flatMap
          Session.Piece.bytes).take room := by
  have hstart : Session.start t.input t.expected (echo.withRoom room) =
      (Session.start t.input t.expected echo).withRoom room := rfl
  obtain ⟨done, piece, u, hcut, -⟩ := Session.play_withRoom_of_lt k h hfull
  obtain ⟨what, hwhat⟩ := piece.exists_failure_eq
  have hlimited : ((Session.start t.input t.expected (echo.withRoom room)).play k
      events).conclusion? r.timeLimit = some (.error (.notEchoed what)) := by
    rw [hstart, hcut.fails, hwhat]
    rfl
  rw [conclude_of_conclusion? isOver hlimited, hstart, hcut.fails]
  exact ⟨what, rfl, hcut.contents⟩

/-- On any sink a performance comes to what it comes to on an empty sink without a limit, unless
the sink refuses an echo. -/
theorem conclude_any_sink (echo : Sink) (elapsed : Duration) (isOver : r.IsOver k t events) :
    (r.conclude echo elapsed isOver).1 = (r.conclude {} elapsed isOver).1 ∧
        (echo.room = none → (r.conclude echo elapsed isOver).2.room = none) ∨
      echo.room ≠ none ∧
        ∃ what, (r.conclude echo elapsed isOver).1 = .error (.notPlayed (.notEchoed what)) := by
  cases hroom : echo.room with
  | none =>
    obtain ⟨hresult, hopen⟩ := conclude_of_room_eq_none hroom elapsed isOver
    exact .inl ⟨hresult, fun _ => hopen⟩
  | some room =>
    -- Without the limit the transcript would be written in full; it fits, or it breaks off.
    let unlimited : Sink := { echo with room := none }
    have hecho : echo = unlimited.withRoom room := by
      rw [Sink.withRoom, ← hroom]
    have hunlimited : unlimited.room = none := rfl
    rw [hecho, ← (conclude_of_room_eq_none hunlimited elapsed isOver).1]
    by_cases hfits : (((Session.start t.input t.expected unlimited).transcript k
        events).flatMap Session.Piece.bytes).length ≤ room
    · left
      rw [conclude_withRoom_of_le hunlimited elapsed isOver hfits]
      exact ⟨rfl, fun hopen => absurd hopen (Option.some_ne_none room)⟩
    · right
      obtain ⟨what, hrefused, -⟩ :=
        conclude_withRoom_of_lt hunlimited elapsed isOver (Nat.lt_of_not_le hfits)
      exact ⟨Option.some_ne_none room, what, hrefused⟩

end Runner

/-- **The sink does not decide.** On any sink, what becomes of a test and of the world is what
becomes of them on an empty sink without a limit, unless the sink refuses an echo; the world does
not notice even that. -/
theorem Stage.run_any_sink {World : Type} (stage : Stage World) (w : World) (r : Runner)
    (t : Testcase) (echo : Sink) :
    (stage.run w r t echo).2.2 = (stage.run w r t {}).2.2 ∧
      ((stage.run w r t echo).1 = (stage.run w r t {}).1 ∧
          (echo.room = none → (stage.run w r t echo).2.1.room = none) ∨
        echo.room ≠ none ∧
          ∃ what, (stage.run w r t echo).1 = .error (.notPlayed (.notEchoed what))) := by
  cases hk : r.comparator? with
  | none =>
    rw [run, run, hk]
    exact ⟨rfl, .inl ⟨rfl, id⟩⟩
  | some k =>
    by_cases hcommand : r.command = []
    · rw [run, run, hk, hcommand]
      exact ⟨rfl, .inl ⟨rfl, id⟩⟩
    · rw [run_of_comparator? hk hcommand, run_of_comparator? hk hcommand]
      refine ⟨rfl, ?_⟩
      cases (stage.perform w k r t).1 with
      | unstarted cause => exact .inl ⟨rfl, id⟩
      | played events elapsed isOver => exact Runner.conclude_any_sink echo elapsed isOver

end Rehearsal
