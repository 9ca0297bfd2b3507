import Rehearsal.Proofs.Comparison.Echo
import Rehearsal.Proofs.Session.Run

/-!
# The transcript of a session

A session echoes what it sends and what is right of the output. Its `transcript` lists these pieces
in the order of the events, and `Shows` says what they do to a session whose sink takes everything:
they are the echo, and the right ones are dropped from the expected output.

A session whose sink takes everything fails only if a stream breaks (`broken_mem_of_play_failed`). A
session with room for so many bytes in its sink is the same session until the room is used up
(`play_withRoom_of_le`). If the transcript is longer than that, the session fails at the first piece
that does not fit (`play_withRoom_of_lt`). Input is consumed before it is echoed and a right line
after, so if that piece was input it counts as sent, and if it was a line it is still expected
(`CutShort`).

The main statement, `echo_faithful_and_cut_short`, puts both together.
-/

namespace Rehearsal

namespace Session

open Bytes

/-! ### Pieces -/

/-- A piece of a transcript. -/
inductive Piece where
  /-- Input that was sent. -/
  | sent (bytes : Bytes)
  /-- A line of output that was right. -/
  | right (line : Bytes)
  deriving DecidableEq, Repr

namespace Piece

/-- What is echoed of a piece. -/
def bytes : Piece → Bytes
  | .sent bytes => bytes
  | .right line => line

/-- How a session fails if the sink refuses a piece. -/
def failure : Piece → Failure
  | .sent _ => .notEchoed .input
  | .right _ => .notEchoed .output

/-- What was sent of some pieces. -/
def sentOf (pieces : List Piece) : Bytes :=
  pieces.flatMap fun
    | .sent bytes => bytes
    | .right _ => []

/-- The right lines of some pieces. -/
def rightOf (pieces : List Piece) : List Bytes :=
  pieces.filterMap fun
    | .sent _ => none
    | .right line => some line

@[simp] theorem sentOf_append (a b : List Piece) : sentOf (a ++ b) = sentOf a ++ sentOf b :=
  List.flatMap_append

@[simp] theorem rightOf_append (a b : List Piece) : rightOf (a ++ b) = rightOf a ++ rightOf b :=
  List.filterMap_append

@[simp] theorem sentOf_map_right (lines : List Bytes) : sentOf (lines.map .right) = [] := by
  simp [sentOf, List.flatMap_map]

@[simp] theorem rightOf_map_right (lines : List Bytes) : rightOf (lines.map .right) = lines := by
  rw [rightOf, List.filterMap_map]
  exact List.filterMap_some

@[simp] theorem flatMap_bytes_map_right (lines : List Bytes) :
    (lines.map .right).flatMap bytes = lines.flatten := by
  simp [bytes, List.flatMap_map]

end Piece

open Piece

/-- The pieces that an event adds to the transcript. -/
def piecesAt (s : Session) : Event → List Piece
  | .accepted count => [.sent (s.cursor.sent count)]
  | .output chunk => (Comparator.feedRight s.cursor chunk).map .right
  | _ => []

/-- The pieces of a trail. -/
def piecesOn (trail : List (Session × Event)) : List Piece :=
  trail.flatMap fun (u, e) => u.piecesAt e

/-- What is sent and what is right in a run, in the order of its events. -/
def transcript (k : Comparator) (s : Session) (events : List Event) : List Piece :=
  piecesOn (s.trail k events)

theorem transcript_cons (k : Comparator) (s : Session) (e : Event) (events : List Event) :
    s.transcript k (e :: events) =
      s.piecesAt e ++
        match s.step k e with
        | .running t => t.transcript k events
        | _ => [] := by
  rw [transcript, trail, piecesOn, List.flatMap_cons]
  cases s.step k e <;> rfl

variable {k : Comparator} {s t u : Session} {e : Event} {past events : List Event}
  {ending : Ending} {failure : Failure}

theorem sentOf_piecesAt (s : Session) (e : Event) : sentOf (s.piecesAt e) = s.inputTakenAt e := by
  cases e with
  | accepted count => simp [piecesAt, sentOf, inputTakenAt]
  | output chunk => exact sentOf_map_right _
  | outputEnd | errorOutput | errorEnd | refused | broken | quiet => rfl

/-- What is sent is what the program takes. -/
theorem sentOf_transcript (k : Comparator) (s : Session) (events : List Event) :
    sentOf (s.transcript k events) = s.inputTaken k events := by
  rw [inputTaken_eq_flatMap_trail, transcript]
  induction s.trail k events with
  | nil => rfl
  | cons step trail ih =>
    rw [piecesOn, List.flatMap_cons, sentOf_append, sentOf_piecesAt, List.flatMap_cons]
    exact congrArg _ ih

theorem Reaches.transcript_concat {s₀ : Session} (h : Reaches k s₀ past s) (e : Event) :
    s₀.transcript k (past ++ [e]) = s₀.transcript k past ++ s.piecesAt e := by
  rw [transcript, h.trail_concat, piecesOn, List.flatMap_append, List.flatMap_singleton]
  rfl

/-! ### A sink that takes everything -/

/-- The pieces that were shown between two moments of a session whose sink has no limit. -/
structure Shows (s : Session) (pieces : List Piece) (t : Session) : Prop where
  room : t.echo.room = none
  contents : t.echo.contents = s.echo.contents ++ pieces.flatMap Piece.bytes
  expected : (rightOf pieces).flatten ++ t.cursor.expected = s.cursor.expected

namespace Shows

theorem of_eq (hopen : s.echo.room = none) (hecho : t.echo = s.echo)
    (hexpected : t.cursor.expected = s.cursor.expected) : Shows s [] t := by
  refine ⟨?_, ?_, hexpected⟩
  · rw [hecho]
    exact hopen
  · rw [hecho]
    exact (List.append_nil _).symm

theorem trans {before after : List Piece} (h : Shows s before t) (h' : Shows t after u) :
    Shows s (before ++ after) u := by
  refine ⟨h'.room, ?_, ?_⟩
  · rw [h'.contents, h.contents, List.flatMap_append, List.append_assoc]
  · rw [rightOf_append, List.flatten_append, List.append_assoc, h'.expected, h.expected]

theorem output (hopen : s.echo.room = none) {chunk : Bytes}
    (hcursor : t.cursor = (k.feed s.cursor chunk s.echo).cursor)
    (hecho : t.echo = (k.feed s.cursor chunk s.echo).echo) :
    Shows s (s.piecesAt (.output chunk)) t := by
  obtain ⟨hflow, hroom⟩ := k.feed_unlimited s.cursor chunk s.echo hopen
  refine ⟨?_, ?_, ?_⟩
  · rw [hecho]
    exact hroom
  · rw [hecho, k.feed_echo_eq hflow, piecesAt, flatMap_bytes_map_right]
  · rw [hcursor, piecesAt, rightOf_map_right]
    exact k.feedRight_append_expected hflow

theorem accepted (hopen : s.echo.room = none) {count : Nat} {echo : Sink}
    (hecho : s.echo.write (s.cursor.sent count) = .ok echo) :
    Shows s (s.piecesAt (.accepted count))
      { s with cursor := s.cursor.consumeInput count, echo } := by
  rw [Sink.write_of_room_eq_none hopen] at hecho
  cases hecho
  exact ⟨hopen, by simp [piecesAt, bytes], rfl⟩

end Shows

/-- A sink without a limit refuses nothing, so if a session fails, a stream broke. -/
theorem Fails.of_room_eq_none (h : Fails k s e failure t) (hopen : s.echo.room = none) :
    ∃ stream cause, e = .broken stream cause ∧ failure = .broken stream cause ∧ t = s := by
  cases h with
  | output hflow => exact absurd hflow (k.feed_unlimited s.cursor _ s.echo hopen).1
  | input hcount hecho =>
    rw [Sink.write_of_room_eq_none hopen] at hecho
    cases hecho
  | @broken stream cause => exact ⟨stream, cause, rfl, rfl, rfl⟩

/-- What an event adds to the transcript is shown at once. -/
theorem step_shows (hopen : s.echo.room = none) (k : Comparator) (e : Event) :
    Shows s (s.piecesAt e) (s.step k e).session := by
  have hstep := step_session_spec k s e
  generalize (s.step k e).session = t at hstep
  rcases hstep with hmoves | ⟨ending, hstops⟩ | ⟨failure, hfails⟩
  · cases hmoves with
    | output hflow => exact .output hopen rfl rfl
    | accepted hcount hecho => exact .accepted hopen hecho
    | stages hout herr hpending hright hstage =>
      refine .of_eq hopen rfl ?_
      rw [Cursor.stage?_eq_some hstage]
    | outputEnd | errorEnd | waitsForInput | closesInput | waitsForOutput =>
      exact .of_eq hopen rfl rfl
  · cases hstops with
    | mismatchCap hflow => exact .output hopen rfl rfl
    | acceptsNothing =>
      -- The piece that is sent is empty.
      exact ⟨hopen, by simp [piecesAt, bytes, Cursor.sent], rfl⟩
    | unterminated | outputEnd | errorOutput | errorEnd | refused | quiet | diverged =>
      exact .of_eq hopen rfl rfl
  · obtain ⟨stream, cause, rfl, -, rfl⟩ := hfails.of_room_eq_none hopen
    exact .of_eq hopen rfl rfl

/-- So is, along a run, all of the transcript. -/
theorem play_shows (hopen : s.echo.room = none) (k : Comparator) (events : List Event) :
    Shows s (s.transcript k events) (s.play k events).session := by
  refine play_induction (motive := fun s trail t => s.echo.room = none → Shows s (piecesOn trail) t)
    (fun s hs => .of_eq hs rfl rfl) ?_ s events hopen
  intro s e trail t ih hs
  have hstep := step_shows hs k e
  rw [piecesOn, List.flatMap_cons]
  exact hstep.trans (ih hstep.room)

/-- The right lines of a transcript are those of all the output, whichever way the run is over. -/
theorem Admits.rightOf_transcript {input expected : Bytes} {echo : Sink}
    (h : (start input expected echo).Admits k events) :
    rightOf ((start input expected echo).transcript k events) =
      Comparator.rightLines expected (splitLines (outputRead events)).1 := by
  induction events using List.reverseRecOn with
  | nil => simp [transcript, trail, piecesOn, rightOf, outputRead, Comparator.rightLines]
  | append_singleton past e ih =>
    obtain ⟨u, hu, -⟩ := reaches_of_admits_concat h
    rw [hu.transcript_concat, rightOf_append, ih hu.admits, outputRead_concat]
    cases e with
    | output chunk =>
      have hcompared := hu.compared
      rw [piecesAt, rightOf_map_right, outputOf, hcompared.splitLines_append,
        hcompared.aligned.rightLines_append]
      rfl
    | accepted | outputEnd | errorOutput | errorEnd | refused | broken | quiet =>
      simp [piecesAt, rightOf, outputOf]

/-! ### A sink with room for so many bytes -/

/-- The same session with room for so many bytes in its sink. -/
def withRoom (s : Session) (room : Nat) : Session := { s with echo := s.echo.withRoom room }

/-- The same progress with room for so many bytes in the sink. -/
def Progress.withRoom (room : Nat) : Progress → Progress
  | .running s => .running (s.withRoom room)
  | .ended ending s => .ended ending (s.withRoom room)
  | .failed cause s => .failed cause (s.withRoom room)

section Step

variable {room : Nat}

/-- A move is the same move if what it echoes fits. -/
theorem Moves.withRoom (h : Moves k s e t) (hopen : s.echo.room = none)
    (hfits : ((s.piecesAt e).flatMap Piece.bytes).length ≤ room) :
    Moves k (s.withRoom room) e
      (t.withRoom (room - ((s.piecesAt e).flatMap Piece.bytes).length)) := by
  cases h with
  | output hflow =>
    rw [piecesAt, flatMap_bytes_map_right] at hfits ⊢
    have hfeed := Comparator.feed_withRoom_of_le k hopen hfits
    have hmoves : Moves k (s.withRoom room) (.output _) _ :=
      .output (by rw [withRoom, hfeed]; exact hflow)
    rw [withRoom, hfeed] at hmoves
    exact hmoves
  | accepted hcount hecho =>
    rw [piecesAt, List.flatMap_singleton, bytes] at hfits ⊢
    rw [Sink.write_of_room_eq_none hopen] at hecho
    cases hecho
    exact .accepted hcount (Sink.write_withRoom_of_le s.echo hfits)
  | outputEnd hcarry herr => exact .outputEnd hcarry herr
  | errorEnd hout => exact .errorEnd hout
  | waitsForInput hout herr hpending => exact .waitsForInput hout herr hpending
  | stages hout herr hpending hright hstage => exact .stages hout herr hpending hright hstage
  | closesInput hout herr hpending hright hstage hclosed =>
    exact .closesInput hout herr hpending hright hstage hclosed
  | waitsForOutput hout herr hpending hright hstage hclosed =>
    exact .waitsForOutput hout herr hpending hright hstage hclosed

/-- So is a stop. -/
theorem Stops.withRoom (h : Stops k s e ending t) (hopen : s.echo.room = none)
    (hfits : ((s.piecesAt e).flatMap Piece.bytes).length ≤ room) :
    Stops k (s.withRoom room) e ending
      (t.withRoom (room - ((s.piecesAt e).flatMap Piece.bytes).length)) := by
  cases h with
  | mismatchCap hflow =>
    rw [piecesAt, flatMap_bytes_map_right] at hfits ⊢
    have hfeed := Comparator.feed_withRoom_of_le k hopen hfits
    have hstops : Stops k (s.withRoom room) (.output _) _ _ :=
      .mismatchCap (by rw [withRoom, hfeed]; exact hflow)
    rw [withRoom, hfeed] at hstops
    exact hstops
  | acceptsNothing =>
    rw [piecesAt, List.flatMap_singleton, bytes]
    exact .acceptsNothing
  | unterminated hcarry => exact .unterminated hcarry
  | outputEnd hcarry hended => exact .outputEnd hcarry hended
  | errorOutput => exact .errorOutput
  | errorEnd hended => exact .errorEnd hended
  | refused => exact .refused
  | quiet hended => exact .quiet hended
  | diverged hout herr hpending hwrong => exact .diverged hout herr hpending hwrong

/-- A stream that breaks does so on any sink. -/
theorem Fails.withRoom (h : Fails k s e failure t) (hopen : s.echo.room = none) :
    Fails k (s.withRoom room) e failure
      (t.withRoom (room - ((s.piecesAt e).flatMap Piece.bytes).length)) := by
  obtain ⟨stream, cause, rfl, rfl, rfl⟩ := h.of_room_eq_none hopen
  exact .broken

/-- As long as what is echoed at an event fits, the session takes the event as if nothing limited
its sink. -/
theorem step_withRoom_of_le (k : Comparator) (hopen : s.echo.room = none)
    (hfits : ((s.piecesAt e).flatMap Piece.bytes).length ≤ room) :
    (s.withRoom room).step k e =
      (s.step k e).withRoom (room - ((s.piecesAt e).flatMap Piece.bytes).length) := by
  rcases step_spec k s e with ⟨t, ht, hmoves⟩ | ⟨ending, t, ht, hstops⟩ | ⟨failure, t, ht, hfails⟩
  · rw [ht]
    exact step_eq_running_iff.mpr (hmoves.withRoom hopen hfits)
  · rw [ht]
    exact step_eq_ended_iff.mpr (hstops.withRoom hopen hfits)
  · rw [ht]
    exact step_eq_failed_iff.mpr (hfails.withRoom hopen)

end Step

/-- How a session fails whose sink has no room for all pieces that are to be shown: those of `done`
were, the next one was not, and `t` is the session that is left. -/
structure CutShort (s : Session) (pieces : List Piece) (room : Nat) (progress : Progress)
    (done : List Piece) (piece : Piece) (t : Session) : Prop where
  breaks : BreaksOff Piece.bytes pieces room done piece
  fails : progress = .failed piece.failure t
  contents : t.echo.contents = s.echo.contents ++ (pieces.flatMap Piece.bytes).take room
  expected : (rightOf done).flatten ++ t.cursor.expected = s.cursor.expected

namespace CutShort

variable {pieces done : List Piece} {piece : Piece} {progress : Progress} {room : Nat}

theorem append_left {front : List Piece} (hfront : Shows s front u)
    (hfits : (front.flatMap Piece.bytes).length ≤ room)
    (h : CutShort u pieces (room - (front.flatMap Piece.bytes).length) progress done piece t) :
    CutShort s (front ++ pieces) room progress (front ++ done) piece t := by
  refine ⟨h.breaks.append_left hfits, h.fails, ?_, ?_⟩
  · rw [h.contents, hfront.contents, List.flatMap_append, List.take_append,
      List.take_of_length_le hfits, List.append_assoc]
  · rw [rightOf_append, List.flatten_append, List.append_assoc, h.expected, hfront.expected]

theorem append_right (h : CutShort s pieces room progress done piece t) (later : List Piece) :
    CutShort s (pieces ++ later) room progress done piece t := by
  refine ⟨h.breaks.append_right later, h.fails, ?_, h.expected⟩
  rw [List.flatMap_append, List.take_append_of_le_length (Nat.le_of_lt h.breaks.room_lt)]
  exact h.contents

end CutShort

section Room

variable {room : Nat}

/-- Otherwise it fails at the first piece of the event that does not fit. What the event takes of
the input is what was sent up to that piece. -/
theorem step_withRoom_of_lt (k : Comparator) (hopen : s.echo.room = none)
    (hfull : room < ((s.piecesAt e).flatMap Piece.bytes).length) :
    ∃ done piece t, CutShort s (s.piecesAt e) room ((s.withRoom room).step k e) done piece t ∧
      s.inputTakenAt e = sentOf (done ++ [piece]) := by
  cases e with
  | output chunk =>
    have hlines := hfull
    rw [piecesAt, flatMap_bytes_map_right] at hlines
    obtain ⟨hflow, hcontents, done, line, hbreaks, hexpected⟩ :=
      Comparator.feed_withRoom_of_lt k hopen hlines
    have hfails : Fails k (s.withRoom room) (.output chunk) (.notEchoed .output) _ :=
      .output hflow
    refine ⟨done.map .right, .right line, _,
      ⟨hbreaks.map Piece.right fun _ => rfl, step_eq_failed_iff.mpr hfails, ?_, ?_⟩, ?_⟩
    · rw [piecesAt, flatMap_bytes_map_right]
      exact hcontents
    · rw [rightOf_map_right]
      exact hexpected
    · rw [sentOf_append, sentOf_map_right]
      rfl
  | accepted count =>
    have hsent := hfull
    rw [piecesAt, List.flatMap_singleton] at hsent
    have hcount : count ≠ 0 := by
      rintro rfl
      simp [bytes, Cursor.sent] at hsent
    have hfails : Fails k (s.withRoom room) (.accepted count) (.notEchoed .input) _ :=
      .input hcount (Sink.write_withRoom_of_lt s.echo hsent)
    refine ⟨[], .sent (s.cursor.sent count), _,
      ⟨.first hsent [], step_eq_failed_iff.mpr hfails, ?_, rfl⟩, ?_⟩
    · rw [piecesAt, List.flatMap_singleton]
      exact Sink.contents_push s.echo _
    · simp [sentOf, inputTakenAt]
  | outputEnd | errorOutput | errorEnd | refused | broken | quiet => cases hfull

/-- A run whose transcript fits is the same run. -/
theorem play_withRoom_of_le (k : Comparator) (hopen : s.echo.room = none)
    (hfits : ((s.transcript k events).flatMap Piece.bytes).length ≤ room) :
    (s.withRoom room).play k events =
      (s.play k events).withRoom (room - ((s.transcript k events).flatMap Piece.bytes).length) := by
  induction events generalizing s room with
  | nil => rfl
  | cons e events ih =>
    rw [transcript_cons, List.flatMap_append, List.length_append] at hfits ⊢
    have hstep := step_withRoom_of_le k hopen (Nat.le_of_add_right_le hfits)
    have hshows := step_shows hopen k e
    rw [play, play, hstep, Nat.sub_add_eq]
    cases hnext : s.step k e with
    | running t =>
      rw [hnext] at hfits hshows
      exact ih hshows.room (Nat.le_sub_of_add_le' hfits)
    | ended ending t => rfl
    | failed failure t => rfl

/-- A run whose transcript does not fit fails at the first piece that does not. What was taken of
the input is what was sent up to that piece. -/
theorem play_withRoom_of_lt (k : Comparator) (hopen : s.echo.room = none)
    (hfull : room < ((s.transcript k events).flatMap Piece.bytes).length) :
    ∃ done piece t,
      CutShort s (s.transcript k events) room ((s.withRoom room).play k events) done piece t ∧
      (s.withRoom room).inputTaken k events = sentOf (done ++ [piece]) := by
  induction events generalizing s room with
  | nil => cases hfull
  | cons e events ih =>
    rw [transcript_cons] at hfull ⊢
    rw [play, inputTaken]
    by_cases hfits : ((s.piecesAt e).flatMap Piece.bytes).length ≤ room
    · -- The event is as without a limit, and the room that is left is too small for what follows.
      have hstep := step_withRoom_of_le k hopen hfits
      have hshows := step_shows hopen k e
      rw [List.flatMap_append, List.length_append] at hfull
      rw [hstep]
      cases hnext : s.step k e with
      | running t =>
        rw [hnext] at hfull hshows
        obtain ⟨done, piece, u, hcut, htaken⟩ :=
          ih hshows.room (Nat.sub_lt_left_of_lt_add hfits hfull)
        refine ⟨s.piecesAt e ++ done, piece, u, hcut.append_left hshows hfits, ?_⟩
        rw [List.append_assoc, sentOf_append, sentOf_piecesAt]
        exact congrArg _ htaken
      | ended ending t =>
        rw [hnext] at hfull
        exact absurd hfull (Nat.not_lt_of_le hfits)
      | failed failure t =>
        rw [hnext] at hfull
        exact absurd hfull (Nat.not_lt_of_le hfits)
    · -- The session does not survive the event, so nothing that follows matters.
      obtain ⟨done, piece, u, hcut, htaken⟩ := step_withRoom_of_lt k hopen (Nat.lt_of_not_le hfits)
      refine ⟨done, piece, u, ?_, ?_⟩
      · rw [hcut.fails]
        exact ⟨hcut.breaks.append_right _, rfl, (hcut.append_right _).contents, hcut.expected⟩
      · rw [hcut.fails]
        exact (List.append_nil _).trans htaken

end Room

/-- A session whose sink takes everything fails only if a stream breaks. -/
theorem broken_mem_of_play_failed (hopen : s.echo.room = none)
    (hfailed : s.play k events = .failed failure t) :
    ∃ stream cause, .broken stream cause ∈ events ∧ failure = .broken stream cause := by
  induction events generalizing s with
  | nil => cases hfailed
  | cons e events ih =>
    have hshows := step_shows hopen k e
    rw [play] at hfailed
    cases hstep : s.step k e with
    | running u =>
      rw [hstep] at hfailed hshows
      obtain ⟨stream, cause, hmem, hfailure⟩ := ih hshows.room hfailed
      exact ⟨stream, cause, List.mem_cons_of_mem e hmem, hfailure⟩
    | ended ending u =>
      rw [hstep] at hfailed
      cases hfailed
    | failed failure' u =>
      rw [hstep] at hfailed
      cases hfailed
      obtain ⟨stream, cause, rfl, hfailure, -⟩ :=
        (step_eq_failed_iff.mp hstep).of_room_eq_none hopen
      exact ⟨stream, cause, List.mem_cons_self, hfailure⟩

section Start

variable {input expected : Bytes} {echo : Sink}

/-- **The echo is the transcript, and a full sink cuts it short.** After any events, a sink without
a limit holds what was sent and what was right of the output in the order of the events, and the
session fails only if a stream breaks. What was sent and what is left of the input make up the
input, and what was right and what is still expected make up the expected output.

With room for `n` bytes the run is the same if the transcript has no more. If it has more, the run
fails, and the sink is left with the first `n` bytes, in which all pieces are whole but the one at
which it failed. That one was the last to be sent, or it is a right line that is still expected. -/
theorem echo_faithful_and_cut_short (hopen : echo.room = none)
    (h : (start input expected echo).Admits k events) :
    let whole := (start input expected echo).play k events
    let shown := (start input expected echo).transcript k events
    let text := shown.flatMap Piece.bytes
    ((∀ failure t, whole = .failed failure t →
        ∃ stream cause, .broken stream cause ∈ events ∧ failure = .broken stream cause) ∧
      whole.session.echo.contents = echo.contents ++ text ∧
      sentOf shown = (start input expected echo).inputTaken k events ∧
      sentOf shown ++ whole.session.cursor.remainingInput = input ∧
      rightOf shown = Comparator.rightLines expected (splitLines (outputRead events)).1 ∧
      (rightOf shown).flatten ++ whole.session.cursor.expected = expected) ∧
    ∀ n,
      let limited := start input expected (echo.withRoom n)
      (text.length ≤ n → limited.play k events = whole.withRoom (n - text.length)) ∧
      (n < text.length → ∃ done piece t,
        limited.play k events = .failed piece.failure t ∧
        BreaksOff Piece.bytes shown n done piece ∧
        t.echo.contents = echo.contents ++ text.take n ∧
        echo.contents ++ done.flatMap Piece.bytes <+: t.echo.contents ∧
        (rightOf done).flatten ++ t.cursor.expected = expected ∧
        sentOf (done ++ [piece]) = limited.inputTaken k events ∧
        sentOf (done ++ [piece]) ++ t.cursor.remainingInput = input) := by
  intro whole shown text
  have hshows : Shows (start input expected echo) shown whole.session := play_shows hopen k events
  have hsent : sentOf shown = (start input expected echo).inputTaken k events :=
    sentOf_transcript k (start input expected echo) events
  refine ⟨⟨fun failure t => broken_mem_of_play_failed hopen, hshows.contents, hsent, ?_,
    h.rightOf_transcript, hshows.expected⟩, fun n => ⟨fun hfits => ?_, fun hfull => ?_⟩⟩
  · rw [hsent]
    exact inputTaken_append_remainingInput k (start input expected echo) events
  · exact play_withRoom_of_le k hopen hfits
  · obtain ⟨done, piece, t, hcut, htaken⟩ := play_withRoom_of_lt k hopen hfull
    refine ⟨done, piece, t, hcut.fails, hcut.breaks, hcut.contents, ?_, hcut.expected,
      htaken.symm, ?_⟩
    · rw [hcut.contents]
      exact (List.prefix_append_right_inj _).mpr hcut.breaks.flatMap_prefix_take
    · have hall :=
        inputTaken_append_remainingInput k ((start input expected echo).withRoom n) events
      rw [hcut.fails, htaken] at hall
      exact hall

/-- A line is sent and a line is right, of two bytes each. If there is room for three, the second
line breaks off after its first byte and is still expected. -/
theorem echo_cut_short_in_right_line :
    let events : List Event := [.quiet, .accepted 2, .output [98, 10]]
    let k : Comparator := .ofThreshold 15
    (start [97, 10] [98, 10] {}).Admits k events ∧
      ∃ done piece t,
        (start [97, 10] [98, 10] (Sink.withRoom {} 3)).play k events = .failed piece.failure t ∧
        t.echo.contents = [97, 10, 98] ∧ (rightOf done).flatten ++ t.cursor.expected = [98, 10] ∧
        sentOf (done ++ [piece]) ++ t.cursor.remainingInput = [97, 10] := by
  intro events k
  have hadmits : (start [97, 10] [98, 10] {}).Admits k events := by decide
  obtain ⟨-, hlimited⟩ := echo_faithful_and_cut_short rfl hadmits
  obtain ⟨done, piece, t, hfails, -, hcontents, -, hexpected, -, hinput⟩ :=
    (hlimited 3).2 (by decide)
  exact ⟨hadmits, done, piece, t, hfails, hcontents, hexpected, hinput⟩

end Start

end Session

end Rehearsal
