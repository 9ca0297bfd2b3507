import Mathlib.Data.List.Forall2
import Rehearsal.BatchReport
import Rehearsal.Proofs.Json.Printing
import Rehearsal.Proofs.Text.Utf8

/-!
# The report of a run can be read back

The bytes of a report are the text of one JSON document, and that document says what the run came
to: for each outcome a record with its name, whether it passed, the reason if it did not, the
milliseconds cut to 64 bits, and the diagnostic as text (`Reports`). A diagnostic is any bytes, and
its text is what they read as, with U+FFFD for what is malformed (`Utf8.ReadsAs`).

The main statement is `report_reads_back`. Since a text says one thing only, two runs have the same
report if and only if they agree on all of this.
-/

namespace Rehearsal

/-- A byte string reads as this text if U+FFFD stands for what is malformed. -/
def Utf8.ReadsAs (bytes : Bytes) (text : String) : Prop :=
  ∃ marks, Decodes bytes marks ∧ text = String.ofList (marks.map (·.getD '\ufffd'))

theorem Utf8.readsAs_iff {bytes : Bytes} {text : String} :
    ReadsAs bytes text ↔ text = bytes.toStringLossy := by
  constructor
  · rintro ⟨marks, hmarks, rfl⟩
    rw [decodes_iff.mp hmarks]
    rfl
  · rintro rfl
    exact ⟨decode bytes, decodes_iff.mpr rfl, rfl⟩

/-! ### Documents as bytes -/

namespace Json

/-- These bytes are the text of a document. -/
def IsTextOf (bytes : Bytes) (v : Json) : Prop :=
  ∃ cs, bytes = Bytes.ofChars cs ∧ Grammar.Document cs v

theorem isTextOf_pretty_iff {j v : Json} (hexact : j.isExact = true) :
    IsTextOf (.ofString j.pretty) v ↔ v = j := by
  rw [← document_pretty_iff hexact]
  constructor
  · rintro ⟨cs, hcs, hdocument⟩
    rw [Utf8.ofChars_injective hcs]
    exact hdocument
  · intro hdocument
    exact ⟨j.pretty.toList, rfl, hdocument⟩

/-- Documents that are told apart have different texts. -/
theorem pretty_inj {j j' : Json} (hexact : j.isExact = true) (hexact' : j'.isExact = true) :
    j.pretty = j'.pretty ↔ j = j' := by
  constructor
  · intro h
    have hdocument := document_pretty hexact
    rw [h] at hdocument
    exact (document_pretty_iff hexact').mp hdocument
  · rintro rfl
    rfl

end Json

/-! ### Records -/

theorem FailReason.name_injective {r r' : FailReason} (h : r.name = r'.name) : r = r' := by
  have hall : ∀ r ∈ all, ∀ r' ∈ all, r.name = r'.name → r = r' := by decide
  have hmem : ∀ r, r ∈ all := by
    intro r
    cases r <;> decide
  exact hall r (hmem r) r' (hmem r') h

namespace BatchOutcome

/-- What a report says of an outcome. -/
inductive Records (o : Outcome) : Json → Prop
  | pass (hverdict : o.verdict = .pass) :
      Records o (.object [("name", .string o.name), ("passed", .bool true), ("reason", .null),
        ("elapsed_ms", .integer (o.elapsed.nanoseconds / 1_000_000 % 2 ^ 64 : Nat)),
        ("diagnostic", .string "")])
  | fail {reason : FailReason} {diagnostic : Bytes} {text : String}
      (hverdict : o.verdict = .fail reason diagnostic) (htext : Utf8.ReadsAs diagnostic text) :
      Records o (.object [("name", .string o.name), ("passed", .bool false),
        ("reason", .string reason.name),
        ("elapsed_ms", .integer (o.elapsed.nanoseconds / 1_000_000 % 2 ^ 64 : Nat)),
        ("diagnostic", .string text)])

/-- What a report says of a run. -/
inductive Reports (b : BatchOutcome) : Json → Prop
  | mk {records : List Json} (h : List.Forall₂ Records b.outcomes records) :
      Reports b (.object [("aborted", .bool b.aborted), ("skipped", .integer b.skipped),
        ("outcomes", .array records)])

/-- Two outcomes that a report does not tell apart. -/
structure SameRecord (o o' : Outcome) : Prop where
  name : o.name = o'.name
  passed : o.verdict = .pass ↔ o'.verdict = .pass
  reason : o.verdict.reason? = o'.verdict.reason?
  elapsed : o.elapsed.nanoseconds / 1_000_000 % 2 ^ 64 = o'.elapsed.nanoseconds / 1_000_000 % 2 ^ 64
  diagnostic : o.verdict.diagnosticText = o'.verdict.diagnosticText

theorem records_record (o : Outcome) : Records o (record o) := by
  obtain ⟨name, verdict, elapsed⟩ := o
  cases verdict with
  | pass => exact .pass rfl
  | fail reason diagnostic => exact .fail rfl (Utf8.readsAs_iff.mpr rfl)

theorem reports_toJson (b : BatchOutcome) : Reports b b.toJson := by
  apply Reports.mk
  rw [List.forall₂_map_right_iff, List.forall₂_same]
  exact fun o _ => records_record o

theorem isExact_toJson (b : BatchOutcome) : b.toJson.isExact = true := by
  have hrecord : ∀ o, (record o).isExact = true := by
    intro o
    obtain ⟨name, verdict, elapsed⟩ := o
    cases verdict <;> rfl
  have hrecords : Json.areExact (b.outcomes.map record) = true := by
    induction b.outcomes with
    | nil => rfl
    | cons o outcomes ih => rw [List.map_cons, Json.areExact, hrecord, ih, Bool.true_and]
  simp [toJson, Json.isExact, Json.fieldsAreExact, hrecords]

/-- The name of a reason, or null if there is none, tells which it is. -/
theorem reasonJson_eq_iff {r r' : Option FailReason} :
    (r.map fun r => Json.string r.name).getD .null =
        (r'.map fun r => Json.string r.name).getD .null ↔ r = r' := by
  constructor
  · intro h
    cases r with
    | none =>
      cases r' with
      | none => rfl
      | some r' => cases h
    | some r =>
      cases r' with
      | none => cases h
      | some r' => rw [FailReason.name_injective (Json.string.inj h)]
  · rintro rfl
    rfl

theorem pass_iff_of_reason?_eq {v v' : Verdict} (h : v.reason? = v'.reason?) :
    v = .pass ↔ v' = .pass := by
  cases v <;> cases v' <;> simp_all [Verdict.reason?]

theorem record_eq_iff {o o' : Outcome} : record o = record o' ↔ SameRecord o o' := by
  constructor
  · intro h
    simp only [record, Json.object.injEq, List.cons.injEq, Prod.mk.injEq, Json.string.injEq,
      Json.integer.injEq, reasonJson_eq_iff, Int.natCast_inj, true_and, and_true] at h
    obtain ⟨hname, -, hreason, helapsed, hdiagnostic⟩ := h
    exact ⟨hname, pass_iff_of_reason?_eq hreason, hreason, helapsed, hdiagnostic⟩
  · rintro ⟨hname, hpassed, hreason, helapsed, hdiagnostic⟩
    have hisPass : o.passed = o'.passed := by
      rw [Bool.eq_iff_iff, Outcome.passed, Outcome.passed]
      cases hv : o.verdict <;> cases hv' : o'.verdict <;> simp_all [Verdict.isPass]
    have hmillis : o.elapsed.wholeMillis % Nat.pow 2 64 = o'.elapsed.wholeMillis % Nat.pow 2 64 :=
      helapsed
    rw [record, record, hname, hisPass, hreason, hmillis, hdiagnostic]

theorem map_record_eq_iff {outcomes outcomes' : List Outcome} :
    outcomes.map record = outcomes'.map record ↔ List.Forall₂ SameRecord outcomes outcomes' := by
  rw [← List.forall₂_eq_eq_eq, List.forall₂_map_left_iff, List.forall₂_map_right_iff]
  constructor
  · exact List.Forall₂.imp fun _ _ h => record_eq_iff.mp h
  · exact List.Forall₂.imp fun _ _ h => record_eq_iff.mpr h

theorem toJson_eq_iff {b b' : BatchOutcome} :
    b.toJson = b'.toJson ↔ b.aborted = b'.aborted ∧ b.skipped = b'.skipped ∧
      List.Forall₂ SameRecord b.outcomes b'.outcomes := by
  simp only [toJson, Json.object.injEq, List.cons.injEq, Prod.mk.injEq, Json.bool.injEq,
    Json.integer.injEq, Json.array.injEq, Int.natCast_inj, map_record_eq_iff, true_and, and_true]

/-- **The report of a run can be read back, and says what the run came to.** -/
theorem report_reads_back (b : BatchOutcome) :
    (∀ t cwd p, b.writeJson t cwd p = t.writeWithMkdir cwd p (.ofString b.toJson.pretty)) ∧
      (∃ v, Reports b v ∧ ∀ v', Json.IsTextOf (.ofString b.toJson.pretty) v' ↔ v' = v) ∧
      ∀ b' : BatchOutcome, b.toJson.pretty = b'.toJson.pretty ↔
        b.aborted = b'.aborted ∧ b.skipped = b'.skipped ∧
          List.Forall₂ SameRecord b.outcomes b'.outcomes := by
  refine ⟨fun t cwd p => rfl, ⟨b.toJson, reports_toJson b, ?_⟩, ?_⟩
  · intro v'
    exact Json.isTextOf_pretty_iff (isExact_toJson b)
  · intro b'
    rw [Json.pretty_inj (isExact_toJson b) (isExact_toJson b'), toJson_eq_iff]

end BatchOutcome

end Rehearsal
