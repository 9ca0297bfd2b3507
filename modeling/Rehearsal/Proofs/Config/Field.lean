import Rehearsal.Config.Field
import Rehearsal.Proofs.Except

/-!
# Drafts, field by field

A draft is eleven values of six types. `Field.Value` is the type of a field's value, so that `get?`
and `set` can speak of any field, and taking a value is reading it and then setting the field
(`put_eq`). What a field holds after another was set is what it held before, and a draft is what its
fields hold (`Draft.ext_get?`): beyond these laws nothing here asks which field it is.
-/

namespace Rehearsal.Config

namespace Field

/-- What a field holds. -/
def Value : Field → Type
  | stepDelay | warmupDelay | timeLimit => Binary64
  | postCrashLines | wrongLines | overflowMargin => Nat
  | suffix => String
  | inputDir | outputDir => Path
  | command => List String
  | unterminatedOutput => UnterminatedPolicy

/-- Read the value of a field. -/
def read {V E : Type} (r : ValueReader V E) (v : V) : (f : Field) → Except E f.Value
  | stepDelay | warmupDelay | timeLimit => r.number v
  | postCrashLines | wrongLines | overflowMargin => r.count v
  | suffix => r.text v
  | inputDir | outputDir => r.path v
  | command => r.words v
  | unterminatedOutput => r.policy v

end Field

namespace Draft

/-- What a field of a draft holds. -/
def get? (d : Draft) : (f : Field) → Option f.Value
  | .stepDelay => d.stepDelay
  | .warmupDelay => d.warmupDelay
  | .postCrashLines => d.postCrashLines
  | .wrongLines => d.wrongLines
  | .overflowMargin => d.overflowMargin
  | .suffix => d.suffix
  | .inputDir => d.inputDir
  | .outputDir => d.outputDir
  | .command => d.command
  | .timeLimit => d.timeLimit
  | .unterminatedOutput => d.unterminatedOutput

/-- A draft that holds one value more. -/
def set (d : Draft) : (f : Field) → f.Value → Draft
  | .stepDelay, a => { d with stepDelay := some a }
  | .warmupDelay, a => { d with warmupDelay := some a }
  | .postCrashLines, a => { d with postCrashLines := some a }
  | .wrongLines, a => { d with wrongLines := some a }
  | .overflowMargin, a => { d with overflowMargin := some a }
  | .suffix, a => { d with suffix := some a }
  | .inputDir, a => { d with inputDir := some a }
  | .outputDir, a => { d with outputDir := some a }
  | .command, a => { d with command := some a }
  | .timeLimit, a => { d with timeLimit := some a }
  | .unterminatedOutput, a => { d with unterminatedOutput := some a }

theorem has_eq (d : Draft) (f : Field) : d.has f = (d.get? f).isSome := by
  cases f <;> rfl

theorem put_eq {V E : Type} (r : ValueReader V E) (d : Draft) (f : Field) (v : V) :
    d.put r f v = (f.read r v).map (d.set f) := by
  cases f <;> rfl

@[simp] theorem get?_empty (f : Field) : get? {} f = none := by
  cases f <;> rfl

@[simp] theorem get?_set_self (d : Draft) (f : Field) (a : f.Value) :
    (d.set f a).get? f = some a := by
  cases f <;> rfl

theorem get?_set_of_ne {f g : Field} (h : g ≠ f) (d : Draft) (a : f.Value) :
    (d.set f a).get? g = d.get? g := by
  cases f <;> cases g <;> first | rfl | exact absurd rfl h

/-- Drafts that hold the same are the same. -/
theorem ext_get? {d d' : Draft} (h : ∀ f a, d.get? f = some a ↔ d'.get? f = some a) : d = d' := by
  have hget : ∀ f, d.get? f = d'.get? f := fun f => Option.ext (h f)
  cases d
  cases d'
  rw [mk.injEq]
  exact ⟨hget .stepDelay, hget .warmupDelay, hget .postCrashLines, hget .wrongLines,
    hget .overflowMargin, hget .suffix, hget .inputDir, hget .outputDir, hget .command,
    hget .timeLimit, hget .unterminatedOutput⟩

end Draft

end Rehearsal.Config
