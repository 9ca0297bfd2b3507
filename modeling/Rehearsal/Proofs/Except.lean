import Mathlib.Data.List.Basic

/-!
# Steps that can fail

A chain of steps succeeds if each of its steps does. The same holds for steps that also work on a
state: what they have done to it stays, whether they succeed or fail.
-/

namespace Rehearsal

variable {ε α β σ : Type}

theorem bind_eq_ok_iff {x : Except ε α} {f : α → Except ε β} {b : β} :
    (x >>= f) = .ok b ↔ ∃ a, x = .ok a ∧ f a = .ok b := by
  constructor
  · intro h
    cases x with
    | error e => cases h
    | ok a => exact ⟨a, rfl, h⟩
  · rintro ⟨a, rfl, h⟩
    exact h

theorem mapError_eq_ok_iff {ε' : Type} {f : ε → ε'} {x : Except ε α} {a : α} :
    x.mapError f = .ok a ↔ x = .ok a := by
  cases x with
  | error e => exact iff_of_false (by rintro ⟨⟩) (by rintro ⟨⟩)
  | ok a' => exact ⟨fun h => congrArg _ (Except.ok.inj h), fun h => congrArg _ (Except.ok.inj h)⟩

theorem bind_unit_eq_ok_iff {x : Except ε Unit} {y : Except ε β} {b : β} :
    (x >>= fun _ => y) = .ok b ↔ x = .ok () ∧ y = .ok b := by
  cases x with
  | error e => exact iff_of_false nofun nofun
  | ok u => exact ⟨fun h => ⟨rfl, h⟩, And.right⟩

/-- What comes after a check that fails is not done. -/
theorem check_eq_ok_iff {fails : Bool} {e : ε} {after : PUnit → Except ε α} {x : Except ε α}
    {a : α} :
    (if fails = true then throw e >>= after else x) = .ok a ↔ fails = false ∧ x = .ok a := by
  cases fails with
  | true => exact iff_of_false nofun nofun
  | false => exact ⟨fun h => ⟨rfl, h⟩, And.right⟩

theorem discard_eq_ok_iff {x : Except ε α} {u : PUnit} : discard x = .ok u ↔ ∃ a, x = .ok a := by
  cases x with
  | error e => exact iff_of_false nofun nofun
  | ok a => exact ⟨fun _ => ⟨a, rfl⟩, fun _ => rfl⟩

/-! ### Steps on a state -/

theorem bind_apply (x : ExceptT ε (StateM σ) α) (f : α → ExceptT ε (StateM σ) β) (s : σ) :
    (x >>= f) s =
      match x s with
      | (.ok a, after) => f a after
      | (.error failure, after) => (.error failure, after) := by
  show ExceptT.bindCont f (x s).1 (x s).2 = _
  obtain ⟨failure | a, after⟩ := x s
  · rfl
  · rfl

/-- What succeeds has succeeded in both its parts. -/
theorem bind_of_ok {x : ExceptT ε (StateM σ) α} {f : α → ExceptT ε (StateM σ) β} {s : σ} {b : β}
    (h : ((x >>= f) s).1 = .ok b) :
    ∃ a, (x s).1 = .ok a ∧ (x >>= f) s = f a (x s).2 := by
  rw [bind_apply] at h ⊢
  cases hx : x s with
  | mk result after =>
    rw [hx] at h
    cases result with
    | error failure => cases h
    | ok a => exact ⟨a, rfl, rfl⟩

theorem bind_ok_iff {x : ExceptT ε (StateM σ) α} {f : α → ExceptT ε (StateM σ) β} {s : σ} {b : β} :
    ((x >>= f) s).1 = .ok b ↔ ∃ a, (x s).1 = .ok a ∧ (f a (x s).2).1 = .ok b := by
  constructor
  · intro h
    obtain ⟨a, ha, hrest⟩ := bind_of_ok h
    exact ⟨a, ha, by rw [← hrest, h]⟩
  · rintro ⟨a, ha, hb⟩
    rw [bind_apply]
    cases hx : x s with
    | mk result after =>
      rw [hx] at ha hb
      cases ha
      exact hb

end Rehearsal
