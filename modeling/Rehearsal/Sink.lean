import Rehearsal.Bytes

/-!
# The sink of a transcript

What a session shows of itself goes to a sink: a byte string that grows at its end and may be
limited. A limited sink takes the bytes it has room for and refuses the first byte after them, so
after a refusal it holds exactly the first bytes of everything that was sent to it.

Main statements: `contents_write` and `contents_write_full`, what a write does to the contents.
-/

namespace Rehearsal

/-- A growing byte string, with the room that is left in it if it is limited. -/
structure Sink where
  /-- The pieces written, newest first. -/
  pieces : List Bytes := []
  /-- How many more bytes are taken; `none` if there is no limit. -/
  room : Option Nat := none
  deriving Inhabited

namespace Sink

/-- What is said when a sink refuses what is written to it. -/
def fullMessage : String := "echo is full"

/-- An empty sink that takes `cap` bytes, or any number. -/
def ofCap (cap : Option Nat) : Sink := ⟨[], cap⟩

/-- Everything written so far. -/
def contents (s : Sink) : Bytes := s.pieces.reverse.flatten

/-- Write `data`. A sink that has no room for all of it takes what fits and is given back as an
error. -/
def write (s : Sink) (data : Bytes) : Except Sink Sink :=
  match s.room with
  | none => .ok ⟨data :: s.pieces, none⟩
  | some room =>
    if data.length ≤ room then .ok ⟨data :: s.pieces, some (room - data.length)⟩
    else .error ⟨data.take room :: s.pieces, some 0⟩

/-- Write the UTF-8 bytes of a string. -/
def writeString (s : Sink) (text : String) : Except Sink Sink := s.write (.ofString text)

/-- A write that succeeds puts all of the data at the end. -/
theorem contents_write {s t : Sink} {data : Bytes} (h : s.write data = .ok t) :
    t.contents = s.contents ++ data := by
  unfold write at h
  split at h
  · cases h; simp [contents]
  · split at h
    · cases h; simp [contents]
    · cases h

/-- A write that is refused puts the part at the end for which there was room. -/
theorem contents_write_full {s t : Sink} {data : Bytes} (h : s.write data = .error t) :
    ∃ room, s.room = some room ∧ room < data.length ∧
      t.contents = s.contents ++ data.take room ∧ t.room = some 0 := by
  unfold write at h
  split at h
  · cases h
  · next room hroom =>
    split at h
    · cases h
    · next hlt => cases h; exact ⟨room, hroom, by omega, by simp [contents], rfl⟩

end Sink

end Rehearsal
