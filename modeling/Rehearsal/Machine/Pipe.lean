import Rehearsal.Bytes

/-!
# Pipes

A pipe holds bytes in order, up to a capacity. What is written to it comes out again in the same
order, in whatever portions are asked for: `contents_push`, `contents_take`, `contents_takeLine`.
-/

namespace Rehearsal.Machine

/-- A pipe, as what was written to it and has not been read. -/
structure Pipe where
  /-- The portions that are next, oldest first. -/
  front : List Bytes := []
  /-- The portions after them, newest first. -/
  back : List Bytes := []
  deriving Inhabited

namespace Pipe

/-- How many bytes a pipe holds. -/
def capacity : Nat := 65536

/-- Everything in the pipe, in order. -/
def contents (p : Pipe) : Bytes := p.front.flatten ++ p.back.reverse.flatten

def sizeOf (portions : List Bytes) : Nat := portions.foldl (fun n b => n + b.length) 0

def size (p : Pipe) : Nat := sizeOf p.front + sizeOf p.back

def isEmpty (p : Pipe) : Bool := p.front.all (·.isEmpty) && p.back.all (·.isEmpty)

/-- How many more bytes fit. -/
def room (p : Pipe) : Nat := capacity - p.size

/-- Put bytes at the end. -/
def push (p : Pipe) (data : Bytes) : Pipe := { p with back := data :: p.back }

/-- Take up to `n` bytes off the front of some portions. -/
def takePortions : Nat → List Bytes → List Bytes × List Bytes
  | _, [] => ([], [])
  | n, b :: rest =>
    if b.length ≤ n then
      let (taken, left) := takePortions (n - b.length) rest
      (b :: taken, left)
    else ([b.take n], b.drop n :: rest)

/-- Take up to `n` bytes off the front. -/
def take (p : Pipe) (n : Nat) : Bytes × Pipe :=
  let (taken, left) := takePortions n (p.front ++ p.back.reverse)
  (taken.flatten, { front := left, back := [] })

theorem contents_push (p : Pipe) (data : Bytes) : (p.push data).contents = p.contents ++ data := by
  simp [push, contents]

theorem flatten_takePortions (n : Nat) (portions : List Bytes) :
    (takePortions n portions).1.flatten ++ (takePortions n portions).2.flatten =
      portions.flatten := by
  induction portions generalizing n with
  | nil => simp [takePortions]
  | cons b rest ih =>
    simp only [takePortions]
    split
    · simp [ih]
    · simp [← List.append_assoc]

/-- Nothing is lost, and nothing changes places. -/
theorem contents_take (p : Pipe) (n : Nat) :
    (p.take n).1 ++ (p.take n).2.contents = p.contents := by
  simp [take, contents, flatten_takePortions]

/-- Take the bytes up to and with the first newline off the front of some portions. -/
def takeLinePortions : List Bytes → List Bytes × List Bytes
  | [] => ([], [])
  | b :: rest =>
    let (line, left) := Bytes.splitFirstLine b
    if line.getLast? = some Bytes.newline then ([line], left :: rest)
    else
      let (taken, after) := takeLinePortions rest
      (b :: taken, after)

/-- Take bytes off the front up to and with the first newline. -/
def takeLine (p : Pipe) : Bytes × Pipe :=
  let (taken, left) := takeLinePortions (p.front ++ p.back.reverse)
  (taken.flatten, { front := left, back := [] })

theorem flatten_takeLinePortions (portions : List Bytes) :
    (takeLinePortions portions).1.flatten ++ (takeLinePortions portions).2.flatten =
      portions.flatten := by
  induction portions with
  | nil => simp [takeLinePortions]
  | cons b rest ih =>
    simp only [takeLinePortions]
    split
    · simp [← List.append_assoc, Bytes.splitFirstLine_append]
    · simp [ih]

/-- A line that is taken is what comes first. -/
theorem contents_takeLine (p : Pipe) : p.takeLine.1 ++ p.takeLine.2.contents = p.contents := by
  simp [takeLine, contents, flatten_takeLinePortions]

end Pipe

end Rehearsal.Machine
