import Rehearsal.Regex.CharSet

/-!
# Matching

A matcher works on all places of a text at once. A mask has one mark for every place between two
characters, before the first and after the last; `Matcher.advance` takes the places where a match
may begin to the places where it may end. A text has a match if some place is reached from the
mask that marks every place.

Going round a repetition more often than there are places brings nothing new: such a round stands
still somewhere, and can be left out or added.
-/

namespace Rehearsal.Regex

/-- A condition on a place between two characters. -/
inductive Look where
  | textStart
  | textEnd
  | lineStart
  | lineEnd
  | newlineStart
  | newlineEnd
  | wordBoundary
  | notWordBoundary
  | wordStart
  | wordEnd
  | wordStartHalf
  | wordEndHalf
  deriving DecidableEq, Repr

/-- The characters of words. -/
def isWordChar (c : Char) : Bool := c.isAlphanum || c == '_'

/-- Does a condition hold between the character before and the one after? -/
def Look.holds (before after : Option Char) (l : Look) : Bool :=
  let left := before.any isWordChar
  let right := after.any isWordChar
  match l with
  | .textStart => before.isNone
  | .textEnd => after.isNone
  | .lineStart => before.all (· == '\n')
  | .lineEnd => after.all (· == '\n')
  | .newlineStart =>
    before.all fun c => c == '\n' || (c == '\r' && after != some '\n')
  | .newlineEnd =>
    after.all fun c => c == '\r' || (c == '\n' && before != some '\r')
  | .wordBoundary => left != right
  | .notWordBoundary => left == right
  | .wordStart => !left && right
  | .wordEnd => left && !right
  | .wordStartHalf => !left
  | .wordEndHalf => !right

/-- What is to be matched. -/
inductive Matcher where
  | empty
  | one (set : CharSet)
  | look (l : Look)
  | seq (a b : Matcher)
  | either (a b : Matcher)
  | repeated (least : Nat) (most : Option Nat) (m : Matcher)
  deriving Repr

/-- A mark for every place between the characters of a text. -/
abbrev Mask := List Bool

namespace Mask

/-- The places marked in one of two masks. -/
def union (a b : Mask) : Mask := List.zipWith (· || ·) a b

/-- The places after the characters that are in a set and begin at a marked place. -/
def pass (set : CharSet) : List Char → Mask → Mask
  | c :: cs, b :: bs => (b && set.has c) :: pass set cs bs
  | _, _ => []

/-- The marked places where a condition holds; `before` is the character before the first. -/
def keep (l : Look) : Option Char → List Char → Mask → Mask
  | before, [], b :: _ => [b && l.holds before none]
  | before, c :: cs, b :: bs => (b && l.holds before (some c)) :: keep l (some c) cs bs
  | _, _, [] => []

/-- Apply a step so often, or until nothing changes. -/
def iterate (step : Mask → Mask) : Nat → Mask → Mask
  | 0, m => m
  | n + 1, m =>
    let m' := step m
    if m' == m then m else iterate step n m'

end Mask

/-- The places where a match may end that begins at one of the marked places of a text. -/
def Matcher.advance (text : List Char) : Matcher → Mask → Mask
  | .empty, m => m
  | .one set, m => false :: Mask.pass set text m
  | .look l, m => Mask.keep l none text m
  | .seq a b, m => b.advance text (a.advance text m)
  | .either a b, m => Mask.union (a.advance text m) (b.advance text m)
  | .repeated least most a, m =>
    let rounds := text.length + 1
    let begun := Mask.iterate (a.advance text) (min least rounds) m
    let further := match most with
      | some most => min (most - least) rounds
      | none => rounds
    Mask.iterate (fun m => Mask.union m (a.advance text m)) further begun

/-- Is there a match somewhere in a text? -/
def Matcher.occursIn (r : Matcher) (text : String) : Bool :=
  let cs := text.toList
  (r.advance cs (List.replicate (cs.length + 1) true)).any id

end Rehearsal.Regex
