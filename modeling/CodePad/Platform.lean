import CodePad.Text.Width

/-!
What the program is built on: a measure of texts, and the arithmetic of machine words.
-/

namespace CodePad

/-- What becomes of a subtraction that goes below zero. -/
inductive Underflow where
  /-- It ends the program. -/
  | stops
  /-- It wraps around. -/
  | wraps
  deriving DecidableEq, Repr

namespace Underflow

/-- The difference of two words of 64 bits, if there is one. -/
def sub? (u : Underflow) (a b : Nat) : Option Nat :=
  if b ≤ a then some (a - b)
  else
    match u with
    | stops => none
    | wraps => some (UInt64.size + a - b)

end Underflow

structure Platform where
  measure : Measure
  underflow : Underflow

/-- The platform of a program that is built without checks of its arithmetic. -/
def Platform.standard : Platform := ⟨.unicode, .wraps⟩

end CodePad
