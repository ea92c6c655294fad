import CodePad.Token.Basic

/-!
Choosing tokens that share no byte. Candidates come in lists, the most important list first;
each byte belongs to the first candidate that takes it, and a candidate that finds one of its
bytes taken is dropped whole.
-/

namespace CodePad

/-- For each byte of a text, whether a token has taken it. -/
abbrev Occupancy := Array Bool

namespace Occupancy

def free (length : Nat) : Occupancy := Array.replicate length false

def anyTaken (o : Occupancy) (start : Nat) : Nat → Bool
  | 0 => false
  | count + 1 => o.getD start false || anyTaken o (start + 1) count

def take (o : Occupancy) (start : Nat) : Nat → Occupancy
  | 0 => o
  | count + 1 => take (o.setIfInBounds start true) (start + 1) count

end Occupancy

namespace Token

/-- The tokens accepted so far, the latest first, and the bytes they take. -/
structure Choice where
  occupancy : Occupancy
  accepted : List Token

def Choice.offer (ch : Choice) (t : Token) : Choice :=
  let count := t.stop - t.start
  if ch.occupancy.anyTaken t.start count then ch
  else ⟨ch.occupancy.take t.start count, t :: ch.accepted⟩

def fits (length : Nat) (t : Token) : Bool := t.start < t.stop && t.stop ≤ length

/-- The least length of a text in which all of some tokens lie. -/
def extent (tokens : List Token) : Nat := tokens.foldl (fun n t => max n t.stop) 0

/-- The candidates that get their bytes in a text of `length` bytes, by their offsets. Bytes
after the last candidate need no account. -/
def select (length : Nat) (candidates : List (List Token)) : List Token :=
  let fitting := candidates.flatten.filter (fits length)
  let choice := fitting.foldl Choice.offer ⟨.free (extent fitting), []⟩
  choice.accepted.reverse.mergeSort fun a b => a.start ≤ b.start

end Token

end CodePad
