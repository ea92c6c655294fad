/-!
Classes of characters, given by ranges of code points.
-/

namespace CodePad

/-- A class of characters: the first and last code point of each of its ranges. -/
abbrev CharClass := List (Nat × Nat)

namespace CharClass

def has (k : CharClass) (c : Char) : Bool :=
  k.any fun (lo, hi) => lo ≤ c.toNat && c.toNat ≤ hi

end CharClass

end CodePad
