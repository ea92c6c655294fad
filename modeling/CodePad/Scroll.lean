/-!
Scrolling: which lines of the document the text area shows.
-/

namespace CodePad

/-- The first line shown and how many lines there is room for. -/
structure Scroll where
  top : Nat := 0
  height : Nat := 0
  deriving DecidableEq, Repr

namespace Scroll

def withHeight (s : Scroll) (height : Nat) : Scroll := { s with height }

/-- Scrolls as little as needed to show a line. Without room for any line the first one shown
is that line. -/
def reveal (s : Scroll) (line : Nat) : Scroll :=
  if s.height = 0 ∨ line < s.top then { s with top := line }
  else if s.top + s.height ≤ line then { s with top := line + 1 - s.height }
  else s

end Scroll

end CodePad
