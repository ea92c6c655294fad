import CodePad.Color

/-!
How a piece of text looks: its two colours and its attributes.
-/

namespace CodePad

/-- Colours and attributes of a piece of text; by default the terminal's own. -/
structure Style where
  foreground : Color := .default
  background : Color := .default
  bold : Bool := false
  italic : Bool := false
  reverse : Bool := false
  deriving DecidableEq, Repr, Inhabited

namespace Style

def plain : Style := {}

def colored (color : Color) : Style := { foreground := color }

def withForeground (s : Style) (color : Color) : Style := { s with foreground := color }

def withBold (s : Style) : Style := { s with bold := true }

def withItalic (s : Style) : Style := { s with italic := true }

def withReverse (s : Style) : Style := { s with reverse := true }

def isPlain (s : Style) : Bool := s = plain

end Style

end CodePad
