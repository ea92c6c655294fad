import CodePad.Text.Blank

/-!
The colours of a terminal's sixteen-colour palette and the names by which settings call
them.
-/

namespace CodePad

/-- A palette colour, or the terminal's own default. -/
inductive Color where
  | default
  | black
  | red
  | green
  | yellow
  | blue
  | magenta
  | cyan
  | white
  | brightBlack
  | brightRed
  | brightGreen
  | brightYellow
  | brightBlue
  | brightMagenta
  | brightCyan
  | brightWhite
  deriving DecidableEq, Repr, Inhabited

namespace Color

/-- The names of the colours; bright black has three. -/
def names : List (String × Color) :=
  [("default", default), ("black", black), ("red", red), ("green", green), ("yellow", yellow),
    ("blue", blue), ("magenta", magenta), ("cyan", cyan), ("white", white),
    ("bright-black", brightBlack), ("gray", brightBlack), ("grey", brightBlack),
    ("bright-red", brightRed), ("bright-green", brightGreen), ("bright-yellow", brightYellow),
    ("bright-blue", brightBlue), ("bright-magenta", brightMagenta), ("bright-cyan", brightCyan),
    ("bright-white", brightWhite)]

/-- One letter of a name in lower case. The Kelvin sign is the one character outside ASCII
whose lower case is an ASCII letter. -/
def lowerLetter (c : Char) : Char :=
  if c = '\u212a' then 'k' else c.toLower

/-- The form in which names are compared: no blanks at the ends, lower case, hyphens for
underscores. -/
def normalName (name : String) : String :=
  String.ofList <| (Text.trim name.toList).map fun c => if c = '_' then '-' else lowerLetter c

def ofName? (name : String) : Option Color :=
  names.lookup (normalName name)

def paletteIndex? : Color → Option Nat
  | default => none
  | black => some 0
  | red => some 1
  | green => some 2
  | yellow => some 3
  | blue => some 4
  | magenta => some 5
  | cyan => some 6
  | white => some 7
  | brightBlack => some 8
  | brightRed => some 9
  | brightGreen => some 10
  | brightYellow => some 11
  | brightBlue => some 12
  | brightMagenta => some 13
  | brightCyan => some 14
  | brightWhite => some 15

end Color

end CodePad
