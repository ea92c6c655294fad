import CodePad.Style
import CodePad.Text.Basic

/-!
What a terminal can be told to do, and the control sequences that tell it. Rows and columns
are counted from zero here and from one in the sequences.
-/

namespace CodePad

inductive Attribute where
  | reset
  | bold
  | dim
  | italic
  | reverse
  /-- Takes back bold and dim. -/
  | normalIntensity
  | noReverse
  deriving DecidableEq, Repr

namespace Attribute

def code : Attribute → Nat
  | reset => 0
  | bold => 1
  | dim => 2
  | italic => 3
  | reverse => 7
  | normalIntensity => 22
  | noReverse => 27

end Attribute

structure Size where
  rows : UInt16
  cols : UInt16
  deriving DecidableEq, Repr

inductive Command where
  /-- Turns to the screen of full-screen programs or back to the other one. -/
  | alternateScreen (on : Bool)
  | showCursor (visible : Bool)
  | clearScreen
  /-- Blanks the row from the cursor on. -/
  | clearToEndOfLine
  | moveTo (row col : UInt16)
  | foreground (color : Color)
  | background (color : Color)
  | setAttribute (a : Attribute)
  | write (text : Text)
  deriving DecidableEq, Repr

namespace Command

def reverse (on : Bool) : Command := setAttribute (if on then .reverse else .noReverse)

def dim (on : Bool) : Command := setAttribute (if on then .dim else .normalIntensity)

def reset : Command := setAttribute .reset

def ofStyle (s : Style) : List Command :=
  [foreground s.foreground, background s.background] ++
    (if s.bold then [setAttribute .bold] else []) ++
    (if s.italic then [setAttribute .italic] else []) ++
    (if s.reverse then [setAttribute .reverse] else [])

/-- What readies a terminal for the editor. -/
def opening : List Command := [alternateScreen true, showCursor false]

/-- What leaves a terminal as it was. -/
def closing : List Command := [reset, showCursor true, alternateScreen false]

def sequence (rest : Text) : Text := '\x1b' :: '[' :: rest

/-- The sequence for a palette colour, or for the terminal's default under `plain`. -/
def colorSequence (palette plain : Text) (color : Color) : Text :=
  match color.paletteIndex? with
  | none => sequence (plain ++ ['m'])
  | some n => sequence (palette ++ Text.digits n ++ ['m'])

def encode : Command → Text
  | alternateScreen on => sequence ("?1049".toList ++ [if on then 'h' else 'l'])
  | showCursor visible => sequence ("?25".toList ++ [if visible then 'h' else 'l'])
  | clearScreen => sequence ['2', 'J']
  | clearToEndOfLine => sequence ['K']
  | moveTo row col =>
    sequence (Text.digits (row.toNat + 1) ++ ';' :: Text.digits (col.toNat + 1) ++ ['H'])
  | foreground color => colorSequence "38;5;".toList "39".toList color
  | background color => colorSequence "48;5;".toList "49".toList color
  | setAttribute a => sequence (Text.digits a.code ++ ['m'])
  | write text => text

def encodeAll (cs : List Command) : Text := cs.flatMap encode

end Command

end CodePad
