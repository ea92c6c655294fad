import CodePad.Document.Lines
import CodePad.Platform
import CodePad.Screen.Theme
import CodePad.Selection
import CodePad.Terminal.Command

/-!
Writing one line of a document. Its pieces are cut where the selection begins and ends, and
are written in their styles for as long as there are columns left. What is written of a piece fits
by the columns of its characters, but the columns left are counted down by its width; so they can
run out too soon, and then writing the line may end the program.
-/

namespace CodePad

namespace Screen

/-- A text cut where it enters and leaves a range, each part with whether it lies inside. Its
first character has the offset `start`. -/
def cutAtRange (r : Range) (start : Nat) : Text → List (Bool × Text)
  | [] => []
  | c :: t =>
    match cutAtRange r (start + 1) t with
    | [] => [(r.contains start, [c])]
    | (inside, u) :: parts =>
      -- The parts are built from the back: the next one grows at its front.
      if inside = r.contains start then (inside, c :: u) :: parts
      else (r.contains start, [c]) :: (inside, u) :: parts

def cutAtSelection (selected : Option Range) (p : Piece) : List (Bool × Text) :=
  match selected with
  | none => [(false, p.text)]
  | some r => cutAtRange r p.start p.text

/-- A line's texts with their styles; what is selected is reversed. -/
def styledTexts (theme : Theme) (selected : Option Range) (line : List Piece) :
    List (Style × Text) :=
  line.flatMap fun p =>
    (cutAtSelection selected p).map fun (inside, t) =>
      (if inside then (theme.style p.kind).withReverse else theme.style p.kind, t)

/-- Writes a text in a style and takes the style back. -/
def writeStyled (s : Style) (t : Text) : List Command :=
  if s.isPlain then [.write t] else Command.ofStyle s ++ [.write t, .reset]

/-- Writes texts into the columns that are left. -/
def writeTexts (p : Platform) : (columns : Nat) → List (Style × Text) → Option (List Command)
  | _, [] => some []
  | columns, (s, t) :: rest =>
    if columns = 0 then some []
    else do
      let shown := p.measure.truncate columns t
      -- The cut adds up characters, but what is taken off is the width of the text.
      let left ← p.underflow.sub? columns (p.measure.width shown)
      let commands ← writeTexts p left rest
      return writeStyled s shown ++ commands

def writeLine (p : Platform) (theme : Theme) (selected : Option Range) (columns : Nat)
    (line : List Piece) : Option (List Command) :=
  writeTexts p columns (styledTexts theme selected line)

end Screen

end CodePad
