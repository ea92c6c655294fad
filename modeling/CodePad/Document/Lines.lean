import CodePad.Document.Basic
import CodePad.Text.Lines

/-!
The lines of a document. A line is a list of pieces, each from one run and never empty; where
one run ends and the next begins within a line, the line goes on.
-/

namespace CodePad

/-- A part of a run that lies in one line. -/
structure Piece where
  kind : Option TokenKind
  text : Text
  /-- Offset of the first character in the document. -/
  start : Nat
  deriving DecidableEq, Repr

namespace Piece

def ofText (kind : Option TokenKind) (start : Nat) (t : Text) : List Piece :=
  if t.isEmpty then [] else [⟨kind, t, start⟩]

end Piece

namespace Document

/-- The lines of one run, of which the first begins at `start`, in front of the lines that
follow: the first of those goes on where the run's last line ends. -/
def joinLines (kind : Option TokenKind) :
    (start : Nat) → List Text → List (List Piece) → List (List Piece)
  | _, [], following => following
  | start, [t], [] => [Piece.ofText kind start t]
  -- No newline stands between the last line of the run and what follows.
  | start, [t], l :: ls => (Piece.ofText kind start t ++ l) :: ls
  | start, t :: ts, following =>
    Piece.ofText kind start t :: joinLines kind (start + t.length + 1) ts following

def linesFrom (start : Nat) : List Run → List (List Piece)
  | [] => [[]]
  | r :: rs => joinLines r.kind start r.text.lines (linesFrom (start + r.length) rs)

def lines (d : Document) : List (List Piece) := linesFrom 0 d.runs

end Document

end CodePad
