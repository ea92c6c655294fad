import CodePad.Text.Basic

/-!
Lines of a text. A newline ends a line, so a text has one line more than it has newlines.
A place in a text is named either by its offset or by its line and column, all counted in
characters from zero.
-/

namespace CodePad

structure LineCol where
  line : Nat
  col : Nat
  deriving DecidableEq, Repr

namespace LineCol

/-- The place after one more character. -/
def step (p : LineCol) (c : Char) : LineCol :=
  if c = '\n' then ⟨p.line + 1, 0⟩ else ⟨p.line, p.col + 1⟩

end LineCol

namespace Text

def consToFirst (c : Char) : List Text → List Text
  | [] => [[c]]
  | l :: ls => (c :: l) :: ls

def lines : Text → List Text
  | [] => [[]]
  | c :: t => if c = '\n' then [] :: lines t else consToFirst c (lines t)

/-- The line and column of an offset; past the end, those of the end. -/
def lineCol (t : Text) (offset : Nat) : LineCol :=
  (t.take offset).foldl LineCol.step ⟨0, 0⟩

/-- The offset of a column in the given line of `ls`; columns past the end of the line and
lines past the last one stop at their ends. -/
def offsetInLines (col : Nat) : List Text → Nat → Nat
  | [], _ => 0
  | l :: _, 0 => min col l.length
  | [l], _ + 1 => l.length
  | l :: ls, line + 1 => l.length + 1 + offsetInLines col ls line

def offsetAt (t : Text) (line col : Nat) : Nat :=
  offsetInLines col t.lines line

/-- The part before an offset of the line that holds it. -/
def lineBefore (t : Text) (offset : Nat) : Text :=
  ((t.take offset).reverse.takeWhile (· ≠ '\n')).reverse

@[simp] theorem lines_nil : lines [] = [[]] := rfl

theorem lines_ne_nil (t : Text) : lines t ≠ [] := by
  cases t with
  | nil => simp
  | cons c t =>
    unfold lines
    split
    · simp
    · cases lines t <;> simp [consToFirst]

end Text

end CodePad
