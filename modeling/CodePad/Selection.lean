import CodePad.Document.Basic

/-!
Selections and how they live through a change of the runs. A selection is a pair of positions
and means nothing in another document; the range of offsets that it covers does, as long as
the text is the same.
-/

namespace CodePad

/-- Where a selection was begun and where the caret is. -/
structure Selection where
  anchor : Position
  focus : Position
  deriving DecidableEq, Repr

/-- The characters from one offset up to another. -/
structure Range where
  start : Nat
  stop : Nat
  deriving DecidableEq, Repr

namespace Range

def caret (offset : Nat) : Range := ⟨offset, offset⟩

def isEmpty (r : Range) : Bool := r.start = r.stop

def contains (r : Range) (offset : Nat) : Bool := r.start ≤ offset && offset < r.stop

end Range

namespace Selection

def caret (p : Position) : Selection := ⟨p, p⟩

def ordered (s : Selection) (d : Document) : Position × Position :=
  if d.offsetOf s.anchor ≤ d.offsetOf s.focus then (s.anchor, s.focus) else (s.focus, s.anchor)

def range (s : Selection) (d : Document) : Range :=
  ⟨d.offsetOf (s.ordered d).1, d.offsetOf (s.ordered d).2⟩

/-- The selection of a range, begun at its start. A range whose end comes before its start
selects nothing. -/
def ofRange (d : Document) (r : Range) : Selection :=
  ⟨d.positionAt r.start, d.positionAt (max r.start r.stop)⟩

def save (d : Document) (s : Option Selection) : Option Range := s.map (·.range d)

def restore (d : Document) (r : Option Range) : Option Selection := r.map (ofRange d)

end Selection

end CodePad
