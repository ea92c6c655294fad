import CodePad.Token.Basic

/-!
Documents. A document is a text cut into runs, each with the kind of highlighting it gets.
A position names a run and an offset in it; an offset counts the characters of the whole
text. Where two runs meet, the offset between them belongs to the earlier one. The edit of a
document merges the runs it touches into the first of them.
-/

namespace CodePad

/-- A stretch of text of one kind; `none` is text without highlighting. -/
structure Run where
  kind : Option TokenKind
  text : Text
  deriving DecidableEq, Repr

namespace Run

def length (r : Run) : Nat := r.text.length

end Run

/-- A run, counted from zero, and the number of characters before the position in it. -/
structure Position where
  run : Nat
  offset : Nat
  deriving DecidableEq, Repr

namespace Position

def zero : Position := ⟨0, 0⟩

def later (p : Position) : Position := ⟨p.run + 1, p.offset⟩

end Position

structure Document where
  runs : List Run
  deriving DecidableEq, Repr

namespace Document

def empty : Document := ⟨[]⟩

def text (d : Document) : Text := d.runs.flatMap Run.text

def total : List Run → Nat
  | [] => 0
  | r :: rs => r.length + total rs

def length (d : Document) : Nat := total d.runs

theorem length_flatMap_text (rs : List Run) : (rs.flatMap Run.text).length = total rs := by
  induction rs with
  | nil => rfl
  | cons r rs ih =>
    rw [List.flatMap_cons, List.length_append, ih]
    rfl

theorem length_text (d : Document) : d.text.length = d.length := length_flatMap_text d.runs

def offsetIn : List Run → Position → Nat
  | [], _ => 0
  | r :: _, ⟨0, offset⟩ => min offset r.length
  | r :: rs, ⟨run + 1, offset⟩ => r.length + offsetIn rs ⟨run, offset⟩

/-- The offset of a position; one outside its run or outside the document stands for the
nearest end. -/
def offsetOf (d : Document) (p : Position) : Nat := offsetIn d.runs p

def positionIn : List Run → Nat → Position
  | [], _ => .zero
  | [r], offset => ⟨0, min offset r.length⟩
  | r :: rs, offset =>
    if offset ≤ r.length then ⟨0, offset⟩ else (positionIn rs (offset - r.length)).later

/-- The position of an offset; an offset past the end stands for the end. -/
def positionAt (d : Document) (offset : Nat) : Position := positionIn d.runs offset

/-- The runs an edit works on: an empty document counts as one empty run. -/
def editable : List Run → List Run
  | [] => [⟨none, []⟩]
  | rs => rs

/-- Puts `new` in place of the characters from `start` up to `stop`, and gives the position
after it. The run that holds `start` takes the new text and all that is left of the runs up
to the one that holds `stop`. -/
def replace (d : Document) (start stop : Nat) (new : Text) : Document × Position :=
  let d : Document := ⟨editable d.runs⟩
  -- A stop before the start counts as the start.
  let start := min start d.length
  let stop := max start (min stop d.length)
  let first := d.positionAt start
  let last := d.positionAt stop
  let textOf (p : Position) : Text := (d.runs[p.run]?.map Run.text).getD []
  let merged : Run :=
    ⟨d.runs[first.run]?.bind Run.kind,
      (textOf first).take first.offset ++ new ++ (textOf last).drop last.offset⟩
  (⟨d.runs.take first.run ++ merged :: d.runs.drop (last.run + 1)⟩,
    ⟨first.run, first.offset + new.length⟩)

@[simp] theorem total_nil : total [] = 0 := rfl

@[simp] theorem total_cons (r : Run) (rs : List Run) : total (r :: rs) = r.length + total rs := rfl

@[simp] theorem text_empty : empty.text = [] := rfl

@[simp] theorem length_empty : empty.length = 0 := rfl

end Document

end CodePad
