import CodePad.Buffer.Basic

/-!
Moving the caret of a buffer. Moving up and down keeps aiming at the column where the first
such move began; any other move forgets it.
-/

namespace CodePad

inductive Motion where
  | left
  | right
  | up
  | down
  | lineStart
  | lineEnd
  | documentStart
  | documentEnd
  deriving DecidableEq, Repr

namespace Motion

def isVertical : Motion → Bool
  | up | down => true
  | _ => false

/-- The line that a move leads to, if there is such a line: `last` is the last one. -/
def line? (m : Motion) (line last : Nat) : Option Nat :=
  match m with
  | up => if 0 < line then some (line - 1) else none
  | down => if line < last then some (line + 1) else none
  | _ => none

end Motion

namespace Buffer

/-- The selection that a move begins with: the caret at the start if there is none. -/
def current (b : Buffer) : Selection := b.selection.getD (.caret .zero)

def anchorOffset (b : Buffer) : Nat := b.document.offsetOf b.current.anchor

def focusOffset (b : Buffer) : Nat := b.document.offsetOf b.current.focus

/-- The offset that a move of the caret leads to. Without `extend`, a move to the side of a
selection that is not empty goes to its edge. -/
def target (b : Buffer) (m : Motion) (extend : Bool) (goal : Nat) : Nat :=
  let text := b.text
  let focus := b.focusOffset
  let place := text.lineCol focus
  let toEdge := !extend && b.anchorOffset != focus
  match m with
  | .left => if toEdge then min b.anchorOffset focus else focus - 1
  | .right => if toEdge then max b.anchorOffset focus else min (focus + 1) b.document.length
  | .up | .down =>
    match m.line? place.line (text.lines.length - 1) with
    | some line => text.offsetAt line goal
    | none => focus
  | .lineStart => focus - place.col
  | .lineEnd => text.offsetAt place.line text.length
  | .documentStart => 0
  | .documentEnd => b.document.length

/-- Moves the caret; the other end of the selection comes with it unless `extend` is set. -/
def move (b : Buffer) (m : Motion) (extend : Bool) : Buffer :=
  let goal := b.goal.getD (b.text.lineCol b.focusOffset).col
  let focus := b.document.positionAt (b.target m extend goal)
  { b with
    selection := some ⟨if extend then b.current.anchor else focus, focus⟩
    goal := if m.isVertical then some goal else none }

end Buffer

end CodePad
