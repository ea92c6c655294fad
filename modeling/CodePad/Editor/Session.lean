import CodePad.Editor.State

/-!
A session: frames and events in turn, until the editor is told to exit. There is no session left
if a frame ends the program.
-/

namespace CodePad

inductive Report where
  | key (k : Key)
  | resize (size : Size)
  deriving DecidableEq, Repr

/-- A session at some moment. -/
structure Session where
  editor : Editor
  /-- The size of the terminal, as last reported. -/
  size : Size
  /-- The frames drawn so far. -/
  frames : List (List Command) := []
  /-- The reports that were left when the editor stopped. -/
  unread : List Report := []

namespace Session

def draw (p : Platform) (s : Session) : Option Session := do
  let (commands, editor) ← s.editor.render p s.size
  return { s with editor, frames := s.frames ++ [commands] }

/-- All that the terminal has been told to do. -/
def output (s : Session) : List Command := s.frames.flatten

def receive (s : Session) : Report → Session
  | .key k =>
    match Event.ofKey? k with
    | some event => { s with editor := s.editor.handle event }
    | none => s
  | .resize size => { s with editor := s.editor.forceRedraw, size }

/-- Draws a frame before each report is read and stops when the editor does. With no report
left the session waits. -/
def loop (p : Platform) (s : Session) : List Report → Option Session
  | [] => if s.editor.running then s.draw p else some s
  | r :: rs =>
    -- The frame comes first: if it ends the program, the report is never read.
    if s.editor.running then do
      let drawn ← s.draw p
      loop p (drawn.receive r) rs
    else some { s with unread := r :: rs }

def run (p : Platform) (editor : Editor) (size : Size) (reports : List Report) : Option Session :=
  loop p { editor := editor.forceRedraw, size } reports

end Session

end CodePad
