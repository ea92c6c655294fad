import CodePad.Buffer.Edit
import CodePad.Screen.Frame

/-!
The editor: a buffer, how it is shown, and what each event does to them.
-/

namespace CodePad

structure Editor where
  buffer : Buffer
  display : Display
  scroll : Scroll := {}
  running : Bool := true

namespace Editor

def withMessage (e : Editor) (message : Text) : Editor :=
  { e with display := { e.display with message := some message } }

def clearMessage (e : Editor) : Editor :=
  { e with display := { e.display with message := none } }

/-- Has the screen cleared before the next frame. -/
def forceRedraw (e : Editor) : Editor :=
  { e with display := { e.display with redraw := true } }

def withBuffer (e : Editor) (buffer : Buffer) : Editor := { e with buffer }

def toggleLineNumbers (e : Editor) : Editor :=
  forceRedraw { e with display := { e.display with lineNumbers := !e.display.lineNumbers } }

def toggleHighlighting (e : Editor) : Editor :=
  let enabled := !e.buffer.highlighter.enabled
  (e.withBuffer (e.buffer.setHighlighting enabled)).withMessage
    (if enabled then "Highlighting on" else "Highlighting off").toList

/-- Ends the editor, or says that an entry of the menu does nothing yet. -/
def choose (e : Editor) (m : MenuCommand) : Editor :=
  match m with
  | .exit => { e with running := false }
  | m => e.withMessage (m.label ++ ": not implemented").toList

/-- What an event does once the last message is gone. -/
def perform (e : Editor) : Event → Editor
  | .insert c => e.withBuffer (e.buffer.insert [c])
  | .enter => e.withBuffer e.buffer.enter
  | .tab => e.withBuffer e.buffer.tab
  | .backspace => e.withBuffer e.buffer.backspace
  | .delete => e.withBuffer e.buffer.deleteForward
  | .move m extend => e.withBuffer (e.buffer.move m extend)
  | .menu m => e.choose m
  | .toggleLineNumbers => e.toggleLineNumbers
  | .toggleHighlighting => e.toggleHighlighting

def handle (e : Editor) (event : Event) : Editor := e.clearMessage.perform event

/-- Scrolls to the caret in a text area of as many rows as the terminal has for it. -/
def scrollToCaret (e : Editor) (size : Size) : Scroll :=
  (e.scroll.withHeight (Screen.textRows size)).reveal e.buffer.caretPlace.line

/-- Draws a frame: what the terminal is to do, and the editor afterwards. Without room for a
frame nothing happens. -/
def render (p : Platform) (e : Editor) (size : Size) : Option (List Command × Editor) :=
  if Screen.hasRoom size then do
    let scroll := e.scrollToCaret size
    let commands ← Screen.frame p e.display size e.buffer scroll
    return (commands, { e with scroll, display := { e.display with redraw := false } })
  else some ([], e)

end Editor

end CodePad
