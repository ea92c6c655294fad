import CodePad.Editor.Event
import CodePad.Screen.Line
import CodePad.Screen.Status
import CodePad.Scroll

/-!
The frame that shows the editor: a menu bar, the text area, the mode line and the message
line. Each row is moved to and written in full, so a frame hides the one before it. There is no
frame if writing one of the lines ends the program.
-/

namespace CodePad

structure Display where
  /-- Whether the screen is cleared before the next frame. -/
  redraw : Bool := true
  message : Option Text := none
  lineNumbers : Bool := false
  theme : Theme := .standard

namespace Screen

/-- The rows that are not the text area's. -/
def chromeRows : Nat := 3

def hasRoom (size : Size) : Bool := chromeRows < size.rows.toNat && 0 < size.cols.toNat

def textRows (size : Size) : Nat := size.rows.toNat - chromeRows

def menuText : Text :=
  let entry (m : MenuCommand) : Text := (m.shortcut ++ " " ++ m.label).toList
  " File | ".toList ++ List.intercalate [' ', ' '] (MenuCommand.all.map entry)

def menuBar (p : Platform) (size : Size) : List Command :=
  [.moveTo 0 0, .reverse true, .write (p.measure.pad size.cols.toNat ' ' menuText), .reverse false]

/-- The columns in front of the text area's lines: a line number of at least three digits and
a space. -/
def gutterWidth (lineNumbers : Bool) (lineCount : Nat) : Nat :=
  if lineNumbers then max (Text.digits (max lineCount 1)).length 3 + 1 else 0

def gutter (width : Nat) (line : Nat) : Text :=
  (Text.digits (line + 1)).leftpad (width - 1) ' ' ++ [' ']

/-- The part of a row before its line, and the sign that stands in rows after the last line. -/
def faint (t : Text) : List Command := [.dim true, .write t, .dim false]

/-- The line that a row of the text area shows, or the sign that there is none. -/
def rowContent (p : Platform) (d : Display) (size : Size) (selected : Option Range)
    (lines : List (List Piece)) (index : Nat) : Option (List Command) := do
  let width := gutterWidth d.lineNumbers lines.length
  match lines[index]? with
  | some line =>
    let shown ← writeLine p d.theme selected (size.cols.toNat - width) line
    return (if d.lineNumbers then faint (gutter width index) else []) ++ shown
  | none =>
    -- Unlike a line, the sign is not cut: no column may be left for it.
    return (if d.lineNumbers then [.write (List.replicate width ' ')] else []) ++ faint ['~']

def textRow (p : Platform) (d : Display) (size : Size) (selected : Option Range) (top : Nat)
    (lines : List (List Piece)) (row : Nat) : Option (List Command) := do
  let content ← rowContent p d size selected lines (top + row)
  return .moveTo (1 + UInt16.ofNat row) 0 :: content ++ [.clearToEndOfLine]

def modeLine (p : Platform) (size : Size) (s : Status) : List Command :=
  [.moveTo (size.rows - 2) 0, .reverse true, .write (p.measure.pad size.cols.toNat '-' s.text),
    .reverse false]

def messageLine (p : Platform) (size : Size) (message : Option Text) : List Command :=
  .moveTo (size.rows - 1) 0 ::
    (message.map fun t => Command.write (p.measure.truncate size.cols.toNat t)).toList ++
    [.clearToEndOfLine]

/-- Puts the cursor where the caret is, or in the last column if that is further right. -/
def placeCursor (p : Platform) (d : Display) (size : Size) (place : LineCol) (top : Nat)
    (lines : List (List Piece)) : Command :=
  let line : Text := (lines[place.line]?.getD []).flatMap Piece.text
  let col := gutterWidth d.lineNumbers lines.length + p.measure.columns (line.take place.col)
  .moveTo (1 + UInt16.ofNat (place.line - top)) (UInt16.ofNat (min col (size.cols.toNat - 1)))

def frame (p : Platform) (d : Display) (size : Size) (b : Buffer) (scroll : Scroll) :
    Option (List Command) := do
  let lines := b.document.lines
  let selected := b.range.filter fun r => !r.isEmpty
  let rows ← (List.range scroll.height).mapM (textRow p d size selected scroll.top lines)
  return [.showCursor false] ++
    (if d.redraw then [.clearScreen] else []) ++
    menuBar p size ++
    rows.flatten ++
    modeLine p size (Status.ofBuffer b) ++
    messageLine p size d.message ++
    [placeCursor p d size b.caretPlace scroll.top lines, .showCursor true]

end Screen

end CodePad
