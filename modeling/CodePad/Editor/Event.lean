import CodePad.Buffer.Motion
import CodePad.Terminal.Key

/-!
What keys mean to the editor.
-/

namespace CodePad

inductive MenuCommand where
  | newFile
  | save
  | saveAs
  | exit
  deriving DecidableEq, Repr

namespace MenuCommand

def all : List MenuCommand := [newFile, save, saveAs, exit]

def label : MenuCommand → String
  | newFile => "New File"
  | save => "Save"
  | saveAs => "Save As"
  | exit => "Exit"

def letter : MenuCommand → Char
  | newFile => 'N'
  | save => 'S'
  | saveAs => 'W'
  | exit => 'Q'

def shortcut (m : MenuCommand) : String := String.ofList ['^', m.letter]

def ofLetter? (c : Char) : Option MenuCommand := all.find? fun m => m.letter = c.toUpper

end MenuCommand

inductive Event where
  | insert (c : Char)
  | enter
  | tab
  | backspace
  | delete
  | move (motion : Motion) (extend : Bool)
  | menu (command : MenuCommand)
  | toggleLineNumbers
  | toggleHighlighting
  deriving DecidableEq, Repr

namespace Event

/-- What a key that is pressed asks for. Shift extends the selection; a character with Alt
asks for nothing. -/
def ofPress? (code : KeyCode) (held : Modifiers) : Option Event :=
  match code with
  | .char c =>
    if held.control then (MenuCommand.ofLetter? c).map menu
    else if held.alt then none
    else some (insert c)
  | .enter => some enter
  | .tab => some tab
  | .backspace => some backspace
  | .delete => some delete
  | .left => some (move .left held.shift)
  | .right => some (move .right held.shift)
  | .up => some (move .up held.shift)
  | .down => some (move .down held.shift)
  | .home => some (move (if held.control then .documentStart else .lineStart) held.shift)
  | .endKey => some (move (if held.control then .documentEnd else .lineEnd) held.shift)
  | .function 2 => some toggleLineNumbers
  | .function 3 => some toggleHighlighting
  | _ => none

/-- What a key asks for; only pressing it counts. -/
def ofKey? (k : Key) : Option Event :=
  if k.action = .press then ofPress? k.code k.modifiers else none

end Event

end CodePad
