import CodePad.Text.Uppercase

/-!
Keys as a terminal reports them.
-/

namespace CodePad

structure Modifiers where
  shift : Bool := false
  control : Bool := false
  alt : Bool := false
  super : Bool := false
  hyper : Bool := false
  metaKey : Bool := false
  deriving DecidableEq, Repr

inductive KeyCode where
  | char (c : Char)
  | function (n : UInt8)
  | enter
  | tab
  | backTab
  | backspace
  | delete
  | insert
  | left
  | right
  | up
  | down
  | home
  | endKey
  | pageUp
  | pageDown
  | escape
  | null
  | capsLock
  | scrollLock
  | numLock
  | printScreen
  | pause
  | menu
  | keypadBegin
  deriving DecidableEq, Repr

inductive KeyAction where
  | press
  | repetition
  | release
  deriving DecidableEq, Repr

structure Key where
  code : KeyCode
  modifiers : Modifiers := {}
  action : KeyAction := .press
  deriving DecidableEq, Repr

namespace Key

def withAlt (k : Key) : Key := { k with modifiers := { k.modifiers with alt := true } }

def control (c : Char) : Key := ⟨.char c, { control := true }, .press⟩

/-- The key that types a character; capital letters come with Shift. -/
def typing (c : Char) : Key := ⟨.char c, { shift := isUppercase c }, .press⟩

end Key

end CodePad
