import CodePad.Editor.State

/-!
The settings of the editor and what they make of it.
-/

namespace CodePad

structure Settings where
  /-- Columns of one step of indentation. -/
  indentWidth : Nat := 4
  enterPolicy : EnterPolicy := .carryIndent
  highlight : Bool := true
  showLineNumbers : Bool := false
  /-- Where the log is kept; without it none is. -/
  logFile : Option String := none
  logLevel : String := "info"
  /-- Colours by the names of what they colour, in the order of the names. -/
  colors : List (String × String) := []
  deriving DecidableEq, Repr, Inhabited

namespace Settings

def indentUnit (s : Settings) : Text := List.replicate s.indentWidth ' '

/-- The kind and colour of an entry of the colours, if both names are known. -/
def override? (entry : String × String) : Option (TokenKind × Color) := do
  let kind ← TokenKind.ofName? entry.1
  let color ← Color.ofName? entry.2
  some (kind, color)

def overrides (s : Settings) : List (TokenKind × Color) := s.colors.filterMap override?

/-- The entries of the colours that mean nothing. -/
def badColors (s : Settings) : List (String × String) :=
  s.colors.filter fun entry => (override? entry).isNone

def theme (s : Settings) : Theme := .ofOverrides s.overrides

def buffer (s : Settings) : Buffer := .new { enabled := s.highlight } s.indentUnit s.enterPolicy

def editor (s : Settings) : Editor where
  buffer := s.buffer.highlight
  display := { lineNumbers := s.showLineNumbers, theme := s.theme }

end Settings

end CodePad
