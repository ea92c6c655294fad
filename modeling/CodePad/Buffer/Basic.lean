import CodePad.Document.Lines
import CodePad.Highlighter

/-!
The text being edited, with its highlighting and its selection. After every change of the
text it is highlighted anew, and the selection is carried over to the new runs.
-/

namespace CodePad

/-- What Enter does besides breaking the line. -/
inductive EnterPolicy where
  /-- Repeats the indentation of the line, and after an opening brace indents further and puts
  the closing brace on a line of its own. -/
  | carryIndent
  /-- Only after an opening brace: indents the new line, and puts the closing brace at the end
  of the document. -/
  | braceOnly
  deriving DecidableEq, Repr

/-- A document being edited. With nothing selected, the selection is the caret alone; without a
selection nothing can be edited. -/
structure Buffer where
  document : Document
  selection : Option Selection
  tokens : List Token
  highlighter : Highlighter
  indentUnit : Text
  policy : EnterPolicy
  /-- The column that moving up and down aims at, once such a move has begun. -/
  goal : Option Nat

namespace Buffer

def new (highlighter : Highlighter) (indentUnit : Text) (policy : EnterPolicy) : Buffer where
  document := .empty
  selection := some (.caret .zero)
  tokens := []
  highlighter
  indentUnit
  policy
  goal := none

def text (b : Buffer) : Text := b.document.text

def range (b : Buffer) : Option Range := Selection.save b.document b.selection

def caretLineCol (b : Buffer) : Option LineCol :=
  b.selection.map fun s => b.text.lineCol (b.document.offsetOf s.focus)

/-- Where the caret is shown: at the start if there is none. -/
def caretPlace (b : Buffer) : LineCol := b.caretLineCol.getD ⟨0, 0⟩

def highlight (b : Buffer) : Buffer :=
  let (new, selection) := b.highlighter.pass b.document b.selection
  { b with document := new.document, tokens := new.tokens, selection }

def setHighlighting (b : Buffer) (enabled : Bool) : Buffer :=
  highlight { b with highlighter := { b.highlighter with enabled } }

end Buffer

end CodePad
