import CodePad.Lexer
import CodePad.Document.OfTokens
import CodePad.Selection

/-!
Highlighting a document: its text is read afresh and cut along the tokens that it has now. A
selection in the document is carried over to the new runs.
-/

namespace CodePad

/-- A lexer that may be switched off. -/
structure Highlighter where
  lexer : Lexer := .builtin
  enabled : Bool := true

/-- A highlighted document and the tokens that it was made from. -/
structure Highlighted where
  document : Document
  tokens : List Token
  deriving DecidableEq, Repr

namespace Highlighter

def tokens (h : Highlighter) (text : Text) : List Token :=
  if h.enabled then h.lexer.tokens text else []

def highlight (h : Highlighter) (text : Text) : Highlighted :=
  let tokens := h.tokens text
  ⟨Document.ofTokens text tokens, tokens⟩

/-- Highlights a document as it is now, and gives the selection of the same range in the new
one, if something is selected. -/
def pass (h : Highlighter) (d : Document) (s : Option Selection) :
    Highlighted × Option Selection :=
  let new := h.highlight d.text
  (new, Selection.restore new.document (Selection.save d s))

end Highlighter

end CodePad
