import CodePad.Style

/-!
The kinds of highlighted text.
-/

namespace CodePad

inductive TokenKind where
  | comment
  | string
  | number
  | keyword
  deriving DecidableEq, Repr

namespace TokenKind

/-- All kinds, the ones that win first. -/
def all : List TokenKind := [comment, string, number, keyword]

def name : TokenKind → String
  | comment => "comment"
  | string => "string"
  | number => "number"
  | keyword => "keyword"

def ofName? (name : String) : Option TokenKind :=
  all.find? fun kind => kind.name = name

@[simp] theorem ofName?_name (kind : TokenKind) : ofName? kind.name = some kind := by
  cases kind <;> decide

def defaultStyle : TokenKind → Style
  | comment => (Style.colored .brightBlack).withItalic
  | string => Style.colored .green
  | number => Style.colored .cyan
  | keyword => (Style.colored .magenta).withBold

end TokenKind

end CodePad
