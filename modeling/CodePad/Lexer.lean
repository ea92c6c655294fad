import CodePad.Rule
import CodePad.Token.Select

/-!
The lexer: rules in the order in which they win, and the tokens they leave of a text.
-/

namespace CodePad

/-- Rules, the ones that win first. -/
structure Lexer where
  rules : List Rule

namespace Lexer

/-- One more rule, which yields to all others. -/
def add (x : Lexer) (r : Rule) : Lexer := ⟨x.rules ++ [r]⟩

def scan (x : Lexer) (text : Text) : List (List Token) := x.rules.map fun r => r.tokens text

/-- The tokens of a text: no two share a byte, and they come in the order of their offsets. -/
def tokens (x : Lexer) (text : Text) : List Token :=
  Token.select (Text.byteLength text) (x.scan text)

end Lexer

namespace Pattern

/-- Two slashes up to the end of the line, or all from a slash and a star to the first star
and slash. -/
def comment : Pattern :=
  alt
    (sequence [literal ['/', '/'], star true (char (CharSet.ofList ['\r', '\n']).compl)])
    (sequence [literal ['/', '*'], star false (char .all), literal ['*', '/']])

/-- A quote, then characters other than it, then the quote again; a backslash stands for
itself and the character after it. -/
def quoted (quote : Char) : Pattern :=
  sequence [char (.single quote),
    star true (alt (seq (char (.single '\\')) (char .all))
      (char (CharSet.ofList ['\\', quote]).compl)),
    char (.single quote)]

def string : Pattern := alt (quoted '\x27') (quoted '\x22')

def number : Pattern :=
  sequence [wordBoundary, plus true (char ⟨[('0', '9')], false⟩), wordBoundary]

def word (words : List String) : Pattern :=
  sequence [wordBoundary, anyOf (words.map fun w => literal w.toList), wordBoundary]

end Pattern

namespace Lexer

def keywords : List String := ["function", "if", "else", "for", "while", "var", "const", "let"]

def builtin : Lexer :=
  ⟨[⟨"comment", .comment, Pattern.comment.matcher⟩,
    ⟨"string", .string, Pattern.string.matcher⟩,
    ⟨"number", .number, Pattern.number.matcher⟩,
    ⟨"keyword", .keyword, (Pattern.word keywords).matcher⟩]⟩

end Lexer

end CodePad
