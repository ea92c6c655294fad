import CodePad.Buffer.Basic

/-!
What the mode line says.
-/

namespace CodePad

/-- What the mode line says about a buffer. -/
structure Status where
  place : LineCol
  /-- The offset of the later end of the selection, if there is one. -/
  offset : Option Nat
  /-- The number of tokens. -/
  tokens : Nat
  highlighting : Bool
  deriving DecidableEq, Repr

namespace Status

def ofBuffer (b : Buffer) : Status :=
  ⟨b.caretPlace, b.range.map Range.stop, b.tokens.length, b.highlighter.enabled⟩

/-- The mode line's text; lines and columns are shown from one on. -/
def text (s : Status) : Text :=
  "-- bracepad: *untitled* L".toList ++ Text.digits (s.place.line + 1) ++
    ":C".toList ++ Text.digits (s.place.col + 1) ++
    " @".toList ++ s.offset.elim ['-'] Text.digits ++
    " spans:".toList ++ Text.digits s.tokens ++
    " hl:".toList ++ (if s.highlighting then "on " else "off ").toList

end Status

end CodePad
