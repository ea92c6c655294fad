import CodePad.Text.Basic
import CodePad.Text.CharClass

/-!
Blank characters: those with the Unicode property White_Space.
-/

namespace CodePad

def CharClass.blank : CharClass :=
  [(0x9, 0xd), (0x20, 0x20), (0x85, 0x85), (0xa0, 0xa0), (0x1680, 0x1680), (0x2000, 0x200a),
    (0x2028, 0x2029), (0x202f, 0x202f), (0x205f, 0x205f), (0x3000, 0x3000)]

def isBlank (c : Char) : Bool := CharClass.blank.has c

namespace Text

def trim (t : Text) : Text :=
  ((t.dropWhile isBlank).reverse.dropWhile isBlank).reverse

/-- The longest blank part at the front: a line's indentation. -/
def indent (t : Text) : Text := t.takeWhile isBlank

end Text

end CodePad
