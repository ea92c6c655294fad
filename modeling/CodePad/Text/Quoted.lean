import CodePad.Text.Basic
import CodePad.Text.Quoted.Classes

/-!
Quoted texts, as messages show them: in double quotes, with a backslash before quotes and
backslashes, and with an escape for every character that would not show by itself.
-/

namespace CodePad

namespace Text

def hex (n : Nat) : Text := Nat.toDigits 16 n

/-- How a character is shown between quotes. -/
def escape (c : Char) : Text :=
  match c with
  | '\x00' => ['\\', '0']
  | '\t' => ['\\', 't']
  | '\n' => ['\\', 'n']
  | '\r' => ['\\', 'r']
  | '\\' => ['\\', '\\']
  | '\x22' => ['\\', '\x22']
  | c =>
    if CharClass.hidden.has c then ['\\', 'u', '\x7b'] ++ hex c.toNat ++ ['\x7d'] else [c]

def quoted (t : Text) : Text := '\x22' :: t.flatMap escape ++ ['\x22']

end Text

end CodePad
