import CodePad.Text.Basic
import CodePad.Text.Width.Classes

/-!
How many columns characters and texts take on a terminal. The program does not say so itself but
asks a measure, and uses it in two ways: it cuts a text by the widths of its characters, and counts
what is left by the width of the text. The two may differ, since a terminal draws some sequences of
characters as one.
-/

namespace CodePad

/-- Where the widths come from. -/
structure Measure where
  /-- The width of a character, if it has one; a control character has none. -/
  char? : Char → Option Nat
  width : Text → Nat

namespace Measure

variable (m : Measure)

/-- The columns of a character: one if it has no width. -/
def charWidth (c : Char) : Nat := (m.char? c).getD 1

def columns : Text → Nat
  | [] => 0
  | c :: t => m.charWidth c + columns t

@[simp] theorem columns_nil : m.columns [] = 0 := rfl

@[simp] theorem columns_cons (c : Char) (t : Text) :
    m.columns (c :: t) = m.charWidth c + m.columns t := rfl

@[simp] theorem columns_append (s t : Text) : m.columns (s ++ t) = m.columns s + m.columns t := by
  induction s with
  | nil => simp
  | cons c s ih => simp [ih, Nat.add_assoc]

/-- The longest front part whose characters take at most `columns` columns. -/
def truncate (columns : Nat) : Text → Text
  | [] => []
  | c :: t =>
    if m.charWidth c ≤ columns then c :: truncate (columns - m.charWidth c) t else []

def pad (columns : Nat) (fill : Char) (t : Text) : Text :=
  let shown := m.truncate columns t
  shown ++ List.replicate (columns - m.width shown) fill

/-! ### The measure of the program -/

/-- A control character has no width, and the other characters take up to two columns. -/
def unicodeChar? (c : Char) : Option Nat :=
  if c.toNat < 0x20 || 0x7f ≤ c.toNat && c.toNat < 0xa0 then none
  else if c.toNat < 0x7f then some 1
  else if CharClass.zeroWidth.has c then some 0
  else if CharClass.wide.has c then some 2
  else some 1

/-- The sum of the widths of the characters, but a character drawn as a picture because of the
variation selector after it takes two columns, together with the selector. Other sequences that
are drawn as one are left out: joined pictures and the ligatures of some scripts. -/
def unicodeWidth : Text → Nat
  | [] => 0
  | c :: '\ufe0f' :: t =>
    if CharClass.textEmoji.has c then 2 + unicodeWidth t
    else (unicodeChar? c).getD 1 + unicodeWidth ('\ufe0f' :: t)
  | c :: t => (unicodeChar? c).getD 1 + unicodeWidth t

/-- The widths of `unicode-width` 0.1, but for the sequences that `unicodeWidth` leaves out. What
is proved of texts and frames holds of any measure. -/
def unicode : Measure := ⟨unicodeChar?, unicodeWidth⟩

end Measure

end CodePad
