import CodePad.Text.Basic
import CodePad.Token.Kind

/-!
Tokens: labelled stretches of a text, from one byte offset up to another.
-/

namespace CodePad

/-- A stretch of a text with a label and a copy of the characters it spans. -/
structure Token where
  /-- Byte offset of the first character. -/
  start : Nat
  /-- Byte offset after the last character. -/
  stop : Nat
  kind : TokenKind
  text : Text
  deriving DecidableEq, Repr

namespace Token

def ofSlice (text : Text) (start stop : Nat) (kind : TokenKind) : Token :=
  ⟨start, stop, kind, text.slice start stop⟩

def Overlaps (a b : Token) : Prop :=
  max a.start b.start < min a.stop b.stop

instance (a b : Token) : Decidable (a.Overlaps b) := by
  unfold Overlaps; infer_instance

end Token

end CodePad
