/-!
Texts and their UTF-8 measure. A text is the list of its characters; offsets count
characters, except where they are said to count the bytes of the UTF-8 form. A byte offset
that falls inside a character stands for the boundary after it.
-/

namespace CodePad

/-- A text, as the list of its characters. -/
abbrev Text := List Char

namespace Text

def digits (n : Nat) : Text := Nat.toDigits 10 n

def signedDigits (n : Int) : Text := if n < 0 then '-' :: digits n.natAbs else digits n.natAbs

def byteLength : Text → Nat
  | [] => 0
  | c :: t => c.utf8Size + byteLength t

@[simp] theorem byteLength_nil : byteLength [] = 0 := rfl

@[simp] theorem byteLength_cons (c : Char) (t : Text) :
    byteLength (c :: t) = c.utf8Size + byteLength t := rfl

@[simp] theorem byteLength_append (s t : Text) :
    byteLength (s ++ t) = byteLength s + byteLength t := by
  induction s with
  | nil => simp
  | cons c s ih => simp [ih, Nat.add_assoc]

def takeBytes : Nat → Text → Text
  | _, [] => []
  | n, c :: t => if n = 0 then [] else c :: takeBytes (n - c.utf8Size) t

def dropBytes : Nat → Text → Text
  | _, [] => []
  | n, c :: t => if n = 0 then c :: t else dropBytes (n - c.utf8Size) t

theorem takeBytes_append_dropBytes (n : Nat) (t : Text) :
    takeBytes n t ++ dropBytes n t = t := by
  induction t generalizing n with
  | nil => rfl
  | cons c t ih => by_cases h : n = 0 <;> simp [takeBytes, dropBytes, h, ih]

/-- The bytes from `start` up to `stop`. -/
def slice (start stop : Nat) (t : Text) : Text :=
  takeBytes (stop - start) (dropBytes start t)

end Text

end CodePad
