import CodePad.Text.Basic

/-!
Reading the strings and keys of TOML 1.0. A reader takes the text before it to what it has read
and the text that is left, and fails on anything that the language does not allow. Line ends
are newlines, with or without a carriage return in front; inside multi-line strings both stand
for a newline.
-/

namespace CodePad.Toml

/-- What has been read and the text that is left. -/
abbrev Read (α : Type) := Option (α × Text)

/-- How deep values may be nested and how many parts a key may have. -/
def maxDepth : Nat := 80

namespace Read

def blanks (t : Text) : Text := t.dropWhile fun c => c = ' ' || c = '\t'

def newline? : Text → Option Text
  | '\n' :: t => some t
  | '\r' :: '\n' :: t => some t
  | _ => none

def isCommentChar (c : Char) : Bool := c = '\t' || (' ' ≤ c && c ≠ '\x7f')

def skipComment (t : Text) : Text :=
  match blanks t with
  | '#' :: t => t.dropWhile isCommentChar
  | t => t

/-- The text after the rest of a line that holds at most a comment. -/
def lineEnd? (t : Text) : Option Text :=
  match skipComment t with
  | [] => some []
  | t => newline? t

/-- One line end after another, with blanks and comments before each. Every one shortens the
text, which is the fuel. -/
def gapFrom : (fuel : Text) → Text → Text
  | [], t => t
  | _ :: fuel, t =>
    match blanks t with
    | '#' :: t =>
      match newline? (t.dropWhile isCommentChar) with
      | some t => gapFrom fuel t
      -- A comment that no line end follows is not passed over.
      | none => '#' :: t
    | t =>
      match newline? t with
      | some t => gapFrom fuel t
      | none => t

/-- The text after blanks, line ends and comments that end in a line end. -/
def gap (t : Text) : Text := gapFrom t t

/-! ### Strings -/

def digit? (c : Char) : Option Nat :=
  if '0' ≤ c && c ≤ '9' then some (c.toNat - '0'.toNat)
  else if 'a' ≤ c && c ≤ 'f' then some (c.toNat - 'a'.toNat + 10)
  else if 'A' ≤ c && c ≤ 'F' then some (c.toNat - 'A'.toNat + 10)
  else none

def number? (base : Nat) (t : Text) : Option Nat :=
  t.foldlM (fun n c => (digit? c).bind fun d => if d < base then some (base * n + d) else none) 0

def codePoint? (digits : Text) : Option Char :=
  (number? 16 digits).bind fun n => if n.isValidChar then some (Char.ofNat n) else none

def escaped? (c : Char) : Option Char :=
  match c with
  | 'b' => some '\x08'
  | 't' => some '\t'
  | 'n' => some '\n'
  | 'f' => some '\x0c'
  | 'r' => some '\r'
  | '\x22' => some '\x22'
  | '\\' => some '\\'
  | _ => none

def isPlainChar (c : Char) : Bool := c = '\t' || (' ' ≤ c && c ≠ '\x7f')

/-- The rest of a string in double quotes; `read` is what was read of it, the latest first. -/
def basicString (read : Text) : Text → Read Text
  | [] => none
  | '\\' :: 'u' :: a :: b :: c :: d :: t =>
    (codePoint? [a, b, c, d]).bind fun x => basicString (x :: read) t
  | '\\' :: 'U' :: a :: b :: c :: d :: e :: f :: g :: h :: t =>
    (codePoint? [a, b, c, d, e, f, g, h]).bind fun x => basicString (x :: read) t
  | '\\' :: c :: t => (escaped? c).bind fun x => basicString (x :: read) t
  | '\x22' :: t => some (read.reverse, t)
  | c :: t => if isPlainChar c then basicString (c :: read) t else none

def endsLine (t : Text) : Bool := (newline? (blanks t)).isSome

/-- The rest of a string in three double quotes. After a backslash at the end of a line,
blanks and line ends are passed over: `skipping` says that this goes on. Up to two quotes may
stand before the closing ones. -/
def multiLineBasic (skipping : Bool) (read : Text) : Text → Read Text
  | [] => none
  | ' ' :: t => multiLineBasic skipping (if skipping then read else ' ' :: read) t
  | '\t' :: t => multiLineBasic skipping (if skipping then read else '\t' :: read) t
  | '\n' :: t => multiLineBasic skipping (if skipping then read else '\n' :: read) t
  | '\r' :: '\n' :: t => multiLineBasic skipping (if skipping then read else '\n' :: read) t
  | '\\' :: 'u' :: a :: b :: c :: d :: t =>
    (codePoint? [a, b, c, d]).bind fun x => multiLineBasic false (x :: read) t
  | '\\' :: 'U' :: a :: b :: c :: d :: e :: f :: g :: h :: t =>
    (codePoint? [a, b, c, d, e, f, g, h]).bind fun x => multiLineBasic false (x :: read) t
  | '\\' :: t =>
    -- Blanks may stand between the backslash and the end of its line.
    if endsLine t then multiLineBasic true read t
    else
      match t with
      | [] => none
      | c :: t => (escaped? c).bind fun x => multiLineBasic false (x :: read) t
  | '\x22' :: '\x22' :: '\x22' :: '\x22' :: '\x22' :: t =>
    some (('\x22' :: '\x22' :: read).reverse, t)
  | '\x22' :: '\x22' :: '\x22' :: '\x22' :: t => some (('\x22' :: read).reverse, t)
  | '\x22' :: '\x22' :: '\x22' :: t => some (read.reverse, t)
  | c :: t => if isPlainChar c then multiLineBasic false (c :: read) t else none

/-- The rest of a string in single quotes, which knows no escapes. -/
def literalString (read : Text) : Text → Read Text
  | [] => none
  | '\x27' :: t => some (read.reverse, t)
  | c :: t => if isPlainChar c then literalString (c :: read) t else none

def multiLineLiteral (read : Text) : Text → Read Text
  | [] => none
  | '\x27' :: '\x27' :: '\x27' :: '\x27' :: '\x27' :: t =>
    some (('\x27' :: '\x27' :: read).reverse, t)
  | '\x27' :: '\x27' :: '\x27' :: '\x27' :: t => some (('\x27' :: read).reverse, t)
  | '\x27' :: '\x27' :: '\x27' :: t => some (read.reverse, t)
  | '\n' :: t => multiLineLiteral ('\n' :: read) t
  | '\r' :: '\n' :: t => multiLineLiteral ('\n' :: read) t
  | c :: t => if isPlainChar c then multiLineLiteral (c :: read) t else none

def dropNewline (t : Text) : Text := (newline? t).getD t

def string? : Text → Read Text
  | '\x22' :: '\x22' :: '\x22' :: t => multiLineBasic false [] (dropNewline t)
  | '\x27' :: '\x27' :: '\x27' :: t => multiLineLiteral [] (dropNewline t)
  | '\x22' :: t => basicString [] t
  | '\x27' :: t => literalString [] t
  | _ => none

/-! ### Keys -/

def isKeyChar (c : Char) : Bool := c.isAlphanum || c = '_' || c = '-'

def simpleKey? : Text → Read String
  | '\x22' :: t => (basicString [] t).map fun (s, t) => (String.ofList s, t)
  | '\x27' :: t => (literalString [] t).map fun (s, t) => (String.ofList s, t)
  | t =>
    let key := t.takeWhile isKeyChar
    if key.isEmpty then none else some (String.ofList key, t.dropWhile isKeyChar)

/-- A key with its parts, and the text after the blanks that follow it. -/
def key? : (parts : Nat) → Text → Read (List String)
  | 0, _ => none
  | parts + 1, t =>
    (simpleKey? (blanks t)).bind fun (k, t) =>
      match blanks t with
      | '.' :: t => (key? parts t).map fun (ks, t) => (k :: ks, t)
      | t => some ([k], t)

end Read

end CodePad.Toml
