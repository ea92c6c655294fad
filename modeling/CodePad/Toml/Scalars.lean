import CodePad.Toml.Strings
import CodePad.Toml.Value

/-!
Reading the numbers, dates, times and truth values of TOML 1.0.
-/

namespace CodePad.Toml

namespace Read

def isScalarChar (c : Char) : Bool :=
  c.isAlphanum || c = '_' || c = '-' || c = '+' || c = '.' || c = ':'

/-- Digits with single underscores between them, without the underscores. -/
def digits? (isDigit : Char → Bool) : Text → Option Text
  | [] => none
  | [c] => if isDigit c then some [c] else none
  | c :: '_' :: t => if isDigit c then (digits? isDigit t).map (c :: ·) else none
  | c :: t => if isDigit c then (digits? isDigit t).map (c :: ·) else none

/-- Digits of a whole number: no zero stands before another digit. -/
def wholeDigits? (t : Text) : Option Text :=
  (digits? Char.isDigit t).bind fun ds =>
    if ds.head? = some '0' && 1 < ds.length then none else some ds

def signed : Text → Bool × Text
  | '-' :: t => (true, t)
  | '+' :: t => (false, t)
  | t => (false, t)

def decimal (ds : Text) : Nat := (number? 10 ds).getD 0

/-- An integer, which has to fit into 64 bits. -/
def integer? (t : Text) : Option Int :=
  let magnitude? : Option Int :=
    match t with
    | '0' :: 'x' :: t => ((digits? (fun c => (digit? c).isSome) t).bind (number? 16)).map (↑·)
    | '0' :: 'o' :: t => ((digits? Char.isDigit t).bind (number? 8)).map (↑·)
    | '0' :: 'b' :: t => ((digits? Char.isDigit t).bind (number? 2)).map (↑·)
    | t =>
      let (negative, t) := signed t
      (wholeDigits? t).map fun ds => if negative then -(decimal ds : Int) else decimal ds
  magnitude?.bind fun n => if -0x8000000000000000 ≤ n && n < 0x8000000000000000 then some n
    else none

def exponent? : Text → Option Int
  | [] => some 0
  | e :: t =>
    if e = 'e' || e = 'E' then
      let (negative, t) := signed t
      (digits? Char.isDigit t).map fun ds => if negative then -(decimal ds : Int) else decimal ds
    else none

/-- A float: a whole number with a fraction, an exponent or both, or one of the names of what
is not finite. Digits that write too great a number are refused. -/
def float? (t : Text) : Option Double :=
  let (negative, t) := signed t
  if t = ['i', 'n', 'f'] then some (.infinite negative)
  else if t = ['n', 'a', 'n'] then some .notANumber
  else
    let isPart (c : Char) : Bool := c.isDigit || c = '_'
    let whole := t.takeWhile isPart
    let rest := t.dropWhile isPart
    let (fraction, rest) :=
      match rest with
      | '.' :: t => (some (t.takeWhile isPart), t.dropWhile isPart)
      | t => (none, t)
    if fraction.isNone && rest.isEmpty then none
    else do
      let ws ← wholeDigits? whole
      let fs ← match fraction with
        | some f => digits? Char.isDigit f
        | none => some []
      let e ← exponent? rest
      let x := Double.ofDecimal negative ⟨decimal (ws ++ fs), e - fs.length⟩
      -- Only what is too great is refused: a number too far below zero is kept as infinite.
      if x = .infinite false then none else some x

/-- The number that exactly `count` digits write, if it lies in the range, and what follows. -/
def field? (count low high : Nat) (t : Text) : Read Nat :=
  let ds := t.take count
  if ds.length = count && ds.all Char.isDigit && low ≤ decimal ds && decimal ds ≤ high then
    some (decimal ds, t.drop count)
  else none

def daysIn (year month : Nat) : Nat :=
  match month with
  | 2 => if year % 4 = 0 && (year % 100 ≠ 0 || year % 400 = 0) then 29 else 28
  | 4 | 6 | 9 | 11 => 30
  | _ => 31

def expect? (c : Char) : Text → Option Text
  | d :: t => if c = d then some t else none
  | [] => none

/-- A date, which is its own standard form. -/
def date? (t : Text) : Option (Text × Text) := do
  let (year, u) ← field? 4 0 9999 t
  let u ← expect? '-' u
  let (month, u) ← field? 2 1 12 u
  let u ← expect? '-' u
  let (_, u) ← field? 2 1 (daysIn year month) u
  some (t.take 10, u)

def dropLastZeros (t : Text) : Text := (t.reverse.dropWhile (· = '0')).reverse

/-- The fraction of a second: at most nine digits count, and zeros at the end do not show. -/
def fraction? : Text → Read Text
  | '.' :: t =>
    let ds := t.takeWhile Char.isDigit
    if ds.isEmpty then none
    else
      let shown := dropLastZeros (ds.take 9)
      some (if shown.isEmpty then [] else '.' :: shown, t.dropWhile Char.isDigit)
  | t => some ([], t)

def time? (t : Text) : Option (Text × Text) := do
  let (_, u) ← field? 2 0 23 t
  let u ← expect? ':' u
  let (_, u) ← field? 2 0 59 u
  let u ← expect? ':' u
  let (_, u) ← field? 2 0 60 u
  let (f, u) ← fraction? u
  some (t.take 8 ++ f, u)

def offset? : Text → Option Text
  | [] => some []
  | ['z'] | ['Z'] => some ['Z']
  | s :: t =>
    if s = '+' || s = '-' then do
      let (h, u) ← field? 2 0 23 t
      let u ← expect? ':' u
      let (m, u) ← field? 2 0 59 u
      -- The offset of nothing has one sign only.
      if u.isEmpty then some ((if h + m = 0 then '+' else s) :: t.take 5) else none
    else none

def moment? (t : Text) : Option Text :=
  match date? t with
  | some (d, []) => some d
  | some (d, c :: t) =>
    if c = 'T' || c = 't' || c = ' ' then do
      let (time, t) ← time? t
      let o ← offset? t
      some (d ++ 'T' :: time ++ o)
    else none
  | none =>
    match time? t with
    | some (time, []) => some time
    | _ => none

def scalar? (t : Text) : Option Value :=
  if t = "true".toList then some (.boolean true)
  else if t = "false".toList then some (.boolean false)
  else
    match moment? t, integer? t, float? t with
    | some m, _, _ => some (.moment (String.ofList m))
    | none, some n, _ => some (.integer n)
    | none, none, some x => some (.float x)
    | none, none, none => none

/-- The text of a scalar and what follows. A blank between a date and a time belongs to it. -/
def scalarText (t : Text) : Text × Text :=
  let first := t.takeWhile isScalarChar
  let rest := t.dropWhile isScalarChar
  match rest with
  | ' ' :: after =>
    let second := after.takeWhile isScalarChar
    if (moment? (first ++ ' ' :: second)).isSome then
      (first ++ ' ' :: second, after.dropWhile isScalarChar)
    else (first, rest)
  | _ => (first, rest)

end Read

end CodePad.Toml
