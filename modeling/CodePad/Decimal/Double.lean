import CodePad.Text.Basic

/-!
Numbers with a binary mantissa of 53 digits, as settings files write them in decimal: which of
them a decimal stands for, and the fewest decimal digits that stand for it again.
-/

namespace CodePad

/-- A number of double precision. A finite one is `mantissa * 2 ^ exponent` up to its sign. -/
inductive Double where
  | finite (negative : Bool) (mantissa : Nat) (exponent : Int)
  | infinite (negative : Bool)
  | notANumber
  deriving DecidableEq, Repr

/-- A decimal: `digits * 10 ^ exponent`. -/
structure Decimal where
  digits : Nat
  exponent : Int
  deriving DecidableEq, Repr

namespace Double

def minExponent : Int := -1074

/-- The greatest exponent of a finite number whose mantissa has all its digits. -/
def maxExponent : Int := 971

/-- The quotient rounded to the nearest integer, a half to the even one. -/
def divNearest (num den : Nat) : Nat :=
  let q := num / den
  let r := num % den
  if 2 * r < den ∨ (2 * r = den ∧ q % 2 = 0) then q else q + 1

def scaled (num den : Nat) (e : Int) : Nat :=
  if 0 ≤ e then divNearest num (den * Nat.pow 2 e.toNat)
  else divNearest (num * Nat.pow 2 (-e).toNat) den

/-- The exponent at which the quotient has a mantissa of 53 digits, or the least one. -/
def exponentFor (num den : Nat) : Int :=
  let guess : Int := (num.log2 : Int) - den.log2 - 53
  let e := if Nat.pow 2 53 ≤ scaled num den guess then guess + 1 else guess
  max minExponent e

def ofQuotient (negative : Bool) (num den : Nat) : Double :=
  let e := exponentFor num den
  let m := scaled num den e
  -- Rounding up may give one digit too many.
  let (m, e) := if m = Nat.pow 2 53 then (Nat.pow 2 52, e + 1) else (m, e)
  if maxExponent < e then infinite negative else finite negative m e

def digitCount (n : Nat) : Nat := (Text.digits n).length

/-- The number nearest to a decimal. Decimals far outside the range are not written out. -/
def ofDecimal (negative : Bool) (d : Decimal) : Double :=
  let magnitude : Int := digitCount d.digits + d.exponent
  if d.digits = 0 ∨ magnitude < -400 then finite negative 0 minExponent
  else if 400 < magnitude then infinite negative
  else if 0 ≤ d.exponent then ofQuotient negative (d.digits * Nat.pow 10 d.exponent.toNat) 1
  else ofQuotient negative d.digits (Nat.pow 10 (-d.exponent).toNat)

def readsAs (m : Nat) (e : Int) (d : Decimal) : Bool :=
  ofDecimal false d = finite false m e

/-- The two decimals next to `num / den` among the multiples of `10 ^ k`, the nearer first. Of
two that are as near the greater comes first. -/
def neighbours (num den : Nat) (k : Int) : List Decimal :=
  let (num, den) :=
    if 0 ≤ k then (num, den * Nat.pow 10 k.toNat) else (num * Nat.pow 10 (-k).toNat, den)
  let low := num / den
  if 2 * (num % den) < den then [⟨low, k⟩, ⟨low + 1, k⟩] else [⟨low + 1, k⟩, ⟨low, k⟩]

/-- Looks for a decimal that stands for `m * 2 ^ e` on finer and finer grids. -/
def shortestFrom (m : Nat) (e : Int) (num den : Nat) (k : Int) : (fuel : Nat) → Decimal
  | 0 => ⟨num / den, 0⟩
  | fuel + 1 =>
    match (neighbours num den k).find? fun d => d.digits ≠ 0 && readsAs m e d with
    | some d => d
    | none => shortestFrom m e num den (k - 1) fuel

def shortest (m : Nat) (e : Int) : Decimal :=
  if m = 0 then ⟨0, 0⟩
  else
    let (num, den) := if 0 ≤ e then (m * Nat.pow 2 e.toNat, 1) else (m, Nat.pow 2 (-e).toNat)
    let magnitude : Int := (digitCount num : Int) - digitCount den
    shortestFrom m e num den magnitude 20

/-- A decimal written without an exponent, with at least one digit after the point. -/
def positional (d : Decimal) : Text :=
  let ds := Text.digits d.digits
  if 0 ≤ d.exponent then ds ++ List.replicate d.exponent.toNat '0' ++ ['.', '0']
  else
    let places := (-d.exponent).toNat
    let ds := ds.leftpad (places + 1) '0'
    ds.take (ds.length - places) ++ '.' :: ds.drop (ds.length - places)

def sign (negative : Bool) : Text := if negative then ['-'] else []

def text : Double → Text
  | finite negative m e => sign negative ++ positional (shortest m e)
  | infinite negative => sign negative ++ ['i', 'n', 'f']
  | notANumber => ['N', 'a', 'N']

end Double

end CodePad
