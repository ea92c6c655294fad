import CodePad.Text.Basic

/-!
Patterns over characters. A pattern is matched at a place of a text and may look at the
characters on both sides of it. The way of matching is leftmost-first: of two alternatives
the first that leads to a match is taken, and a greedy repetition tries one round more
before it stops, a lazy one after.
-/

namespace CodePad

/-- A set of characters: those in one of the ranges, or all the others. -/
structure CharSet where
  ranges : List (Char × Char)
  negated : Bool := false
  deriving DecidableEq, Repr

namespace CharSet

def single (c : Char) : CharSet := ⟨[(c, c)], false⟩

def ofList (cs : List Char) : CharSet := ⟨cs.map fun c => (c, c), false⟩

def compl (s : CharSet) : CharSet := { s with negated := !s.negated }

def all : CharSet := ⟨[], true⟩

def contains (s : CharSet) (c : Char) : Bool :=
  (s.ranges.any fun (lo, hi) => lo ≤ c && c ≤ hi) != s.negated

end CharSet

inductive Pattern where
  | empty
  | char (set : CharSet)
  | seq (first second : Pattern)
  | alt (first second : Pattern)
  | star (greedy : Bool) (body : Pattern)
  /-- Matches the empty text at the beginning of the whole text. -/
  | textStart
  /-- Matches the empty text at the end of the whole text. -/
  | textEnd
  /-- Matches the empty text where an ASCII word begins or ends. -/
  | wordBoundary
  deriving DecidableEq, Repr

namespace Pattern

/-- The pattern of exactly one text. -/
def literal : Text → Pattern
  | [] => empty
  | [c] => char (.single c)
  | c :: t => seq (char (.single c)) (literal t)

/-- Any of some patterns, the earlier ones first. -/
def anyOf : List Pattern → Pattern
  | [] => char ⟨[], false⟩
  | [p] => p
  | p :: ps => alt p (anyOf ps)

def sequence : List Pattern → Pattern
  | [] => empty
  | [p] => p
  | p :: ps => seq p (sequence ps)

def plus (greedy : Bool) (body : Pattern) : Pattern := seq body (star greedy body)

def optional (greedy : Bool) (body : Pattern) : Pattern :=
  if greedy then alt body empty else alt empty body

end Pattern

end CodePad
