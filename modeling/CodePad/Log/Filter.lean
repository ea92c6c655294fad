import CodePad.Text.Alphanumeric
import CodePad.Text.Blank

/-!
What the log keeps. A filter is a list of directives, each with the front part of a target and
the least severe level that is kept for targets that begin so. Of several directives that fit,
the one with the longest target decides.
-/

namespace CodePad.Log

inductive Level where
  | error
  | warn
  | info
  | debug
  | trace
  deriving DecidableEq, Repr

namespace Level

def name : Level → String
  | error => "ERROR"
  | warn => "WARN"
  | info => "INFO"
  | debug => "DEBUG"
  | trace => "TRACE"

/-- The more is kept the higher the rank. -/
def rank : Level → Nat
  | error => 1
  | warn => 2
  | info => 3
  | debug => 4
  | trace => 5

end Level

structure Event where
  level : Level
  target : String
  deriving DecidableEq, Repr

/-- For targets that begin in one way, the rank up to which events are kept. -/
structure Directive where
  target : String
  rank : Nat
  deriving DecidableEq, Repr

abbrev Filter := List Directive

namespace Filter

def rankOfNumber? (number : Text) : Option Nat :=
  let digits := if number.head? = some '+' then number.tail else number
  if digits.isEmpty || !digits.all Char.isDigit then none
  else
    let rank := digits.foldl (fun n c => 10 * n + (c.toNat - '0'.toNat)) 0
    if rank ≤ Level.trace.rank then some rank else none

/-- The rank of a level's name, in any case, or of its number. -/
def rank? (level : Text) : Option Nat :=
  ([("off", 0), ("error", 1), ("warn", 2), ("info", 3), ("debug", 4), ("trace", 5)].lookup
    (String.ofList (level.map Char.toLower))).or (rankOfNumber? level)

def leads (c : Char) : Bool := isAlphanumeric c || c = '-' || c = ':' || c = '_'

def split (separator : Char) (s : Text) : List Text :=
  s.foldr
    (fun c parts =>
      if c = separator then [] :: parts
      else
        match parts with
        | p :: ps => (c :: p) :: ps
        | [] => [[c]])
    [[]]

/-- A directive: a level for all targets, a target, or a target with a level after an equality
sign. After its first character a target may hold any others. A target without a level keeps
everything. Blanks in front of a directive belong to its target, and no level can follow then. -/
def directive? (part : Text) : Option Directive :=
  if !part.trim.head?.any leads then none
  else
    let front := part.takeWhile (· ≠ '=')
    match part.dropWhile (· ≠ '=') with
    | [] =>
      match rank? front with
      | some rank => some ⟨"", rank⟩
      | none => some ⟨String.ofList front, Level.trace.rank⟩
    | _ :: level =>
      if front.head?.any isBlank then none
      else if level.isEmpty then some ⟨String.ofList front, Level.trace.rank⟩
      else (rank? level).map (⟨String.ofList front, ·⟩)

/-- The filter of a text: directives between commas. Without any, errors are kept. -/
def ofText? (s : String) : Option Filter :=
  let parts := (split ',' s.toList).filter (!·.isEmpty)
  if parts.isEmpty then some [⟨"", 1⟩]
  else parts.mapM directive?

def deciding? (f : Filter) (target : String) : Option Directive :=
  f.foldl
    (fun best d =>
      if d.target.toList.isPrefixOf target.toList then
        match best with
        -- Of two targets of one length the later decides.
        | some b => if d.target.length < b.target.length then best else some d
        | none => some d
      else best)
    none

def keeps (f : Filter) (e : Event) : Bool :=
  match f.deciding? e.target with
  | some d => e.level.rank ≤ d.rank
  | none => false

/-- The filter to use: the first of two texts that makes one, or else the level of
information. -/
def choose (first : Option String) (second : String) : Filter :=
  match first.bind ofText?, ofText? second with
  | some f, _ => f
  | none, some f => f
  | none, none => [⟨"", 3⟩]

end Filter

end CodePad.Log
