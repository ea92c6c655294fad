import CodePad.Pattern.Basic

/-!
The written form of patterns. A character stands for itself, `.` for any character but a
newline, brackets for a set, `|` separates alternatives; `*`, `+` and `?` repeat what is
before them, with a further `?` as few times as possible; `^` and `$` are the two ends of the
text. A group may begin with `?:`, with `?s:`, under which `.` stands for newlines too, or
with `?-u:`, under which `\b` is an ASCII word boundary. A brace or a star in any other place
is an error, as is an escaped letter without a meaning.
-/

namespace CodePad

namespace Pattern.Written

/-- Under what flags a part of a pattern is read. -/
structure Flags where
  /-- `.` stands for newlines too. -/
  dotAll : Bool := false
  /-- Word boundaries are those of ASCII words. -/
  ascii : Bool := false

/-- Characters that have a meaning of their own and lose it after a backslash. -/
def isPunctuation (c : Char) : Bool :=
  ('!' ≤ c && c ≤ '/') || (':' ≤ c && c ≤ '@') || ('[' ≤ c && c ≤ '\x60') ||
    ('\x7b' ≤ c && c ≤ '~')

def escaped? (c : Char) : Option Char :=
  match c with
  | 'n' => some '\n'
  | 'r' => some '\r'
  | 't' => some '\t'
  | c => if isPunctuation c && c ≠ '<' && c ≠ '>' then some c else none

def setChar? : Text → Option (Char × Text)
  | [] => none
  | '\\' :: c :: t => (escaped? c).map (·, t)
  | '\\' :: [] => none
  | '[' :: _ => none
  | c :: t => some (c, t)

theorem length_of_setChar? {t rest : Text} {c : Char} (h : setChar? t = some (c, rest)) :
    rest.length < t.length := by
  unfold setChar? at h
  split at h
  · cases h
  · obtain ⟨_, -, h⟩ := Option.map_eq_some_iff.mp h
    cases h
    simp only [List.length_cons]
    omega
  · cases h
  · cases h
  · cases h
    simp

/-- The ranges of a set up to its closing bracket, and the text after it. A bracket that
comes first stands for itself. -/
def setRanges? (first : Bool) (t : Text) : Option (List (Char × Char) × Text) :=
  match t with
  | [] => none
  | d :: u =>
    if d = ']' && !first then some ([], u)
    else
      match h : setChar? (d :: u) with
      | none => none
      | some (lo, rest) =>
        have := length_of_setChar? h
        -- A hyphen before the closing bracket stands for itself.
        if rest.head? = some '-' && rest.tail.head? ≠ some ']' then
          match h' : setChar? rest.tail with
          | none => none
          | some (hi, rest') =>
            have : rest'.length < rest.length :=
              Nat.lt_of_lt_of_le (length_of_setChar? h') (by simp)
            if hi < lo then none
            else (setRanges? false rest').map fun (rs, t) => ((lo, hi) :: rs, t)
        else (setRanges? false rest).map fun (rs, t) => ((lo, lo) :: rs, t)
termination_by t.length
decreasing_by
  all_goals omega

def set? : Text → Option (CharSet × Text)
  | '^' :: t => (setRanges? true t).map fun (rs, rest) => (⟨rs, true⟩, rest)
  | t => (setRanges? true t).map fun (rs, rest) => (⟨rs, false⟩, rest)

def groupFlags? (flags : Flags) : Text → Option (Flags × Text)
  | '?' :: ':' :: t => some (flags, t)
  | '?' :: 's' :: ':' :: t => some ({ flags with dotAll := true }, t)
  | '?' :: '-' :: 'u' :: ':' :: t => some ({ flags with ascii := true }, t)
  | '?' :: _ => none
  | t => some (flags, t)

/-- A pattern with the repetition signs that follow it. -/
def repeated : Pattern → Text → Pattern × Text
  | p, '*' :: '?' :: t => repeated (star false p) t
  | p, '+' :: '?' :: t => repeated (plus false p) t
  | p, '?' :: '?' :: t => repeated (optional false p) t
  | p, '*' :: t => repeated (star true p) t
  | p, '+' :: t => repeated (plus true p) t
  | p, '?' :: t => repeated (optional true p) t
  | p, t => (p, t)

/-- A piece that takes no group: a character, a set, an escape or one of the signs. -/
def simple? (flags : Flags) : Text → Option (Pattern × Text)
  | '.' :: t => some (char (if flags.dotAll then .all else (CharSet.single '\n').compl), t)
  | '^' :: t => some (textStart, t)
  | '$' :: t => some (textEnd, t)
  | '[' :: t => (set? t).map fun (s, rest) => (char s, rest)
  | '\\' :: 'b' :: t => if flags.ascii then some (wordBoundary, t) else none
  | '\\' :: c :: t => (escaped? c).map fun d => (char (.single d), t)
  | '\\' :: [] => none
  | c :: t =>
    if c = '*' || c = '+' || c = '?' || c = '\x7b' then none else some (char (.single c), t)
  | [] => none

/-- Alternatives up to a closing parenthesis or the end of the text. `alts` are those
already read and `seq` the pieces of the present one, both the latest first. -/
def alternatives? (fuel : Nat) (flags : Flags) (alts seq : List Pattern) (t : Text) :
    Option (Pattern × Text) :=
  match fuel with
  | 0 => none
  | fuel + 1 =>
    let done := anyOf (sequence seq.reverse :: alts).reverse
    match t with
    | [] => some (done, [])
    -- The parenthesis is left to the group it closes.
    | ')' :: _ => some (done, t)
    | '|' :: t => alternatives? fuel flags (sequence seq.reverse :: alts) [] t
    | '(' :: t => do
      let (inner, t) ← groupFlags? flags t
      match ← alternatives? fuel inner [] [] t with
      | (p, ')' :: t) =>
        let (p, t) := repeated p t
        alternatives? fuel flags alts (p :: seq) t
      | _ => none
    | t => do
      let (p, t) ← simple? flags t
      let (p, t) := repeated p t
      alternatives? fuel flags alts (p :: seq) t

end Pattern.Written

/-- The pattern of a written form, if it is well formed. Every step of the reading takes a
character or ends a group, so the fuel lasts. -/
def Pattern.ofText? (t : Text) : Option Pattern :=
  match Written.alternatives? (2 * t.length + 1) {} [] [] t with
  | some (p, []) => some p
  | _ => none

end CodePad
