import CodePad.Pattern.Match
import CodePad.Token.Basic

/-!
Rules that find the tokens of one kind. A rule looks for its matches from left to right over
the whole text and gives a token for each match that is not empty. What a match is, a matcher
says: at each place of a text it tells how many characters the match there takes.
-/

namespace CodePad

/-- Says of each place whether a match begins there and how many characters it takes. -/
structure Matcher where
  lengthAt : Place → Option Nat
  lengthAt_le : ∀ {place n}, lengthAt place = some n → n ≤ place.after.length

def Pattern.matcher (p : Pattern) : Matcher := ⟨p.lengthAt, p.lengthAt_le⟩

structure Match where
  place : Place
  length : Nat

namespace Match

/-- Byte offset of the first character. -/
def start (m : Match) : Nat := Text.byteLength m.place.before

def text (m : Match) : Text := m.place.after.take m.length

def stop (m : Match) : Nat := m.start + Text.byteLength m.text

def rest (m : Match) : Place := m.place.advance m.length

end Match

namespace Place

@[simp] theorem length_after_next (p : Place) : p.next.after.length = p.after.length - 1 := by
  unfold next
  split
  · next h => simp [h]
  · next c t h => simp [h]

@[simp] theorem length_after_advance (n : Nat) (p : Place) :
    (p.advance n).after.length = p.after.length - n := by
  induction n generalizing p with
  | zero => rfl
  | succ n ih => simp [advance, ih, Nat.sub_sub, Nat.add_comm]

/-- The place at a byte offset of a text, if the text is that long. -/
def ofByte? (text : Text) (offset : Nat) : Option Place :=
  if Text.byteLength text < offset then none
  else some ⟨(text.takeBytes offset).reverse, text.dropBytes offset⟩

end Place

namespace Matcher

variable (m : Matcher)

/-- The leftmost match that begins between `before` and `after` or later. -/
def search (before : Text) : (after : Text) → Option Match
  | [] => (m.lengthAt ⟨before, []⟩).map (Match.mk ⟨before, []⟩)
  | c :: t =>
    match m.lengthAt ⟨before, c :: t⟩ with
    | some n => some ⟨⟨before, c :: t⟩, n⟩
    | none => search (c :: before) t

theorem length_after_search {m : Matcher} {before after : Text} {found : Match}
    (h : m.search before after = some found) :
    found.place.after.length ≤ after.length := by
  induction after generalizing before with
  | nil =>
    simp only [search, Option.map_eq_some_iff] at h
    obtain ⟨n, -, rfl⟩ := h
    exact Nat.le_refl _
  | cons c t ih =>
    unfold search at h
    split at h
    · injection h with h
      subst h
      exact Nat.le_refl _
    · exact Nat.le_succ_of_le (ih h)

def find? (text : Text) (offset : Nat) : Option Match :=
  (Place.ofByte? text offset).bind fun p => m.search p.before p.after

/-- The matches from a place on that are not empty. After each the search goes on from its
end; an empty match is passed over by one character. -/
def findFrom (p : Place) : List Match :=
  match h : m.search p.before p.after with
  | none => []
  | some found =>
    -- The bounds are kept for the termination: both ways on leave fewer characters.
    have := length_after_search h
    if hend : found.place.after = [] then []
    else
      have := List.length_pos_iff.mpr hend
      if hempty : found.length = 0 then findFrom found.place.next
      else
        have := Nat.pos_of_ne_zero hempty
        found :: findFrom found.rest
termination_by p.after.length
decreasing_by
  all_goals
    simp only [Match.rest, Place.length_after_next, Place.length_after_advance]
    omega

def findAll (text : Text) : List Match := m.findFrom (Place.front text)

end Matcher

/-- A named way to find the tokens of one kind. -/
structure Rule where
  name : String
  kind : TokenKind
  matcher : Matcher

namespace Rule

def token (r : Rule) (m : Match) : Token := ⟨m.start, m.stop, r.kind, m.text⟩

def tokens (r : Rule) (text : Text) : List Token := (r.matcher.findAll text).map r.token

end Rule

end CodePad
