import CodePad.Pattern.Basic

/-!
Matching a pattern at a place of a text. The main statement says that a match takes no more
characters than there are after the place.
-/

namespace CodePad

def isWordChar (c : Char) : Bool :=
  ('a' ≤ c && c ≤ 'z') || ('A' ≤ c && c ≤ 'Z') || ('0' ≤ c && c ≤ '9') || c = '_'

/-- A place in a text: the characters before it, the nearest first, and those after it. -/
structure Place where
  before : Text
  after : Text
  deriving DecidableEq, Repr

namespace Place

def front (t : Text) : Place := ⟨[], t⟩

/-- The place one character further on; the end stays where it is. -/
def next (p : Place) : Place :=
  match p.after with
  | [] => p
  | c :: t => ⟨c :: p.before, t⟩

def advance : Nat → Place → Place
  | 0, p => p
  | n + 1, p => advance n p.next

end Place

namespace Pattern

/-- How far a match has come: the characters before it, the nearest first, those after it, and
how many it has taken. -/
structure Progress where
  before : Text
  after : Text
  taken : Nat

namespace Progress

def atWordBoundary (s : Progress) : Bool :=
  (s.before.head?.any isWordChar) != (s.after.head?.any isWordChar)

end Progress

/-- One round more of a repetition, as long as rounds take characters. The fuel is the text
after the place where the repetition began, which every round shortens. -/
def iterate (greedy : Bool)
    (round : (Progress → Option Nat) → Progress → Option Nat) (k : Progress → Option Nat) :
    Text → Progress → Option Nat
  | [], s => k s
  | _ :: fuel, s =>
    -- A round that takes nothing would repeat for ever, so it does not count.
    let further (t : Progress) := if t.taken = s.taken then none else iterate greedy round k fuel t
    if greedy then (round further s).or (k s) else (k s).or (round further s)

/-- One character more of a repetition of single characters. Its rounds never stand still, so
it runs along the text without asking. -/
def iterateChar (greedy : Bool) (set : CharSet) (k : Progress → Option Nat) :
    (before after : Text) → (taken : Nat) → Option Nat
  | before, [], taken => k ⟨before, [], taken⟩
  | before, c :: t, taken =>
    if !set.contains c then k ⟨before, c :: t, taken⟩
    else if greedy then
      (iterateChar greedy set k (c :: before) t (taken + 1)).or (k ⟨before, c :: t, taken⟩)
    else
      (k ⟨before, c :: t, taken⟩).or (iterateChar greedy set k (c :: before) t (taken + 1))

/-- Matches the pattern and what follows it, `k`, and gives what `k` answers first. -/
def run : Pattern → (Progress → Option Nat) → Progress → Option Nat
  | empty, k, s => k s
  | char set, k, s =>
    match s.after with
    | [] => none
    | c :: t => if set.contains c then k ⟨c :: s.before, t, s.taken + 1⟩ else none
  | seq p q, k, s => run p (run q k) s
  | alt p q, k, s => (run p k s).or (run q k s)
  | star greedy p, k, s =>
    match p with
    | char set => iterateChar greedy set k s.before s.after s.taken
    | _ => iterate greedy (run p) k s.after s
  | textStart, k, s => if s.before.isEmpty then k s else none
  | textEnd, k, s => if s.after.isEmpty then k s else none
  | wordBoundary, k, s => if s.atWordBoundary then k s else none

/-- Running along the text is the general repetition. -/
theorem iterateChar_eq_iterate (greedy : Bool) (set : CharSet) (k : Progress → Option Nat)
    (before after : Text) (taken : Nat) :
    iterateChar greedy set k before after taken =
      iterate greedy (run (char set)) k after ⟨before, after, taken⟩ := by
  induction after generalizing before taken with
  | nil => rfl
  | cons c t ih =>
    rw [iterateChar, iterate]
    cases h : set.contains c <;> cases greedy <;> simp [run, h, ih]

theorem run_star (greedy : Bool) (p : Pattern) (k : Progress → Option Nat) (s : Progress) :
    run (star greedy p) k s = iterate greedy (run p) k s.after s := by
  cases p <;> simp [run, iterateChar_eq_iterate]

/-- How many characters the match at a place takes, if there is a match. -/
def lengthAt (p : Pattern) (place : Place) : Option Nat :=
  p.run (fun s => some s.taken) ⟨place.before, place.after, 0⟩

/-- Answers of `k` stay below `n` wherever `n` counts the characters taken and to come. -/
def Bounded (n : Nat) (k : Progress → Option Nat) : Prop :=
  ∀ s m, s.taken + s.after.length = n → k s = some m → m ≤ n

theorem iterate_bounded {n : Nat} {greedy : Bool}
    {round : (Progress → Option Nat) → Progress → Option Nat} {k : Progress → Option Nat}
    (hround : ∀ k, Bounded n k → Bounded n (round k)) (hk : Bounded n k) (fuel : Text) :
    Bounded n (iterate greedy round k fuel) := by
  induction fuel with
  | nil => exact hk
  | cons _ fuel ih =>
    intro s m hs h
    have hagain : ∀ m, round
        (fun t => if t.taken = s.taken then none else iterate greedy round k fuel t) s = some m →
        m ≤ n := by
      intro m hm
      refine hround _ ?_ s m hs hm
      intro t m ht htm
      dsimp only at htm
      split at htm
      · cases htm
      · exact ih t m ht htm
    simp only [iterate] at h
    cases greedy
    · simp only [Bool.false_eq_true, if_false, Option.or_eq_some_iff] at h
      rcases h with h | ⟨-, h⟩
      · exact hk s m hs h
      · exact hagain m h
    · simp only [if_true, Option.or_eq_some_iff] at h
      rcases h with h | ⟨-, h⟩
      · exact hagain m h
      · exact hk s m hs h

theorem run_bounded {n : Nat} (p : Pattern) {k : Progress → Option Nat} (hk : Bounded n k) :
    Bounded n (p.run k) := by
  induction p generalizing k with
  | empty => exact hk
  | char set =>
    intro s m hs h
    simp only [run] at h
    split at h
    · cases h
    · rename_i c t hc
      split at h
      · refine hk _ m ?_ h
        simp [hc] at hs ⊢
        omega
      · cases h
  | seq p q ihp ihq => exact ihp (ihq hk)
  | alt p q ihp ihq =>
    intro s m hs h
    simp only [run, Option.or_eq_some_iff] at h
    rcases h with h | ⟨-, h⟩
    · exact ihp hk s m hs h
    · exact ihq hk s m hs h
  | star greedy p ih =>
    intro s m hs h
    rw [run_star] at h
    exact iterate_bounded (fun _ hk => ih hk) hk _ s m hs h
  | textStart | textEnd | wordBoundary =>
    intro s m hs h
    simp only [run] at h
    split at h
    · exact hk s m hs h
    · cases h

theorem lengthAt_le {p : Pattern} {place : Place} {n : Nat} (h : p.lengthAt place = some n) :
    n ≤ place.after.length := by
  refine run_bounded p ?_ ⟨place.before, place.after, 0⟩ n (by simp) h
  intro s m hs hm
  injection hm with hm
  omega

end Pattern

end CodePad
