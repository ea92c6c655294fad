import Mathlib.Algebra.Group.Nat.Defs
import CodePad.Proofs.Document.Merge
import CodePad.Scroll

/-!
Scrolling by as little as needed. Lines and heights are machine words, so a sum can be too great
and a difference can go below zero. Neither happens as long as heights are those of a screen and
lines stay clear of the greatest words by as much, whatever is asked for and in whatever order. A
line that is asked for is then shown, and no other way to show it is as near to what was shown
before.
-/

namespace CodePad

namespace Scroll

open Document (sub?)

/-- What a scroll is asked for: room for a number of lines, or the sight of a line. -/
inductive Request where
  | height (lines : Nat)
  | reveal (line : Nat)

def serve (s : Scroll) : Request → Scroll
  | .height lines => s.withHeight lines
  | .reveal line => s.reveal line

def serveAll (s : Scroll) (requests : List Request) : Scroll := requests.foldl serve s

/-- The height asked for, if it is one. -/
def Request.height? : Request → Option Nat
  | .height lines => some lines
  | .reveal _ => none

/-- The height that is asked for last, or else the one to begin with. -/
def lastHeight (height : Nat) (requests : List Request) : Nat :=
  (requests.filterMap Request.height?).getLast?.getD height

/-- A line is among those shown. -/
def Shows (s : Scroll) (line : Nat) : Prop := s.top ≤ line ∧ line < s.top + s.height

/-- The number of lines to scroll by until `top` is the first one shown. -/
def distance (s : Scroll) (top : Nat) : Nat := ((top : Int) - s.top).natAbs

/-! ### In machine words -/

/-- The sum of two words; it fails if it is too great for a word. -/
def add? (m n : Nat) : Option Nat := if m + n < 2 ^ 64 then some (m + n) else none

/-- Reveals a line step by step, with each step that may fail. -/
def reveal? (s : Scroll) (line : Nat) : Option Scroll :=
  if s.height = 0 then some { s with top := line }
  else if line < s.top then some { s with top := line }
  else do
    let bottom ← add? s.top s.height
    if line < bottom then some s
    else
      let next ← add? line 1
      let top ← sub? next s.height
      some { s with top }

def serve? (s : Scroll) : Request → Option Scroll
  | .height lines => some (s.withHeight lines)
  | .reveal line => s.reveal? line

def serveAll? (s : Scroll) (requests : List Request) : Option Scroll := requests.foldlM serve? s

/-- What is asked for is the height of a screen, or a line that is not too near to the greatest
word. -/
def Request.Moderate : Request → Prop
  | .height lines => lines ≤ 65535
  | .reveal line => line < 2 ^ 64 - 65536

instance : DecidablePred Request.Moderate
  | .height lines => inferInstanceAs (Decidable (lines ≤ 65535))
  | .reveal line => inferInstanceAs (Decidable (line < 2 ^ 64 - 65536))

/-- What moderate requests lead to. -/
structure Moderate (s : Scroll) : Prop where
  top_lt : s.top < 2 ^ 64 - 65536
  height_le : s.height ≤ 65535

variable {s : Scroll} {line top : Nat}

/-! ### One request -/

/-- The first line shown is the one nearest to what it was from which on the line is in sight. -/
lemma reveal_eq (s : Scroll) (line : Nat) :
    s.reveal line = { s with top := min line (max s.top (line + 1 - s.height)) } := by
  unfold reveal
  split
  · next h => rw [Nat.min_eq_left (by omega)]
  · split
    · next h => rw [Nat.max_eq_right (by omega), Nat.min_eq_right (by omega)]
    · next h => rw [Nat.max_eq_left (by omega), Nat.min_eq_right (by omega)]

lemma height_reveal (s : Scroll) (line : Nat) : (s.reveal line).height = s.height := by
  rw [reveal_eq]

lemma top_reveal_of_height_eq_zero (h : s.height = 0) : (s.reveal line).top = line := by
  rw [reveal_eq, h]
  exact Nat.min_eq_left (by omega)

lemma shows_reveal (h : 0 < s.height) : (s.reveal line).Shows line := by
  rw [reveal_eq]
  constructor
  · exact Nat.min_le_left _ _
  · simp only
    omega

lemma reveal_of_shows (h : s.Shows line) : s.reveal line = s := by
  obtain ⟨htop, hbottom⟩ := h
  rw [reveal_eq, Nat.max_eq_left (by omega), Nat.min_eq_right htop]

/-- Of all ways to show a line the one taken is the nearest. -/
lemma distance_reveal_lt (hshows : { s with top }.Shows line) (hne : top ≠ (s.reveal line).top) :
    s.distance (s.reveal line).top < s.distance top := by
  obtain ⟨htop, hbottom⟩ := hshows
  simp only [reveal_eq, distance] at htop hbottom hne ⊢
  omega

lemma reveal_reveal (s : Scroll) (line : Nat) : (s.reveal line).reveal line = s.reveal line := by
  by_cases h : s.height = 0
  · have hzero : (s.reveal line).height = 0 := (s.height_reveal line).trans h
    rw [reveal, if_pos (Or.inl hzero), reveal, if_pos (Or.inl h)]
  · exact reveal_of_shows (shows_reveal (Nat.pos_of_ne_zero h))

/-! ### Any number of requests -/

lemma Moderate.reveal?_eq (h : s.Moderate) (hline : line < 2 ^ 64 - 65536) :
    s.reveal? line = some (s.reveal line) := by
  obtain ⟨htop, hheight⟩ := h
  unfold reveal? reveal
  by_cases hzero : s.height = 0
  · rw [if_pos hzero, if_pos (Or.inl hzero)]
  · by_cases hup : line < s.top
    · rw [if_neg hzero, if_pos hup, if_pos (Or.inr hup)]
    · rw [if_neg hzero, if_neg hup, if_neg (by omega), add?, if_pos (by omega)]
      by_cases hdown : line < s.top + s.height
      · rw [if_neg (Nat.not_le.mpr hdown)]
        exact if_pos hdown
      · -- the line is past the bottom, so there are at least as many lines before it as are shown
        have hnext : add? line 1 = some (line + 1) := if_pos (by omega)
        have hdiff : sub? (line + 1) s.height = some (line + 1 - s.height) := if_pos (by omega)
        rw [if_pos (Nat.not_lt.mp hdown)]
        simp only [Option.bind_eq_bind, Option.bind_some, if_neg hdown, hnext, hdiff]

lemma Moderate.serve {r : Request} (h : s.Moderate) (hr : r.Moderate) :
    s.serve? r = some (s.serve r) ∧ (s.serve r).Moderate := by
  cases r with
  | height lines => exact ⟨rfl, h.top_lt, hr⟩
  | reveal line =>
    have hline : line < 2 ^ 64 - 65536 := hr
    have htop : (s.reveal line).top ≤ line := by
      rw [reveal_eq]
      exact Nat.min_le_left _ _
    exact ⟨h.reveal?_eq hr, Nat.lt_of_le_of_lt htop hline,
      (s.height_reveal line).symm ▸ h.height_le⟩

lemma Moderate.serveAll {requests : List Request} (h : s.Moderate)
    (hrequests : ∀ r ∈ requests, r.Moderate) :
    s.serveAll? requests = some (s.serveAll requests) ∧ (s.serveAll requests).Moderate := by
  induction requests generalizing s with
  | nil => exact ⟨rfl, h⟩
  | cons r requests ih =>
    rw [List.forall_mem_cons] at hrequests
    obtain ⟨hserve, hnext⟩ := h.serve hrequests.1
    obtain ⟨hrest, hlast⟩ := ih hnext hrequests.2
    refine ⟨?_, hlast⟩
    rw [serveAll?, List.foldlM_cons, hserve]
    exact hrest

lemma serveAll_append (s : Scroll) (before after : List Request) :
    s.serveAll (before ++ after) = (s.serveAll before).serveAll after := List.foldl_append

lemma height_serveAll (s : Scroll) (requests : List Request) :
    (s.serveAll requests).height = lastHeight s.height requests := by
  induction requests generalizing s with
  | nil => rfl
  | cons r requests ih =>
    cases r with
    | height lines =>
      -- The height asked for first counts if no other one comes later.
      have hlast : lastHeight s.height (.height lines :: requests) = lastHeight lines requests := by
        simp [lastHeight, Request.height?, List.getLast?_cons]
      rw [hlast]
      exact ih (s.withHeight lines)
    | reveal line =>
      have hheight : (s.reveal line).height = s.height := s.height_reveal line
      exact (ih (s.reveal line)).trans (by rw [hheight]; rfl)

/-- **Scrolling is always enough and never more than needed.** Whatever heights of a screen and
lines are asked for, and in whatever order, no sum is too great for a word and no difference goes
below zero. Whenever a line is asked for, it is then among those shown in the height that was asked
for last, and any other way to show it in this height is further from what was shown before. So
nothing is scrolled if the line is shown already, nor if it is asked for once more. Without room for
any line the line asked for is the first one. -/
theorem serveAll_nearest (height : Nat) (requests : List Request) (hheight : height ≤ 65535)
    (hrequests : ∀ r ∈ requests, r.Moderate) :
    let start : Scroll := { height }
    start.serveAll? requests = some (start.serveAll requests) ∧
      ∀ before line after, requests = before ++ .reveal line :: after →
        let s := start.serveAll before
        let s' := start.serveAll (before ++ [.reveal line])
        start.serveAll? (before ++ [.reveal line]) = some s' ∧
          s.height = lastHeight height before ∧ s'.height = s.height ∧
          (if s.height = 0 then s'.top = line
          else s'.Shows line ∧
            ∀ top, { s with top }.Shows line → top ≠ s'.top →
              s.distance s'.top < s.distance top) ∧
          (s.Shows line → s' = s) ∧ s'.reveal line = s' := by
  intro start
  have htop : start.top < 2 ^ 64 - 65536 := Nat.sub_pos_of_lt (by decide)
  have hstart : start.Moderate := ⟨htop, hheight⟩
  refine ⟨(hstart.serveAll hrequests).1, ?_⟩
  intro before line after hsplit s s'
  have hlast : s' = s.reveal line := start.serveAll_append before [.reveal line]
  have hfront : ∀ r ∈ before ++ [.reveal line], r.Moderate := by
    intro r hr
    refine hrequests r ?_
    rw [hsplit, List.append_cons]
    exact List.mem_append_left after hr
  refine ⟨(hstart.serveAll hfront).1, start.height_serveAll before, ?_⟩
  rw [hlast]
  refine ⟨s.height_reveal line, ?_, reveal_of_shows, s.reveal_reveal line⟩
  split
  · next hzero => exact top_reveal_of_height_eq_zero hzero
  · next hroom =>
    exact ⟨shows_reveal (Nat.pos_of_ne_zero hroom), fun _ => distance_reveal_lt⟩

/-- From a screen without lines to the greatest height and the greatest line. The line before the
last one is then shown already. -/
theorem serveAll_nearest_greatest :
    let last := 2 ^ 64 - 65537
    let requests : List Request := [.reveal 9, .height 65535, .reveal last, .reveal (last - 1)]
    let start : Scroll := { height := 0 }
    (0 ≤ 65535 ∧ ∀ r ∈ requests, r.Moderate) ∧
      start.serveAll? requests = some ⟨last - 65534, 65535⟩ ∧
      (start.serveAll [.reveal 9]).top = 9 ∧
      start.serveAll requests = start.serveAll [.reveal 9, .height 65535, .reveal last] := by
  intro last requests start
  have hrequests : ∀ r ∈ requests, r.Moderate := by decide
  obtain ⟨hnone, hall⟩ := serveAll_nearest 0 requests (by decide) hrequests
  obtain ⟨-, -, -, hzero, -⟩ := hall [] 9 _ rfl
  obtain ⟨-, -, -, -, hstay, -⟩ := hall [.reveal 9, .height 65535, .reveal last] (last - 1) [] rfl
  exact ⟨⟨by decide, hrequests⟩, hnone.trans (by decide), hzero,
    hstay ⟨by decide, by decide⟩⟩

end Scroll

end CodePad
