import Mathlib.Tactic.Common
import CodePad.Proofs.Token.Slice
import CodePad.Rule

/-!
The matches of a rule, place by place. Searching for the next match is the same as asking at
every place in turn: where a match takes at least one character it is found and the scan goes
on after it, anywhere else the scan goes on with the next character.
-/

namespace CodePad

namespace Place

lemma advance_mk (n : Nat) (before after : Text) :
    advance n ⟨before, after⟩ = ⟨(after.take n).reverse ++ before, after.drop n⟩ := by
  induction n generalizing before after with
  | zero => simp [advance]
  | succ n ih =>
    cases after with
    | nil => simpa [advance, next] using ih before []
    | cons c t => simp [advance, next, ih]

/-- The text that a place is in. -/
def text (p : Place) : Text := p.before.reverse ++ p.after

@[simp] lemma text_front (t : Text) : (front t).text = t := by simp [front, text]

@[simp] lemma text_next (p : Place) : p.next.text = p.text := by
  unfold next
  split
  · rfl
  · next c t h => simp [text, h]

@[simp] lemma text_advance (n : Nat) (p : Place) : (p.advance n).text = p.text := by
  induction n generalizing p with
  | zero => rfl
  | succ n ih => rw [advance, ih, text_next]

end Place

namespace Matcher

variable (m : Matcher)

/-- The scan goes on from what the search finds. -/
lemma findFrom_eq (p : Place) :
    m.findFrom p =
      match m.search p.before p.after with
      | none => []
      | some found =>
        if found.place.after = [] then []
        else if found.length = 0 then m.findFrom found.place.next
        else found :: m.findFrom found.rest := by
  rw [findFrom]
  split
  · next h => simp [h]
  · next found h => simp [h]

lemma findFrom_nil (before : Text) : m.findFrom ⟨before, []⟩ = [] := by
  rw [findFrom_eq, search]
  cases m.lengthAt ⟨before, []⟩ <;> simp

/-- A match that takes characters is found, and the scan goes on after it. -/
lemma findFrom_of_match {p : Place} {n : Nat} (h : m.lengthAt p = some (n + 1)) :
    m.findFrom p = ⟨p, n + 1⟩ :: m.findFrom (p.advance (n + 1)) := by
  obtain ⟨before, after⟩ := p
  cases after with
  | nil =>
    have := m.lengthAt_le h
    simp at this
  | cons c t =>
    rw [findFrom_eq, search, h]
    simp [Match.rest]

/-- Where no match takes a character, the scan goes on with the next place. -/
lemma findFrom_cons {before t : Text} {c : Char}
    (h : ∀ n, m.lengthAt ⟨before, c :: t⟩ ≠ some (n + 1)) :
    m.findFrom ⟨before, c :: t⟩ = m.findFrom ⟨c :: before, t⟩ := by
  rcases hl : m.lengthAt ⟨before, c :: t⟩ with _ | n
  · rw [findFrom_eq, search, hl, findFrom_eq m ⟨c :: before, t⟩]
  · have hn : n = 0 := by
      cases n with
      | zero => rfl
      | succ n => exact absurd hl (h n)
    subst hn
    rw [findFrom_eq, search, hl]
    simp [Place.next]

/-- To show something of the matches from a place on, show it at the end of the text, at a match
that takes characters, and where there is none. -/
lemma findFrom_induction {motive : Place → List Match → Prop}
    (nil : ∀ before, motive ⟨before, []⟩ [])
    (found : ∀ p n ms, m.lengthAt p = some (n + 1) → motive (p.advance (n + 1)) ms →
      motive p (⟨p, n + 1⟩ :: ms))
    (skip : ∀ before c t ms, (∀ n, m.lengthAt ⟨before, c :: t⟩ ≠ some (n + 1)) →
      motive ⟨c :: before, t⟩ ms → motive ⟨before, c :: t⟩ ms) (p : Place) :
    motive p (m.findFrom p) := by
  induction hk : p.after.length using Nat.strongRecOn generalizing p with
  | _ k ih =>
    obtain ⟨before, after⟩ := p
    cases after with
    | nil =>
      rw [findFrom_nil]
      exact nil before
    | cons c t =>
      simp only [List.length_cons] at hk
      by_cases h : ∃ n, m.lengthAt ⟨before, c :: t⟩ = some (n + 1)
      · obtain ⟨n, hn⟩ := h
        rw [findFrom_of_match m hn]
        refine found _ n _ hn (ih _ ?_ _ rfl)
        rw [Place.length_after_advance, List.length_cons]
        omega
      · rw [findFrom_cons m fun n hn => h ⟨n, hn⟩]
        exact skip before c t _ (fun n hn => h ⟨n, hn⟩)
          (ih t.length (by omega) ⟨c :: before, t⟩ rfl)

/-- Every match that is found lies in the text, and it takes at least one character. -/
lemma mem_findFrom {m : Matcher} {p : Place} {found : Match} (h : found ∈ m.findFrom p) :
    found.place.text = p.text ∧ found.length ≤ found.place.after.length ∧ 0 < found.length := by
  revert h
  refine m.findFrom_induction
    (motive := fun p ms => found ∈ ms → found.place.text = p.text ∧
      found.length ≤ found.place.after.length ∧ 0 < found.length) ?_ ?_ ?_ p
  · intro before h
    simp at h
  · intro p n ms hn ih h
    rcases List.mem_cons.mp h with rfl | h
    · exact ⟨rfl, m.lengthAt_le hn, Nat.succ_pos n⟩
    · rw [← Place.text_advance (n + 1) p]
      exact ih h
  · intro before c t ms _ ih h
    have htext : Place.text ⟨c :: before, t⟩ = Place.text ⟨before, c :: t⟩ := by
      simp [Place.text]
    rw [← htext]
    exact ih h

end Matcher

namespace Rule

/-- **The tokens of a rule are slices of the text.** -/
theorem isSliceOf_of_mem_tokens {r : Rule} {text : Text} {t : Token} (h : t ∈ r.tokens text) :
    t.IsSliceOf text := by
  obtain ⟨found, hfound, rfl⟩ := List.mem_map.mp h
  obtain ⟨htext, hle, hpos⟩ := Matcher.mem_findFrom hfound
  rw [Place.text_front] at htext
  refine ⟨⟨found.place.before.reverse, found.place.after.drop found.length, ?_, ?_⟩, rfl, ?_⟩
  · rw [← htext, Place.text]
    simp [token, Match.text]
  · simp [token, Match.start]
  · intro hnil
    have hlen := congrArg List.length hnil
    simp only [token, Match.text, List.length_take, List.length_nil] at hlen
    omega

end Rule

end CodePad
