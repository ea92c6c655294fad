import Mathlib.Tactic.Common
import CodePad.Pattern.Match

/-!
How patterns run: one equation for each way to put a pattern together, and what the two kinds of
repetition come to where there is nothing to go back on.
-/

namespace CodePad

namespace CharSet

lemma between_self (a c : Char) : (decide (a ≤ c) && decide (c ≤ a)) = decide (c = a) := by
  rw [← Bool.decide_and, decide_eq_decide]
  constructor
  · rintro ⟨h₁, h₂⟩
    exact Char.le_antisymm h₂ h₁
  · rintro rfl
    exact ⟨Char.le_refl c, Char.le_refl c⟩

@[simp] lemma contains_single (a c : Char) : (single a).contains c = decide (c = a) := by
  simp [single, contains, between_self]

@[simp] lemma contains_ofList (cs : List Char) (c : Char) :
    (ofList cs).contains c = decide (c ∈ cs) := by
  have h : (cs.any fun a => decide (c = a)) = decide (c ∈ cs) := by
    rw [Bool.eq_iff_iff]
    simp
  simp [ofList, contains, Function.comp_def, between_self, h]

@[simp] lemma contains_compl (s : CharSet) (c : Char) : s.compl.contains c = !s.contains c := by
  unfold compl contains
  cases s.negated <;> simp

@[simp] lemma contains_all (c : Char) : all.contains c = true := by simp [all, contains]

end CharSet

namespace Pattern

variable {k : Progress → Option Nat} {before t : Text} {c : Char} {n : Nat}

@[simp] lemma run_empty (s : Progress) : run empty k s = k s := rfl

lemma run_seq (p q : Pattern) (s : Progress) : run (seq p q) k s = run p (run q k) s := rfl

lemma run_alt (p q : Pattern) (s : Progress) : run (alt p q) k s = (run p k s).or (run q k s) := rfl

@[simp] lemma run_char_nil (set : CharSet) : run (char set) k ⟨before, [], n⟩ = none := rfl

@[simp] lemma run_char_cons (set : CharSet) :
    run (char set) k ⟨before, c :: t, n⟩ =
      if set.contains c then k ⟨c :: before, t, n + 1⟩ else none := rfl

lemma run_star_char (greedy : Bool) (set : CharSet) (s : Progress) :
    run (star greedy (char set)) k s = iterateChar greedy set k s.before s.after s.taken := rfl

lemma run_literal (w t : Text) :
    run (literal w) k ⟨before, t, n⟩ =
      if w <+: t then k ⟨w.reverse ++ before, t.drop w.length, n + w.length⟩ else none := by
  induction w generalizing before t n with
  | nil => simp [literal]
  | cons a w ih =>
    have hcons : run (literal (a :: w)) k ⟨before, t, n⟩ =
        run (seq (char (.single a)) (literal w)) k ⟨before, t, n⟩ := by
      cases w with
      | nil => rfl
      | cons b w => rfl
    rw [hcons, run_seq]
    cases t with
    | nil => simp
    | cons c t =>
      rw [run_char_cons, CharSet.contains_single]
      by_cases hc : c = a
      · subst hc
        simp [ih, Nat.add_assoc, Nat.add_comm 1]
      · have hac : ¬ a = c := fun h => hc h.symm
        simp [hc, hac]

/-- A greedy repetition of single characters with nothing after it takes all that it can. -/
lemma iterateChar_greedy (set : CharSet) (before after : Text) (n : Nat) :
    iterateChar true set (fun s => some s.taken) before after n =
      some (n + (after.takeWhile set.contains).length) := by
  induction after generalizing before n with
  | nil => rfl
  | cons c t ih =>
    rw [iterateChar]
    by_cases h : set.contains c = true
    · simp only [h, Bool.not_true, Bool.false_eq_true, if_false, if_true, ih, Option.some_or,
        List.takeWhile_cons, List.length_cons, Option.some.injEq]
      omega
    · simp [h]

end Pattern

end CodePad
