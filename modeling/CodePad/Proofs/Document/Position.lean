import Mathlib.Tactic.Common
import CodePad.Document.Basic

/-!
Offsets and positions. The position of an offset names a run that holds the offset, and reading
it back gives the offset, or the end of the document if the offset was past it.
-/

namespace CodePad

namespace Document

lemma offsetIn_le (rs : List Run) (p : Position) : offsetIn rs p ≤ total rs := by
  induction rs generalizing p with
  | nil => simp [offsetIn]
  | cons r rs ih =>
    obtain ⟨run, offset⟩ := p
    cases run with
    | zero =>
      rw [offsetIn, total_cons]
      omega
    | succ run =>
      have := ih ⟨run, offset⟩
      rw [offsetIn, total_cons]
      omega

lemma offsetIn_append (pre rs : List Run) (run offset : Nat) :
    offsetIn (pre ++ rs) ⟨pre.length + run, offset⟩ = total pre + offsetIn rs ⟨run, offset⟩ := by
  induction pre with
  | nil => simp
  | cons r pre ih =>
    rw [List.cons_append, List.length_cons, Nat.add_right_comm, offsetIn, ih, total_cons,
      Nat.add_assoc]

lemma positionIn_cons (r : Run) (rs : List Run) (k : Nat) :
    positionIn (r :: rs) k =
      if k ≤ r.length ∨ rs = [] then ⟨0, min k r.length⟩
      else (positionIn rs (k - r.length)).later := by
  cases rs with
  | nil => simp [positionIn]
  | cons r' rs =>
    rw [positionIn]
    by_cases hk : k ≤ r.length
    · simp [hk]
    · simp [hk]
    · simp

/-- Where an offset lies: the runs before the one that holds it, that run and those after it. -/
lemma exists_positionIn {rs : List Run} {k : Nat} (hne : rs ≠ []) (hk : k ≤ total rs) :
    ∃ pre r post, rs = pre ++ r :: post ∧ total pre ≤ k ∧ k ≤ total pre + r.length ∧
      positionIn rs k = ⟨pre.length, k - total pre⟩ := by
  induction rs generalizing k with
  | nil => exact absurd rfl hne
  | cons r rs ih =>
    rw [positionIn_cons]
    rw [total_cons] at hk
    by_cases h : k ≤ r.length ∨ rs = []
    · have hkr : k ≤ r.length := by
        rcases h with h | rfl
        · exact h
        · simpa using hk
      refine ⟨[], r, rs, rfl, by simp, by simpa using hkr, ?_⟩
      rw [if_pos h, Nat.min_eq_left hkr]
      rfl
    · rw [not_or] at h
      obtain ⟨pre, r', post, rfl, h₁, h₂, h₃⟩ := ih h.2 (k := k - r.length) (by omega)
      refine ⟨r :: pre, r', post, rfl, by rw [total_cons]; omega, by rw [total_cons]; omega, ?_⟩
      rw [if_neg (by simp [h]), h₃, Position.later, total_cons, List.length_cons,
        Nat.sub_add_eq]

/-- A later offset has no earlier position. -/
lemma positionIn_mono (rs : List Run) {i j : Nat} (h : i ≤ j) :
    (positionIn rs i).run < (positionIn rs j).run ∨
      (positionIn rs i).run = (positionIn rs j).run ∧
        (positionIn rs i).offset ≤ (positionIn rs j).offset := by
  induction rs generalizing i j with
  | nil => exact Or.inr ⟨rfl, Nat.le_refl _⟩
  | cons r rs ih =>
    rw [positionIn_cons, positionIn_cons]
    by_cases hi : i ≤ r.length ∨ rs = []
    · rw [if_pos hi]
      split
      · exact Or.inr ⟨rfl, by simp only; omega⟩
      · exact Or.inl (Nat.succ_pos _)
    · rw [not_or] at hi
      have hj : ¬ (j ≤ r.length ∨ rs = []) := by
        rw [not_or]
        exact ⟨by omega, hi.2⟩
      rw [if_neg (by simp [hi]), if_neg hj]
      rcases ih (i := i - r.length) (j := j - r.length) (by omega) with hlt | ⟨heq, hle⟩
      · exact Or.inl (Nat.succ_lt_succ hlt)
      · exact Or.inr ⟨congrArg Nat.succ heq, hle⟩

lemma offsetIn_positionIn (rs : List Run) (k : Nat) :
    offsetIn rs (positionIn rs k) = min k (total rs) := by
  induction rs generalizing k with
  | nil => simp [offsetIn]
  | cons r rs ih =>
    rw [positionIn_cons]
    split
    · next h =>
      rw [offsetIn, total_cons]
      rcases h with h | rfl
      · omega
      · simp
    · next h =>
      have hlater : offsetIn (r :: rs) (positionIn rs (k - r.length)).later =
          r.length + offsetIn rs (positionIn rs (k - r.length)) := rfl
      rw [hlater, ih, total_cons]
      omega

/-- A position that names a run of the document and an offset in it; the only position of a
document without runs is its front. -/
def InRange (d : Document) (p : Position) : Prop :=
  (∃ r, d.runs[p.run]? = some r ∧ p.offset ≤ r.length) ∨ (d.runs = [] ∧ p = .zero)

/-- A position that stands for its offset: of several runs that meet at the offset it names the
earliest. -/
def Canonical (d : Document) (p : Position) : Prop := p = d.positionAt (d.offsetOf p)

variable (d : Document)

lemma offsetOf_le (p : Position) : d.offsetOf p ≤ d.length := offsetIn_le d.runs p

lemma offsetOf_zero : d.offsetOf .zero = 0 := by
  obtain ⟨_ | ⟨r, rs⟩⟩ := d
  · rfl
  · exact Nat.zero_min r.length

lemma offsetOf_positionAt (k : Nat) : d.offsetOf (d.positionAt k) = min k d.length :=
  offsetIn_positionIn d.runs k

lemma canonical_positionAt {k : Nat} (hk : k ≤ d.length) : d.Canonical (d.positionAt k) := by
  rw [Canonical, offsetOf_positionAt, Nat.min_eq_left hk]

variable {d}

/-- A canonical position is in range. -/
lemma Canonical.inRange {p : Position} (h : d.Canonical p) : d.InRange p := by
  by_cases hne : d.runs = []
  · refine Or.inr ⟨hne, ?_⟩
    rw [h, positionAt, hne, positionIn]
  · obtain ⟨pre, r, post, hruns, h₁, h₂, h₃⟩ := exists_positionIn hne (d.offsetOf_le p)
    refine Or.inl ⟨r, ?_, ?_⟩
    · rw [h, positionAt, h₃, hruns]
      simp
    · rw [h, positionAt, h₃]
      change d.offsetOf p - total pre ≤ r.length
      omega

end Document

end CodePad
