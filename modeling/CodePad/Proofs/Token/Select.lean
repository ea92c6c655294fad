import Mathlib.Tactic.Common
import CodePad.Token.Select

/-!
The chosen tokens share no byte and stand in the order of their offsets. A byte is taken
exactly if an accepted token spans it, and this is what every offer keeps.
-/

namespace CodePad

namespace Occupancy

/-- Whether a byte is taken; bytes outside the text are free. -/
def taken (o : Occupancy) (i : Nat) : Prop := o.getD i false = true

lemma not_taken_free (n i : Nat) : ¬ taken (free n) i := by
  by_cases h : i < n <;>
    simp [taken, free, Array.getD_eq_getD_getElem?, h]

lemma anyTaken_iff (o : Occupancy) (start count : Nat) :
    o.anyTaken start count = true ↔ ∃ i, start ≤ i ∧ i < start + count ∧ o.taken i := by
  induction count generalizing start with
  | zero =>
    simp only [anyTaken, Bool.false_eq_true, false_iff]
    rintro ⟨i, h₁, h₂, -⟩
    omega
  | succ count ih =>
    rw [anyTaken, Bool.or_eq_true, ih]
    constructor
    · rintro (h | ⟨i, h₁, h₂, h⟩)
      · exact ⟨start, by omega, by omega, h⟩
      · exact ⟨i, by omega, by omega, h⟩
    · rintro ⟨i, h₁, h₂, h⟩
      by_cases hi : i = start
      · subst hi
        exact Or.inl h
      · exact Or.inr ⟨i, by omega, by omega, h⟩

lemma taken_setIfInBounds (o : Occupancy) (j i : Nat) :
    taken (o.setIfInBounds j true) i ↔ taken o i ∨ (i = j ∧ i < o.size) := by
  by_cases hj : j = i
  · subst hj
    by_cases hs : j < o.size <;> simp [taken, Array.getD_eq_getD_getElem?, hs]
  · have hj' : ¬ i = j := fun h => hj h.symm
    simp [taken, Array.getD_eq_getD_getElem?, Array.getElem?_setIfInBounds_ne hj, hj']

@[simp] lemma size_take (o : Occupancy) (start count : Nat) :
    (o.take start count).size = o.size := by
  induction count generalizing o start with
  | zero => rfl
  | succ count ih => rw [take, ih, Array.size_setIfInBounds]

lemma taken_take (o : Occupancy) (start count i : Nat) :
    (o.take start count).taken i ↔
      o.taken i ∨ (start ≤ i ∧ i < start + count ∧ i < o.size) := by
  induction count generalizing o start with
  | zero =>
    rw [take]
    constructor
    · exact Or.inl
    · rintro (h | h)
      · exact h
      · omega
  | succ count ih =>
    rw [take, ih, taken_setIfInBounds, Array.size_setIfInBounds]
    constructor
    · rintro ((h | h) | h)
      · exact Or.inl h
      · exact Or.inr (by omega)
      · exact Or.inr (by omega)
    · rintro (h | h)
      · exact Or.inl (Or.inl h)
      · by_cases hi : i = start
        · exact Or.inl (Or.inr ⟨hi, h.2.2⟩)
        · exact Or.inr (by omega)

end Occupancy

namespace Token

/-- Whether a token spans a byte. -/
def spans (t : Token) (i : Nat) : Prop := t.start ≤ i ∧ i < t.stop

lemma overlaps_iff (a b : Token) : a.Overlaps b ↔ ∃ i, a.spans i ∧ b.spans i := by
  unfold Overlaps spans
  constructor
  · intro h
    exact ⟨max a.start b.start, by omega, by omega⟩
  · rintro ⟨i, ha, hb⟩
    omega

lemma overlaps_comm {a b : Token} : a.Overlaps b ↔ b.Overlaps a := by
  unfold Overlaps
  omega

lemma fits_iff (n : Nat) (t : Token) : t.fits n = true ↔ t.start < t.stop ∧ t.stop ≤ n := by
  simp [fits]

namespace Choice

/-- The occupancy is that of the accepted tokens, all of which lie in a text of `n` bytes, are
not empty and share no byte. -/
structure Accounts (n : Nat) (ch : Choice) : Prop where
  size : ch.occupancy.size = n
  taken : ∀ i, ch.occupancy.taken i ↔ ∃ t ∈ ch.accepted, t.spans i
  fits : ∀ t ∈ ch.accepted, t.start < t.stop ∧ t.stop ≤ n
  apart : ch.accepted.Pairwise fun a b => ¬ a.Overlaps b

lemma accounts_free (n : Nat) : Accounts n ⟨.free n, []⟩ where
  size := by simp [Occupancy.free]
  taken i := by simp [Occupancy.not_taken_free]
  fits := by simp
  apart := List.Pairwise.nil

variable {n : Nat} {ch : Choice}

/-- A candidate is accepted exactly if it overlaps none of the accepted ones. -/
lemma Accounts.offer_eq (h : Accounts n ch) {t : Token} (ht : t.start < t.stop) :
    ch.offer t = if ∃ a ∈ ch.accepted, a.Overlaps t then ch
      else ⟨ch.occupancy.take t.start (t.stop - t.start), t :: ch.accepted⟩ := by
  have hiff : ch.occupancy.anyTaken t.start (t.stop - t.start) = true ↔
      ∃ a ∈ ch.accepted, a.Overlaps t := by
    rw [Occupancy.anyTaken_iff]
    constructor
    · rintro ⟨i, h₁, h₂, hi⟩
      obtain ⟨a, ha, hai⟩ := (h.taken i).mp hi
      exact ⟨a, ha, (overlaps_iff a t).mpr ⟨i, hai, h₁, by omega⟩⟩
    · rintro ⟨a, ha, hat⟩
      obtain ⟨i, hai, hti⟩ := (overlaps_iff a t).mp hat
      exact ⟨i, hti.1, by have := hti.2; omega, (h.taken i).mpr ⟨a, ha, hai⟩⟩
  unfold offer
  simp only [hiff]

lemma Accounts.offer (h : Accounts n ch) {t : Token} (ht : t.start < t.stop) (hn : t.stop ≤ n) :
    Accounts n (ch.offer t) := by
  rw [h.offer_eq ht]
  split
  · exact h
  · rename_i hnone
    refine ⟨?_, ?_, ?_, ?_⟩
    · simp [h.size]
    · intro i
      rw [Occupancy.taken_take, h.taken, h.size]
      simp only [List.mem_cons, exists_eq_or_imp, spans]
      constructor
      · rintro (hi | hi)
        · exact Or.inr hi
        · exact Or.inl (by omega)
      · rintro (hi | hi)
        · exact Or.inr (by omega)
        · exact Or.inl hi
    · intro a ha
      rcases List.mem_cons.mp ha with rfl | ha
      · exact ⟨ht, hn⟩
      · exact h.fits a ha
    · refine List.Pairwise.cons ?_ h.apart
      intro a ha hta
      exact hnone ⟨a, ha, overlaps_comm.mp hta⟩

lemma Accounts.foldl (h : Accounts n ch) {ts : List Token}
    (hts : ∀ t ∈ ts, t.start < t.stop ∧ t.stop ≤ n) : Accounts n (ts.foldl Choice.offer ch) := by
  induction ts generalizing ch with
  | nil => exact h
  | cons t ts ih =>
    obtain ⟨ht, hn⟩ := hts t (by simp)
    exact ih (h.offer ht hn) fun a ha => hts a (by simp [ha])

lemma mem_offer {t a : Token} (h : a ∈ (ch.offer t).accepted) : a = t ∨ a ∈ ch.accepted := by
  unfold Choice.offer at h
  dsimp only at h
  split at h
  · exact Or.inr h
  · exact List.mem_cons.mp h

lemma mem_foldl {ts : List Token} {a : Token} (h : a ∈ (ts.foldl Choice.offer ch).accepted) :
    a ∈ ts ∨ a ∈ ch.accepted := by
  induction ts generalizing ch with
  | nil => exact Or.inr h
  | cons t ts ih =>
    rcases ih h with h | h
    · exact Or.inl (List.mem_cons_of_mem t h)
    · rcases mem_offer h with rfl | h
      · exact Or.inl (by simp)
      · exact Or.inr h

end Choice

lemma stop_le_extent {ts : List Token} {t : Token} (h : t ∈ ts) : t.stop ≤ extent ts := by
  have hgen : ∀ (us : List Token) (m : Nat), m ≤ us.foldl (fun n t => max n t.stop) m ∧
      ∀ u ∈ us, u.stop ≤ us.foldl (fun n t => max n t.stop) m := by
    intro us
    induction us with
    | nil => simp
    | cons u us ih =>
      intro m
      obtain ⟨h₁, h₂⟩ := ih (max m u.stop)
      refine ⟨by rw [List.foldl_cons]; omega, ?_⟩
      intro v hv
      rw [List.foldl_cons]
      rcases List.mem_cons.mp hv with rfl | hv
      · omega
      · exact h₂ v hv
  exact (hgen ts 0).2 t h

variable {n : Nat} {cands : List (List Token)}

/-- The candidates that lie in the text, in the order in which they are offered. -/
def fitting (n : Nat) (cands : List (List Token)) : List Token := cands.flatten.filter (fits n)

/-- What has been accepted once all candidates have been offered. -/
def choice (n : Nat) (cands : List (List Token)) : Choice :=
  (fitting n cands).foldl Choice.offer ⟨.free (extent (fitting n cands)), []⟩

lemma accounts_choice (n : Nat) (cands : List (List Token)) :
    (choice n cands).Accounts (extent (fitting n cands)) := by
  refine (Choice.accounts_free _).foldl ?_
  intro t ht
  obtain ⟨-, hfit⟩ := List.mem_filter.mp ht
  exact ⟨((fits_iff n t).mp hfit).1, stop_le_extent ht⟩

lemma select_perm (n : Nat) (cands : List (List Token)) :
    (select n cands).Perm (choice n cands).accepted :=
  (List.mergeSort_perm _ _).trans (List.reverse_perm _)

lemma mem_select {t : Token} (h : t ∈ select n cands) :
    (∃ l ∈ cands, t ∈ l) ∧ t.start < t.stop ∧ t.stop ≤ n := by
  have hmem := (select_perm n cands).mem_iff.mp h
  rcases Choice.mem_foldl hmem with ht | ht
  · obtain ⟨hflat, hfit⟩ := List.mem_filter.mp ht
    exact ⟨List.mem_flatten.mp hflat, (fits_iff n t).mp hfit⟩
  · simp at ht

/-- **The chosen tokens follow one another**: each ends before the later ones begin. -/
theorem pairwise_select (n : Nat) (cands : List (List Token)) :
    (select n cands).Pairwise fun a b => a.stop ≤ b.start := by
  have hsorted : (select n cands).Pairwise fun a b => decide (a.start ≤ b.start) = true :=
    List.pairwise_mergeSort (by simp; omega) (by simp; omega) _
  have hapart : (select n cands).Pairwise fun a b => ¬ a.Overlaps b :=
    ((select_perm n cands).pairwise_iff fun h => mt overlaps_comm.mp h).mpr
      (accounts_choice n cands).apart
  refine (hsorted.and hapart).imp_of_mem ?_
  intro a b ha hb ⟨hle, hno⟩
  have ha' := (mem_select ha).2
  have hb' := (mem_select hb).2
  simp only [decide_eq_true_eq] at hle
  unfold Overlaps at hno
  omega

end Token

end CodePad
