import CodePad.Proofs.Document.Merge

/-!
Positions in the order of their offsets. A greater offset never has an earlier position, and of
several runs that meet at an offset, empty ones among them, the first has its position. So going
from a position to its offset and back finds the same place in the first run that holds it.
-/

namespace CodePad

namespace Document

/-- The run with the number `i` holds an offset, be it at one of its ends. -/
def HoldsOffset (d : Document) (i offset : Nat) : Prop :=
  ∃ r, d.runs[i]? = some r ∧ total (d.runs.take i) ≤ offset ∧
    offset ≤ total (d.runs.take i) + r.length

/-- A position that stands for an offset in the first run that holds it. In a document without runs
there is only the front. -/
def IsFirstAt (d : Document) (offset : Nat) (p : Position) : Prop :=
  if d.runs = [] then p = .zero
  else d.HoldsOffset p.run offset ∧ total (d.runs.take p.run) + p.offset = offset ∧
    ∀ i < p.run, ¬ d.HoldsOffset i offset

section

variable {r : Run} {rs : List Run} {i offset : Nat}

lemma holdsOffset_zero : HoldsOffset ⟨r :: rs⟩ 0 offset ↔ offset ≤ r.length := by
  simp [HoldsOffset]

lemma holdsOffset_succ :
    HoldsOffset ⟨r :: rs⟩ (i + 1) offset ↔
      r.length ≤ offset ∧ HoldsOffset ⟨rs⟩ i (offset - r.length) := by
  simp only [HoldsOffset, List.getElem?_cons_succ, List.take_succ_cons, total_cons]
  constructor
  · rintro ⟨q, hq, hge, hle⟩
    exact ⟨by omega, q, hq, by omega, by omega⟩
  · rintro ⟨hr, q, hq, hge, hle⟩
    exact ⟨q, hq, by omega, by omega⟩

/-- An offset within a document has its position in the first run that holds it. -/
lemma isFirstAt_positionAt (d : Document) {offset : Nat} (h : offset ≤ d.length) :
    d.IsFirstAt offset (d.positionAt offset) := by
  obtain ⟨rs⟩ := d
  induction rs generalizing offset with
  | nil => rfl
  | cons r rs ih =>
    rw [length, total_cons] at h
    rw [IsFirstAt, if_neg (List.cons_ne_nil r rs), positionAt, positionIn_cons]
    by_cases hfirst : offset ≤ r.length ∨ rs = []
    · have hle : offset ≤ r.length := by
        rcases hfirst with hle | rfl
        · exact hle
        · simpa using h
      rw [if_pos hfirst, Nat.min_eq_left hle]
      exact ⟨holdsOffset_zero.mpr hle, by simp, fun i hi => absurd hi (Nat.not_lt_zero i)⟩
    · rw [if_neg hfirst]
      rw [not_or, Nat.not_le] at hfirst
      have hle : offset - r.length ≤ total rs := by omega
      have hrest := ih hle
      rw [IsFirstAt, if_neg hfirst.2, positionAt] at hrest
      obtain ⟨hholds, hoffset, hnone⟩ := hrest
      refine ⟨holdsOffset_succ.mpr ⟨by omega, hholds⟩, ?_, fun i hi => ?_⟩
      · rw [Position.later, List.take_succ_cons, total_cons]
        simp only at hoffset ⊢
        omega
      · cases i with
        | zero =>
          rw [holdsOffset_zero]
          omega
        | succ i =>
          rw [holdsOffset_succ, not_and]
          exact fun _ => hnone i (Nat.lt_of_succ_lt_succ hi)

lemma positionFrom?_eq_positionAt (d : Document) (offset : Nat) :
    positionFrom? 0 0 offset d.runs = some (d.positionAt offset) := by
  by_cases h : d.runs = []
  · rw [positionAt, h]
    rfl
  · exact positionFrom?_zero h offset

end

variable {d : Document} {p : Position} {r : Run}

/-- The offset of a position in a run of the document. -/
lemma offsetOf_eq (h : d.runs[p.run]? = some r) :
    d.offsetOf p = total (d.runs.take p.run) + min p.offset r.length := by
  obtain ⟨hlt, rfl⟩ := List.getElem?_eq_some_iff.mp h
  have hsplit : d.runs = d.runs.take p.run ++ d.runs[p.run] :: d.runs.drop (p.run + 1) := by
    rw [← List.drop_eq_getElem_cons hlt, List.take_append_drop]
  have hlength : (d.runs.take p.run).length = p.run := List.length_take_of_le (Nat.le_of_lt hlt)
  have hoffset := offsetIn_append (d.runs.take p.run)
    (d.runs[p.run] :: d.runs.drop (p.run + 1)) 0 p.offset
  rwa [← hsplit, Nat.add_zero, hlength] at hoffset

/-- A position in range is in a run that holds its offset. -/
lemma InRange.holdsOffset (h : d.InRange p) (hne : d.runs ≠ []) :
    d.HoldsOffset p.run (d.offsetOf p) := by
  rcases h with ⟨r, hr, hle⟩ | ⟨hnil, -⟩
  · have hoffset := offsetOf_eq hr
    exact ⟨r, hr, by omega, by omega⟩
  · exact absurd hnil hne

/-- **Positions follow offsets.** The position of an offset is found by counting up the runs, with
no difference below zero on the way, and stands for the offset, or for the end of the text if the
offset is past it. A greater offset has no earlier position. Any position, be it in range or not,
stands for an offset within the text. The position of this offset stands for the same offset, and if
there are runs it is in range and in no later run than any other in range that stands for it. -/
theorem positions_follow_offsets (d : Document) (p : Position) {i j : Nat} (h : i ≤ j) :
    (positionFrom? 0 0 i d.runs = some (d.positionAt i) ∧
        d.offsetOf (d.positionAt i) = min i d.text.length) ∧
      ((d.positionAt i).run < (d.positionAt j).run ∨
        (d.positionAt i).run = (d.positionAt j).run ∧
          (d.positionAt i).offset ≤ (d.positionAt j).offset) ∧
      d.offsetOf p ≤ d.text.length ∧
      let q := d.positionAt (d.offsetOf p)
      d.offsetOf q = d.offsetOf p ∧
        (d.runs ≠ [] → d.InRange q ∧
          ∀ q', d.InRange q' → d.offsetOf q' = d.offsetOf p → q.run ≤ q'.run) := by
  rw [d.length_text]
  have hle : d.offsetOf p ≤ d.length := d.offsetOf_le p
  refine ⟨⟨d.positionFrom?_eq_positionAt i, d.offsetOf_positionAt i⟩, positionIn_mono d.runs h, hle,
    ?_⟩
  intro q
  have hq : d.offsetOf q = d.offsetOf p := by rw [offsetOf_positionAt, Nat.min_eq_left hle]
  refine ⟨hq, fun hne => ⟨(d.canonical_positionAt hle).inRange, ?_⟩⟩
  intro q' hrange hsame
  have hfirst := d.isFirstAt_positionAt hle
  rw [IsFirstAt, if_neg hne] at hfirst
  refine Nat.not_lt.mp fun hlt => hfirst.2.2 q'.run hlt ?_
  rw [← hsame]
  exact hrange.holdsOffset hne

/-- A position past the end of an empty run: three runs share its offset, and the first of them is
the second of the document. -/
theorem positions_follow_offsets_shared :
    let d : Document := ⟨[⟨none, ['a']⟩, ⟨some .keyword, ['b']⟩, ⟨none, []⟩, ⟨none, ['c']⟩]⟩
    let p : Position := ⟨2, 7⟩
    (1 ≤ 9 ∧ d.runs ≠ []) ∧ d.offsetOf (d.positionAt 9) = 3 ∧ d.offsetOf p = 2 ∧
      d.positionAt 2 = ⟨1, 1⟩ ∧ ∀ q, d.InRange q → d.offsetOf q = 2 → 1 ≤ q.run := by
  intro d p
  obtain ⟨-, -, -, -, hrange⟩ := positions_follow_offsets d p (i := 1) (j := 9) (by decide)
  obtain ⟨-, hfirst⟩ := hrange (List.cons_ne_nil _ _)
  exact ⟨⟨by decide, List.cons_ne_nil _ _⟩, by decide, by decide, by decide, hfirst⟩

end Document

end CodePad
