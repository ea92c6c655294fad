import CodePad.Proofs.Document.Replace
import CodePad.Proofs.Text.Boundary

/-!
What an edit does to the runs. Each step of it can fail if taken by itself: a subtraction that goes
below zero, a run that is not there, a slice of bytes that cuts a character, a range that ends
before it begins. None of them does, since the end of an edit never has an earlier position than its
start. The runs in front of the edit and behind it stay, and those that it touches become one.
-/

namespace CodePad

namespace Document

/-! ### The edit with all that could fail -/

/-- The difference of two numbers; it fails below zero. -/
def sub? (m n : Nat) : Option Nat := if n ≤ m then some (m - n) else none

/-- The nearest number from `low` up to `high`; it fails if there is none. -/
def clamp? (low high k : Nat) : Option Nat :=
  if low ≤ high then some (max low (min k high)) else none

/-- The list without the elements from `start` up to `stop`; it fails if there are not so many or
if the end comes before the start. -/
def drain? {α : Type} (start stop : Nat) (l : List α) : Option (List α) :=
  if start ≤ stop ∧ stop ≤ l.length then some (l.take start ++ l.drop stop) else none

/-- The runs without those behind the one with the number `first`, up to the one with the number
`last`. -/
def absorb? (first last : Nat) (rs : List Run) : Option (List Run) :=
  if first < last then drain? (first + 1) (last + 1) rs else some rs

/-- The position of an offset among some runs, the first of which has the number `run` and begins at
the offset `counter`. -/
def positionFrom? (run counter offset : Nat) : List Run → Option Position
  | [] => some .zero
  | r :: rs =>
    if offset ≤ counter + r.length then (sub? offset counter).map (Position.mk run)
    else if rs = [] then some ⟨run, r.length⟩
    else positionFrom? (run + 1) (counter + r.length) offset rs

/-- The edit of a document step by step, with each step that may fail. -/
def replace? (d : Document) (start stop : Nat) (new : Text) : Option (Document × Position) := do
  let runs := editable d.runs
  let start := min start (total runs)
  let stop ← clamp? start (total runs) stop
  let first ← positionFrom? 0 0 start runs
  let last ← positionFrom? 0 0 stop runs
  let r ← runs[first.run]?
  let r' ← runs[last.run]?
  let front ← r.text.slice? 0 (r.text.byteAt first.offset)
  let back ← r'.text.slice? (r'.text.byteAt last.offset) r'.text.byteLength
  let runs ← absorb? first.run last.run (runs.set first.run ⟨r.kind, front ++ new ++ back⟩)
  some (⟨runs⟩, ⟨first.run, first.offset + new.length⟩)

/-! ### Nothing fails -/

/-- The number that is subtracted never exceeds the offset. -/
lemma positionFrom?_eq {rs : List Run} (hne : rs ≠ []) {run counter offset : Nat}
    (h : counter ≤ offset) :
    positionFrom? run counter offset rs =
      some ⟨run + (positionIn rs (offset - counter)).run,
        (positionIn rs (offset - counter)).offset⟩ := by
  -- `counter ≤ offset` is kept: the counter goes on only past a run that ends before the offset
  induction rs generalizing run counter with
  | nil => exact absurd rfl hne
  | cons r rs ih =>
    rw [positionFrom?, positionIn_cons]
    by_cases hr : offset ≤ counter + r.length
    · rw [if_pos hr, if_pos (Or.inl (by omega)), sub?, if_pos h, Nat.min_eq_left (by omega)]
      rfl
    · rw [if_neg hr]
      by_cases hrs : rs = []
      · rw [if_pos hrs, if_pos (Or.inr hrs), Nat.min_eq_right (by omega)]
        rfl
      · rw [if_neg hrs, ih hrs (by omega), if_neg (by simp only [hrs, or_false]; omega),
          Nat.sub_add_eq, Position.later]
        simp only [Nat.add_assoc, Nat.add_comm 1]

lemma positionFrom?_zero {rs : List Run} (hne : rs ≠ []) (offset : Nat) :
    positionFrom? 0 0 offset rs = some (positionIn rs offset) := by
  rw [positionFrom?_eq hne (Nat.zero_le offset), Nat.zero_add, Nat.sub_zero]

lemma drain?_append {α : Type} (u w v : List α) :
    drain? u.length (u ++ w).length (u ++ w ++ v) = some (u ++ v) := by
  rw [drain?, if_pos (by simp), List.drop_left, List.append_assoc, List.take_left]

/-- Putting another run in the place of the one in which an edit begins, and taking out those behind
it up to the one in which the edit ends. -/
lemma EditAt.absorb?_set {rs : List Run} {s e : Nat} {before : List Run} {r : Run}
    {rest inner : List Run} {r' : Run} {after : List Run}
    (h : EditAt rs s e before r rest inner r' after) (m : Run) :
    absorb? before.length (before ++ inner).length (rs.set before.length m) =
      some (before ++ m :: after) := by
  have hset : rs.set before.length m = before ++ m :: rest := by
    rw [h.runs_eq_first, List.set_append_right _ _ (Nat.le_refl _), Nat.sub_self,
      List.set_cons_zero]
  have hrest := h.cons_rest_eq
  rw [hset, absorb?]
  -- Without a run between, the edit begins and ends in the same one, and nothing is taken out.
  cases inner with
  | nil =>
    obtain ⟨-, rfl⟩ := List.cons.inj hrest
    rw [if_neg (by simp)]
  | cons i inner =>
    have hout : rest = inner ++ r' :: after := (List.cons.inj hrest).2
    have hdrain := drain?_append (before ++ [m]) (inner ++ [r']) after
    rw [if_pos (by simp), hout]
    simpa [Nat.add_assoc] using hdrain

/-- An edit does not fail. -/
lemma replace?_eq (d : Document) (start stop : Nat) (new : Text) :
    d.replace? start stop new = some (d.replace start stop new) := by
  obtain ⟨before, r, rest, inner, r', after, h, heq⟩ := d.exists_replace start stop new
  have hne := editable_ne_nil d.runs
  have htotal : total (editable d.runs) = d.length := total_editable d.runs
  have hclamp : clamp? (min start d.length) d.length stop =
      some (max (min start d.length) (min stop d.length)) := if_pos (Nat.min_le_right _ _)
  rw [heq]
  simp only [replace?, htotal, hclamp, positionFrom?_zero hne, Option.bind_eq_bind,
    Option.bind_some, h.first_eq, h.last_eq, h.getElem?_first, h.getElem?_last, Text.slice?_take,
    Text.slice?_drop, h.absorb?_set]

lemma editable_eq (rs : List Run) : editable rs = if rs = [] then [⟨none, []⟩] else rs := by
  cases rs <;> rfl

/-- The position of an offset is the same in a document that is about to be edited. -/
lemma positionIn_editable (rs : List Run) (k : Nat) :
    positionIn (editable rs) k = positionIn rs k := by
  cases rs with
  | nil => exact congrArg (Position.mk 0) (Nat.min_zero k)
  | cons r rs => rfl

/-! ### What becomes of the runs -/

/-- **An edit merges the runs that it touches and leaves the others alone.** Whatever the runs are
and whatever range is asked for, no step of the edit fails. The characters of the range, as far as
there are such, give way to the new ones. The runs before the one that holds the start of the range
and those behind the one that holds its end are the same as before; all from the one to the other
become a single run, which has the kind of the first. The position given back stands right behind
the new characters. -/
theorem replace_merges (d : Document) (start stop : Nat) (new : Text) :
    let s := min start d.text.length
    let e := max s (min stop d.text.length)
    let edited := d.replace start stop new
    d.replace? start stop new = some edited ∧
      edited.1.text = d.text.take s ++ new ++ d.text.drop e ∧
      (∃ before r touched after merged,
        (if d.runs = [] then [⟨none, []⟩] else d.runs) = before ++ (r :: touched) ++ after ∧
        before.length = (d.positionAt s).run ∧
        before.length + touched.length = (d.positionAt e).run ∧
        edited.1.runs = before ++ merged :: after ∧ merged.kind = r.kind) ∧
      edited.1.offsetOf edited.2 = s + new.length := by
  rw [d.length_text]
  intro s e edited
  obtain ⟨before, r, rest, inner, r', after, h, heq⟩ := d.exists_replace start stop new
  obtain ⟨touched, htouched⟩ := h.exists_touched
  have hlen : touched.length = inner.length := by simpa using (congrArg List.length htouched).symm
  have hfirst : d.positionAt s = ⟨before.length, s - total before⟩ :=
    (positionIn_editable d.runs s).symm.trans h.first_eq
  have hlast : d.positionAt e = ⟨(before ++ inner).length, e - total (before ++ inner)⟩ :=
    (positionIn_editable d.runs e).symm.trans h.last_eq
  have hruns := congrArg (·.1.runs) heq
  refine ⟨d.replace?_eq start stop new, d.text_replace_min start stop new,
    ⟨before, r, touched, after, _, ?_, ?_, ?_, hruns, rfl⟩,
    d.offsetOf_replace start stop new⟩
  · rw [← editable_eq, h.runs_eq_last, ← htouched]
    simp
  · rw [hfirst]
  · rw [hlast, hlen, List.length_append]

end Document

end CodePad
