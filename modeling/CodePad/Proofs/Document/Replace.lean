import CodePad.Proofs.Document.Position

/-!
What an edit of a document does to its text. Whatever the runs are, the text loses the
characters of the range and gets the new ones in their place, and the position that the edit
gives back stands right after the new characters.
-/

namespace CodePad

namespace Document

lemma text_editable (rs : List Run) : (editable rs).flatMap Run.text = rs.flatMap Run.text := by
  cases rs <;> simp [editable]

lemma editable_ne_nil (rs : List Run) : editable rs ≠ [] := by
  cases rs <;> simp [editable]

lemma total_editable (rs : List Run) : total (editable rs) = total rs := by
  rw [← length_flatMap_text, text_editable, length_flatMap_text]

lemma take_flatMap_text {pre post : List Run} {r : Run} {k : Nat} (h₁ : total pre ≤ k)
    (h₂ : k ≤ total pre + r.length) :
    ((pre ++ r :: post).flatMap Run.text).take k =
      pre.flatMap Run.text ++ r.text.take (k - total pre) := by
  have hpre : (pre.flatMap Run.text).length = total pre := length_flatMap_text pre
  have hr : r.text.length = r.length := rfl
  rw [List.flatMap_append, List.flatMap_cons, List.take_append,
    List.take_of_length_le (by omega), hpre, List.take_append_of_le_length (by omega)]

lemma drop_flatMap_text {pre post : List Run} {r : Run} {k : Nat} (h₁ : total pre ≤ k)
    (h₂ : k ≤ total pre + r.length) :
    ((pre ++ r :: post).flatMap Run.text).drop k =
      r.text.drop (k - total pre) ++ post.flatMap Run.text := by
  have hpre : (pre.flatMap Run.text).length = total pre := length_flatMap_text pre
  have hr : r.text.length = r.length := rfl
  rw [List.flatMap_append, List.flatMap_cons, List.drop_append,
    List.drop_of_length_le (by omega), hpre, List.nil_append,
    List.drop_append_of_le_length (by omega)]

/-- Where an edit of some runs from `s` up to `e` begins and ends: in the run `r`, which stands
between the runs `before` and `rest`, and in the run `r'`, which comes `inner.length` runs later and
has the runs `after` behind it. -/
structure EditAt (rs : List Run) (s e : Nat) (before : List Run) (r : Run) (rest inner : List Run)
    (r' : Run) (after : List Run) : Prop where
  runs_eq_first : rs = before ++ r :: rest
  runs_eq_last : rs = before ++ inner ++ r' :: after
  start_ge : total before ≤ s
  start_le : s ≤ total before + r.length
  stop_ge : total (before ++ inner) ≤ e
  stop_le : e ≤ total (before ++ inner) + r'.length
  first_eq : positionIn rs s = ⟨before.length, s - total before⟩
  last_eq : positionIn rs e = ⟨(before ++ inner).length, e - total (before ++ inner)⟩

lemma exists_editAt {rs : List Run} {s e : Nat} (hne : rs ≠ []) (hse : s ≤ e) (he : e ≤ total rs) :
    ∃ before r rest inner r' after, EditAt rs s e before r rest inner r' after := by
  obtain ⟨before, r, rest, hruns, hs₁, hs₂, hfirst⟩ :=
    exists_positionIn hne (Nat.le_trans hse he)
  obtain ⟨front, r', after, hruns', he₁, he₂, hlast⟩ := exists_positionIn hne he
  -- the end has no earlier position than the start, so the runs before it begin with those before
  -- the start
  have hlen : before.length ≤ front.length := by
    have hmono := positionIn_mono rs hse
    rw [hfirst, hlast] at hmono
    exact hmono.elim Nat.le_of_lt fun h => Nat.le_of_eq h.1
  obtain ⟨inner, rfl⟩ : before <+: front :=
    List.prefix_of_prefix_length_le ⟨_, hruns.symm⟩ ⟨_, hruns'.symm⟩ hlen
  exact ⟨before, r, rest, inner, r', after, hruns, hruns', hs₁, hs₂, he₁, he₂, hfirst, hlast⟩

namespace EditAt

variable {rs : List Run} {s e : Nat} {before : List Run} {r : Run} {rest inner : List Run}
  {r' : Run} {after : List Run}

/-- The runs from the one in which the edit begins are those up to where it ends and those after. -/
lemma cons_rest_eq (h : EditAt rs s e before r rest inner r' after) :
    r :: rest = inner ++ r' :: after := by
  have heq := h.runs_eq_first.symm.trans h.runs_eq_last
  rw [List.append_assoc] at heq
  exact List.append_cancel_left heq

/-- The runs that the edit touches begin with the one in which it begins. -/
lemma exists_touched (h : EditAt rs s e before r rest inner r' after) :
    ∃ touched, inner ++ [r'] = r :: touched := by
  have heq := h.cons_rest_eq
  cases inner with
  | nil => exact ⟨[], by rw [(List.cons.inj heq).1]; rfl⟩
  | cons i inner => exact ⟨inner ++ [r'], by rw [(List.cons.inj heq).1]; rfl⟩

lemma getElem?_first (h : EditAt rs s e before r rest inner r' after) :
    rs[before.length]? = some r := by
  rw [h.runs_eq_first]
  simp

lemma getElem?_last (h : EditAt rs s e before r rest inner r' after) :
    rs[(before ++ inner).length]? = some r' := by
  rw [h.runs_eq_last]
  simp

/-- The text up to where the edit begins. -/
lemma take_text (h : EditAt rs s e before r rest inner r' after) :
    (rs.flatMap Run.text).take s = before.flatMap Run.text ++ r.text.take (s - total before) := by
  rw [h.runs_eq_first, take_flatMap_text h.start_ge h.start_le]

/-- The text from where the edit ends. -/
lemma drop_text (h : EditAt rs s e before r rest inner r' after) :
    (rs.flatMap Run.text).drop e =
      r'.text.drop (e - total (before ++ inner)) ++ after.flatMap Run.text := by
  rw [h.runs_eq_last, drop_flatMap_text h.stop_ge h.stop_le]

end EditAt

/-- What an edit makes of the runs: the runs before the one in which it begins and those after the
one in which it ends stay as they are, and one run takes the place of all between. -/
lemma exists_replace (d : Document) (start stop : Nat) (new : Text) :
    let s := min start d.length
    let e := max s (min stop d.length)
    ∃ before r rest inner r' after, EditAt (editable d.runs) s e before r rest inner r' after ∧
      d.replace start stop new =
        (⟨before ++ ⟨r.kind, r.text.take (s - total before) ++ new ++
            r'.text.drop (e - total (before ++ inner))⟩ :: after⟩,
          ⟨before.length, s - total before + new.length⟩) := by
  intro s e
  have hlen : length ⟨editable d.runs⟩ = d.length := total_editable d.runs
  have he : e ≤ total (editable d.runs) := by
    rw [total_editable]
    exact Nat.max_le.mpr ⟨Nat.min_le_right _ _, Nat.min_le_right _ _⟩
  obtain ⟨before, r, rest, inner, r', after, h⟩ :=
    exists_editAt (editable_ne_nil d.runs) (Nat.le_max_left s _) he
  refine ⟨before, r, rest, inner, r', after, h, ?_⟩
  have htake : (editable d.runs).take before.length = before := by
    rw [h.runs_eq_first, List.take_left]
  have hdrop : (editable d.runs).drop ((before ++ inner).length + 1) = after := by
    rw [h.runs_eq_last, List.drop_length_add_append]
    rfl
  have hfirst : positionIn (editable d.runs) (min start d.length) =
      ⟨before.length, s - total before⟩ := h.first_eq
  have hlast : positionIn (editable d.runs) (max (min start d.length) (min stop d.length)) =
      ⟨(before ++ inner).length, e - total (before ++ inner)⟩ := h.last_eq
  simp only [replace, hlen, positionAt, hfirst, hlast, htake, hdrop, h.getElem?_first,
    h.getElem?_last]
  rfl

/-- The text after an edit, by the offsets as far as there are such. -/
lemma text_replace_min (d : Document) (start stop : Nat) (new : Text) :
    (d.replace start stop new).1.text =
      d.text.take (min start d.length) ++ new ++
        d.text.drop (max (min start d.length) (min stop d.length)) := by
  obtain ⟨before, r, rest, inner, r', after, h, heq⟩ := d.exists_replace start stop new
  have htext : (editable d.runs).flatMap Run.text = d.text := text_editable d.runs
  rw [heq, ← htext, h.take_text, h.drop_text]
  simp [text]

/-- **An edit replaces the characters of its range.** -/
theorem text_replace (d : Document) (start stop : Nat) (new : Text) :
    (d.replace start stop new).1.text =
      d.text.take start ++ new ++ d.text.drop (max start stop) := by
  have hstop : d.text.drop (max (min start d.text.length) (min stop d.text.length)) =
      d.text.drop (max start stop) := by
    by_cases hin : max start stop ≤ d.text.length
    · congr 1
      omega
    · rw [List.drop_of_length_le (by omega), List.drop_of_length_le (by omega)]
  rw [text_replace_min, ← d.length_text, hstop, ← List.take_eq_take_min]

/-- The position that an edit gives back stands after the new characters. -/
theorem offsetOf_replace (d : Document) (start stop : Nat) (new : Text) :
    (d.replace start stop new).1.offsetOf (d.replace start stop new).2 =
      min start d.length + new.length := by
  obtain ⟨before, r, rest, inner, r', after, h, heq⟩ := d.exists_replace start stop new
  have hstart := h.start_ge
  have hle := h.start_le
  have hlen : r.text.length = r.length := rfl
  have hfront : ∀ merged : Run, ∀ k, offsetIn (before ++ merged :: after) ⟨before.length, k⟩ =
      total before + min k merged.length :=
    fun merged k => offsetIn_append before (merged :: after) 0 k
  rw [heq, offsetOf, hfront]
  simp only [Run.length, List.length_append, List.length_take]
  omega

end Document

end CodePad
