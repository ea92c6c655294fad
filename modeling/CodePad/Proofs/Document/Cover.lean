import CodePad.Proofs.Document.Lines

/-!
The lines of a document have all of it and nothing else. The pieces that they are made of come from
the runs, one after another, and each of them is a stretch of its run between two newlines. Put side
by side, each with the offsets that follow from its start, they are the characters of the text with
their offsets, less the newlines.
-/

namespace CodePad

namespace Piece

/-- The pieces of some lines of one kind, the first of which begins at `start`. -/
def ofLines (kind : Option TokenKind) : (start : Nat) → List Text → List Piece
  | _, [] => []
  | start, t :: ts => ofText kind start t ++ ofLines kind (start + t.length + 1) ts

/-- The characters of a piece, each with its offset in the document. -/
def placed (p : Piece) : List (Char × Nat) := p.text.zipIdx p.start

lemma mem_ofText {kind : Option TokenKind} {start : Nat} {t : Text} {p : Piece} :
    p ∈ ofText kind start t ↔ t ≠ [] ∧ p = ⟨kind, t, start⟩ := by
  cases t <;> simp [ofText]

/-- A piece is one of the lines, and begins where the lines before it end. -/
lemma exists_of_mem_ofLines {kind : Option TokenKind} {start : Nat} {ts : List Text} {p : Piece}
    (h : p ∈ ofLines kind start ts) :
    ∃ pre post, ts = pre ++ p.text :: post ∧ p.text ≠ [] ∧ p.kind = kind ∧
      p.start = start + Text.linesLength pre := by
  induction ts generalizing start with
  | nil => exact absurd h List.not_mem_nil
  | cons t ts ih =>
    rcases List.mem_append.mp h with h | h
    · obtain ⟨hne, rfl⟩ := mem_ofText.mp h
      exact ⟨[], ts, rfl, hne, rfl, rfl⟩
    · obtain ⟨pre, post, rfl, hne, hkind, hstart⟩ := ih h
      refine ⟨t :: pre, post, rfl, hne, hkind, ?_⟩
      rw [hstart, Text.linesLength_cons]
      omega

lemma flatMap_placed_ofText (kind : Option TokenKind) (start : Nat) (t : Text) :
    (ofText kind start t).flatMap placed = t.zipIdx start := by
  cases t with
  | nil => rfl
  | cons c t => exact List.append_nil _

lemma filter_zipIdx_of_not_mem {t : Text} (h : '\n' ∉ t) (start : Nat) :
    (t.zipIdx start).filter (·.1 ≠ '\n') = t.zipIdx start := by
  refine List.filter_eq_self.mpr fun x hx => decide_eq_true fun hnewline => ?_
  exact h (hnewline ▸ List.fst_mem_of_mem_zipIdx hx)

/-- The pieces of lines have the characters of the text that the lines make up, less the
newlines. -/
lemma flatMap_placed_ofLines (kind : Option TokenKind) (start : Nat) {ts : List Text}
    (hts : ts ≠ []) (h : ∀ t ∈ ts, '\n' ∉ t) :
    (ofLines kind start ts).flatMap placed =
      ((List.intercalate ['\n'] ts).zipIdx start).filter (·.1 ≠ '\n') := by
  induction ts generalizing start with
  | nil => exact absurd rfl hts
  | cons t ts ih =>
    rw [List.forall_mem_cons] at h
    have hline := filter_zipIdx_of_not_mem h.1 start
    rw [ofLines, List.flatMap_append, flatMap_placed_ofText]
    by_cases hnil : ts = []
    · subst hnil
      rw [List.intercalate_singleton, hline]
      exact List.append_nil _
    · -- the newline behind the line takes up an offset, but has no place in a piece
      have hnewline : (['\n'].zipIdx (start + t.length)).filter (·.1 ≠ '\n') = [] := rfl
      rw [List.intercalate_cons_of_ne_nil hnil, ih _ hnil h.2, List.zipIdx_append,
        List.zipIdx_append, List.filter_append, List.filter_append, hline, hnewline,
        List.append_nil, List.length_append, Nat.add_assoc]
      rfl

end Piece

namespace Document

open Piece

/-! ### The pieces of the runs -/

lemma flatten_joinLines (kind : Option TokenKind) (start : Nat) (ts : List Text)
    (following : List (List Piece)) :
    (joinLines kind start ts following).flatten = ofLines kind start ts ++ following.flatten := by
  induction ts generalizing start with
  | nil => rfl
  | cons t ts ih =>
    by_cases hts : ts = []
    · subst hts
      cases following <;> simp [joinLines, ofLines]
    · rw [joinLines_cons _ _ _ hts, List.flatten_cons, ih, ofLines, List.append_assoc]

/-- The pieces of all lines are those of the runs, one run after another. -/
lemma flatten_linesFrom (start : Nat) (r : Run) (rs : List Run) :
    (linesFrom start (r :: rs)).flatten =
      ofLines r.kind start r.text.lines ++ (linesFrom (start + r.length) rs).flatten :=
  flatten_joinLines r.kind start r.text.lines _

lemma exists_run_of_mem_linesFrom {start : Nat} {rs : List Run} {p : Piece}
    (h : p ∈ (linesFrom start rs).flatten) :
    ∃ before r after, rs = before ++ r :: after ∧
      p ∈ ofLines r.kind (start + total before) r.text.lines := by
  induction rs generalizing start with
  | nil => exact absurd h List.not_mem_nil
  | cons r rs ih =>
    rw [flatten_linesFrom] at h
    rcases List.mem_append.mp h with h | h
    · exact ⟨[], r, rs, rfl, h⟩
    · obtain ⟨before, r', after, rfl, hp⟩ := ih h
      refine ⟨r :: before, r', after, rfl, ?_⟩
      rwa [total_cons, ← Nat.add_assoc]

lemma flatMap_placed_linesFrom (start : Nat) (rs : List Run) :
    (linesFrom start rs).flatten.flatMap placed =
      ((rs.flatMap Run.text).zipIdx start).filter (·.1 ≠ '\n') := by
  induction rs generalizing start with
  | nil => rfl
  | cons r rs ih =>
    have hrun := flatMap_placed_ofLines r.kind start (Text.lines_ne_nil r.text)
      fun t ht => Text.newline_not_mem_of_mem_lines ht
    rw [Text.lines_eq_splitOn, List.intercalate_splitOn] at hrun
    rw [flatten_linesFrom, List.flatMap_append, ih, Text.lines_eq_splitOn, hrun,
      List.flatMap_cons, List.zipIdx_append, List.filter_append]
    rfl

/-! ### What a piece says -/

/-- A piece that is where it says in a document. -/
structure Holds (d : Document) (p : Piece) : Prop where
  text_ne_nil : p.text ≠ []
  newline_not_mem : '\n' ∉ p.text
  /-- Its characters are those that the text has from its start on. -/
  getElem?_eq : ∀ j < p.text.length, d.text[p.start + j]? = p.text[j]?
  /-- They are all in one run, and this has its kind. -/
  exists_run : ∃ before r after, d.runs = before ++ r :: after ∧ r.kind = p.kind ∧
    total before ≤ p.start ∧ p.start + p.text.length ≤ total before + r.length

lemma holds_of_mem_flatten {d : Document} {p : Piece} (h : p ∈ d.lines.flatten) : d.Holds p := by
  obtain ⟨before, r, after, hruns, hp⟩ := exists_run_of_mem_linesFrom h
  obtain ⟨pre, post, hlines, hne, hkind, hstart⟩ := exists_of_mem_ofLines hp
  have hline : r.text.lines[pre.length]? = some p.text := by
    rw [hlines]
    simp
  have hpre : r.text.lines.take pre.length = pre := by rw [hlines, List.take_left]
  obtain ⟨behind, hat⟩ := Text.exists_lineAt_getElem? hline
  rw [hpre] at hat
  have hlen := hat.length_eq
  refine ⟨hne, hat.not_mem_line, fun j hj => ?_,
    before, r, after, hruns, hkind.symm, by omega, by unfold Run.length; omega⟩
  -- the text in front of the piece, the piece and what comes behind it
  have hfront : (before.flatMap Run.text ++ pre.flatMap (· ++ ['\n'])).length = p.start := by
    rw [List.length_append, length_flatMap_text, Text.length_flatMap_newline, hstart, Nat.zero_add]
  have htext : d.text = before.flatMap Run.text ++ pre.flatMap (· ++ ['\n']) ++
      (p.text ++ (behind.flatMap ('\n' :: ·) ++ after.flatMap Run.text)) := by
    rw [text, hruns, List.flatMap_append, List.flatMap_cons, hat.text_eq, Text.between]
    simp only [List.append_assoc]
  rw [htext, ← hfront, List.getElem?_append_right (Nat.le_add_right _ _), Nat.add_sub_cancel_left,
    List.getElem?_append_left hj]

/-- **The lines of a document lose nothing and invent nothing.** There is one more of them than the
text has newlines, and each spells the part of the text between its newlines. Their pieces are
never empty, have no newlines, are where they say and have the kind of the run that they come from.
And all pieces in their order give the characters of the text that are no newlines, each once and in
its place. -/
theorem lines_cover (d : Document) :
    d.lines.length = d.text.count '\n' + 1 ∧
      d.lines.map lineText = d.text.splitOn '\n' ∧
      (∀ line ∈ d.lines, ∀ p ∈ line, d.Holds p) ∧
      d.lines.flatten.flatMap placed = d.text.zipIdx.filter (·.1 ≠ '\n') := by
  refine ⟨?_, ?_, fun line hline p hp => ?_, flatMap_placed_linesFrom 0 d.runs⟩
  · rw [d.length_lines, Text.length_lines]
  · rw [d.map_lineText_lines, Text.lines_eq_splitOn]
  · exact holds_of_mem_flatten (List.mem_flatten.mpr ⟨line, hline, hp⟩)

end Document

end CodePad
