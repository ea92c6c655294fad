import CodePad.Document.Lines
import CodePad.Proofs.Text.Lines

/-!
The lines of a document are those of its text, however the text is cut into runs. Both ways of
cutting go on with a line where one part of the text ends and the next begins. So a line and a
column name a place in the document just as they do in its text.
-/

namespace CodePad

namespace Text

/-- Goes on with the last of some lines where the lines that follow begin. -/
def joinLines : List Text → List Text → List Text
  | [], following => following
  | [l], [] => [l]
  | [l], m :: ms => (l ++ m) :: ms
  | l :: ls, following => l :: joinLines ls following

lemma joinLines_nil_cons (ms : List Text) (h : ms ≠ []) : joinLines [[]] ms = ms := by
  cases ms with
  | nil => exact absurd rfl h
  | cons m ms => rfl

lemma joinLines_cons (l : Text) {ls : List Text} (h : ls ≠ []) (ms : List Text) :
    joinLines (l :: ls) ms = l :: joinLines ls ms := by
  cases ls with
  | nil => exact absurd rfl h
  | cons m ls => rfl

lemma joinLines_consToFirst (c : Char) {ls : List Text} (h : ls ≠ []) (ms : List Text) :
    joinLines (consToFirst c ls) ms = consToFirst c (joinLines ls ms) := by
  match ls, ms with
  | [], _ => exact absurd rfl h
  | [_], [] => rfl
  | [_], _ :: _ => rfl
  | _ :: _ :: _, _ => rfl

lemma lines_append (t u : Text) : lines (t ++ u) = joinLines (lines t) (lines u) := by
  induction t with
  | nil => exact (joinLines_nil_cons _ (lines_ne_nil u)).symm
  | cons c t ih =>
    rw [List.cons_append, lines, lines, ih]
    split
    · rw [joinLines_cons _ (lines_ne_nil t)]
    · rw [joinLines_consToFirst c (lines_ne_nil t)]

end Text

namespace Piece

/-- The text of the pieces of a line. -/
def lineText (line : List Piece) : Text := line.flatMap text

@[simp] lemma lineText_nil : lineText [] = [] := rfl

@[simp] lemma lineText_append (l m : List Piece) :
    lineText (l ++ m) = lineText l ++ lineText m := List.flatMap_append

@[simp] lemma lineText_ofText (kind : Option TokenKind) (start : Nat) (t : Text) :
    lineText (ofText kind start t) = t := by
  cases t with
  | nil => rfl
  | cons c t => simp [ofText, lineText]

end Piece

namespace Document

open Piece

lemma joinLines_cons (kind : Option TokenKind) (start : Nat) (t : Text) {ts : List Text}
    (h : ts ≠ []) (following : List (List Piece)) :
    joinLines kind start (t :: ts) following =
      ofText kind start t :: joinLines kind (start + t.length + 1) ts following := by
  cases ts with
  | nil => exact absurd rfl h
  | cons u ts => rfl

lemma map_lineText_joinLines (kind : Option TokenKind) (start : Nat) (ts : List Text)
    (following : List (List Piece)) :
    (joinLines kind start ts following).map lineText =
      Text.joinLines ts (following.map lineText) := by
  induction ts generalizing start with
  | nil => rfl
  | cons t ts ih =>
    by_cases hts : ts = []
    · subst hts
      cases following with
      | nil => simp [joinLines, Text.joinLines]
      | cons l ls => simp [joinLines, Text.joinLines]
    · rw [joinLines_cons _ _ _ hts, List.map_cons, ih, lineText_ofText, Text.joinLines_cons _ hts]

lemma map_lineText_linesFrom (start : Nat) (rs : List Run) :
    (linesFrom start rs).map lineText = Text.lines (rs.flatMap Run.text) := by
  induction rs generalizing start with
  | nil => rfl
  | cons r rs ih =>
    rw [linesFrom, map_lineText_joinLines, ih, List.flatMap_cons, Text.lines_append]

/-- The pieces of a line make up that line of the text. -/
lemma map_lineText_lines (d : Document) : d.lines.map lineText = d.text.lines :=
  map_lineText_linesFrom 0 d.runs

lemma exists_pieces {d : Document} {i : Nat} {line : Text} (h : d.text.lines[i]? = some line) :
    ∃ pieces, d.lines[i]? = some pieces ∧ lineText pieces = line := by
  rw [← map_lineText_lines, List.getElem?_map] at h
  exact Option.map_eq_some_iff.mp h

lemma length_lines (d : Document) : d.lines.length = d.text.lines.length := by
  rw [← map_lineText_lines, List.length_map]

/-! ### Places in a document -/

/-- **A document, its text and its offsets agree about lines.** A document has the lines that its
text has between its newlines, whatever its runs are. An offset is in one of these lines: what its
line and column say leads back to the offset, the line begins as many characters before it as the
column says, and its first characters, as many as that, are those in front of the offset.
The other way round, a line and any column lead to an offset that lies in this line and, if the
line is long enough, in this column. On the way there no sum exceeds the length of the text. -/
theorem lines_agree (d : Document) :
    d.lines.map lineText = d.text.splitOn '\n' ∧
      (∀ k ≤ d.text.length,
        let p := d.text.lineCol k
        d.text.offsetAt p.line p.col = k ∧ p.line < d.lines.length ∧
          k = Text.linesLength ((d.text.splitOn '\n').take p.line) + p.col ∧
          ∃ pieces, d.lines[p.line]? = some pieces ∧ p.col ≤ (lineText pieces).length ∧
            (lineText pieces).take p.col = d.text.lineBefore k) ∧
      ∀ line pieces, d.lines[line]? = some pieces →
        (∀ i ≤ line, Text.linesLength ((d.text.splitOn '\n').take i) ≤ d.text.length) ∧
          ∀ col, d.text.offsetAt line col ≤ d.text.length ∧
            d.text.lineCol (d.text.offsetAt line col) =
              ⟨line, min col (lineText pieces).length⟩ := by
  -- From here on all is about the text: a cut at the offset gives its line and column.
  rw [← Text.lines_eq_splitOn]
  refine ⟨d.map_lineText_lines, fun k hk => ?_, fun line pieces hpieces => ?_⟩
  · obtain ⟨pre, line, post, col, h⟩ := Text.exists_lineAt hk
    have hline : d.text.lines[pre.length]? = some line := by simp [h.lines_eq]
    obtain ⟨pieces, hpieces, rfl⟩ := exists_pieces hline
    have hpre : d.text.lines.take pre.length = pre := by rw [h.lines_eq, List.take_left]
    have hback := Text.offsetAt_lineCol hk
    rw [h.lineCol_eq] at hback
    simp only [h.lineCol_eq, hpre]
    exact ⟨hback, (List.getElem?_eq_some_iff.mp hpieces).1, h.offset_eq, pieces, hpieces,
      h.col_le, h.lineBefore_eq.symm⟩
  · have hline : d.text.lines[line]? = some (lineText pieces) := by
      rw [← map_lineText_lines, List.getElem?_map, hpieces]
      rfl
    have hlt : line < d.text.lines.length := (List.getElem?_eq_some_iff.mp hline).1
    refine ⟨fun i hi => ?_, fun col => ⟨?_, Text.lineCol_offsetAt hline col⟩⟩
    · have := Text.linesLength_take_add_le
        (List.getElem?_eq_getElem (Nat.lt_of_le_of_lt hi hlt))
      omega
    · have := Text.linesLength_take_add_le hline
      rw [Text.offsetAt_eq_linesLength hline]
      omega

/-- A line of two runs between two newlines: its third column, and one past its end. -/
theorem lines_agree_across_runs :
    let d : Document := ⟨[⟨none, ['a', '\n']⟩, ⟨some .keyword, ['i', 'f']⟩, ⟨none, ['é', '\n']⟩]⟩
    (4 ≤ d.text.length ∧ d.text.lineCol 4 = ⟨1, 2⟩ ∧ d.text.offsetAt 1 2 = 4) ∧
      d.lines[1]? = some [⟨some .keyword, ['i', 'f'], 2⟩, ⟨none, ['é'], 4⟩] ∧
      d.text.lineCol (d.text.offsetAt 1 9) = ⟨1, 3⟩ := by
  intro d
  have hline : d.lines[1]? = some [⟨some .keyword, ['i', 'f'], 2⟩, ⟨none, ['é'], 4⟩] := by decide
  obtain ⟨-, hoffset, hplace⟩ := lines_agree d
  have hk : 4 ≤ d.text.length := by decide
  have hcol : d.text.lineCol 4 = ⟨1, 2⟩ := by decide
  refine ⟨⟨hk, hcol, ?_⟩, hline, ?_⟩
  · have hback := (hoffset 4 hk).1
    rwa [hcol] at hback
  · exact ((hplace 1 _ hline).2 9).2

end Document

end CodePad
