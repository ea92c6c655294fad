import CodePad.Proofs.Editor.Plain
import CodePad.Proofs.Terminal.Strips
import CodePad.Proofs.Text.Width

/-!
What the mode line says about the place of the caret: its line and column, and an offset. The
numbers can be read back from the text. The line and the column are those of the caret, but the
offset is that of the later end of the selection; so they name the same place only if the caret is
at that end.
-/

namespace CodePad

namespace Text

lemma digits_inj {m n : Nat} (h : digits m = digits n) : m = n := by
  have hread : ∀ k : Nat, Nat.ofDigitChars 10 (digits k) 0 = k := fun k =>
    Nat.ofDigitChars_toDigits (by decide) (by decide)
  rw [← hread m, h, hread n]

/-- A number can be read back from a text if what comes after it is not one more digit. -/
lemma digits_append_inj {m n : Nat} {c d : Char} {t u : Text} (hc : c.isDigit = false)
    (hd : d.isDigit = false) (h : digits m ++ c :: t = digits n ++ d :: u) :
    m = n ∧ c :: t = d :: u := by
  have hfront : ∀ (k : Nat) (e : Char) (v : Text), e.isDigit = false →
      (digits k ++ e :: v).takeWhile Char.isDigit = digits k := by
    intro k e v he
    rw [List.takeWhile_append_of_pos fun _ => isDigit_of_mem_digits,
      List.takeWhile_cons_of_neg (by simp [he]), List.append_nil]
  have hdigits : digits m = digits n := by rw [← hfront m c t hc, h, hfront n d u hd]
  rw [hdigits] at h
  exact ⟨digits_inj hdigits, List.append_cancel_left h⟩

end Text

namespace Status

open Text

/-- A text of the mode line that gives the line and the column of the caret, counted from one, and
an offset. -/
def Says (t : Text) (line col offset : Nat) : Prop :=
  ∃ rest, t = "-- bracepad: *untitled* L".toList ++ digits line ++ ":C".toList ++ digits col ++
    " @".toList ++ digits offset ++ ' ' :: rest

variable {s : Status} {k : Nat}

lemma says_text (h : s.offset = some k) :
    Says s.text (s.place.line + 1) (s.place.col + 1) k := by
  have hspans : " spans:".toList = ' ' :: "spans:".toList := by decide
  unfold Says text
  refine ⟨"spans:".toList ++ (digits s.tokens ++ (" hl:".toList ++
    (if s.highlighting then "on " else "off ").toList)), ?_⟩
  simp only [h, Option.elim_some, hspans, List.append_assoc, List.cons_append]

/-- The numbers of a text that says something can be read back. -/
lemma Says.unique {t : Text} {line line' col col' offset offset' : Nat}
    (h : Says t line col offset) (h' : Says t line' col' offset') :
    line = line' ∧ col = col' ∧ offset = offset' := by
  have hcol : ":C".toList = [':', 'C'] := by decide
  have hoffset : " @".toList = [' ', '@'] := by decide
  obtain ⟨rest, rfl⟩ := h
  obtain ⟨rest', h'⟩ := h'
  simp only [hcol, hoffset, List.append_assoc, List.cons_append, List.nil_append] at h'
  obtain ⟨hline, h'⟩ := digits_append_inj (by decide) (by decide) (List.append_cancel_left h')
  simp only [List.cons.injEq, true_and] at h'
  obtain ⟨hcol, h'⟩ := digits_append_inj (by decide) (by decide) h'
  simp only [List.cons.injEq, true_and] at h'
  obtain ⟨hoffset, -⟩ := digits_append_inj (by decide) (by decide) h'
  exact ⟨hline, hcol, hoffset⟩

lemma says_text_iff (h : s.offset = some k) {line col offset : Nat} :
    Says s.text line col offset ↔
      line = s.place.line + 1 ∧ col = s.place.col + 1 ∧ offset = k := by
  constructor
  · intro hread
    exact hread.unique (says_text h)
  · rintro ⟨rfl, rfl, rfl⟩
    exact says_text h

end Status

namespace Buffer

/-- The later end of the selection is in the place of the caret exactly if it is the caret. -/
lemma lineCol_stop_iff (b : Buffer) :
    b.text.lineCol b.flat.stop = b.text.lineCol b.focusOffset ↔ b.anchorOffset ≤ b.focusOffset := by
  constructor
  · intro h
    have hstop := Text.offsetAt_lineCol b.flat_stop_le
    have hfocus := Text.offsetAt_lineCol b.focusOffset_le
    have heq : b.flat.stop = b.focusOffset := by
      rw [← hfocus, ← h]
      exact hstop.symm
    exact Nat.le_trans (Nat.le_max_left _ _) (Nat.le_of_eq heq)
  · intro h
    have heq : b.flat.stop = b.focusOffset := Nat.max_eq_right h
    rw [heq]

variable {b : Buffer}

lemma offset_ofBuffer (h : b.HasCaret) : (Status.ofBuffer b).offset = some b.flat.stop :=
  congrArg (Option.map Range.stop) (range_eq h)

end Buffer

namespace Settings

open Command

/-- **The mode line is consistent exactly if the caret is not in front of the other end of the
selection.** Whatever has happened to an editor, its mode line gives one line, one column and one
offset. The line and the column are those of the caret. The offset is in that place if the caret is
where the selection ends, and in another place if it is where the selection begins. -/
theorem modeLine_consistent_iff (p : Platform) (s : Settings) (steps : List Editor.Step)
    (size : Size) (e : Editor) (h : s.editor.run p steps = some e) :
    let b := e.buffer
    let t := (Status.ofBuffer b).text
    written (Screen.modeLine p size (.ofBuffer b)) = p.measure.pad size.cols.toNat '-' t ∧
      ∃ line col offset,
        (∀ line' col' offset', Status.Says t line' col' offset' ↔
          line' = line + 1 ∧ col' = col + 1 ∧ offset' = offset) ∧
        b.caretLineCol = some ⟨line, col⟩ ∧ b.text.lineCol b.focusOffset = ⟨line, col⟩ ∧
        (b.text.lineCol offset = ⟨line, col⟩ ↔ b.anchorOffset ≤ b.focusOffset) := by
  intro b t
  have hwritten : written (Screen.modeLine p size (.ofBuffer b)) =
      p.measure.pad size.cols.toNat '-' t := List.append_nil _
  have hcaret : b.HasCaret := (Editor.plain_run s.hasCaret_editor h).1
  have hplace : b.text.lineCol b.focusOffset = b.caretPlace := b.caretPlace_eq.symm
  refine ⟨hwritten, b.caretPlace.line, b.caretPlace.col, b.flat.stop, fun _ _ _ => ?_, ?_, hplace,
    ?_⟩
  · exact Status.says_text_iff (Buffer.offset_ofBuffer hcaret)
  · exact Buffer.caretLineCol_eq hcaret
  · rw [← b.lineCol_stop_iff, hplace]

/-- A letter and a line break: the mode line gives the start of the second line, and an offset that
is in this place. -/
theorem modeLine_consistent_enter :
    ∃ e offset,
      ({} : Settings).editor.run .standard [.event (.insert 'a'), .event .enter] = some e ∧
      Status.Says (Status.ofBuffer e.buffer).text 2 1 offset ∧
      e.buffer.text.lineCol offset = ⟨1, 0⟩ := by
  obtain ⟨e, he⟩ := Editor.exists_run Platform.neverStops_standard ({} : Settings).editor
    [.event (.insert 'a'), .event .enter]
  obtain ⟨-, hplain⟩ := Editor.plain_run (Settings.hasCaret_editor _) he
  rw [plain_editor] at hplain
  have hflat : e.buffer.flat = ⟨['a', '\n'], 2, 2, none⟩ := congrArg PlainEditor.flat hplain
  have htext : e.buffer.text = ['a', '\n'] := congrArg FlatBuffer.text hflat
  have hanchor : e.buffer.anchorOffset = 2 := congrArg FlatBuffer.anchor hflat
  have hfocus : e.buffer.focusOffset = 2 := congrArg FlatBuffer.focus hflat
  obtain ⟨-, line, col, offset, hread, -, hplace, hoffset⟩ :=
    modeLine_consistent_iff .standard {} _ ⟨24, 80⟩ e he
  rw [htext, hfocus] at hplace
  obtain ⟨rfl, rfl⟩ := LineCol.mk.inj hplace
  exact ⟨e, offset, he, (hread 2 1 offset).mpr ⟨rfl, rfl, rfl⟩,
    hoffset.mpr (by rw [hanchor, hfocus])⟩

/-- The second of two letters is selected from its end: the caret is in the second column, and the
mode line gives this column and the offset behind it. -/
theorem modeLine_gives_other_place :
    ∃ e, ({} : Settings).editor.run .standard
        [.event (.insert 'a'), .event (.insert 'b'), .event (.move .left true)] = some e ∧
      Status.Says (Status.ofBuffer e.buffer).text 1 2 2 ∧
      e.buffer.text.lineCol 2 ≠ ⟨1 - 1, 2 - 1⟩ := by
  obtain ⟨e, he⟩ := Editor.exists_run Platform.neverStops_standard ({} : Settings).editor
    [.event (.insert 'a'), .event (.insert 'b'), .event (.move .left true)]
  obtain ⟨hcaret, hplain⟩ := Editor.plain_run (Settings.hasCaret_editor _) he
  rw [plain_editor] at hplain
  have hflat : e.buffer.flat = ⟨['a', 'b'], 2, 1, none⟩ := congrArg PlainEditor.flat hplain
  have htext : e.buffer.text = ['a', 'b'] := congrArg FlatBuffer.text hflat
  have hfocus : e.buffer.focusOffset = 1 := congrArg FlatBuffer.focus hflat
  have hplace : e.buffer.caretPlace = ⟨0, 1⟩ := by
    rw [Buffer.caretPlace_eq, htext, hfocus]
    rfl
  have hstop : e.buffer.flat.stop = 2 := by
    rw [hflat]
    rfl
  have hoffset := Buffer.offset_ofBuffer hcaret
  refine ⟨e, he, (Status.says_text_iff hoffset).mpr ⟨?_, ?_, hstop.symm⟩, ?_⟩
  · exact congrArg (·.line + 1) hplace.symm
  · exact congrArg (·.col + 1) hplace.symm
  · rw [htext]
    decide

end Settings

end CodePad
