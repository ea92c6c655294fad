import CodePad.Editor.State
import CodePad.Proofs.Buffer.Flat
import CodePad.Proofs.Screen.Budget
import CodePad.Proofs.Text.Pad

/-!
The rows of a frame, each as the strip that draws it: the menu, the rows of the text area, the
mode line and the message line. A strip either fills its row or blanks what it does not fill. A row
of the text area has a strip unless writing its line ends the program.
-/

namespace CodePad

namespace Screen

open Command

variable (p : Platform) (d : Display) (size : Size) (b : Buffer) (scroll : Scroll)

/-- What is selected, if there is a selection and it is not a caret alone. -/
def selection? (b : Buffer) : Option Range := b.range.filter fun r => !r.isEmpty

/-- The columns in front of the lines of a buffer. -/
def margin (d : Display) (b : Buffer) : Nat := gutterWidth d.lineNumbers b.text.lines.length

/-- The columns behind the margin. -/
def room (d : Display) (size : Size) (b : Buffer) : Nat := size.cols.toNat - margin d b

lemma margin_eq : margin d b = gutterWidth d.lineNumbers b.document.lines.length := by
  rw [Document.length_lines]
  rfl

/-! ### What rows show -/

/-- A text in reversed colours that fills a row of `cols` columns. -/
def IsBar (m : Measure) (cols : Nat) (cs : List Command) : Prop :=
  ∃ t, cs = [.reverse true, .write t, .reverse false] ∧ m.width t = cols ∧ m.columns t = cols

/-- What stands in front of a line: if lines are numbered, its number, counted from one, with
blanks before it and one after it, in a character for each column of the margin. -/
def IsNumber (d : Display) (b : Buffer) (index : Nat) (cs : List Command) : Prop :=
  if d.lineNumbers then
    ∃ k, cs = faint (List.replicate k ' ' ++ Text.digits (index + 1) ++ [' ']) ∧
      k + (Text.digits (index + 1)).length + 1 = margin d b
  else cs = []

/-- A row that shows a line of the buffer, and is blank from there on. What it shows are the
line's pieces, characters of the line in their order. If widths add up, they are those that fit. -/
def ShowsLine (p : Platform) (d : Display) (size : Size) (b : Buffer) (index : Nat) (line : Text)
    (cs : List Command) : Prop :=
  ∃ number pieces shown,
    writeLine p d.theme (selection? b) (room d size b) pieces = some shown ∧
      cs = number ++ shown ++ [.clearToEndOfLine] ∧ IsNumber d b index number ∧
      b.document.lines[index]? = some pieces ∧ Piece.lineText pieces = line ∧
      (written shown).Sublist line ∧
      (LineAddsUp p.measure (selection? b) pieces →
        Fits p.measure id (room d size b) line (written shown))

/-- A row after the last line. -/
def filler (d : Display) (b : Buffer) : List Command :=
  (if d.lineNumbers then [.write (List.replicate (margin d b) ' ')] else []) ++ faint ['~'] ++
    [.clearToEndOfLine]

lemma isNumber_gutter {index : Nat} (h : index < b.text.lines.length) :
    IsNumber d b index (if d.lineNumbers then faint (gutter (margin d b) index) else []) := by
  unfold IsNumber
  split
  · next hon =>
    have hdigits := Text.length_digits_le (m := index + 1) (n := max b.text.lines.length 1)
      (by omega)
    have hmargin : margin d b = max (Text.digits (max b.text.lines.length 1)).length 3 + 1 :=
      if_pos hon
    refine ⟨margin d b - 1 - (Text.digits (index + 1)).length, rfl, ?_⟩
    omega
  · rfl

variable {p} in
lemma head_writeLine_ne_dim {theme : Theme} {selected : Option Range} {n : Nat}
    {line : List Piece} {cs : List Command} (hcs : writeLine p theme selected n line = some cs) :
    (cs ++ [Command.clearToEndOfLine]).head? ≠ some (.dim true) := by
  intro h
  rcases List.mem_append.mp (List.mem_of_mem_head? h) with h | h
  · exact (draws_writeLine hcs _ h).2 rfl
  · simp [Command.dim] at h

variable {p d size b} in
/-- No row that shows a line looks like one after the last line. -/
lemma ShowsLine.ne_filler {index : Nat} {line : Text} {cs : List Command}
    (h : ShowsLine p d size b index line cs) : cs ≠ filler d b := by
  obtain ⟨number, pieces, shown, hshown, rfl, hnumber, -⟩ := h
  unfold IsNumber at hnumber
  intro heq
  have hhead := congrArg List.head? heq
  split at hnumber
  · next hon =>
    obtain ⟨k, rfl, -⟩ := hnumber
    simp [filler, hon, faint, Command.dim] at hhead
  · next hoff =>
    subst hnumber
    rw [List.nil_append] at hhead
    refine head_writeLine_ne_dim hshown (hhead.trans ?_)
    simp [filler, hoff, faint]

/-! ### Strips -/

/-- What a row of the text area shows, if writing it does not end the program. -/
def content? (index : Nat) : Option (List Command) :=
  rowContent p d size (selection? b) b.document.lines index

def menuStrip : Strip := ⟨0, 0, (menuBar p size).tail⟩

/-- A row of the text area, counted from its first. Of one that is not written, it has only what
comes after. -/
def textStrip (row : Nat) : Strip :=
  ⟨1 + UInt16.ofNat row, 0,
    (content? p d size b (scroll.top + row)).getD [] ++ [.clearToEndOfLine]⟩

def modeStrip : Strip := ⟨size.rows - 2, 0, (modeLine p size (.ofBuffer b)).tail⟩

def messageStrip : Strip := ⟨size.rows - 1, 0, (messageLine p size d.message).tail⟩

/-! ### What the strips show -/

variable {p d size b scroll}

lemma isBar_pad (h : p.measure.Ascii) {t : Text} (ht : t.Printable) {fill : Char}
    (hfill : Text.IsPrintable fill) (n : Nat) :
    IsBar p.measure n [.reverse true, .write (p.measure.pad n fill t), .reverse false] :=
  ⟨_, rfl, h.width_pad ht hfill n,
    (Measure.filledUp_pad (h.addsUp ht) (h.charWidth_eq hfill) n).columns⟩

lemma printable_menuText : menuText.Printable := by decide +kernel

lemma printable_status (s : Status) : s.text.Printable := by
  have hswitch : Text.Printable (if s.highlighting then "on " else "off ").toList := by
    cases s.highlighting <;> decide +kernel
  have hoffset : Text.Printable (s.offset.elim ['-'] Text.digits) := by
    cases s.offset with
    | none => decide +kernel
    | some k => exact Text.printable_digits k
  have hdigits := Text.printable_digits
  unfold Status.text
  -- Numbers with a word in front of each; the words are left over.
  refine .append (.append (.append (.append (.append (.append (.append (.append (.append ?_
    (hdigits _)) ?_) (hdigits _)) ?_) hoffset) ?_) (hdigits _)) ?_) hswitch
  all_goals decide +kernel

lemma isBar_menuStrip (h : p.measure.Ascii) :
    IsBar p.measure size.cols.toNat (menuStrip p size).commands :=
  isBar_pad h printable_menuText (by decide) _

lemma isBar_modeStrip (h : p.measure.Ascii) :
    IsBar p.measure size.cols.toNat (modeStrip p size b).commands :=
  isBar_pad h (printable_status _) (by decide) _

lemma stay_bar (t : Text) : Stay [.reverse true, .write t, .reverse false] := by
  simp [Stay, isMove, Command.reverse]

lemma stay_faint (t : Text) : Stay (faint t) := by simp [Stay, isMove, faint, Command.dim]

lemma stay_clear : Stay [.clearToEndOfLine] := by decide

lemma stay_number (index : Nat) :
    Stay (if d.lineNumbers then faint (gutter (margin d b) index) else []) := by
  split
  · exact stay_faint _
  · exact nofun

/-- A row shows the line with its index, if there is one. -/
lemma content?_of_line {index : Nat} {pieces : List Piece}
    (h : b.document.lines[index]? = some pieces) :
    content? p d size b index =
      (writeLine p d.theme (selection? b) (room d size b) pieces).map
        ((if d.lineNumbers then faint (gutter (margin d b) index) else []) ++ ·) := by
  simp only [content?, rowContent, h, room, margin_eq]
  cases writeLine p d.theme (selection? b) _ pieces <;> rfl

/-- The rows after the last line are always written. -/
lemma content?_of_no_line {index : Nat} (h : b.document.lines[index]? = none) :
    content? p d size b index =
      some ((if d.lineNumbers then [.write (List.replicate (margin d b) ' ')] else []) ++
        faint ['~']) := by
  simp only [content?, rowContent, h, margin_eq]
  rfl

lemma content?_eq_none_iff {index : Nat} : content? p d size b index = none ↔
    ∃ pieces, b.document.lines[index]? = some pieces ∧
      writeLine p d.theme (selection? b) (room d size b) pieces = none := by
  cases h : b.document.lines[index]? with
  | none => simp [content?_of_no_line h]
  | some pieces => simp [content?_of_line h]

lemma stay_content? {index : Nat} {cs : List Command} (h : content? p d size b index = some cs) :
    Stay cs := by
  cases hline : b.document.lines[index]? with
  | none =>
    rw [content?_of_no_line hline, Option.some.injEq] at h
    subst h
    refine Stay.append ?_ (stay_faint _)
    split <;> simp [Stay, isMove]
  | some pieces =>
    rw [content?_of_line hline, Option.map_eq_some_iff] at h
    obtain ⟨shown, hshown, rfl⟩ := h
    exact (stay_number index).append fun c hc => (draws_writeLine hshown c hc).1

lemma stay_textStrip (row : Nat) : Stay (textStrip p d size b scroll row).commands := by
  refine Stay.append ?_ stay_clear
  cases h : content? p d size b (scroll.top + row) with
  | none => exact nofun
  | some cs => exact stay_content? h

lemma commands_textStrip {row : Nat} {pieces : List Piece} {shown : List Command}
    (h : b.document.lines[scroll.top + row]? = some pieces)
    (hshown : writeLine p d.theme (selection? b) (room d size b) pieces = some shown) :
    (textStrip p d size b scroll row).commands =
      (if d.lineNumbers then faint (gutter (margin d b) (scroll.top + row)) else []) ++ shown ++
        [.clearToEndOfLine] := by
  rw [textStrip, content?_of_line h, hshown]
  rfl

/-- The pieces of a line that a row shows, and the commands that write them. -/
lemma exists_writeLine_of_content? {index : Nat} {line : Text}
    (h : b.text.lines[index]? = some line) (hrow : content? p d size b index ≠ none) :
    ∃ pieces shown, b.document.lines[index]? = some pieces ∧ Piece.lineText pieces = line ∧
      writeLine p d.theme (selection? b) (room d size b) pieces = some shown := by
  obtain ⟨pieces, hpieces, hline⟩ := Document.exists_pieces h
  have hwritten : writeLine p d.theme (selection? b) (room d size b) pieces ≠ none :=
    fun hnone => hrow (content?_eq_none_iff.mpr ⟨pieces, hpieces, hnone⟩)
  obtain ⟨shown, hshown⟩ := Option.ne_none_iff_exists'.mp hwritten
  exact ⟨pieces, shown, hpieces, hline, hshown⟩

lemma showsLine_textStrip {row : Nat} {line : Text}
    (h : b.text.lines[scroll.top + row]? = some line)
    (hrow : content? p d size b (scroll.top + row) ≠ none) :
    ShowsLine p d size b (scroll.top + row) line (textStrip p d size b scroll row).commands := by
  have hlt : scroll.top + row < b.text.lines.length := (List.getElem?_eq_some_iff.mp h).1
  obtain ⟨pieces, shown, hpieces, rfl, hshown⟩ := exists_writeLine_of_content? h hrow
  obtain ⟨hsublist, hfits⟩ := written_writeLine hshown
  exact ⟨_, pieces, shown, hshown, commands_textStrip hpieces hshown, isNumber_gutter d b hlt,
    hpieces, rfl, hsublist, hfits⟩

lemma textStrip_eq_filler {row : Nat} (h : b.text.lines.length ≤ scroll.top + row) :
    (textStrip p d size b scroll row).commands = filler d b := by
  have hnone : b.document.lines[scroll.top + row]? = none := by
    rw [List.getElem?_eq_none_iff, Document.length_lines]
    exact h
  rw [textStrip, content?_of_no_line hnone]
  rfl

lemma textStrip_eq_filler_iff {row : Nat} (hrow : content? p d size b (scroll.top + row) ≠ none) :
    (textStrip p d size b scroll row).commands = filler d b ↔
      b.text.lines.length ≤ scroll.top + row := by
  refine ⟨fun heq => ?_, textStrip_eq_filler⟩
  by_contra hlt
  have hline := List.getElem?_eq_getElem (Nat.lt_of_not_le hlt)
  exact (showsLine_textStrip hline hrow).ne_filler heq

lemma messageStrip_stay_getLast : Stay (messageStrip p d size).commands ∧
    (messageStrip p d size).commands.getLast? = some .clearToEndOfLine := by
  refine ⟨Stay.append ?_ stay_clear, List.getLast?_concat⟩
  cases d.message <;> simp [Stay, isMove]

end Screen

end CodePad
