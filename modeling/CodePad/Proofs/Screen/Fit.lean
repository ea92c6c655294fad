import CodePad.Proofs.Editor.Plain
import CodePad.Proofs.Screen.Frame

/-!
Rows of the text area that fit the window. The text of a line is cut to the columns that its
number leaves, and goes no further if these are counted right. But the number itself is not cut, and
neither is the sign that stands in the rows after the last line; so on a window that is too narrow
for them these rows are too long.
-/

namespace CodePad

namespace Screen

open Command

/-- The rows of the text area are written in the first `n` columns. -/
def TextWithin (m : Measure) (n : Nat) (size : Size) (cs : List Command) : Prop :=
  ∀ s ∈ strips cs, 1 ≤ s.row.toNat → s.row.toNat ≤ size.rows.toNat - 3 →
    m.columns (written s.commands) ≤ n

/-- What is written of the lines in view goes no further than the right margin. -/
def LinesWithin (p : Platform) (d : Display) (size : Size) (b : Buffer) (scroll : Scroll) : Prop :=
  ∀ i < scroll.height, ∀ pieces shown, b.document.lines[scroll.top + i]? = some pieces →
    writeLine p d.theme (selection? b) (room d size b) pieces = some shown →
      p.measure.columns (written shown) ≤ room d size b

/-- No line in view takes more columns than are counted for it. -/
def LinesCounted (p : Platform) (d : Display) (size : Size) (b : Buffer) (scroll : Scroll) : Prop :=
  ∀ i < scroll.height, ∀ pieces, b.document.lines[scroll.top + i]? = some pieces →
    StaysWithin p.measure (room d size b) (lineParts (selection? b) pieces)

variable {p : Platform} {d : Display} {size : Size} {b : Buffer} {scroll : Scroll}

lemma LinesCounted.linesWithin (h : LinesCounted p d size b scroll) :
    LinesWithin p d size b scroll :=
  fun i hi pieces _ hpieces hshown => columns_writeLine_le (h i hi pieces hpieces) hshown

/-- Lines are counted right if the widths of their characters add up. -/
lemma linesCounted_of_additive {A : Char → Prop} (h : p.measure.Additive A)
    (ht : ∀ c ∈ b.text, A c) : LinesCounted p d size b scroll := by
  intro i hi pieces hpieces
  have hline : Piece.lineText pieces ∈ b.text.lines := by
    rw [Buffer.text, ← Document.map_lineText_lines]
    exact List.mem_map_of_mem (List.mem_of_getElem? hpieces)
  exact staysWithin_of_addsUp
    (lineAddsUp_of_additive h fun c hc => ht c (Text.subset_of_mem_lines hline hc))

lemma margin_of_no_lineNumbers (h : d.lineNumbers = false) : margin d b = 0 := by
  rw [margin, gutterWidth, h]
  rfl

/-! ### How far rows go -/

lemma written_faint (t : Text) : written (faint t) = t := by simp [faint, written, dim]

section

variable (h : p.measure.Ascii)

include h

lemma columns_replicate_blank (n : Nat) : p.measure.columns (List.replicate n ' ') = n := by
  rw [h.columns_eq (.replicate (by decide) n), List.length_replicate]

/-- The number of a line takes the columns of the margin. -/
lemma IsNumber.columns {index : Nat} {cs : List Command} (hcs : IsNumber d b index cs) :
    p.measure.columns (written cs) = margin d b := by
  unfold IsNumber at hcs
  split at hcs
  · obtain ⟨k, rfl, hk⟩ := hcs
    have hdigits := h.columns_eq (Text.printable_digits (index + 1))
    have hblank : p.measure.columns [' '] = 1 := h.columns_eq (by decide)
    rw [written_faint, Measure.columns_append, Measure.columns_append, columns_replicate_blank h,
      hdigits, hblank, hk]
  · next hoff =>
    rw [hcs, margin_of_no_lineNumbers (by simpa using hoff)]
    rfl

/-- A row that shows a line has its number in the margin, and then what is written of it. -/
lemma columns_textStrip_of_line {i : Nat} {pieces : List Piece} {shown : List Command}
    (hpieces : b.document.lines[scroll.top + i]? = some pieces)
    (hshown : writeLine p d.theme (selection? b) (room d size b) pieces = some shown) :
    p.measure.columns (written (textStrip p d size b scroll i).commands) =
      margin d b + p.measure.columns (written shown) := by
  have hindex : scroll.top + i < b.text.lines.length := by
    rw [Buffer.text, ← Document.length_lines]
    exact (List.getElem?_eq_some_iff.mp hpieces).1
  have hclear : written [.clearToEndOfLine] = [] := rfl
  rw [commands_textStrip hpieces hshown, written_append, written_append, hclear, List.append_nil,
    Measure.columns_append, IsNumber.columns h (isNumber_gutter d b hindex)]

lemma columns_filler (d : Display) (b : Buffer) :
    p.measure.columns (written (filler d b)) = margin d b + 1 := by
  have hsign : p.measure.columns (written (faint ['~'] ++ [.clearToEndOfLine])) = 1 :=
    h.columns_eq (t := ['~']) (by decide)
  rw [filler, List.append_assoc, written_append, Measure.columns_append, hsign]
  split
  · rw [written_cons_write, written_nil, List.append_nil, columns_replicate_blank h]
  · next hoff => rw [margin_of_no_lineNumbers (by simpa using hoff)]; rfl

lemma columns_textStrip_of_no_line {i : Nat} (hi : b.text.lines.length ≤ scroll.top + i) :
    p.measure.columns (written (textStrip p d size b scroll i).commands) = margin d b + 1 := by
  rw [textStrip_eq_filler hi, columns_filler h]

/-- A row that shows a line goes no further than the right margin, or than the left one if this
takes up all columns. -/
lemma columns_textStrip_le (hall : AllWritten p d size b scroll)
    (hlines : LinesWithin p d size b scroll) {i : Nat} (hi : i < scroll.height)
    (hindex : scroll.top + i < b.text.lines.length) :
    p.measure.columns (written (textStrip p d size b scroll i).commands) ≤
      max (margin d b) size.cols.toNat := by
  obtain ⟨pieces, shown, hpieces, -, hshown⟩ :=
    exists_writeLine_of_content? (List.getElem?_eq_getElem hindex) (hall i hi)
  have hshort : p.measure.columns (written shown) ≤ size.cols.toNat - margin d b :=
    hlines i hi pieces shown hpieces hshown
  rw [columns_textStrip_of_line h hpieces hshown]
  omega

end

/-! ### Frames -/

section

-- The text area has all rows but three.
variable (hrows : size.rows.toNat = scroll.height + 3)

include hrows

lemma textWithin_frame_iff {n : Nat} :
    TextWithin p.measure n size (frameCommands p d size b scroll) ↔ ∀ i < scroll.height,
      p.measure.columns (written (textStrip p d size b scroll i).commands) ≤ n := by
  rw [TextWithin, strips_frame]
  constructor
  · intro h i hi
    have hrow := row_textStrip (p := p) (d := d) (b := b) hrows hi
    exact h _ (List.mem_append_left _ (mem_rowStrips.mpr (Or.inr (Or.inl ⟨i, hi, rfl⟩))))
      (by omega) (by omega)
  · intro h s hs hfirst hlast
    rcases List.mem_append.mp hs with hs | hs
    · rw [eq_textStrip hrows hs (i := s.row.toNat - 1) (by omega) (by omega)]
      exact h _ (by omega)
    · -- The strip for the cursor may lie in one of these rows, but writes nothing.
      rw [List.mem_singleton.mp hs]
      exact Nat.zero_le n

variable (h : p.measure.Ascii) (hall : AllWritten p d size b scroll)

include h hall

/-- A frame in which a line is shown fits exactly if its lines go no further than the right margin
and the left one fits, together with the sign of the rows after the last line if there are any. -/
lemma textWithin_cols_frame_iff {line : Nat} (hline : line < b.text.lines.length)
    (htop : scroll.top ≤ line) (hlt : line < scroll.top + scroll.height) :
    TextWithin p.measure size.cols.toNat size (frameCommands p d size b scroll) ↔
      margin d b ≤ size.cols.toNat ∧
        (b.text.lines.length < scroll.top + scroll.height → margin d b < size.cols.toNat) ∧
        LinesWithin p d size b scroll := by
  rw [textWithin_frame_iff hrows]
  constructor
  · intro hwithin
    -- The margin stands in front of a line in any case: the frame shows at least this one.
    have hmargin : margin d b ≤ size.cols.toNat := by
      have hindex := List.getElem?_eq_getElem
        (show scroll.top + (line - scroll.top) < b.text.lines.length by omega)
      obtain ⟨pieces, shown, hpieces, -, hshown⟩ :=
        exists_writeLine_of_content? hindex (hall _ (by omega))
      have hrow := hwithin (line - scroll.top) (by omega)
      rw [columns_textStrip_of_line h hpieces hshown] at hrow
      omega
    refine ⟨hmargin, fun hfiller => ?_, fun i hi pieces shown hpieces hshown => ?_⟩
    · have hrow := hwithin (b.text.lines.length - scroll.top) (by omega)
      rw [columns_textStrip_of_no_line h (by omega)] at hrow
      omega
    · have hrow := hwithin i hi
      rw [columns_textStrip_of_line h hpieces hshown] at hrow
      unfold room
      omega
  · rintro ⟨hmargin, hfiller, hlines⟩ i hi
    by_cases hindex : scroll.top + i < b.text.lines.length
    · have hrow := columns_textStrip_le h hall hlines hi hindex
      omega
    · have hsign := hfiller (by omega)
      rw [columns_textStrip_of_no_line h (by omega)]
      omega

lemma textWithin_max_frame (hlines : LinesWithin p d size b scroll) :
    TextWithin p.measure (max size.cols.toNat (margin d b + 1)) size
      (frameCommands p d size b scroll) := by
  rw [textWithin_frame_iff hrows]
  intro i hi
  by_cases hindex : scroll.top + i < b.text.lines.length
  · have hrow := columns_textStrip_le h hall hlines hi hindex
    omega
  · rw [columns_textStrip_of_no_line h (by omega)]
    omega

end

end Screen

namespace Editor

open Screen

/-- **The rows of the text area fit the window exactly if what is not cut fits, and what is cut.**
Not cut are the margin with the number of the line and, if rows after the last line are in view, the
sign that stands in these behind the margin. What is cut fits if the columns of the lines are
counted right, as they are in a text of characters whose widths add up; then, without line numbers,
all rows fit, and in any case they do not go further than the window or the margin with the sign. -/
theorem render_textWithin_iff (p : Platform) (hascii : p.measure.Ascii) (e : Editor) (size : Size) :
    let scroll := e.scrollToCaret size
    let m := margin e.display e.buffer
    if 4 ≤ size.rows.toNat ∧ 1 ≤ size.cols.toNat then
      (∀ cs e', e.render p size = some (cs, e') →
        (TextWithin p.measure size.cols.toNat size cs ↔
          m ≤ size.cols.toNat ∧
            (e.buffer.text.lines.length < scroll.top + textRows size → m < size.cols.toNat) ∧
            LinesWithin p e.display size e.buffer scroll) ∧
        (LinesCounted p e.display size e.buffer scroll →
          LinesWithin p e.display size e.buffer scroll ∧
            (e.display.lineNumbers = false → TextWithin p.measure size.cols.toNat size cs) ∧
            TextWithin p.measure (max size.cols.toNat (m + 1)) size cs)) ∧
      ∀ A, p.measure.Additive A → (∀ c ∈ e.buffer.text, A c) →
        LinesCounted p e.display size e.buffer scroll
    else e.render p size = some ([], e) := by
  intro scroll m
  split
  · next h =>
    refine ⟨fun cs e' hrender => ?_, fun A hA ht => linesCounted_of_additive hA ht⟩
    obtain ⟨hall, rfl, -⟩ := (e.render_eq_some_iff p h).mp hrender
    have htext : textRows size = size.rows.toNat - 3 := rfl
    have hrows := e.rows_eq_height_scrollToCaret h
    obtain ⟨hheight, htop, hline⟩ := e.scrollToCaret_spec (show 0 < textRows size by omega)
    have hiff := textWithin_cols_frame_iff hrows hascii hall e.buffer.caretPlace_line_lt htop
      (hheight ▸ hline)
    rw [hheight] at hiff
    refine ⟨hiff, fun hcounted => ⟨hcounted.linesWithin, fun hoff => ?_, ?_⟩⟩
    · have hmargin : m = 0 := margin_of_no_lineNumbers hoff
      exact hiff.mpr ⟨by omega, fun _ => by omega, hcounted.linesWithin⟩
    · exact textWithin_max_frame hrows hascii hall hcounted.linesWithin
  · next h => exact e.render_of_no_room p h

/-- A new buffer without line numbers, on a terminal of a single column. -/
theorem render_textWithin_column :
    let e := ({} : Settings).editor
    let size : Size := ⟨5, 1⟩
    Measure.unicode.Ascii ∧ ∃ cs e', e.render .standard size = some (cs, e') ∧
      TextWithin .unicode size.cols.toNat size cs := by
  intro e size
  have htext : e.buffer.text = [] := congrArg (·.flat.text) (Settings.plain_editor _)
  have hrows := render_textWithin_iff .standard Measure.ascii_unicode e size
  rw [if_pos (by decide)] at hrows
  obtain ⟨hfits, hcounted⟩ := hrows
  obtain ⟨⟨cs, e'⟩, hrender⟩ := Editor.exists_render Platform.neverStops_standard e size
  have hlines := hcounted _ Measure.additive_unicode (by simp [htext])
  exact ⟨Measure.ascii_unicode, cs, e', hrender, ((hfits cs e' hrender).2 hlines).2.1 rfl⟩

/-- An empty text with line numbers on a window of three columns: the number of its line takes
four. -/
theorem render_overflows_narrow :
    let e := ({ showLineNumbers := true } : Settings).editor
    let size : Size := ⟨5, 3⟩
    ∃ cs e', e.render .standard size = some (cs, e') ∧
      ¬ TextWithin .unicode size.cols.toNat size cs := by
  intro e size
  have htext : e.buffer.text = [] := congrArg (·.flat.text) (Settings.plain_editor _)
  have hmargin : margin e.display e.buffer = 4 := by
    rw [margin, htext]
    decide
  have hroom : 4 ≤ size.rows.toNat ∧ 1 ≤ size.cols.toNat := by decide
  obtain ⟨⟨cs, e'⟩, hrender⟩ := Editor.exists_render Platform.neverStops_standard e size
  obtain ⟨hall, rfl, -⟩ := (e.render_eq_some_iff .standard hroom).mp hrender
  have htextRows : 0 < textRows size := by decide
  obtain ⟨hheight, htop, hline⟩ := e.scrollToCaret_spec htextRows
  refine ⟨_, e', hrender, fun hwithin => ?_⟩
  have hfits := (textWithin_cols_frame_iff (e.rows_eq_height_scrollToCaret hroom)
    Measure.ascii_unicode hall e.buffer.caretPlace_line_lt htop (hheight ▸ hline)).mp hwithin
  rw [hmargin] at hfits
  exact absurd hfits.1 (by decide)

end Editor

end CodePad
