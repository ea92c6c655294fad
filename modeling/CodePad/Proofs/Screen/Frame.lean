import CodePad.Proofs.Screen.Rows
import CodePad.Proofs.Scroll
import CodePad.Settings.Basic

/-!
A frame repaints the whole screen. It has a strip for each row, in the order of the rows. A strip
begins in the first column, and either fills its row or blanks what it does not fill, so that
nothing of an earlier frame is left. One more strip puts the cursor where the caret is, which is
always in the text area. There is no frame exactly if the columns of a line in view run out while
arithmetic is checked.
-/

namespace CodePad

namespace Screen

open Command

section

variable {α β : Type} {f : α → Option β} {l : List α}

lemma mapM_eq_some_map {g : α → β} (h : ∀ a ∈ l, f a = some (g a)) :
    l.mapM f = some (l.map g) := by
  induction l with
  | nil => rfl
  | cons a l ih =>
    rw [List.forall_mem_cons] at h
    rw [List.mapM_cons, h.1, ih h.2]
    rfl

lemma mapM_eq_none_iff : l.mapM f = none ↔ ∃ a ∈ l, f a = none := by
  induction l with
  | nil => simp
  | cons a l ih =>
    rw [List.mapM_cons, List.exists_mem_cons_iff, ← ih]
    cases f a with
    | none => simp
    | some x => cases l.mapM f <;> simp

end

variable (p : Platform) (d : Display) (size : Size) (b : Buffer) (scroll : Scroll)

/-- The strips of the rows, from the first row to the last. -/
def rowStrips : List Strip :=
  menuStrip p size :: (List.range scroll.height).map (textStrip p d size b scroll) ++
    [modeStrip p size b, messageStrip p d size]

/-- The strip that leaves the cursor where the caret is. -/
def caretStrip : Strip :=
  ⟨1 + UInt16.ofNat (b.caretPlace.line - scroll.top),
    UInt16.ofNat (min (margin d b + p.measure.columns (b.text.lineBefore b.focusOffset))
      (size.cols.toNat - 1)),
    [.showCursor true]⟩

/-- What a frame does before it moves the cursor. -/
def opening : List Command := [.showCursor false] ++ if d.redraw then [.clearScreen] else []

/-- All that a frame does. -/
def frameCommands : List Command :=
  opening d ++ (rowStrips p d size b scroll ++ [caretStrip p d size b scroll]).flatMap
    Strip.toCommands

/-- All rows of the text area can be written. -/
def AllWritten : Prop := ∀ i < scroll.height, content? p d size b (scroll.top + i) ≠ none

/-- What stands before the caret on its line, found in the pieces of the line. -/
lemma take_lineText_caret :
    (Piece.lineText (b.document.lines[b.caretPlace.line]?.getD [])).take b.caretPlace.col =
      b.text.lineBefore b.focusOffset := by
  obtain ⟨pre, line, post, col, h⟩ := Text.exists_lineAt b.focusOffset_le
  have hline : b.document.text.lines[pre.length]? = some line :=
    (congrArg (·[pre.length]?) h.lines_eq).trans (by simp)
  obtain ⟨pieces, hpieces, rfl⟩ := Document.exists_pieces hline
  rw [Buffer.caretPlace_eq, h.lineCol_eq, h.lineBefore_eq, hpieces]
  rfl

lemma textRow_eq (i : Nat) :
    textRow p d size (selection? b) scroll.top b.document.lines i =
      (content? p d size b (scroll.top + i)).map
        fun _ => (textStrip p d size b scroll i).toCommands := by
  simp only [textRow, textStrip, content?]
  cases rowContent p d size (selection? b) b.document.lines (scroll.top + i) <;> rfl

variable {p d size b scroll}

lemma frame_eq (h : AllWritten p d size b scroll) :
    frame p d size b scroll = some (frameCommands p d size b scroll) := by
  have htext : (List.range scroll.height).mapM
      (textRow p d size (selection? b) scroll.top b.document.lines) =
        some ((List.range scroll.height).map fun i =>
          (textStrip p d size b scroll i).toCommands) := by
    refine mapM_eq_some_map fun i hi => ?_
    obtain ⟨cs, hcs⟩ := Option.ne_none_iff_exists'.mp (h i (List.mem_range.mp hi))
    rw [textRow_eq, hcs, Option.map_some]
  have hrows : ((List.range scroll.height).map fun i =>
      (textStrip p d size b scroll i).toCommands).flatten =
        ((List.range scroll.height).map (textStrip p d size b scroll)).flatMap
          Strip.toCommands := by
    rw [List.flatMap_map]
    rfl
  have hcaret : [placeCursor p d size b.caretPlace scroll.top b.document.lines,
      .showCursor true] = (caretStrip p d size b scroll).toCommands := by
    rw [caretStrip, ← take_lineText_caret, margin_eq]
    rfl
  simp only [frameCommands, rowStrips, List.flatMap_append, List.flatMap_cons, List.flatMap_nil,
    List.append_nil, ← hrows, ← hcaret, List.cons_append]
  simp only [frame]
  rw [show (b.range.filter fun r => !r.isEmpty) = selection? b from rfl, htext]
  simp only [opening, List.append_assoc]
  rfl

lemma frame_eq_none_iff : frame p d size b scroll = none ↔ ¬ AllWritten p d size b scroll := by
  constructor
  · intro hnone hall
    rw [frame_eq hall] at hnone
    cases hnone
  · intro hnot
    have htext : (List.range scroll.height).mapM
        (textRow p d size (selection? b) scroll.top b.document.lines) = none := by
      simp only [AllWritten, not_forall, not_not] at hnot
      obtain ⟨i, hi, hrow⟩ := hnot
      exact mapM_eq_none_iff.mpr
        ⟨i, List.mem_range.mpr hi, by rw [textRow_eq, hrow, Option.map_none]⟩
    simp only [frame]
    rw [show (b.range.filter fun r => !r.isEmpty) = selection? b from rfl, htext]
    rfl

lemma frame_eq_some_iff {cs : List Command} : frame p d size b scroll = some cs ↔
    AllWritten p d size b scroll ∧ cs = frameCommands p d size b scroll := by
  by_cases h : AllWritten p d size b scroll
  · rw [frame_eq h, Option.some.injEq, and_iff_right h, eq_comm]
  · rw [frame_eq_none_iff.mpr h]
    exact iff_of_false (by simp) fun hall => h hall.1

/-! ### Where the strips are -/

lemma toNat_one_add {n : Nat} (h : n + 1 < 65536) : (1 + UInt16.ofNat n).toNat = 1 + n := by
  rw [UInt16.toNat_add, UInt16.toNat_ofNat']
  simp only [UInt16.toNat_one]
  omega

lemma toNat_rows_sub {k : UInt16} (h : k.toNat ≤ size.rows.toNat) :
    (size.rows - k).toNat = size.rows.toNat - k.toNat :=
  UInt16.toNat_sub_of_le _ _ (UInt16.le_iff_toNat_le.mpr h)

lemma mem_rowStrips {s : Strip} : s ∈ rowStrips p d size b scroll ↔
    s = menuStrip p size ∨ (∃ i < scroll.height, textStrip p d size b scroll i = s) ∨
      s = modeStrip p size b ∨ s = messageStrip p d size := by
  simp [rowStrips]

section

-- The text area has all rows but three.
variable (hrows : size.rows.toNat = scroll.height + 3)

include hrows

lemma row_textStrip {i : Nat} (hi : i < scroll.height) :
    (textStrip p d size b scroll i).row.toNat = 1 + i := by
  have := size.rows.toNat_lt
  exact toNat_one_add (by omega)

lemma row_modeStrip : (modeStrip p size b).row.toNat = 1 + scroll.height := by
  have hsub : (size.rows - 2).toNat = size.rows.toNat - 2 := toNat_rows_sub (by
    show 2 ≤ _
    omega)
  exact hsub.trans (by omega)

lemma row_messageStrip : (messageStrip p d size).row.toNat = 2 + scroll.height := by
  have hsub : (size.rows - 1).toNat = size.rows.toNat - 1 := toNat_rows_sub (by
    show 1 ≤ _
    omega)
  exact hsub.trans (by omega)

/-- A strip in the text area is the one of its row. -/
lemma eq_textStrip {s : Strip} (hs : s ∈ rowStrips p d size b scroll) {i : Nat}
    (hi : i < scroll.height) (hrow : s.row.toNat = 1 + i) : s = textStrip p d size b scroll i := by
  rcases mem_rowStrips.mp hs with rfl | ⟨j, hj, rfl⟩ | rfl | rfl
  · have hmenu : (menuStrip p size).row.toNat = 0 := rfl
    omega
  · have := row_textStrip (p := p) (d := d) (b := b) hrows hj
    rw [show j = i by omega]
  · have := row_modeStrip (p := p) (b := b) hrows
    omega
  · have := row_messageStrip (p := p) (d := d) hrows
    omega

/-- The strips are those of the rows from the first to the last. -/
lemma places_rowStrips : (rowStrips p d size b scroll).map (fun s => (s.row.toNat, s.col.toNat)) =
    (List.range size.rows.toNat).map fun r => (r, 0) := by
  have htext : ((List.range scroll.height).map (textStrip p d size b scroll)).map
      (fun s => (s.row.toNat, s.col.toNat)) =
        ((List.range scroll.height).map (1 + ·)).map fun r => (r, 0) := by
    rw [List.map_map, List.map_map]
    exact List.map_congr_left fun i hi =>
      congrArg (fun r => (r, 0)) (row_textStrip hrows (List.mem_range.mp hi))
  have hmode : ((modeStrip p size b).row.toNat, (modeStrip p size b).col.toNat) =
      (1 + scroll.height, 0) := congrArg (fun r => (r, 0)) (row_modeStrip hrows)
  have hmessage : ((messageStrip p d size).row.toNat, (messageStrip p d size).col.toNat) =
      (2 + scroll.height, 0) := congrArg (fun r => (r, 0)) (row_messageStrip hrows)
  have hrange : List.range size.rows.toNat =
      0 :: (List.range scroll.height).map (1 + ·) ++ [1 + scroll.height, 2 + scroll.height] := by
    rw [hrows, show scroll.height + 3 = 1 + scroll.height + 2 by omega, List.range_add,
      List.range_add]
    simp [List.range_succ, Nat.add_comm, Nat.add_left_comm]
  rw [rowStrips, List.map_append, List.map_cons, htext, List.map_cons, List.map_cons,
    List.map_nil, hmode, hmessage, hrange, List.map_append, List.map_cons]
  rfl

end

/-! ### Whole frames -/

/-- A line in view whose columns run out while arithmetic is checked. -/
def EndsProgram (p : Platform) (d : Display) (size : Size) (b : Buffer) (scroll : Scroll) : Prop :=
  p.underflow = .stops ∧ ∃ i < scroll.height, ∃ pieces,
    b.document.lines[scroll.top + i]? = some pieces ∧
      RunsOut p.measure (room d size b) (lineParts (selection? b) pieces)

lemma not_allWritten_iff : ¬ AllWritten p d size b scroll ↔ EndsProgram p d size b scroll := by
  have hrow : ∀ i, content? p d size b (scroll.top + i) = none ↔ p.underflow = .stops ∧
      ∃ pieces, b.document.lines[scroll.top + i]? = some pieces ∧
        RunsOut p.measure (room d size b) (lineParts (selection? b) pieces) := by
    intro i
    rw [content?_eq_none_iff]
    simp only [writeLine_eq_none_iff]
    exact ⟨fun ⟨pieces, hline, hstops, hruns⟩ => ⟨hstops, pieces, hline, hruns⟩,
      fun ⟨hstops, pieces, hline, hruns⟩ => ⟨pieces, hline, hstops, hruns⟩⟩
  simp only [AllWritten, EndsProgram, not_forall, exists_prop, not_not, hrow]
  exact ⟨fun ⟨i, hi, hstops, hruns⟩ => ⟨hstops, i, hi, hruns⟩,
    fun ⟨hstops, i, hi, hruns⟩ => ⟨i, hi, hstops, hruns⟩⟩

lemma not_endsProgram (h : p.NeverStops) : ¬ EndsProgram p d size b scroll := by
  rintro ⟨hstops, i, -, pieces, -, hruns⟩
  exact not_runsOut_of_le (fun t _ k hk => h hstops t k hk) hruns

/-- What a frame does on a screen of the given size, when the text area begins with the line `top`.
The last of its strips is the one for the caret and the others are those of the rows. -/
structure Repaints (p : Platform) (d : Display) (size : Size) (b : Buffer) (top : Nat)
    (cs : List Command) : Prop where
  /-- Nothing is written before the first row. -/
  unwritten : written (beforeMove cs) = []
  /-- Each row is gone to once, in its first column, from the first row to the last. -/
  rows : (strips cs).dropLast.map (fun s => (s.row.toNat, s.col.toNat)) =
    (List.range size.rows.toNat).map fun r => (r, 0)
  /-- The first row and the last but one are filled. -/
  bars : ∀ s ∈ (strips cs).dropLast, s.row.toNat = 0 ∨ s.row.toNat = size.rows.toNat - 2 →
    IsBar p.measure size.cols.toNat s.commands
  /-- The others are blank where nothing is written. -/
  blanks : ∀ s ∈ (strips cs).dropLast,
    s.row.toNat ≠ 0 → s.row.toNat ≠ size.rows.toNat - 2 →
      s.commands.getLast? = some .clearToEndOfLine
  /-- The rows of the text area show lines of the buffer, one after another. -/
  lines : ∀ s ∈ (strips cs).dropLast, ∀ i < size.rows.toNat - 3, s.row.toNat = 1 + i →
    ∀ line, b.text.lines[top + i]? = some line → ShowsLine p d size b (top + i) line s.commands
  /-- A row of the text area is marked as one without a line exactly if there is none. -/
  fillers : ∀ s ∈ (strips cs).dropLast, ∀ i < size.rows.toNat - 3, s.row.toNat = 1 + i →
    (s.commands = filler d b ↔ b.text.lines.length ≤ top + i)
  /-- The line of the caret is among those of the text area. -/
  caret_visible : top ≤ b.caretPlace.line ∧
    1 + (b.caretPlace.line - top) ≤ size.rows.toNat - 3
  /-- In the end the cursor is where the caret is, or in the last column. -/
  caret : ∃ s, (strips cs).getLast? = some s ∧ s.commands = [.showCursor true] ∧
    s.row.toNat = 1 + (b.caretPlace.line - top) ∧
    s.col.toNat = min (margin d b + p.measure.columns (b.text.lineBefore b.focusOffset))
      (size.cols.toNat - 1)

lemma stay_opening : Stay (opening d) := by
  unfold opening
  split <;> decide

lemma stay_of_mem_strips {s : Strip}
    (hs : s ∈ rowStrips p d size b scroll ++ [caretStrip p d size b scroll]) :
    Stay s.commands := by
  rcases List.mem_append.mp hs with hs | hs
  · rcases mem_rowStrips.mp hs with rfl | ⟨i, -, rfl⟩ | rfl | rfl
    · exact stay_bar _
    · exact stay_textStrip i
    · exact stay_bar _
    · exact messageStrip_stay_getLast.1
  · rw [List.mem_singleton.mp hs]
    exact fun c hc => List.mem_singleton.mp hc ▸ rfl

lemma strips_frame : strips (frameCommands p d size b scroll) =
    rowStrips p d size b scroll ++ [caretStrip p d size b scroll] := by
  rw [frameCommands, strips_append stay_opening, strips_flatMap fun _ => stay_of_mem_strips]

lemma dropLast_strips_frame :
    (strips (frameCommands p d size b scroll)).dropLast = rowStrips p d size b scroll := by
  rw [strips_frame, List.dropLast_concat]

lemma written_beforeMove_frame : written (beforeMove (frameCommands p d size b scroll)) = [] := by
  rw [frameCommands, beforeMove_append stay_opening, beforeMove_flatMap, List.append_nil]
  unfold opening
  split <;> rfl

/-- A frame for which the caret's line is among those shown. -/
lemma repaints_frame (hascii : p.measure.Ascii) (hall : AllWritten p d size b scroll)
    (hrows : size.rows.toNat = scroll.height + 3) (htop : scroll.top ≤ b.caretPlace.line)
    (hline : b.caretPlace.line < scroll.top + scroll.height) :
    Repaints p d size b scroll.top (frameCommands p d size b scroll) := by
  have hlt := size.rows.toNat_lt
  have hmode := row_modeStrip (p := p) (b := b) hrows
  have hmessage := row_messageStrip (p := p) (d := d) hrows
  refine ⟨written_beforeMove_frame, ?rows, ?bars, ?blanks, ?lines, ?fillers, by omega, ?caret⟩
  case rows =>
    rw [dropLast_strips_frame]
    exact places_rowStrips hrows
  case bars =>
    intro s hs hrow
    rw [dropLast_strips_frame] at hs
    rcases mem_rowStrips.mp hs with rfl | ⟨i, hi, rfl⟩ | rfl | rfl
    · exact isBar_menuStrip hascii
    · -- A row of text lies between the two bars.
      have := row_textStrip (p := p) (d := d) (b := b) hrows hi
      omega
    · exact isBar_modeStrip hascii
    · omega
  case blanks =>
    intro s hs hfirst hlast
    rw [dropLast_strips_frame] at hs
    rcases mem_rowStrips.mp hs with rfl | ⟨i, hi, rfl⟩ | rfl | rfl
    · exact absurd rfl hfirst
    · exact List.getLast?_concat
    · omega
    · exact messageStrip_stay_getLast.2
  case lines =>
    intro s hs i hi hrow line hsome
    rw [dropLast_strips_frame] at hs
    rw [eq_textStrip hrows hs (by omega) hrow]
    exact showsLine_textStrip hsome (hall i (by omega))
  case fillers =>
    intro s hs i hi hrow
    rw [dropLast_strips_frame] at hs
    rw [eq_textStrip hrows hs (by omega) hrow]
    exact textStrip_eq_filler_iff (hall i (by omega))
  case caret =>
    have hcols := size.cols.toNat_lt
    refine ⟨caretStrip p d size b scroll, ?_, rfl, toNat_one_add (by omega), ?_⟩
    · rw [strips_frame, List.getLast?_concat]
    · exact UInt16.toNat_ofNat'.trans (Nat.mod_eq_of_lt (by omega))

end Screen

namespace Editor

open Screen

lemma hasRoom_iff {size : Size} :
    hasRoom size = true ↔ 4 ≤ size.rows.toNat ∧ 1 ≤ size.cols.toNat := by
  rw [hasRoom, chromeRows, Bool.and_eq_true, decide_eq_true_eq, decide_eq_true_eq]
  exact Iff.rfl

lemma scrollToCaret_spec (e : Editor) {size : Size} (h : 0 < textRows size) :
    (e.scrollToCaret size).height = textRows size ∧
      (e.scrollToCaret size).top ≤ e.buffer.caretPlace.line ∧
      e.buffer.caretPlace.line < (e.scrollToCaret size).top + textRows size := by
  have hheight : (e.scrollToCaret size).height = textRows size :=
    Scroll.height_reveal (e.scroll.withHeight (textRows size)) e.buffer.caretPlace.line
  have hshows : (e.scrollToCaret size).Shows e.buffer.caretPlace.line := Scroll.shows_reveal h
  exact ⟨hheight, hshows.1, hheight ▸ hshows.2⟩

/-- The editor after a frame has been drawn. -/
def framed (e : Editor) (size : Size) : Editor :=
  { e with scroll := e.scrollToCaret size, display := { e.display with redraw := false } }

/-- A frame is drawn, and this ends the program. -/
def RenderEnds (p : Platform) (e : Editor) (size : Size) : Prop :=
  (4 ≤ size.rows.toNat ∧ 1 ≤ size.cols.toNat) ∧
    EndsProgram p e.display size e.buffer (e.scrollToCaret size)

section

variable (p : Platform) (e : Editor) {size : Size}

lemma render_of_no_room (h : ¬ (4 ≤ size.rows.toNat ∧ 1 ≤ size.cols.toNat)) :
    e.render p size = some ([], e) := by
  rw [render, if_neg (mt hasRoom_iff.mp h)]

section

variable (h : 4 ≤ size.rows.toNat ∧ 1 ≤ size.cols.toNat)

include h

lemma rows_eq_height_scrollToCaret : size.rows.toNat = (e.scrollToCaret size).height + 3 := by
  have htext : textRows size = size.rows.toNat - 3 := rfl
  have hheight := (e.scrollToCaret_spec (show 0 < textRows size by omega)).1
  omega

lemma render_of_room : e.render p size =
    (frame p e.display size e.buffer (e.scrollToCaret size)).map fun cs => (cs, e.framed size) := by
  rw [render, if_pos (hasRoom_iff.mpr h)]
  simp only
  cases frame p e.display size e.buffer (e.scrollToCaret size) <;> rfl

/-- The commands of a frame, and the editor after it. -/
lemma render_eq_some_iff {cs : List Command} {e' : Editor} : e.render p size = some (cs, e') ↔
    AllWritten p e.display size e.buffer (e.scrollToCaret size) ∧
      cs = frameCommands p e.display size e.buffer (e.scrollToCaret size) ∧
      e' = e.framed size := by
  simp only [e.render_of_room p h, Option.map_eq_some_iff, frame_eq_some_iff, Prod.mk.injEq]
  constructor
  · rintro ⟨cs, ⟨hall, rfl⟩, rfl, rfl⟩
    exact ⟨hall, rfl, rfl⟩
  · rintro ⟨hall, rfl, rfl⟩
    exact ⟨_, ⟨hall, rfl⟩, rfl, rfl⟩

end

lemma render_eq_none_iff : e.render p size = none ↔ e.RenderEnds p size := by
  by_cases h : 4 ≤ size.rows.toNat ∧ 1 ≤ size.cols.toNat
  · rw [RenderEnds, and_iff_right h, e.render_of_room p h, Option.map_eq_none_iff,
      frame_eq_none_iff, not_allWritten_iff]
  · rw [e.render_of_no_room p h]
    exact iff_of_false (by simp) fun hends => h hends.1

end

lemma exists_render {p : Platform} (h : p.NeverStops) (e : Editor) (size : Size) :
    ∃ r, e.render p size = some r := by
  rw [← Option.ne_none_iff_exists', Ne, render_eq_none_iff]
  exact fun hends => not_endsProgram h hends.2

/-- **A frame repaints the whole screen.** On a terminal with a column and at least four rows, all
rows are gone to in their order, and each of them is filled or blanked to its end: the menu, the
lines of the text from the first one shown, the mode line and the message line. The cursor is left
in the text area, where the caret is. There is such a frame unless arithmetic is checked and the
columns of a line in view run out. A terminal that is smaller is left alone, and so is the editor.
-/
theorem render_repaints (p : Platform) (hascii : p.measure.Ascii) (e : Editor) (size : Size) :
    if 4 ≤ size.rows.toNat ∧ 1 ≤ size.cols.toNat then
      (∀ cs e', e.render p size = some (cs, e') →
        Repaints p e.display size e.buffer e'.scroll.top cs) ∧
      (e.render p size = none ↔
        EndsProgram p e.display size e.buffer (e.scrollToCaret size))
    else e.render p size = some ([], e) := by
  by_cases h : 4 ≤ size.rows.toNat ∧ 1 ≤ size.cols.toNat
  · rw [if_pos h]
    refine ⟨fun cs e' hrender => ?_, (e.render_eq_none_iff p).trans (and_iff_right h)⟩
    obtain ⟨hall, rfl, rfl⟩ := (e.render_eq_some_iff p h).mp hrender
    have htext : textRows size = size.rows.toNat - 3 := rfl
    obtain ⟨hheight, htop, hline⟩ := e.scrollToCaret_spec (show 0 < textRows size by omega)
    exact repaints_frame hascii hall (e.rows_eq_height_scrollToCaret h) htop (hheight ▸ hline)
  · rw [if_neg h]
    exact e.render_of_no_room p h

/-- An editor of a new buffer, on a terminal of the usual size. -/
theorem render_repaints_new :
    let e : Editor := ({} : Settings).editor
    let size : Size := ⟨24, 80⟩
    Measure.unicode.Ascii ∧ ∃ cs e', e.render .standard size = some (cs, e') ∧
      Repaints .standard e.display size e.buffer e'.scroll.top cs := by
  intro e size
  have hroom : 4 ≤ size.rows.toNat ∧ 1 ≤ size.cols.toNat := by decide
  have hframe := render_repaints .standard Measure.ascii_unicode e size
  rw [if_pos hroom] at hframe
  obtain ⟨hrepaints, hnone⟩ := hframe
  have hsome : e.render .standard size ≠ none := fun h => nomatch (hnone.mp h).1
  obtain ⟨⟨cs, e'⟩, hrender⟩ := Option.ne_none_iff_exists'.mp hsome
  exact ⟨Measure.ascii_unicode, cs, e', hrender, hrepaints cs e' hrender⟩

end Editor

end CodePad
