import CodePad.Proofs.Editor.Run
import CodePad.Proofs.Screen.Frame

/-!
Styles that do not leak. Colours and attributes are switched on for a part of a row, a number, a
piece of a line or a whole bar, and each time they are switched off again, though not always in the
same way. So every character of the text is seen in the style of its own kind, reversed if it is
selected, and nothing of this is left for what comes after it.
-/

namespace CodePad

namespace Theme

/-- In no style of a theme the colours are reversed. -/
def Unreversed (t : Theme) : Prop := ∀ kind, (t.style kind).reverse = false

lemma unreversed_standard : standard.Unreversed := by
  intro kind
  cases kind with
  | none => rfl
  | some kind => cases kind <;> rfl

lemma Unreversed.recolor {t : Theme} (h : t.Unreversed) (kind : TokenKind) (color : Color) :
    (t.recolor kind color).Unreversed := by
  intro other
  cases other with
  | none => rfl
  | some other =>
    have hother : (t.styleOf other).reverse = false := h (some other)
    simp only [style, Theme.recolor]
    split
    · exact hother
    · exact hother

lemma unreversed_ofOverrides (overrides : List (TokenKind × Color)) :
    (ofOverrides overrides).Unreversed := by
  have hfold : ∀ t : Theme, t.Unreversed →
      (overrides.foldl (fun t x => t.recolor x.1 x.2) t).Unreversed := by
    induction overrides with
    | nil => exact fun _ h => h
    | cons x overrides ih => exact fun t h => ih _ (h.recolor x.1 x.2)
  exact hfold standard unreversed_standard

end Theme

namespace Screen

open Command

/-- The pen for a character of the text: that of the style of its kind, and reversed exactly if its
offset is in the selected range. -/
def penOf (theme : Theme) (selected : Option Range) (g : Glyph) : Pen :=
  { Pen.ofStyle (theme.style g.kind) with reverse := selected.any (·.contains g.offset) }

/-- What is painted in a row for a line: its number, if lines are numbered, and then characters of
the line. If widths add up, they are those for which there is room. -/
def PaintsLine (p : Platform) (d : Display) (size : Size) (b : Buffer) (index : Nat) (line : Text)
    (painted : List (Char × Pen)) : Prop :=
  let number : Text := if d.lineNumbers then gutter (margin d b) index else []
  let glyphs := b.document.lineGlyphs index line
  ∃ shown, shown.Sublist glyphs ∧
    ((∀ pieces, b.document.lines[index]? = some pieces →
        LineAddsUp p.measure (selection? b) pieces) →
      Fits p.measure Glyph.char (room d size b) glyphs shown) ∧
    painted = number.map (fun c => (c, .faint)) ++
      shown.map fun g => (g.char, penOf d.theme b.range g)

/-- A frame in which nothing has another style than its own. The last of its strips is the one for
the caret and the others are those of the rows. -/
structure KeepsStyles (p : Platform) (d : Display) (size : Size) (b : Buffer) (top : Nat)
    (cs : List Command) : Prop where
  /-- The pen is plain whenever the cursor is moved, and at the end. -/
  tidy : Pen.Tidy cs
  /-- So what is painted in a place is painted as if it were the first. -/
  apart : Pen.plain.paint cs = (strips cs).flatMap fun s => Pen.plain.paint s.commands
  /-- Each row has its strip. -/
  rows : (strips cs).dropLast.map (fun s => (s.row.toNat, s.col.toNat)) =
    (List.range size.rows.toNat).map fun r => (r, 0)
  /-- The characters of the text are painted in their own styles. -/
  lines : ∀ s ∈ (strips cs).dropLast, ∀ i < size.rows.toNat - 3, s.row.toNat = 1 + i →
    ∀ line, b.text.lines[top + i]? = some line →
      PaintsLine p d size b (top + i) line (Pen.plain.paint s.commands)

variable {p : Platform} {d : Display} {size : Size} {b : Buffer} {scroll : Scroll}

lemma any_selection? (b : Buffer) (k : Nat) :
    (selection? b).any (·.contains k) = b.range.any (·.contains k) := by
  unfold selection?
  cases b.range with
  | none => rfl
  | some r =>
    by_cases h : r.isEmpty
    · have hempty : r.start = r.stop := of_decide_eq_true h
      have hout : ¬ (r.start ≤ k ∧ k < r.stop) := by omega
      simpa [Option.filter_some, h, Range.contains] using hout
    · simp [Option.filter_some, h]

lemma ofStyle_styleAt {theme : Theme} (h : theme.Unreversed) (b : Buffer) (g : Glyph) :
    Pen.ofStyle (styleAt theme (selection? b) g) = penOf theme b.range g := by
  have hreverse := h g.kind
  rw [styleAt, any_selection?, penOf]
  cases b.range.any (·.contains g.offset) with
  | true => rfl
  | false =>
    exact congrArg (fun r => { Pen.ofStyle (theme.style g.kind) with reverse := r }) hreverse

/-! ### Rows -/

lemma paint_faint (t : Text) :
    Pen.plain.paint (faint t) = t.map (fun c => (c, .faint)) ∧
      Pen.plain.after (faint t) = .plain := ⟨List.append_nil _, rfl⟩

lemma paint_number (d : Display) (t : Text) :
    let cs := if d.lineNumbers then faint t else []
    Pen.plain.paint cs = (if d.lineNumbers then t else []).map (fun c => (c, .faint)) ∧
      Pen.plain.after cs = .plain := by
  intro cs
  simp only [cs]
  split
  · exact paint_faint t
  · exact ⟨rfl, rfl⟩

lemma paint_textStrip (htheme : d.theme.Unreversed) {row : Nat} {line : Text}
    (h : b.text.lines[scroll.top + row]? = some line)
    (hrow : content? p d size b (scroll.top + row) ≠ none) :
    let cs := (textStrip p d size b scroll row).commands
    PaintsLine p d size b (scroll.top + row) line (Pen.plain.paint cs) ∧
      Pen.plain.after cs = .plain := by
  intro cs
  obtain ⟨pieces, drawn, hpieces, rfl, hdrawn⟩ := exists_writeLine_of_content? h hrow
  obtain ⟨hnumber, hplain⟩ := paint_number d (gutter (margin d b) (scroll.top + row))
  obtain ⟨shown, hsublist, hfits, hpaint, hafter⟩ := exists_paint_writeLine hdrawn
  have hcs : cs = _ := commands_textStrip hpieces hdrawn
  simp only [hcs, Pen.paint_append, Pen.after_append, hplain, hafter, hnumber, hpaint]
  refine ⟨⟨shown, ?_, fun hadds => ?_, ?_⟩, rfl⟩
  · rw [Document.lineGlyphs_eq hpieces]
    exact hsublist
  · rw [Document.lineGlyphs_eq hpieces]
    exact hfits (hadds pieces hpieces)
  · simp only [ofStyle_styleAt htheme]
    exact List.append_nil _

lemma after_filler (d : Display) (b : Buffer) : Pen.plain.after (filler d b) = .plain := by
  unfold filler
  split <;> rfl

lemma after_textStrip (htheme : d.theme.Unreversed) {row : Nat}
    (hrow : content? p d size b (scroll.top + row) ≠ none) :
    Pen.plain.after (textStrip p d size b scroll row).commands = .plain := by
  by_cases h : b.text.lines.length ≤ scroll.top + row
  · rw [textStrip_eq_filler h, after_filler]
  · have hline := List.getElem?_eq_getElem (Nat.lt_of_not_le h)
    exact (paint_textStrip htheme hline hrow).2

lemma after_messageStrip : Pen.plain.after (messageStrip p d size).commands = .plain := by
  unfold messageStrip messageLine
  cases d.message <;> rfl

/-! ### Whole frames -/

/-- Every strip of a frame gives back a plain pen. -/
lemma after_of_mem_strips (htheme : d.theme.Unreversed) (hall : AllWritten p d size b scroll)
    {s : Strip} (hs : s ∈ rowStrips p d size b scroll ++ [caretStrip p d size b scroll]) :
    Pen.plain.after s.commands = .plain := by
  rcases List.mem_append.mp hs with hs | hs
  · rcases mem_rowStrips.mp hs with rfl | ⟨i, hi, rfl⟩ | rfl | rfl
    · rfl
    · exact after_textStrip htheme (hall i hi)
    · rfl
    · exact after_messageStrip
  · rw [List.mem_singleton.mp hs]
    rfl

lemma paint_opening (d : Display) :
    Pen.plain.paint (opening d) = [] ∧ Pen.plain.after (opening d) = .plain := by
  unfold opening
  split <;> exact ⟨rfl, rfl⟩

lemma keepsStyles_frame (htheme : d.theme.Unreversed) (hall : AllWritten p d size b scroll)
    (hrows : size.rows.toNat = scroll.height + 3) :
    KeepsStyles p d size b scroll.top (frameCommands p d size b scroll) := by
  obtain ⟨hpaint, hafter⟩ := paint_opening d
  have hplain : ∀ s ∈ rowStrips p d size b scroll ++ [caretStrip p d size b scroll],
      Stay s.commands ∧ Pen.plain.after s.commands = .plain :=
    fun _ hs => ⟨stay_of_mem_strips hs, after_of_mem_strips htheme hall hs⟩
  obtain ⟨htidy, hstrips⟩ := Pen.Tidy.of_strips hplain
  refine ⟨?tidy, ?apart, ?rows, ?lines⟩
  case tidy => exact (Pen.Tidy.of_stay stay_opening hafter).append htidy
  case apart =>
    rw [strips_frame, ← hstrips, frameCommands, Pen.paint_append, hpaint, hafter]
    rfl
  case rows =>
    rw [dropLast_strips_frame]
    exact places_rowStrips hrows
  case lines =>
    intro s hs i hi hrow line hline
    rw [dropLast_strips_frame] at hs
    rw [eq_textStrip hrows hs (by omega) hrow]
    exact (paint_textStrip htheme hline (hall i (by omega))).1

end Screen

namespace Settings

open Screen

/-- **Styles never leak.** Whatever has happened to an editor, the next frame that it draws paints
each character of the text in the style that the settings give to the kind of its run, reversed
exactly if it is selected, and never faintly. The pen is plain whenever the cursor is moved and when
the frame is done, so that nothing goes over into another row or into another frame. There is such a
frame unless arithmetic is checked and the columns of a line in view run out. -/
theorem render_keepsStyles (p : Platform) (s : Settings) (steps : List Editor.Step) (size : Size)
    (e : Editor) (h : s.editor.run p steps = some e) :
    if 4 ≤ size.rows.toNat ∧ 1 ≤ size.cols.toNat then
      e.display.theme = s.theme ∧
        (∀ cs e', e.render p size = some (cs, e') →
          KeepsStyles p e.display size e.buffer e'.scroll.top cs) ∧
        (e.render p size = none ↔
          EndsProgram p e.display size e.buffer (e.scrollToCaret size))
    else e.render p size = some ([], e) := by
  have htheme : e.display.theme = s.theme := Editor.theme_run h
  have hunreversed : e.display.theme.Unreversed := htheme ▸ Theme.unreversed_ofOverrides s.overrides
  split
  · next hroom =>
    refine ⟨htheme, fun cs e' hrender => ?_, ?_⟩
    · obtain ⟨hall, rfl, rfl⟩ := (e.render_eq_some_iff p hroom).mp hrender
      exact keepsStyles_frame hunreversed hall (e.rows_eq_height_scrollToCaret hroom)
    · exact (e.render_eq_none_iff p).trans (and_iff_right hroom)
  · next hroom => exact e.render_of_no_room p hroom

/-- The frame after a digit has been typed, with numbers in red. -/
theorem render_keepsStyles_digit :
    let s : Settings := { colors := [("number", "red")] }
    let size : Size := ⟨24, 80⟩
    ∃ e cs e', s.editor.run .standard [.event (.insert '7')] = some e ∧
      e.render .standard size = some (cs, e') ∧
      KeepsStyles .standard e.display size e.buffer e'.scroll.top cs := by
  intro s size
  obtain ⟨e, he⟩ := Editor.exists_run Platform.neverStops_standard s.editor [.event (.insert '7')]
  have hframe := render_keepsStyles .standard s _ size e he
  rw [if_pos (by decide)] at hframe
  obtain ⟨⟨cs, e'⟩, hrender⟩ := Editor.exists_render Platform.neverStops_standard e size
  exact ⟨e, cs, e', he, hrender, hframe.2.1 cs e' hrender⟩

end Settings

end CodePad
