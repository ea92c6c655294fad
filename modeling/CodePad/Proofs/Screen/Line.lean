import CodePad.Proofs.Document.Pieces
import CodePad.Proofs.Terminal.Pen
import CodePad.Proofs.Text.Width
import CodePad.Screen.Line

/-!
What is written of a line, and how it looks. The characters are those of the line, in their order:
how the line is cut into parts, by runs and by the selection, decides about styles only. Each is in
the style of its kind, and whatever the style takes is given back before the next one begins. If the
widths of the parts add up, what is written goes up to the right margin and no further.
-/

namespace CodePad

namespace Command

/-- A command that draws at the cursor: it neither puts the cursor elsewhere nor turns to writing
faintly. -/
def Draws (c : Command) : Prop := c.isMove = false ∧ c ≠ .dim true

lemma draws_ofStyle {s : Style} {c : Command} (h : c ∈ ofStyle s) : c.Draws := by
  simp only [ofStyle, List.mem_append, List.mem_cons, List.not_mem_nil, or_false, or_assoc] at h
  rcases h with rfl | rfl | h | h | h
  · exact ⟨rfl, by simp [dim]⟩
  · exact ⟨rfl, by simp [dim]⟩
  all_goals
    split at h
    · rw [List.mem_singleton] at h
      subst h
      exact ⟨rfl, by simp [dim]⟩
    · exact absurd h List.not_mem_nil

end Command

namespace Underflow

variable (u : Underflow) {a b : Nat}

lemma sub?_of_le (h : b ≤ a) : u.sub? a b = some (a - b) := if_pos h

lemma sub?_eq_none_iff : u.sub? a b = none ↔ u = .stops ∧ a < b := by
  by_cases h : b ≤ a
  · rw [u.sub?_of_le h]
    exact iff_of_false (by simp) fun hlt => absurd h (Nat.not_le.mpr hlt.2)
  · cases u <;> simp [sub?, h, Nat.lt_of_not_le h]

end Underflow

namespace Screen

open Command

lemma draws_writeStyled {s : Style} {t : Text} {c : Command} (h : c ∈ writeStyled s t) :
    c.Draws := by
  unfold writeStyled at h
  split at h
  · rw [List.mem_singleton] at h
    subst h
    exact ⟨rfl, by simp [dim]⟩
  · simp only [List.mem_append, List.mem_cons, List.not_mem_nil, or_false] at h
    rcases h with h | rfl | rfl
    · exact draws_ofStyle h
    · exact ⟨rfl, by simp [dim]⟩
    · exact ⟨rfl, by simp [dim, reset]⟩

/-- What is written of some texts begins with what fits of the first, and goes on in the columns
that this leaves. -/
lemma writeTexts_cons_eq_some_iff {p : Platform} {n : Nat} {s : Style} {t : Text}
    {ts : List (Style × Text)} {cs : List Command} (hn : n ≠ 0) :
    writeTexts p n ((s, t) :: ts) = some cs ↔ ∃ left more,
      p.underflow.sub? n (p.measure.width (p.measure.truncate n t)) = some left ∧
        writeTexts p left ts = some more ∧
        cs = writeStyled s (p.measure.truncate n t) ++ more := by
  simp only [writeTexts, if_neg hn, Option.bind_eq_bind, Option.bind_eq_some_iff, Option.pure_def,
    Option.some.injEq]
  exact ⟨fun ⟨left, hleft, more, hmore, heq⟩ => ⟨left, more, hleft, hmore, heq.symm⟩,
    fun ⟨left, more, hleft, hmore, heq⟩ => ⟨left, hleft, more, hmore, heq.symm⟩⟩

lemma writeTexts_zero (p : Platform) (ts : List (Style × Text)) :
    writeTexts p 0 ts = some [] := by
  cases ts <;> rfl

lemma draws_writeTexts {p : Platform} {n : Nat} {ts : List (Style × Text)} {cs : List Command}
    (h : writeTexts p n ts = some cs) : ∀ c ∈ cs, c.Draws := by
  induction ts generalizing n cs with
  | nil =>
    obtain rfl : [] = cs := Option.some.inj h
    exact fun c hc => absurd hc List.not_mem_nil
  | cons x ts ih =>
    by_cases hn : n = 0
    · rw [hn, writeTexts_zero] at h
      obtain rfl : [] = cs := Option.some.inj h
      exact fun c hc => absurd hc List.not_mem_nil
    · obtain ⟨left, more, -, hmore, rfl⟩ := (writeTexts_cons_eq_some_iff hn).mp h
      exact List.forall_mem_append.mpr ⟨fun _ => draws_writeStyled, ih hmore⟩

/-! ### What fits -/

/-- A front of some places of a line, given their characters, that fits into `n` columns. It may be
that some places are left out in favour of later ones that are narrower. -/
structure Fits {α : Type} (m : Measure) (f : α → Char) (n : Nat) (line shown : List α) : Prop where
  sublist : shown.Sublist line
  columns_le : m.columns (shown.map f) ≤ n
  /-- A line that is not too wide is there up to the last of its columns. -/
  of_columns_le : m.columns (line.map f) ≤ n →
    ∃ rest, line = shown ++ rest ∧ m.columns (rest.map f) = 0
  /-- A line of characters of a single column is there up to the right margin. -/
  of_singleColumn : m.SingleColumn (line.map f) → shown = line.take n

section

variable {α : Type} (m : Measure) (f : α → Char)

/-- What fits of some stretches of a line: of every stretch its front, for as long as there are
columns left. -/
def fit : (columns : Nat) → List (List α) → List α
  | _, [] => []
  | columns, l :: ls =>
    if columns = 0 then []
    else
      let shown := m.truncate columns (l.map f)
      l.take shown.length ++ fit (columns - m.columns shown) ls

lemma fit_zero (ls : List (List α)) : fit m f 0 ls = [] := by cases ls <;> simp [fit]

lemma fit_cons {n : Nat} (h : n ≠ 0) (l : List α) (ls : List (List α)) :
    fit m f n (l :: ls) = l.take (m.truncate n (l.map f)).length ++
      fit m f (n - m.columns (m.truncate n (l.map f))) ls := by
  rw [fit, if_neg h]

lemma map_take_truncate (n : Nat) (l : List α) :
    (l.take (m.truncate n (l.map f)).length).map f = m.truncate n (l.map f) := by
  have hfront := Measure.truncate_prefix m n (l.map f)
  rw [List.map_take]
  exact (List.prefix_iff_eq_take.mp hfront).symm

lemma fit_sublist (n : Nat) (ls : List (List α)) : (fit m f n ls).Sublist ls.flatten := by
  induction ls generalizing n with
  | nil => exact List.nil_sublist _
  | cons l ls ih =>
    by_cases hn : n = 0
    · rw [hn, fit_zero]
      exact List.nil_sublist _
    · rw [fit_cons m f hn, List.flatten_cons]
      exact (List.take_sublist _ l).append (ih _)

/-- No more columns are filled than there is room for, however many stretches there are. -/
lemma columns_fit_le (n : Nat) (ls : List (List α)) : m.columns ((fit m f n ls).map f) ≤ n := by
  induction ls generalizing n with
  | nil => exact Nat.zero_le n
  | cons l ls ih =>
    by_cases hn : n = 0
    · rw [hn, fit_zero]
      exact Nat.le_refl 0
    · have hshown := m.columns_truncate_le n (l.map f)
      have hrest := ih (n - m.columns (m.truncate n (l.map f)))
      rw [fit_cons m f hn, List.map_append, Measure.columns_append, map_take_truncate]
      omega

lemma fit_of_columns_le {n : Nat} {ls : List (List α)} (h : m.columns (ls.flatten.map f) ≤ n) :
    ∃ rest, ls.flatten = fit m f n ls ++ rest ∧ m.columns (rest.map f) = 0 := by
  induction ls generalizing n with
  | nil => exact ⟨[], rfl, rfl⟩
  | cons l ls ih =>
    by_cases hn : n = 0
    · exact ⟨(l :: ls).flatten, by rw [hn, fit_zero, List.nil_append], by omega⟩
    · rw [List.flatten_cons, List.map_append, Measure.columns_append] at h
      obtain ⟨rest, heq, hrest⟩ := ih (n := n - m.columns (l.map f)) (by omega)
      refine ⟨rest, ?_, hrest⟩
      rw [fit_cons m f hn, Measure.truncate_of_columns_le (by omega), List.length_map,
        List.take_length, List.flatten_cons, List.append_assoc, ← heq]

lemma fit_of_singleColumn {n : Nat} {ls : List (List α)}
    (h : m.SingleColumn (ls.flatten.map f)) : fit m f n ls = ls.flatten.take n := by
  induction ls generalizing n with
  | nil => simp [fit]
  | cons l ls ih =>
    by_cases hn : n = 0
    · rw [hn, fit_zero, List.take_zero]
    · rw [List.flatten_cons, List.map_append, Measure.singleColumn_append_iff] at h
      obtain ⟨hfirst, hrest⟩ := h
      have htaken : m.SingleColumn ((l.map f).take n) := fun c hc =>
        hfirst c (List.mem_of_mem_take hc)
      rw [fit_cons m f hn, hfirst.truncate_eq, htaken.columns_eq, ih hrest, List.flatten_cons,
        List.take_append, List.length_take, List.length_map, ← List.take_eq_take_min]
      congr 2
      omega

lemma fits_fit (n : Nat) (ls : List (List α)) : Fits m f n ls.flatten (fit m f n ls) :=
  ⟨fit_sublist m f n ls, columns_fit_le m f n ls, fit_of_columns_le m f, fit_of_singleColumn m f⟩

end

/-! ### Styles -/

lemma after_ofStyle (s : Style) : Pen.plain.after (ofStyle s) = .ofStyle s := by
  obtain ⟨foreground, background, bold, italic, reverse⟩ := s
  cases bold <;> cases italic <;> cases reverse <;> rfl

lemma paint_ofStyle (p : Pen) (s : Style) : p.paint (ofStyle s) = [] := by
  obtain ⟨foreground, background, bold, italic, reverse⟩ := s
  cases bold <;> cases italic <;> cases reverse <;> rfl

/-- A text that is written in a style has the pen of the style, and a plain pen is left. -/
lemma paint_writeStyled (s : Style) (t : Text) :
    Pen.plain.paint (writeStyled s t) = t.map (fun c => (c, .ofStyle s)) ∧
      Pen.plain.after (writeStyled s t) = .plain := by
  unfold writeStyled
  split
  · next h =>
    obtain rfl : s = .plain := of_decide_eq_true h
    exact ⟨List.append_nil _, rfl⟩
  · rw [Pen.paint_append, Pen.after_append, paint_ofStyle, after_ofStyle, List.nil_append,
      Pen.paint_cons_write]
    exact ⟨List.append_nil _, rfl⟩

lemma written_writeStyled (s : Style) (t : Text) : written (writeStyled s t) = t := by
  rw [← Pen.map_fst_paint .plain, (paint_writeStyled s t).1, List.map_map]
  exact List.map_id t

/-- Stretches, each in the style of all its places, are painted in these styles as far as they are
shown. If their widths add up, what is shown is what fits. -/
lemma exists_paint_writeTexts {α : Type} {p : Platform} {f : α → Char} {style : α → Style}
    {ss : List (Style × List α)} (h : ∀ x ∈ ss, ∀ a ∈ x.2, style a = x.1) {n : Nat}
    {cs : List Command} (hcs : writeTexts p n (ss.map fun x => (x.1, x.2.map f)) = some cs) :
    ∃ shown, shown.Sublist (ss.map Prod.snd).flatten ∧
      ((∀ x ∈ ss, p.measure.AddsUp (x.2.map f)) → shown = fit p.measure f n (ss.map Prod.snd)) ∧
      Pen.plain.paint cs = shown.map (fun a => (f a, .ofStyle (style a))) ∧
      Pen.plain.after cs = .plain := by
  induction ss generalizing n cs with
  | nil =>
    obtain rfl : [] = cs := Option.some.inj hcs
    exact ⟨[], List.nil_sublist _, fun _ => rfl, rfl, rfl⟩
  | cons x ss ih =>
    obtain ⟨s, l⟩ := x
    by_cases hn : n = 0
    · rw [hn, writeTexts_zero] at hcs
      obtain rfl : [] = cs := Option.some.inj hcs
      exact ⟨[], List.nil_sublist _, fun _ => by rw [hn, fit_zero], rfl, rfl⟩
    · obtain ⟨left, more, hleft, hmore, rfl⟩ := (writeTexts_cons_eq_some_iff hn).mp hcs
      obtain ⟨shown, hsub, hfit, hpaint, hafter⟩ :=
        ih (fun y hy => h y (List.mem_cons_of_mem _ hy)) hmore
      set front := p.measure.truncate n (l.map f)
      obtain ⟨hpaints, hafters⟩ := paint_writeStyled s front
      have htake : (l.take front.length).map f = front := map_take_truncate p.measure f n l
      have hstyles : (l.take front.length).map (fun a => (f a, Pen.ofStyle (style a))) =
          front.map fun c => (c, Pen.ofStyle s) := by
        rw [← htake, List.map_map, htake]
        exact List.map_congr_left fun a ha =>
          congrArg (fun s => (f a, Pen.ofStyle s)) (h (s, l) (by simp) a (List.mem_of_mem_take ha))
      refine ⟨l.take front.length ++ shown, (List.take_sublist _ l).append hsub, ?_, ?_, ?_⟩
      · -- Only here the width matters: the columns left are then those that `fit` counts.
        intro hadds
        rw [List.forall_mem_cons] at hadds
        have hwidth : p.measure.width front = p.measure.columns front :=
          hadds.1.width_truncate n
        have hle : p.measure.columns front ≤ n := p.measure.columns_truncate_le n (l.map f)
        rw [hwidth, Underflow.sub?_of_le _ hle, Option.some.injEq] at hleft
        rw [hfit hadds.2, List.map_cons, fit_cons _ _ hn, ← hleft]
      · rw [Pen.paint_append, hafters, hpaints, hpaint, List.map_append, hstyles]
      · rw [Pen.after_append, hafters, hafter]

/-! ### Lines -/

/-- The style of a character: that of its kind, and reversed if it is selected. -/
def styleAt (theme : Theme) (selected : Option Range) (g : Glyph) : Style :=
  if selected.any (·.contains g.offset) then (theme.style g.kind).withReverse
  else theme.style g.kind

/-- The parts into which a range cuts a text, each with its characters in the document. -/
lemma exists_cutAtRange (r : Range) (kind : Option TokenKind) (start : Nat) (t : Text) :
    ∃ parts : List (Bool × List Glyph),
      cutAtRange r start t = parts.map (fun x => (x.1, x.2.map Glyph.char)) ∧
        (parts.map Prod.snd).flatten = Glyph.ofText kind start t ∧
        ∀ x ∈ parts, ∀ g ∈ x.2, g.kind = kind ∧ r.contains g.offset = x.1 := by
  induction t generalizing start with
  | nil => exact ⟨[], rfl, rfl, fun _ hx => absurd hx List.not_mem_nil⟩
  | cons c t ih =>
    obtain ⟨parts, hcut, hglyphs, hparts⟩ := ih (start + 1)
    rw [cutAtRange, hcut, Glyph.ofText_cons, ← hglyphs]
    cases parts with
    | nil => exact ⟨[(r.contains start, [⟨c, kind, start⟩])], rfl, rfl, by simp⟩
    | cons x parts =>
      obtain ⟨inside, gs⟩ := x
      simp only [List.map_cons]
      split
      · next h =>
        obtain ⟨hfirst, hparts⟩ := List.forall_mem_cons.mp hparts
        refine ⟨(inside, ⟨c, kind, start⟩ :: gs) :: parts, rfl, rfl, ?_⟩
        rw [List.forall_mem_cons, List.forall_mem_cons]
        exact ⟨⟨⟨rfl, h.symm⟩, hfirst⟩, hparts⟩
      · refine ⟨(r.contains start, [⟨c, kind, start⟩]) :: (inside, gs) :: parts, rfl, rfl, ?_⟩
        rw [List.forall_mem_cons]
        exact ⟨by simp, hparts⟩

lemma exists_cutAtSelection (selected : Option Range) (p : Piece) :
    ∃ parts : List (Bool × List Glyph),
      cutAtSelection selected p = parts.map (fun x => (x.1, x.2.map Glyph.char)) ∧
        (parts.map Prod.snd).flatten = p.glyphs ∧
        ∀ x ∈ parts, ∀ g ∈ x.2, g.kind = p.kind ∧ selected.any (·.contains g.offset) = x.1 := by
  cases selected with
  | none =>
    refine ⟨[(false, p.glyphs)], ?_, List.append_nil _, ?_⟩
    · rw [cutAtSelection, List.map_singleton, Piece.map_char_glyphs]
    · rw [List.forall_mem_singleton]
      exact fun g hg => ⟨Piece.kind_of_mem_glyphs hg, rfl⟩
  | some r => exact exists_cutAtRange r p.kind p.start p.text

/-- The texts of a line with their styles, each with its characters in the document. -/
lemma exists_styledTexts (theme : Theme) (selected : Option Range) (line : List Piece) :
    ∃ ss : List (Style × List Glyph),
      styledTexts theme selected line = ss.map (fun x => (x.1, x.2.map Glyph.char)) ∧
        (ss.map Prod.snd).flatten = Piece.lineGlyphs line ∧
        ∀ x ∈ ss, ∀ g ∈ x.2, styleAt theme selected g = x.1 := by
  induction line with
  | nil => exact ⟨[], rfl, rfl, fun _ hx => absurd hx List.not_mem_nil⟩
  | cons p line ih =>
    obtain ⟨ss, htexts, hglyphs, hstyles⟩ := ih
    obtain ⟨parts, hcut, hparts, hinside⟩ := exists_cutAtSelection selected p
    refine ⟨parts.map (fun x => (if x.1 then (theme.style p.kind).withReverse
      else theme.style p.kind, x.2)) ++ ss, ?_, ?_, ?_⟩
    · rw [List.map_append, ← htexts, styledTexts, List.flatMap_cons, hcut, List.map_map,
        List.map_map]
      rfl
    · rw [List.map_append, List.flatten_append, hglyphs, List.map_map]
      exact congrArg (· ++ Piece.lineGlyphs line) hparts
    · intro x hx g hg
      rcases List.mem_append.mp hx with hx | hx
      · obtain ⟨part, hpart, rfl⟩ := List.mem_map.mp hx
        obtain ⟨hkind, hselected⟩ := hinside part hpart g hg
        rw [styleAt, hkind, hselected]
      · exact hstyles x hx g hg

/-- The parts into which a line is cut by its pieces and the selection. -/
def lineParts (selected : Option Range) (line : List Piece) : List Text :=
  (line.flatMap (cutAtSelection selected)).map Prod.snd

lemma map_snd_styledTexts (theme : Theme) (selected : Option Range) (line : List Piece) :
    (styledTexts theme selected line).map Prod.snd = lineParts selected line := by
  rw [styledTexts, lineParts, List.map_flatMap, List.map_flatMap]
  refine congrArg line.flatMap (funext fun p => ?_)
  rw [List.map_map]
  rfl

lemma flatten_lineParts (selected : Option Range) (line : List Piece) :
    (lineParts selected line).flatten = Piece.lineText line := by
  obtain ⟨ss, htexts, hglyphs, -⟩ := exists_styledTexts .standard selected line
  calc (lineParts selected line).flatten
      = ((ss.map Prod.snd).map (List.map Glyph.char)).flatten := by
        rw [← map_snd_styledTexts .standard, htexts, List.map_map, List.map_map]
        rfl
    _ = Piece.lineText line := by
        rw [← List.map_flatten, hglyphs, Piece.map_char_lineGlyphs]

/-- A line of which no part is wider or narrower than its characters. -/
def LineAddsUp (m : Measure) (selected : Option Range) (line : List Piece) : Prop :=
  ∀ t ∈ lineParts selected line, m.AddsUp t

/-- A line of characters whose widths add up. -/
lemma lineAddsUp_of_additive {m : Measure} {A : Char → Prop} (h : m.Additive A)
    {selected : Option Range} {line : List Piece} (hline : ∀ c ∈ Piece.lineText line, A c) :
    LineAddsUp m selected line := fun t ht => h.addsUp fun c hc => hline c (by
  rw [← flatten_lineParts selected]
  exact List.mem_flatten_of_mem ht hc)

section

variable {p : Platform} {theme : Theme} {selected : Option Range} {n : Nat} {line : List Piece}
  {cs : List Command}

lemma draws_writeLine (h : writeLine p theme selected n line = some cs) : ∀ c ∈ cs, c.Draws :=
  draws_writeTexts h

/-- A line is painted with characters of the document, each in its style, and a plain pen is left.
If its widths add up, they are the characters that fit. -/
lemma exists_paint_writeLine (h : writeLine p theme selected n line = some cs) :
    ∃ shown, shown.Sublist (Piece.lineGlyphs line) ∧
      (LineAddsUp p.measure selected line →
        Fits p.measure Glyph.char n (Piece.lineGlyphs line) shown) ∧
      Pen.plain.paint cs = shown.map (fun g => (g.char, .ofStyle (styleAt theme selected g))) ∧
      Pen.plain.after cs = .plain := by
  obtain ⟨ss, htexts, hglyphs, hstyles⟩ := exists_styledTexts theme selected line
  rw [writeLine, htexts] at h
  obtain ⟨shown, hsub, hfit, hpaint⟩ := exists_paint_writeTexts hstyles h
  refine ⟨shown, hglyphs ▸ hsub, fun hadds => ?_, hpaint⟩
  have hparts : ∀ x ∈ ss, p.measure.AddsUp (x.2.map Glyph.char) := by
    intro x hx
    refine hadds _ ?_
    rw [← map_snd_styledTexts theme, htexts, List.map_map]
    exact List.mem_map_of_mem hx
  rw [hfit hparts, ← hglyphs]
  exact fits_fit p.measure Glyph.char n _

/-- So it is with the text that is written. -/
lemma written_writeLine (h : writeLine p theme selected n line = some cs) :
    (written cs).Sublist (Piece.lineText line) ∧
      (LineAddsUp p.measure selected line →
        Fits p.measure id n (Piece.lineText line) (written cs)) := by
  obtain ⟨shown, hsub, hfits, hpaint, -⟩ := exists_paint_writeLine h
  have hwritten : written cs = shown.map Glyph.char := by
    rw [← Pen.map_fst_paint .plain, hpaint, List.map_map]
    rfl
  rw [hwritten, ← Piece.map_char_lineGlyphs]
  refine ⟨hsub.map Glyph.char, fun hadds => ?_⟩
  obtain ⟨-, hle, hcolumns, hsingle⟩ := hfits hadds
  refine ⟨hsub.map Glyph.char, by rwa [List.map_id], fun hline => ?_, fun hline => ?_⟩
  · rw [List.map_id] at hline
    obtain ⟨rest, hrest, hzero⟩ := hcolumns hline
    exact ⟨rest.map Glyph.char, by rw [hrest, List.map_append], by rwa [List.map_id]⟩
  · rw [List.map_id] at hline
    rw [hsingle hline, List.map_take]

end

end Screen

end CodePad
