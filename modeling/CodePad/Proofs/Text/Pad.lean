import CodePad.Proofs.Text.Width

/-!
Texts cut and filled up to a number of columns. The cut goes by the columns of the characters: it
stops in front of the first one that is too wide for what is left, which may leave a column free,
and takes along characters without a column up to there. The filling goes by the width of what was
kept, so it goes just to the last column if the width of the text and of each of its fronts is the
sum of its columns. How wide the filled text is as a whole, though, is the measure's to say: it is
as wide if widths add up in the texts that are made of its characters.
-/

namespace CodePad

namespace Measure

variable {m : Measure} {t u : Text} {n : Nat} {fill : Char}

/-! ### The longest front that fits -/

/-- The longest front of `t` whose characters take at most `n` columns. -/
structure IsLongestFit (m : Measure) (n : Nat) (t u : Text) : Prop where
  isFront : u <+: t
  fits : m.columns u ≤ n
  longest : ∀ v : Text, v <+: t → m.columns v ≤ n → v.length ≤ u.length

/-- A front that fits is not cut into. -/
lemma prefix_truncate (hu : u <+: t) (h : m.columns u ≤ n) : u <+: m.truncate n t := by
  obtain ⟨v, rfl⟩ := hu
  rw [truncate_append_of_le h]
  exact List.prefix_append _ _

lemma isLongestFit_truncate (m : Measure) (n : Nat) (t : Text) :
    m.IsLongestFit n t (m.truncate n t) where
  isFront := truncate_prefix m n t
  fits := columns_truncate_le m n t
  longest _ hv hfits := (prefix_truncate hv hfits).length_le

/-- There is no other front of that length. -/
lemma isLongestFit_iff : m.IsLongestFit n t u ↔ u = m.truncate n t := by
  have hcut := m.isLongestFit_truncate n t
  constructor
  · intro h
    have hfront : u <+: m.truncate n t := prefix_truncate h.isFront h.fits
    have hlength : (m.truncate n t).length ≤ u.length := h.longest _ hcut.isFront hcut.fits
    exact hfront.eq_of_length_le hlength
  · rintro rfl
    exact hcut

/-! ### Filling up -/

/-- A text followed by characters `fill` only goes up to column `n`. -/
structure FilledUp (m : Measure) (n : Nat) (fill : Char) (shown filled : Text) : Prop where
  filling : ∃ k, filled = shown ++ List.replicate k fill
  columns : m.columns filled = n

lemma filledUp_pad (h : m.AddsUp t) (hfill : m.charWidth fill = 1) (n : Nat) :
    m.FilledUp n fill (m.truncate n t) (m.pad n fill t) := by
  have hfits : m.columns (m.truncate n t) ≤ n := m.columns_truncate_le n t
  have hfilling := (SingleColumn.replicate hfill (n - m.columns (m.truncate n t))).columns_eq
  constructor
  · exact ⟨n - m.width (m.truncate n t), rfl⟩
  · rw [pad, h.width_truncate, columns_append, hfilling, List.length_replicate]
    omega

/-- A filled text is made of the characters of the text and the one to fill up with. -/
lemma width_pad {A : Char → Prop} (h : m.Additive A) (ht : ∀ c ∈ t, A c) (hA : A fill)
    (hfill : m.charWidth fill = 1) (n : Nat) : m.width (m.pad n fill t) = n := by
  have hall : ∀ c ∈ m.pad n fill t, A c := by
    refine List.forall_mem_append.mpr ⟨fun c hc => ?_, fun c hc => ?_⟩
    · have hfront := truncate_prefix m n t
      exact ht c (hfront.subset hc)
    · rwa [List.eq_of_mem_replicate hc]
  rw [h _ hall, (filledUp_pad (h.addsUp ht) hfill n).columns]

lemma Ascii.width_pad (h : m.Ascii) (ht : t.Printable) (hfill : Text.IsPrintable fill) (n : Nat) :
    m.width (m.pad n fill t) = n :=
  Measure.width_pad h.additive ht hfill (h.charWidth_eq hfill) n

/-- **A text is cut to its longest front that fits, and filled up to exactly the last column.** The
cut is the only front of the text that fits and is as long as any that does. Behind it there is
nothing but the character to fill up with. If the widths of some characters add up, a text made of
them and filled up with any character of a single column takes as many columns as asked for, and it
is as wide if the widths of these characters and the one to fill up with add up. Widths of printable
ASCII characters do. -/
theorem truncate_longest_pad_exact (m : Measure) (t : Text) :
    (∀ n u, m.IsLongestFit n t u ↔ u = m.truncate n t) ∧
      (m.Ascii → m.Additive Text.IsPrintable) ∧
      ∀ fill, m.charWidth fill = 1 →
        ((m.AddsUp t → ∀ n, m.FilledUp n fill (m.truncate n t) (m.pad n fill t)) ∧
          ∀ A, m.Additive A → (∀ c ∈ t, A c) →
            m.AddsUp t ∧ (A fill → ∀ n, m.width (m.pad n fill t) = n)) := by
  refine ⟨fun n u => isLongestFit_iff, fun h => h.additive, fun fill hfill => ⟨?_, ?_⟩⟩
  · exact fun h n => filledUp_pad h hfill n
  · exact fun A h ht => ⟨h.addsUp ht, fun hA n => width_pad h ht hA hfill n⟩

/-- Two letters in five columns, and in four a letter with an accent and two wide characters, of
which the second does not fit and leaves a column free. -/
theorem truncate_longest_pad_wide :
    let letters : Text := ['a', 'b']
    let wide : Text := ['e', '\u0301', '你', '好']
    let cut : Text := ['e', '\u0301', '你']
    unicode.Ascii ∧ unicode.charWidth '-' = 1 ∧ letters.Printable ∧ unicode.AddsUp wide ∧
      (unicode.FilledUp 5 '-' letters ['a', 'b', '-', '-', '-'] ∧
        unicode.width ['a', 'b', '-', '-', '-'] = 5) ∧
      unicode.IsLongestFit 4 wide cut ∧
      (unicode.FilledUp 4 '-' cut ['e', '\u0301', '你', '-'] ∧
        unicode.width ['e', '\u0301', '你', '-'] = 4) := by
  intro letters wide cut
  have hfill : unicode.charWidth '-' = 1 := by decide
  have hprintable : letters.Printable := by decide
  have hselector : ∀ c ∈ wide, c ≠ '\ufe0f' := by simp [wide]
  obtain ⟨-, hascii, hletters⟩ := truncate_longest_pad_exact unicode letters
  obtain ⟨hlongest, -, hexact⟩ := truncate_longest_pad_exact unicode wide
  obtain ⟨hfilled, hadditive⟩ := hletters '-' hfill
  obtain ⟨hfilled', hadditive'⟩ := hexact '-' hfill
  obtain ⟨hadds, hwidth⟩ := hadditive _ (hascii ascii_unicode) hprintable
  obtain ⟨hadds', hwidth'⟩ := hadditive' _ additive_unicode hselector
  have hwhole : unicode.truncate 5 letters = letters := by decide +kernel
  have hcut : unicode.truncate 4 wide = cut := by decide +kernel
  have hthree : unicode.pad 5 '-' letters = ['a', 'b', '-', '-', '-'] := by decide +kernel
  have hone : unicode.pad 4 '-' wide = ['e', '\u0301', '你', '-'] := by decide +kernel
  refine ⟨ascii_unicode, hfill, hprintable, hadds', ⟨?_, ?_⟩, ?_, ?_, ?_⟩
  · simpa only [hwhole, hthree] using hfilled hadds 5
  · simpa only [hthree] using hwidth (by decide) 5
  · exact (hlongest 4 cut).mpr hcut.symm
  · simpa only [hcut, hone] using hfilled' hadds' 4
  · simpa only [hone] using hwidth' (by decide) 4

end Measure

end CodePad
