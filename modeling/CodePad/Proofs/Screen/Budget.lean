import CodePad.Proofs.Screen.Line

/-!
The columns that are left while a line is written. What is written of a part fits by the columns of
its characters, but its width is taken away, and a measure may say that a text is wider than its
characters are: a narrow character that a variation selector makes a picture, for one. So the
columns left can run out too soon: there may be fewer of them than are taken away. If arithmetic is
checked this ends the program, and otherwise the columns left start again from the greatest word.
-/

namespace CodePad

/-- Writing a line never ends the program: arithmetic is not checked, or no text is wider than the
columns that it is cut to. -/
def Platform.NeverStops (p : Platform) : Prop :=
  p.underflow = .stops → ∀ t n, n ≠ 0 → p.measure.width (p.measure.truncate n t) ≤ n

lemma Platform.neverStops_standard : Platform.standard.NeverStops := nofun

namespace Screen

open Command

/-- The columns that are left when some parts of a line have been written. -/
def columnsLeft (m : Measure) (columns : Nat) (parts : List Text) : Nat :=
  parts.foldl (fun left t => left - m.width (m.truncate left t)) columns

/-- Some part, as far as it is shown, is wider than what those before it have left. -/
def RunsOut (m : Measure) (columns : Nat) (parts : List Text) : Prop :=
  ∃ before t after, parts = before ++ t :: after ∧
    let left := columnsLeft m columns before
    left ≠ 0 ∧ left < m.width (m.truncate left t)

section

variable {m : Measure} {p : Platform} {n : Nat} {s : Style} {t : Text} {ts : List Text}
  {ss : List (Style × Text)}

lemma not_runsOut_nil : ¬ RunsOut m n [] := by
  rintro ⟨before, t, after, h, -⟩
  exact absurd h.symm (by simp)

lemma not_runsOut_zero : ¬ RunsOut m 0 ts := by
  rintro ⟨before, t, after, -, hleft, -⟩
  refine hleft ?_
  clear hleft
  induction before with
  | nil => rfl
  | cons u before ih => rw [columnsLeft, List.foldl_cons, Nat.zero_sub, ← columnsLeft, ih]

lemma runsOut_cons_iff (hn : n ≠ 0) : RunsOut m n (t :: ts) ↔
    n < m.width (m.truncate n t) ∨ RunsOut m (n - m.width (m.truncate n t)) ts := by
  constructor
  · rintro ⟨before, u, after, hparts, hlt⟩
    cases before with
    | nil =>
      obtain ⟨rfl, -⟩ := List.cons.inj hparts
      exact Or.inl hlt.2
    | cons v before =>
      obtain ⟨rfl, htail⟩ := List.cons.inj hparts
      exact Or.inr ⟨before, u, after, htail, hlt⟩
  · rintro (hlt | ⟨before, u, after, hparts, hlt⟩)
    · exact ⟨[], t, ts, rfl, hn, hlt⟩
    · exact ⟨t :: before, u, after, congrArg (t :: ·) hparts, hlt⟩

lemma not_runsOut_of_le (h : ∀ t ∈ ts, ∀ k ≠ 0, m.width (m.truncate k t) ≤ k) :
    ¬ RunsOut m n ts := by
  rintro ⟨before, t, after, rfl, hleft, hlt⟩
  exact absurd (h t (by simp) _ hleft) (Nat.not_le.mpr hlt)

lemma writeTexts_cons_eq_none_iff (hn : n ≠ 0) : writeTexts p n ((s, t) :: ss) = none ↔
    (p.underflow = .stops ∧ n < p.measure.width (p.measure.truncate n t)) ∨
      ∃ left, p.underflow.sub? n (p.measure.width (p.measure.truncate n t)) = some left ∧
        writeTexts p left ss = none := by
  rw [← Underflow.sub?_eq_none_iff]
  simp only [writeTexts, if_neg hn]
  cases p.underflow.sub? n (p.measure.width (p.measure.truncate n t)) with
  | none => simp
  | some left => cases h : writeTexts p left ss <;> simp [h]

/-- The program ends exactly if the columns run out while they are checked. -/
lemma writeTexts_eq_none_iff : writeTexts p n ss = none ↔
    p.underflow = .stops ∧ RunsOut p.measure n (ss.map Prod.snd) := by
  induction ss generalizing n with
  | nil => exact iff_of_false (by simp [writeTexts]) fun h => not_runsOut_nil h.2
  | cons x ss ih =>
    obtain ⟨s, t⟩ := x
    by_cases hn : n = 0
    · rw [hn, writeTexts_zero]
      exact iff_of_false (by simp) fun h => not_runsOut_zero h.2
    · rw [writeTexts_cons_eq_none_iff hn, List.map_cons, runsOut_cons_iff hn]
      by_cases hle : p.measure.width (p.measure.truncate n t) ≤ n
      · simp only [Underflow.sub?_of_le _ hle, Option.some.injEq, exists_eq_left', ih,
          Nat.not_lt.mpr hle, and_false, false_or]
      · -- This part is too wide: if arithmetic wraps around, writing goes on to the end.
        have hlt := Nat.lt_of_not_le hle
        constructor
        · rintro (h | ⟨left, -, h⟩)
          · exact ⟨h.1, Or.inl hlt⟩
          · exact ⟨(ih.mp h).1, Or.inl hlt⟩
        · exact fun h => Or.inl ⟨h.1, hlt⟩

end

section

variable {p : Platform} {theme : Theme} {selected : Option Range} {n : Nat} {line : List Piece}

lemma writeLine_eq_none_iff : writeLine p theme selected n line = none ↔
    p.underflow = .stops ∧ RunsOut p.measure n (lineParts selected line) := by
  rw [writeLine, writeTexts_eq_none_iff, map_snd_styledTexts]

lemma exists_writeLine_of_le
    (h : ∀ t ∈ lineParts selected line, ∀ k ≠ 0, p.measure.width (p.measure.truncate k t) ≤ k) :
    ∃ cs, writeLine p theme selected n line = some cs := by
  rw [← Option.ne_none_iff_exists', Ne, writeLine_eq_none_iff]
  exact fun hnone => not_runsOut_of_le h hnone.2

lemma width_truncate_le_of_addsUp {m : Measure} (h : LineAddsUp m selected line) :
    ∀ t ∈ lineParts selected line, ∀ k ≠ 0, m.width (m.truncate k t) ≤ k := by
  intro t ht k _
  rw [(h t ht).width_truncate]
  exact m.columns_truncate_le k t

lemma exists_writeLine_of_addsUp (p : Platform) (theme : Theme) (n : Nat)
    (h : LineAddsUp p.measure selected line) :
    ∃ cs, writeLine p theme selected n line = some cs :=
  exists_writeLine_of_le (width_truncate_le_of_addsUp h)

end

/-! ### Lines that stay within their columns -/

/-- Parts that take no more columns than are counted for them: none has a front that is narrower
than its characters, and the columns left do not run out. -/
def StaysWithin (m : Measure) (n : Nat) (parts : List Text) : Prop :=
  (∀ t ∈ parts, ∀ u : Text, u <+: t → m.columns u ≤ m.width u) ∧ ¬ RunsOut m n parts

section

variable {p : Platform} {theme : Theme} {selected : Option Range} {n : Nat} {line : List Piece}

lemma staysWithin_of_addsUp {m : Measure} (h : LineAddsUp m selected line) :
    StaysWithin m n (lineParts selected line) :=
  ⟨fun t ht u hu => Nat.le_of_eq (h t ht u hu).symm,
    not_runsOut_of_le (width_truncate_le_of_addsUp h)⟩

lemma columns_writeTexts_le {ss : List (Style × Text)} {cs : List Command}
    (h : StaysWithin p.measure n (ss.map Prod.snd)) (hcs : writeTexts p n ss = some cs) :
    p.measure.columns (written cs) ≤ n := by
  induction ss generalizing n cs with
  | nil =>
    obtain rfl := Option.some.inj hcs
    exact Nat.zero_le n
  | cons x ss ih =>
    obtain ⟨s, t⟩ := x
    by_cases hn : n = 0
    · rw [hn, writeTexts_zero] at hcs
      obtain rfl := Option.some.inj hcs
      exact Nat.zero_le n
    · obtain ⟨hfronts, hruns⟩ := h
      rw [List.map_cons, List.forall_mem_cons] at hfronts
      rw [List.map_cons, runsOut_cons_iff hn, not_or, Nat.not_lt] at hruns
      obtain ⟨left, more, hleft, hmore, rfl⟩ := (writeTexts_cons_eq_some_iff hn).mp hcs
      have hle : p.measure.width (p.measure.truncate n t) ≤ n := hruns.1
      rw [Underflow.sub?_of_le _ hle, Option.some.injEq] at hleft
      have hfront := hfronts.1 _ <| Measure.truncate_prefix p.measure n t
      subst hleft
      have hrest : p.measure.columns (written more) ≤
          n - p.measure.width (p.measure.truncate n t) := ih ⟨hfronts.2, hruns.2⟩ hmore
      rw [written_append, written_writeStyled, Measure.columns_append]
      omega

lemma columns_writeLine_le {cs : List Command}
    (h : StaysWithin p.measure n (lineParts selected line))
    (hcs : writeLine p theme selected n line = some cs) : p.measure.columns (written cs) ≤ n := by
  refine columns_writeTexts_le ?_ hcs
  rwa [map_snd_styledTexts]

end

/-- **The columns left run out too soon exactly where a part is wider than its characters and the
columns that stay free.** If arithmetic is checked, writing a line ends the program exactly if it
comes to a part of which more columns are taken away than those before it have left. This happens to
no line exactly if no text is ever wider than the columns that it is cut to. It does not happen to a
line of which no front of a part is wider than its characters are together; and it does to a text
that is wider than its characters, in as many columns as these take. -/
theorem writeLine_runs_out_iff (m : Measure) (theme : Theme) :
    (∀ u selected n line, writeLine ⟨m, u⟩ theme selected n line = none ↔
        u = .stops ∧ RunsOut m n (lineParts selected line)) ∧
      ((∀ selected n line, writeLine ⟨m, .stops⟩ theme selected n line ≠ none) ↔
        ∀ t n, n ≠ 0 → m.width (m.truncate n t) ≤ n) ∧
      (∀ selected n line,
        (∀ t ∈ lineParts selected line, ∀ u : Text, u <+: t → m.width u ≤ m.columns u) →
          writeLine ⟨m, .stops⟩ theme selected n line ≠ none) ∧
      ∀ t : Text, m.columns t ≠ 0 → m.columns t < m.width t →
        writeLine ⟨m, .stops⟩ theme none (m.columns t) [⟨none, t, 0⟩] = none := by
  have hpart : ∀ t n, n ≠ 0 → n < m.width (m.truncate n t) →
      writeLine ⟨m, .stops⟩ theme none n [⟨none, t, 0⟩] = none := fun t n hn hlt =>
    writeLine_eq_none_iff.mpr ⟨rfl, [], t, [], rfl, hn, hlt⟩
  refine ⟨fun u selected n line => writeLine_eq_none_iff, ⟨fun h t n hn => ?_, fun h => ?_⟩,
    fun selected n line h => ?_, fun t hn hlt => ?_⟩
  · by_contra hle
    exact h none n [⟨none, t, 0⟩] (hpart t n hn (Nat.lt_of_not_le hle))
  · exact fun selected n line => Option.ne_none_iff_exists'.mpr
      (exists_writeLine_of_le fun t _ k hk => h t k hk)
  · refine Option.ne_none_iff_exists'.mpr (exists_writeLine_of_le fun t ht k _ => ?_)
    exact Nat.le_trans (h t ht _ <| Measure.truncate_prefix m k t) (m.columns_truncate_le k t)
  · exact hpart t _ hn (by rwa [Measure.truncate_of_columns_le (Nat.le_refl _)])

/-- A number sign and a variation selector in one column: the text is shown whole, as its characters
take one column, but its width is two. -/
theorem writeLine_runs_out :
    let m := Measure.unicode
    let t : Text := ['#', '\ufe0f']
    m.truncate 1 t = t ∧ m.width t = 2 ∧
      writeLine ⟨m, .stops⟩ .standard none 1 [⟨none, t, 0⟩] = none := by
  decide +kernel

end Screen

end CodePad
