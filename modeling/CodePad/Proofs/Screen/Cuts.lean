import CodePad.Proofs.Screen.Budget

/-!
Where a line is cut, and what is shown of it. The parts of a line are fitted in one by one, each
into the columns that those before it have left, and that is not the same as fitting in the line at
once. If a character is too wide for the last column, one from a later part may take the column; and
once no column is left, a later part is not begun, even if it begins with characters that take none.
Where neither happens, the line is shown as if it had not been cut.
-/

namespace CodePad

namespace Screen

open Command

/-- A character that fits into the columns left by the text in front of it, though not all of that
text does. -/
def Overtakes (m : Measure) (n : Nat) (front : Text) (c : Char) : Prop :=
  n < m.columns front ∧ m.columns (m.truncate n front) < n ∧
    m.charWidth c ≤ n - m.columns (m.truncate n front)

/-- A character that takes no column, behind a text that takes all there are. -/
def Stranded (m : Measure) (n : Nat) (front : Text) (c : Char) : Prop :=
  m.columns front = n ∧ m.charWidth c = 0

instance (m : Measure) (n : Nat) (front : Text) (c : Char) : Decidable (Overtakes m n front c) :=
  inferInstanceAs (Decidable (_ ∧ _ ∧ _))

instance (m : Measure) (n : Nat) (front : Text) (c : Char) : Decidable (Stranded m n front c) :=
  inferInstanceAs (Decidable (_ ∧ _))

/-- Wherever one of some parts begins, something holds of the text in front of it and of its first
character. -/
def AtCuts (P : Text → Char → Prop) (parts : List Text) : Prop :=
  ∀ before c t after, parts = before ++ (c :: t) :: after → P before.flatten c

section

variable {m : Measure} {P : Text → Char → Prop} {n : Nat} {t front : Text} {c : Char}
  {ts : List Text}

lemma atCuts_nil : AtCuts P [] := by
  intro before c t after h
  exact absurd h.symm (by simp)

lemma atCuts_cons : AtCuts P (t :: ts) ↔
    (∀ c ∈ t.head?, P [] c) ∧ AtCuts (fun front => P (t ++ front)) ts := by
  constructor
  · intro h
    refine ⟨?_, fun before c u after hts => ?_⟩
    · intro c hc
      obtain ⟨u, rfl⟩ := List.head?_eq_some_iff.mp hc
      exact h [] c u ts rfl
    · exact h (t :: before) c u after (by rw [hts]; rfl)
  · rintro ⟨hfirst, hrest⟩ before c u after hts
    cases before with
    | nil =>
      obtain ⟨rfl, -⟩ := List.cons.inj hts
      exact hfirst c rfl
    | cons s before =>
      obtain ⟨rfl, rfl⟩ := List.cons.inj hts
      exact hrest before c u after rfl

lemma atCuts_congr {Q : Text → Char → Prop} (h : ∀ front c, P front c ↔ Q front c) :
    AtCuts P ts ↔ AtCuts Q ts :=
  forall_congr' fun _ => forall_congr' fun _ => forall_congr' fun _ => forall_congr' fun _ =>
    forall_congr' fun _ => h _ _

/-! ### Characters behind a part -/

lemma overtakes_append_of_le (h : m.columns t ≤ n) :
    Overtakes m n (t ++ front) c ↔ Overtakes m (n - m.columns t) front c := by
  rw [Overtakes, Overtakes, Measure.truncate_append_of_le h, Measure.columns_append,
    Measure.columns_append]
  omega

lemma overtakes_append_of_lt (h : n < m.columns t) :
    Overtakes m n (t ++ front) c ↔
      m.columns (m.truncate n t) < n ∧ m.charWidth c ≤ n - m.columns (m.truncate n t) := by
  rw [Overtakes, Measure.truncate_append_of_lt h, Measure.columns_append]
  omega

lemma stranded_append_of_le (h : m.columns t ≤ n) :
    Stranded m n (t ++ front) c ↔ Stranded m (n - m.columns t) front c := by
  rw [Stranded, Stranded, Measure.columns_append]
  omega

lemma not_stranded_append_of_lt (h : n < m.columns t) : ¬ Stranded m n (t ++ front) c := by
  rw [Stranded, Measure.columns_append]
  omega

/-! ### Parts -/

lemma fit_id_cons (hn : n ≠ 0) (t : Text) (ts : List Text) :
    fit m id n (t :: ts) = m.truncate n t ++ fit m id (n - m.columns (m.truncate n t)) ts := by
  have htake := map_take_truncate m id n t
  rw [List.map_id, List.map_id] at htake
  rw [fit_cons m id hn, List.map_id, htake]

lemma columns_fit_id_le (n : Nat) (ts : List Text) : m.columns (fit m id n ts) ≤ n := by
  simpa using columns_fit_le m id n ts

/-- Nothing is shown of some parts exactly if none of them begins with a character that fits. -/
lemma fit_eq_nil_iff :
    fit m id n ts = [] ↔ AtCuts (fun _ c => ¬ (0 < n ∧ m.charWidth c ≤ n)) ts := by
  by_cases hn : n = 0
  · rw [hn, fit_zero]
    exact iff_of_true rfl fun _ _ _ _ _ h => absurd h.1 (Nat.lt_irrefl 0)
  · induction ts with
    | nil => exact iff_of_true rfl atCuts_nil
    | cons t ts ih =>
      have hfirst : m.truncate n t = [] ↔ ∀ c ∈ t.head?, ¬ (0 < n ∧ m.charWidth c ≤ n) := by
        rw [Measure.truncate_eq_nil_iff]
        exact forall₂_congr fun c _ => by omega
      rw [fit_id_cons hn, List.append_eq_nil_iff, atCuts_cons, ← ih, ← hfirst]
      refine and_congr_right fun h => ?_
      rw [h]
      rfl

lemma truncate_zero_eq_nil_iff : m.truncate 0 ts.flatten = [] ↔
    AtCuts (fun front c => ¬ Stranded m 0 front c) ts := by
  induction ts with
  | nil => exact iff_of_true rfl atCuts_nil
  | cons t ts ih =>
    rw [List.flatten_cons, atCuts_cons]
    cases t with
    | nil => simpa using ih
    | cons c t =>
      rw [Measure.truncate_eq_nil_iff]
      constructor
      · intro h
        have hc : 0 < m.charWidth c := h c rfl
        refine ⟨fun d hd hstranded => ?_, fun before d u after _ hstranded => ?_⟩
        · obtain rfl : c = d := Option.some.inj hd
          exact absurd hstranded.2 (Nat.ne_of_gt hc)
        · have hcolumns := hstranded.1
          rw [List.cons_append, Measure.columns_cons] at hcolumns
          omega
      · rintro ⟨h, -⟩ d hd
        obtain rfl : c = d := Option.some.inj hd
        exact Nat.pos_of_ne_zero fun hzero => h c rfl ⟨rfl, hzero⟩

lemma not_overtakes_nil : ¬ Overtakes m n [] c := fun h => absurd h.1 (Nat.not_lt_zero n)

lemma not_overtakes_zero : ¬ Overtakes m 0 front c := fun h => absurd h.2.1 (Nat.not_lt_zero _)

/-- A part that fits is shown, and the columns that it takes are gone. -/
lemma fit_id_cons_of_le (hn : n ≠ 0) (h : m.columns t ≤ n) :
    fit m id n (t :: ts) = t ++ fit m id (n - m.columns t) ts := by
  rw [fit_id_cons hn, Measure.truncate_of_columns_le h]

/-- Behind a part that does not fit, nothing overtakes it exactly if nothing more is shown. -/
lemma atCuts_not_overtakes_append_of_lt (h : n < m.columns t) :
    AtCuts (fun front c => ¬ Overtakes m n (t ++ front) c) ts ↔
      fit m id (n - m.columns (m.truncate n t)) ts = [] := by
  rw [fit_eq_nil_iff]
  refine atCuts_congr fun front c => ?_
  rw [overtakes_append_of_lt h, Nat.sub_pos_iff_lt]

/-- Parts are fitted in as the whole text exactly if no character overtakes another or is
stranded. -/
lemma fit_eq_truncate_iff : fit m id n ts = m.truncate n ts.flatten ↔
    AtCuts (fun front c => ¬ Overtakes m n front c ∧ ¬ Stranded m n front c) ts := by
  induction ts generalizing n with
  | nil => exact iff_of_true rfl atCuts_nil
  | cons t ts ih =>
    by_cases hn : n = 0
    · rw [hn, fit_zero, eq_comm, truncate_zero_eq_nil_iff]
      exact atCuts_congr fun front c => (and_iff_right not_overtakes_zero).symm
    · have hfirst : ∀ c ∈ t.head?, ¬ Overtakes m n [] c ∧ ¬ Stranded m n [] c :=
        fun c _ => ⟨not_overtakes_nil, fun hstranded => hn hstranded.1.symm⟩
      rw [atCuts_cons, and_iff_right hfirst, List.flatten_cons]
      -- Behind a part that fits the question is the same for the rest; behind one that does not,
      -- the whole text ends, so nothing may be shown of the rest.
      by_cases hle : m.columns t ≤ n
      · rw [fit_id_cons_of_le hn hle, Measure.truncate_append_of_le hle,
          List.append_cancel_left_eq, ih]
        refine atCuts_congr fun front c => ?_
        rw [overtakes_append_of_le hle, stranded_append_of_le hle]
      · have hlt : n < m.columns t := Nat.lt_of_not_le hle
        rw [fit_id_cons hn, Measure.truncate_append_of_lt hlt, List.append_right_eq_self,
          ← atCuts_not_overtakes_append_of_lt hlt]
        exact atCuts_congr fun front c => (and_iff_left (not_stranded_append_of_lt hlt)).symm

/-- What is shown of some parts is a front of the text exactly if no character overtakes another. -/
lemma fit_prefix_iff :
    fit m id n ts <+: ts.flatten ↔ AtCuts (fun front c => ¬ Overtakes m n front c) ts := by
  induction ts generalizing n with
  | nil => exact iff_of_true (List.prefix_refl _) atCuts_nil
  | cons t ts ih =>
    by_cases hn : n = 0
    · rw [hn, fit_zero]
      exact iff_of_true List.nil_prefix fun _ _ _ _ _ => not_overtakes_zero
    · rw [atCuts_cons, and_iff_right fun c _ => not_overtakes_nil, List.flatten_cons]
      by_cases hle : m.columns t ≤ n
      · rw [fit_id_cons_of_le hn hle, List.prefix_append_right_inj, ih]
        exact atCuts_congr fun front c => by rw [overtakes_append_of_le hle]
      · have hlt : n < m.columns t := Nat.lt_of_not_le hle
        rw [fit_id_cons hn, atCuts_not_overtakes_append_of_lt hlt]
        exact Measure.truncate_append_prefix_iff hlt (columns_fit_id_le _ ts)

end

/-! ### Lines -/

lemma written_writeTexts {p : Platform} {n : Nat} {ss : List (Style × Text)} {cs : List Command}
    (hadds : ∀ t ∈ ss.map Prod.snd, p.measure.AddsUp t) (h : writeTexts p n ss = some cs) :
    written cs = fit p.measure id n (ss.map Prod.snd) := by
  induction ss generalizing n cs with
  | nil =>
    obtain rfl : [] = cs := Option.some.inj h
    rfl
  | cons x ss ih =>
    obtain ⟨s, t⟩ := x
    by_cases hn : n = 0
    · rw [hn, writeTexts_zero] at h
      obtain rfl : [] = cs := Option.some.inj h
      rw [hn, fit_zero, written_nil]
    · rw [List.map_cons, List.forall_mem_cons] at hadds
      obtain ⟨left, more, hleft, hmore, rfl⟩ := (writeTexts_cons_eq_some_iff hn).mp h
      rw [hadds.1.width_truncate, Underflow.sub?_of_le _ (p.measure.columns_truncate_le n t),
        Option.some.injEq] at hleft
      rw [written_append, written_writeStyled, ih hadds.2 hmore, List.map_cons, fit_id_cons hn,
        hleft]

/-- **A cut line is shown as the line in one would be exactly if no character overtakes another or
is stranded.** What is written of a line that is cut by its pieces and the selection are characters
of the line in their order. If widths add up, the line is written, and it is as much as of the line
in one exactly if, wherever a part begins, its first character does not take columns that one in
front was too wide for, and is not left out for want of a column although it takes none. It is a
front of the line exactly if no character overtakes another. -/
theorem written_writeLine_eq_truncate_iff (p : Platform) (theme : Theme) (selected : Option Range)
    (n : Nat) (line : List Piece) :
    let text := Piece.lineText line
    let parts := lineParts selected line
    (∀ cs, writeLine p theme selected n line = some cs → (written cs).Sublist text) ∧
      ((∀ t ∈ parts, p.measure.AddsUp t) → ∃ cs, writeLine p theme selected n line = some cs ∧
        (written cs = p.measure.truncate n text ↔ AtCuts (fun front c =>
          ¬ Overtakes p.measure n front c ∧ ¬ Stranded p.measure n front c) parts) ∧
        (written cs <+: text ↔
          AtCuts (fun front c => ¬ Overtakes p.measure n front c) parts)) := by
  intro text parts
  refine ⟨fun cs h => (written_writeLine h).1, fun hadds => ?_⟩
  obtain ⟨cs, hcs⟩ := exists_writeLine_of_addsUp p theme n hadds
  have hshown : written cs = fit p.measure id n parts := by
    have hparts : (styledTexts theme selected line).map Prod.snd = parts :=
      map_snd_styledTexts theme selected line
    rw [← hparts]
    exact written_writeTexts (hparts ▸ hadds) hcs
  have htext : text = parts.flatten := (flatten_lineParts selected line).symm
  refine ⟨cs, hcs, ?_⟩
  rw [hshown, htext]
  exact ⟨fit_eq_truncate_iff, fit_prefix_iff⟩

/-- Two wide characters behind a narrow one, in two columns: the line is cut between the wide ones,
and the second does not fit where the first did not. -/
theorem written_writeLine_wide :
    let line : List Piece := [⟨none, ['a', '世', '世'], 0⟩]
    let selected : Option Range := some ⟨2, 3⟩
    (∀ t ∈ lineParts selected line, Measure.unicode.AddsUp t) ∧
      ∃ cs, writeLine .standard .standard selected 2 line = some cs ∧
        written cs = Measure.unicode.truncate 2 (Piece.lineText line) := by
  intro line selected
  have hparts : lineParts selected line = [['a', '世'], ['世']] := by decide
  have hadds : ∀ t ∈ lineParts selected line, Measure.unicode.AddsUp t :=
    lineAddsUp_of_additive Measure.additive_unicode (by simp [line, Piece.lineText])
  have hcuts : AtCuts (fun front c =>
      ¬ Overtakes .unicode 2 front c ∧ ¬ Stranded .unicode 2 front c)
      (lineParts selected line) := by
    rw [hparts, atCuts_cons, atCuts_cons]
    simp only [List.head?_cons, Option.mem_def, Option.some.injEq, forall_eq']
    exact ⟨by decide +kernel, by decide +kernel, atCuts_nil⟩
  obtain ⟨-, hiff⟩ := written_writeLine_eq_truncate_iff .standard .standard selected 2 line
  obtain ⟨cs, hcs, htruncate, -⟩ := hiff hadds
  exact ⟨hadds, cs, hcs, htruncate.mpr hcuts⟩

/-- A narrow character, a wide and another narrow one, of which the last is selected, in two
columns: the wide one does not fit, but the last does, although the line in one would end before the
wide one. -/
theorem written_writeLine_overtaken :
    let line : List Piece := [⟨none, ['a', '世', 'b'], 0⟩]
    (writeLine .standard .standard (some ⟨2, 3⟩) 2 line).map written = some ['a', 'b'] ∧
      Measure.unicode.truncate 2 (Piece.lineText line) = ['a'] ∧
      ¬ ['a', 'b'] <+: Piece.lineText line := by
  decide +kernel

end Screen

end CodePad
