import CodePad.Proofs.Buffer.Goal

/-!
Series of moves up and down. Each move of a series aims at the column in which the series began, so
that how far the caret has gone down is told by the moves alone, and its column by the line where it
is: short lines on the way, and moves that find no line to go to, leave no trace.
-/

namespace CodePad

namespace Motion

/-- The number of lines that a move goes down. -/
def descent : Motion → Int
  | up => -1
  | down => 1
  | _ => 0

/-- The line after a move, no further than the first and the last one. -/
def lineAfter (last : Nat) (line : Int) (m : Motion) : Int := max 0 (min last (line + m.descent))

/-- The line after some moves, each of which stops at the first and at the last line. -/
def lineAfterAll (last : Nat) (line : Int) (ms : List Motion) : Int :=
  ms.foldl (lineAfter last) line

variable {m : Motion} {line last : Nat}

lemma lineAfter_of_some {i : Nat} (h : m.line? line last = some i) (hline : line ≤ last) :
    lineAfter last line m = i := by
  cases m with
  | up =>
    simp only [line?, Option.ite_none_right_eq_some, Option.some.injEq] at h
    simp only [lineAfter, descent]
    omega
  | down =>
    simp only [line?, Option.ite_none_right_eq_some, Option.some.injEq] at h
    simp only [lineAfter, descent]
    omega
  | _ => cases h

lemma lineAfter_of_none (hm : m.isVertical = true) (h : m.line? line last = none)
    (hline : line ≤ last) : lineAfter last line m = line := by
  cases m with
  | up =>
    have hfirst : ¬ 0 < line := fun hlt => by simp [line?, hlt] at h
    simp only [lineAfter, descent]
    omega
  | down =>
    have hlast : ¬ line < last := fun hlt => by simp [line?, hlt] at h
    simp only [lineAfter, descent]
    omega
  | _ => exact absurd hm Bool.false_ne_true

end Motion

namespace Buffer

/-- The number of the last line. -/
def lastLine (b : Buffer) : Nat := b.text.lines.length - 1

/-- A buffer in a series of moves through a document that aim at the column `col`: its caret is in a
line and in this column, or at the end of the line if that is shorter. -/
structure Aims (b : Buffer) (d : Document) (col line : Nat) : Prop where
  document_eq : b.document = d
  aim_eq : b.aim = col
  exists_line : ∃ t, d.text.lines[line]? = some t ∧ b.caretPlace = ⟨line, min col t.length⟩

variable {b : Buffer} {m : Motion}

/-- A series begins at the caret. -/
lemma aims_of_goal (h : b.goal = none) :
    b.Aims b.document b.caretPlace.col b.caretPlace.line := by
  obtain ⟨pre, t, post, col, hat⟩ := Text.exists_lineAt b.focusOffset_le
  have hplace : b.caretPlace = ⟨pre.length, col⟩ := b.caretPlace_eq.trans hat.lineCol_eq
  have hline : b.document.text.lines[pre.length]? = some t := by
    have hlines : b.document.text.lines = pre ++ t :: post := hat.lines_eq
    rw [hlines]
    simp
  refine ⟨rfl, by rw [aim, h]; rfl, t, ?_, ?_⟩
  · rwa [hplace]
  · rw [hplace, Nat.min_eq_left hat.col_le]

/-- A move up or down with no line to go to leaves the caret where it is. -/
lemma caretPlace_move_of_none (extend : Bool) (hm : m.isVertical = true)
    (h : m.line? b.caretPlace.line b.lastLine = none) :
    (b.move m extend).caretPlace = b.caretPlace := by
  have htarget : b.target m extend b.aim = b.focusOffset := by
    cases m with
    | up | down =>
      simp only [target]
      rw [caretPlace_eq, lastLine] at h
      rw [h]
    | _ => exact absurd hm Bool.false_ne_true
  have hfocus : (b.move m extend).focusOffset = b.focusOffset := by
    have hoff := b.document.offsetOf_positionAt (b.target m extend b.aim)
    rw [htarget, length_document, Nat.min_eq_left b.focusOffset_le] at hoff
    rw [← hoff, ← htarget, aim, caretPlace_eq]
    rfl
  rw [caretPlace_eq, hfocus, caretPlace_eq]
  rfl

/-- Each move of a series goes one line up or down if there is such a line, and still aims at the
same column. -/
lemma Aims.move {d : Document} {col line : Nat} (h : b.Aims d col line) (hm : m.isVertical = true)
    (extend : Bool) :
    ∃ line' : Nat, line' = m.lineAfter (d.text.lines.length - 1) line ∧
      (b.move m extend).Aims d col line' := by
  obtain ⟨rfl, rfl, t, hline, hplace⟩ := h
  have hlt : line < b.text.lines.length := (List.getElem?_eq_some_iff.mp hline).1
  have hgoal : (b.move m extend).goal = some b.aim :=
    goal_apply_of_isVertical (b := b) (a := .move m extend) hm
  have haim : (b.move m extend).aim = b.aim := by
    rw [aim, hgoal]
    rfl
  have hnumber : b.caretPlace.line = line := by rw [hplace]
  cases hnext : m.line? line (b.text.lines.length - 1) with
  | some i =>
    obtain ⟨t', hline', hplace'⟩ := exists_caretLineCol_move (b := b) extend (hnumber ▸ hnext)
    exact ⟨i, (Motion.lineAfter_of_some hnext (by omega)).symm, rfl, haim, t', hline',
      congrArg (·.getD ⟨0, 0⟩) hplace'⟩
  | none =>
    have hstay := caretPlace_move_of_none (b := b) extend hm (hnumber ▸ hnext)
    exact ⟨line, (Motion.lineAfter_of_none hm hnext (by omega)).symm, rfl, haim, t, hline,
      hstay.trans hplace⟩

lemma Aims.moves {d : Document} {col line : Nat} (h : b.Aims d col line)
    {ms : List (Motion × Bool)} (hms : ∀ m ∈ ms, m.1.isVertical = true) :
    ∃ line' : Nat,
      line' = Motion.lineAfterAll (d.text.lines.length - 1) line (ms.map Prod.fst) ∧
        (b.moves ms).Aims d col line' := by
  -- the line where a move ends is the one where the other moves begin
  induction ms generalizing b line with
  | nil => exact ⟨line, rfl, h⟩
  | cons m ms ih =>
    rw [List.forall_mem_cons] at hms
    obtain ⟨line', hline', h'⟩ := h.move hms.1 m.2
    rw [List.map_cons, Motion.lineAfterAll, List.foldl_cons, ← hline']
    exact ih h' hms.2

lemma anchor_moves {ms : List (Motion × Bool)} (h : ∀ m ∈ ms, m.2 = true) :
    (b.moves ms).current.anchor = b.current.anchor := by
  induction ms generalizing b with
  | nil => rfl
  | cons m ms ih =>
    rw [List.forall_mem_cons] at h
    calc (b.moves (m :: ms)).current.anchor
        = (b.move m.1 m.2).current.anchor := ih h.2
      _ = b.current.anchor := if_pos h.1

lemma HasCaret.of_caretLineCol {p : LineCol} (h : b.caretLineCol = some p) : b.HasCaret := by
  by_contra hnot
  rw [caretLineCol, selection_eq_none hnot] at h
  cases h

/-- **A series of moves up and down remembers the column in which it began.** After each of its
moves the caret is in the line to which the moves so far lead from the first one, each of them
stopping at the first and at the last line, and in the column in which the series began, or at the
end of a line that is shorter. The document is the same all the time, and so is the other end of the
selection as long as all moves extend it. -/
theorem moves_keep_column (b : Buffer) (place : LineCol) (hplace : b.caretLineCol = some place)
    (hgoal : b.goal = none) (ms : List (Motion × Bool)) (hms : ∀ m ∈ ms, m.1.isVertical = true)
    (done : List (Motion × Bool)) (hdone : done <+: ms) :
    let b' := b.moves done
    b'.document = b.document ∧ b'.text = b.text ∧
      (∃ (line : Nat) (t : Text), b.text.lines[line]? = some t ∧
        line = Motion.lineAfterAll b.lastLine place.line (done.map Prod.fst) ∧
        b'.caretLineCol = some ⟨line, min place.col t.length⟩) ∧
      ((∀ m ∈ done, m.2 = true) →
        b'.selection.map Selection.anchor = b.selection.map Selection.anchor) := by
  intro b'
  have hb := HasCaret.of_caretLineCol hplace
  have hb' : b'.HasCaret := hasCaret_run hb _
  obtain rfl : b.caretPlace = place := Option.some.inj ((caretLineCol_eq hb).symm.trans hplace)
  obtain ⟨line, hfold, hdocument, -, t, hline, hplace'⟩ :=
    (aims_of_goal hgoal).moves fun m hm => hms m (hdone.subset hm)
  refine ⟨hdocument, congrArg Document.text hdocument, ⟨line, t, hline, hfold, ?_⟩, fun h => ?_⟩
  · rw [caretLineCol_eq hb', hplace']
  · rw [selection_eq hb', selection_eq hb]
    exact congrArg some (anchor_moves h)

/-- From the end of the first of three lines past the end of the last, over an empty one. -/
theorem moves_keep_column_past_end :
    let b := (new {} [' '] .carryIndent).run [.insert ['a', 'b', '\n', '\n', 'c'],
      .move .documentStart false, .move .lineEnd false]
    let done := [(Motion.down, true), (Motion.down, true), (Motion.down, true)]
    (b.caretLineCol = some ⟨0, 2⟩ ∧ b.goal = none ∧
        (∀ m ∈ done ++ [(Motion.up, false)], m.1.isVertical = true) ∧
        done <+: done ++ [(Motion.up, false)] ∧ ∀ m ∈ done, m.2 = true) ∧
      (b.moves done).caretLineCol = some ⟨2, 1⟩ ∧
      (b.moves done).selection.map Selection.anchor = b.selection.map Selection.anchor := by
  intro b done
  have hb : b.HasCaret := hasCaret_run_new ..
  have hflat : b.flat = ⟨['a', 'b', '\n', '\n', 'c'], 2, 2, none⟩ := flat_run_new ..
  have htext : b.text = ['a', 'b', '\n', '\n', 'c'] := congrArg FlatBuffer.text hflat
  have hfocus : b.focusOffset = 2 := congrArg FlatBuffer.focus hflat
  have hgoal : b.goal = none := congrArg FlatBuffer.goal hflat
  have hplace : b.caretLineCol = some ⟨0, 2⟩ := by
    rw [caretLineCol_eq hb, caretPlace_eq, htext, hfocus]
    rfl
  have hvertical : ∀ m ∈ done ++ [(Motion.up, false)], m.1.isVertical = true := by
    simp [done, Motion.isVertical]
  have hextend : ∀ m ∈ done, m.2 = true := by simp [done]
  obtain ⟨-, -, ⟨line, t, hline, hfold, hplace'⟩, hanchor⟩ :=
    moves_keep_column b ⟨0, 2⟩ hplace hgoal _ hvertical done (List.prefix_append _ _)
  have hnumber : line = 2 := by
    rw [lastLine, htext] at hfold
    exact Int.ofNat_inj.mp hfold
  rw [hnumber, htext] at hline
  obtain rfl : ['c'] = t := Option.some.inj hline
  rw [hnumber] at hplace'
  exact ⟨⟨hplace, hgoal, hvertical, List.prefix_append _ _, hextend⟩, hplace', hanchor hextend⟩

end Buffer

end CodePad
