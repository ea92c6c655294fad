import CodePad.Proofs.Buffer.Run
import CodePad.Proofs.Document.Replace
import CodePad.Proofs.Highlighting
import CodePad.Proofs.Text.Lines

/-!
A buffer as a plain text with two offsets. What each action does to the text and to the
offsets can be told without the runs, and a buffer of runs does exactly that. A pass of
highlighting is seen in one way only: it turns the selection so that it begins at its start.
-/

namespace CodePad

/-- A text with a selection in it, given by the offsets of its two ends. -/
structure FlatBuffer where
  text : Text
  anchor : Nat
  focus : Nat
  /-- The column that moving up and down aims at, once such a move has begun. -/
  goal : Option Nat
  deriving DecidableEq, Repr

namespace FlatBuffer

/-- A text with a caret in it. -/
def caret (t : Text) (k : Nat) : FlatBuffer := ⟨t, k, k, none⟩

/-- The offset at which the selection begins. -/
def start (f : FlatBuffer) : Nat := min f.anchor f.focus

/-- The offset at which the selection ends. -/
def stop (f : FlatBuffer) : Nat := max f.anchor f.focus

/-- Puts a text in place of the selection. -/
def insert (f : FlatBuffer) (t : Text) : FlatBuffer :=
  caret (f.text.take f.start ++ t ++ f.text.drop f.stop) (f.start + t.length)

/-- Deletes the selection, or else the character before the caret. -/
def backspace (f : FlatBuffer) : FlatBuffer :=
  if f.start < f.stop then caret (f.text.take f.start ++ f.text.drop f.stop) f.start
  else if f.start = 0 then f
  else caret (f.text.take (f.start - 1) ++ f.text.drop f.start) (f.start - 1)

/-- Deletes the selection, or else the character after the caret. -/
def deleteForward (f : FlatBuffer) : FlatBuffer :=
  if f.start < f.stop then caret (f.text.take f.start ++ f.text.drop f.stop) f.start
  else if f.start = f.text.length then f
  else caret (f.text.take f.start ++ f.text.drop (f.start + 1)) f.start

/-- Puts a unit of indentation in front of the selection. -/
def tab (unit : Text) (f : FlatBuffer) : FlatBuffer :=
  caret (f.text.take f.start ++ unit ++ f.text.drop f.start) (f.start + unit.length)

/-- Breaks the line at the selection. The new line may begin with the blanks of the old one; an
opening brace in front of the selection is closed, in front of what was behind the selection or at
the end of the text. -/
def enter (unit : Text) (policy : EnterPolicy) (f : FlatBuffer) : FlatBuffer :=
  let front := f.text.take f.start
  let back := f.text.drop f.stop
  let line := front.drop (f.text.lineStart f.start)
  let blanks := line.takeWhile isBlank
  if line.getLast? = some '\x7b' then
    match policy with
    | .carryIndent =>
      caret (front ++ ('\n' :: blanks ++ unit) ++ ('\n' :: blanks ++ ['\x7d']) ++ back)
        (f.start + 1 + blanks.length + unit.length)
    | .braceOnly =>
      caret (front ++ ('\n' :: unit) ++ back ++ ['\n', '\x7d']) (f.start + 1 + unit.length)
  else
    match policy with
    | .carryIndent => caret (front ++ ('\n' :: blanks) ++ back) (f.start + 1 + blanks.length)
    | .braceOnly => caret (front ++ ['\n'] ++ back) (f.start + 1)

/-- The column that a move up or down aims at. -/
def aim (f : FlatBuffer) : Nat := f.goal.getD (f.focus - f.text.lineStart f.focus)

/-- The offset that a move of the caret leads to. -/
def target (f : FlatBuffer) (m : Motion) (extend : Bool) : Nat :=
  match m with
  | .left => if !extend && f.start < f.stop then f.start else f.focus - 1
  | .right => if !extend && f.start < f.stop then f.stop else min (f.focus + 1) f.text.length
  | .up =>
    let here := f.text.lineStart f.focus
    if here = 0 then f.focus else min (f.text.lineStart (here - 1) + f.aim) (here - 1)
  | .down =>
    let here := f.text.lineEnd f.focus
    if here = f.text.length then f.focus
    else min (here + 1 + f.aim) (f.text.lineEnd (here + 1))
  | .lineStart => f.text.lineStart f.focus
  | .lineEnd => f.text.lineEnd f.focus
  | .documentStart => 0
  | .documentEnd => f.text.length

/-- Moves the caret. -/
def move (f : FlatBuffer) (m : Motion) (extend : Bool) : FlatBuffer where
  text := f.text
  anchor := if extend then f.anchor else f.target m extend
  focus := f.target m extend
  goal := if m.isVertical then some f.aim else none

/-- Has the selection begin at its start. -/
def forward (f : FlatBuffer) : FlatBuffer := { f with anchor := f.start, focus := f.stop }

/-- The flat buffer after an action. -/
def apply (unit : Text) (policy : EnterPolicy) (f : FlatBuffer) : Buffer.Action → FlatBuffer
  | .insert t => f.insert t
  | .insertChar c => f.insert [c]
  | .backspace => f.backspace
  | .deleteForward => f.deleteForward
  | .enter => f.enter unit policy
  | .tab => f.tab unit
  | .move m extend => f.move m extend
  | .setHighlighting _ => f.forward
  | .highlight => f.forward

/-- The flat buffer after some actions, the first of them first. -/
def run (unit : Text) (policy : EnterPolicy) (f : FlatBuffer) (actions : List Buffer.Action) :
    FlatBuffer :=
  actions.foldl (apply unit policy) f

/-- What Enter puts into the text are the parts of a line break. -/
lemma enter_eq (unit : Text) (policy : EnterPolicy) (f : FlatBuffer) :
    let before := (f.text.take f.start).drop (f.text.lineStart f.start)
    let br := Buffer.lineBreak policy unit before
    f.enter unit policy =
      caret (f.text.take f.start ++ (br.head ++ br.tail) ++ f.text.drop f.stop ++ br.last)
        (f.start + br.head.length) := by
  intro before br
  by_cases hopens : before.getLast? = some '\x7b' <;> cases policy <;>
    simp [enter, br, Buffer.lineBreak.eq_def, Buffer.opensBlock, before, hopens, Text.indent,
      Nat.add_assoc, Nat.add_comm 1]

@[simp] lemma forward_caret (t : Text) (k : Nat) : (caret t k).forward = caret t k := by
  simp [caret, forward, start, stop]

end FlatBuffer

namespace Buffer

/-- The text of a buffer and the offsets of its selection; without one, of a caret at the start. -/
def flat (b : Buffer) : FlatBuffer := ⟨b.text, b.anchorOffset, b.focusOffset, b.goal⟩

/-- There is a selection, be it a caret alone. -/
def HasCaret (b : Buffer) : Prop := b.selection.isSome = true

variable (b : Buffer)

lemma length_document : b.document.length = b.text.length := b.document.length_text.symm

lemma anchorOffset_le : b.anchorOffset ≤ b.text.length :=
  b.length_document ▸ b.document.offsetOf_le b.current.anchor

lemma focusOffset_le : b.focusOffset ≤ b.text.length :=
  b.length_document ▸ b.document.offsetOf_le b.current.focus

lemma flat_stop_le : b.flat.stop ≤ b.text.length :=
  Nat.max_le.mpr ⟨b.anchorOffset_le, b.focusOffset_le⟩

lemma flat_start_le_stop : b.flat.start ≤ b.flat.stop :=
  Nat.le_trans (Nat.min_le_left _ _) (Nat.le_max_left _ _)

lemma flat_start_le : b.flat.start ≤ b.text.length :=
  Nat.le_trans b.flat_start_le_stop b.flat_stop_le

section

variable {b}

lemma selection_eq (h : b.HasCaret) : b.selection = some b.current := by
  obtain ⟨s, hs⟩ := Option.isSome_iff_exists.mp h
  rw [current, hs, Option.getD_some]

lemma range_eq (h : b.HasCaret) : b.range = some ⟨b.flat.start, b.flat.stop⟩ := by
  have hstart : (b.current.range b.document).start = b.flat.start :=
    b.current.range_start b.document
  have hstop : (b.current.range b.document).stop = b.flat.stop := b.current.range_stop b.document
  rw [range, selection_eq h, ← hstart, ← hstop]
  rfl

lemma selection_eq_none (h : ¬ b.HasCaret) : b.selection = none := by
  rwa [HasCaret, Bool.not_eq_true, Option.isSome_eq_false_iff, Option.isNone_iff_eq_none] at h

lemma range_eq_none (h : ¬ b.HasCaret) : b.range = none := by
  rw [range, selection_eq_none h]
  rfl

lemma eq_of_range {r : Range} (h : b.range = some r) :
    b.HasCaret ∧ r = ⟨b.flat.start, b.flat.stop⟩ := by
  have hcaret : b.HasCaret := by
    by_contra hnot
    rw [range_eq_none hnot] at h
    cases h
  exact ⟨hcaret, Option.some.inj (h.symm.trans (range_eq hcaret))⟩

lemma caretLineCol_eq (h : b.HasCaret) : b.caretLineCol = some b.caretPlace := by
  rw [caretPlace, caretLineCol, selection_eq h]
  rfl

/-- Without a selection both of its ends count as the start of the text. -/
lemma offsets_eq_zero (h : ¬ b.HasCaret) : b.anchorOffset = 0 ∧ b.focusOffset = 0 := by
  have hcurrent : b.current = .caret .zero := by rw [current, selection_eq_none h, Option.getD_none]
  rw [anchorOffset, focusOffset, hcurrent]
  exact ⟨Document.offsetOf_zero _, Document.offsetOf_zero _⟩

end

/-- Where the caret is shown is the place of its offset. -/
lemma caretPlace_eq : b.caretPlace = b.text.lineCol b.focusOffset := by
  by_cases h : b.HasCaret
  · rw [caretPlace, caretLineCol, selection_eq h]
    rfl
  · rw [caretPlace, caretLineCol, selection_eq_none h, (offsets_eq_zero h).2]
    rfl

/-! ### Editing -/

lemma flat_highlight : b.highlight.flat = b.flat.forward := by
  have htext : b.highlight.text = b.text := b.highlighter.text_highlight b.document.text
  by_cases h : b.HasCaret
  · have hlen : b.highlight.document.length = b.document.length :=
      b.highlighter.length_highlight b.document
    have hselection : b.highlight.selection =
        some (.ofRange b.highlight.document ⟨b.flat.start, b.flat.stop⟩) :=
      congrArg (Selection.restore b.highlight.document) (range_eq h)
    have hcurrent : b.highlight.current =
        .ofRange b.highlight.document ⟨b.flat.start, b.flat.stop⟩ := by
      rw [current, hselection, Option.getD_some]
    have hanchor : b.highlight.anchorOffset = b.flat.start := by
      rw [anchorOffset, hcurrent, Selection.offsetOf_ofRange_anchor, hlen, length_document]
      exact Nat.min_eq_left b.flat_start_le
    have hfocus : b.highlight.focusOffset = b.flat.stop := by
      rw [focusOffset, hcurrent, Selection.offsetOf_ofRange_focus, hlen, length_document,
        Nat.max_eq_right b.flat_start_le_stop]
      exact Nat.min_eq_left b.flat_stop_le
    rw [flat, htext, hanchor, hfocus]
    rfl
  · -- Without a selection there is none afterwards, and both ends count as the start.
    have hnone : ¬ b.highlight.HasCaret := by
      have hselection : b.highlight.selection = none :=
        congrArg (Selection.restore b.highlight.document) (range_eq_none h)
      simp [HasCaret, hselection]
    obtain ⟨ha, hf⟩ := offsets_eq_zero h
    obtain ⟨ha', hf'⟩ := offsets_eq_zero hnone
    simp only [FlatBuffer.forward, FlatBuffer.start, FlatBuffer.stop, flat, htext, ha, hf, ha', hf']
    rfl

lemma flat_replace (start stop : Nat) (new : Text) (h : start ≤ stop) (hs : start ≤ b.text.length) :
    (b.replace start stop new).flat =
      .caret (b.text.take start ++ new ++ b.text.drop stop) (start + new.length) := by
  have htext := b.document.text_replace start stop new
  have hoff := b.document.offsetOf_replace start stop new
  rw [Nat.max_eq_right h] at htext
  rw [b.length_document, Nat.min_eq_left hs] at hoff
  have htext' : (b.replace start stop new).text =
      b.text.take start ++ new ++ b.text.drop stop := htext
  have hanchor : (b.replace start stop new).anchorOffset = start + new.length := hoff
  have hfocus : (b.replace start stop new).focusOffset = start + new.length := hoff
  rw [flat, htext', hanchor, hfocus]
  rfl

lemma hasCaret_replace (start stop : Nat) (new : Text) : (b.replace start stop new).HasCaret := rfl

/-- An edit and the pass after it leave the caret after the new characters. -/
lemma flat_highlight_replace (start stop : Nat) (new : Text) (h : start ≤ stop)
    (hs : start ≤ b.text.length) :
    (b.replace start stop new).highlight.flat =
      .caret (b.text.take start ++ new ++ b.text.drop stop) (start + new.length) := by
  rw [flat_highlight, b.flat_replace start stop new h hs, FlatBuffer.forward_caret]

section

-- Edits are made at the selection.
variable {b} (hb : b.HasCaret)

include hb

lemma flat_insert (t : Text) : (b.insert t).flat = b.flat.insert t := by
  simp only [insert, range_eq hb]
  exact b.flat_highlight_replace _ _ t b.flat_start_le_stop b.flat_start_le

lemma flat_backspace : b.backspace.flat = b.flat.backspace := by
  have hse := b.flat_start_le_stop
  have hle := b.flat_stop_le
  simp only [backspace, range_eq hb, Range.isEmpty, FlatBuffer.backspace]
  by_cases hne : b.flat.start < b.flat.stop
  · rw [if_pos (by simp; omega), if_pos hne, b.flat_highlight_replace _ _ [] hse (by omega)]
    simp [flat]
  · rw [if_neg (by simp; omega), if_neg hne]
    by_cases hz : b.flat.start = 0
    · rw [if_neg (by omega), if_pos hz]
    · rw [if_pos (by omega), if_neg hz,
        b.flat_highlight_replace _ _ [] (by omega) (by omega)]
      simp [flat]

lemma flat_deleteForward : b.deleteForward.flat = b.flat.deleteForward := by
  have hse := b.flat_start_le_stop
  have hle := b.flat_stop_le
  have htext : b.flat.text = b.text := rfl
  simp only [deleteForward, range_eq hb, Range.isEmpty, length_document,
    FlatBuffer.deleteForward, htext]
  by_cases hne : b.flat.start < b.flat.stop
  · rw [if_pos (by simp; omega), if_pos hne, b.flat_highlight_replace _ _ [] hse (by omega)]
    simp
  · rw [if_neg (by simp; omega), if_neg hne]
    by_cases hz : b.flat.start = b.text.length
    · rw [if_neg (by omega), if_pos hz]
    · rw [if_pos (by omega), if_neg hz,
        b.flat_highlight_replace _ _ [] (by omega) (by omega)]
      simp

lemma flat_tab : b.tab.flat = b.flat.tab b.indentUnit := by
  simp only [tab, range_eq hb]
  exact b.flat_highlight_replace _ _ _ (Nat.le_refl _) b.flat_start_le

end

lemma text_append (t : Text) : (b.append t).text = b.text ++ t := by
  unfold append
  split
  · next h => rw [List.isEmpty_iff.mp h, List.append_nil]
  · calc (b.document.replace b.document.length b.document.length t).1.text
        = b.text.take b.text.length ++ t ++ b.text.drop b.text.length := by
          rw [b.document.text_replace, Nat.max_self, length_document]
          rfl
      _ = b.text ++ t := by rw [List.take_length, List.drop_length, List.append_nil]

lemma flat_placeCaret {k : Nat} (h : k ≤ b.text.length) :
    (b.placeCaret k).flat = ⟨b.text, k, k, b.goal⟩ := by
  have hlen := b.length_document
  have hanchor : (b.placeCaret k).anchorOffset = k :=
    (Selection.offsetOf_ofRange_anchor b.document (.caret k)).trans
      (by rw [Range.caret, hlen]; exact Nat.min_eq_left h)
  have hfocus : (b.placeCaret k).focusOffset = k :=
    (Selection.offsetOf_ofRange_focus b.document (.caret k)).trans
      (by rw [Range.caret, hlen, Nat.max_self]; exact Nat.min_eq_left h)
  rw [flat, hanchor, hfocus]
  rfl

lemma flat_enter (hb : b.HasCaret) : b.enter.flat = b.flat.enter b.indentUnit b.policy := by
  have hs := b.flat_start_le
  have hbefore : b.text.lineBefore b.flat.start =
      (b.text.take b.flat.start).drop (b.text.lineStart b.flat.start) :=
    Text.lineBefore_eq_drop hs
  simp only [enter, range_eq hb, FlatBuffer.enter_eq, hbefore]
  set br := lineBreak b.policy b.indentUnit
    ((b.text.take b.flat.start).drop (b.text.lineStart b.flat.start)) with hbr
  have hrep := b.flat_replace _ _ (br.head ++ br.tail) b.flat_start_le_stop hs
  set edited := b.replace b.flat.start b.flat.stop (br.head ++ br.tail) with hedited
  have htext : edited.text = b.text.take b.flat.start ++ (br.head ++ br.tail) ++
      b.text.drop b.flat.stop := congrArg FlatBuffer.text hrep
  -- The appended text lies behind the caret and does not move it.
  have hgoal : (edited.append br.last).goal = none := by
    unfold append
    split <;> rfl
  have happ := edited.text_append br.last
  rw [flat_highlight, flat_placeCaret, happ, htext, hgoal]
  · exact FlatBuffer.forward_caret _ _
  · rw [happ, htext]
    simp only [List.length_append, List.length_take]
    omega

/-! ### Moving -/

lemma caretPlace_col : b.caretPlace.col = b.focusOffset - b.text.lineStart b.focusOffset := by
  rw [caretPlace_eq]
  exact Text.col_eq_sub_lineStart b.focusOffset_le

lemma caretPlace_line_lt : b.caretPlace.line < b.text.lines.length := by
  obtain ⟨pre, line, post, col, h⟩ := Text.exists_lineAt b.focusOffset_le
  rw [caretPlace_eq, h.lineCol_eq, h.lines_eq, List.length_append, List.length_cons]
  simp

lemma aim_eq : b.goal.getD (b.text.lineCol b.focusOffset).col = b.flat.aim := by
  rw [← caretPlace_eq, caretPlace_col]
  rfl

lemma target_eq (m : Motion) (extend : Bool) :
    b.target m extend b.flat.aim = b.flat.target m extend := by
  have ha := b.anchorOffset_le
  have hf := b.focusOffset_le
  have htext : b.flat.text = b.text := rfl
  have hfocus : b.flat.focus = b.focusOffset := rfl
  have hedge : (!extend && b.anchorOffset != b.focusOffset) =
      (!extend && decide (b.flat.start < b.flat.stop)) := by
    congr 1
    simp only [bne, FlatBuffer.start, FlatBuffer.stop, flat]
    by_cases h : b.anchorOffset = b.focusOffset
    · simp [h]
    · have : min b.anchorOffset b.focusOffset < max b.anchorOffset b.focusOffset := by omega
      simp [h, this]
  cases m with
  | left =>
    simp only [target, FlatBuffer.target, hedge, hfocus]
    rfl
  | right =>
    simp only [target, FlatBuffer.target, hedge, hfocus, htext, length_document]
    rfl
  | up =>
    simp only [target, FlatBuffer.target, Motion.line?, hfocus, htext]
    by_cases h : b.text.lineStart b.focusOffset = 0
    · have := (Text.lineStart_eq_zero_iff hf).mp h
      rw [if_neg (by omega), if_pos h]
    · have := mt (Text.lineStart_eq_zero_iff hf).mpr h
      rw [if_pos (by omega), if_neg h]
      exact Text.offsetAt_above hf h _
  | down =>
    simp only [target, FlatBuffer.target, Motion.line?, hfocus, htext]
    by_cases h : b.text.lineEnd b.focusOffset = b.text.length
    · rw [if_neg ((Text.lineEnd_eq_length_iff hf).mp h), if_pos h]
    · have := mt (Text.lineEnd_eq_length_iff hf).mpr h
      rw [if_pos (by omega), if_neg h]
      exact Text.offsetAt_below hf h _
  | lineStart =>
    have hle := b.text.lineStart_le b.focusOffset
    simp only [target, FlatBuffer.target, hfocus, htext, Text.col_eq_sub_lineStart hf]
    omega
  | lineEnd => exact Text.offsetAt_lineEnd hf (Nat.le_refl _)
  | documentStart => rfl
  | documentEnd => exact b.length_document

lemma flat_target_le (m : Motion) (extend : Bool) : b.flat.target m extend ≤ b.text.length := by
  have hf := b.focusOffset_le
  have hse := b.flat_start_le_stop
  have hle := b.flat_stop_le
  have htext : b.flat.text = b.text := rfl
  have hfocus : b.flat.focus = b.focusOffset := rfl
  have hstart := b.text.lineStart_le b.focusOffset
  have hend := Text.lineEnd_le hf
  cases m with
  | left =>
    simp only [FlatBuffer.target, hfocus]
    split <;> omega
  | right =>
    simp only [FlatBuffer.target, hfocus, htext]
    split <;> omega
  | up =>
    simp only [FlatBuffer.target, hfocus, htext]
    split <;> omega
  | down =>
    simp only [FlatBuffer.target, hfocus, htext]
    split
    · omega
    · next h =>
      have := Text.lineEnd_le (t := b.text) (k := b.text.lineEnd b.focusOffset + 1) (by omega)
      omega
  | lineStart =>
    simp only [FlatBuffer.target, hfocus, htext]
    omega
  | lineEnd => exact hend
  | documentStart => exact Nat.zero_le _
  | documentEnd => exact Nat.le_refl _

lemma flat_move (m : Motion) (extend : Bool) : (b.move m extend).flat = b.flat.move m extend := by
  have htarget := b.target_eq m extend
  have hoff : b.document.offsetOf (b.document.positionAt (b.flat.target m extend)) =
      b.flat.target m extend := by
    rw [Document.offsetOf_positionAt, length_document]
    exact Nat.min_eq_left (b.flat_target_le m extend)
  simp only [move, aim_eq, htarget]
  cases extend
  · simp only [flat, text, anchorOffset, focusOffset, FlatBuffer.move]
    simp only [Bool.false_eq_true, if_false]
    rw [FlatBuffer.mk.injEq]
    exact ⟨rfl, hoff, hoff, rfl⟩
  · rw [flat, FlatBuffer.move, FlatBuffer.mk.injEq]
    exact ⟨rfl, rfl, hoff, rfl⟩

/-! ### Runs -/

variable {b} in
lemma flat_apply (hb : b.HasCaret) (a : Action) :
    (b.apply a).flat = b.flat.apply b.indentUnit b.policy a := by
  cases a with
  | insert t => exact flat_insert hb t
  | insertChar c => exact flat_insert hb [c]
  | backspace => exact flat_backspace hb
  | deleteForward => exact flat_deleteForward hb
  | enter => exact b.flat_enter hb
  | tab => exact flat_tab hb
  | move m extend => exact b.flat_move m extend
  | setHighlighting enabled => exact flat_highlight _
  | highlight => exact b.flat_highlight

/-- Nothing that is done to a buffer with a selection leaves it without one. -/
lemma HasCaret.highlight {b : Buffer} (h : b.HasCaret) : b.highlight.HasCaret := by
  have hselection : b.highlight.selection =
      Selection.restore b.highlight.document (some ⟨b.flat.start, b.flat.stop⟩) :=
    congrArg (Selection.restore b.highlight.document) (range_eq h)
  rw [HasCaret, hselection]
  rfl

lemma hasCaret_highlight_replace (start stop : Nat) (new : Text) :
    (b.replace start stop new).highlight.HasCaret := (b.hasCaret_replace start stop new).highlight

lemma HasCaret.apply {b : Buffer} (h : b.HasCaret) (a : Action) : (b.apply a).HasCaret := by
  cases a with
  | insert | insertChar | tab =>
    simp only [Buffer.apply, insert, tab, range_eq h]
    exact hasCaret_highlight_replace ..
  | backspace | deleteForward =>
    simp only [Buffer.apply, backspace, deleteForward, range_eq h]
    split
    · exact hasCaret_highlight_replace ..
    · split
      · exact hasCaret_highlight_replace ..
      · exact h
  | enter =>
    simp only [Buffer.apply, enter, range_eq h]
    exact HasCaret.highlight rfl
  | move => rfl
  | setHighlighting | highlight => exact HasCaret.highlight h

lemma hasCaret_run {b : Buffer} (h : b.HasCaret) (actions : List Action) :
    (b.run actions).HasCaret := run_induction (fun _ a hb => hb.apply a) h actions

lemma hasCaret_run_new (h : Highlighter) (unit : Text) (policy : EnterPolicy)
    (actions : List Action) : ((new h unit policy).run actions).HasCaret :=
  hasCaret_run (b := new h unit policy) rfl actions

lemma settings_apply (a : Action) :
    (b.apply a).indentUnit = b.indentUnit ∧ (b.apply a).policy = b.policy ∧
      (b.apply a).highlighter.lexer = b.highlighter.lexer := by
  cases a with
  | move | setHighlighting | highlight => exact ⟨rfl, rfl, rfl⟩
  | insert | insertChar | tab =>
    simp only [apply, insert, tab]
    split <;> exact ⟨rfl, rfl, rfl⟩
  | backspace | deleteForward =>
    simp only [apply, backspace, deleteForward]
    split
    · exact ⟨rfl, rfl, rfl⟩
    · repeat' split
      all_goals exact ⟨rfl, rfl, rfl⟩
  | enter =>
    simp only [apply, enter, append]
    split
    · exact ⟨rfl, rfl, rfl⟩
    · split <;> exact ⟨rfl, rfl, rfl⟩

lemma settings_run (actions : List Action) :
    (b.run actions).indentUnit = b.indentUnit ∧ (b.run actions).policy = b.policy ∧
      (b.run actions).highlighter.lexer = b.highlighter.lexer := by
  induction actions generalizing b with
  | nil => exact ⟨rfl, rfl, rfl⟩
  | cons a actions ih =>
    obtain ⟨hunit, hpolicy, hlexer⟩ := b.settings_apply a
    rw [run_cons, ← hunit, ← hpolicy, ← hlexer]
    exact ih (b.apply a)

variable {b} in
lemma flat_run (hb : b.HasCaret) (actions : List Action) :
    (b.run actions).flat = b.flat.run b.indentUnit b.policy actions := by
  induction actions generalizing b with
  | nil => rfl
  | cons a actions ih =>
    obtain ⟨hunit, hpolicy, -⟩ := b.settings_apply a
    rw [run_cons, ih (hb.apply a), hunit, hpolicy, flat_apply hb]
    rfl

/-- What is seen of a buffer that has just been made after some actions. -/
lemma flat_run_new (h : Highlighter) (unit : Text) (policy : EnterPolicy)
    (actions : List Action) :
    ((new h unit policy).run actions).flat = (FlatBuffer.caret [] 0).run unit policy actions :=
  flat_run (b := new h unit policy) rfl actions

/-- **A buffer does to its text and to its selection what each action does to a plain text with
two offsets**, whatever the runs are and whether highlighting is on or off. There is a selection at
all times. -/
theorem run_refines_flat (h : Highlighter) (unit : Text) (policy : EnterPolicy)
    (actions : List Action) (a : Action) :
    ((new h unit policy).run actions).HasCaret ∧
      ((new h unit policy).run actions).flat = (FlatBuffer.caret [] 0).run unit policy actions ∧
      (((new h unit policy).run actions).apply a).flat =
        ((new h unit policy).run actions).flat.apply unit policy a := by
  obtain ⟨hunit, hpolicy, -⟩ := (new h unit policy).settings_run actions
  have hcaret := hasCaret_run_new h unit policy actions
  refine ⟨hcaret, flat_run_new h unit policy actions, ?_⟩
  rw [flat_apply hcaret, hunit, hpolicy]
  rfl

end Buffer

end CodePad
