import CodePad.Proofs.Buffer.Flat

/-!
Switching highlighting on or off, and the caret. The text and the selected range stay as they
are, but the selection is made anew from that range, with the caret at its end. So a selection
that was made towards the end of the text is kept, and nothing done later can tell that there was
a switch; one that was made towards the beginning is turned round, and its caret moves.
-/

namespace CodePad

namespace FlatBuffer

variable {f : FlatBuffer}

lemma forward_eq_iff : f.forward = f ↔ f.anchor ≤ f.focus := by
  obtain ⟨text, anchor, focus, goal⟩ := f
  simp only [forward, start, stop, mk.injEq, true_and, and_true]
  omega

end FlatBuffer

namespace Buffer

/-- The buffer after some moves of the caret, each with whether it extends the selection. -/
def moves (b : Buffer) (ms : List (Motion × Bool)) : Buffer :=
  b.run (ms.map fun m => .move m.1 m.2)

variable (b : Buffer) (enabled : Bool)

lemma flat_setHighlighting : (b.setHighlighting enabled).flat = b.flat.forward :=
  flat_highlight { b with highlighter := { b.highlighter with enabled } }

lemma anchorOffset_setHighlighting :
    (b.setHighlighting enabled).anchorOffset = min b.anchorOffset b.focusOffset :=
  congrArg FlatBuffer.anchor (b.flat_setHighlighting enabled)

lemma focusOffset_setHighlighting :
    (b.setHighlighting enabled).focusOffset = max b.anchorOffset b.focusOffset :=
  congrArg FlatBuffer.focus (b.flat_setHighlighting enabled)

lemma text_setHighlighting : (b.setHighlighting enabled).text = b.text :=
  congrArg FlatBuffer.text (b.flat_setHighlighting enabled)

lemma caretPlace_setHighlighting_iff :
    (b.setHighlighting enabled).caretPlace = b.caretPlace ↔ b.anchorOffset ≤ b.focusOffset := by
  rw [caretPlace_eq, text_setHighlighting, focusOffset_setHighlighting, caretPlace_eq]
  constructor
  · intro h
    have hmax := Text.offsetAt_lineCol (Nat.max_le.mpr ⟨b.anchorOffset_le, b.focusOffset_le⟩)
    rw [h, Text.offsetAt_lineCol b.focusOffset_le] at hmax
    exact hmax ▸ Nat.le_max_left _ _
  · intro h
    rw [Nat.max_eq_right h]

lemma flat_setHighlighting_iff :
    (b.setHighlighting enabled).flat = b.flat ↔ b.anchorOffset ≤ b.focusOffset := by
  rw [flat_setHighlighting]
  exact FlatBuffer.forward_eq_iff

/-- A selection that is extended to the start of the text covers what is in front of its anchor. -/
lemma range_move_documentStart :
    (b.move .documentStart true).range = some ⟨0, b.anchorOffset⟩ := by
  have hcaret : (b.move .documentStart true).HasCaret := rfl
  rw [range_eq hcaret, flat_move]
  exact congrArg some (congrArg₂ Range.mk (Nat.min_zero _) (Nat.max_zero _))

section

-- What comes after the switch sees a selection.
variable {b enabled} (hb : b.HasCaret)

include hb

lemma caretLineCol_setHighlighting_iff :
    (b.setHighlighting enabled).caretLineCol = b.caretLineCol ↔
      b.anchorOffset ≤ b.focusOffset := by
  have hb' : (b.setHighlighting enabled).HasCaret := hb.apply (.setHighlighting enabled)
  rw [caretLineCol_eq hb', caretLineCol_eq hb, Option.some.injEq]
  exact b.caretPlace_setHighlighting_iff enabled

/-- What is seen of a buffer depends on what was seen of it before, and on its settings. -/
lemma flat_run_congr {b' : Buffer} (hb' : b'.HasCaret) (hflat : b.flat = b'.flat)
    (hunit : b.indentUnit = b'.indentUnit) (hpolicy : b.policy = b'.policy)
    (actions : List Action) :
    (b.run actions).flat = (b'.run actions).flat := by
  rw [flat_run hb, flat_run hb', hflat, hunit, hpolicy]

lemma flat_run_setHighlighting_iff :
    (∀ later, ((b.setHighlighting enabled).run later).flat = (b.run later).flat) ↔
      b.anchorOffset ≤ b.focusOffset := by
  have hb' : (b.setHighlighting enabled).HasCaret := hb.apply (.setHighlighting enabled)
  rw [← b.flat_setHighlighting_iff enabled]
  exact ⟨fun h => h [], fun h => flat_run_congr hb' hb h rfl rfl⟩

/-- The moves of the caret that come after a switch of highlighting give the same ranges as
without it, if the caret is at the end of the selection; or else there are moves that do not. -/
lemma range_moves_setHighlighting_iff :
    (∀ ms, ((b.setHighlighting enabled).moves ms).range = (b.moves ms).range) ↔
      b.anchorOffset ≤ b.focusOffset := by
  constructor
  · intro h
    have hrange : ((b.setHighlighting enabled).move .documentStart true).range =
        (b.move .documentStart true).range := h [(Motion.documentStart, true)]
    rw [range_move_documentStart, range_move_documentStart, anchorOffset_setHighlighting,
      Option.some.injEq, Range.mk.injEq] at hrange
    omega
  · intro h ms
    have hb' : (b.setHighlighting enabled).HasCaret := hb.apply (.setHighlighting enabled)
    rw [moves, moves, range_eq (hasCaret_run hb' _), range_eq (hasCaret_run hb _),
      (flat_run_setHighlighting_iff hb).mpr h]

end

/-- **Switching highlighting keeps the caret exactly if the caret is not in front of the other end
of the selection.** The text stays in any case. The new selection begins where the old one began
in the text and has its caret where that ended. So if the caret is in front of the other end, both
ends move, the caret is in another place of the text, and some moves that come after the switch
give other ranges than without it. If it is not, nothing done later can tell that there was a
switch. -/
theorem setHighlighting_keeps_caret_iff (h : Highlighter) (unit : Text) (policy : EnterPolicy)
    (actions : List Action) (enabled : Bool) :
    let b := (new h unit policy).run actions
    let b' := b.setHighlighting enabled
    (b'.text = b.text ∧ b'.goal = b.goal ∧ b'.anchorOffset = min b.anchorOffset b.focusOffset ∧
        b'.focusOffset = max b.anchorOffset b.focusOffset) ∧
      (b'.anchorOffset = b.anchorOffset ↔ b.anchorOffset ≤ b.focusOffset) ∧
      (b'.focusOffset = b.focusOffset ↔ b.anchorOffset ≤ b.focusOffset) ∧
      (b'.caretLineCol = b.caretLineCol ↔ b.anchorOffset ≤ b.focusOffset) ∧
      ((∀ ms, (b'.moves ms).range = (b.moves ms).range) ↔
        b.anchorOffset ≤ b.focusOffset) ∧
      ((∀ later, (b'.run later).flat = (b.run later).flat) ↔
        b.anchorOffset ≤ b.focusOffset) := by
  intro b b'
  have hb : b.HasCaret := hasCaret_run_new h unit policy actions
  have hanchor := b.anchorOffset_setHighlighting enabled
  have hfocus := b.focusOffset_setHighlighting enabled
  refine ⟨⟨b.text_setHighlighting enabled, rfl, hanchor, hfocus⟩, ?_, ?_,
    caretLineCol_setHighlighting_iff hb, range_moves_setHighlighting_iff hb,
    flat_run_setHighlighting_iff hb⟩
  · rw [hanchor]
    omega
  · rw [hfocus]
    omega

/-- A selection of the last character, made from the end of the text, and its caret before and
after highlighting is switched off. -/
theorem setHighlighting_moves_caret :
    let b := (new {} [' '] .carryIndent).run [.insert ['a', 'b'], .move .left true]
    (b.anchorOffset = 2 ∧ b.focusOffset = 1 ∧ b.caretLineCol = some ⟨0, 1⟩) ∧
      (b.setHighlighting false).anchorOffset = 1 ∧
      (b.setHighlighting false).focusOffset = 2 ∧
      (b.setHighlighting false).caretLineCol = some ⟨0, 2⟩ := by
  intro b
  have hb : b.HasCaret := hasCaret_run_new ..
  have hb' : (b.setHighlighting false).HasCaret := hb.apply (.setHighlighting false)
  have hflat : b.flat = ⟨['a', 'b'], 2, 1, none⟩ := flat_run_new ..
  have htext : b.text = ['a', 'b'] := congrArg FlatBuffer.text hflat
  have hanchor : b.anchorOffset = 2 := congrArg FlatBuffer.anchor hflat
  have hfocus : b.focusOffset = 1 := congrArg FlatBuffer.focus hflat
  refine ⟨⟨hanchor, hfocus, ?_⟩, ?_, ?_, ?_⟩
  · rw [caretLineCol_eq hb, caretPlace_eq, htext, hfocus]
    rfl
  · rw [anchorOffset_setHighlighting, hanchor, hfocus]
    rfl
  · rw [focusOffset_setHighlighting, hanchor, hfocus]
    rfl
  · rw [caretLineCol_eq hb', caretPlace_eq, text_setHighlighting, focusOffset_setHighlighting,
      htext, hanchor, hfocus]
    rfl

end Buffer

end CodePad
