import Mathlib.Data.List.Induction
import CodePad.Proofs.Buffer.Toggle

/-!
The column that moves up and down aim at. The first such move of a series sets it, so that a series
through short lines comes back to the column where it began, and what ends the series forgets it:
any other move, and any edit, also one that leaves the text as it was. One kind of edit does not. A
deletion that finds nothing to delete leaves the column as it is, and a move up or down after it
may go to a column where the caret has not been since the series.
-/

namespace CodePad

namespace Buffer

namespace Action

/-- Moves up and down. -/
def isVertical : Action → Bool
  | .move m _ => m.isVertical
  | _ => false

/-- Passes of highlighting, which are neither edits nor moves. -/
def isPass : Action → Bool
  | .setHighlighting _ | .highlight => true
  | _ => false

end Action

/-- A deletion that finds nothing to delete: no character is selected and none is on its side of the
caret. -/
def FindsNothing (b : Buffer) : Action → Prop
  | .backspace => b.range = some (.caret 0)
  | .deleteForward => b.range = some (.caret b.text.length)
  | _ => False

/-- All of some actions are passes or find nothing to delete. -/
def Idles (b : Buffer) : List Action → Prop
  | [] => True
  | a :: actions => (a.isPass = true ∨ b.FindsNothing a) ∧ (b.apply a).Idles actions

/-- The column that the next move up or down aims at. -/
def aim (b : Buffer) : Nat := b.goal.getD b.caretPlace.col

variable {b : Buffer} {a : Action} {actions : List Action}

/-! ### One action -/

lemma apply_of_findsNothing (h : b.FindsNothing a) : b.apply a = b := by
  cases a with
  | backspace =>
    have hrange : b.range = some ⟨0, 0⟩ := h
    simp [apply, backspace, hrange, Range.isEmpty]
  | deleteForward =>
    have hrange : b.range = some ⟨b.text.length, b.text.length⟩ := h
    simp [apply, deleteForward, hrange, Range.isEmpty, length_document]
  | insert | insertChar | enter | tab | move | setHighlighting | highlight => exact h.elim

lemma goal_apply_of_isVertical (h : a.isVertical = true) : (b.apply a).goal = some b.aim := by
  cases a with
  | move m extend =>
    rw [aim, caretPlace_eq]
    exact if_pos h
  | _ => exact absurd h Bool.false_ne_true

lemma goal_apply_of_idle (h : a.isPass = true ∨ b.FindsNothing a) : (b.apply a).goal = b.goal := by
  rcases h with h | h
  · cases a with
    | setHighlighting | highlight => rfl
    | _ => exact absurd h Bool.false_ne_true
  · rw [apply_of_findsNothing h]

section

variable (hb : b.HasCaret)

include hb

lemma range_eq_caret {k : Nat} (hempty : b.flat.start = b.flat.stop) (hstart : b.flat.start = k) :
    b.range = some (.caret k) := by
  rw [range_eq hb, ← hempty, hstart, Range.caret]

lemma goal_backspace (h : b.range ≠ some (.caret 0)) : b.backspace.goal = none := by
  simp only [backspace, range_eq hb, Range.isEmpty]
  split
  · rfl
  · next hempty =>
    split
    · rfl
    · next hfirst =>
      exact absurd (range_eq_caret hb (by simpa using hempty) (Nat.eq_zero_of_not_pos hfirst)) h

lemma goal_deleteForward (h : b.range ≠ some (.caret b.text.length)) :
    b.deleteForward.goal = none := by
  have hle := b.flat_start_le
  simp only [deleteForward, range_eq hb, Range.isEmpty, length_document]
  split
  · rfl
  · next hempty =>
    split
    · rfl
    · next hlast =>
      have hend : b.flat.start = b.text.length := Nat.le_antisymm hle (Nat.not_lt.mp hlast)
      exact absurd (range_eq_caret hb (by simpa using hempty) hend) h

lemma goal_enter : b.enter.goal = none := by
  simp only [enter, range_eq hb, append]
  split <;> rfl

/-- Every other action forgets the column. -/
lemma goal_apply_of_not (hvertical : a.isVertical = false)
    (hidle : ¬ (a.isPass = true ∨ b.FindsNothing a)) : (b.apply a).goal = none := by
  rw [not_or] at hidle
  cases a with
  | insert | insertChar | tab =>
    simp only [apply, insert, tab, range_eq hb]
    rfl
  | backspace => exact goal_backspace hb hidle.2
  | deleteForward => exact goal_deleteForward hb hidle.2
  | enter => exact goal_enter hb
  | move m extend =>
    have hm : m.isVertical = false := hvertical
    exact if_neg (by simp [hm])
  | setHighlighting | highlight => exact absurd rfl hidle.1

end

/-! ### Histories -/

lemma idles_append {later : List Action} :
    b.Idles (actions ++ later) ↔ b.Idles actions ∧ (b.run actions).Idles later := by
  induction actions generalizing b with
  | nil => exact (true_and _).symm.to_iff
  | cons a actions ih => rw [List.cons_append, Idles, Idles, ih, and_assoc, run_cons]

lemma idles_of_passes (h : ∀ p ∈ actions, p.isPass = true) : b.Idles actions := by
  induction actions generalizing b with
  | nil => trivial
  | cons a actions ih =>
    rw [List.forall_mem_cons] at h
    exact ⟨.inl h.1, ih h.2⟩

lemma goal_run_of_idles (h : b.Idles actions) : (b.run actions).goal = b.goal := by
  induction actions generalizing b with
  | nil => rfl
  | cons a actions ih => rw [run_cons, ih h.2, goal_apply_of_idle h.1]

/-- There is a column to aim at exactly if there was a move up or down and nothing since but actions
that are idle. -/
lemma goal_run_ne_none_iff (hb : b.HasCaret) (h : b.goal = none) :
    (b.run actions).goal ≠ none ↔ ∃ start a idle, actions = start ++ a :: idle ∧
      a.isVertical = true ∧ (b.run (start ++ [a])).Idles idle := by
  constructor
  · intro hgoal
    -- From the end: only the last action tells whether the column before it is kept.
    induction actions using List.reverseRecOn with
    | nil => exact absurd h hgoal
    | append_singleton actions a ih =>
      rw [run_append] at hgoal
      by_cases hvertical : a.isVertical = true
      · exact ⟨actions, a, [], rfl, hvertical, trivial⟩
      · by_cases hidle : a.isPass = true ∨ (b.run actions).FindsNothing a
        · have hbefore : (b.run actions).goal ≠ none := by
            rwa [← goal_apply_of_idle hidle]
          obtain ⟨start, v, idle, rfl, hv, hrest⟩ := ih hbefore
          refine ⟨start, v, idle ++ [a], by simp, hv, idles_append.mpr ⟨hrest, ?_, trivial⟩⟩
          rwa [← run_append, List.append_assoc, List.singleton_append]
        · have hcaret : (b.run actions).HasCaret := hasCaret_run hb actions
          exact absurd (goal_apply_of_not hcaret (by simpa using hvertical) hidle) hgoal
  · rintro ⟨start, a, idle, rfl, hvertical, hidle⟩
    rw [← List.singleton_append, ← List.append_assoc, run_append, goal_run_of_idles hidle,
      run_append]
    exact (goal_apply_of_isVertical hvertical).symm ▸ Option.some_ne_none _

/-! ### Aiming -/

lemma line?_lt {m : Motion} {line last i : Nat} (h : m.line? line last = some i)
    (hline : line ≤ last) : i ≤ last := by
  unfold Motion.line? at h
  split at h
  · split at h <;> grind
  · split at h <;> grind
  · cases h

/-- A move up or down that has a line to go to goes to the column aimed at, or to the end of a line
that is shorter. -/
lemma exists_caretLineCol_move {m : Motion} {i : Nat} (extend : Bool)
    (h : m.line? b.caretPlace.line (b.text.lines.length - 1) = some i) :
    ∃ line, b.text.lines[i]? = some line ∧
      (b.move m extend).caretLineCol = some ⟨i, min b.aim line.length⟩ := by
  have hlt := b.caretPlace_line_lt
  have hi : i < b.text.lines.length := by
    have := line?_lt h (by omega)
    omega
  have hline := List.getElem?_eq_getElem hi
  have haim : b.aim = b.flat.aim := by rw [aim, caretPlace_eq, aim_eq]
  have htarget : b.target m extend b.aim = b.text.offsetAt i b.aim := by
    cases m with
    | up | down =>
      simp only [target]
      rw [caretPlace_eq] at h
      rw [h]
    | _ => cases h
  have hfocus : (b.move m extend).focusOffset = b.text.offsetAt i b.aim := by
    rw [← htarget, haim, target_eq]
    exact congrArg FlatBuffer.focus (b.flat_move m extend)
  have hcaret : (b.move m extend).HasCaret := rfl
  refine ⟨_, hline, ?_⟩
  rw [caretLineCol_eq hcaret, caretPlace_eq, hfocus, ← Text.lineCol_offsetAt hline]
  rfl

lemma aim_congr {b' : Buffer} (h : b.flat = b'.flat) :
    b.aim = b'.aim ∧ b.caretPlace = b'.caretPlace := by
  have htext : b.text = b'.text := congrArg FlatBuffer.text h
  have hfocus : b.focusOffset = b'.focusOffset := congrArg FlatBuffer.focus h
  have hplace : b.caretPlace = b'.caretPlace := by
    rw [caretPlace_eq, caretPlace_eq, htext, hfocus]
  have hgoal : b.goal = b'.goal := congrArg FlatBuffer.goal h
  exact ⟨by rw [aim, aim, hgoal, hplace], hplace⟩

/-- Passes do not move a caret with nothing selected. -/
lemma flat_run_of_passes (hcaret : b.anchorOffset = b.focusOffset)
    (h : ∀ p ∈ actions, p.isPass = true) : (b.run actions).flat = b.flat := by
  induction actions generalizing b with
  | nil => rfl
  | cons p actions ih =>
    rw [List.forall_mem_cons] at h
    have hforward : b.flat.forward = b.flat := FlatBuffer.forward_eq_iff.mpr (Nat.le_of_eq hcaret)
    have hflat : (b.apply p).flat = b.flat := by
      cases p with
      | setHighlighting enabled => exact (b.flat_setHighlighting enabled).trans hforward
      | highlight => exact b.flat_highlight.trans hforward
      | _ => exact absurd h.1 Bool.false_ne_true
    rw [run_cons, ih _ h.2, hflat]
    exact (congrArg FlatBuffer.anchor hflat).trans
      (hcaret.trans (congrArg FlatBuffer.focus hflat).symm)

lemma FindsNothing.anchorOffset_eq (h : b.FindsNothing a) : b.anchorOffset = b.focusOffset := by
  have hrange : ∃ k, b.range = some (.caret k) := by
    cases a with
    | backspace | deleteForward => exact ⟨_, h⟩
    | _ => exact h.elim
  obtain ⟨k, hk⟩ := hrange
  obtain ⟨-, heq⟩ := eq_of_range hk
  have hmin : k = min b.anchorOffset b.focusOffset := congrArg Range.start heq
  have hmax : k = max b.anchorOffset b.focusOffset := congrArg Range.stop heq
  omega

/-- **The column to aim at outlives the series that set it exactly over deletions that find nothing
to delete.** After a call that is no move up or down, and any passes of highlighting, there is such
a column exactly if the call was a deletion of this kind and before it there was a move up or down,
with nothing in between but passes and such deletions. Then the next move up or down aims where the
caret is exactly if it did so before the call; after all other calls it does. What is aimed at is
the column to which a move to another line goes, if that line is long enough. -/
theorem goal_outlives_iff (h : Highlighter) (unit : Text) (policy : EnterPolicy)
    (before passes : List Action) (call : Action) (hvertical : call.isVertical = false)
    (hpass : call.isPass = false) (hpasses : ∀ p ∈ passes, p.isPass = true) :
    let b := (new h unit policy).run before
    let b' := (b.apply call).run passes
    (b'.goal ≠ none ↔ b.FindsNothing call ∧ ∃ start a idle, before = start ++ a :: idle ∧
        a.isVertical = true ∧ ((new h unit policy).run (start ++ [a])).Idles idle) ∧
      (b'.aim = b'.caretPlace.col ↔ (b.FindsNothing call → b.aim = b.caretPlace.col)) ∧
      (b.caretLineCol = some b.caretPlace ∧ b'.caretLineCol = some b'.caretPlace) ∧
      ∀ m extend i, m.line? b'.caretPlace.line (b'.text.lines.length - 1) = some i →
        ∃ line, b'.text.lines[i]? = some line ∧
          (b'.move m extend).caretLineCol = some ⟨i, min b'.aim line.length⟩ := by
  intro b b'
  have hb : b.HasCaret := hasCaret_run_new h unit policy before
  have hb' : b'.HasCaret := hasCaret_run (hb.apply call) passes
  have hgoal : b'.goal = (b.apply call).goal := goal_run_of_idles (idles_of_passes hpasses)
  refine ⟨?goal, ?aim, ⟨caretLineCol_eq hb, caretLineCol_eq hb'⟩,
    fun m extend i => exists_caretLineCol_move extend⟩
  case goal =>
    rw [hgoal, ← goal_run_ne_none_iff (b := new h unit policy) rfl rfl]
    by_cases hfinds : b.FindsNothing call
    · rw [goal_apply_of_idle (.inr hfinds), and_iff_right hfinds]
    · have hnone : (b.apply call).goal = none :=
        goal_apply_of_not hb hvertical (by simp [hpass, hfinds])
      simp [hnone, hfinds]
  case aim =>
    by_cases hfinds : b.FindsNothing call
    · have hflat : b'.flat = b.flat := by
        simp only [b', apply_of_findsNothing hfinds]
        exact flat_run_of_passes hfinds.anchorOffset_eq hpasses
      obtain ⟨haim, hplace⟩ := aim_congr hflat
      rw [haim, hplace]
      exact (imp_iff_right hfinds).symm
    · have hnone : b'.goal = none :=
        hgoal.trans (goal_apply_of_not hb hvertical (by simp [hpass, hfinds]))
      simp [aim, hnone, hfinds]

/-- A move up from the third column to the start of the text, where Backspace finds nothing, and a
pass. -/
theorem goal_outlives_backspace :
    let b := (new {} [' '] .carryIndent).run [.insert ['\n', 'a', 'b'], .move .up false]
    (Action.backspace.isVertical = false ∧ Action.backspace.isPass = false ∧
        ∀ p ∈ [Action.highlight], p.isPass = true) ∧
      ((b.apply .backspace).run [.highlight]).goal ≠ none := by
  intro b
  have hpasses : ∀ p ∈ [Action.highlight], p.isPass = true := by simp [Action.isPass]
  have hflat : b.flat = ⟨['\n', 'a', 'b'], 0, 0, some 2⟩ := flat_run_new ..
  have hrange : b.range = some (.caret 0) := by
    rw [range_eq (hasCaret_run_new ..), hflat]
    rfl
  obtain ⟨hgoal, -, -⟩ := goal_outlives_iff {} [' '] .carryIndent
    [.insert ['\n', 'a', 'b'], .move .up false] [.highlight] .backspace rfl rfl hpasses
  exact ⟨⟨rfl, rfl, hpasses⟩,
    hgoal.mpr ⟨hrange, [.insert ['\n', 'a', 'b']], .move .up false, [], rfl, rfl, trivial⟩⟩

/-- The same without the pass: the caret is in the first column, but a move down goes to the
third. -/
theorem goal_leads_aside :
    let b := (new {} [' '] .carryIndent).run
      [.insert ['\n', 'a', 'b'], .move .up false, .backspace]
    b.goal = some 2 ∧ b.caretLineCol = some ⟨0, 0⟩ ∧
      (b.move .down false).caretLineCol = some ⟨1, 2⟩ := by
  intro b
  have hb : b.HasCaret := hasCaret_run_new ..
  have hb' : (b.move .down false).HasCaret := hb.apply (.move .down false)
  have hflat : b.flat = ⟨['\n', 'a', 'b'], 0, 0, some 2⟩ := flat_run_new ..
  have hmove : (b.move .down false).flat = ⟨['\n', 'a', 'b'], 3, 3, some 2⟩ := by
    rw [flat_move, hflat]
    rfl
  have htext : b.text = ['\n', 'a', 'b'] := congrArg FlatBuffer.text hflat
  have hfocus : b.focusOffset = 0 := congrArg FlatBuffer.focus hflat
  have hfocus' : (b.move .down false).focusOffset = 3 := congrArg FlatBuffer.focus hmove
  refine ⟨congrArg FlatBuffer.goal hflat, ?_, ?_⟩
  · rw [caretLineCol_eq hb, caretPlace_eq, htext, hfocus]
    rfl
  · rw [caretLineCol_eq hb', caretPlace_eq, hfocus',
      show (b.move .down false).text = b.text from rfl, htext]
    rfl

end Buffer

end CodePad
