import CodePad.Proofs.Buffer.Flat
import CodePad.Proofs.Editor.Run

/-!
An editor without its looks. Which runs the text is cut into, how they are coloured and whether
lines are numbered is for show: the text, the selection, the lines in view and the end of the
program come out of a plain editor that knows of none of this. So two editors that start with
other looks and go through the same stay alike in all the rest.
-/

namespace CodePad

/-- A plain text with a selection, the lines of it in view, and whether the editor runs. -/
structure PlainEditor where
  flat : FlatBuffer
  indentUnit : Text
  policy : EnterPolicy
  scroll : Scroll
  running : Bool
  deriving DecidableEq, Repr

namespace PlainEditor

variable (p : PlainEditor)

/-- Does something to the text. -/
def act (a : Buffer.Action) : PlainEditor :=
  { p with flat := p.flat.apply p.indentUnit p.policy a }

/-- What an event does. A switch of highlighting makes the selection anew from its range. -/
def handle : Event → PlainEditor
  | .insert c => p.act (.insertChar c)
  | .enter => p.act .enter
  | .tab => p.act .tab
  | .backspace => p.act .backspace
  | .delete => p.act .deleteForward
  | .move m extend => p.act (.move m extend)
  | .menu .exit => { p with running := false }
  | .menu _ => p
  | .toggleLineNumbers => p
  | .toggleHighlighting => p.act .highlight

/-- Scrolls to the caret for a frame on a terminal that has room for one. -/
def scrollToCaret (size : Size) : PlainEditor :=
  if Screen.hasRoom size then
    let caret := p.flat.text.lineCol p.flat.focus
    { p with scroll := (p.scroll.withHeight (Screen.textRows size)).reveal caret.line }
  else p

/-- The plain editor after something has happened. -/
def step : Editor.Step → PlainEditor
  | .event event => p.handle event
  | .resize => p
  | .render size => p.scrollToCaret size

/-- The plain editor after some things have happened, the first of them first. -/
def run (steps : List Editor.Step) : PlainEditor := steps.foldl step p

end PlainEditor

namespace Editor

/-- An editor without its looks. -/
def plain (e : Editor) : PlainEditor :=
  ⟨e.buffer.flat, e.buffer.indentUnit, e.buffer.policy, e.scroll, e.running⟩

section

variable {e : Editor} (hb : e.buffer.HasCaret)

include hb

lemma plain_withBuffer_apply (a : Buffer.Action) :
    (e.withBuffer (e.buffer.apply a)).buffer.HasCaret ∧
      (e.withBuffer (e.buffer.apply a)).plain = e.plain.act a := by
  obtain ⟨hunit, hpolicy, -⟩ := e.buffer.settings_apply a
  refine ⟨hb.apply a, ?_⟩
  simp only [plain, withBuffer, PlainEditor.act, Buffer.flat_apply hb a, hunit, hpolicy]

lemma plain_handle (event : Event) :
    (e.handle event).buffer.HasCaret ∧ (e.handle event).plain = e.plain.handle event := by
  have hact := plain_withBuffer_apply (e := e.clearMessage) hb
  cases event with
  | insert c => exact hact (.insertChar c)
  | enter => exact hact .enter
  | tab => exact hact .tab
  | backspace => exact hact .backspace
  | delete => exact hact .deleteForward
  | move m extend => exact hact (.move m extend)
  | menu m => cases m <;> exact ⟨hb, rfl⟩
  | toggleLineNumbers => exact ⟨hb, rfl⟩
  | toggleHighlighting =>
    -- The new state of the switch is not seen in the plain editor.
    exact hact (.setHighlighting !e.buffer.highlighter.enabled)

end

section

variable {p : Platform} {e e' : Editor}

lemma plain_render {size : Size} {cs : List Command} (h : e.render p size = some (cs, e')) :
    e'.plain = e.plain.scrollToCaret size := by
  have hplace : e.buffer.caretPlace = e.buffer.text.lineCol e.buffer.focusOffset :=
    e.buffer.caretPlace_eq
  unfold PlainEditor.scrollToCaret
  split
  · next hroom =>
    obtain ⟨-, -, rfl⟩ := (e.render_eq_some_iff p (hasRoom_iff.mp hroom)).mp h
    simp only [plain, framed, scrollToCaret, hplace]
    rfl
  · next hroom =>
    rw [e.render_of_no_room p (mt hasRoom_iff.mpr hroom)] at h
    obtain ⟨-, rfl⟩ := Prod.mk.inj (Option.some.inj h)
    rfl

lemma plain_step {x : Step} (hb : e.buffer.HasCaret) (h : e.step p x = some e') :
    e'.buffer.HasCaret ∧ e'.plain = e.plain.step x := by
  cases x with
  | event event =>
    obtain rfl := Option.some.inj h
    exact plain_handle hb event
  | resize =>
    obtain rfl := Option.some.inj h
    exact ⟨hb, rfl⟩
  | render size =>
    obtain ⟨cs, hrender⟩ := step_render_eq_some_iff.mp h
    have hplain := plain_render hrender
    obtain ⟨scroll, redraw, rfl⟩ := eq_of_render hrender
    exact ⟨hb, hplain⟩

/-- A run that does not end the program does to the plain editor what it does to the editor. -/
lemma plain_run {steps : List Step} (hb : e.buffer.HasCaret) (h : e.run p steps = some e') :
    e'.buffer.HasCaret ∧ e'.plain = e.plain.run steps := by
  induction steps generalizing e with
  | nil =>
    obtain rfl := Option.some.inj h
    exact ⟨hb, rfl⟩
  | cons x steps ih =>
    obtain ⟨mid, hmid, hrest⟩ := run_cons_eq_some_iff.mp h
    obtain ⟨hcaret, hplain⟩ := plain_step hb hmid
    rw [PlainEditor.run, List.foldl_cons, ← hplain]
    exact ih hcaret hrest

/-- What can be seen of an editor apart from its looks is seen of the plain editor. -/
lemma observed_congr (hb : e.buffer.HasCaret) (hb' : e'.buffer.HasCaret)
    (h : e.plain = e'.plain) :
    e.buffer.text = e'.buffer.text ∧ e.buffer.range = e'.buffer.range ∧
      e.buffer.caretLineCol = e'.buffer.caretLineCol ∧ e.running = e'.running ∧
      e.scroll = e'.scroll := by
  have hflat : e.buffer.flat = e'.buffer.flat := congrArg PlainEditor.flat h
  have htext : e.buffer.text = e'.buffer.text := congrArg FlatBuffer.text hflat
  have hfocus : e.buffer.focusOffset = e'.buffer.focusOffset := congrArg FlatBuffer.focus hflat
  refine ⟨htext, ?_, ?_, congrArg PlainEditor.running h, congrArg PlainEditor.scroll h⟩
  · rw [Buffer.range_eq hb, Buffer.range_eq hb', hflat]
  · rw [Buffer.caretLineCol_eq hb, Buffer.caretLineCol_eq hb', Buffer.caretPlace_eq,
      Buffer.caretPlace_eq, htext, hfocus]

end

end Editor

namespace Settings

lemma hasCaret_editor (s : Settings) : s.editor.buffer.HasCaret := by
  have hcaret : s.buffer.HasCaret := rfl
  exact hcaret.highlight

lemma plain_editor (s : Settings) : s.editor.plain =
    ⟨.caret [] 0, s.indentUnit, s.enterPolicy, {}, true⟩ := by
  have hflat : s.editor.buffer.flat = .caret [] 0 := by
    rw [editor, Buffer.flat_highlight]
    rfl
  simp only [Editor.plain, hflat]
  rfl

/-- **Looks never influence editing.** Two editors start with settings that differ in whether to
highlight, in whether to number lines and in colours, and then go through the same events, changes
of size and frames, among them the events that switch highlighting and line numbers over. They have
the same text with the same range selected and the caret in the same place, show the same lines of
it, and both run or have both ended. Both are still there if writing a line never ends the program,
as when arithmetic wraps around; otherwise an editor is there unless one of its frames has come to a
line whose columns run out. -/
theorem run_independent_of_looks (p : Platform) (s : Settings) (highlight showLineNumbers : Bool)
    (colors : List (String × String)) (steps : List Editor.Step) :
    let s' : Settings := { s with highlight, showLineNumbers, colors }
    (∀ e e', s.editor.run p steps = some e → s'.editor.run p steps = some e' →
      e.buffer.text = e'.buffer.text ∧ e.buffer.range = e'.buffer.range ∧
        e.buffer.caretLineCol = e'.buffer.caretLineCol ∧ e.running = e'.running ∧
        e.scroll = e'.scroll) ∧
      (p.NeverStops →
        ∃ e e', s.editor.run p steps = some e ∧ s'.editor.run p steps = some e') ∧
      ∀ editor : Editor, editor.run p steps = none ↔
        ∃ before size later e, steps = before ++ .render size :: later ∧
          editor.run p before = some e ∧ e.RenderEnds p size := by
  intro s'
  refine ⟨fun e e' he he' => ?_, fun h => ?_, fun editor => Editor.run_eq_none_iff⟩
  · obtain ⟨hcaret, hplain⟩ := Editor.plain_run s.hasCaret_editor he
    obtain ⟨hcaret', hplain'⟩ := Editor.plain_run s'.hasCaret_editor he'
    refine Editor.observed_congr hcaret hcaret' ?_
    rw [hplain, hplain', plain_editor, plain_editor]
    rfl
  · obtain ⟨e, he⟩ := Editor.exists_run h s.editor steps
    obtain ⟨e', he'⟩ := Editor.exists_run h s'.editor steps
    exact ⟨e, e', he, he'⟩

end Settings

end CodePad
