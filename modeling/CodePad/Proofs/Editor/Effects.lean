import CodePad.Proofs.Buffer.Toggle
import CodePad.Proofs.Editor.Run

/-!
What each event may change. Edits change the text and all that depends on it, moves only the
selection, and the switches only what they are switches of: highlighting is done anew when it is
switched over, but the text and the selected range come through. The view is not scrolled by events,
and once an editor has been told to exit nothing makes it run again.
-/

namespace CodePad

namespace Event

/-- Events that edit the text. -/
def isEdit : Event → Bool
  | .insert _ | .enter | .tab | .backspace | .delete => true
  | _ => false

/-- Events that move the caret. -/
def isMove : Event → Bool
  | .move _ _ => true
  | _ => false

end Event

namespace Buffer

variable (b : Buffer)

lemma range_setHighlighting (enabled : Bool) : (b.setHighlighting enabled).range = b.range :=
  Selection.save_restore_save (Highlighter.length_highlight _ b.document) b.selection

lemma highlighter_apply {a : Action} (h : ∀ enabled, a ≠ .setHighlighting enabled) :
    (b.apply a).highlighter = b.highlighter := by
  cases a with
  | move | highlight => rfl
  | insert | insertChar =>
    simp only [apply, insert]
    split <;> rfl
  | tab =>
    simp only [apply, tab]
    split <;> rfl
  | backspace =>
    simp only [apply, backspace]
    repeat' split
    all_goals rfl
  | deleteForward =>
    simp only [apply, deleteForward]
    repeat' split
    all_goals rfl
  | enter =>
    simp only [apply, enter, append]
    repeat' split
    all_goals rfl
  | setHighlighting enabled => exact absurd rfl (h enabled)

end Buffer

namespace Editor

/-- What an event may change of an editor. -/
structure ChangesOnly (event : Event) (e e' : Editor) : Prop where
  text : e'.buffer.text ≠ e.buffer.text → event.isEdit = true
  range : e'.buffer.range ≠ e.buffer.range → event.isEdit = true ∨ event.isMove = true
  tokens : e'.buffer.tokens ≠ e.buffer.tokens →
    event.isEdit = true ∨ event = .toggleHighlighting
  runs : e'.buffer.document ≠ e.buffer.document →
    event.isEdit = true ∨ event = .toggleHighlighting
  highlighting : e'.buffer.highlighter.enabled ≠ e.buffer.highlighter.enabled ↔
    event = .toggleHighlighting
  lineNumbers : e'.display.lineNumbers ≠ e.display.lineNumbers ↔ event = .toggleLineNumbers
  /-- Only one event ends an editor, and none starts one. -/
  running : e'.running = true ↔ e.running = true ∧ event ≠ .menu .exit
  /-- A message is there if the event has one; an older one is gone. -/
  message : e'.display.message.isSome = true ↔
    event = .toggleHighlighting ∨ ∃ m, event = .menu m ∧ m ≠ .exit
  scroll : e'.scroll = e.scroll

variable (e : Editor) {event : Event}

/-- Without an edit there is a move, a switch of highlighting, or nothing for the buffer. -/
lemma buffer_handle_cases (h : event.isEdit = false) :
    (event.isMove = true ∧ ∃ m extend, (e.handle event).buffer = e.buffer.move m extend) ∨
      (event = .toggleHighlighting ∧
        ∃ enabled, (e.handle event).buffer = e.buffer.setHighlighting enabled) ∨
      (e.handle event).buffer = e.buffer := by
  cases event with
  | move m extend => exact .inl ⟨rfl, m, extend, rfl⟩
  | toggleHighlighting => exact .inr (.inl ⟨rfl, _, rfl⟩)
  | menu m => cases m <;> exact .inr (.inr rfl)
  | toggleLineNumbers => exact .inr (.inr rfl)
  | insert | enter | tab | backspace | delete => cases h

lemma text_handle (h : event.isEdit = false) :
    (e.handle event).buffer.text = e.buffer.text := by
  rcases e.buffer_handle_cases h with ⟨-, m, extend, hb⟩ | ⟨-, enabled, hb⟩ | hb <;> rw [hb]
  · rfl
  · exact e.buffer.text_setHighlighting enabled

lemma range_handle (h : event.isEdit = false) (hmove : event.isMove = false) :
    (e.handle event).buffer.range = e.buffer.range := by
  rcases e.buffer_handle_cases h with ⟨hm, -⟩ | ⟨-, enabled, hb⟩ | hb
  · exact absurd hm (by simp [hmove])
  · rw [hb, Buffer.range_setHighlighting]
  · rw [hb]

lemma tokens_document_handle (h : event.isEdit = false) (hswitch : event ≠ .toggleHighlighting) :
    (e.handle event).buffer.tokens = e.buffer.tokens ∧
      (e.handle event).buffer.document = e.buffer.document := by
  rcases e.buffer_handle_cases h with ⟨-, m, extend, hb⟩ | ⟨hs, -⟩ | hb
  · exact hb ▸ ⟨rfl, rfl⟩
  · exact absurd hs hswitch
  · exact hb ▸ ⟨rfl, rfl⟩

lemma highlighter_handle (h : event ≠ .toggleHighlighting) :
    (e.handle event).buffer.highlighter = e.buffer.highlighter := by
  cases event with
  | insert c => exact e.buffer.highlighter_apply (a := .insertChar c) nofun
  | enter => exact e.buffer.highlighter_apply (a := .enter) nofun
  | tab => exact e.buffer.highlighter_apply (a := .tab) nofun
  | backspace => exact e.buffer.highlighter_apply (a := .backspace) nofun
  | delete => exact e.buffer.highlighter_apply (a := .deleteForward) nofun
  | move m extend => rfl
  | menu m => cases m <;> rfl
  | toggleLineNumbers => rfl
  | toggleHighlighting => exact absurd rfl h

lemma lineNumbers_handle (h : event ≠ .toggleLineNumbers) :
    (e.handle event).display.lineNumbers = e.display.lineNumbers := by
  cases event with
  | menu m => cases m <;> rfl
  | toggleLineNumbers => exact absurd rfl h
  | _ => rfl

lemma running_handle_iff :
    (e.handle event).running = true ↔ e.running = true ∧ event ≠ .menu .exit := by
  cases event with
  | menu m =>
    cases m with
    | exit => simp [handle, perform, choose]
    | _ => simp [handle, perform, choose, withMessage, clearMessage]
  | _ => exact (and_iff_left nofun).symm

lemma isSome_message_handle_iff : (e.handle event).display.message.isSome = true ↔
    event = .toggleHighlighting ∨ ∃ m, event = .menu m ∧ m ≠ .exit := by
  cases event with
  | menu m => cases m <;> simp [handle, perform, choose, withMessage, clearMessage]
  | toggleHighlighting => exact ⟨fun _ => .inl rfl, fun _ => rfl⟩
  | _ => simp [handle, perform, withBuffer, toggleLineNumbers, forceRedraw, clearMessage]

lemma scroll_handle : (e.handle event).scroll = e.scroll := by
  cases event with
  | menu m => cases m <;> rfl
  | _ => rfl

lemma handle_changesOnly (event : Event) : ChangesOnly event e (e.handle event) := by
  -- Tokens and runs come from the same pass, so they change together.
  have hsame : ¬ (event.isEdit = true ∨ event = .toggleHighlighting) →
      (e.handle event).buffer.tokens = e.buffer.tokens ∧
        (e.handle event).buffer.document = e.buffer.document := by
    intro hother
    simp only [not_or, Bool.not_eq_true] at hother
    exact e.tokens_document_handle hother.1 hother.2
  refine ⟨?text, ?range, ?tokens, ?runs, ?highlighting, ?lineNumbers, e.running_handle_iff,
    e.isSome_message_handle_iff, e.scroll_handle⟩
  case text =>
    intro h
    by_contra hedit
    exact h (e.text_handle (by simpa using hedit))
  case range =>
    intro h
    by_contra hother
    simp only [not_or, Bool.not_eq_true] at hother
    exact h (e.range_handle hother.1 hother.2)
  case tokens => exact fun h => by_contra fun hother => h (hsame hother).1
  case runs => exact fun h => by_contra fun hother => h (hsame hother).2
  case highlighting =>
    constructor
    · intro h
      by_contra hother
      exact h (congrArg Highlighter.enabled (e.highlighter_handle hother))
    · rintro rfl
      have hswitch : (e.handle .toggleHighlighting).buffer.highlighter.enabled =
          !e.buffer.highlighter.enabled := rfl
      simp [hswitch]
  case lineNumbers =>
    constructor
    · intro h
      by_contra hother
      exact h (e.lineNumbers_handle hother)
    · rintro rfl
      have hswitch : (e.handle .toggleLineNumbers).display.lineNumbers =
          !e.display.lineNumbers := rfl
      simp [hswitch]

lemma running_step_iff {p : Platform} {e e' : Editor} {x : Step} (h : e.step p x = some e') :
    e'.running = true ↔ e.running = true ∧ x ≠ .event (.menu .exit) := by
  cases x with
  | event event =>
    obtain rfl := Option.some.inj h
    rw [Ne, Step.event.injEq]
    exact e.running_handle_iff
  | resize =>
    obtain rfl := Option.some.inj h
    simp [forceRedraw]
  | render size =>
    obtain ⟨cs, hrender⟩ := step_render_eq_some_iff.mp h
    obtain ⟨scroll, redraw, rfl⟩ := eq_of_render hrender
    simp

/-- An editor runs for as long as it is not told to exit. -/
lemma running_run_iff {p : Platform} {e e' : Editor} {steps : List Step}
    (h : e.run p steps = some e') :
    e'.running = true ↔ e.running = true ∧ .event (.menu .exit) ∉ steps := by
  induction steps generalizing e with
  | nil =>
    obtain rfl := Option.some.inj h
    simp
  | cons x steps ih =>
    obtain ⟨mid, hmid, hrest⟩ := run_cons_eq_some_iff.mp h
    rw [ih hrest, running_step_iff hmid, List.mem_cons, not_or, and_assoc]
    exact and_congr_right fun _ => and_congr_left fun _ => ne_comm

end Editor

namespace Settings

/-- **Each event touches only its own part of the editor**, whatever has happened before. An editor
that has been told to exit has ended and does not run again, whatever happens later. -/
theorem handle_touches_own_part (p : Platform) (s : Settings) (steps : List Editor.Step)
    (event : Event) (later : List Editor.Step) (e : Editor)
    (h : s.editor.run p steps = some e) :
    e.ChangesOnly event (e.handle event) ∧
      (e.running = true ↔ .event (.menu .exit) ∉ steps) ∧
      ∀ e', (e.handle event).run p later = some e' →
        (e'.running = true ↔
          e.running = true ∧ event ≠ .menu .exit ∧ .event (.menu .exit) ∉ later) := by
  refine ⟨e.handle_changesOnly event, ?_, fun e' hlater => ?_⟩
  · rw [Editor.running_run_iff h]
    exact and_iff_right rfl
  · rw [Editor.running_run_iff hlater, Editor.running_handle_iff, and_assoc]

/-- A letter, a frame and the command to exit, and then a change of size and another letter. -/
theorem handle_touches_own_part_exit :
    let s : Settings := {}
    let steps : List Editor.Step := [.event (.insert 'a'), .render ⟨24, 80⟩]
    let later : List Editor.Step := [.resize, .event (.insert 'b')]
    ∃ e e', s.editor.run .standard steps = some e ∧
      (e.handle (.menu .exit)).run .standard later = some e' ∧
      e.ChangesOnly (.menu .exit) (e.handle (.menu .exit)) ∧ e.running = true ∧
      ¬ e'.running = true := by
  intro s steps later
  obtain ⟨e, he⟩ := Editor.exists_run Platform.neverStops_standard s.editor steps
  obtain ⟨e', he'⟩ :=
    Editor.exists_run Platform.neverStops_standard (e.handle (.menu .exit)) later
  obtain ⟨hchanges, hrunning, hlater⟩ :=
    handle_touches_own_part .standard s steps (.menu .exit) later e he
  exact ⟨e, e', he, he', hchanges, hrunning.mpr (by decide),
    fun h => ((hlater e' he').mp h).2.1 rfl⟩

end Settings

end CodePad
