import CodePad.Proofs.Buffer.Flat

/-!
Editing never drifts from highlighting afresh. After every action the tokens are those of the
present text, the runs are the text cut along them, and there is a selection, expressed in these
runs; so the runs and the tokens depend on the present text alone, not on how it came about.
-/

namespace CodePad

namespace Lexer

lemma tokens_nil (x : Lexer) : x.tokens [] = [] := by
  refine List.eq_nil_iff_forall_not_mem.mpr fun t ht => ?_
  obtain ⟨-, hlt, hle⟩ := Token.mem_select ht
  rw [Text.byteLength_nil] at hle
  omega

end Lexer

namespace Buffer

/-- The tokens and the runs are those of the text as it is now, and there is a selection, the two
ends of which are the positions of their offsets in these runs. -/
structure UpToDate (b : Buffer) : Prop where
  tokens_eq : b.tokens = b.highlighter.tokens b.text
  document_eq : b.document = .ofTokens b.text b.tokens
  exists_selection : ∃ s, b.selection = some s ∧
    b.document.Canonical s.anchor ∧ b.document.Canonical s.focus

lemma UpToDate.hasCaret {b : Buffer} (h : b.UpToDate) : b.HasCaret := by
  obtain ⟨s, hs, -⟩ := h.exists_selection
  rw [HasCaret, hs]
  rfl

lemma upToDate_new (h : Highlighter) (unit : Text) (policy : EnterPolicy) :
    (new h unit policy).UpToDate where
  tokens_eq := by
    simp only [new, text, Document.text_empty, Highlighter.tokens, Lexer.tokens_nil, ite_self]
  document_eq := rfl
  exists_selection := ⟨.caret .zero, rfl, rfl, rfl⟩

/-- After a pass everything is up to date, whatever was there before. -/
lemma upToDate_highlight {b : Buffer} (hb : b.HasCaret) : b.highlight.UpToDate := by
  have htext : b.highlight.text = b.text := b.highlighter.text_highlight b.document.text
  have hlen : b.highlight.document.length = b.text.length :=
    (b.highlighter.length_highlight b.document).trans b.length_document
  have hse := b.flat_start_le_stop
  have hle := b.flat_stop_le
  refine ⟨?_, ?_, .ofRange b.highlight.document ⟨b.flat.start, b.flat.stop⟩, ?_, ?_, ?_⟩
  · rw [htext]
    rfl
  · rw [htext]
    rfl
  · exact congrArg (Selection.restore b.highlight.document) (range_eq hb)
  · exact Document.canonical_positionAt _ (by rw [hlen]; exact b.flat_start_le)
  · exact Document.canonical_positionAt _ (by
      rw [hlen]
      exact Nat.max_le.mpr ⟨b.flat_start_le, hle⟩)

/-- An edit and the pass after it. -/
lemma upToDate_highlight_replace (b : Buffer) (start stop : Nat) (new : Text) :
    (b.replace start stop new).highlight.UpToDate :=
  upToDate_highlight (b.hasCaret_replace start stop new)

/-- A move leaves the runs alone and puts the caret at a position of these runs. -/
lemma UpToDate.move {b : Buffer} (h : b.UpToDate) (m : Motion) (extend : Bool) :
    (b.move m extend).UpToDate := by
  obtain ⟨s, hs, hanchor, -⟩ := h.exists_selection
  have hcurrent : b.current = s := by rw [current, hs, Option.getD_some]
  have hfocus : b.document.Canonical (b.document.positionAt
      (b.target m extend (b.goal.getD (b.text.lineCol b.focusOffset).col))) := by
    refine b.document.canonical_positionAt ?_
    rw [aim_eq, target_eq, length_document]
    exact b.flat_target_le m extend
  refine ⟨h.tokens_eq, h.document_eq, _, rfl, ?_, hfocus⟩
  cases extend
  · exact hfocus
  · exact hcurrent.symm ▸ hanchor

lemma UpToDate.apply {b : Buffer} (h : b.UpToDate) (a : Action) : (b.apply a).UpToDate := by
  have hb := h.hasCaret
  cases a with
  | insert | insertChar | tab =>
    simp only [Buffer.apply, insert, tab, range_eq hb]
    exact b.upToDate_highlight_replace ..
  | backspace | deleteForward =>
    simp only [Buffer.apply, backspace, deleteForward, range_eq hb]
    split
    · exact b.upToDate_highlight_replace ..
    · split
      · exact b.upToDate_highlight_replace ..
      · exact h
  | enter =>
    simp only [Buffer.apply, enter, range_eq hb]
    exact upToDate_highlight rfl
  | move m extend => exact h.move m extend
  | setHighlighting enabled =>
    exact upToDate_highlight (b := { b with highlighter := { b.highlighter with enabled } }) hb
  | highlight => exact upToDate_highlight hb

lemma upToDate_run (h : Highlighter) (unit : Text) (policy : EnterPolicy)
    (actions : List Action) : ((new h unit policy).run actions).UpToDate :=
  run_induction (fun _ a hb => hb.apply a) (upToDate_new h unit policy) actions

/-- Buffers of one lexer with the same text and the same switch have the same runs and tokens. -/
lemma UpToDate.congr {b b' : Buffer} (h : b.UpToDate) (h' : b'.UpToDate)
    (hlexer : b.highlighter.lexer = b'.highlighter.lexer) (htext : b.text = b'.text)
    (hswitch : b.highlighter.enabled = b'.highlighter.enabled) :
    b.document = b'.document ∧ b.tokens = b'.tokens := by
  have htokens : b.tokens = b'.tokens := by
    rw [h.tokens_eq, h'.tokens_eq, Highlighter.tokens, Highlighter.tokens, hlexer, htext, hswitch]
  exact ⟨by rw [h.document_eq, h'.document_eq, htext, htokens], htokens⟩

/-- **The runs and tokens of a buffer are those of its present text, and it has a selection that
lies in them.** Two histories that end with the same text and the same switch end with the same runs
and tokens. -/
theorem run_upToDate (h h' : Highlighter) (unit unit' : Text) (policy policy' : EnterPolicy)
    (actions actions' : List Action) :
    let b := (new h unit policy).run actions
    let b' := (new h' unit' policy').run actions'
    b.tokens = b.highlighter.tokens b.text ∧
      b.document = .ofTokens b.text b.tokens ∧
      (∃ s, b.selection = some s ∧
        (b.document.Canonical s.anchor ∧ b.document.InRange s.anchor) ∧
        (b.document.Canonical s.focus ∧ b.document.InRange s.focus)) ∧
      (h.lexer = h'.lexer → b.text = b'.text →
        b.highlighter.enabled = b'.highlighter.enabled →
        b.document = b'.document ∧ b.tokens = b'.tokens) := by
  intro b b'
  have hb : b.UpToDate := upToDate_run h unit policy actions
  have hb' : b'.UpToDate := upToDate_run h' unit' policy' actions'
  obtain ⟨s, hs, hanchor, hfocus⟩ := hb.exists_selection
  refine ⟨hb.tokens_eq, hb.document_eq,
    ⟨s, hs, ⟨hanchor, hanchor.inRange⟩, ⟨hfocus, hfocus.inRange⟩⟩, ?_⟩
  intro hlexer htext hswitch
  have hl : b.highlighter.lexer = h.lexer := ((new h unit policy).settings_run actions).2.2
  have hl' : b'.highlighter.lexer = h'.lexer :=
    ((new h' unit' policy').settings_run actions').2.2
  exact hb.congr hb' (by rw [hl, hl', hlexer]) htext hswitch

/-- Typing a keyword at once, and typing its end first and then its beginning. -/
theorem run_upToDate_keyword :
    let b := (new {} [' '] .carryIndent).run [.insert ['i', 'f']]
    let b' := (new {} [] .braceOnly).run [.insertChar 'f', .move .left false, .insertChar 'i']
    b.text = b'.text ∧ b.document = b'.document ∧ b.tokens = b'.tokens := by
  intro b b'
  have hflat : b.flat = .caret ['i', 'f'] 2 := flat_run_new ..
  have hflat' : b'.flat = .caret ['i', 'f'] 1 := flat_run_new ..
  have htext : b.text = ['i', 'f'] := congrArg FlatBuffer.text hflat
  have htext' : b'.text = ['i', 'f'] := congrArg FlatBuffer.text hflat'
  have heq : b.text = b'.text := htext.trans htext'.symm
  obtain ⟨-, -, -, hcongr⟩ := run_upToDate {} {} [' '] [] .carryIndent .braceOnly
    [.insert ['i', 'f']] [.insertChar 'f', .move .left false, .insertChar 'i']
  exact ⟨heq, hcongr rfl heq rfl⟩

end Buffer

end CodePad
