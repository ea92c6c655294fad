import Mathlib.Data.List.TakeWhile
import CodePad.Proofs.Buffer.Flat
import CodePad.Proofs.Text.Boundary

/-!
Breaking a line. What Enter puts into the text depends on the part of the line in front of the
selection: on the blanks with which it begins and on whether it ends with an opening brace. That
part is found by bytes and the caret is placed by characters; both lead to the same places.
-/

namespace CodePad

namespace Text

/-- What a text has behind its last newline. -/
structure IsLastLine (t line : Text) : Prop where
  exists_front : ∃ front, t = front ++ line ∧ (front = [] ∨ ∃ u, front = u ++ ['\n'])
  newline_not_mem : '\n' ∉ line

/-- The longest blank text with which a text begins. -/
structure IsIndent (t ws : Text) : Prop where
  isPrefix : ws <+: t
  blank : ∀ c ∈ ws, isBlank c = true
  longest : ∀ w, w <+: t → (∀ c ∈ w, isBlank c = true) → w <+: ws

/-- The byte offset of the last newline, if there is one. -/
def lastNewline? : Text → Option Nat
  | [] => none
  | c :: t =>
    match lastNewline? t with
    | some k => some (c.utf8Size + k)
    | none => if c = '\n' then some 0 else none

/-- The part before an offset of the line that holds it, cut out by its bytes. It fails if this
would cut a character. -/
def lineBefore? (t : Text) (offset : Nat) : Option Text := do
  let stop := t.byteAt offset
  let front ← t.slice? 0 stop
  let start := ((lastNewline? front).map (· + 1)).getD 0
  t.slice? start stop

lemma lastNewline?_eq_none {t : Text} (h : '\n' ∉ t) : lastNewline? t = none := by
  induction t with
  | nil => rfl
  | cons c t ih =>
    simp only [List.mem_cons, not_or] at h
    rw [lastNewline?, ih h.2, if_neg (Ne.symm h.1)]

lemma lastNewline?_append {t : Text} (h : '\n' ∉ t) (u : Text) :
    lastNewline? (u ++ '\n' :: t) = some (byteLength u) := by
  induction u with
  | nil => simp [lastNewline?, lastNewline?_eq_none h]
  | cons c u ih => rw [List.cons_append, lastNewline?, ih, byteLength_cons]

lemma isLastLine_lineBefore {t : Text} {k : Nat} (hk : k ≤ t.length) :
    IsLastLine (t.take k) (t.lineBefore k) := by
  obtain ⟨pre, line, post, col, h⟩ := exists_lineAt hk
  rw [h.take_eq, h.lineBefore_eq]
  refine ⟨⟨_, rfl, ?_⟩, fun hmem => h.not_mem_line (List.mem_of_mem_take hmem)⟩
  rcases List.eq_nil_or_concat pre with rfl | ⟨pre, l, rfl⟩
  · exact Or.inl rfl
  · exact Or.inr ⟨pre.flatMap (· ++ ['\n']) ++ l, by simp⟩

/-- The last line of what is before an offset is found by its bytes, without a cut in a
character. -/
lemma IsLastLine.lineBefore?_eq {t line : Text} {k : Nat} (h : IsLastLine (t.take k) line) :
    t.lineBefore? k = some line := by
  obtain ⟨⟨front, hsplit, hfront⟩, hnot⟩ := h
  have hcut : t.slice? (byteLength front) (t.byteAt k) = some line := by
    have hslice := slice?_append front line (t.drop k)
    rwa [← List.append_assoc, ← hsplit, List.take_append_drop] at hslice
  have hstart : ((lastNewline? (front ++ line)).map (· + 1)).getD 0 = byteLength front := by
    rcases hfront with rfl | ⟨u, rfl⟩
    · rw [List.nil_append, lastNewline?_eq_none hnot]
      rfl
    · rw [List.append_assoc, List.singleton_append, lastNewline?_append hnot, byteLength_append]
      rfl
  simp only [lineBefore?, slice?_take, Option.bind_eq_bind, Option.bind_some]
  rw [hsplit, hstart, hcut]

lemma isIndent_indent (t : Text) : IsIndent t t.indent where
  isPrefix := List.takeWhile_prefix isBlank
  blank _ hc := List.mem_takeWhile_imp hc
  longest := by
    rintro w ⟨rest, rfl⟩ hw
    rw [indent, List.takeWhile_append_of_pos hw]
    exact List.prefix_append _ _

end Text

namespace Buffer

lemma lineBreak_eq (policy : EnterPolicy) (unit before : Text) :
    lineBreak policy unit before =
      match policy with
      | .carryIndent =>
        if ['\x7b'] <:+ before then
          ⟨'\n' :: before.indent ++ unit, '\n' :: before.indent ++ ['\x7d'], []⟩
        else ⟨'\n' :: before.indent, [], []⟩
      | .braceOnly =>
        if ['\x7b'] <:+ before then ⟨'\n' :: unit, [], ['\n', '\x7d']⟩ else ⟨['\n'], [], []⟩ := by
  have hopens : opensBlock before = decide (['\x7b'] <:+ before) := by
    rw [opensBlock]
    exact decide_eq_decide.mpr List.singleton_suffix_iff_getLast?_eq_some.symm
  rw [lineBreak.eq_def, hopens]
  by_cases h : ['\x7b'] <:+ before <;> cases policy <;> simp [h]

variable {b : Buffer} {r : Range}

/-- What Enter makes of the text, from the parts of the line break. -/
lemma flat_enter_lineBreak (h : b.range = some r) :
    let br := lineBreak b.policy b.indentUnit (b.text.lineBefore r.start)
    b.enter.flat =
      .caret (b.text.take r.start ++ (br.head ++ br.tail) ++ b.text.drop r.stop ++ br.last)
        (r.start + br.head.length) := by
  obtain ⟨hcaret, rfl⟩ := eq_of_range h
  rw [b.flat_enter hcaret, FlatBuffer.enter_eq]
  simp only [Text.lineBefore_eq_drop b.flat_start_le]
  rfl

/-- **Enter breaks the line at the selection.** The selection gives way to a newline. With the one
policy the new line begins with the blanks with which the old one begins; and if an opening brace is
in front of the selection, there are a unit of indentation and the caret, and what was behind the
selection goes on after a closing brace, on one more line with these blanks. With the other policy
there are no blanks; and after an opening brace there is the unit of indentation, and the closing
brace comes on a line of its own at the end of the document. -/
theorem enter_breaks_line (b : Buffer) (r : Range) (hr : b.range = some r) :
    let s := r.start
    let front := b.text.take s
    let behind := b.text.drop r.stop
    let unit := b.indentUnit
    ∃ before ws, Text.IsLastLine front before ∧ Text.IsIndent before ws ∧
      b.text.lineBefore? s = some before ∧
      b.enter.flat =
        match b.policy with
        | .carryIndent =>
          if ['\x7b'] <:+ before then
            .caret (front ++ ['\n'] ++ ws ++ (unit ++ ['\n'] ++ ws ++ ['\x7d']) ++ behind)
              (s + 1 + ws.length + unit.length)
          else .caret (front ++ ['\n'] ++ ws ++ behind) (s + 1 + ws.length)
        | .braceOnly =>
          if ['\x7b'] <:+ before then
            .caret (front ++ ['\n'] ++ unit ++ behind ++ ['\n', '\x7d']) (s + 1 + unit.length)
          else .caret (front ++ ['\n'] ++ behind) (s + 1) := by
  intro s front behind unit
  have hs : s ≤ b.text.length := by
    obtain ⟨-, rfl⟩ := eq_of_range hr
    exact b.flat_start_le
  have hlast := Text.isLastLine_lineBefore hs
  refine ⟨b.text.lineBefore s, _, hlast, Text.isIndent_indent _, hlast.lineBefore?_eq, ?_⟩
  rw [flat_enter_lineBreak hr, lineBreak_eq]
  cases b.policy with
  | carryIndent =>
    by_cases hopens : ['\x7b'] <:+ b.text.lineBefore s
    · simp [hopens, front, behind, unit, s, Nat.add_assoc, Nat.add_comm 1]
    · simp [hopens, front, behind, s, Nat.add_assoc, Nat.add_comm 1]
  | braceOnly =>
    by_cases hopens : ['\x7b'] <:+ b.text.lineBefore s
    · simp [hopens, front, behind, unit, s, Nat.add_assoc, Nat.add_comm 1]
    · simp [hopens, front, behind, s]

/-- Enter in place of a letter that is selected behind a blank and an opening brace. -/
theorem enter_breaks_line_selected :
    let b := (new {} ['\t'] .carryIndent).run [.insert [' ', '\x7b', 'a'], .move .left true]
    b.range = some ⟨2, 3⟩ ∧ ∃ ws, Text.IsIndent [' ', '\x7b'] ws ∧
      b.enter.flat = .caret ([' ', '\x7b', '\n'] ++ ws ++ ['\t', '\n'] ++ ws ++ ['\x7d'])
        (ws.length + 4) := by
  intro b
  have hflat : b.flat = ⟨[' ', '\x7b', 'a'], 3, 2, none⟩ := flat_run_new ..
  have htext : b.text = [' ', '\x7b', 'a'] := congrArg FlatBuffer.text hflat
  have hrange : b.range = some ⟨2, 3⟩ := by
    rw [range_eq (hasCaret_run_new ..), hflat]
    rfl
  obtain ⟨hunit, hpolicy, -⟩ := (new {} ['\t'] .carryIndent).settings_run
    [.insert [' ', '\x7b', 'a'], .move .left true]
  obtain ⟨before, ws, -, hindent, hbefore, henter⟩ := enter_breaks_line b ⟨2, 3⟩ hrange
  rw [htext] at hbefore
  obtain rfl : [' ', '\x7b'] = before := Option.some.inj hbefore
  refine ⟨hrange, ws, hindent, henter.trans ?_⟩
  rw [hpolicy, hunit, htext]
  simp [new, Nat.add_comm, Nat.add_left_comm]

end Buffer

end CodePad
