import CodePad.Proofs.Document.OfTokens
import CodePad.Proofs.Document.Position
import CodePad.Proofs.Rule.Matches
import CodePad.Proofs.Token.Select
import CodePad.Highlighter

/-!
Highlighting touches neither the text nor the selected range. Whatever the rules are and
however the runs of the document were cut before, the new runs spell the same text, so an
offset of the old document is an offset of the new one, and a second pass finds nothing to do.
-/

namespace CodePad

namespace Lexer

variable (x : Lexer) (text : Text)

lemma isSliceOf_of_mem_tokens {t : Token} (h : t ∈ x.tokens text) : t.IsSliceOf text := by
  obtain ⟨⟨l, hl, ht⟩, -⟩ := Token.mem_select h
  obtain ⟨r, -, rfl⟩ := List.mem_map.mp hl
  exact Rule.isSliceOf_of_mem_tokens ht

lemma pairwise_tokens : (x.tokens text).Pairwise fun a b => a.stop ≤ b.start :=
  Token.pairwise_select _ _

end Lexer

namespace Selection

lemma range_start (s : Selection) (d : Document) :
    (s.range d).start = min (d.offsetOf s.anchor) (d.offsetOf s.focus) := by
  unfold range ordered
  split
  · next h => exact (Nat.min_eq_left h).symm
  · next h => exact (Nat.min_eq_right (Nat.le_of_not_le h)).symm

lemma range_stop (s : Selection) (d : Document) :
    (s.range d).stop = max (d.offsetOf s.anchor) (d.offsetOf s.focus) := by
  unfold range ordered
  split
  · next h => exact (Nat.max_eq_right h).symm
  · next h => exact (Nat.max_eq_left (Nat.le_of_not_le h)).symm

lemma range_start_le (s : Selection) (d : Document) : (s.range d).start ≤ (s.range d).stop := by
  rw [range_start, range_stop]
  omega

lemma range_stop_le (s : Selection) (d : Document) : (s.range d).stop ≤ d.length := by
  have := d.offsetOf_le s.anchor
  have := d.offsetOf_le s.focus
  rw [range_stop]
  omega

lemma offsetOf_ofRange_anchor (d : Document) (r : Range) :
    d.offsetOf (ofRange d r).anchor = min r.start d.length :=
  d.offsetOf_positionAt r.start

lemma offsetOf_ofRange_focus (d : Document) (r : Range) :
    d.offsetOf (ofRange d r).focus = min (max r.start r.stop) d.length :=
  d.offsetOf_positionAt (max r.start r.stop)

lemma range_ofRange {d : Document} {r : Range} (h : r.start ≤ r.stop) (hd : r.stop ≤ d.length) :
    (ofRange d r).range d = r := by
  have hanchor : d.offsetOf (ofRange d r).anchor = r.start := by
    rw [offsetOf_ofRange_anchor]
    omega
  have hfocus : d.offsetOf (ofRange d r).focus = r.stop := by
    rw [offsetOf_ofRange_focus]
    omega
  calc (ofRange d r).range d
      = ⟨((ofRange d r).range d).start, ((ofRange d r).range d).stop⟩ := rfl
    _ = ⟨r.start, r.stop⟩ := by
      rw [range_start, range_stop, hanchor, hfocus, Nat.min_eq_left h, Nat.max_eq_right h]

/-- The selection of the same range in another document. -/
def carry (s : Selection) (source target : Document) : Selection :=
  ofRange target (s.range source)

/-- A selection carried over to a document with the same number of characters keeps its range. -/
lemma range_carry (s : Selection) {source target : Document} (h : target.length = source.length) :
    (s.carry source target).range target = s.range source :=
  range_ofRange (s.range_start_le source) (h ▸ s.range_stop_le source)

lemma save_restore_save {source target : Document} (h : target.length = source.length)
    (s : Option Selection) : save target (restore target (save source s)) = save source s := by
  cases s with
  | none => rfl
  | some s => exact congrArg some (s.range_carry h)

end Selection

namespace Highlighter

variable (h : Highlighter)

lemma text_highlight (text : Text) : (h.highlight text).document.text = text := by
  refine Document.text_ofTokens ?_ ?_
  · intro t ht
    unfold tokens at ht
    split at ht
    · exact h.lexer.isSliceOf_of_mem_tokens text ht
    · simp at ht
  · unfold tokens
    split
    · exact h.lexer.pairwise_tokens text
    · exact List.Pairwise.nil

lemma length_highlight (d : Document) : (h.highlight d.text).document.length = d.length := by
  rw [← Document.length_text, text_highlight, Document.length_text]

/-- **A pass changes neither the text nor the selected range, and a second one changes nothing.**
-/
theorem pass_keeps (d : Document) (s : Option Selection) :
    (h.pass d s).1.document.text = d.text ∧
      Selection.save (h.pass d s).1.document (h.pass d s).2 = Selection.save d s ∧
      h.pass (h.pass d s).1.document (h.pass d s).2 = h.pass d s := by
  have hrange : Selection.save (h.pass d s).1.document (h.pass d s).2 = Selection.save d s :=
    Selection.save_restore_save (h.length_highlight d) s
  have hnew : h.highlight (h.pass d s).1.document.text = (h.pass d s).1 := by
    unfold pass
    rw [text_highlight]
  refine ⟨h.text_highlight d.text, hrange, ?_⟩
  rw [pass, hnew, hrange]
  rfl

end Highlighter

end CodePad
