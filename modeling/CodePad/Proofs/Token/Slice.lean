import Mathlib.Tactic.Common
import CodePad.Proofs.Text.Bytes
import CodePad.Token.Basic

/-!
Tokens that carry exactly the characters they span in a text.
-/

namespace CodePad

namespace Token

/-- A token that spans exactly its own characters in a text, and at least one. -/
structure IsSliceOf (text : Text) (t : Token) : Prop where
  split : ∃ u v, text = u ++ (t.text ++ v) ∧ t.start = Text.byteLength u
  stop_eq : t.stop = t.start + Text.byteLength t.text
  text_ne_nil : t.text ≠ []

namespace IsSliceOf

variable {text : Text} {t : Token}

/-- Such a token takes bytes of the text and no others. -/
lemma bounds (h : t.IsSliceOf text) : t.start < t.stop ∧ t.stop ≤ Text.byteLength text := by
  obtain ⟨u, v, htext, hstart⟩ := h.split
  have hpos := Text.byteLength_pos h.text_ne_nil
  have hstop := h.stop_eq
  rw [htext, Text.byteLength_append, Text.byteLength_append]
  omega

/-- Such a token is told by the bytes that it spans. -/
lemma eq_ofSlice (h : t.IsSliceOf text) : t = ofSlice text t.start t.stop t.kind := by
  obtain ⟨u, v, htext, hstart⟩ := h.split
  have hslice : text.slice t.start t.stop = t.text := by
    rw [h.stop_eq, hstart, ← Text.byteLength_append, htext]
    exact Text.slice_append u t.text v
  rw [ofSlice, hslice]

/-- A text that is cut before a token is cut into the characters up to the token, the token and
the rest. -/
lemma split_from {u v : Text} (h : t.IsSliceOf (u ++ v)) (hu : Text.byteLength u ≤ t.start) :
    ∃ w z, v = w ++ (t.text ++ z) ∧ t.start = Text.byteLength (u ++ w) := by
  obtain ⟨u', z, htext, hstart⟩ := h.split
  have hpre : u <+: u' := by
    refine Text.prefix_of_byteLength_le (List.prefix_append u v) ?_ (by omega)
    rw [htext]
    exact List.prefix_append u' _
  obtain ⟨w, rfl⟩ := hpre
  rw [List.append_assoc] at htext
  exact ⟨w, z, List.append_cancel_left htext, hstart⟩

end IsSliceOf

end Token

end CodePad
