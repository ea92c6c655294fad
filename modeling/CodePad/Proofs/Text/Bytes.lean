import Mathlib.Tactic.Common
import CodePad.Text.Basic

/-!
Byte offsets at the boundaries of characters. A text cut at the byte length of one of its
prefixes is cut after that prefix, and of two prefixes the one with fewer bytes is a prefix of
the other.
-/

namespace CodePad

namespace Text

@[simp] lemma byteLength_reverse (t : Text) : byteLength t.reverse = byteLength t := by
  induction t with
  | nil => rfl
  | cons c t ih => simp [ih, Nat.add_comm]

lemma byteLength_eq_zero {t : Text} : byteLength t = 0 ↔ t = [] := by
  cases t with
  | nil => simp
  | cons c t =>
    have := c.utf8Size_pos
    simp only [byteLength_cons, reduceCtorEq, iff_false]
    omega

lemma byteLength_pos {t : Text} (h : t ≠ []) : 0 < byteLength t :=
  Nat.pos_of_ne_zero (mt byteLength_eq_zero.mp h)

@[simp] lemma takeBytes_append (u v : Text) : takeBytes (byteLength u) (u ++ v) = u := by
  induction u with
  | nil => cases v <;> simp [takeBytes]
  | cons c u ih =>
    have := c.utf8Size_pos
    have hne : ¬ (c.utf8Size = 0 ∧ byteLength u = 0) := by omega
    simp [takeBytes, hne, ih]

@[simp] lemma dropBytes_append (u v : Text) : dropBytes (byteLength u) (u ++ v) = v := by
  have h := takeBytes_append_dropBytes (byteLength u) (u ++ v)
  rw [takeBytes_append] at h
  exact List.append_cancel_left h

lemma slice_append (u w v : Text) :
    slice (byteLength u) (byteLength (u ++ w)) (u ++ (w ++ v)) = w := by
  unfold slice
  rw [dropBytes_append, byteLength_append, Nat.add_sub_cancel_left, takeBytes_append]

/-- Of two prefixes of a text, the one with no more bytes than the other is a prefix of it. -/
lemma prefix_of_byteLength_le {u u' t : Text} (h : u <+: t) (h' : u' <+: t)
    (hle : byteLength u ≤ byteLength u') : u <+: u' := by
  rcases List.prefix_or_prefix_of_prefix h h' with hp | ⟨w, rfl⟩
  · exact hp
  · have hw : byteLength w = 0 := by
      rw [byteLength_append] at hle
      omega
    obtain rfl := byteLength_eq_zero.mp hw
    simp

end Text

end CodePad
