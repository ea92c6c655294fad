import CodePad.Proofs.Text.Bytes

/-!
Characters and their bytes. The character at an offset takes the bytes from its own byte offset up
to that of the next character. These offsets are the boundaries of the text; a stretch of bytes is
a text only if it begins and ends at boundaries.
-/

namespace CodePad

namespace Text

/-- The byte offset of the character at an offset; past the end, that of the end. -/
def byteAt (t : Text) (i : Nat) : Nat := byteLength (t.take i)

/-- A byte offset at which a character begins or the text ends. -/
def IsBoundary (t : Text) (k : Nat) : Prop := ∃ i ≤ t.length, t.byteAt i = k

instance (t : Text) : DecidablePred t.IsBoundary := fun k =>
  inferInstanceAs (Decidable (∃ i ≤ t.length, t.byteAt i = k))

/-- The bytes from `start` up to `stop`, if there are such bytes and no character is cut. -/
def slice? (start stop : Nat) (t : Text) : Option Text :=
  if start ≤ stop ∧ t.IsBoundary start ∧ t.IsBoundary stop then some (t.slice start stop) else none

lemma byteAt_append (u v : Text) : (u ++ v).byteAt u.length = byteLength u := by
  rw [byteAt, List.take_left]

lemma isBoundary_append (u v : Text) : (u ++ v).IsBoundary (byteLength u) :=
  ⟨u.length, by simp, byteAt_append u v⟩

/-- A character takes at least one byte. -/
lemma byteAt_lt_byteAt {t : Text} {i j : Nat} (hij : i < j) (hj : j ≤ t.length) :
    t.byteAt i < t.byteAt j := by
  have htake := List.take_append_drop i (t.take j)
  rw [List.take_take, Nat.min_eq_left (Nat.le_of_lt hij)] at htake
  have hne : (t.take j).drop i ≠ [] := by
    rw [Ne, List.drop_eq_nil_iff, List.length_take]
    omega
  have hpos := byteLength_pos hne
  rw [byteAt, byteAt, ← htake, byteLength_append]
  omega

lemma byteAt_le_byteAt_iff {t : Text} {i j : Nat} (hi : i ≤ t.length) (hj : j ≤ t.length) :
    t.byteAt i ≤ t.byteAt j ↔ i ≤ j := by
  constructor
  · intro h
    by_contra hlt
    have := byteAt_lt_byteAt (Nat.lt_of_not_le hlt) hi
    omega
  · intro h
    rcases Nat.eq_or_lt_of_le h with rfl | h
    · exact Nat.le_refl _
    · exact Nat.le_of_lt (byteAt_lt_byteAt h hj)

lemma slice?_append (u w v : Text) :
    slice? (byteLength u) (byteLength (u ++ w)) (u ++ (w ++ v)) = some w := by
  have hstop : (u ++ (w ++ v)).IsBoundary (byteLength (u ++ w)) := by
    rw [← List.append_assoc]
    exact isBoundary_append (u ++ w) v
  have hle : byteLength u ≤ byteLength (u ++ w) := by
    rw [byteLength_append]
    omega
  rw [slice?, if_pos ⟨hle, isBoundary_append u (w ++ v), hstop⟩, slice_append]

lemma slice?_take (t : Text) (k : Nat) : t.slice? 0 (t.byteAt k) = some (t.take k) := by
  have h := slice?_append [] (t.take k) (t.drop k)
  rwa [List.nil_append, List.nil_append, List.take_append_drop] at h

lemma slice?_drop (t : Text) (k : Nat) :
    t.slice? (t.byteAt k) t.byteLength = some (t.drop k) := by
  have h := slice?_append (t.take k) (t.drop k) []
  rwa [List.append_nil, List.take_append_drop] at h

end Text

end CodePad
