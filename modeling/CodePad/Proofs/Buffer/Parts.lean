import CodePad.Proofs.Buffer.Flat

/-!
A text put in at once or part by part. On the way each part is highlighted, and what it starts, such
as a quote that is still open, may change the runs of the whole document; but the next pass makes
these anew. So nothing of the buffer tells in how many parts the text came.
-/

namespace CodePad

namespace FlatBuffer

lemma start_insert (f : FlatBuffer) (t : Text) : (f.insert t).start = f.start + t.length :=
  Nat.min_self _

lemma stop_insert (f : FlatBuffer) (t : Text) : (f.insert t).stop = f.start + t.length :=
  Nat.max_self _

lemma insert_append {f : FlatBuffer} (h : f.start ≤ f.text.length) (s t : Text) :
    f.insert (s ++ t) = (f.insert s).insert t := by
  have hfront : (f.text.take f.start ++ s).length = f.start + s.length := by
    rw [List.length_append, List.length_take, Nat.min_eq_left h]
  have htake : (f.insert s).text.take (f.start + s.length) = f.text.take f.start ++ s := by
    rw [← hfront]
    exact List.take_left
  have hdrop : (f.insert s).text.drop (f.start + s.length) = f.text.drop f.stop := by
    rw [← hfront]
    exact List.drop_left
  rw [insert, insert, start_insert, stop_insert, htake, hdrop, List.length_append,
    Nat.add_assoc, ← List.append_assoc]

end FlatBuffer

namespace Buffer

variable (b : Buffer)

/-- The buffer with another text and selection, highlighted afresh. The selection begins at its
start. -/
def afresh (f : FlatBuffer) : Buffer :=
  let new := b.highlighter.highlight f.text
  { b with
    document := new.document
    tokens := new.tokens
    selection := some (.ofRange new.document ⟨f.start, f.stop⟩)
    goal := f.goal }

section

variable {b} (hb : b.HasCaret)

include hb

/-- A pass leaves nothing of the runs that were there before. -/
lemma highlight_eq : b.highlight = b.afresh b.flat := by
  rw [highlight, Highlighter.pass, ← range, range_eq hb]
  rfl

lemma insert_eq (t : Text) : b.insert t = b.afresh (b.flat.insert t) := by
  simp only [insert, range_eq hb]
  rw [highlight_eq (b.hasCaret_replace ..),
    b.flat_replace _ _ t b.flat_start_le_stop b.flat_start_le]
  rfl

end

lemma insert_of_not_hasCaret (h : ¬ b.HasCaret) (t : Text) : b.insert t = b := by
  simp only [insert, range_eq_none h]

lemma insert_append (s t : Text) : b.insert (s ++ t) = (b.insert s).insert t := by
  by_cases h : b.HasCaret
  · have hs : (b.insert s).HasCaret := h.apply (.insert s)
    rw [insert_eq h, FlatBuffer.insert_append b.flat_start_le, insert_eq hs, flat_insert h,
      insert_eq h]
    rfl
  · rw [b.insert_of_not_hasCaret h, b.insert_of_not_hasCaret h, b.insert_of_not_hasCaret h]

lemma run_map_insert (part : Text) (parts : List Text) :
    b.run ((part :: parts).map .insert) = b.insert (part :: parts).flatten := by
  induction parts generalizing b part with
  | nil =>
    rw [List.flatten_singleton]
    rfl
  | cons next parts ih =>
    rw [List.flatten_cons, insert_append, List.map_cons, run_cons]
    exact ih (b.insert part) next

lemma run_map_insertChar (t : Text) :
    b.run (t.map .insertChar) = b.run ((t.map fun c => [c]).map .insert) := by
  rw [run, run, List.foldl_map, List.foldl_map, List.foldl_map]
  rfl

/-- **Pasting equals typing.** A buffer into which a text is put at once is the one into which its
parts are put one after another, be they two, any number or the single characters: it has the same
runs, tokens and selection and aims at the same column. -/
theorem insert_parts (s t : Text) (c : Char) (part : Text) (parts : List Text) :
    b.insert (s ++ t) = (b.insert s).insert t ∧
      b.run ((part :: parts).map .insert) = b.insert (part :: parts).flatten ∧
      b.run ((c :: t).map .insertChar) = b.insert (c :: t) := by
  refine ⟨b.insert_append s t, b.run_map_insert part parts, ?_⟩
  have hchars : (([c] :: t.map fun c => [c]) : List Text).flatten = c :: t := by
    rw [List.flatten_cons, List.singleton_append, ← List.flatMap_def, List.flatMap_singleton']
  rw [run_map_insertChar, List.map_cons, run_map_insert, hchars]

end Buffer

end CodePad
